import Gateway.Proofs.Registry.Isolation

namespace Gateway

/-! Probe loops and the registry. The registry keeps one loop for a cluster whose active
checks are enabled; that loop runs and waits for one alarm, and no other loop of any
incarnation does. -/

def Cluster.withoutLoops (cluster : Cluster) : Cluster :=
  { cluster with loops := [] }

namespace Router

variable {policies : Policies} {router : Router} {id : String} {ref : ClusterRef}

def loop? (router : Router) (ref : ClusterRef) (loop : Nat) : Option ProbeLoop :=
  (router.cluster? ref).bind (fun cluster => cluster.loops[loop]?)

/-- A loop runs from its start on, until it is stopped. -/
def Runs (router : Router) (ref : ClusterRef) (loop : Nat) : Prop :=
  router.loop? ref loop = some { cancelled := false }

def alarmsOf (router : Router) (ref : ClusterRef) (loop : Nat) : List Alarm :=
  router.agenda.filter (belongsToLoop ref loop)

theorem belongsToLoop_iff (ref : ClusterRef) (loop : Nat) (alarm : Alarm) :
    belongsToLoop ref loop alarm = true ↔
      alarm.cluster = ref ∧ alarm.wakeup.loop? = some loop := by
  rw [belongsToLoop, Bool.and_eq_true, beq_iff_eq, beq_iff_eq]

/-! Loops come and go, and nothing else of a cluster changes then. -/

structure SameButLoops (before after : Router) : Prop where
  registered : after.registered = before.registered
  clusters : ∀ ref, (after.cluster? ref).map Cluster.withoutLoops =
    (before.cluster? ref).map Cluster.withoutLoops

namespace SameButLoops

variable {before middle after : Router}

theorem refl (router : Router) : SameButLoops router router :=
  ⟨rfl, fun _ => rfl⟩

theorem trans (first : SameButLoops before middle) (last : SameButLoops middle after) :
    SameButLoops before after where
  registered := last.registered.trans first.registered
  clusters := fun ref => (last.clusters ref).trans (first.clusters ref)

theorem registeredRef? (same : SameButLoops before after) (id : String) :
    after.registeredRef? id = before.registeredRef? id := by
  rw [Router.registeredRef?, same.registered]
  rfl

theorem cluster? (same : SameButLoops before after) {cluster : Cluster}
    (present : after.cluster? ref = some cluster) :
    ∃ former, before.cluster? ref = some former ∧
      cluster.withoutLoops = former.withoutLoops := by
  have clusters := same.clusters ref
  rw [present] at clusters
  rcases Option.map_eq_some_iff.1 clusters.symm with ⟨former, there, equal⟩
  exact ⟨former, there, equal.symm⟩

theorem view (same : SameButLoops before after) {α : Type} (view : Cluster → α)
    (blind : ∀ cluster, view cluster.withoutLoops = view cluster) (ref : ClusterRef) :
    (after.cluster? ref).map view = (before.cluster? ref).map view := by
  have clusters := congrArg (Option.map view) (same.clusters ref)
  rw [Option.map_map, Option.map_map] at clusters
  have here : view ∘ Cluster.withoutLoops = view := funext blind
  rwa [here] at clusters

theorem setCluster {former cluster : Cluster}
    (present : router.cluster? ref = some former)
    (kept : cluster.withoutLoops = former.withoutLoops) :
    SameButLoops router (router.setCluster ref cluster) := by
  refine ⟨rfl, fun other => ?_⟩
  rw [cluster?_setCluster present]
  split
  · rename_i here
    rw [here, present]
    exact congrArg some kept
  · rfl

end SameButLoops

/-! Stopping a loop. -/

theorem value_cancelLoop {loop : Nat} (runs : router.Runs ref loop) :
    (router.cancelLoop ref loop).value =
      (router.mapCluster ref (fun cluster =>
        { cluster with
          loops := cluster.loops.set loop { cancelled := true } })).dropAlarms
        (belongsToLoop ref loop) := by
  unfold cancelLoop
  split
  · rfl
  · rename_i idle
    exact absurd runs idle

theorem value_cancelLoop_of_idle {loop : Nat} (idle : ¬ router.Runs ref loop) :
    (router.cancelLoop ref loop).value = router := by
  unfold cancelLoop
  split
  · rename_i runs
    exact absurd runs idle
  · rfl

private theorem sameButLoops_cancelLoop (router : Router) (ref : ClusterRef)
    (loop : Nat) :
    SameButLoops router (router.cancelLoop ref loop).value := by
  by_cases runs : router.Runs ref loop
  · refine ⟨registered_cancelLoop router ref loop, fun other => ?_⟩
    rw [value_cancelLoop runs]
    refine (congrArg (Option.map Cluster.withoutLoops)
      (cluster?_mapCluster router ref _ other)).trans ?_
    split
    · rename_i here
      rw [here, Option.map_map]
      rfl
    · rfl
  · rw [value_cancelLoop_of_idle runs]
    exact .refl router

theorem sameButLoops_cancelLoops (router : Router) (ref : ClusterRef) :
    SameButLoops router (router.cancelLoops ref).value :=
  Traced.fold_related SameButLoops .refl (fun first last => first.trans last)
    (fun router loop => sameButLoops_cancelLoop router ref loop) router _

theorem loop?_cancelLoop {loop : Nat} (runs : router.Runs ref loop) (other : ClusterRef)
    (number : Nat) :
    (router.cancelLoop ref loop).value.loop? other number =
      if other = ref ∧ number = loop then some { cancelled := true }
      else router.loop? other number := by
  rcases Option.bind_eq_some_iff.1 runs with ⟨cluster, present, running⟩
  have bound := (List.getElem?_eq_some_iff.1 running).1
  have changed := cluster?_mapCluster router ref
    (fun cluster =>
      { cluster with loops := cluster.loops.set loop { cancelled := true } }) other
  rw [value_cancelLoop runs]
  refine (congrArg (Option.bind · (fun cluster => cluster.loops[number]?)) changed).trans
    ?_
  by_cases here : other = ref
  · subst here
    by_cases same : number = loop
    · subst same
      simp [present, bound]
    · simp [loop?, present, same, List.getElem?_set_ne (Ne.symm same)]
  · simp [loop?, here]

theorem runs_cancelLoop_iff (router : Router) (ref : ClusterRef) (loop : Nat)
    (other : ClusterRef) (number : Nat) :
    (router.cancelLoop ref loop).value.Runs other number ↔
      router.Runs other number ∧ ¬ (other = ref ∧ number = loop) := by
  by_cases runs : router.Runs ref loop
  · rw [Runs, loop?_cancelLoop runs]
    by_cases here : other = ref ∧ number = loop
    · simp [here]
    · simp [here, Runs]
  · rw [value_cancelLoop_of_idle runs]
    refine ⟨fun running => ⟨running, ?_⟩, And.left⟩
    rintro ⟨rfl, rfl⟩
    exact runs running

theorem mem_agenda_cancelLoop {loop : Nat} {alarm : Alarm}
    (pending : alarm ∈ (router.cancelLoop ref loop).value.agenda) :
    alarm ∈ router.agenda := by
  by_cases runs : router.Runs ref loop
  · rcases mapCluster_fields router ref (fun cluster =>
      { cluster with loops := cluster.loops.set loop { cancelled := true } }) with
      ⟨clusters, same⟩
    rw [value_cancelLoop runs, same] at pending
    exact (List.mem_filter.1 pending).1
  · rwa [value_cancelLoop_of_idle runs] at pending

private theorem alarmsOf_cancelLoop {loop : Nat} (runs : router.Runs ref loop)
    (other : ClusterRef) (number : Nat) :
    (router.cancelLoop ref loop).value.alarmsOf other number =
      if other = ref ∧ number = loop then [] else router.alarmsOf other number := by
  rcases mapCluster_fields router ref (fun cluster =>
    { cluster with loops := cluster.loops.set loop { cancelled := true } }) with
      ⟨clusters, same⟩
  rw [value_cancelLoop runs, same]
  simp only [alarmsOf, dropAlarms, List.filter_filter]
  split
  · rename_i here
    rw [here.1, here.2, List.filter_eq_nil_iff]
    intro alarm _ both
    cases belongs : belongsToLoop ref loop alarm <;> simp [belongs] at both
  · rename_i away
    apply List.filter_congr
    intro alarm _
    cases belongs : belongsToLoop other number alarm with
    | false => rfl
    | true =>
        have apart : belongsToLoop ref loop alarm = false := by
          apply eq_false_of_ne_true
          intro also
          rcases (belongsToLoop_iff _ _ _).1 belongs with ⟨cluster, wakeup⟩
          rcases (belongsToLoop_iff _ _ _).1 also with ⟨sameCluster, sameWakeup⟩
          rw [wakeup, Option.some.injEq] at sameWakeup
          exact away ⟨cluster.symm.trans sameCluster, sameWakeup⟩
        rw [apart]
        rfl

/-! The loops and the registry of one id. -/

/-- Two states of a gateway with the same loops under an id, which wait for the same
alarms. -/
structure SameLoops (id : String) (before after : Router) : Prop where
  probing : after.probing.get? id = before.probing.get? id
  loops : ∀ ref loop, ref.id = id → after.loop? ref loop = before.loop? ref loop
  alarms : ∀ ref loop, ref.id = id → after.alarmsOf ref loop = before.alarmsOf ref loop

theorem SameLoops.trans {before middle after : Router}
    (first : SameLoops id before middle) (last : SameLoops id middle after) :
    SameLoops id before after where
  probing := last.probing.trans first.probing
  loops := fun ref loop here =>
    (last.loops ref loop here).trans (first.loops ref loop here)
  alarms := fun ref loop here =>
    (last.alarms ref loop here).trans (first.alarms ref loop here)

/-- The registry and the loops of an id agree: what runs is the loop that the registry
keeps for the registered cluster. It waits for one alarm, and no other loop for any. -/
structure Looped (router : Router) (id : String) : Prop where
  sole : ∀ ref loop, ref.id = id → router.Runs ref loop →
    router.registeredRef? id = some ref ∧ router.probing.get? id = some loop
  kept : ∀ loop, router.probing.get? id = some loop →
    router.background = true ∧ ∃ ref,
      router.registeredRef? id = some ref ∧ router.Runs ref loop
  waiting : ∀ ref loop, ref.id = id → router.Runs ref loop →
    ∃ alarm, router.alarmsOf ref loop = [alarm]
  idle : ∀ ref loop, ref.id = id → ¬ router.Runs ref loop → router.alarmsOf ref loop = []

theorem Looped.unique (looped : router.Looped id) {other : ClusterRef} {loop number : Nat}
    (here : ref.id = id) (running : router.Runs ref loop) (alsoHere : other.id = id)
    (alsoRunning : router.Runs other number) : other = ref ∧ number = loop := by
  rcases looped.sole ref loop here running with ⟨named, kept⟩
  rcases looped.sole other number alsoHere alsoRunning with ⟨alsoNamed, alsoKept⟩
  rw [named, Option.some.injEq] at alsoNamed
  rw [kept, Option.some.injEq] at alsoKept
  exact ⟨alsoNamed.symm, alsoKept.symm⟩

theorem Looped.not_runs (looped : router.Looped id)
    (unprobed : router.probing.get? id = none) (here : ref.id = id) (loop : Nat) :
    ¬ router.Runs ref loop := by
  intro runs
  have kept := (looped.sole ref loop here runs).2
  rw [unprobed] at kept
  cases kept

theorem looped_of_nothing (unprobed : router.probing.get? id = none)
    (still : ∀ ref loop, ref.id = id → ¬ router.Runs ref loop)
    (silent : ∀ ref loop, ref.id = id → router.alarmsOf ref loop = []) :
    router.Looped id where
  sole := fun ref loop here runs => absurd runs (still ref loop here)
  kept := by
    intro loop kept
    rw [unprobed] at kept
    cases kept
  waiting := fun ref loop here runs => absurd runs (still ref loop here)
  idle := fun ref loop here _ => silent ref loop here

theorem looped_fresh (policies : Policies) (background : Bool) (id : String) :
    Looped { policies, background } id :=
  looped_of_nothing rfl (fun _ _ _ runs => by cases runs) fun _ _ _ => rfl

theorem Looped.congr {after : Router} (looped : router.Looped id)
    (background : after.background = router.background)
    (registered : after.registeredRef? id = router.registeredRef? id)
    (same : SameLoops id router after) : after.Looped id where
  sole := by
    intro ref loop here runs
    rw [Runs, same.loops ref loop here] at runs
    rw [registered, same.probing]
    exact looped.sole ref loop here runs
  kept := by
    intro loop kept
    rw [same.probing] at kept
    rcases looped.kept loop kept with ⟨able, ref, named, runs⟩
    refine ⟨background.trans able, ref, registered.trans named, ?_⟩
    rwa [Runs, same.loops ref loop (id_of_registeredRef? named)]
  waiting := by
    intro ref loop here runs
    rw [Runs, same.loops ref loop here] at runs
    rw [same.alarms ref loop here]
    exact looped.waiting ref loop here runs
  idle := by
    intro ref loop here idle
    rw [Runs, same.loops ref loop here] at idle
    rw [same.alarms ref loop here]
    exact looped.idle ref loop here idle

theorem Untouched.sameLoops {before after : Router}
    (untouched : Untouched id before after) :
    SameLoops id before after where
  probing := untouched.probing
  loops := by
    intro ref loop here
    rw [Router.loop?, untouched.cluster? here]
    rfl
  alarms := by
    intro ref loop here
    have own : ∀ agenda : List Alarm, agenda.filter (belongsToLoop ref loop) =
        (agenda.filter (fun alarm => alarm.cluster.id == id)).filter
          (belongsToLoop ref loop) := by
      intro agenda
      rw [List.filter_filter]
      apply List.filter_congr
      intro alarm _
      cases belongs : belongsToLoop ref loop alarm with
      | false => rfl
      | true =>
          have cluster := ((belongsToLoop_iff _ _ _).1 belongs).1
          simp [cluster, here]
    rw [Router.alarmsOf, own, untouched.agenda, ← own]
    rfl

theorem Looped.untouched {after : Router} (looped : router.Looped id)
    (untouched : Untouched id router after)
    (background : after.background = router.background) :
    after.Looped id :=
  looped.congr background untouched.registeredRef? untouched.sameLoops

/-! Stopping and starting the loop of a registered cluster. -/

theorem background_stopProbing (router : Router) (ref : ClusterRef) :
    (router.stopProbing ref).value.background = router.background := by
  have moves : Moves router.policies router _ := moves_stopProbing router ref
  exact moves.frame.background

theorem sameButLoops_stopProbing (router : Router) (ref : ClusterRef) :
    SameButLoops router (router.stopProbing ref).value := by
  unfold stopProbing
  split
  · exact .refl router
  · rename_i loop _
    have stopped := sameButLoops_cancelLoop router ref loop
    exact ⟨stopped.registered, stopped.clusters⟩

theorem value_stopProbing_of_unprobed (unprobed : router.probing.get? ref.id = none) :
    (router.stopProbing ref).value = router := by
  simp only [stopProbing, unprobed, Traced.value_pure]

private theorem value_stopProbing {loop : Nat}
    (kept : router.probing.get? ref.id = some loop) :
    (router.stopProbing ref).value =
      { (router.cancelLoop ref loop).value with
        probing := (router.cancelLoop ref loop).value.probing.erase ref.id } := by
  simp only [stopProbing, kept, Traced.value_bind, Traced.value_pure]

/-- Once the loop of the registry is stopped, nothing runs under its id, and nothing is
waited for. The registration of the cluster does not matter any more then. -/
theorem Looped.silence (looped : router.Looped ref.id)
    (named : router.registeredRef? ref.id = some ref) (registered : Keyed Nat)
    (other : ClusterRef) (number : Nat) (here : other.id = ref.id) :
    ¬ (stopProbing { router with registered } ref).value.Runs other number ∧
      (stopProbing { router with registered } ref).value.alarmsOf other number = [] := by
  cases kept : router.probing.get? ref.id with
  | none =>
      have idle := looped.not_runs kept here number
      have same : (stopProbing { router with registered } ref).value =
          { router with registered } := value_stopProbing_of_unprobed kept
      rw [same]
      exact ⟨idle, looped.idle other number here idle⟩
  | some loop =>
      rcases looped.kept loop kept with ⟨-, current, alsoNamed, runs⟩
      rw [named, Option.some.injEq] at alsoNamed
      subst alsoNamed
      have sole : router.Runs other number → other = ref ∧ number = loop :=
        looped.unique rfl runs here
      have left : (stopProbing { router with registered } ref).value = _ :=
        value_stopProbing kept
      have still : Runs { router with registered } ref loop := runs
      rw [left]
      constructor
      · intro running
        have before :=
          (runs_cancelLoop_iff { router with registered } ref loop other number).1
          running
        exact before.2 (sole before.1)
      · refine (alarmsOf_cancelLoop still other number).trans ?_
        split
        · rfl
        · rename_i away
          exact looped.idle other number here fun running => away (sole running)

theorem Looped.stop (looped : router.Looped ref.id)
    (named : router.registeredRef? ref.id = some ref) :
    (router.stopProbing ref).value.Looped ref.id :=
  have silence := looped.silence named router.registered
  looped_of_nothing (probing_stopProbing router ref)
    (fun other number here => (silence other number here).1)
    fun other number here => (silence other number here).2

private theorem sameButLoops_spawnProbing (router : Router) (ref : ClusterRef) :
    SameButLoops router (router.spawnProbing ref).value.1 := by
  unfold spawnProbing
  split
  · split
    · exact .refl router
    · rename_i cluster present
      have looped : SameButLoops router (router.setCluster ref
          { cluster with loops := cluster.loops ++
            [{ cancelled := cluster.shutDown }] }) :=
        .setCluster present rfl
      dsimp only
      split
      · exact looped
      · exact ⟨looped.registered, looped.clusters⟩
  · exact .refl router

private theorem sameButLoops_startProbing (router : Router) (ref : ClusterRef) :
    SameButLoops router (router.startProbing ref).value := by
  have spawned := sameButLoops_spawnProbing router ref
  simp only [startProbing, Traced.value_bind]
  split
  · exact spawned
  · exact ⟨spawned.registered, spawned.clusters⟩

theorem value_startProbing_of_foreground (foreground : router.background = false)
    (ref : ClusterRef) : (router.startProbing ref).value = router := by
  simp [startProbing, spawnProbing, foreground]

def beginning (router : Router) (ref : ClusterRef) (loop : Nat) : Alarm :=
  { due := router.now, cluster := ref, wakeup := .beginProbing loop }

private theorem value_startProbing {cluster : Cluster}
    (background : router.background = true) (present : router.cluster? ref = some cluster)
    (working : cluster.shutDown = false) :
    (router.startProbing ref).value =
      { router.setCluster ref
          { cluster with loops := cluster.loops ++ [{ cancelled := false }] } with
        agenda := router.agenda ++ [router.beginning ref cluster.loops.length]
        probing := router.probing.insert ref.id cluster.loops.length } := by
  simp only [startProbing, spawnProbing, background, present, working, if_true,
    Bool.false_eq_true, if_false, Traced.value_bind, Traced.value_pure]
  rfl

theorem loop?_startProbing {cluster : Cluster} (background : router.background = true)
    (present : router.cluster? ref = some cluster) (working : cluster.shutDown = false)
    (other : ClusterRef) (number : Nat) :
    (router.startProbing ref).value.loop? other number =
      if other = ref ∧ number = cluster.loops.length then some { cancelled := false }
      else router.loop? other number := by
  rw [value_startProbing background present working]
  refine (congrArg (Option.bind · (fun cluster => cluster.loops[number]?))
    (cluster?_setCluster present _ other)).trans ?_
  by_cases here : other = ref
  · subst here
    rcases Nat.lt_trichotomy number cluster.loops.length with before | last | beyond
    · simp [loop?, present, List.getElem?_append_left before, Nat.ne_of_lt before]
    · subst last
      simp
    · have past : (cluster.loops ++ [({ cancelled := false } : ProbeLoop)])[number]? =
          none := by
        rw [List.getElem?_eq_none]
        rw [List.length_append, List.length_singleton]
        omega
      have absent : cluster.loops[number]? = none :=
        List.getElem?_eq_none (Nat.le_of_lt beyond)
      simp [loop?, present, past, absent, Nat.ne_of_gt beyond]
  · simp [loop?, here]

theorem alarmsOf_startProbing {cluster : Cluster} (background : router.background = true)
    (present : router.cluster? ref = some cluster) (working : cluster.shutDown = false)
    (other : ClusterRef) (number : Nat) :
    (router.startProbing ref).value.alarmsOf other number =
      if other = ref ∧ number = cluster.loops.length then
        router.alarmsOf other number ++ [router.beginning ref number]
      else router.alarmsOf other number := by
  rw [value_startProbing background present working]
  simp only [alarmsOf, List.filter_append]
  have belongs :=
    belongsToLoop_iff other number (router.beginning ref cluster.loops.length)
  split
  · rename_i here
    rcases here with ⟨rfl, rfl⟩
    rw [List.filter_cons, if_pos (belongs.2 ⟨rfl, rfl⟩), List.filter_nil]
  · rename_i away
    rw [List.filter_cons, if_neg, List.filter_nil, List.append_nil]
    intro own
    rcases belongs.1 own with ⟨cluster, wakeup⟩
    exact away ⟨cluster.symm, (Option.some.inj wakeup).symm⟩

theorem Looped.start (looped : router.Looped ref.id)
    (unprobed : router.probing.get? ref.id = none)
    (named : router.registeredRef? ref.id = some ref) {cluster : Cluster}
    (present : router.cluster? ref = some cluster) (working : cluster.shutDown = false) :
    (router.startProbing ref).value.Looped ref.id := by
  cases background : router.background with
  | false =>
      rw [value_startProbing_of_foreground background]
      exact looped
  | true =>
      have still : ∀ {other : ClusterRef}, other.id = ref.id → ∀ number,
          ¬ router.Runs other number := looped.not_runs unprobed
      have kept : (router.startProbing ref).value.probing.get? ref.id =
          some cluster.loops.length := by
        rw [value_startProbing background present working]
        simp
      have started : (router.startProbing ref).value.registeredRef? ref.id = some ref :=
        ((sameButLoops_startProbing router ref).registeredRef? ref.id).trans named
      have runs : ∀ other number, other.id = ref.id →
          ((router.startProbing ref).value.Runs other number ↔
            other = ref ∧ number = cluster.loops.length) := by
        intro other number here
        rw [Runs, loop?_startProbing background present working]
        split
        · rename_i new
          exact iff_of_true rfl new
        · rename_i old
          exact iff_of_false (still here number) old
      refine ⟨?_, ?_, ?_, ?_⟩
      · intro other number here running
        rcases (runs other number here).1 running with ⟨rfl, rfl⟩
        exact ⟨started, kept⟩
      · intro number alsoKept
        rw [kept, Option.some.injEq] at alsoKept
        refine ⟨?_, ref, started, (runs ref number rfl).2 ⟨rfl, alsoKept.symm⟩⟩
        rw [value_startProbing background present working]
        exact background
      · intro other number here running
        rcases (runs other number here).1 running with ⟨rfl, rfl⟩
        refine ⟨router.beginning other cluster.loops.length, ?_⟩
        rw [alarmsOf_startProbing background present working, if_pos ⟨rfl, rfl⟩,
          looped.idle other _ rfl (still rfl _), List.nil_append]
      · intro other number here idle
        rw [alarmsOf_startProbing background present working,
          if_neg fun new => idle ((runs other number here).2 new)]
        exact looped.idle other number here (still here number)

theorem sameButLoops_updateProbing (router : Router) (ref : ClusterRef)
    (model : ClusterModel) (previous : Option ClusterModel) :
    SameButLoops router (router.updateProbing ref model previous).value := by
  simp only [updateProbing]
  split
  · exact sameButLoops_stopProbing router ref
  · split
    · exact .refl router
    · exact (sameButLoops_stopProbing router ref).trans (sameButLoops_startProbing _ ref)

theorem Looped.update (looped : router.Looped ref.id)
    (named : router.registeredRef? ref.id = some ref) {cluster : Cluster}
    (present : router.cluster? ref = some cluster) (working : cluster.shutDown = false)
    (model : ClusterModel) (previous : Option ClusterModel) :
    (router.updateProbing ref model previous).value.Looped ref.id ∧
      (((router.updateProbing ref model previous).value.probing.get? ref.id).isSome =
        true ↔ router.background = true ∧ model.active.isSome = true) := by
  have stopped := looped.stop named
  have unprobed := probing_stopProbing router ref
  simp only [updateProbing]
  split
  · rename_i disabled
    refine ⟨stopped, ?_⟩
    rw [unprobed]
    simp [Option.isNone_iff_eq_none.1 disabled]
  · rename_i enabled
    have active : model.active.isSome = true := by
      simpa [Option.isSome_iff_ne_none] using enabled
    split
    · rename_i unchanged
      have contained := ((Bool.and_eq_true _ _).mp unchanged).2
      rcases (Keyed.mem_keys_iff _ _).1 ((Keyed.contains_iff _ _).1 contained) with
        ⟨loop, kept⟩
      refine ⟨looped, ?_⟩
      simp [Traced.value_pure, kept, active, (looped.kept loop kept).1]
    · have same := sameButLoops_stopProbing router ref
      have still := (same.registeredRef? ref.id).trans named
      have there := same.view Cluster.shutDown (fun _ => rfl) ref
      rw [present, Option.map_some] at there
      rcases Option.map_eq_some_iff.1 there with ⟨left, remaining, atWork⟩
      refine ⟨stopped.start unprobed still remaining (atWork.trans working), ?_⟩
      have background := background_stopProbing router ref
      cases able : router.background with
      | false =>
          rw [able] at background
          simp only [Traced.value_bind, value_startProbing_of_foreground background,
            unprobed]
          simp
      | true =>
          rw [able] at background
          simp only [Traced.value_bind,
            value_startProbing background remaining (atWork.trans working)]
          simp [active]

end Router

end Gateway
