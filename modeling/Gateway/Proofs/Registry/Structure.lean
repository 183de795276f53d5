import Gateway.Proofs.Cluster.Publication
import Gateway.Proofs.Probing.Beats
import Gateway.Proofs.Registry.Application

namespace Gateway

/-! The structure of the registry. What it holds under an id are parts that are written
one after the other: the registration, the cluster with its model and its records, and the
probe loop. In every state they fit together. -/

namespace Cluster

variable {before after : Cluster} {id : String}

structure Orderly (cluster : Cluster) (id : String) : Prop extends Enrolled cluster where
  own : cluster.id = id
  configured : cluster.model.config.id = id

theorem Orderly.outline (orderly : before.Orderly id)
    (same : after.outline = before.outline) :
    after.Orderly id where
  keys := by
    rw [current_of_outline same, model_of_outline same]
    exact orderly.keys
  record := by
    intro key number named
    rw [current_of_outline same] at named
    rcases orderly.record key number named with ⟨destination, stored, own, configured⟩
    rcases getElem?_of_outline same stored with ⟨other, found, sameId, sameConfig⟩
    rw [model_of_outline same]
    exact ⟨other, found, sameId.trans own, sameConfig ▸ configured⟩
  own := (id_of_outline same).trans orderly.own
  configured := by
    rw [model_of_outline same]
    exact orderly.configured

theorem Orderly.withoutLoops (orderly : before.Orderly id)
    (same : after.withoutLoops = before.withoutLoops) : after.Orderly id := by
  have model : after.model = before.model := (congrArg Cluster.model same :)
  have current : after.current = before.current := (congrArg Cluster.current same :)
  have records : after.records = before.records := (congrArg Cluster.records same :)
  refine ⟨⟨?_, ?_⟩, (congrArg Cluster.id same :).trans orderly.own, ?_⟩
  · rw [current, model]
    exact orderly.keys
  · rw [current, records, model]
    exact orderly.record
  · rw [model]
    exact orderly.configured

theorem loops_applyModel (cluster : Cluster) (model : ClusterModel) :
    (Router.applyModel cluster model).value.loops = cluster.loops := by
  simp only [Router.applyModel, reconcile]
  split <;> rfl

private theorem enrolled_applyModel {cluster : Cluster} (model : ClusterModel)
    (names : Names cluster.current cluster.records) :
    (Router.applyModel cluster model).value.Enrolled :=
  have enrolled := enrolled_of_configs model names
  ⟨enrolled.keys, enrolled.record⟩

private theorem orderly_applyModel {cluster : Cluster} {model : ClusterModel}
    (names : Names cluster.current cluster.records) (own : cluster.id = model.config.id) :
    (Router.applyModel cluster model).value.Orderly model.config.id where
  toEnrolled := enrolled_applyModel model names
  own := (Router.id_applyModel cluster model).trans own
  configured := by rw [model_applyModel]

end Cluster

namespace Router

variable {policies : Policies} {router before after : Router} {id : String}
  {ref : ClusterRef}

structure Entered (router : Router) (id : String) : Prop where
  orderly : ∀ ref cluster, router.registered? id = some (ref, cluster) →
    cluster.Orderly id
  probed : ∀ ref cluster, router.registered? id = some (ref, cluster) →
    ((router.probing.get? id).isSome = true ↔
      router.background = true ∧ cluster.model.active.isSome = true)

private theorem entered_of_unregistered (nobody : router.registered? id = none) :
    router.Entered id := by
  constructor
  all_goals
    intro ref cluster found
    rw [nobody] at found
    cases found

theorem Entered.sameOutline (entered : before.Entered id)
    (same : SameOutline before after) :
    after.Entered id := by
  have former : ∀ ref cluster, after.registered? id = some (ref, cluster) →
      ∃ former,
        before.registered? id = some (ref, former) ∧
        cluster.outline = former.outline := by
    intro ref cluster found
    rcases registered?_iff.1 found with ⟨named, present⟩
    rcases same.cluster? present with ⟨former, there, alike⟩
    exact ⟨former, registered?_iff.2 ⟨(same.registeredRef? id) ▸ named, there⟩, alike⟩
  constructor
  · intro ref cluster found
    rcases former ref cluster found with ⟨former, there, alike⟩
    exact (entered.orderly ref former there).outline alike
  · intro ref cluster found
    rcases former ref cluster found with ⟨former, there, alike⟩
    rw [same.probing, same.background, Cluster.model_of_outline alike]
    exact entered.probed ref former there

theorem Entered.untouched (entered : before.Entered id)
    (untouched : Untouched id before after)
    (background : after.background = before.background) : after.Entered id := by
  constructor
  · intro ref cluster found
    rw [untouched.registered?] at found
    exact entered.orderly ref cluster found
  · intro ref cluster found
    rw [untouched.registered?] at found
    rw [untouched.probing, background]
    exact entered.probed ref cluster found

/-- All parts of the state fit together under an id. -/
structure Orderly (router : Router) (id : String) : Prop extends Looped router id,
    Entered router id

theorem Orderly.untouched (orderly : before.Orderly id)
    (untouched : Untouched id before after)
    (background : after.background = before.background) : after.Orderly id :=
  ⟨orderly.toLooped.untouched untouched background,
    orderly.toEntered.untouched untouched background⟩

/-! Configuring. -/

private theorem loop?_setCluster {former cluster : Cluster}
    (present : router.cluster? ref = some former)
    (loops : cluster.loops = former.loops) (other : ClusterRef) (loop : Nat) :
    (router.setCluster ref cluster).loop? other loop = router.loop? other loop := by
  rw [loop?, cluster?_setCluster present]
  split
  · rename_i here
    rw [here, loop?, present, Option.bind_some, Option.bind_some, loops]
  · rfl

private theorem background_updateProbing (router : Router) (ref : ClusterRef)
    (model : ClusterModel) (previous : Option ClusterModel) :
    (router.updateProbing ref model previous).value.background = router.background := by
  have moves : Moves router.policies router _ :=
    moves_updateProbing router ref model previous
  exact moves.frame.background

theorem Looped.enter (looped : router.Looped ref.id)
    (named : router.registeredRef? ref.id = some ref) {cluster : Cluster}
    (present : router.cluster? ref = some cluster) (working : cluster.shutDown = false)
    (orderly : cluster.Orderly ref.id) {model : ClusterModel}
    (own : cluster.model = model) (previous : Option ClusterModel) :
    (router.updateProbing ref model previous).value.Orderly ref.id := by
  have same := sameButLoops_updateProbing router ref model previous
  rcases looped.update named present working model previous with ⟨updated, probed⟩
  have former : ∀ other found,
      (router.updateProbing ref model previous).value.registered? ref.id =
        some (other, found) →
        found.withoutLoops = cluster.withoutLoops := by
    intro other found there
    rcases registered?_iff.1 there with ⟨alsoNamed, there⟩
    rw [same.registeredRef?, named, Option.some.injEq] at alsoNamed
    subst alsoNamed
    rcases same.cluster? there with ⟨former, before, alike⟩
    rw [present, Option.some.injEq] at before
    rw [before]
    exact alike
  refine ⟨updated, fun other found there => ?_, fun other found there => ?_⟩
  · exact orderly.withoutLoops (former other found there)
  · have kept : found.model = model :=
      (congrArg Cluster.model (former other found there)).trans own
    rw [background_updateProbing, kept]
    exact probed

/-- A model on its cluster, before the probe loops are brought in line with it. They are
those of the model that was there before, if there was one. -/
structure Installed (before middle : Router) (ref : ClusterRef) (cluster : Cluster)
    (model : ClusterModel) : Prop where
  background : middle.background = before.background
  now : middle.now = before.now
  named : middle.registeredRef? ref.id = some ref
  present : middle.cluster? ref = some cluster
  working : cluster.shutDown = false
  orderly : cluster.Orderly ref.id
  model : cluster.model = model
  same : SameLoops ref.id before middle
  looped : middle.Looped ref.id

private theorem installed_setCluster (known : Known policies router) {former : Cluster}
    {model : ClusterModel} (orderly : router.Orderly model.config.id)
    (found : router.registered? model.config.id = some (ref, former)) :
    Installed router (router.setCluster ref (applyModel former model).value) ref
      (applyModel former model).value model := by
  rcases registered?_iff.1 found with ⟨named, present⟩
  have here := id_of_registeredRef? named
  have before := orderly.orderly ref former found
  rw [← here] at named orderly
  rcases known.registered ref.id ref named with ⟨other, there, working⟩
  rw [present, Option.some.injEq] at there
  subst there
  have same :
      SameLoops ref.id router (router.setCluster ref (applyModel former model).value) :=
    ⟨rfl, fun other loop _ =>
      loop?_setCluster present (Cluster.loops_applyModel former model)
      other loop, fun _ _ _ => rfl⟩
  exact
    { background := rfl
      now := rfl
      named := named
      present := (cluster?_setCluster present _ ref).trans (if_pos rfl)
      working := (Cluster.shutDown_applyModel former model).trans working
      orderly := here ▸ Cluster.orderly_applyModel before.names before.own
      model := Cluster.model_applyModel former model
      same
      looped := orderly.toLooped.congr rfl rfl same }

private theorem installed_addCluster (known : Known policies router)
    {model : ClusterModel} (orderly : router.Orderly model.config.id)
    (nobody : router.registered? model.config.id = none) :
    let added := router.addCluster (applyModel (.ofModel model) model).value
    added.2.id = model.config.id ∧
      Installed router added.1 added.2 (applyModel (.ofModel model) model).value
        model := by
  intro added
  have unnamed : router.registeredRef? model.config.id = none := by
    cases named : router.registeredRef? model.config.id with
    | none => rfl
    | some ref =>
        rcases known.registered _ ref named with ⟨cluster, present, -⟩
        rw [registered?_iff.2 ⟨named, present⟩] at nobody
        cases nobody
  have nameless :
      Cluster.Names (Cluster.ofModel model).current (Cluster.ofModel model).records :=
    nofun
  have entered : (applyModel (.ofModel model) model).value.Orderly model.config.id :=
    Cluster.orderly_applyModel nameless rfl
  have idle : (applyModel (.ofModel model) model).value.loops = [] :=
    Cluster.loops_applyModel (.ofModel model) model
  have own : added.2.id = model.config.id := entered.own
  rw [← own] at orderly unnamed entered
  have unprobed : router.probing.get? added.2.id = none := by
    cases kept : router.probing.get? added.2.id with
    | none => rfl
    | some loop =>
        rcases orderly.toLooped.kept loop kept with ⟨-, ref, named, -⟩
        rw [unnamed] at named
        cases named
  have same : SameLoops added.2.id router added.1 := by
    refine ⟨rfl, fun ref loop _ => ?_, fun _ _ _ => rfl⟩
    rw [loop?, cluster?_addCluster]
    split
    · rename_i new
      rw [new, loop?, cluster?_added_eq_none, Option.bind_some, idle]
      rfl
    · rfl
  have still : ∀ ref loop, ref.id = added.2.id → ¬ added.1.Runs ref loop := by
    intro ref loop here
    rw [Runs, same.loops ref loop here]
    exact orderly.toLooped.not_runs unprobed here loop
  refine ⟨own, ?_⟩
  exact
    { background := rfl
      now := rfl
      named := by
        rw [registeredRef?_addCluster]
        exact if_pos rfl
      present := (cluster?_addCluster router _ _).trans (if_pos rfl)
      working := Cluster.shutDown_applyModel (.ofModel model) model
      orderly := entered
      model := Cluster.model_applyModel (.ofModel model) model
      same
      looped := looped_of_nothing unprobed still fun ref loop here =>
        orderly.toLooped.idle ref loop here
          (orderly.toLooped.not_runs unprobed here loop) }

theorem install_eq_updateProbing (known : Known policies router) {model : ClusterModel}
    (orderly : router.Orderly model.config.id) :
    ∃ middle ref cluster,
      ref.id = model.config.id ∧ Installed router middle ref cluster model ∧
      (router.install model).value = (middle.updateProbing ref model
        ((router.registered? model.config.id).map (fun found =>
          found.2.model))).value := by
  cases found : router.registered? model.config.id with
  | some former =>
      rcases former with ⟨ref, former⟩
      refine ⟨_, ref, _, id_of_registeredRef? (registered?_iff.1 found).1,
        installed_setCluster known orderly found, ?_⟩
      simp only [install, found, Traced.value_bind]
      rfl
  | none =>
      rcases installed_addCluster known orderly found with ⟨own, installed⟩
      refine ⟨_, _, _, own, installed, ?_⟩
      simp only [install, found, Traced.value_bind]
      rfl

theorem Orderly.install (known : Known policies router) {model : ClusterModel}
    (orderly : router.Orderly model.config.id) :
    (router.install model).value.Orderly model.config.id := by
  rcases install_eq_updateProbing known orderly with
    ⟨middle, ref, cluster, own, installed, same⟩
  rw [same, ← own]
  exact installed.looped.enter installed.named installed.present installed.working
    installed.orderly installed.model _

theorem Orderly.configure (known : Known policies router) (orderly : router.Orderly id)
    (config : ClusterConfig) : (router.configure config).value.1.Orderly id := by
  have moves := moves_configure known config
  by_cases here : config.id = id
  · subst here
    unfold Router.configure
    split
    · exact orderly
    · rename_i model resolved
      rw [known.tables] at resolved
      have settings := (Policies.accepts_of_resolve resolved).settings
      rw [← settings] at orderly ⊢
      exact orderly.install known
  · exact orderly.untouched (untouched_configure known here) moves.frame.background

/-! Removing. -/

/-- Two states of a gateway in the second of which no loop runs and no alarm is pending
that was not so before. -/
structure Fewer (before after : Router) : Prop where
  runs : ∀ ref loop, after.Runs ref loop → before.Runs ref loop
  agenda : ∀ alarm ∈ after.agenda, alarm ∈ before.agenda

theorem Fewer.refl (router : Router) : Fewer router router :=
  ⟨fun _ _ runs => runs, fun _ pending => pending⟩

theorem Fewer.trans {middle : Router} (first : Fewer before middle)
    (last : Fewer middle after) :
    Fewer before after where
  runs := fun ref loop running => first.runs ref loop (last.runs ref loop running)
  agenda := fun alarm pending => first.agenda alarm (last.agenda alarm pending)

private theorem Fewer.alarmsOf_eq_nil (fewer : Fewer before after) {loop : Nat}
    (silent : before.alarmsOf ref loop = []) : after.alarmsOf ref loop = [] := by
  rw [alarmsOf, List.filter_eq_nil_iff] at silent ⊢
  exact fun alarm pending => silent alarm (fewer.agenda alarm pending)

theorem fewer_shutDown (router : Router) (ref : ClusterRef) :
    Fewer router (router.shutDown ref).value := by
  have cancelled : Fewer router (router.cancelLoops ref).value :=
    Traced.fold_related Fewer .refl (fun first last => first.trans last)
      (fun router loop =>
        ⟨fun other number runs => ((runs_cancelLoop_iff _ _ _ _ _).1 runs).1,
        fun _ => mem_agenda_cancelLoop⟩) router _
  refine cancelled.trans ⟨fun other loop runs => ?_, fun alarm pending => ?_⟩
  · rw [Runs, loop?, cluster?_shutDown] at runs
    split at runs
    · rename_i here
      rw [here, Runs, loop?]
      rw [Option.bind_map] at runs
      exact runs
    · exact runs
  · have same := sameAgenda_mapCluster (router.cancelLoops ref).value ref
      (fun cluster => { cluster with shutDown := true })
    rw [value_shutDown] at pending
    have left := (List.mem_filter.1 pending).1
    rwa [close, same.agenda] at left

theorem Orderly.remove (known : Known policies router) (orderly : router.Orderly id)
    (other : String) : (router.remove other).value.1.Orderly id := by
  have moves : Moves policies router _ := moves_remove router other
  by_cases here : other = id
  · subst here
    cases named : router.registeredRef? other with
    | none =>
        rw [remove_of_unnamed named]
        exact orderly
    | some ref =>
        rcases known.registered other ref named with ⟨cluster, present, -⟩
        have gone := gone_remove named (Option.isSome_of_eq_some present)
        have own := id_of_registeredRef? named
        subst own
        refine ⟨?_, entered_of_unregistered (registered?_of_unnamed gone.unregistered)⟩
        have silence := orderly.toLooped.silence named (router.registered.erase ref.id)
        have fewer := fewer_shutDown
          (stopProbing { router with registered := router.registered.erase ref.id }
            ref).value ref
        have value : (router.remove ref.id).value.1 =
            (shutDown (stopProbing { router with
              registered := router.registered.erase ref.id } ref).value ref).value := by
          simp only [Router.remove, named, Traced.value_bind, Traced.value_pure]
        refine looped_of_nothing gone.unprobed (fun current loop same runs => ?_)
          fun current loop same => ?_
        · rw [value] at runs
          exact (silence current loop same).1 (fewer.runs current loop runs)
        · rw [value]
          exact fewer.alarmsOf_eq_nil (silence current loop same).2
  · exact orderly.untouched (untouched_remove router here) moves.frame.background

/-! Every reachable state. -/

structure Sound (policies : Policies) (background : Bool) (router : Router) : Prop where
  known : Known policies router
  able : router.background = background
  orderly : ∀ id, router.Orderly id

theorem sound_fresh (policies : Policies) (background : Bool) :
    Sound policies background { policies, background } where
  known := known_fresh policies background
  able := rfl
  orderly := fun id => ⟨looped_fresh policies background id, entered_of_unregistered rfl⟩

namespace Sound

variable {background : Bool} (sound : Sound policies background router)

include sound

theorem looped (id : String) : router.Looped id :=
  (sound.orderly id).toLooped

theorem configure (config : ClusterConfig) :
    Sound policies background (router.configure config).value.1 :=
  have moves := moves_configure sound.known config
  { known := sound.known.moves moves
    able := moves.frame.background.trans sound.able
    orderly := fun id => (sound.orderly id).configure sound.known config }

theorem remove (id : String) : Sound policies background (router.remove id).value.1 :=
  have moves := moves_remove router id
  { known := sound.known.moves moves
    able := moves.frame.background.trans sound.able
    orderly := fun other => (sound.orderly other).remove sound.known id }

theorem configureAll (configs : List ClusterConfig) :
    Sound policies background (router.configureAll configs).1 := by
  refine Traced.fold_related
    (fun before after : Router × List ConfigurationFault =>
      Sound policies background before.1 → Sound policies background after.1)
    (fun _ => id) (fun first last sound => last (first sound))
    (fun state config sound => ?_)
    (router, []) configs sound
  have configured := sound.configure config
  simp only [configureEntry, Traced.value_bind]
  split <;> exact configured

theorem removeAll (ids : List String) :
    Sound policies background (router.removeAll ids) :=
  Traced.fold_related
    (fun before after : Router => Sound policies background before →
      Sound policies background after)
    (fun _ => id) (fun first last sound => last (first sound))
    (fun _ id sound => sound.remove id) router ids sound

theorem applySnapshot (configs : List ClusterConfig) :
    Sound policies background (router.applySnapshot configs).value.1 :=
  (sound.configureAll configs).removeAll _

end Sound

end Router

theorem Beats.sound {policies : Policies} {background : Bool} {start next : Scene}
    {works : List Work} (beats : Beats start works next)
    (sound : Router.Sound policies background start.router) :
    Router.Sound policies background next.router := by
  induction beats with
  | refl => exact sound
  | tail _ beat induction =>
      have same := beat.sameOutline
      exact
        { known := beat.known induction.known
          able := same.background.trans induction.able
          orderly := fun id =>
            ⟨beat.looped induction.looped id,
              (induction.orderly id).toEntered.sameOutline same⟩ }

namespace Scene

variable {policies : Policies} {background : Bool}

theorem sound_perform {scene : Scene}
    (sound : Router.Sound policies background scene.router)
    (operation : Operation) :
    Router.Sound policies background (scene.perform operation).value.router := by
  cases reconfigures : operation.reconfigures with
  | false => exact (beats_perform reconfigures).sound sound
  | true =>
      cases operation with
      | configure config => exact sound.configure config
      | applySnapshot configs => exact sound.applySnapshot configs
      | remove id => exact sound.remove id
      | _ => cases reconfigures

theorem sound_after (policies : Policies) (background : Bool) (run : List Operation) :
    Router.Sound policies background ((fresh policies background).after run).router := by
  induction run with
  | nil => exact Router.sound_fresh policies background
  | cons operation earlier induction => exact sound_perform induction operation

/-- In every reachable state the parts of the registry fit together. What is registered
under an id is a cluster of this id that is at work, whose model is accepted and whose
records are those of its configuration. A probe loop is kept for it exactly if there is a
runtime and its active checks are enabled; and the loops that are kept are those that
run. -/
theorem registry_structure_after (policies : Policies) (background : Bool)
    (run : List Operation) :
    let router := ((fresh policies background).after run).router
    (∀ id ref, router.registeredRef? id = some ref →
      ∃ cluster, router.registered? id = some (ref, cluster)) ∧
    (∀ id ref cluster, router.registered? id = some (ref, cluster) →
      (ref.id = id ∧ cluster.id = id ∧ cluster.model.config.id = id) ∧
      policies.resolve cluster.model.config = .ok cluster.model ∧
      cluster.model.WellFormed ∧
      cluster.current.keys = cluster.model.config.destinations.keys ∧
      (∀ name number, cluster.current.get? name = some number →
        ∃ destination,
          cluster.records[number]? = some destination ∧ destination.id = name ∧
          cluster.model.config.destinations.get? name = some destination.config) ∧
      cluster.shutDown = false) ∧
    (∀ id, (router.probing.get? id).isSome = true ↔
      background = true ∧ ∃ ref cluster, router.registered? id = some (ref, cluster) ∧
        cluster.model.config.healthCheck.active.enabled = true) ∧
    (∀ id loop, router.probing.get? id = some loop →
      ∃ ref, router.registeredRef? id = some ref ∧
        ∀ other number, other.id = id →
          (router.Runs other number ↔ other = ref ∧ number = loop)) ∧
    ∀ id, router.probing.get? id = none →
      ∀ ref loop, ref.id = id → ¬ router.Runs ref loop := by
  intro router
  have sound : Router.Sound policies background router :=
    sound_after policies background run
  refine ⟨fun id ref named => ?_, fun id ref cluster found => ?_, fun id => ?_,
    fun id loop kept => ?_, fun id unprobed ref loop here =>
      (sound.looped id).not_runs unprobed here loop⟩
  · rcases sound.known.registered id ref named with ⟨cluster, present, -⟩
    exact ⟨cluster, Router.registered?_iff.2 ⟨named, present⟩⟩
  · rcases Router.registered?_iff.1 found with ⟨named, present⟩
    have orderly := (sound.orderly id).orderly ref cluster found
    have accepted := sound.known.models ref cluster present
    rcases sound.known.registered id ref named with ⟨other, there, working⟩
    rw [present, Option.some.injEq] at there
    exact ⟨⟨Router.id_of_registeredRef? named, orderly.own, orderly.configured⟩, accepted,
      Policies.wellFormed_of_resolve accepted, orderly.keys, orderly.record,
        there ▸ working⟩
  · have enabled : ∀ ref cluster, router.registered? id = some (ref, cluster) →
        cluster.model.active.isSome =
          cluster.model.config.healthCheck.active.enabled := by
      intro ref cluster found
      exact (Policies.wellFormed_of_resolve
        (sound.known.models ref cluster (Router.registered?_iff.1 found).2)).active
    constructor
    · intro probed
      rcases Option.isSome_iff_exists.1 probed with ⟨loop, kept⟩
      rcases (sound.looped id).kept loop kept with ⟨-, ref, named, -⟩
      rcases sound.known.registered id ref named with ⟨cluster, present, -⟩
      have found := Router.registered?_iff.2 ⟨named, present⟩
      have both := ((sound.orderly id).probed ref cluster found).1 probed
      exact ⟨sound.able.symm.trans both.1, ref, cluster, found,
        (enabled ref cluster found).symm.trans both.2⟩
    · rintro ⟨able, ref, cluster, found, active⟩
      exact ((sound.orderly id).probed ref cluster found).2
        ⟨sound.able.trans able, (enabled ref cluster found).trans active⟩
  · rcases (sound.looped id).kept loop kept with ⟨-, ref, named, runs⟩
    refine ⟨ref, named, fun other number here => ⟨fun running => ?_, ?_⟩⟩
    · exact (sound.looped id).unique (Router.id_of_registeredRef? named) runs here running
    · rintro ⟨rfl, rfl⟩
      exact runs

end Scene

end Gateway
