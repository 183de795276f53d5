import Gateway.Proofs.Exclusions.Lapse
import Gateway.Proofs.Registry.Loops
import Gateway.Proofs.Router.Outline
import Gateway.Proofs.Router.Ringing

namespace Gateway

/-! The work of a gateway in its background. Every alarm that rings is a piece of work.
What a probe loop does sets the next alarm of that loop, and nothing else sets one for
it. -/

def Router.settings? (router : Router) (ref : ClusterRef) : Option ActiveCheckConfig :=
  (router.cluster? ref).map (fun cluster => cluster.model.config.healthCheck.active)

def Wakeup.startsTick : Wakeup → Bool
  | .beginProbing _ | .tick _ => true
  | .reactivate _ | .settle _ _ _ => false

/-- What is done when an alarm rings: the alarm, and the gateway at that moment. -/
structure Work where
  scene : Scene
  alarm : Alarm

namespace Work

def time (work : Work) : Nat :=
  work.scene.router.now

def after (work : Work) : Scene :=
  (work.scene.wake work.alarm).value

def cluster? (work : Work) : Option Cluster :=
  work.scene.router.cluster? work.alarm.cluster

def settings? (work : Work) : Option ActiveCheckConfig :=
  work.scene.router.settings? work.alarm.cluster

def isTick (work : Work) : Bool :=
  work.alarm.wakeup.startsTick

/-- The probes that a tick sends, and who will judge their results. -/
def sent? (work : Work) : Option (ActivePolicy × Batch) :=
  if work.isTick then (work.scene.send work.alarm.cluster).value.2 else none

def interval (work : Work) : Nat :=
  (work.settings?.map (fun settings => max 1 settings.interval)).getD 0

def nextTick (work : Work) (loop : Nat) : Alarm where
  due := work.time + work.interval
  cluster := work.alarm.cluster
  wakeup := .tick loop

/-- What the work of a loop leaves to be done. Probes that take time are settled when they
have ended; other than that, the next tick is due one interval later. -/
def following (work : Work) (loop : Nat) : Alarm :=
  match work.sent? with
  | none => work.nextTick loop
  | some (policy, batch) =>
      if batch.duration = 0 then work.nextTick loop
      else
        { due := work.time + batch.duration
          cluster := work.alarm.cluster
          wakeup := .settle loop policy batch.outcome }

private theorem belongsToLoop_following (work : Work) (loop : Nat) :
    Router.belongsToLoop work.alarm.cluster loop (work.following loop) = true := by
  rw [Router.belongsToLoop_iff]
  unfold following
  split
  · exact ⟨rfl, rfl⟩
  · split <;> exact ⟨rfl, rfl⟩

end Work

namespace Router

variable {router : Router} {ref : ClusterRef} {cluster : Cluster}

/-! What the work of a loop sets. -/

private theorem agenda_scheduleTick (present : router.cluster? ref = some cluster)
    (loop : Nat) :
    (router.scheduleTick ref loop).agenda =
      router.agenda ++ [{
        due := router.now + max 1 cluster.model.config.healthCheck.active.interval
        cluster := ref
        wakeup := .tick loop }] := by
  simp only [scheduleTick, present, setAlarm]

private theorem agenda_settle (present : router.cluster? ref = some cluster) (loop : Nat)
    (policy : ActivePolicy) (outcome : BatchEnd) :
    (router.settle ref loop policy outcome).value.agenda =
      router.agenda ++ [{
        due := router.now + max 1 cluster.model.config.healthCheck.active.interval
        cluster := ref
        wakeup := .tick loop }] := by
  have same := sameAgenda_judge router ref policy outcome
  have outlines := (sameOutline_judge router ref policy outcome).outlines ref
  rw [present] at outlines
  rcases Option.map_eq_some_iff.1 outlines with ⟨judged, there, alike⟩
  have next := agenda_scheduleTick there loop
  rw [same.now, same.agenda, Cluster.model_of_outline alike] at next
  unfold settle
  split <;> exact next

end Router

namespace Work

theorem interval_of_settings {work : Work} {settings : ActiveCheckConfig}
    (inForce : work.settings? = some settings) :
    work.interval = max 1 settings.interval := by
  rw [interval, inForce]
  rfl

theorem settings_of_present {work : Work} {cluster : Cluster}
    (present : work.cluster? = some cluster) :
    work.settings? = some cluster.model.config.healthCheck.active := by
  have there : work.scene.router.cluster? work.alarm.cluster = some cluster := present
  rw [settings?, Router.settings?, there]
  rfl

private theorem agenda_tick {scene : Scene} {ref : ClusterRef} {cluster : Cluster}
    (present : scene.router.cluster? ref = some cluster) (due loop : Nat) :
    (scene.tick ref loop).value.router.agenda =
      scene.router.agenda ++
        [following { scene, alarm := { due, cluster := ref, wakeup := .tick loop } }
          loop] := by
  let work : Work := { scene, alarm := { due, cluster := ref, wakeup := .tick loop } }
  have interval : work.interval = _ := interval_of_settings (settings_of_present present)
  have next : work.nextTick loop = {
      due := scene.router.now + max 1 cluster.model.config.healthCheck.active.interval
      cluster := ref
      wakeup := .tick loop } := by
    rw [nextTick, interval]
    rfl
  have same := Scene.router_send scene ref
  have sent : work.sent? = (scene.send ref).value.2 := rfl
  change _ = scene.router.agenda ++ [work.following loop]
  simp only [Scene.tick, Traced.value_bind, following, sent, next]
  generalize (scene.send ref).value = result at same ⊢
  rcases result with ⟨after, sent⟩
  dsimp only at same ⊢
  rw [same]
  cases sent with
  | none => exact Router.agenda_scheduleTick present loop
  | some answer =>
      rcases answer with ⟨policy, batch⟩
      dsimp only
      split
      · exact Router.agenda_settle present loop policy batch.outcome
      · rfl

theorem agenda_after {work : Work} {loop : Nat} {cluster : Cluster}
    (own : work.alarm.wakeup.loop? = some loop) (present : work.cluster? = some cluster) :
    work.after.router.agenda = work.scene.router.agenda ++ [work.following loop] := by
  have interval := interval_of_settings (settings_of_present present)
  rcases work with ⟨scene, due, ref, wakeup⟩
  cases wakeup with
  | reactivate => cases own
  | beginProbing number =>
      cases own
      exact agenda_tick present due loop
  | tick number =>
      cases own
      exact agenda_tick present due loop
  | settle number policy outcome =>
      cases own
      refine (Router.agenda_settle present loop policy outcome).trans ?_
      rw [← interval]
      rfl

theorem agenda_after_of_timer {work : Work} (timer : work.alarm.wakeup.loop? = none) :
    work.after.router.agenda = work.scene.router.agenda := by
  rcases work with ⟨scene, due, ref, wakeup⟩
  cases wakeup with
  | reactivate exclusion =>
      simp only [after, Scene.wake, Traced.value_bind, Traced.value_pure,
        Router.value_withCluster]
      exact (Router.sameAgenda_mapCluster scene.router ref _).agenda
  | beginProbing => cases timer
  | tick => cases timer
  | settle => cases timer

end Work

namespace Router

variable {before after : Router}

theorem SameOutline.loop? (same : SameOutline before after) (ref : ClusterRef)
    (loop : Nat) :
    after.loop? ref loop = before.loop? ref loop := by
  have read : ∀ router : Router, router.loop? ref loop =
      ((router.cluster? ref).map Cluster.outline).bind (fun cluster =>
        cluster.loops[loop]?) := by
    intro router
    rw [Option.bind_map]
    rfl
  rw [read, read, same.outlines]

theorem SameOutline.settings? (same : SameOutline before after) (ref : ClusterRef) :
    after.settings? ref = before.settings? ref := by
  have read : ∀ router : Router, router.settings? ref =
      ((router.cluster? ref).map Cluster.outline).map
        (fun cluster => cluster.model.config.healthCheck.active) := by
    intro router
    rw [Option.map_map]
    rfl
  rw [read, read, same.outlines]

def loopAlarms (router : Router) : List Alarm :=
  router.agenda.filter (fun alarm => alarm.wakeup.loop?.isSome)

theorem alarmsOf_of_loopAlarms (same : after.loopAlarms = before.loopAlarms)
    (ref : ClusterRef) (loop : Nat) :
    after.alarmsOf ref loop = before.alarmsOf ref loop := by
  have read : ∀ router : Router, router.alarmsOf ref loop =
      router.loopAlarms.filter (belongsToLoop ref loop) := by
    intro router
    rw [alarmsOf, loopAlarms, List.filter_filter]
    apply List.filter_congr
    intro alarm _
    cases belongs : belongsToLoop ref loop alarm with
    | false => rfl
    | true => rw [((belongsToLoop_iff _ _ _).1 belongs).2]; rfl
  rw [read, read, same]

theorem Looped.calm {id : String} (looped : before.Looped id)
    (same : SameOutline before after) (alarms : after.loopAlarms = before.loopAlarms) :
    after.Looped id :=
  looped.congr same.background (same.registeredRef? id)
    { probing := by rw [same.probing]
      loops := fun ref loop _ => same.loop? ref loop
      alarms := fun ref loop _ => alarmsOf_of_loopAlarms alarms ref loop }

end Router

/-! An alarm that rings is taken from the agenda. -/

theorem filter_eraseIdx_of_sole {α : Type} {keep : α → Bool} {members : List α}
    {position : Nat} {member other : α} (there : members[position]? = some member)
    (kept : keep member = true) (sole : members.filter keep = [other]) :
    other = member ∧ (members.eraseIdx position).filter keep = [] := by
  rcases List.getElem?_eq_some_iff.1 there with ⟨inside, rfl⟩
  have parts := (List.getElem_cons_eraseIdx_perm inside).filter keep
  rw [sole, List.filter_cons_of_pos kept, List.perm_singleton, List.cons.injEq] at parts
  exact ⟨parts.1.symm, parts.2⟩

namespace Scene

variable {scene : Scene} {position : Nat} {alarm : Alarm} {id : String}

def work (scene : Scene) (position : Nat) (alarm : Alarm) : Work where
  scene := scene.rung position alarm
  alarm := alarm

theorem sameOutline_work (scene : Scene) (position : Nat) (alarm : Alarm) :
    Router.SameOutline scene.router (scene.work position alarm).after.router := by
  have woken := sameOutline_wake (scene.rung position alarm) alarm
  exact ⟨woken.policies, woken.background, woken.registered, woken.probing,
    woken.outlines⟩

theorem runs_of_pending (looped : ∀ id, scene.router.Looped id)
    (pending : alarm ∈ scene.router.agenda) {ref : ClusterRef} {loop : Nat}
    (own : Router.belongsToLoop ref loop alarm = true) : scene.router.Runs ref loop := by
  by_contra still
  have member : alarm ∈ scene.router.alarmsOf ref loop := List.mem_filter.2 ⟨pending, own⟩
  rw [(looped ref.id).idle ref loop rfl still] at member
  cases member

theorem alarmsOf_work (looped : ∀ id, scene.router.Looped id)
    (pending : scene.router.agenda[position]? = some alarm) (ref : ClusterRef)
    (loop : Nat) :
    (scene.work position alarm).after.router.alarmsOf ref loop =
      if Router.belongsToLoop ref loop alarm then
        [(scene.work position alarm).following loop]
      else scene.router.alarmsOf ref loop := by
  cases wakeup : alarm.wakeup.loop? with
  | none =>
      have foreign : Router.belongsToLoop ref loop alarm = false := by
        simp [Router.belongsToLoop, wakeup]
      have left : (scene.work position alarm).after.router.agenda =
          scene.router.agenda.eraseIdx position :=
        Work.agenda_after_of_timer wakeup
      rw [Router.alarmsOf, left, foreign,
        filter_eraseIdx_of_not pending foreign]
      rfl
  | some number =>
      have own := (Router.belongsToLoop_iff alarm.cluster number alarm).2 ⟨rfl, wakeup⟩
      have runs := runs_of_pending looped (List.mem_of_getElem? pending) own
      rcases Option.bind_eq_some_iff.1 runs with ⟨cluster, present, -⟩
      have belongs : Router.belongsToLoop alarm.cluster number
          ((scene.work position alarm).following number) = true :=
        (scene.work position alarm).belongsToLoop_following number
      have set : (scene.work position alarm).after.router.agenda =
          scene.router.agenda.eraseIdx position ++
            [(scene.work position alarm).following number] :=
        Work.agenda_after wakeup present
      rw [Router.alarmsOf, set, List.filter_append]
      by_cases here : Router.belongsToLoop ref loop alarm = true
      · rcases (Router.belongsToLoop_iff _ _ _).1 here with ⟨rfl, same⟩
        rw [wakeup, Option.some.injEq] at same
        subst same
        rcases (looped alarm.cluster.id).waiting _ _ rfl runs with ⟨other, sole⟩
        rw [(filter_eraseIdx_of_sole pending own sole).2, if_pos own,
          List.filter_cons_of_pos belongs]
        rfl
      · have foreign : ¬ Router.belongsToLoop ref loop
            ((scene.work position alarm).following number) = true := by
          intro also
          rcases (Router.belongsToLoop_iff _ _ _).1 also with ⟨cluster, alsoWakeup⟩
          rcases (Router.belongsToLoop_iff _ _ _).1 belongs with ⟨sameCluster, sameWakeup⟩
          rw [sameWakeup, Option.some.injEq] at alsoWakeup
          refine here
            ((Router.belongsToLoop_iff _ _ _).2 ⟨sameCluster.symm.trans cluster, ?_⟩)
          rw [wakeup, alsoWakeup]
        rw [filter_eraseIdx_of_not pending (eq_false_of_ne_true here), if_neg here,
          List.filter_cons_of_neg foreign, List.filter_nil, List.append_nil]
        rfl

theorem looped_work (looped : ∀ id, scene.router.Looped id)
    (pending : scene.router.agenda[position]? = some alarm) (id : String) :
    (scene.work position alarm).after.router.Looped id := by
  have same := sameOutline_work scene position alarm
  have runs : ∀ ref loop, (scene.work position alarm).after.router.Runs ref loop ↔
      scene.router.Runs ref loop := by
    intro ref loop
    rw [Router.Runs, same.loop?]
    rfl
  have alarms := alarmsOf_work looped pending
  refine ⟨fun ref loop here running => ?_, fun loop kept => ?_,
    fun ref loop here running => ?_, fun ref loop here idle => ?_⟩
  · rw [same.registeredRef?, same.probing]
    exact (looped id).sole ref loop here ((runs ref loop).1 running)
  · rw [same.probing] at kept
    rcases (looped id).kept loop kept with ⟨able, ref, named, running⟩
    exact ⟨same.background.trans able, ref, (same.registeredRef? id).trans named,
      (runs ref loop).2 running⟩
  · rw [alarms]
    split
    · exact ⟨_, rfl⟩
    · exact (looped id).waiting ref loop here ((runs ref loop).1 running)
  · rw [runs] at idle
    rw [alarms,
      if_neg fun own => idle (runs_of_pending looped (List.mem_of_getElem? pending) own)]
    exact (looped id).idle ref loop here idle

end Scene

end Gateway
