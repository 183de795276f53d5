import Gateway.Proofs.Exclusions.Lapse
import Gateway.Proofs.Router.Reporting
import Mathlib.Algebra.Group.Nat.Defs

namespace Gateway

/-! The timer of an exclusion. When a report excludes a record, the record gets a new
generation, and a timer of this generation is set. A generation is the number of
exclusions as a word; so as long as that number fits into a word, no timer of the new
generation was set before, and the one that is set then is the only one for as long as the
exclusion lasts. -/

namespace Cluster

variable {cluster : Cluster} {now record : Nat} {outcome : Outcome}

theorem observe_calm
    (regular : cluster.Regular)
    (calm : (cluster.observe now record outcome).value.2 = none) (number : Nat) :
    ((cluster.observe now record outcome).value.1.healthOf number).exclusions =
        (cluster.healthOf number).exclusions ∧
      (((cluster.observe now record outcome).value.1.healthOf number).passive =
        .unhealthy → (cluster.healthOf number).passive = .unhealthy) := by
  have frame : ∀ {policy destination}, cluster.model.passive = some policy →
      (policy.observe cluster.model.config now destination outcome).value.exclusions =
        destination.health.exclusions := by
    intro policy destination heard
    rcases regular.eq heard with rfl
    exact (PassivePolicy.observe_transportFailureRate_frame _ _ _ _).2.1
  have result := observe_result cluster now record outcome
  generalize (cluster.observe now record outcome).value = observed at result calm ⊢
  cases result with
  | unheard => exact ⟨rfl, fun unhealthy => unhealthy⟩
  | unmoved heard stored judged same =>
      rw [healthOf_setHealth stored]
      split
      · rename_i here
        subst here
        rw [healthOf_of_getElem? stored, ← judged]
        exact ⟨frame heard, fun unhealthy => by rw [← same, ← judged, unhealthy]⟩
      · exact ⟨rfl, fun unhealthy => unhealthy⟩
  | recovered heard stored judged before healthy =>
      rw [healthOf_publish, healthOf_setHealth stored]
      split
      · rename_i here
        subst here
        rw [healthOf_of_getElem? stored, ← judged]
        exact ⟨frame heard, fun _ => before⟩
      · exact ⟨rfl, fun unhealthy => unhealthy⟩
  | excluded => cases calm

theorem observe_began (regular : cluster.Regular) {exclusion : Exclusion}
    (began : (cluster.observe now record outcome).value.2 = some exclusion) :
    (cluster.healthOf record).passive = .healthy ∧
      ((cluster.observe now record outcome).value.1.healthOf record).passive =
        .unhealthy ∧
      exclusion =
        { record
          generation := (cluster.healthOf record).exclusions + 1
          period := cluster.model.config.healthCheck.passive.reactivationPeriod } ∧
      ((cluster.observe now record outcome).value.1.healthOf record).exclusions =
        (cluster.healthOf record).exclusions + 1 ∧
      ∀ number, number ≠ record →
        (cluster.observe now record outcome).value.1.healthOf number =
          cluster.healthOf number := by
  have result := observe_result cluster now record outcome
  generalize (cluster.observe now record outcome).value = observed at result began ⊢
  cases result with
  | unheard => cases began
  | unmoved => cases began
  | recovered => cases began
  | @excluded policy destination health heard stored judged before unhealthy =>
      cases began
      have kept := (onlyHealth_setHealth cluster record health).getElem? stored
      have exclusions : health.exclusions = destination.health.exclusions := by
        rcases regular.eq heard with rfl
        rw [← judged]
        exact (PassivePolicy.observe_transportFailureRate_frame _ _ _ _).2.1
      rw [healthOf_of_getElem? stored, exclusions]
      refine ⟨before, ?_, rfl, ?_, fun number different => ?_⟩
      · rw [healthOf_setHealth ((onlyHealth_publish _).getElem? kept), if_pos rfl]
        exact unhealthy
      · rw [healthOf_setHealth ((onlyHealth_publish _).getElem? kept), if_pos rfl]
      · rw [healthOf_setHealth ((onlyHealth_publish _).getElem? kept),
          if_neg (Ne.symm different), healthOf_publish, healthOf_setHealth stored,
          if_neg (Ne.symm different)]

end Cluster

/-- The beginning of an exclusion, and the period it was to last. -/
structure ExclusionStart where
  since : Nat
  period : Nat
  deriving Repr, DecidableEq

namespace Router

variable {policies : Policies} {router next : Router}

def reactivationPeriod (router : Router) (ref : ClusterRef) : Nat :=
  ((router.cluster? ref).map (fun cluster =>
    cluster.model.config.healthCheck.passive.reactivationPeriod)).getD 0

/-- The exclusions of a record after one more operation, the latest first. -/
def exclusionLog (before after : Router) (ref : ClusterRef) (record : Nat)
    (log : List ExclusionStart) : List ExclusionStart :=
  if (before.healthOf ref record).passive = .healthy ∧
      (after.healthOf ref record).passive = .unhealthy then
    { since := before.now, period := before.reactivationPeriod ref } :: log
  else log

/-- The latest exclusion of a record has a timer that is due when its period is ended, and
no other timer, as long as the exclusions can be counted by a word. -/
structure SetFor (timers : List Alarm) (log : List ExclusionStart)
    (start : ExclusionStart) (alarm : Alarm) : Prop where
  latest : log.head? = some start
  pending : alarm ∈ timers
  due : alarm.due = start.since + start.period
  only : log.length < 2 ^ 64 → timers = [alarm]

/-- Every exclusion on a cluster that is at work has its timer. Timers of later exclusions
do not exist yet. -/
structure Timed (router : Router) (log : ClusterRef → Nat → List ExclusionStart) :
    Prop where
  background : router.background = true
  counted : ∀ ref record,
    (router.healthOf ref record).exclusions = .ofNat (log ref record).length
  bounded : ∀ alarm ∈ router.agenda, ∀ exclusion, alarm.wakeup = .reactivate exclusion →
    ∃ number ≤ (log alarm.cluster exclusion.record).length,
      exclusion.generation = .ofNat number
  timed : ∀ ref record, router.isShutDown ref = false →
    (router.healthOf ref record).passive = .unhealthy →
    ∃ start alarm, SetFor (router.timers ref record) (log ref record) start alarm

private theorem timed_fresh (policies : Policies) :
    Timed { policies, background := true } (fun _ _ => []) where
  background := rfl
  counted := fun _ _ => rfl
  bounded := by
    intro alarm pending
    cases pending
  timed := by
    intro ref record _ unhealthy
    cases unhealthy

private theorem Timed.sameHealth {log : ClusterRef → Nat → List ExclusionStart}
    (timed : Timed router log) (same : SameHealth router next) : Timed next log where
  background := same.background.trans timed.background
  counted := by
    intro ref record
    rw [same.health]
    exact timed.counted ref record
  bounded := by
    intro alarm pending exclusion wakeup
    rw [same.agenda] at pending
    exact timed.bounded alarm pending exclusion wakeup
  timed := by
    intro ref record working unhealthy
    rw [same.shutDown] at working
    rw [same.health] at unhealthy
    rw [timers, same.agenda, same.health]
    exact timed.timed ref record working unhealthy

/-! Moves set no timers. -/

theorem Move.mem_agenda (move : Move policies router next) {alarm : Alarm}
    (pending : alarm ∈ next.agenda) (timer : alarm.wakeup.loop? = none) :
    alarm ∈ router.agenda := by
  cases move with
  | @shutDown ref =>
      rcases mapCluster_fields router ref (fun cluster =>
        { cluster with shutDown := true }) with
        ⟨clusters, same⟩
      have kept := (List.mem_filter.1 pending).1
      rw [close, same] at kept
      exact kept
  | set looping =>
      rcases List.mem_append.1 pending with old | new
      · exact old
      · rw [List.mem_singleton.1 new] at timer
        exact absurd timer looping
  | drop => exact (List.mem_filter.1 pending).1
  | ring => exact List.mem_of_mem_eraseIdx pending
  | @reactivate position other exclusion =>
      have fields := mapCluster_fields (router.eraseAlarm position) other.cluster
        (fun cluster => (cluster.reactivate exclusion).value)
      rcases fields with ⟨clusters, same⟩
      rw [same] at pending
      exact List.mem_of_mem_eraseIdx pending
  | _ => exact pending

theorem Moves.mem_agenda (moves : Moves policies router next) {alarm : Alarm}
    (pending : alarm ∈ next.agenda) (timer : alarm.wakeup.loop? = none) :
    alarm ∈ router.agenda := by
  induction moves with
  | refl => exact pending
  | tail _ move induction => exact induction (move.mem_agenda pending timer)

theorem Lapse.exclusions {before after : Router} {ref : ClusterRef} {record : Nat}
    (lapse : Lapse before after ref record) :
    (after.healthOf ref record).exclusions = (before.healthOf ref record).exclusions := by
  rcases lapse with still | ended
  · exact still.exclusions
  · exact ended.exclusions

theorem Lapse.unhealthy {before after : Router} {ref : ClusterRef} {record : Nat}
    (lapse : Lapse before after ref record)
    (unhealthy : (after.healthOf ref record).passive = .unhealthy) :
    SameExclusion before after ref record ∧
      (before.healthOf ref record).passive = .unhealthy := by
  rcases lapse with still | ended
  · exact ⟨still, still.passive.symm.trans unhealthy⟩
  · rw [ended.healthy] at unhealthy
    cases unhealthy

theorem Timed.moves {log : ClusterRef → Nat → List ExclusionStart}
    (timed : Timed router log) (builtin : policies.active.entries = ActivePolicy.builtin)
    (moves : Moves policies router next) : Timed next log where
  background := moves.frame.background.trans timed.background
  counted := by
    intro ref record
    rw [(moves.lapse builtin ref record).exclusions]
    exact timed.counted ref record
  bounded := by
    intro alarm pending exclusion wakeup
    have old := moves.mem_agenda pending (by rw [wakeup]; rfl)
    exact timed.bounded alarm old exclusion wakeup
  timed := by
    intro ref record working unhealthy
    rcases (moves.lapse builtin ref record).unhealthy unhealthy with ⟨same, before⟩
    rcases same.timers working unhealthy with ⟨atWork, timers⟩
    rw [timers]
    exact timed.timed ref record atWork before

/-! Reports. One that excludes nobody leaves the timers as they are; one that excludes
a record sets the timer of the exclusion. -/

theorem exclusionLog_of_calm {before after : Router} {ref : ClusterRef} {record : Nat}
    (calm : (after.healthOf ref record).passive = .unhealthy →
      (before.healthOf ref record).passive = .unhealthy)
    (log : List ExclusionStart) : exclusionLog before after ref record log = log := by
  apply if_neg
  intro began
  have unhealthy := calm began.2
  rw [began.1] at unhealthy
  cases unhealthy

theorem Timed.calm {log : ClusterRef → Nat → List ExclusionStart}
    (timed : Timed router log) (agenda : next.agenda = router.agenda)
    (background : next.background = router.background)
    (shutDown : ∀ ref, next.isShutDown ref = router.isShutDown ref)
    (exclusions : ∀ ref record,
      (next.healthOf ref record).exclusions = (router.healthOf ref record).exclusions)
    (unhealthy : ∀ ref record, (next.healthOf ref record).passive = .unhealthy →
      (router.healthOf ref record).passive = .unhealthy) :
    Timed next (fun ref record =>
      exclusionLog router next ref record (log ref record)) := by
  simp only [fun ref record => exclusionLog_of_calm (unhealthy ref record)]
  refine ⟨background.trans timed.background, fun ref record => ?_, ?_,
    fun ref record working after => ?_⟩
  · rw [exclusions]
    exact timed.counted ref record
  · rw [agenda]
    exact timed.bounded
  · rw [shutDown] at working
    rw [timers, agenda, exclusions]
    exact timed.timed ref record working (unhealthy ref record after)

theorem Timed.filter_next {log : ClusterRef → Nat → List ExclusionStart}
    (timed : Timed router log) (ref : ClusterRef) (record : Nat)
    (few : (log ref record).length + 1 < 2 ^ 64) :
    router.agenda.filter (fun alarm =>
      alarm.ends ref record ((router.healthOf ref record).exclusions + 1)) = [] := by
  rw [List.filter_eq_nil_iff]
  intro alarm pending ends
  rcases (Alarm.ends_iff _ _ _ _).1 ends with ⟨cluster, period, wakeup⟩
  rcases timed.bounded alarm pending _ wakeup with ⟨number, bound, same⟩
  rw [cluster] at bound
  have equal :
      (UInt64.ofNat ((log ref record).length + 1)).toNat =
        (UInt64.ofNat number).toNat := by
    rw [← same, timed.counted, UInt64.ofNat_add]
    rfl
  rw [UInt64.toNat_ofNat_of_lt' few,
    UInt64.toNat_ofNat_of_lt' (Nat.lt_of_le_of_lt (Nat.le_succ_of_le bound) few)] at equal
  exact Nat.not_succ_le_self _ (equal ▸ bound)

def newTimer (router : Router) (ref : ClusterRef) (record : Nat) : Alarm where
  due := router.now + router.reactivationPeriod ref
  cluster := ref
  wakeup :=
    .reactivate
      { record
        generation := (router.healthOf ref record).exclusions + 1
        period := router.reactivationPeriod ref }

private theorem ends_newTimer (router : Router) (ref : ClusterRef) (record : Nat) :
    (router.newTimer ref record).ends ref record
      ((router.healthOf ref record).exclusions + 1) =
      true :=
  (Alarm.ends_iff _ _ _ _).2 ⟨rfl, router.reactivationPeriod ref, rfl⟩

private theorem not_ends_newTimer {ref other : ClusterRef} {record number : Nat}
    (away : ¬ (other = ref ∧ number = record)) (generation : UInt64) :
    (router.newTimer ref record).ends other number generation = false := by
  rw [← Bool.not_eq_true, Alarm.ends_iff]
  rintro ⟨cluster, period, wakeup⟩
  have equal := Wakeup.reactivate.inj wakeup
  exact away ⟨cluster.symm, (congrArg Exclusion.record equal).symm⟩

private theorem Timed.setFor_newTimer {log : ClusterRef → Nat → List ExclusionStart}
    (timed : Timed router log) {ref : ClusterRef} {record : Nat}
    (agenda : next.agenda = router.agenda ++ [router.newTimer ref record])
    (raised : (next.healthOf ref record).exclusions =
      (router.healthOf ref record).exclusions + 1) :
    let start := { since := router.now, period := router.reactivationPeriod ref }
    SetFor (next.timers ref record) (start :: log ref record) start
      (router.newTimer ref record) := by
  intro start
  have timers : next.timers ref record =
      router.agenda.filter (fun alarm =>
        alarm.ends ref record ((router.healthOf ref record).exclusions + 1)) ++
        [router.newTimer ref record] := by
    rw [timers, agenda, raised, List.filter_append, List.filter_cons,
      if_pos (ends_newTimer router ref record), List.filter_nil]
  rw [timers]
  refine ⟨rfl, List.mem_append_right _ (List.mem_singleton_self _), rfl, fun few => ?_⟩
  rw [timed.filter_next ref record few, List.nil_append]

theorem Timed.excluded {log : ClusterRef → Nat → List ExclusionStart}
    (timed : Timed router log) {ref : ClusterRef} {record : Nat}
    (healthy : (router.healthOf ref record).passive = .healthy)
    (unhealthy : (next.healthOf ref record).passive = .unhealthy)
    (raised : (next.healthOf ref record).exclusions =
      (router.healthOf ref record).exclusions + 1)
    (untouched : ∀ other number, ¬ (other = ref ∧ number = record) →
      next.healthOf other number = router.healthOf other number)
    (background : next.background = router.background)
    (shutDown : ∀ other, next.isShutDown other = router.isShutDown other)
    {more : List Alarm} (agenda : next.agenda = router.agenda ++ more)
    (new : more = [router.newTimer ref record] ∨
      (more = [] ∧ router.isShutDown ref = true)) :
    Timed next (fun other number =>
      exclusionLog router next other number (log other number)) := by
  have logged : exclusionLog router next ref record (log ref record) =
      { since := router.now, period := router.reactivationPeriod ref } ::
        log ref record :=
    if_pos ⟨healthy, unhealthy⟩
  have elsewhere : ∀ other number, ¬ (other = ref ∧ number = record) →
      exclusionLog router next other number (log other number) = log other number := by
    intro other number away
    apply exclusionLog_of_calm
    rw [untouched other number away]
    exact id
  have raisedTo : (next.healthOf ref record).exclusions =
      .ofNat ((log ref record).length + 1) := by
    rw [raised, timed.counted, UInt64.ofNat_add]
    rfl
  refine ⟨background.trans timed.background, fun other number => ?_,
    fun alarm pending exclusion wakeup => ?_, fun other number working after => ?_⟩
  · by_cases here : other = ref ∧ number = record
    · rcases here with ⟨rfl, rfl⟩
      rw [logged]
      exact raisedTo
    · rw [elsewhere other number here, untouched other number here]
      exact timed.counted other number
  · rw [agenda] at pending
    rcases List.mem_append.1 pending with old | fresh
    · rcases timed.bounded alarm old exclusion wakeup with ⟨number, bound, same⟩
      refine ⟨number, Nat.le_trans bound ?_, same⟩
      by_cases here : alarm.cluster = ref ∧ exclusion.record = record
      · rw [here.1, here.2, logged]
        exact Nat.le_succ _
      · exact Nat.le_of_eq (congrArg List.length (elsewhere _ _ here).symm)
    · rcases new with rfl | ⟨rfl, -⟩
      · rcases List.mem_singleton.1 fresh with rfl
        cases wakeup
        exact ⟨(log ref record).length + 1,
          Nat.le_of_eq (congrArg List.length logged.symm),
          raised.symm.trans raisedTo⟩
      · cases fresh
  · by_cases here : other = ref ∧ number = record
    · rcases here with ⟨rfl, rfl⟩
      rcases new with rfl | ⟨-, closed⟩
      · rw [logged]
        exact ⟨_, _, timed.setFor_newTimer agenda raised⟩
      · rw [shutDown, closed] at working
        cases working
    · have same := untouched other number here
      have foreign : more.filter (fun alarm =>
          alarm.ends other number (router.healthOf other number).exclusions) = [] := by
        rcases new with rfl | ⟨rfl, -⟩
        · rw [List.filter_cons, not_ends_newTimer here]
          rfl
        · rfl
      rw [shutDown] at working
      rw [same] at after
      rw [elsewhere other number here, timers, agenda, same, List.filter_append, foreign,
        List.append_nil]
      exact timed.timed other number working after

theorem Timed.observe {log : ClusterRef → Nat → List ExclusionStart}
    (timed : Timed router log)
    (regular : router.Regular) (ref : ClusterRef) (record : Nat) (outcome : Outcome) :
    Timed (router.observe ref record outcome).value (fun other number =>
      exclusionLog router (router.observe ref record outcome).value other number
        (log other number)) := by
  have shutDown := isShutDown_observe router ref record outcome
  have background := (frame_observe router ref record outcome).background
  cases present : router.cluster? ref with
  | none =>
      rw [observe_of_absent present]
      exact timed.calm rfl rfl (fun _ => rfl) (fun _ _ => rfl) fun _ _ unhealthy =>
        unhealthy
  | some cluster =>
      have health := healthOf_observe present record outcome
      have agenda := agenda_observe present timed.background record outcome
      have here := healthOf_of_cluster? present
      have passive := regular ref cluster present
      cases result : (cluster.observe router.now record outcome).value.2 with
      | none =>
          have calm := Cluster.observe_calm passive result
          rw [result] at agenda
          refine timed.calm (agenda.trans (List.append_nil _)) background shutDown
            (fun other number => ?_) fun other number unhealthy => ?_
          · rw [health]
            split
            · rename_i same
              rw [same, here]
              exact (calm number).1
            · rfl
          · rw [health] at unhealthy
            split at unhealthy
            · rename_i same
              rw [same, here]
              exact (calm number).2 unhealthy
            · exact unhealthy
      | some exclusion =>
          rcases Cluster.observe_began passive result with
            ⟨healthy, unhealthy, rfl, raised, others⟩
          rw [result] at agenda
          have period : router.reactivationPeriod ref =
              cluster.model.config.healthCheck.passive.reactivationPeriod := by
            rw [reactivationPeriod, present]
            rfl
          refine timed.excluded ((here record).symm ▸ healthy) ?_ ?_
            (fun other number away => ?_)
            background shutDown agenda ?_
          · rw [health, if_pos rfl, unhealthy]
          · rw [health, if_pos rfl, raised, here]
          · rw [health]
            split
            · rename_i same
              rw [same, here]
              exact others number fun equal => away ⟨same, equal⟩
            · rfl
          · rw [isShutDown_of_cluster? present]
            cases cluster.shutDown with
            | true => exact .inr ⟨rfl, rfl⟩
            | false =>
                exact .inl
                  (by simp only [newTimer, period, here, Bool.false_eq_true, if_false])

private theorem exclusionLog_congr {before after other : Router}
    (health : ∀ ref record, other.healthOf ref record = after.healthOf ref record)
    (ref : ClusterRef) (record : Nat) (log : List ExclusionStart) :
    exclusionLog before other ref record log =
      exclusionLog before after ref record log := by
  rw [exclusionLog, exclusionLog, health]

end Router

namespace Scene

/-- The exclusions of a record in a run, the latest first. Only reports exclude, and no
operation makes two of them, so they are seen by comparing the states before and after
each. -/
def exclusionLog (start : Scene) : List Operation → ClusterRef → Nat → List ExclusionStart
  | [], _, _ => []
  | operation :: earlier, ref, record =>
      Router.exclusionLog (start.after earlier).router
        (start.after (operation :: earlier)).router ref record
        (start.exclusionLog earlier ref record)

private theorem timed_perform {policies : Policies} {scene : Scene}
    {log : ClusterRef → Nat → List ExclusionStart} (timed : scene.router.Timed log)
    (known : Router.Known policies scene.router) (choosing : policies.Choosing)
    (builtin : policies.active.entries = ActivePolicy.builtin)
    (regular : scene.router.Regular) (operation : Operation) :
    Router.Timed (scene.perform operation).value.router (fun ref record =>
      Router.exclusionLog scene.router (scene.perform operation).value.router ref record
        (log ref record)) := by
  cases reported : scene.router.reported? operation with
  | none =>
      rcases moves_of_not_reported known choosing reported with ⟨middle, moves, same⟩
      have calm : ∀ ref record,
          ((scene.perform operation).value.router.healthOf ref record).passive =
            .unhealthy →
            (scene.router.healthOf ref record).passive = .unhealthy := by
        intro ref record after
        rw [same.health] at after
        exact ((moves.lapse builtin ref record).unhealthy after).2
      simp only [fun ref record => Router.exclusionLog_of_calm (calm ref record)]
      exact (timed.moves builtin moves).sameHealth same
  | some report =>
      rcases report with ⟨lease, outcome⟩
      have same := sameHealth_reported reported
      have heard :=
        (timed.observe regular lease.cluster lease.record outcome).sameHealth same
      simp only [Router.exclusionLog_congr same.health]
      exact heard

theorem timed_after (source : RandomSource) (protector : Protector)
    (run : List Operation) :
    Router.Timed ((fresh (.builtin source protector) true).after run).router
      ((fresh (.builtin source protector) true).exclusionLog run) := by
  have choosing := Policies.choosing_builtin source protector
  induction run with
  | nil => exact Router.timed_fresh _
  | cons operation earlier induction =>
      have known := known_after choosing true earlier
      exact timed_perform induction known choosing rfl known.regular operation

end Scene

end Gateway
