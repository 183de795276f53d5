import Gateway.Proofs.Router.Requests

namespace Gateway

/-! Exclusions between reports: they last as they are until one of their own timers
is due, which then ends them. -/

namespace Alarm

def ends (alarm : Alarm) (ref : ClusterRef) (record : Nat) (generation : UInt64) : Bool :=
  alarm.cluster == ref &&
    match alarm.wakeup with
    | .reactivate exclusion =>
        exclusion.record == record && exclusion.generation == generation
    | _ => false

theorem ends_iff (alarm : Alarm) (ref : ClusterRef) (record : Nat) (generation : UInt64) :
    alarm.ends ref record generation = true ↔
      alarm.cluster = ref ∧ ∃ period,
        alarm.wakeup = .reactivate { record, generation, period } := by
  rcases alarm with ⟨due, cluster, wakeup⟩
  cases wakeup with
  | reactivate exclusion =>
      rcases exclusion with ⟨otherRecord, otherGeneration, otherPeriod⟩
      simp [ends]
  | beginProbing => simp [ends]
  | tick => simp [ends]
  | settle => simp [ends]

theorem not_ends_of_looping {alarm : Alarm} (looping : alarm.wakeup.loop? ≠ none)
    (ref : ClusterRef) (record : Nat) (generation : UInt64) :
    alarm.ends ref record generation = false := by
  apply eq_false_of_ne_true
  intro timer
  rcases (ends_iff _ _ _ _).1 timer with ⟨-, period, wakeup⟩
  rw [wakeup] at looping
  exact looping rfl

end Alarm

theorem filter_eraseIdx_of_not {α : Type} {keep : α → Bool} {members : List α}
    {position : Nat} {member : α} (there : members[position]? = some member)
    (dropped : keep member = false) :
    (members.eraseIdx position).filter keep = members.filter keep := by
  induction members generalizing position with
  | nil => rfl
  | cons first rest induction =>
      cases position with
      | zero =>
          obtain rfl : first = member := by simpa using there
          rw [List.eraseIdx_cons_zero, List.filter_cons_of_neg (by simp [dropped])]
      | succ position =>
          rw [List.eraseIdx_cons_succ, List.filter_cons, List.filter_cons,
            induction there]

namespace Router

variable {policies : Policies} {router next : Router}

def timers (router : Router) (ref : ClusterRef) (record : Nat) : List Alarm :=
  router.agenda.filter (fun alarm =>
    alarm.ends ref record (router.healthOf ref record).exclusions)

/-- Two states of a gateway in which a record is equally excluded, or not. -/
structure SameExclusion (before after : Router) (ref : ClusterRef)
    (record : Nat) : Prop where
  passive : (after.healthOf ref record).passive = (before.healthOf ref record).passive
  exclusions : (after.healthOf ref record).exclusions =
    (before.healthOf ref record).exclusions
  window : (after.healthOf ref record).window = (before.healthOf ref record).window
  fewer : ∀ alarm ∈ after.timers ref record, alarm ∈ before.timers ref record
  timers : after.isShutDown ref = false →
    (after.healthOf ref record).passive = .unhealthy →
    before.isShutDown ref = false ∧ after.timers ref record = before.timers ref record

/-- The end of an exclusion whose timer was due. -/
structure ExclusionOver (before after : Router) (ref : ClusterRef)
    (record : Nat) : Prop where
  unhealthy : (before.healthOf ref record).passive = .unhealthy
  healthy : (after.healthOf ref record).passive = .healthy
  window : (after.healthOf ref record).window = .empty
  exclusions : (after.healthOf ref record).exclusions =
    (before.healthOf ref record).exclusions
  due : ∃ alarm ∈ before.timers ref record, alarm.due ≤ after.now

def Lapse (before after : Router) (ref : ClusterRef) (record : Nat) : Prop :=
  SameExclusion before after ref record ∨ ExclusionOver before after ref record

theorem SameExclusion.refl (router : Router) (ref : ClusterRef) (record : Nat) :
    SameExclusion router router ref record :=
  ⟨rfl, rfl, rfl, fun _ timer => timer, fun working _ => ⟨working, rfl⟩⟩

theorem SameExclusion.trans {before middle after : Router} {ref : ClusterRef}
    {record : Nat} (first : SameExclusion before middle ref record)
    (last : SameExclusion middle after ref record) :
    SameExclusion before after ref record where
  passive := last.passive.trans first.passive
  exclusions := last.exclusions.trans first.exclusions
  window := last.window.trans first.window
  fewer := fun alarm timer => first.fewer alarm (last.fewer alarm timer)
  timers := by
    intro working unhealthy
    rcases last.timers working unhealthy with ⟨workingMiddle, lastTimers⟩
    rw [last.passive] at unhealthy
    rcases first.timers workingMiddle unhealthy with ⟨workingBefore, firstTimers⟩
    exact ⟨workingBefore, lastTimers.trans firstTimers⟩

theorem Lapse.trans {before middle after : Router} {ref : ClusterRef} {record : Nat}
    (first : Lapse before middle ref record) (last : Lapse middle after ref record)
    (order : middle.now ≤ after.now) : Lapse before after ref record := by
  rcases first with still | ended
  · rcases last with alsoStill | ended
    · exact .inl (still.trans alsoStill)
    · rcases ended.due with ⟨alarm, timer, due⟩
      exact .inr ⟨still.passive ▸ ended.unhealthy, ended.healthy, ended.window,
        ended.exclusions.trans still.exclusions, alarm, still.fewer alarm timer, due⟩
  · rcases last with still | alsoOver
    · rcases ended.due with ⟨alarm, timer, due⟩
      exact .inr ⟨ended.unhealthy, still.passive.trans ended.healthy,
        still.window.trans ended.window, still.exclusions.trans ended.exclusions, alarm,
          timer, Nat.le_trans due order⟩
    · have unhealthy := alsoOver.unhealthy
      rw [ended.healthy] at unhealthy
      cases unhealthy

theorem SameExclusion.of_agenda {before after : Router} {ref : ClusterRef} {record : Nat}
    (health : after.healthOf ref record = before.healthOf ref record)
    (shutDown : after.isShutDown ref = before.isShutDown ref)
    (agenda : ∀ generation,
      after.agenda.filter (fun alarm => alarm.ends ref record generation) =
        before.agenda.filter (fun alarm => alarm.ends ref record generation)) :
    SameExclusion before after ref record := by
  have timers : after.timers ref record = before.timers ref record := by
    rw [Router.timers, Router.timers, health, agenda]
  refine ⟨by rw [health], by rw [health], by rw [health], fun alarm timer =>
    timers ▸ timer, ?_⟩
  exact fun working _ => ⟨shutDown ▸ working, timers⟩

theorem SameExclusion.of_health {before after : Router} {ref : ClusterRef} {record : Nat}
    (agenda : after.agenda = before.agenda)
    (shutDown : after.isShutDown ref = before.isShutDown ref)
    (passive : (after.healthOf ref record).passive = (before.healthOf ref record).passive)
    (exclusions : (after.healthOf ref record).exclusions =
      (before.healthOf ref record).exclusions)
      (window : (after.healthOf ref record).window =
        (before.healthOf ref record).window) :
    SameExclusion before after ref record := by
  have timers : after.timers ref record = before.timers ref record := by
    rw [Router.timers, Router.timers, agenda, exclusions]
  exact ⟨passive, exclusions, window, fun alarm timer => timers ▸ timer,
    fun working _ => ⟨shutDown ▸ working, timers⟩⟩

theorem sameExclusion_change {ref : ClusterRef} {before after : Cluster}
    (builtin : policies.active.entries = ActivePolicy.builtin)
    (present : router.cluster? ref = some before) (changed : before.Change policies after)
    (other : ClusterRef) (record : Nat) :
    SameExclusion router (router.setCluster ref after) other record := by
  have probed := changed.probed_of_builtin builtin
  exact .of_health rfl (isShutDown_setCluster present changed.shutDown other)
    (healthPart_setCluster present DestinationHealth.passive other
      (probed.passive record))
    (healthPart_setCluster present DestinationHealth.exclusions other
      (probed.exclusions record))
    (healthPart_setCluster present DestinationHealth.window other (probed.window record))

private theorem sameExclusion_add (router : Router) {cluster : Cluster}
    (fresh : ∀ record, cluster.healthOf record = {}) (working : cluster.shutDown = false)
    (ref : ClusterRef) (record : Nat) :
    SameExclusion router (router.addCluster cluster).1 ref record := by
  refine .of_agenda ?_ ?_ fun _ => rfl
  · exact view_addCluster (fun cluster => cluster.healthOf record) {} router
      (fresh record) ref
  · rw [isShutDown, cluster?_addCluster]
    split
    · rename_i same
      rw [same, isShutDown, cluster?_added_eq_none, Option.any_some, working]
      rfl
    · rfl

private theorem healthOf_close (router : Router) (closed ref : ClusterRef)
    (record : Nat) :
    (router.close closed).healthOf ref record = router.healthOf ref record := by
  unfold close mapCluster
  split
  · rfl
  · rename_i cluster present
    have kept : ({ cluster with shutDown := true } : Cluster).healthOf record =
        cluster.healthOf record := rfl
    exact view_setCluster (fun cluster => cluster.healthOf record) {} present kept ref

private theorem isShutDown_close_of_ne (router : Router) {closed ref : ClusterRef}
    (different : ref ≠ closed) :
    (router.close closed).isShutDown ref = router.isShutDown ref := by
  rw [isShutDown, close, cluster?_mapCluster, if_neg different]
  rfl

private theorem isShutDown_close {closed : ClusterRef} {cluster : Cluster}
    (present : router.cluster? closed = some cluster) :
    (router.close closed).isShutDown closed = true := by
  rw [isShutDown, close, cluster?_mapCluster, if_pos rfl, present]
  rfl

private theorem timers_close (router : Router) (closed ref : ClusterRef) (record : Nat) :
    Router.timers
        ((router.close closed).dropAlarms (fun alarm => alarm.cluster == closed)) ref
        record =
      (router.timers ref record).filter (fun alarm => !(alarm.cluster == closed)) := by
  rcases mapCluster_fields router closed
    (fun cluster => { cluster with shutDown := true }) with ⟨clusters, same⟩
  have agenda : (router.close closed).agenda = router.agenda := by rw [close, same]
  have health : Router.healthOf
        ((router.close closed).dropAlarms (fun alarm => alarm.cluster == closed)) ref
        record =
      router.healthOf ref record := healthOf_close router closed ref record
  rw [Router.timers, Router.timers, health, dropAlarms, agenda, List.filter_filter,
    List.filter_filter]
  exact List.filter_congr fun alarm _ => Bool.and_comm _ _

theorem sameExclusion_close (router : Router) (closed ref : ClusterRef) (record : Nat) :
    SameExclusion router
      ((router.close closed).dropAlarms (fun alarm => alarm.cluster == closed)) ref
        record := by
  have health := healthOf_close router closed ref record
  have timers := timers_close router closed ref record
  refine ⟨congrArg _ health, congrArg _ health, congrArg _ health, ?_, ?_⟩
  · intro alarm timer
    rw [timers] at timer
    exact (List.mem_filter.1 timer).1
  · intro working unhealthy
    have working : (router.close closed).isShutDown ref = false := working
    have unhealthy : ((router.close closed).healthOf ref record).passive = .unhealthy :=
      unhealthy
    have different : ref ≠ closed := by
      rintro rfl
      rw [health] at unhealthy
      rcases cluster?_of_unhealthy unhealthy with ⟨cluster, present⟩
      rw [isShutDown_close present] at working
      cases working
    refine ⟨(isShutDown_close_of_ne router different).symm.trans working, ?_⟩
    rw [timers, List.filter_eq_self]
    intro alarm timer
    rcases (Alarm.ends_iff _ _ _ _).1 (List.mem_filter.1 timer).2 with ⟨cluster, -⟩
    rw [cluster, beq_false_of_ne different]
    rfl

private theorem sameExclusion_drop (router : Router) {drop : Alarm → Bool}
    (looping : ∀ alarm, drop alarm = true → alarm.wakeup.loop? ≠ none)
    (ref : ClusterRef) (record : Nat) :
    SameExclusion router (router.dropAlarms drop) ref record := by
  refine .of_agenda rfl rfl fun generation => ?_
  rw [dropAlarms, List.filter_filter]
  apply List.filter_congr
  intro alarm _
  cases dropped : drop alarm with
  | false => simp
  | true => simp [Alarm.not_ends_of_looping (looping alarm dropped)]

theorem healthOf_reactivate (router : Router) (ref : ClusterRef) (exclusion : Exclusion)
    (other : ClusterRef) (record : Nat) :
    (router.mapCluster ref (fun cluster => (cluster.reactivate exclusion).value)).healthOf
        other record =
      if other = ref ∧ record = exclusion.record ∧
          (router.healthOf other record).exclusions = exclusion.generation ∧
          (router.healthOf other record).passive = .unhealthy then
        { router.healthOf other record with window := .empty, passive := .healthy }
      else router.healthOf other record := by
  rw [healthOf, cluster?_mapCluster]
  by_cases same : other = ref
  · subst same
    rw [if_pos rfl]
    cases present : router.cluster? other with
    | none =>
        have fresh : router.healthOf other record = {} := by rw [healthOf, present]; rfl
        rw [fresh, if_neg]
        · rfl
        · intro current
          cases current.2.2.2
    | some cluster =>
        rw [healthOf_of_cluster? present]
        refine (Cluster.healthOf_reactivate cluster exclusion record).trans ?_
        simp only [true_and]
  · rw [if_neg same, if_neg fun current => same current.1]
    rfl

private theorem isShutDown_reactivate (router : Router) (ref : ClusterRef)
    (exclusion : Exclusion) (other : ClusterRef) :
    (router.mapCluster ref (fun cluster =>
      (cluster.reactivate exclusion).value)).isShutDown
      other = router.isShutDown other := by
  unfold mapCluster
  split
  · rfl
  · rename_i cluster present
    exact isShutDown_setCluster present
      (Cluster.onlyHealth_reactivate cluster exclusion).shutDown
      other

theorem lapse_reactivate {position : Nat} {alarm : Alarm} {exclusion : Exclusion}
    (pending : router.agenda[position]? = some alarm)
    (wakeup : alarm.wakeup = .reactivate exclusion) (due : alarm.due ≤ router.now)
    (ref : ClusterRef) (record : Nat) :
    Lapse router
      ((router.eraseAlarm position).mapCluster alarm.cluster
        (fun cluster => (cluster.reactivate exclusion).value)) ref record := by
  have health :=
    healthOf_reactivate (router.eraseAlarm position) alarm.cluster exclusion ref record
  have shutDown :=
    isShutDown_reactivate (router.eraseAlarm position) alarm.cluster exclusion ref
  have fields := mapCluster_fields (router.eraseAlarm position) alarm.cluster
    (fun cluster => (cluster.reactivate exclusion).value)
  rcases fields with ⟨clusters, same⟩
  have agenda : Router.agenda ((router.eraseAlarm position).mapCluster alarm.cluster
      (fun cluster => (cluster.reactivate exclusion).value)) =
        router.agenda.eraseIdx position := by
    rw [same]
    rfl
  have now : Router.now ((router.eraseAlarm position).mapCluster alarm.cluster
      (fun cluster => (cluster.reactivate exclusion).value)) = router.now := by
    rw [same]
    rfl
  generalize (router.eraseAlarm position).mapCluster alarm.cluster
    (fun cluster => (cluster.reactivate exclusion).value) =
      next at health shutDown agenda now ⊢
  have kept :
      (router.eraseAlarm position).healthOf ref record = router.healthOf ref record := rfl
  rw [kept] at health
  by_cases current : ref = alarm.cluster ∧ record = exclusion.record ∧
      (router.healthOf ref record).exclusions = exclusion.generation ∧
      (router.healthOf ref record).passive = .unhealthy
  · rw [if_pos current] at health
    rcases current with ⟨cluster, number, generation, unhealthy⟩
    have timer : alarm ∈ router.timers ref record := by
      refine List.mem_filter.2 ⟨List.mem_of_getElem? pending,
        (Alarm.ends_iff _ _ _ _).2 ?_⟩
      exact ⟨cluster.symm, exclusion.period, by rw [wakeup, generation, number]⟩
    refine .inr ⟨unhealthy, ?_, ?_, ?_, alarm, timer, now ▸ due⟩
    all_goals rw [health]
  · rw [if_neg current] at health
    refine .inl ⟨by rw [health], by rw [health], by rw [health], ?_, ?_⟩
    · intro other timer
      rw [timers, agenda, health] at timer
      rcases List.mem_filter.1 timer with ⟨stillPending, ends⟩
      exact List.mem_filter.2 ⟨List.mem_of_mem_eraseIdx stillPending, ends⟩
    · intro working unhealthy
      rw [health] at unhealthy
      have other :
          alarm.ends ref record (router.healthOf ref record).exclusions = false := by
        apply eq_false_of_ne_true
        intro ends
        rcases (Alarm.ends_iff _ _ _ _).1 ends with ⟨cluster, period, timer⟩
        rw [wakeup, Wakeup.reactivate.injEq] at timer
        rw [timer] at current
        exact current ⟨cluster.symm, rfl, rfl, unhealthy⟩
      rw [timers, timers, agenda, health, filter_eraseIdx_of_not pending other]
      exact ⟨shutDown ▸ working, rfl⟩

theorem Move.lapse (move : Move policies router next)
    (builtin : policies.active.entries = ActivePolicy.builtin) (ref : ClusterRef)
    (record : Nat) :
    Lapse router next ref record := by
  cases move with
  | change present changed =>
      exact .inl (sameExclusion_change builtin present changed ref record)
  | @add model accepted =>
      refine .inl (sameExclusion_add router (fun record => ?_) ?_ ref record)
      · exact Cluster.healthOf_applyModel (.ofModel model) model record
      · exact Cluster.shutDown_applyModel (.ofModel model) model
  | unregister => exact .inl (.of_agenda rfl rfl fun _ => rfl)
  | shutDown => exact .inl (sameExclusion_close router _ ref record)
  | note => exact .inl (.of_agenda rfl rfl fun _ => rfl)
  | @set alarm looping =>
      refine .inl (.of_agenda rfl rfl fun generation => ?_)
      rw [setAlarm, List.filter_append, List.filter_cons_of_neg, List.filter_nil,
        List.append_nil]
      rw [Alarm.not_ends_of_looping looping]
      exact Bool.false_ne_true
  | drop looping => exact .inl (sameExclusion_drop router looping ref record)
  | wait => exact .inl (.of_agenda rfl rfl fun _ => rfl)
  | ring pending looping =>
      exact .inl (.of_agenda rfl rfl fun generation =>
        filter_eraseIdx_of_not pending
          (Alarm.not_ends_of_looping looping ref record generation))
  | reactivate pending wakeup due => exact lapse_reactivate pending wakeup due ref record

theorem Moves.lapse (moves : Moves policies router next)
    (builtin : policies.active.entries = ActivePolicy.builtin) (ref : ClusterRef)
    (record : Nat) :
    Lapse router next ref record := by
  induction moves with
  | refl => exact .inl (.refl router ref record)
  | tail _ move induction =>
      exact induction.trans (move.lapse builtin ref record) move.frame.order

end Router

end Gateway
