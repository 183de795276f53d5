import Gateway.Proofs.Registry.Lasting
import Gateway.Proofs.Router.Reporting

namespace Gateway

/-! What happens to the passive health of a record in an operation that reports nothing:
it is as before, or the timer of its own exclusion has rung. -/

/-- Whether an alarm rings that is the timer of the present exclusion of a record. -/
def Work.restores (work : Work) (ref : ClusterRef) (record : Nat) : Bool :=
  work.alarm.ends ref record (work.scene.router.healthOf ref record).exclusions &&
    decide ((work.scene.router.healthOf ref record).passive = .unhealthy)

private theorem Work.restores_of_looping {work : Work}
    (looping : work.alarm.wakeup.loop? ≠ none) (ref : ClusterRef) (record : Nat) :
    work.restores ref record = false := by
  rw [restores, Alarm.not_ends_of_looping looping, Bool.false_and]

private theorem Work.restores_iff {scene : Scene} {alarm : Alarm} {exclusion : Exclusion}
    {ref : ClusterRef} {record : Nat} (timer : alarm.wakeup = .reactivate exclusion) :
    Work.restores { scene, alarm } ref record = true ↔
      ref = alarm.cluster ∧ record = exclusion.record ∧
        (scene.router.healthOf ref record).exclusions = exclusion.generation ∧
        (scene.router.healthOf ref record).passive = .unhealthy := by
  rw [restores, Bool.and_eq_true, Alarm.ends_iff, timer, decide_eq_true_eq]
  constructor
  · rintro ⟨⟨cluster, period, same⟩, unhealthy⟩
    cases same
    exact ⟨cluster.symm, rfl, rfl, unhealthy⟩
  · rintro ⟨cluster, rfl, generation, unhealthy⟩
    exact ⟨⟨cluster.symm, exclusion.period, by rw [generation]⟩, unhealthy⟩

namespace Router

variable {policies : Policies} {before middle after router : Router} {ref : ClusterRef}
  {record : Nat} {works more : List Work}

def SameRecords (before after : Router) : Prop :=
  ∀ ref record, after.healthOf ref record = before.healthOf ref record

theorem SameRecords.refl (router : Router) : SameRecords router router :=
  fun _ _ => rfl

/-- A record is as excluded as before, with the same samples. -/
structure SamePassive (before after : Router) (ref : ClusterRef)
    (record : Nat) : Prop where
  passive : (after.healthOf ref record).passive = (before.healthOf ref record).passive
  exclusions : (after.healthOf ref record).exclusions =
    (before.healthOf ref record).exclusions
  window : (after.healthOf ref record).window = (before.healthOf ref record).window

private theorem SameRecords.samePassive (same : SameRecords before after)
    (ref : ClusterRef) (record : Nat) : SamePassive before after ref record :=
  ⟨by rw [same], by rw [same], by rw [same]⟩

theorem SamePassive.trans (first : SamePassive before middle ref record)
    (last : SamePassive middle after ref record) :
    SamePassive before after ref record where
  passive := last.passive.trans first.passive
  exclusions := last.exclusions.trans first.exclusions
  window := last.window.trans first.window

private theorem SameExclusion.samePassive (same : SameExclusion before after ref record) :
    SamePassive before after ref record :=
  ⟨same.passive, same.exclusions, same.window⟩

inductive Passage (ref : ClusterRef) (record : Nat) (before : Router) (works : List Work)
    (after : Router) : Prop
  | kept (calm : ∀ work ∈ works, work.restores ref record = false)
      (same : SamePassive before after ref record)
  | restored (rung : ∃ work ∈ works, work.restores ref record = true)
      (unhealthy : (before.healthOf ref record).passive = .unhealthy)
      (healthy : (after.healthOf ref record).passive = .healthy)
      (window : (after.healthOf ref record).window = .empty)

namespace Passage

private theorem of_samePassive (same : SamePassive before after ref record) :
    Passage ref record before [] after :=
  .kept (fun _ member => absurd member List.not_mem_nil) same

private theorem of_sameRecords (same : SameRecords before after) :
    Passage ref record before [] after :=
  of_samePassive (same.samePassive ref record)

theorem trans (first : Passage ref record before works middle)
    (last : Passage ref record middle more after) :
    Passage ref record before (works ++ more) after := by
  cases first with
  | kept calm same =>
      cases last with
      | kept alsoCalm alsoSame =>
          refine .kept (fun work member => ?_) (same.trans alsoSame)
          rcases List.mem_append.1 member with earlier | later
          · exact calm work earlier
          · exact alsoCalm work later
      | restored rung unhealthy healthy window =>
          rcases rung with ⟨work, member, restores⟩
          exact .restored ⟨work, List.mem_append_right _ member, restores⟩
            (same.passive ▸ unhealthy) healthy window
  | restored rung unhealthy healthy window =>
      rcases rung with ⟨work, member, restores⟩
      cases last with
      | kept _ same =>
          exact .restored ⟨work, List.mem_append_left _ member, restores⟩ unhealthy
            (same.passive.trans healthy) (same.window.trans window)
      | restored _ alsoUnhealthy =>
          rw [healthy] at alsoUnhealthy
          cases alsoUnhealthy

theorem untimed (passage : Passage ref record before works middle)
    (same : SamePassive middle after ref record) :
    Passage ref record before works after := by
  have all := passage.trans (of_samePassive same)
  rwa [List.append_nil] at all

end Passage

/-! Probes do not follow the passive axis. -/

section Builtin

variable (builtin : policies.active.entries = ActivePolicy.builtin)

include builtin

private theorem samePassive_judge (router : Router) (target : ClusterRef)
    {policy : ActivePolicy} (listed : policy ∈ policies.active.entries)
    (outcome : BatchEnd) (ref : ClusterRef) (record : Nat) :
    SamePassive router (router.judge target policy outcome).value ref record := by
  cases outcome with
  | crashed => exact ⟨rfl, rfl, rfl⟩
  | completed results =>
      simp only [judge, Traced.value_map, value_withCluster]
      unfold mapCluster
      split
      · exact ⟨rfl, rfl, rfl⟩
      · rename_i cluster present
        exact (sameExclusion_change builtin present (.probed listed results) ref
          record).samePassive

private theorem samePassive_settle (router : Router) (target : ClusterRef) (loop : Nat)
    {policy : ActivePolicy} (listed : policy ∈ policies.active.entries)
    (outcome : BatchEnd) (ref : ClusterRef) (record : Nat) :
    SamePassive router (router.settle target loop policy outcome).value ref record := by
  have judged := samePassive_judge builtin router target listed outcome ref record
  have scheduled : ∀ router : Router,
      SamePassive router (router.scheduleTick target loop) ref record := by
    intro router
    unfold scheduleTick
    split <;> exact ⟨rfl, rfl, rfl⟩
  unfold settle
  split <;> exact judged.trans (scheduled _)

end Builtin

end Router

namespace Scene

variable {policies : Policies} {scene : Scene} {operation : Operation}
  (builtin : policies.active.entries = ActivePolicy.builtin)

include builtin

private theorem samePassive_tick (known : Router.Known policies scene.router)
    (target : ClusterRef) (loop : Nat) (ref : ClusterRef) (record : Nat) :
    Router.SamePassive scene.router (scene.tick target loop).value.router ref record := by
  have same := router_send scene target
  have judged := policy_send known target
  simp only [tick, Traced.value_bind]
  generalize (scene.send target).value = result at same judged ⊢
  rcases result with ⟨after, sent⟩
  dsimp only at same judged ⊢
  rw [← same]
  cases sent with
  | none =>
      simp only [Router.scheduleTick]
      split <;> exact ⟨rfl, rfl, rfl⟩
  | some answer =>
      rcases answer with ⟨policy, batch⟩
      dsimp only
      split
      · exact Router.samePassive_settle builtin _ target loop (judged policy batch rfl) _
          ref record
      · exact ⟨rfl, rfl, rfl⟩

private theorem passage_wake (known : Router.Known policies scene.router) {alarm : Alarm}
    (listed : ∀ loop policy outcome, alarm.wakeup = .settle loop policy outcome →
      policy ∈ policies.active.entries) (ref : ClusterRef) (record : Nat) :
    Router.Passage ref record scene.router [{ scene, alarm }]
    (scene.wake alarm).value.router := by
  have calm : alarm.wakeup.loop? ≠ none →
      ∀ work ∈ [Work.mk scene alarm], work.restores ref record = false := by
    intro looping work member
    rw [List.mem_singleton.1 member]
    exact Work.restores_of_looping looping ref record
  cases wakeup : alarm.wakeup with
  | reactivate exclusion =>
      have health :=
        Router.healthOf_reactivate scene.router alarm.cluster exclusion ref record
      have restores : Work.restores { scene, alarm } ref record = true ↔ _ :=
        Work.restores_iff wakeup
      simp only [wake, wakeup, Traced.value_bind, Traced.value_pure,
        Router.value_withCluster]
      cases timely : Work.restores { scene, alarm } ref record with
      | true =>
          have current := restores.1 timely
          rw [if_pos current] at health
          refine .restored ⟨_, List.mem_singleton_self _, timely⟩ current.2.2.2 ?_ ?_
          all_goals rw [health]
      | false =>
          have stale := fun current =>
              Bool.false_ne_true (timely.symm.trans (restores.2 current))
          rw [if_neg stale] at health
          refine .kept (fun work member => ?_) ?_
          · rw [List.mem_singleton.1 member]
            exact timely
          · exact ⟨congrArg _ health, congrArg _ health, congrArg _ health⟩
  | beginProbing loop =>
      have ticked := samePassive_tick builtin known alarm.cluster loop ref record
      refine .kept (calm (by simp [wakeup, Wakeup.loop?])) ?_
      simp only [wake, wakeup, Traced.value_bind]
      exact ticked
  | tick loop =>
      have ticked := samePassive_tick builtin known alarm.cluster loop ref record
      refine .kept (calm (by simp [wakeup, Wakeup.loop?])) ?_
      simp only [wake, wakeup]
      exact ticked
  | settle loop policy outcome =>
      have settled := Router.samePassive_settle builtin scene.router alarm.cluster loop
        (listed loop policy outcome wakeup) outcome ref record
      refine .kept (calm (by simp [wakeup, Wakeup.loop?])) ?_
      simp only [wake, wakeup, Traced.value_bind, Traced.value_pure]
      exact settled

private theorem passage_work (known : Router.Known policies scene.router) {position : Nat}
    {alarm : Alarm} (pending : scene.router.agenda[position]? = some alarm)
    (ref : ClusterRef) (record : Nat) :
    Router.Passage ref record scene.router [scene.work position alarm]
      (scene.work position alarm).after.router := by
  have rung : Router.Known policies (scene.rung position alarm).router :=
    ⟨known.tables, known.models,
      fun other member => known.alarms other (List.mem_of_mem_eraseIdx member),
        known.registered⟩
  have waited :
      Router.SamePassive scene.router (scene.rung position alarm).router ref record :=
    ⟨rfl, rfl, rfl⟩
  have listed := known.alarms alarm (List.mem_of_getElem? pending)
  exact (Router.Passage.of_samePassive waited).trans
    (passage_wake builtin rung listed ref record)

private theorem passage_ring (count horizon : Nat)
    (known : Router.Known policies scene.router) (ref : ClusterRef) (record : Nat) :
    Router.Passage ref record scene.router (ringing count horizon scene)
      (ring count horizon scene).value.router := by
  induction count generalizing scene with
  | zero => exact .of_sameRecords (.refl scene.router)
  | succ count induction =>
      simp only [ring, ringing]
      cases next : nextAlarm? scene.router.agenda with
      | none => exact .of_sameRecords (.refl scene.router)
      | some found =>
          rcases found with ⟨alarm, others⟩
          rcases nextAlarm?_eq_some next with ⟨position, pending, rfl⟩
          dsimp only
          split
          · have worked := passage_work builtin known pending ref record
            exact worked.trans (induction (known.moves (moves_wake known pending)))
          · exact .of_sameRecords (.refl scene.router)

private theorem passage_checkOnce (known : Router.Known policies scene.router)
    (target ref : ClusterRef) (record : Nat) :
    Router.Passage ref record scene.router (scene.workOf (.check target))
      (scene.checkOnce target).value.router := by
  have same := router_send scene target
  have judged := policy_send known target
  simp only [checkOnce, workOf, Traced.value_bind]
  generalize (scene.send target).value = result at same judged ⊢
  rcases result with ⟨after, sent⟩
  dsimp only at same judged ⊢
  rw [← same] at known ⊢
  cases sent with
  | none => exact .of_sameRecords (.refl after.router)
  | some answer =>
      rcases answer with ⟨policy, batch⟩
      let horizon := after.router.now + batch.duration
      have rung :=
        passage_ring builtin (after.alarmsBefore horizon) horizon known ref record
      have arrived : Router.Passage ref record after.router
          (ringing (after.alarmsBefore horizon) horizon after)
          (after.advanceBefore horizon).value.router :=
        rung.untimed ⟨rfl, rfl, rfl⟩
      exact arrived.untimed
        (Router.samePassive_judge builtin _ target (judged policy batch rfl) _ ref record)

omit builtin in
theorem sameRecords_perform (silent : scene.router.reported? operation = none)
    (atOnce : operation.takesTime = false) :
    Router.SameRecords scene.router (scene.perform operation).value.router := by
  cases ending : scene.router.ending? operation with
  | some ended =>
      -- The lease is not alive any more, or its end would be reported.
      have same := sameHealth_ending ending
      rw [Router.endLease_of_ended (Router.lease?_of_not_reported silent ending)] at same
      exact same.health
  | none =>
      intro ref record
      have lasting := Cluster.lasting_healthOf record
      have unrequested := Cluster.unrequested_healthOf record
      cases operation with
      | configure => exact samePart_perform lasting rfl ref
      | applySnapshot => exact samePart_perform lasting rfl ref
      | remove => exact samePart_perform lasting rfl ref
      | pick target request =>
          exact Router.samePart_pickNow unrequested scene.router target request ref
      | start target request =>
          exact Router.samePart_start unrequested scene.router target request ref
      | finish number result =>
          have nobody := Option.map_eq_none_iff.1 ending
          simp only [perform, Router.finish, nobody]
          rfl
      | abandon number =>
          have nobody := Option.map_eq_none_iff.1 ending
          simp only [perform, Router.abandon, nobody]
          rfl
      | acquire target taken =>
          simp only [perform]
          split
          · exact Router.samePart_acquire unrequested scene.router target taken ref
          · rfl
      | complete number outcome =>
          have same := scene.router.value_endHeldLease_of_unended ending
          simp only [perform, withRouter, Traced.value_bind, same]
          rfl
      | drop number =>
          have same : (scene.router.endHeldLease number .canceled).value = scene.router :=
            scene.router.value_endHeldLease_of_unended ending
          simp only [perform, withRouter, Traced.value_bind, same]
          rfl
      | report => cases silent
      | answer => rfl
      | check => cases atOnce
      | ring => cases atOnce
      | elapse => cases atOnce
      | advance => cases atOnce

/-- Besides a report, nothing but the timer of its own exclusion changes the passive
health of a record. -/
theorem passage_perform (known : Router.Known policies scene.router)
    (silent : scene.router.reported? operation = none) (ref : ClusterRef) (record : Nat) :
    Router.Passage ref record scene.router (scene.workOf operation)
      (scene.perform operation).value.router := by
  cases takesTime : operation.takesTime with
  | false =>
      rw [workOf_of_atOnce takesTime]
      exact .of_sameRecords (sameRecords_perform silent takesTime)
  | true =>
      cases operation with
      | check target => exact passage_checkOnce builtin known target ref record
      | ring position =>
          simp only [perform, ringAt, workOf]
          cases pending : scene.router.agenda[position]? with
          | none => exact .of_sameRecords (.refl scene.router)
          | some alarm => exact passage_work builtin known pending ref record
      | elapse => exact .of_sameRecords fun _ _ => rfl
      | advance limit =>
          have rung :=
            passage_ring builtin (scene.alarmsBefore (limit + 1)) (limit + 1) known ref
            record
          exact rung.untimed ⟨rfl, rfl, rfl⟩
      | _ => cases takesTime

end Scene

end Gateway
