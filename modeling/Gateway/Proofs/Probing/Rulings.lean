import Gateway.Proofs.Cluster.Judging
import Gateway.Proofs.Exclusions.Passage

namespace Gateway

/-! The rulings of a run: every batch of probe results that is judged there. In between,
nothing changes what probes have told about a destination. -/

/-- What probes have told about a destination. -/
def DestinationHealth.probing (health : DestinationHealth) : ActiveHealth × UInt32 :=
  (health.active, health.probeFailures)

/-- A batch of results that is judged: the gateway at that moment, whose results they are,
and who judges them. -/
structure Ruling where
  router : Router
  cluster : ClusterRef
  policy : ActivePolicy
  results : List (Nat × ProbeOutcome)

namespace Ruling

def of? (router : Router) (cluster : ClusterRef) (policy : ActivePolicy) :
    BatchEnd → Option Ruling
  | .completed results => some { router, cluster, policy, results }
  | .crashed => none

def after (ruling : Ruling) : Router :=
  (ruling.router.judge ruling.cluster ruling.policy (.completed ruling.results)).value

def changes (ruling : Ruling) : Bool :=
  (ruling.router.cluster? ruling.cluster).any (fun cluster =>
    (cluster.judgeProbes ruling.policy ruling.results).value.2)

/-- The threshold that is in force when the batch is judged. -/
def threshold (ruling : Ruling) : Nat :=
  ((ruling.router.cluster? ruling.cluster).map (fun cluster =>
    cluster.model.config.probeThreshold)).getD ActivePolicy.defaultThreshold

def outcome? (ruling : Ruling) (ref : ClusterRef) (record : Nat) : Option ProbeOutcome :=
  if ruling.cluster = ref then ruling.results.lookup record else none

end Ruling

/-- The results that are judged when an alarm has rung. -/
def Work.ruling? (work : Work) : Option Ruling :=
  match work.alarm.wakeup with
  | .reactivate _ => none
  | .settle _ policy outcome =>
      Ruling.of? work.scene.router work.alarm.cluster policy outcome
  | .beginProbing _ | .tick _ =>
      work.sent?.bind (fun (policy, batch) =>
        if batch.duration = 0 then
          Ruling.of? work.scene.router work.alarm.cluster policy batch.outcome
        else none)

namespace Scene

def rulingByHand? (scene : Scene) : Operation → Option Ruling
  | .check ref =>
      match (scene.send ref).value with
      | (_, none) => none
      | (scene, some (policy, batch)) =>
          Ruling.of?
            (scene.advanceBefore (scene.router.now + batch.duration)).value.router ref
            policy batch.outcome
  | _ => none

def rulingsOf (scene : Scene) (operation : Operation) : List Ruling :=
  (scene.workOf operation).filterMap Work.ruling? ++
    (scene.rulingByHand? operation).toList

def rulings (start : Scene) : List Operation → List Ruling
  | [] => []
  | operation :: earlier =>
      start.rulings earlier ++ (start.after earlier).rulingsOf operation

end Scene

namespace Cluster

theorem probing_observe (cluster : Cluster) (regular : cluster.Regular) (now record : Nat)
    (outcome : Outcome) (number : Nat) :
    ((cluster.observe now record outcome).value.1.healthOf number).probing =
      (cluster.healthOf number).probing := by
  cases heard : cluster.model.passive with
  | none =>
      have unheard : (cluster.observe now record outcome).value = (cluster, none) := by
        simp only [observe, heard, Traced.value_pure]
      rw [unheard]
  | some policy =>
      cases stored : cluster.records[record]? with
      | none =>
          have unheard :
              (cluster.observe now record outcome).value = (cluster, none) := by
            simp only [observe, heard, stored, Traced.value_pure]
          rw [unheard]
      | some destination =>
          rw [healthOf_observe heard stored, regular.eq heard]
          split
          · rename_i here
            rcases PassivePolicy.observe_transportFailureRate_frame
              cluster.model.config now
              destination outcome with ⟨active, -, failures⟩
            rw [here, healthOf_of_getElem? stored, DestinationHealth.judged]
            split <;> exact Prod.ext active failures
          · rfl

theorem probing_reactivate (cluster : Cluster) (exclusion : Exclusion) (number : Nat) :
    ((cluster.reactivate exclusion).value.healthOf number).probing =
      (cluster.healthOf number).probing := by
  rw [healthOf_reactivate]
  split <;> rfl

end Cluster

namespace Router

variable {before middle after : Router} {rulings more : List Ruling}

def SameProbing (before after : Router) : Prop :=
  ∀ ref record, (after.healthOf ref record).probing = (before.healthOf ref record).probing

theorem SameProbing.refl (router : Router) : SameProbing router router :=
  fun _ _ => rfl

theorem SameProbing.trans (first : SameProbing before middle)
    (last : SameProbing middle after) :
    SameProbing before after :=
  fun ref record => (last ref record).trans (first ref record)

theorem SameProbing.active (same : SameProbing before after) (ref : ClusterRef)
    (record : Nat) :
    (after.healthOf ref record).active = (before.healthOf ref record).active :=
  congrArg Prod.fst (same ref record)

theorem SameProbing.probeFailures (same : SameProbing before after) (ref : ClusterRef)
    (record : Nat) :
    (after.healthOf ref record).probeFailures =
      (before.healthOf ref record).probeFailures :=
  congrArg Prod.snd (same ref record)

private theorem SameRecords.sameProbing (same : SameRecords before after) :
    SameProbing before after :=
  fun ref record => congrArg DestinationHealth.probing (same ref record)

/-- A path from one state to another by rulings, between which probes tell nothing. -/
inductive Ruled : Router → List Ruling → Router → Prop
  | calm {before after : Router} (same : SameProbing before after) : Ruled before [] after
  | judged {before after : Router} {ruling : Ruling} {rulings : List Ruling}
      (same : SameProbing before ruling.router)
      (rest : Ruled ruling.after rulings after) :
      Ruled before (ruling :: rulings) after

namespace Ruled

private theorem after_calm {earlier : Router} (same : SameProbing earlier before)
    (ruled : Ruled before rulings after) : Ruled earlier rulings after := by
  cases ruled with
  | calm also => exact .calm (same.trans also)
  | judged also rest => exact .judged (same.trans also) rest

theorem trans (first : Ruled before rulings middle) (last : Ruled middle more after) :
    Ruled before (rulings ++ more) after := by
  induction first with
  | calm same => exact last.after_calm same
  | judged same _ induction => exact .judged same (induction last)

theorem calmly (ruled : Ruled before rulings middle) (same : SameProbing middle after) :
    Ruled before rulings after := by
  have all := ruled.trans (.calm same)
  rwa [List.append_nil] at all

theorem cut (ruled : Ruled before (rulings ++ more) after) :
    ∃ middle, Ruled before rulings middle ∧ Ruled middle more after := by
  induction rulings generalizing before with
  | nil => exact ⟨before, .calm (.refl before), ruled⟩
  | cons ruling rest induction =>
      cases ruled with
      | judged same later =>
          rcases induction later with ⟨middle, first, last⟩
          exact ⟨middle, .judged same first, last⟩

end Ruled

/-! What does not judge probes. -/

private theorem sameProbing_observe {router : Router} (regular : router.Regular)
    (ref : ClusterRef) (record : Nat) (outcome : Outcome) :
    SameProbing router (router.observe ref record outcome).value := by
  rcases (heard_observe router ref record outcome).cases with
    ⟨-, same⟩ | ⟨cluster, agenda, present, same⟩
  · rw [same]
    exact .refl router
  · rw [same]
    intro other number
    exact healthPart_setCluster present DestinationHealth.probing other
      (cluster.probing_observe (regular ref cluster present) router.now record
        outcome number)

private theorem sameProbing_wait (router : Router) (now : Nat) (agenda : List Alarm) :
    SameProbing router { router with now, agenda } :=
  fun _ _ => rfl

private theorem sameProbing_scheduleTick (router : Router) (target : ClusterRef)
    (loop : Nat) :
    SameProbing router (router.scheduleTick target loop) := by
  unfold scheduleTick
  split <;> exact fun _ _ => rfl

private theorem sameProbing_reactivate (router : Router) (target : ClusterRef)
    (exclusion : Exclusion) :
    SameProbing router
      (router.mapCluster target (fun cluster =>
        (cluster.reactivate exclusion).value)) := by
  intro ref record
  unfold mapCluster
  split
  · rfl
  · rename_i cluster present
    exact healthPart_setCluster present DestinationHealth.probing ref
      (cluster.probing_reactivate exclusion record)

/-! What does judge them. -/

private theorem ruled_judge (router : Router) (target : ClusterRef)
    (policy : ActivePolicy) (outcome : BatchEnd) :
    Ruled router (Ruling.of? router target policy outcome).toList
      (router.judge target policy outcome).value := by
  cases outcome with
  | crashed => exact .calm (.refl router)
  | completed results => exact .judged (.refl router) (.calm (.refl _))

private theorem ruled_settle (router : Router) (target : ClusterRef) (loop : Nat)
    (policy : ActivePolicy) (outcome : BatchEnd) :
    Ruled router (Ruling.of? router target policy outcome).toList
      (router.settle target loop policy outcome).value := by
  have judged := ruled_judge router target policy outcome
  unfold settle
  split <;> exact judged.calmly (sameProbing_scheduleTick _ target loop)

end Router

namespace Scene

variable {scene : Scene}

open Router

private theorem ruled_tick (scene : Scene) (target : ClusterRef) (loop due : Nat) :
    Ruled scene.router
      (Work.ruling?
        { scene, alarm := { due, cluster := target, wakeup := .tick loop } }).toList
      (scene.tick target loop).value.router := by
  have same := router_send scene target
  have sent :
      Work.sent? { scene, alarm := { due, cluster := target, wakeup := .tick loop } } =
        (scene.send target).value.2 := rfl
  simp only [Work.ruling?, sent, tick, Traced.value_bind]
  generalize (scene.send target).value = result at same ⊢
  rcases result with ⟨after, sent⟩
  dsimp only at same ⊢
  rw [same]
  cases sent with
  | none => exact .calm (sameProbing_scheduleTick scene.router target loop)
  | some answer =>
      rcases answer with ⟨policy, batch⟩
      dsimp only [Option.bind_some]
      split
      · exact ruled_settle scene.router target loop policy batch.outcome
      · exact .calm (sameProbing_wait scene.router _ _)

private theorem ruled_wake (scene : Scene) (alarm : Alarm) :
    Ruled scene.router (Work.ruling? { scene, alarm }).toList
      (scene.wake alarm).value.router := by
  rcases alarm with ⟨due, target, wakeup⟩
  cases wakeup with
  | reactivate exclusion =>
      simp only [wake, Traced.value_bind, Traced.value_pure, Router.value_withCluster]
      exact .calm (sameProbing_reactivate scene.router target exclusion)
  | beginProbing loop => exact ruled_tick scene target loop due
  | tick loop => exact ruled_tick scene target loop due
  | settle loop policy outcome =>
      exact ruled_settle scene.router target loop policy outcome

private theorem ruled_work (scene : Scene) (position : Nat) (alarm : Alarm) :
    Ruled scene.router (scene.work position alarm).ruling?.toList
      (scene.work position alarm).after.router :=
  (ruled_wake (scene.rung position alarm) alarm).after_calm
    (sameProbing_wait scene.router _ _)

private theorem filterMap_ruling?_cons (work : Work) (works : List Work) :
    (work :: works).filterMap Work.ruling? =
      work.ruling?.toList ++ works.filterMap Work.ruling? := by
  rw [List.filterMap_cons]
  cases work.ruling? <;> rfl

private theorem ruled_ring (count horizon : Nat) (scene : Scene) :
    Ruled scene.router ((ringing count horizon scene).filterMap Work.ruling?)
      (ring count horizon scene).value.router := by
  induction count generalizing scene with
  | zero => exact .calm (.refl scene.router)
  | succ count induction =>
      simp only [ring, ringing]
      cases next : nextAlarm? scene.router.agenda with
      | none => exact .calm (.refl scene.router)
      | some found =>
          rcases found with ⟨alarm, others⟩
          rcases nextAlarm?_eq_some next with ⟨position, pending, rfl⟩
          dsimp only
          split
          · have worked := ruled_work scene position alarm
            rw [filterMap_ruling?_cons]
            exact worked.trans (induction (scene.work position alarm).after)
          · exact .calm (.refl scene.router)

private theorem ruled_checkOnce (scene : Scene) (target : ClusterRef) :
    Ruled scene.router (scene.rulingsOf (.check target))
    (scene.checkOnce target).value.router := by
  have same := router_send scene target
  simp only [checkOnce, rulingsOf, workOf, rulingByHand?, Traced.value_bind]
  generalize (scene.send target).value = result at same ⊢
  rcases result with ⟨after, sent⟩
  dsimp only at same ⊢
  rw [← same]
  cases sent with
  | none => exact .calm (.refl after.router)
  | some answer =>
      rcases answer with ⟨policy, batch⟩
      let horizon := after.router.now + batch.duration
      have rung := ruled_ring (after.alarmsBefore horizon) horizon after
      have arrived : Ruled after.router
          ((ringing (after.alarmsBefore horizon) horizon after).filterMap Work.ruling?)
          (after.advanceBefore horizon).value.router :=
        rung.calmly (sameProbing_wait _ _ _)
      exact arrived.trans (ruled_judge _ target policy batch.outcome)

theorem ruled_perform (regular : scene.router.Regular) (operation : Operation) :
    Ruled scene.router (scene.rulingsOf operation)
    (scene.perform operation).value.router := by
  cases takesTime : operation.takesTime with
  | false =>
      have silent : scene.rulingsOf operation = [] := by
        rw [rulingsOf, workOf_of_atOnce takesTime]
        cases operation with
        | check => cases takesTime
        | _ => rfl
      rw [silent]
      refine .calm ?_
      cases reported : scene.router.reported? operation with
      | none => exact (sameRecords_perform reported takesTime).sameProbing
      | some report =>
          have heard :=
            sameProbing_observe regular report.1.cluster report.1.record report.2
          have same := sameHealth_reported reported
          exact heard.trans fun ref record =>
            congrArg DestinationHealth.probing (same.health ref record)
  | true =>
      cases operation with
      | check target => exact ruled_checkOnce scene target
      | ring position =>
          simp only [perform, ringAt, rulingsOf, workOf, rulingByHand?,
            Option.toList_none, List.append_nil]
          cases pending : scene.router.agenda[position]? with
          | none => exact .calm (.refl scene.router)
          | some alarm =>
              rw [Option.map_some, Option.toList_some, filterMap_ruling?_cons]
              exact (ruled_work scene position alarm).trans (.calm (.refl _))
      | elapse => exact .calm (sameProbing_wait scene.router _ _)
      | advance limit =>
          have rung := ruled_ring (scene.alarmsBefore (limit + 1)) (limit + 1) scene
          simp only [rulingsOf, rulingByHand?, Option.toList_none, List.append_nil]
          exact rung.calmly (sameProbing_wait _ _ _)
      | _ => cases takesTime

theorem ruled_after (source : RandomSource) (protector : Protector) (background : Bool)
    (run : List Operation) :
    Ruled (fresh (.builtin source protector) background).router
      ((fresh (.builtin source protector) background).rulings run)
      ((fresh (.builtin source protector) background).after run).router := by
  induction run with
  | nil => exact .calm (.refl _)
  | cons operation earlier induction =>
      have known :=
        known_after (Policies.choosing_builtin source protector) background earlier
      exact induction.trans (ruled_perform known.regular operation)

end Scene

end Gateway
