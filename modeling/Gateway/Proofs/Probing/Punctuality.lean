import Gateway.Proofs.Probing.Course

namespace Gateway

/-! Runs in which time passes by letting the alarms ring in their order. No alarm of a
probe loop is ever overdue there, so each rings at the instant for which it was set. -/

/-- Whether an operation lets no alarm ring late or out of order. -/
def Operation.punctual : Operation → Bool
  | .ring _ | .elapse _ => false
  | _ => true

/-- Work of a loop is done at the instant for which its alarm was set. -/
def Work.InTime (work : Work) : Prop :=
  work.alarm.wakeup.loop?.isSome = true → work.time = work.alarm.due

namespace Router

variable {before after : Router}

/-- No alarm of a probe loop is overdue. -/
def Punctual (router : Router) : Prop :=
  ∀ alarm ∈ router.loopAlarms, router.now ≤ alarm.due

private theorem mem_alarmsOf_of_loopAlarms {router : Router} {alarm : Alarm}
    (pending : alarm ∈ router.loopAlarms) :
    ∃ loop, alarm ∈ router.alarmsOf alarm.cluster loop := by
  rcases List.mem_filter.1 pending with ⟨member, looping⟩
  rcases Option.isSome_iff_exists.1 looping with ⟨loop, wakeup⟩
  exact ⟨loop, List.mem_filter.2 ⟨member, (belongsToLoop_iff _ _ _).2 ⟨rfl, wakeup⟩⟩⟩

theorem mem_loopAlarms_of_alarmsOf {router : Router} {ref : ClusterRef} {loop : Nat}
    {alarm : Alarm} (pending : alarm ∈ router.alarmsOf ref loop) :
    alarm ∈ router.loopAlarms := by
  rcases List.mem_filter.1 pending with ⟨member, own⟩
  exact List.mem_filter.2 ⟨member, by rw [((belongsToLoop_iff _ _ _).1 own).2]; rfl⟩

theorem Punctual.unnoticed (punctual : before.Punctual)
    (unnoticed : Unnoticed before after) :
    after.Punctual := by
  intro alarm pending
  rw [unnoticed.alarms] at pending
  rw [unnoticed.now]
  exact punctual alarm pending

theorem Punctual.shift (punctual : before.Punctual) (looped : ∀ id, after.Looped id)
    (now : after.now = before.now) (shift : ∀ ref loop, Shift before after ref loop) :
    after.Punctual := by
  intro alarm pending
  rcases mem_alarmsOf_of_loopAlarms pending with ⟨loop, own⟩
  have running : after.Runs alarm.cluster loop := by
    by_contra still
    rw [(looped _).idle _ loop rfl still] at own
    cases own
  rw [now]
  cases shift alarm.cluster loop with
  | kept _ alarms =>
      rw [alarms] at own
      exact punctual alarm (mem_loopAlarms_of_alarmsOf own)
  | stopped _ _ still => exact absurd running still
  | started _ _ begins =>
      rw [begins running, List.mem_singleton] at own
      rw [own]
      exact Nat.le_refl _

end Router

namespace Scene

variable {policies : Policies} {scene : Scene}

theorem punctual_work {position : Nat} {alarm : Alarm}
    (pending : scene.router.agenda[position]? = some alarm)
    (least : ∀ other ∈ scene.router.agenda, alarm.due ≤ other.due)
    (punctual : scene.router.Punctual) :
    (scene.work position alarm).after.router.Punctual ∧
      (alarm.wakeup.loop?.isSome = true →
        (scene.work position alarm).time = alarm.due) := by
  have moment : (scene.rung position alarm).router.now = max scene.router.now alarm.due :=
    rfl
  have rang := rang_wake (scene.rung position alarm) alarm
  constructor
  · intro other later
    have now : (scene.work position alarm).after.router.now =
        max scene.router.now alarm.due := rang.now
    rcases List.mem_filter.1 later with ⟨member, looping⟩
    rcases rang.agenda with ⟨more, agenda, -, set⟩
    have agenda : (scene.work position alarm).after.router.agenda =
        scene.router.agenda.eraseIdx position ++ more := agenda
    rw [agenda] at member
    rw [now]
    rcases List.mem_append.1 member with old | new
    · have there := List.mem_of_mem_eraseIdx old
      exact Nat.max_le.2 ⟨punctual other (List.mem_filter.2 ⟨there, looping⟩),
        least other there⟩
    · exact Nat.le_of_lt (moment ▸ set other new)
  · intro looping
    have due := punctual alarm (List.mem_filter.2 ⟨List.mem_of_getElem? pending, looping⟩)
    exact moment.trans (Nat.max_eq_right due)

private theorem punctual_ring (count horizon : Nat) (punctual : scene.router.Punctual) :
    (ring count horizon scene).value.router.Punctual ∧
      ∀ work ∈ ringing count horizon scene, work.InTime := by
  induction count generalizing scene with
  | zero => exact ⟨punctual, List.forall_mem_nil _⟩
  | succ count induction =>
      simp only [ring, ringing]
      cases next : nextAlarm? scene.router.agenda with
      | none => exact ⟨punctual, List.forall_mem_nil _⟩
      | some found =>
          rcases found with ⟨alarm, others⟩
          have least := nextAlarm?_least next
          rcases nextAlarm?_eq_some next with ⟨position, pending, rfl⟩
          rcases punctual_work pending least punctual with ⟨after, inTime⟩
          rcases induction after with ⟨later, rest⟩
          dsimp only
          split
          · exact ⟨later, List.forall_mem_cons.2 ⟨inTime, rest⟩⟩
          · exact ⟨punctual, List.forall_mem_nil _⟩

theorem punctual_passed {now : Nat} (punctual : scene.router.Punctual)
    (early : ∀ alarm ∈ scene.router.agenda, now ≤ alarm.due) :
    Router.Punctual { scene.router with now := max scene.router.now now } := by
  intro alarm pending
  exact Nat.max_le.2 ⟨punctual alarm pending, early alarm (List.mem_filter.1 pending).1⟩

private theorem punctual_advance (punctual : scene.router.Punctual) (limit : Nat) :
    (scene.advance limit).value.router.Punctual ∧
      ∀ work ∈ scene.workOf (.advance limit), work.InTime := by
  rcases punctual_ring (scene.alarmsBefore (limit + 1)) (limit + 1) punctual with
    ⟨after, inTime⟩
  have settled := settled_ring (Nat.le_refl (scene.alarmsBefore (limit + 1)))
  refine ⟨punctual_passed after fun alarm pending => ?_, inTime⟩
  exact Nat.le_of_succ_le (settled.agenda alarm pending)

private theorem punctual_checkOnce (punctual : scene.router.Punctual) (ref : ClusterRef) :
    (scene.checkOnce ref).value.router.Punctual ∧
      ∀ work ∈ scene.workOf (.check ref), work.InTime := by
  have same := router_send scene ref
  simp only [checkOnce, workOf, Traced.value_bind]
  generalize (scene.send ref).value = result at same ⊢
  rcases result with ⟨after, sent⟩
  dsimp only at same ⊢
  rw [← same] at punctual
  cases sent with
  | none => exact ⟨punctual, List.forall_mem_nil _⟩
  | some answer =>
      rcases answer with ⟨policy, batch⟩
      let horizon := after.router.now + batch.duration
      rcases punctual_ring (after.alarmsBefore horizon) horizon punctual with
        ⟨rung, inTime⟩
      have settled := settled_ring (Nat.le_refl (after.alarmsBefore horizon))
      have arrived : (after.advanceBefore horizon).value.router.Punctual :=
        punctual_passed rung settled.agenda
      exact ⟨arrived.unnoticed (Router.unnoticed_judge _ ref policy batch.outcome),
        inTime⟩

private theorem punctual_perform (sound : Router.Sound policies true scene.router)
    {operation : Operation} (timely : operation.punctual = true)
    (punctual : scene.router.Punctual) :
    (scene.perform operation).value.router.Punctual ∧
      ∀ work ∈ scene.workOf operation, work.InTime := by
  cases reconfigures : operation.reconfigures with
  | true =>
      rw [workOf_reconfiguration reconfigures]
      refine ⟨?_, List.forall_mem_nil _⟩
      exact punctual.shift (sound_perform sound operation).looped
        (retained_perform reconfigures).now (shift_perform sound reconfigures)
  | false =>
      cases takesTime : operation.takesTime with
      | false =>
          rw [workOf_of_atOnce takesTime]
          exact ⟨punctual.unnoticed (unnoticed_perform reconfigures takesTime),
            List.forall_mem_nil _⟩
      | true =>
          cases operation with
          | check ref => exact punctual_checkOnce punctual ref
          | advance limit => exact punctual_advance punctual limit
          | ring => cases timely
          | elapse => cases timely
          | _ => cases takesTime

/-- In a run that keeps time, no loop is behind and none ever was. -/
theorem punctual_after (policies : Policies) {run : List Operation}
    (timely : ∀ operation ∈ run, operation.punctual = true) :
    ((fresh policies true).after run).router.Punctual ∧
      ∀ work ∈ (fresh policies true).worked run, work.InTime := by
  induction run with
  | nil => exact ⟨List.forall_mem_nil _, List.forall_mem_nil _⟩
  | cons operation earlier induction =>
      rcases List.forall_mem_cons.1 timely with ⟨latest, before⟩
      rcases induction before with ⟨punctual, done⟩
      rcases punctual_perform (sound_after policies true earlier) latest punctual with
        ⟨next, now⟩
      refine ⟨next, fun work member => ?_⟩
      rcases List.mem_append.1 member with former | new
      · exact done work former
      · exact now work new

end Scene

end Gateway
