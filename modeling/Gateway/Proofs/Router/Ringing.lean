import Gateway.Proofs.Router.Background
import Mathlib

namespace Gateway

/-! Letting time pass comes to an end. An alarm that rings sets at most one other, and
that for later; so the time that pending alarms leave until an instant grows less with
every alarm that rings before it, and after as many rings as that all of these rang. -/

theorem nextAlarm?_least {agenda others : List Alarm} {alarm : Alarm}
    (next : nextAlarm? agenda = some (alarm, others)) :
    ∀ pending ∈ agenda, alarm.due ≤ pending.due := by
  induction agenda generalizing alarm others with
  | nil => cases next
  | cons first rest induction =>
      intro pending there
      simp only [nextAlarm?] at next
      split at next
      · rename_i last
        cases next
        rw [Scene.nextAlarm?_eq_none last, List.mem_singleton] at there
        exact there ▸ Nat.le_refl _
      · rename_i later remaining found
        have least := induction found
        have order : alarm.due ≤ first.due ∧ alarm.due ≤ later.due := by
          split at next
          · cases next
            omega
          · cases next
            omega
        rcases List.mem_cons.1 there with here | there
        · exact here ▸ order.1
        · exact Nat.le_trans order.2 (least pending there)

namespace Router

/-- What an alarm leaves behind that has rung: the registry as it was, and at most
one more alarm, for later. -/
structure Rang (before after : Router) : Prop where
  registered : after.registered = before.registered
  now : after.now = before.now
  agenda : ∃ more : List Alarm, after.agenda = before.agenda ++ more ∧ more.length ≤ 1 ∧
    ∀ alarm ∈ more, before.now < alarm.due

/-- Two states of a gateway in which the same is to be done, and at the same time. -/
structure SameAgenda (before after : Router) : Prop where
  registered : after.registered = before.registered
  now : after.now = before.now
  agenda : after.agenda = before.agenda

theorem SameAgenda.rang {before after : Router} (same : SameAgenda before after) :
    Rang before after :=
  ⟨same.registered, same.now, [], by rw [same.agenda, List.append_nil],
    Nat.zero_le _, nofun⟩

private theorem SameAgenda.trans_rang {before middle after : Router}
    (same : SameAgenda before middle) (rang : Rang middle after) : Rang before after := by
  rcases rang.agenda with ⟨more, agenda, length, later⟩
  refine ⟨rang.registered.trans same.registered, rang.now.trans same.now, more, ?_,
    length, ?_⟩
  · rw [agenda, same.agenda]
  · intro alarm new
    rw [← same.now]
    exact later alarm new

private theorem rang_setAlarm (router : Router) {alarm : Alarm}
    (later : router.now < alarm.due) :
    Rang router (router.setAlarm alarm) := by
  refine ⟨rfl, rfl, [alarm], rfl, Nat.le_refl _, ?_⟩
  intro other new
  rw [List.mem_singleton.1 new]
  exact later

theorem sameAgenda_mapCluster (router : Router) (ref : ClusterRef)
    (change : Cluster → Cluster) :
    SameAgenda router (router.mapCluster ref change) := by
  rcases mapCluster_fields router ref change with ⟨clusters, same⟩
  rw [same]
  exact ⟨rfl, rfl, rfl⟩

private theorem rang_scheduleTick (router : Router) (ref : ClusterRef) (loop : Nat) :
    Rang router (router.scheduleTick ref loop) := by
  unfold scheduleTick
  split
  · exact SameAgenda.rang ⟨rfl, rfl, rfl⟩
  · apply rang_setAlarm
    exact Nat.lt_add_of_pos_right (Nat.le_max_left 1 _)

theorem sameAgenda_judge (router : Router) (ref : ClusterRef) (policy : ActivePolicy)
    (outcome : BatchEnd) : SameAgenda router (router.judge ref policy outcome).value := by
  cases outcome with
  | crashed => exact ⟨rfl, rfl, rfl⟩
  | completed results =>
      simp only [judge, Traced.value_map, value_withCluster]
      exact sameAgenda_mapCluster router ref _

private theorem rang_settle (router : Router) (ref : ClusterRef) (loop : Nat)
    (policy : ActivePolicy) (outcome : BatchEnd) :
    Rang router (router.settle ref loop policy outcome).value := by
  have judged := sameAgenda_judge router ref policy outcome
  unfold settle
  split <;> exact judged.trans_rang (rang_scheduleTick _ ref loop)

end Router

namespace Scene

variable {policies : Policies} {scene : Scene}

private theorem rang_tick (scene : Scene) (ref : ClusterRef) (loop : Nat) :
    Router.Rang scene.router (scene.tick ref loop).value.router := by
  have same := router_send scene ref
  simp only [tick, Traced.value_bind]
  generalize (scene.send ref).value = result at same ⊢
  rcases result with ⟨after, sent⟩
  dsimp only at same ⊢
  rw [← same]
  cases sent with
  | none => exact Router.rang_scheduleTick _ ref loop
  | some answer =>
      rcases answer with ⟨policy, batch⟩
      dsimp only
      split
      · exact Router.rang_settle _ ref loop policy _
      · rename_i lasting
        apply Router.rang_setAlarm
        exact Nat.lt_add_of_pos_right (Nat.pos_of_ne_zero lasting)

theorem rang_wake (scene : Scene) (alarm : Alarm) :
    Router.Rang scene.router (scene.wake alarm).value.router := by
  unfold wake
  split
  · rename_i exclusion wakeup
    simp only [Traced.value_bind, Traced.value_pure, Router.value_withCluster]
    exact (Router.sameAgenda_mapCluster scene.router alarm.cluster _).rang
  · exact rang_tick scene alarm.cluster _
  · exact rang_tick scene alarm.cluster _
  · exact Router.rang_settle scene.router alarm.cluster _ _ _

/-! The time that is left before an instant. -/

theorem alarmsBefore_eq_sum (scene : Scene) (horizon : Nat) :
    scene.alarmsBefore horizon =
      (scene.router.agenda.map (fun alarm => horizon - alarm.due)).sum := by
  rw [List.sum_eq_foldl, List.foldl_map]
  rfl

private theorem sum_map_eraseIdx {α : Type} {members : List α} {position : Nat}
    {member : α} (part : α → Nat) (there : members[position]? = some member) :
    (members.map part).sum =
      part member + ((members.eraseIdx position).map part).sum := by
  rcases List.getElem?_eq_some_iff.1 there with ⟨inside, rfl⟩
  have same := (List.getElem_cons_eraseIdx_perm inside).map part
  rw [← same.sum_nat, List.map_cons, List.sum_cons]

private theorem alarmsBefore_wake {position horizon : Nat} {alarm : Alarm}
    (pending : scene.router.agenda[position]? = some alarm) (due : alarm.due < horizon) :
    ((scene.rung position alarm).wake alarm).value.alarmsBefore horizon <
      scene.alarmsBefore horizon := by
  rcases (rang_wake (scene.rung position alarm) alarm).agenda with
    ⟨more, agenda, length, later⟩
  have before := sum_map_eraseIdx (fun alarm => horizon - alarm.due) pending
  have now : alarm.due ≤ (scene.rung position alarm).router.now := Nat.le_max_right _ _
  have new : (more.map (fun alarm => horizon - alarm.due)).sum < horizon - alarm.due := by
    match more, length, later with
    | [], _, _ => exact Nat.sub_pos_of_lt due
    | [set], _, later =>
        have order := later set (List.mem_singleton_self _)
        simp only [List.map_cons, List.map_nil, List.sum_cons, List.sum_nil]
        omega
  rw [alarmsBefore_eq_sum, alarmsBefore_eq_sum, agenda, before, List.map_append,
    List.sum_append]
  have erased :
      (scene.rung position alarm).router.agenda = scene.router.agenda.eraseIdx position :=
    rfl
  rw [erased]
  omega

/-- What was to be done before an instant is done when all alarms that are pending are
due then or later. -/
structure Settled (before after : Scene) (horizon : Nat) : Prop where
  registered : after.router.registered = before.router.registered
  now : after.router.now ≤ max before.router.now (horizon - 1)
  agenda : ∀ alarm ∈ after.router.agenda, horizon ≤ alarm.due

theorem le_of_alarmsBefore {horizon : Nat} (none : scene.alarmsBefore horizon = 0) :
    ∀ alarm ∈ scene.router.agenda, horizon ≤ alarm.due := by
  intro alarm pending
  rw [alarmsBefore_eq_sum, List.sum_eq_zero_iff_forall_eq_nat] at none
  exact Nat.sub_eq_zero_iff_le.1 (none _ (List.mem_map_of_mem pending))

theorem settled_ring {count horizon : Nat} (enough : scene.alarmsBefore horizon ≤ count) :
    Settled scene (ring count horizon scene).value horizon := by
  induction count generalizing scene with
  | zero =>
      exact ⟨rfl, Nat.le_max_left _ _, le_of_alarmsBefore (Nat.le_zero.1 enough)⟩
  | succ count induction =>
      simp only [ring]
      split
      · rename_i next
        refine ⟨rfl, Nat.le_max_left _ _, ?_⟩
        have nothing : (pure scene : Effect Scene).value.router.agenda = [] :=
          nextAlarm?_eq_none next
        intro alarm pending
        rw [nothing] at pending
        cases pending
      · rename_i alarm others next
        split
        · rename_i due
          rcases nextAlarm?_eq_some next with ⟨position, pending, rfl⟩
          have fewer := alarmsBefore_wake pending due
          have rang := rang_wake (scene.rung position alarm) alarm
          have settled := induction (Nat.le_of_lt_succ (Nat.lt_of_lt_of_le fewer enough))
          refine ⟨settled.registered.trans rang.registered, ?_, settled.agenda⟩
          have now := settled.now
          have moment :
              (scene.rung position alarm).router.now = max scene.router.now alarm.due :=
            rfl
          rw [rang.now, moment] at now
          refine Nat.le_trans now ?_
          omega
        · rename_i due
          refine ⟨rfl, Nat.le_max_left _ _, ?_⟩
          intro other pending
          exact Nat.le_trans (Nat.not_lt.1 due) (nextAlarm?_least next other pending)

theorem settled_advance (scene : Scene) (limit : Nat) :
    Settled scene (scene.advance limit).value (limit + 1) := by
  have settled := settled_ring (Nat.le_refl (scene.alarmsBefore (limit + 1)))
  refine ⟨settled.registered, ?_, settled.agenda⟩
  have now := settled.now
  exact Nat.max_le.2 ⟨now, Nat.le_max_right _ _⟩

end Scene

end Gateway
