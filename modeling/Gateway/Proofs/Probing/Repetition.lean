import Gateway.Proofs.Probing.Batch
import Gateway.Proofs.Probing.Verdicts

namespace Gateway

/-! Probes that are sent again and again. What is sent depends on the outline of a cluster
and on the answers in store; so a destination with one answer left gives it to every
probe. -/

def Candidate.address (candidate : Candidate) : Nat × String × DestinationConfig :=
  (candidate.record, candidate.entry)

private theorem sendProbes_congr (config : ActiveCheckConfig) (script : ProbeScript)
    {first second : List Candidate} (same : first.map Candidate.address =
      second.map Candidate.address) :
    sendProbes config script first = sendProbes config script second := by
  induction first generalizing script second with
  | nil => rw [List.map_eq_nil_iff.1 same.symm]
  | cons candidate rest induction =>
      rcases List.map_eq_cons_iff.1 same.symm with ⟨other, others, rfl, alike, later⟩
      have record : other.record = candidate.record := congrArg Prod.fst alike
      have id : other.id = candidate.id := congrArg (fun address => address.2.1) alike
      have settings : other.destination.config = candidate.destination.config :=
        congrArg (fun address => address.2.2) alike
      have rest := fun script => induction script later.symm
      simp only [sendProbes, record, id, settings, rest]

namespace Cluster

private theorem address_candidates (cluster : Cluster) (numbers : List Nat) :
    (cluster.candidates numbers).map Candidate.address =
      (cluster.outline.candidates numbers).map Candidate.address := by
  have single : ∀ number, (cluster.candidate? number).map Candidate.address =
      (cluster.outline.candidate? number).map Candidate.address := by
    intro number
    simp only [candidate?, outline, List.getElem?_map, Option.map_map]
    rfl
  simp only [candidates, List.map_filterMap, single]

end Cluster

namespace Scene

variable {scene other : Scene} {ref : ClusterRef}

theorem send_of_outline (script : scene.script = other.script)
    (same : (scene.router.cluster? ref).map Cluster.outline =
      (other.router.cluster? ref).map Cluster.outline) :
    (scene.send ref).value.2 = (other.send ref).value.2 ∧
      (scene.send ref).value.1.script = (other.send ref).value.1.script := by
  unfold send
  cases present : scene.router.cluster? ref with
  | none =>
      rw [present] at same
      rw [Option.map_eq_none_iff.1 same.symm]
      exact ⟨rfl, script⟩
  | some cluster =>
      rw [present] at same
      rcases Option.map_eq_some_iff.1 same.symm with ⟨alike, there, outline⟩
      have addresses : (cluster.candidates cluster.current.values).map Candidate.address =
          (alike.candidates alike.current.values).map Candidate.address := by
        rw [cluster.address_candidates, alike.address_candidates, outline,
          Cluster.current_of_outline outline]
      rw [there]
      dsimp only
      rw [Cluster.model_of_outline outline]
      cases cluster.model.active with
      | none => exact ⟨rfl, script⟩
      | some policy =>
          simp only [Traced.value_bind, Traced.value_pure]
          rw [sendProbes_congr _ _ addresses, script]
          exact ⟨rfl, rfl⟩

/-! At the beginning of time no alarm is overdue. Probes that are answered at once can be
sent there again and again, and nothing else happens. -/

private theorem alarmsBefore_zero (scene : Scene) : scene.alarmsBefore 0 = 0 := by
  rw [alarmsBefore_eq_sum]
  refine List.sum_eq_zero fun time there => ?_
  rcases List.mem_map.1 there with ⟨alarm, -, rfl⟩
  exact Nat.zero_sub alarm.due

private theorem value_advanceBefore_zero (scene : Scene) :
    (scene.advanceBefore 0).value =
      { scene with router := { scene.router with now := max scene.router.now 0 } } := by
  simp only [advanceBefore, alarmsBefore_zero, ring, Traced.value_bind, Traced.value_pure]

/-- A scene that only differs from another one in health, at the beginning of time. -/
structure Standstill (base scene : Scene) : Prop where
  now : scene.router.now = 0
  script : scene.script = base.script
  outlines : Router.SameOutline base.router scene.router

namespace Standstill

variable {base : Scene} {results : List (Nat × ProbeOutcome)}
  (answered : (base.send ref).value.2.map (fun sent =>
    (sent.2.duration, sent.2.outcome)) = some (0, .completed results))
  (lasting : (base.send ref).value.1.script = base.script)

include answered lasting

theorem check (still : Standstill base scene) :
    Standstill base (scene.checkOnce ref).value ∧
      ∃ ruling, scene.rulingsOf (.check ref) = [ruling] ∧ ruling.cluster = ref ∧
        ruling.results = results ∧ Router.SameOutline base.router ruling.router := by
  have sent := send_of_outline still.script (still.outlines.outlines ref)
  have same := router_send scene ref
  rw [lasting] at sent
  rw [← sent.1] at answered
  simp only [rulingsOf, workOf, rulingByHand?, checkOnce, Traced.value_bind]
  generalize (scene.send ref).value = result at same sent answered ⊢
  rcases result with ⟨after, probes⟩
  rcases Option.map_eq_some_iff.1 answered with ⟨⟨policy, batch⟩, rfl, parts⟩
  rcases batch with ⟨duration, outcome⟩
  rcases Prod.mk.injEq .. ▸ parts with ⟨rfl, rfl⟩
  dsimp only at same sent ⊢
  have start : after.router.now = 0 := by rw [same, still.now]
  rw [start, Nat.add_zero, alarmsBefore_zero]
  simp only [Traced.value_bind, Traced.value_pure, value_advanceBefore_zero]
  let waited : Router := { after.router with now := max after.router.now 0 }
  have outlines : Router.SameOutline base.router waited := by
    have kept := still.outlines
    rw [← same] at kept
    exact ⟨kept.policies, kept.background, kept.registered, kept.probing, kept.outlines⟩
  have judged :=
    outlines.trans (Router.sameOutline_judge waited ref policy (.completed results))
  refine ⟨⟨?_, sent.2, judged⟩, _, rfl, rfl, rfl, outlines⟩
  rw [(Router.sameAgenda_judge waited ref policy (.completed results)).now]
  exact (Nat.max_zero _).trans start

end Standstill

theorem rulings_checks {start : Scene} {preparation : List Operation}
    {results : List (Nat × ProbeOutcome)}
    (beginning : (start.after preparation).router.now = 0)
    (unjudged : start.rulings preparation = [])
    (answered : ((start.after preparation).send ref).value.2.map
      (fun sent => (sent.2.duration, sent.2.outcome)) = some (0, .completed results))
    (lasting : ((start.after preparation).send ref).value.1.script =
      (start.after preparation).script) (count : Nat) :
    let run := List.replicate count (Operation.check ref) ++ preparation
    Standstill (start.after preparation) (start.after run) ∧
      (start.rulings run).length = count ∧
      ∀ ruling ∈ start.rulings run, ruling.cluster = ref ∧ ruling.results = results ∧
        Router.SameOutline (start.after preparation).router ruling.router := by
  induction count with
  | zero =>
      refine ⟨⟨beginning, rfl, .refl _⟩, congrArg List.length unjudged, ?_⟩
      intro ruling judged
      rw [List.replicate_zero, List.nil_append, unjudged] at judged
      cases judged
  | succ count induction =>
      rcases induction with ⟨still, length, alike⟩
      rcases still.check answered lasting with
        ⟨after, ruling, judged, cluster, same, outlines⟩
      have more : start.rulings
          (List.replicate (count + 1) (Operation.check ref) ++ preparation) =
          start.rulings (List.replicate count (Operation.check ref) ++ preparation) ++
            [ruling] :=
        congrArg (start.rulings _ ++ ·) judged
      refine ⟨after, ?_, fun other member => ?_⟩
      · rw [more, List.length_append, length]
        rfl
      · rw [more] at member
        rcases List.mem_append.1 member with earlier | last
        · exact alike other earlier
        · rw [List.mem_singleton.1 last]
          exact ⟨cluster, same, outlines⟩

end Scene

end Gateway
