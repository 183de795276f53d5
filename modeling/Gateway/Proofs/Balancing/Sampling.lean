import Gateway.Proofs.Balancing.RoundRobin
import Mathlib

namespace Gateway

/-! Balancers that pick at random draw from one source, which all clusters share. With a
sequence as the source, a pick is decided by how many numbers were drawn before it,
whoever drew them. -/

namespace RandomSource

/-- What a sequence, repeated for ever, has for a draw; nothing but zeros if it is
empty. -/
def numberOf (sequence : List Nat) (draw : Nat) : Nat :=
  sequence[draw % sequence.length]?.getD 0

private theorem index_ofSequence (sequence : List Nat) (draws : UInt64) (bound : Nat) :
    (ofSequence sequence).index draws bound = numberOf sequence draws.toNat % bound := by
  simp only [ofSequence, numberOf]
  cases sequence[draws.toNat % sequence.length]? with
  | none => exact (Nat.zero_mod bound).symm
  | some number => rfl

end RandomSource

namespace LoadBalancer

open RandomSource

variable {sequence : List Nat} {candidates : List Candidate}

/-- How many random numbers a pick among so many candidates takes. -/
def draws (balancer : LoadBalancer) (count : Nat) : Nat :=
  if balancer.name = "Random" then min 1 count
  else if balancer.name = "PowerOfTwoChoices" then if 2 ≤ count then 2 else 0
  else 0

private theorem draws_random (source : RandomSource) (count : Nat) :
    (random source).draws count = min 1 count := rfl

private theorem draws_powerOfTwoChoices (source : RandomSource) (count : Nat) :
    (powerOfTwoChoices source).draws count = if 2 ≤ count then 2 else 0 := rfl

private theorem draws_of_advances {source : RandomSource} {balancer : LoadBalancer}
    {turn next : Turn} (cost : Advances source balancer turn next) {count : Nat}
    (several : 2 ≤ count) :
    next.draws = turn.draws + UInt64.ofNat (balancer.draws count) := by
  cases cost with
  | first => exact (UInt64.add_zero _).symm
  | leastRequests => exact (UInt64.add_zero _).symm
  | roundRobin => exact (UInt64.add_zero _).symm
  | random =>
      rw [draws_random, Nat.min_eq_left (Nat.le_of_succ_le several)]
      rfl
  | powerOfTwoChoices =>
      rw [draws_powerOfTwoChoices, if_pos several]
      exact UInt64.add_assoc _ _ _

private theorem draws_pick {source : RandomSource} (bounded : source.Bounded)
    {balancer : LoadBalancer} (known : balancer ∈ builtin source) (turn : Turn)
    (candidates : List Candidate) :
    (balancer.pick turn candidates).2.draws =
      turn.draws + UInt64.ofNat (balancer.draws candidates.length) := by
  match candidates with
  | [] =>
      simp only [builtin, List.mem_cons, List.not_mem_nil, or_false] at known
      rcases known with rfl | rfl | rfl | rfl | rfl <;> exact (UInt64.add_zero _).symm
  | [_] =>
      simp only [builtin, List.mem_cons, List.not_mem_nil, or_false] at known
      rcases known with rfl | rfl | rfl | rfl | rfl
      case inr.inl => rfl
      all_goals exact (UInt64.add_zero _).symm
  | left :: right :: rest =>
      rcases pick_several known bounded turn left right rest with
        ⟨chosen, next, picked, cost⟩
      rw [picked]
      exact draws_of_advances cost (Nat.le_add_left 2 rest.length)

theorem pick_random (turn : Turn) (inhabited : candidates ≠ []) :
    ((random (ofSequence sequence)).pick turn candidates).1 =
      candidates[numberOf sequence turn.draws.toNat % candidates.length]? := by
  simp [random, inhabited, Turn.draw, index_ofSequence]

theorem pick_powerOfTwoChoices_of_lonely (source : RandomSource) (turn : Turn)
    (lonely : candidates.length < 2) :
    ((powerOfTwoChoices source).pick turn candidates).1 = candidates.head? := by
  cases candidates with
  | nil => rfl
  | cons single rest =>
      cases rest with
      | nil => rfl
      | cons => exact absurd lonely (Nat.not_lt.2 (Nat.le_add_left 2 _))

theorem pick_powerOfTwoChoices (turn : Turn) (several : 2 ≤ candidates.length) :
    ∃ left right,
      candidates[numberOf sequence turn.draws.toNat % candidates.length]? = some left ∧
      candidates[numberOf sequence (turn.draws + 1).toNat % candidates.length]? =
        some right ∧
      ((powerOfTwoChoices (ofSequence sequence)).pick turn candidates).1 =
        some (lighter left right) := by
  have inside : ∀ draw, numberOf sequence draw % candidates.length < candidates.length :=
    fun draw => Nat.mod_lt _ (Nat.lt_of_lt_of_le Nat.two_pos several)
  have first := List.getElem?_eq_getElem (inside turn.draws.toNat)
  have second := List.getElem?_eq_getElem (inside (turn.draws + 1).toNat)
  apply Exists.intro
  apply Exists.intro
  apply And.intro first
  apply And.intro second
  match candidates, several with
  | _ :: _ :: _, _ =>
      simp only [powerOfTwoChoices, Turn.draw, index_ofSequence, first, second]

private theorem requests_lighter (left right : Candidate) :
    (lighter left right).requests = min left.requests right.requests := by
  change _ = if left.requests ≤ right.requests then left.requests else right.requests
  rw [lighter]
  split <;> rfl

/-- The lighter of two samples is busier than all other candidates only if both samples
are the same candidate. -/
theorem places_of_lighter {left right : Candidate} {first second position : Nat}
    (leftFound : candidates[first]? = some left)
    (rightFound : candidates[second]? = some right)
    (busiest : ∀ other candidate, candidates[other]? = some candidate → other ≠ position →
      candidate.requests < (lighter left right).requests) :
    first = position ∧ second = position := by
  rw [requests_lighter] at busiest
  constructor
  · by_contra different
    have beaten := busiest first left leftFound different
    exact UInt64.lt_irrefl _ (UInt64.lt_of_lt_of_le beaten Std.min_le_left)
  · by_contra different
    have beaten := busiest second right rightFound different
    exact UInt64.lt_irrefl _ (UInt64.lt_of_lt_of_le beaten Std.min_le_right)

end LoadBalancer

namespace Router

open RandomSource LoadBalancer

variable {source : RandomSource} {router : Router} {ref : ClusterRef}
  {happening : Happening} {run : List Happening}

namespace Happening

/-- A pick is by a builtin balancer, on a cluster that is there. -/
def Known (source : RandomSource) (router : Router) : Happening → Prop
  | .pick ref balancer _ =>
      balancer ∈ builtin source ∧ (router.cluster? ref).isSome = true
  | .alter _ _ => True

def draws : Happening → Nat
  | .pick _ balancer candidates => balancer.draws candidates.length
  | .alter _ _ => 0

end Happening

def drawn (run : List Happening) : Nat :=
  (run.map Happening.draws).sum

def through (router : Router) (run : List Happening) : Router :=
  run.foldl (fun router happening => (router.happen happening).1) router

/-! No cluster comes or goes. -/

private theorem isSome_cluster?_setCluster {cluster : Cluster}
    (present : router.cluster? ref = some cluster) (after : Cluster)
    (other : ClusterRef) :
    ((router.setCluster ref after).cluster? other).isSome =
      (router.cluster? other).isSome := by
  rw [cluster?_setCluster present]
  split
  · rename_i same
    rw [same, present]
    rfl
  · rfl

private theorem isSome_cluster?_happen (router : Router) (happening : Happening)
    (other : ClusterRef) :
    ((router.happen happening).1.cluster? other).isSome =
      (router.cluster? other).isSome := by
  cases happening with
  | pick ref balancer candidates =>
      rw [happen, ask]
      cases present : router.cluster? ref with
      | none => rfl
      | some cluster => exact isSome_cluster?_setCluster present _ other
  | alter ref change =>
      rw [happen, cluster?_mapCluster]
      split
      · rename_i same
        rw [same, Option.isSome_map]
      · rfl

private theorem known_happen (happening : Happening) {other : Happening}
    (known : other.Known source router) :
    other.Known source (router.happen happening).1 := by
  cases other with
  | pick ref balancer candidates =>
      exact ⟨known.1, (isSome_cluster?_happen router happening ref).trans known.2⟩
  | alter => trivial

theorem draws_happen (bounded : source.Bounded) (known : happening.Known source router) :
    (router.happen happening).1.draws = router.draws + UInt64.ofNat happening.draws := by
  cases happening with
  | pick ref balancer candidates =>
      rcases Option.isSome_iff_exists.1 known.2 with ⟨cluster, present⟩
      simp only [happen, ask, present]
      exact draws_pick bounded known.1 _ candidates
  | alter ref change =>
      have unasked : (router.mapCluster ref change).draws = router.draws := by
        unfold mapCluster
        split <;> rfl
      exact unasked.trans (UInt64.add_zero _).symm

private theorem draws_through (bounded : source.Bounded)
    (known : ∀ happening ∈ run, happening.Known source router)
    (unwrapped : router.draws.toNat + drawn run < UInt64.size) :
    (router.through run).draws.toNat = router.draws.toNat + drawn run := by
  induction run generalizing router with
  | nil => rfl
  | cons happening later induction =>
      rcases List.forall_mem_cons.1 known with ⟨first, others⟩
      have total : drawn (happening :: later) = happening.draws + drawn later := rfl
      have next : (router.happen happening).1.draws.toNat =
          router.draws.toNat + happening.draws := by
        rw [draws_happen bounded first, UInt64.toNat_add,
          UInt64.toNat_ofNat_of_lt' (by omega)]
        apply Nat.mod_eq_of_lt
        change router.draws.toNat + happening.draws < UInt64.size
        omega
      have rest := @induction (router.happen happening).1
        (fun other member => known_happen happening (others other member)) (by omega)
      rw [total, ← Nat.add_assoc, ← next]
      exact rest

theorem happen_pick_eq {cluster : Cluster} (present : router.cluster? ref = some cluster)
    (balancer : LoadBalancer) (candidates : List Candidate) :
    (router.happen (.pick ref balancer candidates)).2 =
      (balancer.pick { cursor := cluster.cursor, draws := router.draws }
        candidates).1 := by
  simp only [happen, ask, present]

private theorem known_through {other : Happening} (run : List Happening)
    (known : other.Known source router) : other.Known source (router.through run) := by
  induction run generalizing router with
  | nil => exact known
  | cons happening later induction => exact induction (known_happen happening known)

private theorem drawn_concat (run : List Happening) (happening : Happening) :
    drawn (run ++ [happening]) = drawn run + happening.draws := by
  rw [drawn, List.map_append, List.sum_append, List.map_singleton, List.sum_singleton,
    drawn]

private theorem through_concat (router : Router) (run : List Happening)
    (happening : Happening) :
    router.through (run ++ [happening]) = ((router.through run).happen happening).1 := by
  rw [through, List.foldl_concat, through]

/-- Random picks are sound on every sequence, which the two balancers that draw share
among all clusters, as long as fewer numbers are drawn than the count of them can hold.
After any run, let `next` be how many numbers were drawn so far, and let a draw hit the
place that its number has, reduced to the candidates at hand. Every place that is hit is
one of a candidate. `Random` takes the one that the next draw hits. `PowerOfTwoChoices`
draws nothing when there is no choice; else it draws two numbers, and takes the candidate
with fewer requests of the two that they hit, the first of them on a tie; so the busiest
of all candidates is picked only if both draws hit it. A request for which several
candidates are left is sent to what its balancer picks in this way. -/
theorem sampling_sound {sequence : List Nat} {router : Router} {run : List Happening}
    {ref : ClusterRef} {balancer : LoadBalancer} {candidates : List Candidate}
    (known : ∀ happening ∈ run ++ [.pick ref balancer candidates],
      happening.Known (.ofSequence sequence) router)
    (unwrapped :
      router.draws.toNat + drawn (run ++ [.pick ref balancer candidates]) < UInt64.size) :
    let source := RandomSource.ofSequence sequence
    let before := router.through run
    let next := router.draws.toNat + drawn run
    let answer := before.happen (.pick ref balancer candidates)
    let place (draw : Nat) := numberOf sequence draw % candidates.length
    before.draws.toNat = next ∧
    answer.1.draws.toNat = next + balancer.draws candidates.length ∧
    (candidates ≠ [] → ∀ draw, place draw < candidates.length) ∧
    (balancer = .random source →
      (candidates = [] → answer.2 = none ∧ balancer.draws candidates.length = 0) ∧
      (candidates ≠ [] → balancer.draws candidates.length = 1 ∧
        ∃ chosen, candidates[place next]? = some chosen ∧ answer.2 = some chosen)) ∧
    (balancer = .powerOfTwoChoices source →
      (candidates.length < 2 →
        answer.2 = candidates.head? ∧ balancer.draws candidates.length = 0) ∧
      (2 ≤ candidates.length → balancer.draws candidates.length = 2 ∧
        ∃ left right chosen, candidates[place next]? = some left ∧
          candidates[place (next + 1)]? = some right ∧ answer.2 = some chosen ∧
          chosen = (if left.requests ≤ right.requests then left else right) ∧
          chosen.requests = min left.requests right.requests ∧
          ∀ position, (∀ other candidate, candidates[other]? = some candidate →
              other ≠ position → candidate.requests < chosen.requests) →
            place next = position ∧ place (next + 1) = position)) ∧
    ∀ cluster model request selection, before.cluster? ref = some cluster →
      (cluster.select model request).value = .ok selection →
        model.loadBalancing = balancer →
      selection.candidates = candidates → 2 ≤ candidates.length →
      (before.pick ref model cluster request).value =
        (answer.1, answer.2.elim (.error .unavailable) fun candidate =>
          .ok { candidate, status := selection.status }) := by
  intro source before next answer place
  have bounded := bounded_ofSequence sequence
  rcases List.forall_mem_append.1 known with ⟨knownRun, knownPick⟩
  rcases known_through run (List.forall_mem_singleton.1 knownPick) with
    ⟨builtin, presence⟩
  rcases Option.isSome_iff_exists.1 presence with ⟨cluster, present⟩
  have answered : answer.2 =
      (balancer.pick { cursor := cluster.cursor, draws := before.draws } candidates).1 :=
    happen_pick_eq present balancer candidates
  have fewer : next + balancer.draws candidates.length < UInt64.size := by
    rw [drawn_concat, ← Nat.add_assoc] at unwrapped
    exact unwrapped
  have count : before.draws.toNat = next := draws_through bounded knownRun (by omega)
  have total : answer.1.draws.toNat = next + balancer.draws candidates.length := by
    have whole := draws_through bounded known unwrapped
    rw [through_concat, drawn_concat, ← Nat.add_assoc] at whole
    exact whole
  have inside : candidates ≠ [] → ∀ draw, place draw < candidates.length :=
    fun inhabited draw => Nat.mod_lt _ (List.length_pos_of_ne_nil inhabited)
  refine ⟨count, total, inside, ?_, ?_, ?_⟩
  · rintro rfl
    constructor
    · rintro rfl
      exact ⟨answered, rfl⟩
    · intro inhabited
      constructor
      · exact Nat.min_eq_left (List.length_pos_of_ne_nil inhabited)
      · rw [pick_random _ inhabited, count] at answered
        have found := List.getElem?_eq_getElem (inside inhabited next)
        exact ⟨_, found, answered.trans found⟩
  · rintro rfl
    constructor
    · intro lonely
      have nothing : (powerOfTwoChoices source).draws candidates.length = 0 :=
        if_neg (Nat.not_le.2 lonely)
      exact ⟨answered.trans (pick_powerOfTwoChoices_of_lonely source _ lonely), nothing⟩
    · intro several
      have two : (powerOfTwoChoices source).draws candidates.length = 2 := if_pos several
      have second : (before.draws + 1).toNat = next + 1 := by
        rw [UInt64.toNat_add, count]
        apply Nat.mod_eq_of_lt
        change next + 1 < UInt64.size
        omega
      rcases @pick_powerOfTwoChoices sequence candidates
        { cursor := cluster.cursor, draws := before.draws } several with
        ⟨left, right, leftFound, rightFound, picked⟩
      rw [count] at leftFound
      rw [second] at rightFound
      exact ⟨two, left, right, lighter left right, leftFound, rightFound,
        answered.trans picked, rfl, requests_lighter left right, fun position =>
          places_of_lighter leftFound rightFound⟩
  · rintro cluster model request selection present selected rfl rfl several
    exact value_pick_of_select present selected several

/-- The number that is drawn for one cluster is not drawn again for another: of 5, 2 and 9
only the last two are left for a choice between two, and their lighter candidate is the
second one. -/
theorem sampling_sound_on_two_clusters :
    let source := RandomSource.ofSequence [5, 2, 9]
    let sibling : ClusterConfig := { Scene.sampleConfig with id := "sibling" }
    let router :=
      (Scene.sample.after [.configure sibling, .configure Scene.sampleConfig]).router
    let candidate (record : Nat) (requests : UInt64) : Candidate :=
      { record, destination :=
        { id := "a", config := { address := "http://10.0.0.1" }, requests } }
    let run : List Happening :=
      [.pick { id := "sibling", incarnation := 0 } (.random source)
        [candidate 0 0, candidate 1 0, candidate 2 0]]
    let pick : Happening :=
      .pick Scene.sampleRef (.powerOfTwoChoices source) [candidate 0 3, candidate 1 1]
    (∀ happening ∈ run ++ [pick], happening.Known source router) ∧
      router.draws.toNat + drawn (run ++ [pick]) < UInt64.size ∧
      ((router.through run).happen pick).2 = some (candidate 1 1) := by
  intro source sibling router candidate run pick
  have there : (router.cluster? { id := "sibling", incarnation := 0 }).isSome = true ∧
      (router.cluster? Scene.sampleRef).isSome = true := by decide +kernel
  have known : ∀ happening ∈ run ++ [pick], happening.Known source router := by
    simp [run, pick, Happening.Known, there, builtin]
  have undrawn : router.draws = 0 := by decide +kernel
  have unwrapped : router.draws.toNat + drawn (run ++ [pick]) < UInt64.size := by
    rw [undrawn]
    decide
  have next : router.draws.toNat + drawn run = 1 := by
    rw [undrawn]
    decide
  have sound := sampling_sound known unwrapped
  rcases (sound.2.2.2.2.1 rfl).2 (Nat.le_refl 2) with
    ⟨-, left, right, chosen, first, second, answered, lighter, -⟩
  have hits : numberOf [5, 2, 9] 1 % 2 = 0 ∧ numberOf [5, 2, 9] 2 % 2 = 1 := by decide
  rw [next] at first second
  change [candidate 0 3, candidate 1 1][numberOf [5, 2, 9] 1 % 2]? = some left at first
  change [candidate 0 3, candidate 1 1][numberOf [5, 2, 9] 2 % 2]? = some right at second
  rw [hits.1] at first
  rw [hits.2] at second
  have isLeft : candidate 0 3 = left := Option.some.inj first
  have isRight : candidate 1 1 = right := Option.some.inj second
  subst isLeft isRight
  exact ⟨known, unwrapped, answered.trans (congrArg some lighter)⟩

end Router

end Gateway
