import Gateway.Proofs.Balancing.Load

namespace Gateway

/-! Least requests keeps the records of a cluster balanced, and goes around those that are
evenly loaded as round robin does. -/

section Spread

/-- How far the greatest of some counts is from the least one. -/
def spread (counts : List Nat) : Nat :=
  counts.max?.getD 0 - counts.min?.getD 0

private theorem spread_le_iff {counts : List Nat} {bound : Nat} :
    spread counts ≤ bound ↔ ∀ high ∈ counts, ∀ low ∈ counts, high ≤ low + bound := by
  cases most : counts.max? with
  | none =>
      rw [List.max?_eq_none_iff.1 most]
      simp [spread]
  | some greatest =>
      have inhabited : counts ≠ [] := by
        rintro rfl
        cases most
      rcases Option.ne_none_iff_exists'.1 (mt List.min?_eq_none_iff.1 inhabited) with
        ⟨least, fewest⟩
      rcases List.max?_eq_some_iff.1 most with ⟨greatestThere, above⟩
      rcases List.min?_eq_some_iff.1 fewest with ⟨leastThere, below⟩
      rw [spread, most, fewest, Option.getD_some, Option.getD_some]
      constructor
      · intro within high highThere low lowThere
        have := above high highThere
        have := below low lowThere
        omega
      · intro within
        have := within greatest greatestThere least leastThere
        omega

end Spread

namespace Router

variable {router : Router} {ref : ClusterRef} {records : List Nat}

section Stored

variable (inhabited : records ≠ [])
  (stored : ∀ record ∈ records, router.hasRecord ref record = true)

include inhabited stored

theorem spread_load (counted : router.Tallies ref records) :
    spread ((router.load ref .leastRequests records).1.counts ref records) ≤
      max (spread (router.counts ref records)) 1 := by
  rcases requestsOf_load inhabited stored counted with ⟨position, record, lightest, after⟩
  have before := spread_le_iff.1 (Nat.le_refl (spread (router.counts ref records)))
  have member : ∀ number ∈ records,
      (router.requestsOf ref number).toNat ∈ router.counts ref records :=
    fun number there => List.mem_map_of_mem there
  apply spread_le_iff.2
  intro high highThere low lowThere
  rcases List.mem_map.1 highThere with ⟨heavy, heavyThere, rfl⟩
  rcases List.mem_map.1 lowThere with ⟨light, lightThere, rfl⟩
  have apart := before _ (member heavy heavyThere) _ (member light lightThere)
  have least := UInt64.le_iff_toNat_le.1 (lightest.least light lightThere)
  simp only [after]
  -- Only the record that had the fewest requests may get ahead, by one.
  by_cases chosen : heavy = record
  · subst chosen
    rw [if_pos rfl]
    omega
  · rw [if_neg chosen]
    omega

private theorem spread_laden {turn more : Nat}
    (counted : router.Tallied ref records (turn + more)) :
    spread ((router.laden ref .leastRequests records (turn + more)).counts ref records) ≤
      max (spread ((router.laden ref .leastRequests records turn).counts ref records))
        1 := by
  induction more with
  | zero => exact Nat.le_max_left _ _
  | succ more induction =>
      have earlier := induction (counted.earlier (Nat.le_succ (turn + more)))
      have next := spread_load inhabited (stored_laden inhabited stored (turn + more))
        (counted (turn + more) (Nat.lt_succ_self _))
      rw [← Nat.add_assoc, laden]
      omega

end Stored

private theorem sum_ones (numbers : List Nat) (number : Nat) :
    (numbers.map fun other => if other = number then 1 else 0).sum =
      numbers.count number := by
  induction numbers with
  | nil => rfl
  | cons first rest induction =>
      rw [List.map_cons, List.sum_cons, induction, List.count_cons, Nat.add_comm]
      simp only [beq_iff_eq]

section Distinct

variable (inhabited : records ≠ []) (distinct : records.Nodup)
  (stored : ∀ record ∈ records, router.hasRecord ref record = true)

include inhabited distinct stored

private theorem sum_counts_load (counted : router.Tallies ref records) :
    ((router.load ref .leastRequests records).1.counts ref records).sum =
      (router.counts ref records).sum + 1 := by
  rcases requestsOf_load inhabited stored counted with ⟨position, record, lightest, after⟩
  have once := List.count_eq_one_of_mem distinct (List.mem_of_getElem? lightest.found)
  simp only [counts, after]
  rw [List.sum_map_add, sum_ones, once]

private theorem sum_counts_laden {turns : Nat}
    (counted : router.Tallied ref records turns) :
    ((router.laden ref .leastRequests records turns).counts ref records).sum =
      (router.counts ref records).sum + turns := by
  induction turns with
  | zero => rfl
  | succ turns induction =>
      have before := induction (counted.earlier (Nat.le_succ turns))
      rw [laden, sum_counts_load inhabited distinct (stored_laden inhabited stored turns)
        (counted turns (Nat.lt_succ_self turns)), before, Nat.add_assoc]

theorem tallied_iff (turns : Nat) : router.Tallied ref records turns ↔
    (router.counts ref records).sum + turns ≤ records.length * (UInt64.size - 1) := by
  constructor
  · intro counted
    rw [← sum_counts_laden inhabited distinct stored counted]
    have limit :
        ∀ count ∈ (router.laden ref .leastRequests records turns).counts ref records,
        count ≤ UInt64.size - 1 := by
      intro count there
      rcases List.mem_map.1 there with ⟨record, -, rfl⟩
      exact Nat.le_sub_one_of_lt (UInt64.toNat_lt_size _)
    have most := List.sum_le_card_nsmul _ _ limit
    rw [counts, List.length_map, smul_eq_mul] at most
    exact most
  · induction turns with
    | zero => exact fun _ _ before => absurd before (Nat.not_lt_zero _)
    | succ turns induction =>
        intro room turn before
        have counted := induction (by omega)
        rcases Nat.lt_succ_iff_lt_or_eq.1 before with already | rfl
        · exact counted turn already
        · have total := sum_counts_laden inhabited distinct stored counted
          exact tallies_of_room inhabited (stored_laden inhabited stored turn) (by omega)

theorem tallied_of_idle {turns : Nat}
    (idle : ∀ record ∈ records, router.requestsOf ref record = 0)
    (within : turns < UInt64.size) :
    router.Tallied ref records turns := by
  have nothing : (router.counts ref records).sum = 0 := by
    apply List.sum_eq_zero
    intro count there
    rcases List.mem_map.1 there with ⟨record, listed, rfl⟩
    rw [idle record listed]
    rfl
  have room :=
    Nat.le_mul_of_pos_left (UInt64.size - 1) (List.length_pos_of_ne_nil inhabited)
  apply (tallied_iff inhabited distinct stored turns).2
  omega

end Distinct

/-! Going around evenly loaded records: those up to some place have one request more. -/

def Level (router : Router) (ref : ClusterRef) (records : List Nat)
    (base place : Nat) : Prop :=
  ∀ position record, records[position]? = some record →
    (router.requestsOf ref record).toNat = base + if position < place then 1 else 0

private theorem level_of_equal {count : UInt64}
    (equal : ∀ record ∈ records, router.requestsOf ref record = count) :
    router.Level ref records count.toNat 0 := by
  intro position record found
  rw [equal record (List.mem_of_getElem? found), if_neg (Nat.not_lt_zero position),
    Nat.add_zero]

section Level

variable {base place : Nat} (level : router.Level ref records base place)

include level

private theorem Level.requestsOf_next (inside : place < records.length) :
    (router.requestsOf ref records[place]).toNat = base := by
  rw [level place _ (List.getElem?_eq_getElem inside), if_neg (Nat.lt_irrefl place),
    Nat.add_zero]

theorem Level.lightest (inside : place < records.length) :
    FirstLightest (router.requestsOf ref) records place records[place] where
  found := List.getElem?_eq_getElem inside
  least := by
    intro other member
    rcases List.mem_iff_getElem?.1 member with ⟨position, found⟩
    rw [UInt64.le_iff_toNat_le, level.requestsOf_next inside, level position other found]
    exact Nat.le_add_right base _
  first := by
    intro earlier before other found
    rw [UInt64.lt_iff_toNat_lt, level.requestsOf_next inside, level earlier other found,
      if_pos before]
    exact Nat.lt_succ_self base

theorem Level.round (whole : place = records.length) :
    router.Level ref records (base + 1) 0 := by
  intro position record found
  have inside : position < place := by
    rw [whole]
    exact (List.getElem?_eq_some_iff.1 found).1
  rw [level position record found, if_pos inside, if_neg (Nat.not_lt_zero position)]

variable (distinct : records.Nodup)
  (stored : ∀ record ∈ records, router.hasRecord ref record = true)

include stored

theorem Level.served (inside : place < records.length) :
    (router.load ref .leastRequests records).2 = records[place]? := by
  have inhabited : records ≠ [] := List.ne_nil_of_length_pos (Nat.zero_lt_of_lt inside)
  rcases load_leastRequests inhabited stored with ⟨position, record, lightest, sent⟩
  have same := lightest.position_eq (level.lightest inside)
  rw [sent, ← same]
  exact lightest.found.symm

include distinct

theorem Level.load (inside : place < records.length)
    (counted : router.Tallies ref records) :
    (router.load ref .leastRequests records).1.Level ref records base (place + 1) := by
  have inhabited : records ≠ [] := List.ne_nil_of_length_pos (Nat.zero_lt_of_lt inside)
  rcases requestsOf_load inhabited stored counted with ⟨middle, chosen, lightest, after⟩
  have same : middle = place := lightest.position_eq (level.lightest inside)
  subst same
  intro position record found
  -- The records are different ones, so the request is counted at this place only.
  have owner : record = chosen ↔ position = middle := by
    constructor
    · rintro rfl
      have bound := (List.getElem?_eq_some_iff.1 found).1
      exact (List.getElem?_inj bound distinct).1 (found.trans lightest.found.symm)
    · rintro rfl
      exact Option.some.inj (found.symm.trans lightest.found)
  simp only [after, level position record found, owner]
  split_ifs <;> omega

end Level

section Distinct

variable (inhabited : records ≠ []) (distinct : records.Nodup)
  (stored : ∀ record ∈ records, router.hasRecord ref record = true)

include inhabited distinct stored

theorem level_laden {count turn : Nat} (level : router.Level ref records count 0)
    (counted : router.Tallied ref records turn) :
    ∃ round place, place < records.length ∧ turn = records.length * round + place ∧
      (router.laden ref .leastRequests records turn).Level ref records
        (count + round) place := by
  induction turn with
  | zero => exact ⟨0, 0, List.length_pos_of_ne_nil inhabited, rfl, level⟩
  | succ turn induction =>
      rcases induction (counted.earlier (Nat.le_succ turn)) with
        ⟨round, place, inside, reached, before⟩
      have next := before.load distinct (stored_laden inhabited stored turn) inside
        (counted turn (Nat.lt_succ_self turn))
      by_cases last : place + 1 = records.length
      · refine ⟨round + 1, 0, List.length_pos_of_ne_nil inhabited, ?_, next.round last⟩
        rw [reached, Nat.mul_succ, Nat.add_assoc, last, Nat.add_zero]
      · exact ⟨round, place + 1, by omega, by omega, next⟩

private theorem served_level {count turn : Nat} (level : router.Level ref records count 0)
    (counted : router.Tallied ref records turn) :
    router.served ref .leastRequests records turn = records[turn % records.length]? := by
  rcases level_laden inhabited distinct stored level counted with
    ⟨round, place, inside, reached, now⟩
  have position : turn % records.length = place := by
    rw [reached, Nat.mul_add_mod, Nat.mod_eq_of_lt inside]
  rw [position]
  exact now.served (stored_laden inhabited stored turn) inside

end Distinct

end Router

theorem Cluster.Coherent.sublist_available {cluster : Cluster}
    (coherent : cluster.Coherent) :
    cluster.available.Sublist cluster.current.values := by
  rw [coherent.available, selected]
  split
  · exact List.Sublist.refl _
  · exact List.filter_sublist

namespace Router

/-- Least requests keeps the records of a cluster balanced. Of any candidates it picks the
earliest of those with the fewest requests, and so every request of a run goes to such a
record. As long as requests are counted, and none ends, the counts stay as close together
as they were, or within one of each other; and from equal counts on, as of idle records,
requests go around the records as by round robin from its first position. Requests are
counted as long as the counters, which are words, have room. In a reachable state,
requests that start on a cluster are such a run over its available records, which are
different ones and exist. -/
theorem least_requests_balanced {router : Router} {ref : ClusterRef} {records : List Nat}
    (inhabited : records ≠ [])
    (stored : ∀ record ∈ records, router.hasRecord ref record = true) :
    let laden := router.laden ref .leastRequests records
    let served := router.served ref .leastRequests records
    let tallied := router.Tallied ref records
    let total := (router.counts ref records).sum
    (∀ turn candidates, candidates ≠ [] → ∃ position chosen,
      FirstLightest Candidate.requests candidates position chosen ∧
        LoadBalancer.leastRequests.pick turn candidates = (some chosen, turn)) ∧
    (∀ turn, ∃ position record,
      FirstLightest ((laden turn).requestsOf ref) records position record ∧
        served turn = some record) ∧
    (∀ turn more, tallied (turn + more) →
      spread ((laden (turn + more)).counts ref records) ≤
        max (spread ((laden turn).counts ref records)) 1) ∧
    (records.Nodup → ∀ turn,
      (tallied turn ↔ total + turn ≤ records.length * (UInt64.size - 1))) ∧
    (records.Nodup → ∀ count, (∀ record ∈ records, router.requestsOf ref record = count) →
      ∀ turn < UInt64.size, (count ≠ 0 → tallied turn) →
        served turn = records[turn % records.length]? ∧
        ∀ (other : Router) (site : ClusterRef) (its : Cluster),
          other.cluster? site = some its →
          its.cursor = 0 → (∀ record ∈ records, record < its.records.length) →
          other.served site .roundRobin records turn = served turn) ∧
    ∀ (source : RandomSource) (protector : Protector) (background : Bool)
      (operations : List Operation) (site : ClusterRef) (cluster : Cluster),
      let scene := (Scene.fresh (.builtin source protector) background).after operations
      scene.router.cluster? site = some cluster →
      cluster.available.Nodup ∧
      (∀ record ∈ cluster.available, scene.router.hasRecord site record = true) ∧
      (cluster.model.affinity = none → cluster.model.loadBalancing = .leastRequests →
        ∀ requests, ∃ inFlight, scene.router.started site requests =
          { scene.router.laden site .leastRequests cluster.available requests.length with
            inFlight }) := by
  intro laden served tallied total
  refine ⟨?_, ?_, ?_, ?_, ?_, ?_⟩
  · intro turn candidates
    exact LoadBalancer.pick_leastRequests turn
  · intro turn
    rcases load_leastRequests inhabited (stored_laden inhabited stored turn) with
      ⟨position, record, lightest, sent⟩
    exact ⟨position, record, lightest, congrArg Prod.snd sent⟩
  · intro turn more
    exact spread_laden inhabited stored
  · intro distinct
    exact tallied_iff inhabited distinct stored
  · intro distinct count equal turn within unlessIdle
    have counted : tallied turn := by
      by_cases idle : count = 0
      · subst idle
        exact tallied_of_idle inhabited distinct stored equal within
      · exact unlessIdle idle
    have around : served turn = records[turn % records.length]? :=
      served_level inhabited distinct stored (level_of_equal equal) counted
    refine ⟨around, ?_⟩
    intro other site its there first bounds
    have start : its.cursor.toNat = 0 := congrArg UInt64.toNat first
    have alike := served_roundRobin there inhabited bounds turn (by omega)
    rw [start, Nat.zero_add] at alike
    exact alike.trans around.symm
  · intro source protector background operations site cluster scene present
    have coherent :=
      Scene.coherent_after source protector background operations site cluster present
    refine ⟨coherent.sublist_available.nodup coherent.names.nodup_values, ?_, ?_⟩
    · intro record listed
      have bound := coherent.names.lt_length (coherent.sublist_available.mem listed)
      exact hasRecord_of_stored present (List.getElem?_eq_getElem bound)
    · intro unbound balanced requests
      exact (Sharing.started ⟨present, unbound, balanced, rfl⟩ requests).2

/-- The fourth request on two idle records goes to the second one, as by round robin. -/
theorem least_requests_balanced_on_two_records :
    let router := (Scene.sample.after [.configure Scene.sampleConfig]).router
    (∀ record ∈ [0, 1], router.hasRecord Scene.sampleRef record = true) ∧
      (∀ record ∈ [0, 1], router.requestsOf Scene.sampleRef record = 0) ∧
      router.served Scene.sampleRef .leastRequests [0, 1] 3 = some 1 ∧
      router.served Scene.sampleRef .roundRobin [0, 1] 3 = some 1 := by
  intro router
  have stored : ∀ record ∈ [0, 1], router.hasRecord Scene.sampleRef record = true := by
    decide +kernel
  have idle : ∀ record ∈ [0, 1], router.requestsOf Scene.sampleRef record = 0 := by
    decide +kernel
  have facts : (router.cluster? Scene.sampleRef).map
      (fun cluster => (cluster.cursor, cluster.records.length)) = some (0, 2) := by
    decide +kernel
  rcases Option.map_eq_some_iff.1 facts with ⟨cluster, present, same⟩
  rcases (Prod.mk.injEq ..).mp same with ⟨first, length⟩
  have bounds : ∀ record ∈ [0, 1], record < cluster.records.length := by
    rw [length]
    decide
  rcases least_requests_balanced (List.cons_ne_nil 0 [1]) stored with
    ⟨-, -, -, -, around, -⟩
  rcases around (by decide) 0 idle 3 (by decide) (fun busy => absurd rfl busy) with
    ⟨fourth, alike⟩
  exact ⟨stored, idle, fourth,
    (alike router Scene.sampleRef cluster present first bounds).trans fourth⟩

end Router

end Gateway
