import Gateway.Proofs.Balancing.RoundRobin
import Gateway.Proofs.Probing.Awaited

namespace Gateway

/-! Requests that pile up on a cluster. The counts that least requests compares are those
of its own picks, so a run of requests is told step by step: where one request goes, and
what that does to the counts. -/

/-- The earliest of those items of a list that have the fewest requests, and its
position. -/
structure FirstLightest {α : Type} (requests : α → UInt64) (items : List α)
    (position : Nat) (chosen : α) : Prop where
  found : items[position]? = some chosen
  least : ∀ other ∈ items, requests chosen ≤ requests other
  first : ∀ earlier < position, ∀ other, items[earlier]? = some other →
    requests chosen < requests other

namespace FirstLightest

variable {α β : Type} {requests : α → UInt64} {items : List α} {position other : Nat}
  {chosen rival : α}

theorem position_eq (lightest : FirstLightest requests items position chosen)
    (also : FirstLightest requests items other rival) : position = other := by
  have less := lightest.least rival (List.mem_of_getElem? also.found)
  have more := also.least chosen (List.mem_of_getElem? lightest.found)
  rcases Nat.lt_trichotomy position other with before | same | behind
  · have beaten := also.first position before chosen lightest.found
    exact absurd less (UInt64.not_le.2 beaten)
  · exact same
  · have beaten := lightest.first other behind rival also.found
    exact absurd more (UInt64.not_le.2 beaten)

theorem map {view : α → β} {seen : β → UInt64}
    (lightest : FirstLightest requests items position chosen)
    (same : ∀ item ∈ items, seen (view item) = requests item) :
    FirstLightest seen (items.map view) position (view chosen) where
  found := by
    rw [List.getElem?_map, lightest.found]
    rfl
  least := by
    intro other member
    rcases List.mem_map.1 member with ⟨item, there, rfl⟩
    rw [same chosen (List.mem_of_getElem? lightest.found), same item there]
    exact lightest.least item there
  first := by
    intro earlier before other found
    rw [List.getElem?_map] at found
    rcases Option.map_eq_some_iff.1 found with ⟨item, there, rfl⟩
    rw [same chosen (List.mem_of_getElem? lightest.found),
      same item (List.mem_of_getElem? there)]
    exact lightest.first earlier before item there

end FirstLightest

namespace LoadBalancer

/-- A scan that keeps the left one on a tie ends with the earliest of the lightest. -/
theorem firstLightest_foldl (leader : Candidate) (others : List Candidate) :
    ∃ position, FirstLightest Candidate.requests (leader :: others) position
      (others.foldl lighter leader) := by
  -- The scan is told from its end: one more candidate wins only if it is lighter than all
  -- before.
  induction others using List.reverseRecOn with
  | nil =>
      refine ⟨0, rfl, ?_, nofun⟩
      intro other member
      rw [List.mem_singleton.1 member]
      exact UInt64.le_refl _
  | append_singleton others last induction =>
      rcases induction with ⟨position, found, least, first⟩
      rw [List.foldl_concat, lighter, ← List.cons_append]
      have inside : position < (leader :: others).length :=
        (List.getElem?_eq_some_iff.1 found).1
      split
      · rename_i kept
        refine ⟨position, ?_, ?_, ?_⟩
        · rw [List.getElem?_append_left inside, found]
        · exact List.forall_mem_append.2 ⟨least, List.forall_mem_singleton.2 kept⟩
        · intro earlier before other there
          rw [List.getElem?_append_left (Nat.lt_trans before inside)] at there
          exact first earlier before other there
      · rename_i beaten
        have under : ∀ other ∈ leader :: others, last.requests < other.requests := by
          intro other member
          exact UInt64.lt_of_lt_of_le (UInt64.not_le.1 beaten) (least other member)
        refine ⟨(leader :: others).length, ?_, ?_, ?_⟩
        · exact List.getElem?_concat_length
        · refine List.forall_mem_append.2 ⟨?_,
            List.forall_mem_singleton.2 (UInt64.le_refl _)⟩
          intro other member
          exact UInt64.le_of_lt (under other member)
        · intro earlier before other there
          rw [List.getElem?_append_left before] at there
          exact under other (List.mem_of_getElem? there)

theorem pick_leastRequests (turn : Turn) {candidates : List Candidate}
    (inhabited : candidates ≠ []) :
    ∃ position chosen, FirstLightest Candidate.requests candidates position chosen ∧
      leastRequests.pick turn candidates = (some chosen, turn) := by
  match candidates, inhabited with
  | leader :: others, _ =>
      rcases firstLightest_foldl leader others with ⟨position, lightest⟩
      exact ⟨position, _, lightest, rfl⟩

end LoadBalancer

namespace Router

variable {router : Router} {ref : ClusterRef} {cluster : Cluster} {records : List Nat}

/-- One more request on a cluster. It goes to one of the candidates for some records, as a
balancer picks it, and is counted there. -/
def load (router : Router) (ref : ClusterRef) (balancer : LoadBalancer)
    (records : List Nat) :
    Router × Option Nat :=
  match router.cluster? ref with
  | none => (router, none)
  | some cluster =>
      let asked := router.ask ref balancer (cluster.candidates records)
      match asked.2 with
      | none => (asked.1, none)
      | some candidate =>
          ((asked.1.acquire ref candidate.record).1, some candidate.record)

def laden (router : Router) (ref : ClusterRef) (balancer : LoadBalancer)
    (records : List Nat) :
    Nat → Router
  | 0 => router
  | turn + 1 => ((router.laden ref balancer records turn).load ref balancer records).1

/-- The record of the request that comes after so many others. -/
def served (router : Router) (ref : ClusterRef) (balancer : LoadBalancer)
    (records : List Nat) (turn : Nat) : Option Nat :=
  ((router.laden ref balancer records turn).load ref balancer records).2

def counts (router : Router) (ref : ClusterRef) (records : List Nat) : List Nat :=
  records.map fun record => (router.requestsOf ref record).toNat

/-- Whether the next request is counted where it goes: counters are words, and may
wrap. -/
def Tallies (router : Router) (ref : ClusterRef) (records : List Nat) : Prop :=
  let sent := router.load ref .leastRequests records
  ∀ record, sent.2 = some record →
    (sent.1.requestsOf ref record).toNat = (router.requestsOf ref record).toNat + 1

/-- So many requests are all counted. -/
def Tallied (router : Router) (ref : ClusterRef) (records : List Nat)
    (turns : Nat) : Prop :=
  ∀ turn < turns, (router.laden ref .leastRequests records turn).Tallies ref records

theorem Tallied.earlier {turns fewer : Nat} (counted : router.Tallied ref records turns)
    (within : fewer ≤ turns) : router.Tallied ref records fewer :=
  fun turn before => counted turn (Nat.lt_of_lt_of_le before within)

private theorem ask_leastRequests (present : router.cluster? ref = some cluster)
    (candidates : List Candidate) :
    router.ask ref .leastRequests candidates =
      (router, LoadBalancer.lightest candidates) := by
  have unturned : router.setCluster ref cluster = router := setCluster_self present
  simp only [ask, present, LoadBalancer.leastRequests]
  rw [unturned]

private theorem cluster?_acquire (present : router.cluster? ref = some cluster)
    (record : Nat) :
    (router.acquire ref record).1.cluster? ref =
      some (cluster.incrementRequests.modifyRecord record Destination.increment) := by
  have counted := cluster?_mapCluster router ref
    (fun cluster =>
      cluster.incrementRequests.modifyRecord record Destination.increment) ref
  rw [if_pos rfl, present] at counted
  exact counted

private theorem requestsOf_of_mem_candidates
    (present : router.cluster? ref = some cluster)
    {candidate : Candidate} (member : candidate ∈ cluster.candidates records) :
    router.requestsOf ref candidate.record = candidate.requests := by
  rcases (Cluster.mem_candidates_iff _ _ _).1 member with ⟨-, stored⟩
  rw [requestsOf_of_cluster? present]
  exact Destination.requestsAt_of_getElem? stored

section Stored

variable (inhabited : records ≠ [])
  (stored : ∀ record ∈ records, router.hasRecord ref record = true)

include inhabited stored

private theorem exists_cluster_of_stored :
    ∃ cluster, router.cluster? ref = some cluster ∧
      (cluster.candidates records).map Candidate.record = records := by
  rcases List.exists_mem_of_ne_nil records inhabited with ⟨record, member⟩
  rcases cluster?_of_hasRecord (stored record member) with ⟨cluster, present, -⟩
  refine ⟨cluster, present, Cluster.map_record_candidates cluster records ?_⟩
  intro number there
  rcases cluster?_of_hasRecord (stored number there) with ⟨same, alsoPresent, bound⟩
  rw [present, Option.some.injEq] at alsoPresent
  rw [alsoPresent]
  exact bound

theorem load_leastRequests :
    ∃ position record, FirstLightest (router.requestsOf ref) records position record ∧
      router.load ref .leastRequests records =
        ((router.acquire ref record).1, some record) := by
  rcases exists_cluster_of_stored inhabited stored with ⟨cluster, present, whole⟩
  have someone : cluster.candidates records ≠ [] := by
    intro nobody
    rw [nobody] at whole
    exact inhabited whole.symm
  rcases LoadBalancer.pick_leastRequests {} someone with
    ⟨position, chosen, lightest, picked⟩
  have found : LoadBalancer.lightest (cluster.candidates records) = some chosen :=
    congrArg Prod.fst picked
  have seen : FirstLightest (router.requestsOf ref)
      ((cluster.candidates records).map Candidate.record) position chosen.record :=
    lightest.map fun candidate member => requestsOf_of_mem_candidates present member
  rw [whole] at seen
  refine ⟨position, chosen.record, seen, ?_⟩
  simp only [load, present, ask_leastRequests present, found]

theorem requestsOf_load (counted : router.Tallies ref records) :
    ∃ position record, FirstLightest (router.requestsOf ref) records position record ∧
      ∀ number, ((router.load ref .leastRequests records).1.requestsOf ref number).toNat =
        (router.requestsOf ref number).toNat + if number = record then 1 else 0 := by
  rcases load_leastRequests inhabited stored with ⟨position, record, lightest, sent⟩
  have own := counted record (congrArg Prod.snd sent)
  rw [sent] at own
  refine ⟨position, record, lightest, ?_⟩
  intro number
  rw [sent]
  by_cases same : number = record
  · rw [same, if_pos rfl]
    exact own
  · have other :
        (({ cluster := ref, record } : Lease) == { cluster := ref, record := number }) =
          false := by
      apply beq_false_of_ne
      intro equal
      cases equal
      exact same rfl
    rw [requestsOf_acquire (stored record (List.mem_of_getElem? lightest.found)), other,
      if_neg same, if_neg Bool.false_ne_true, UInt64.add_zero, Nat.add_zero]

theorem tallies_of_room
    (room : (router.counts ref records).sum < records.length * (UInt64.size - 1)) :
    router.Tallies ref records := by
  rcases load_leastRequests inhabited stored with ⟨position, record, lightest, sent⟩
  have member : record ∈ records := List.mem_of_getElem? lightest.found
  have fits : (router.requestsOf ref record).toNat + 1 < UInt64.size := by
    -- The least count is full only if all of them are.
    by_contra full
    have limit : ∀ count ∈ router.counts ref records, UInt64.size - 1 ≤ count := by
      intro count there
      rcases List.mem_map.1 there with ⟨other, listed, rfl⟩
      have order := UInt64.le_iff_toNat_le.1 (lightest.least other listed)
      omega
    have most := List.card_nsmul_le_sum _ _ limit
    rw [counts, List.length_map, smul_eq_mul] at most
    exact absurd room (Nat.not_lt.2 most)
  intro chosen served
  rw [sent] at served ⊢
  cases served
  rw [requestsOf_acquire (stored record member), if_pos (beq_self_eq_true _),
    UInt64.toNat_add]
  exact Nat.mod_eq_of_lt fits

theorem stored_laden (turn : Nat) :
    ∀ record ∈ records,
      (router.laden ref .leastRequests records turn).hasRecord ref record = true := by
  induction turn with
  | zero => exact stored
  | succ turn induction =>
      intro record member
      rcases load_leastRequests inhabited induction with ⟨-, chosen, -, sent⟩
      rw [laden, sent]
      exact (unnoticed_acquire _ ref chosen).toSameOutline.grows.hasRecord
        (induction record member)

end Stored

/-! The same requests by round robin. -/

section RoundRobin

variable (present : router.cluster? ref = some cluster) (inhabited : records ≠ [])
  (stored : ∀ record ∈ records, record < cluster.records.length)

include present inhabited stored

private theorem load_roundRobin :
    ∃ after, (router.load ref .roundRobin records).1.cluster? ref = some after ∧
      after.cursor = cluster.cursor + 1 ∧
      after.records.length = cluster.records.length ∧
      (router.load ref .roundRobin records).2 =
        records[cluster.cursor.toNat % records.length]? := by
  have whole := Cluster.map_record_candidates cluster records stored
  rcases happen_pick present inhabited whole with ⟨there, answered⟩
  simp only [happen] at there answered
  simp only [load, present]
  cases chosen : (router.ask ref .roundRobin (cluster.candidates records)).2 with
  | none =>
      rw [chosen] at answered
      exact ⟨_, there, rfl, rfl, answered⟩
  | some candidate =>
      rw [chosen] at answered
      exact ⟨_, cluster?_acquire there candidate.record, rfl, List.length_modify ..,
        answered⟩

private theorem laden_roundRobin (turn : Nat)
    (unwrapped : cluster.cursor.toNat + turn < UInt64.size) :
    ∃ after, (router.laden ref .roundRobin records turn).cluster? ref = some after ∧
      after.cursor.toNat = cluster.cursor.toNat + turn ∧
      after.records.length = cluster.records.length := by
  induction turn with
  | zero => exact ⟨cluster, present, rfl, rfl⟩
  | succ turn induction =>
      rcases induction (by omega) with ⟨now, there, moved, length⟩
      rcases load_roundRobin there inhabited (length ▸ stored) with
        ⟨after, next, cursor, alsoLength, -⟩
      refine ⟨after, next, ?_, alsoLength.trans length⟩
      rw [cursor, UInt64.toNat_add, moved]
      exact Nat.mod_eq_of_lt unwrapped

theorem served_roundRobin (turn : Nat)
    (unwrapped : cluster.cursor.toNat + turn < UInt64.size) :
    router.served ref .roundRobin records turn =
      records[(cluster.cursor.toNat + turn) % records.length]? := by
  rcases laden_roundRobin present inhabited stored turn unwrapped with
    ⟨now, there, moved, length⟩
  rcases load_roundRobin there inhabited (length ▸ stored) with ⟨-, -, -, -, chosen⟩
  rw [moved] at chosen
  exact chosen

end RoundRobin

/-! Requests that start on a cluster of a gateway. -/

section Started

/-- A cluster that shares all requests among its available records, by least requests. -/
structure Sharing (router : Router) (ref : ClusterRef) (records : List Nat)
    (cluster : Cluster) : Prop where
  present : router.cluster? ref = some cluster
  unbound : cluster.model.affinity = none
  balanced : cluster.model.loadBalancing = .leastRequests
  available : cluster.available = records

theorem Sharing.load (sharing : router.Sharing ref records cluster) :
    ∃ after, (router.load ref .leastRequests records).1.Sharing ref records after := by
  simp only [Router.load, sharing.present, ask_leastRequests sharing.present]
  cases LoadBalancer.lightest (cluster.candidates records) with
  | none => exact ⟨cluster, sharing⟩
  | some candidate =>
      exact ⟨_, cluster?_acquire sharing.present candidate.record, sharing.unbound,
        sharing.balanced, sharing.available⟩

theorem load_inFlight (router : Router) (ref : ClusterRef) (records : List Nat)
    (inFlight : List (Option InFlight)) :
    ({ router with inFlight }.load ref .leastRequests records).1 =
      { (router.load ref .leastRequests records).1 with inFlight } := by
  have same : { router with inFlight }.cluster? ref = router.cluster? ref := rfl
  cases there : router.cluster? ref with
  | none => simp only [load, same, there]
  | some cluster =>
      simp only [load, same, there, ask_leastRequests (same.trans there),
        ask_leastRequests there]
      cases LoadBalancer.lightest (cluster.candidates records) with
      | none => rfl
      | some candidate =>
          simp only [acquire, mapCluster, same, there, setCluster]
          rfl

theorem balance_leastRequests (turn : Turn) (candidates : List Candidate) :
    Cluster.balance .leastRequests turn candidates =
      (LoadBalancer.lightest candidates, turn) := by
  match candidates with
  | [] => rfl
  | [_] => rfl
  | _ :: _ :: _ => rfl

theorem Sharing.pick (sharing : router.Sharing ref records cluster)
    (request : Http.Request) :
    (router.pick ref cluster.model cluster request).value =
      (router,
        (LoadBalancer.lightest (cluster.candidates records)).elim (.error .unavailable)
        fun candidate => .ok { candidate, status := none }) := by
  have picked : ∀ turn, (cluster.pick cluster.model request turn).value =
      ((LoadBalancer.lightest (cluster.candidates records)).elim (.error .unavailable)
        fun candidate => .ok { candidate, status := none }, turn) := by
    intro turn
    simp only [Cluster.pick, Traced.value_bind, Cluster.select_unbound sharing.unbound,
      sharing.available, sharing.balanced, balance_leastRequests]
    cases LoadBalancer.lightest (cluster.candidates records) <;> rfl
  have kept : router.setCluster ref cluster = router := setCluster_self sharing.present
  rw [value_pick, picked]
  dsimp only
  rw [kept]

theorem Sharing.start (sharing : router.Sharing ref records cluster)
    (request : Http.Request) :
    ∃ inFlight, (router.start ref request).value.1 =
      { (router.load ref .leastRequests records).1 with inFlight } := by
  have started : (router.start ref request).value.1 =
      match LoadBalancer.lightest (cluster.candidates records) with
      | none => router
      | some candidate =>
          (router.forward ref cluster.model { candidate, status := none }
            request).value.1 := by
    simp only [Router.start, sharing.present, Traced.value_bind, sharing.pick]
    cases LoadBalancer.lightest (cluster.candidates records) <;> rfl
  rw [started]
  simp only [Router.load, sharing.present, ask_leastRequests sharing.present]
  cases LoadBalancer.lightest (cluster.candidates records) with
  | none => exact ⟨router.inFlight, rfl⟩
  | some candidate => exact ⟨_, rfl⟩

def started (router : Router) (ref : ClusterRef) (requests : List Http.Request) :
    Router :=
  requests.foldl (fun router request => (router.start ref request).value.1) router

private theorem started_concat (router : Router) (ref : ClusterRef)
    (requests : List Http.Request) (request : Http.Request) :
    router.started ref (requests ++ [request]) =
      ((router.started ref requests).start ref request).value.1 :=
  List.foldl_concat ..

theorem Sharing.started (sharing : router.Sharing ref records cluster)
    (requests : List Http.Request) :
    (∃ after,
      (router.laden ref .leastRequests records requests.length).Sharing ref records
        after) ∧
    ∃ inFlight, router.started ref requests =
      { router.laden ref .leastRequests records requests.length with inFlight } := by
  induction requests using List.reverseRecOn with
  | nil => exact ⟨⟨cluster, sharing⟩, router.inFlight, rfl⟩
  | append_singleton requests request induction =>
      rcases induction with ⟨⟨now, shared⟩, inFlight, same⟩
      -- The gateway differs from the loaded one in the requests that wait for their
      -- backends.
      have waiting : Sharing
          { router.laden ref .leastRequests records requests.length with inFlight }
          ref records now :=
        ⟨shared.present, shared.unbound, shared.balanced, shared.available⟩
      rcases waiting.start request with ⟨more, next⟩
      rw [List.length_append, List.length_singleton, laden]
      refine ⟨shared.load, more, ?_⟩
      rw [started_concat, same, next, load_inFlight]

end Started

end Router

end Gateway
