import Gateway.Cluster.Reconciliation
import Gateway.Proofs.Keyed

namespace Gateway

/-! Records by their numbers. A number that stands for no record yet counts as a
fresh one: healthy as far as anyone knows, and without requests. So a record that
is added changes neither the health nor the requests of any number. -/

/-- The health of a record of which nothing was heard yet. -/
def DestinationHealth.pristine : DestinationHealth where
  active := .unknown
  passive := .healthy
  exclusions := 0
  probeFailures := 0
  window := { origin := none, buckets := [], total := 0, failures := 0 }

namespace Destination

def healthAt (records : List Destination) (number : Nat) : DestinationHealth :=
  (records[number]?.map Destination.health).getD {}

def requestsAt (records : List Destination) (number : Nat) : UInt64 :=
  (records[number]?.map Destination.requests).getD 0

theorem healthAt_of_getElem? {records : List Destination} {number : Nat}
    {destination : Destination} (stored : records[number]? = some destination) :
    healthAt records number = destination.health := by
  simp [healthAt, stored]

theorem requestsAt_of_getElem? {records : List Destination} {number : Nat}
    {destination : Destination} (stored : records[number]? = some destination) :
    requestsAt records number = destination.requests := by
  simp [requestsAt, stored]

theorem healthAt_modify (records : List Destination) (changed number : Nat)
    (change : Destination → Destination)
    (kept : ∀ destination, (change destination).health = destination.health) :
    healthAt (records.modify changed change) number = healthAt records number := by
  simp only [healthAt, List.getElem?_modify]
  cases records[number]? with
  | none => rfl
  | some destination =>
      by_cases same : changed = number <;> simp [same, kept]

private theorem requestsAt_modify (records : List Destination) (changed number : Nat)
    (change : Destination → Destination)
    (kept : ∀ destination, (change destination).requests = destination.requests) :
    requestsAt (records.modify changed change) number = requestsAt records number := by
  simp only [requestsAt, List.getElem?_modify]
  cases records[number]? with
  | none => rfl
  | some destination =>
      by_cases same : changed = number <;> simp [same, kept]

private theorem healthAt_append_fresh (records : List Destination) (id : String)
    (config : DestinationConfig) (number : Nat) :
    healthAt (records ++ [({ id, config } : Destination)]) number =
      healthAt records number := by
  rcases Nat.lt_trichotomy number records.length with before | equal | beyond
  · simp only [healthAt, List.getElem?_append_left before]
  · subst equal
    simp [healthAt]
  · simp only [healthAt]
    rw [List.getElem?_eq_none (by simp; omega), List.getElem?_eq_none (by omega)]

private theorem requestsAt_append_fresh (records : List Destination) (id : String)
    (config : DestinationConfig) (number : Nat) :
    requestsAt (records ++ [({ id, config } : Destination)]) number =
      requestsAt records number := by
  rcases Nat.lt_trichotomy number records.length with before | equal | beyond
  · simp only [requestsAt, List.getElem?_append_left before]
  · subst equal
    simp [requestsAt]
  · simp only [requestsAt]
    rw [List.getElem?_eq_none (by simp; omega), List.getElem?_eq_none (by omega)]

end Destination

namespace Cluster

def healthOf (cluster : Cluster) (number : Nat) : DestinationHealth :=
  Destination.healthAt cluster.records number

def requestsOf (cluster : Cluster) (number : Nat) : UInt64 :=
  Destination.requestsAt cluster.records number

theorem mem_candidates_iff (cluster : Cluster) (numbers : List Nat)
    (candidate : Candidate) :
    candidate ∈ cluster.candidates numbers ↔
      candidate.record ∈ numbers ∧
        cluster.records[candidate.record]? = some candidate.destination := by
  simp only [candidates, List.mem_filterMap, candidate?, Option.map_eq_some_iff]
  constructor
  · rintro ⟨number, member, destination, stored, rfl⟩
    exact ⟨member, stored⟩
  · rintro ⟨member, stored⟩
    exact ⟨candidate.record, member, candidate.destination, stored, rfl⟩

/-- Every id names a record that has this id. -/
def Names (current : Keyed Nat) (records : List Destination) : Prop :=
  ∀ id number, current.get? id = some number →
    ∃ destination, records[number]? = some destination ∧ destination.id = id

theorem Names.modify {current : Keyed Nat} {records : List Destination}
    (names : Names current records) (changed : Nat) (change : Destination → Destination)
    (kept : ∀ destination, (change destination).id = destination.id) :
    Names current (records.modify changed change) := by
  intro id number named
  rcases names id number named with ⟨destination, stored, same⟩
  by_cases here : changed = number
  · refine ⟨change destination, ?_, (kept destination).trans same⟩
    simp [here, stored]
  · refine ⟨destination, ?_, same⟩
    simp [here, stored]

theorem Names.append {current : Keyed Nat} {records : List Destination}
    (names : Names current records) (additional : List Destination) :
    Names current (records ++ additional) := by
  intro id number named
  rcases names id number named with ⟨destination, stored, same⟩
  have bound : number < records.length := (List.getElem?_eq_some_iff.1 stored).1
  exact ⟨destination, (List.getElem?_append_left bound).trans stored, same⟩

theorem Names.eq_of_same {current : Keyed Nat} {records : List Destination}
    (names : Names current records) {left right : String} {number : Nat}
    (leftNamed : current.get? left = some number)
    (rightNamed : current.get? right = some number) : left = right := by
  rcases names left number leftNamed with ⟨destination, stored, same⟩
  rcases names right number rightNamed with ⟨other, alsoStored, alsoSame⟩
  rw [stored, Option.some.injEq] at alsoStored
  rw [← same, ← alsoSame, alsoStored]

/-! Enrolling: what it does to health and requests, which records it leaves
alone, and what stands behind the names it gives. -/

theorem healthAt_enroll (current : Keyed Nat) (records : List Destination)
    (configs : List (String × DestinationConfig)) (number : Nat) :
    Destination.healthAt (enroll current records configs).1 number =
      Destination.healthAt records number := by
  induction configs generalizing records with
  | nil => rfl
  | cons entry rest induction =>
      rcases entry with ⟨id, config⟩
      simp only [enroll]
      split
      · exact (induction _).trans (Destination.healthAt_modify _ _ _ _ fun _ => rfl)
      · exact (induction _).trans (Destination.healthAt_append_fresh _ _ _ _)

theorem requestsAt_enroll (current : Keyed Nat) (records : List Destination)
    (configs : List (String × DestinationConfig)) (number : Nat) :
    Destination.requestsAt (enroll current records configs).1 number =
      Destination.requestsAt records number := by
  induction configs generalizing records with
  | nil => rfl
  | cons entry rest induction =>
      rcases entry with ⟨id, config⟩
      simp only [enroll]
      split
      · exact (induction _).trans (Destination.requestsAt_modify _ _ _ _ fun _ => rfl)
      · exact (induction _).trans (Destination.requestsAt_append_fresh _ _ _ _)

theorem getElem?_enroll_of_not_named (current : Keyed Nat) (records : List Destination)
    (configs : List (String × DestinationConfig)) {number : Nat}
    (bound : number < records.length)
    (notNamed : ∀ entry ∈ configs, current.get? entry.1 ≠ some number) :
    (enroll current records configs).1[number]? = records[number]? := by
  induction configs generalizing records with
  | nil => rfl
  | cons entry rest induction =>
      rcases entry with ⟨id, config⟩
      have later : ∀ entry ∈ rest, current.get? entry.1 ≠ some number :=
        fun entry member => notNamed entry (List.mem_cons_of_mem _ member)
      simp only [enroll]
      split
      · rename_i record named
        have different : record ≠ number := fun equal =>
          notNamed (id, config) (List.mem_cons_self ..) (equal ▸ named)
        rw [induction _ (by simpa using bound) later]
        simp [different]
      · rw [induction _ (by simp; omega) later]
        exact List.getElem?_append_left bound

theorem enrolled_of_mem_enroll (current : Keyed Nat) (records : List Destination)
    (configs : List (String × DestinationConfig)) (names : Names current records)
    (distinct : (configs.map Prod.fst).Nodup) {id : String} {number : Nat}
    (given : (id, number) ∈ (enroll current records configs).2) :
    ∃ destination, (enroll current records configs).1[number]? = some destination ∧
      destination.id = id ∧ (id, destination.config) ∈ configs := by
  induction configs generalizing records with
  | nil => cases given
  | cons entry rest induction =>
      rcases entry with ⟨key, config⟩
      rw [List.map_cons, List.nodup_cons] at distinct
      have different : ∀ entry ∈ rest, entry.1 ≠ key := fun entry member equal =>
        distinct.1 (List.mem_map.2 ⟨entry, member, equal⟩)
      cases named : current.get? key with
      | some record =>
          simp only [enroll, named] at given ⊢
          have kept := names.modify record
            (fun destination => { destination with config }) fun _ => rfl
          rcases List.mem_cons.1 given with equal | later
          · rcases Prod.mk.injEq .. ▸ equal with ⟨rfl, rfl⟩
            rcases names _ _ named with ⟨destination, stored, same⟩
            have bound := (List.getElem?_eq_some_iff.1 stored).1
            refine ⟨{ destination with config }, ?_, same, List.mem_cons_self ..⟩
            rw [getElem?_enroll_of_not_named]
            · simp [stored]
            · simpa using bound
            · intro entry member alsoNamed
              exact different entry member (names.eq_of_same alsoNamed named)
          · rcases induction _ kept distinct.2 later with
              ⟨destination, stored, same, member⟩
            exact ⟨destination, stored, same, List.mem_cons_of_mem _ member⟩
      | none =>
          simp only [enroll, named] at given ⊢
          have kept := names.append [{ id := key, config }]
          rcases List.mem_cons.1 given with equal | later
          · rcases Prod.mk.injEq .. ▸ equal with ⟨rfl, rfl⟩
            refine ⟨{ id, config }, ?_, rfl, List.mem_cons_self ..⟩
            rw [getElem?_enroll_of_not_named]
            · simp
            · simp
            · intro entry member alsoNamed
              rcases names _ _ alsoNamed with ⟨_, stored, _⟩
              exact absurd (List.getElem?_eq_some_iff.1 stored).1 (Nat.lt_irrefl _)
          · rcases induction _ kept distinct.2 later with
              ⟨destination, stored, same, member⟩
            exact ⟨destination, stored, same, List.mem_cons_of_mem _ member⟩

theorem length_enroll (current : Keyed Nat) (records : List Destination)
    (configs : List (String × DestinationConfig)) :
    records.length ≤ (enroll current records configs).1.length := by
  induction configs generalizing records with
  | nil => exact Nat.le_refl _
  | cons entry rest induction =>
      rcases entry with ⟨id, config⟩
      simp only [enroll]
      split
      · rename_i record _
        have kept := induction (records.modify record (fun destination =>
          { destination with config }))
        rwa [List.length_modify] at kept
      · have more := induction (records ++ [({ id, config } : Destination)])
        rw [List.length_append] at more
        exact Nat.le_trans (Nat.le_add_right _ _) more

theorem kept_or_fresh_of_mem_enroll (current : Keyed Nat) (records : List Destination)
    (configs : List (String × DestinationConfig)) {id : String} {number : Nat}
    (given : (id, number) ∈ (enroll current records configs).2) :
    current.get? id = some number ∨ current.get? id = none ∧ records.length ≤ number := by
  induction configs generalizing records with
  | nil => cases given
  | cons entry rest induction =>
      rcases entry with ⟨key, config⟩
      cases named : current.get? key with
      | some record =>
          simp only [enroll, named] at given
          rcases List.mem_cons.1 given with equal | later
          · rcases Prod.mk.injEq .. ▸ equal with ⟨rfl, rfl⟩
            exact .inl named
          · have found := induction _ later
            rwa [List.length_modify] at found
      | none =>
          simp only [enroll, named] at given
          rcases List.mem_cons.1 given with equal | later
          · rcases Prod.mk.injEq .. ▸ equal with ⟨rfl, rfl⟩
            exact .inr ⟨named, Nat.le_refl _⟩
          · refine (induction _ later).imp_right fun fresh => ⟨fresh.1, ?_⟩
            have beyond := fresh.2
            rw [List.length_append] at beyond
            omega

/-! Reconciling. A configuration that changes nothing is not enrolled at all, but
enrolling it would come to the same. -/

theorem map_fst_distinct {α : Type u} (map : Keyed α) :
    (map.entries.map Prod.fst).Nodup :=
  (Keyed.ascending_keys map).imp fun before equal => by
    rw [equal] at before
    exact String.lt_irrefl _ before

private theorem enroll_records_of_settled (current : Keyed Nat)
    (records : List Destination) (configs : List (String × DestinationConfig))
    (settled : ∀ entry ∈ configs, ∃ number destination,
      current.get? entry.1 = some number ∧ records[number]? = some destination ∧
        destination.config = entry.2) :
    (enroll current records configs).1 = records ∧
      ∀ id number, (id, number) ∈ (enroll current records configs).2 →
        current.get? id = some number := by
  induction configs with
  | nil => simp [enroll]
  | cons entry rest induction =>
      rcases entry with ⟨key, config⟩
      rcases settled (key, config) (List.mem_cons_self ..) with
        ⟨number, destination, named, stored, same⟩
      obtain rfl : destination.config = config := same
      have unchanged :
          records.modify number (fun other =>
            { other with config := destination.config }) =
            records := by
        apply List.ext_getElem?
        intro position
        by_cases here : number = position
        · subst here
          simp [stored]
        · simp [here]
      rcases induction fun entry member =>
        settled entry (List.mem_cons_of_mem _ member) with
        ⟨sameRecords, givenNames⟩
      simp only [enroll, named, unchanged]
      refine ⟨sameRecords, fun id given member => ?_⟩
      rcases List.mem_cons.1 member with equal | later
      · rcases Prod.mk.injEq .. ▸ equal with ⟨rfl, rfl⟩
        exact named
      · exact givenNames id given later

private theorem settled_of_no_changes {cluster : Cluster}
    {configs : Keyed DestinationConfig} (names : Names cluster.current cluster.records)
    (nothing : (cluster.changes configs).isEmpty = true) :
    ∀ entry ∈ configs.entries, ∃ number destination,
      cluster.current.get? entry.1 = some number ∧ cluster.records[number]? =
        some destination ∧ destination.config = entry.2 := by
  simp only [DestinationChanges.isEmpty, Bool.and_eq_true, List.isEmpty_iff,
    changes] at nothing
  rcases nothing with ⟨⟨noneAdded, noneUpdated⟩, -⟩
  intro entry member
  have known : cluster.current.contains entry.1 = true := by
    have kept :=
      List.filter_eq_nil_iff.1 noneAdded entry.1 (List.mem_map.2 ⟨entry, member, rfl⟩)
    simpa using kept
  rcases (Keyed.mem_keys_iff _ _).1 ((Keyed.contains_iff _ _).1 known) with
    ⟨number, named⟩
  rcases names entry.1 number named with ⟨destination, stored, -⟩
  have found : cluster.destination? entry.1 = some { record := number, destination } := by
    simp [destination?, candidate?, named, stored]
  have same := List.filter_eq_nil_iff.1 (List.map_eq_nil_iff.1 noneUpdated) entry member
  simp only [found, bne_iff_ne, ne_eq, Decidable.not_not] at same
  exact ⟨number, destination, named, stored, same⟩

def enrolledNames (configs : Keyed DestinationConfig)
    (cluster : Cluster) : Keyed Nat where
  entries := (enroll cluster.current cluster.records configs.entries).2
  ascending := ascending_enroll cluster.current cluster.records configs

theorem keys_enrolledNames (cluster : Cluster) (configs : Keyed DestinationConfig) :
    (cluster.enrolledNames configs).keys = configs.keys :=
  map_fst_enroll cluster.current cluster.records configs.entries

private theorem enrolledNames_of_no_changes {cluster : Cluster}
    {configs : Keyed DestinationConfig} (names : Names cluster.current cluster.records)
    (nothing : (cluster.changes configs).isEmpty = true) :
    cluster.enrolledNames configs = cluster.current := by
  have settled := settled_of_no_changes names nothing
  rcases enroll_records_of_settled cluster.current cluster.records configs.entries
    settled with
    ⟨-, givenNames⟩
  apply Keyed.ext_get?
  intro id
  cases found : (cluster.enrolledNames configs).get? id with
  | some number =>
      exact (givenNames id number ((Keyed.get?_eq_some_iff _ _ _).1 found)).symm
  | none =>
      cases named : cluster.current.get? id with
      | none => rfl
      | some number =>
          simp only [DestinationChanges.isEmpty, Bool.and_eq_true, List.isEmpty_iff,
            changes] at nothing
          have configured : configs.contains id = true := by
            have kept := List.filter_eq_nil_iff.1 nothing.2 id
              ((Keyed.mem_keys_iff _ _).2 ⟨number, named⟩)
            simpa using kept
          have known := (Keyed.contains_iff _ _).1 configured
          rw [← keys_enrolledNames cluster configs] at known
          rcases (Keyed.mem_keys_iff _ _).1 known with ⟨given, alsoFound⟩
          rw [found] at alsoFound
          cases alsoFound

theorem value_reconcile (cluster : Cluster) (configs : Keyed DestinationConfig)
    (names : Names cluster.current cluster.records) :
    (cluster.reconcile configs).value =
      { cluster with
        records := (enroll cluster.current cluster.records configs.entries).1
        current := cluster.enrolledNames configs } := by
  by_cases nothing : (cluster.changes configs).isEmpty = true
  · simp only [reconcile, if_pos nothing, Traced.value_pure]
    rw [enrolledNames_of_no_changes names nothing,
      (enroll_records_of_settled _ _ _ (settled_of_no_changes names nothing)).1]
  · simp only [reconcile, if_neg nothing, Traced.value_bind, Traced.value_pure]
    rfl

end Cluster

end Gateway
