import Gateway.Proofs.Cluster.Records

namespace Gateway

/-! Reconciling, told by lookup alone: what every id stands for afterwards, which changes
are reported, and that a later configuration leaves nothing of an earlier one. -/

namespace Keyed

private theorem mem_keys_iff_isSome {α : Type u} (map : Keyed α) (key : String) :
    key ∈ map.keys ↔ (map.get? key).isSome = true := by
  rw [mem_keys_iff, Option.isSome_iff_exists]

theorem contains_eq_isSome {α : Type u} (map : Keyed α) (key : String) :
    map.contains key = (map.get? key).isSome := by
  rw [Bool.eq_iff_iff, contains_iff, mem_keys_iff_isSome]

end Keyed

namespace Cluster

variable {cluster : Cluster} {configs : Keyed DestinationConfig} {id : String}
  {number : Nat}

def settings? (cluster : Cluster) (id : String) : Option DestinationConfig :=
  (cluster.destination? id).map (fun candidate => candidate.destination.config)

private theorem destination?_eq_some_iff {candidate : Candidate} :
    cluster.destination? id = some candidate ↔
      cluster.current.get? id = some candidate.record ∧
        cluster.records[candidate.record]? = some candidate.destination := by
  constructor
  · intro found
    rcases Option.bind_eq_some_iff.1 found with ⟨number, named, there⟩
    rcases Option.map_eq_some_iff.1 there with ⟨destination, stored, rfl⟩
    exact ⟨named, stored⟩
  · rintro ⟨named, stored⟩
    simp [destination?, candidate?, named, stored]

theorem destination?_eq_none_iff (names : Names cluster.current cluster.records) :
    cluster.destination? id = none ↔ cluster.current.get? id = none := by
  constructor
  · intro missing
    cases named : cluster.current.get? id with
    | none => rfl
    | some number =>
        rcases names id number named with ⟨destination, stored, -⟩
        rw [destination?_eq_some_iff.2
          (show _ ∧ cluster.records[(Candidate.mk number destination).record]? = _ from
            ⟨named, stored⟩)] at missing
        cases missing
  · intro unnamed
    simp [destination?, unnamed]

theorem getElem?_eq_some_of_parts {records : List Destination}
    {destination expected : Destination} (stored : records[number]? = some destination)
    (own : destination.id = expected.id) (config : destination.config = expected.config)
    (requests : Destination.requestsAt records number = expected.requests)
    (health : Destination.healthAt records number = expected.health) :
    records[number]? = some expected := by
  rw [Destination.requestsAt_of_getElem? stored] at requests
  rw [Destination.healthAt_of_getElem? stored] at health
  rw [stored]
  cases destination
  cases expected
  simp_all

theorem enrolled_of_configured (names : Names cluster.current cluster.records)
    {config : DestinationConfig} (configured : configs.get? id = some config) :
    ∃ number destination, (cluster.enrolledNames configs).get? id = some number ∧
      (enroll cluster.current cluster.records configs.entries).1[number]? =
        some destination ∧ destination.id = id ∧ destination.config = config := by
  have listed : id ∈ (cluster.enrolledNames configs).keys := by
    rw [keys_enrolledNames]
    exact (Keyed.mem_keys_iff _ _).2 ⟨config, configured⟩
  rcases (Keyed.mem_keys_iff _ _).1 listed with ⟨number, given⟩
  rcases enrolled_of_mem_enroll _ _ _ names (map_fst_distinct configs)
    ((Keyed.get?_eq_some_iff _ _ _).1 given) with ⟨destination, stored, own, member⟩
  have settings := (Keyed.get?_eq_some_iff _ _ _).2 member
  rw [configured, Option.some.injEq] at settings
  exact ⟨number, destination, given, stored, own, settings.symm⟩

private theorem kept_or_fresh_enrolledNames
    (given : (cluster.enrolledNames configs).get? id = some number) :
    cluster.current.get? id = some number ∨
      cluster.current.get? id = none ∧ cluster.records.length ≤ number :=
  kept_or_fresh_of_mem_enroll _ _ _ ((Keyed.get?_eq_some_iff _ _ _).1 given)

private theorem names_reconcile (names : Names cluster.current cluster.records)
    (configs : Keyed DestinationConfig) :
    Names (cluster.reconcile configs).value.current
      (cluster.reconcile configs).value.records := by
  rw [value_reconcile cluster configs names]
  intro id number given
  rcases enrolled_of_mem_enroll _ _ _ names (map_fst_distinct configs)
    ((Keyed.get?_eq_some_iff _ _ _).1 given) with ⟨destination, stored, own, -⟩
  exact ⟨destination, stored, own⟩

private theorem destination?_reconcile_of_kept
    (names : Names cluster.current cluster.records)
    {config : DestinationConfig} {candidate : Candidate}
    (configured : configs.get? id = some config)
    (found : cluster.destination? id = some candidate) :
    (cluster.reconcile configs).value.destination? id =
      some { candidate with destination := { candidate.destination with config } } := by
  rcases destination?_eq_some_iff.1 found with ⟨named, stored⟩
  rcases enrolled_of_configured names configured with
    ⟨number, destination, given, there, own, settings⟩
  obtain rfl : number = candidate.record := by
    rcases kept_or_fresh_enrolledNames given with same | ⟨missing, -⟩
    · exact Option.some.inj (same.symm.trans named)
    · rw [missing] at named
      cases named
  have sameId : candidate.destination.id = id := by
    rcases names id _ named with ⟨other, alsoStored, same⟩
    rw [stored, Option.some.injEq] at alsoStored
    rw [alsoStored, same]
  have requests := Destination.requestsAt_of_getElem? stored
  have health := Destination.healthAt_of_getElem? stored
  rw [value_reconcile cluster configs names, destination?_eq_some_iff]
  refine ⟨given, getElem?_eq_some_of_parts there (own.trans sameId.symm) settings ?_ ?_⟩
  · exact (requestsAt_enroll _ _ _ _).trans requests
  · exact (healthAt_enroll _ _ _ _).trans health

private theorem destination?_reconcile_of_new
    (names : Names cluster.current cluster.records)
    {config : DestinationConfig} (configured : configs.get? id = some config)
    (missing : cluster.destination? id = none) :
    ∃ number, cluster.records.length ≤ number ∧
      (cluster.reconcile configs).value.destination? id =
        some { record := number, destination := { id, config } } := by
  rw [destination?_eq_none_iff names] at missing
  rcases enrolled_of_configured names configured with
    ⟨number, destination, given, there, own, settings⟩
  have beyond : cluster.records.length ≤ number := by
    rcases kept_or_fresh_enrolledNames given with same | ⟨-, beyond⟩
    · rw [missing] at same
      cases same
    · exact beyond
  have nothing : cluster.records[number]? = none := List.getElem?_eq_none beyond
  refine ⟨number, beyond, ?_⟩
  rw [value_reconcile cluster configs names, destination?_eq_some_iff]
  refine ⟨given, getElem?_eq_some_of_parts there own settings ?_ ?_⟩
  · exact (requestsAt_enroll _ _ _ _).trans (by simp [Destination.requestsAt, nothing])
  · exact (healthAt_enroll _ _ _ _).trans (by simp [Destination.healthAt, nothing])

theorem settings?_reconcile (names : Names cluster.current cluster.records)
    (configs : Keyed DestinationConfig) (id : String) :
    (cluster.reconcile configs).value.settings? id = configs.get? id := by
  cases configured : configs.get? id with
  | some config =>
      cases found : cluster.destination? id with
      | some candidate =>
          rw [settings?, destination?_reconcile_of_kept names configured found]
          rfl
      | none =>
          rcases destination?_reconcile_of_new names configured found with
            ⟨number, -, there⟩
          rw [settings?, there]
          rfl
  | none =>
      have unlisted :
          ∀ number, (cluster.enrolledNames configs).get? id ≠ some number := by
        intro number given
        have listed := (Keyed.mem_keys_iff _ _).2 ⟨number, given⟩
        rw [keys_enrolledNames, Keyed.mem_keys_iff, configured] at listed
        rcases listed with ⟨_, impossible⟩
        cases impossible
      have unnamed := Option.eq_none_iff_forall_ne_some.2 unlisted
      rw [value_reconcile cluster configs names, settings?]
      simp [destination?, unnamed]

private theorem keys_reconcile (names : Names cluster.current cluster.records)
    (configs : Keyed DestinationConfig) :
    (cluster.reconcile configs).value.current.keys = configs.keys := by
  rw [value_reconcile cluster configs names]
  exact keys_enrolledNames cluster configs

/-- What stands for the ids of a configuration once a cluster has been brought in line
with it. -/
structure Reconciled (configs : Keyed DestinationConfig) (before after : Cluster) :
    Prop where
  ids : after.current.keys = configs.keys
  /-- An id that stays keeps its record, with new settings and otherwise as it was. -/
  kept : ∀ id config candidate, configs.get? id = some config →
    before.destination? id = some candidate →
    after.destination? id =
      some { candidate with destination := { candidate.destination with config } }
  /-- A new id gets a record that was not there before, with nothing counted or known. -/
  fresh : ∀ id config, configs.get? id = some config → before.destination? id = none →
    ∃ number, before.records.length ≤ number ∧
      after.destination? id = some { record := number, destination := { id, config } }
  /-- A record that no configured id names is as it was. -/
  left : ∀ number, number < before.records.length →
    (∀ id config, configs.get? id = some config → before.current.get? id ≠ some number) →
    after.records[number]? = before.records[number]?
  rest : after = { before with records := after.records, current := after.current }

private theorem reconciled (names : Names cluster.current cluster.records)
    (configs : Keyed DestinationConfig) :
    Reconciled configs cluster (cluster.reconcile configs).value where
  ids := keys_reconcile names configs
  kept := fun _ _ _ configured found =>
    destination?_reconcile_of_kept names configured found
  fresh := fun _ _ configured missing =>
    destination?_reconcile_of_new names configured missing
  left := by
    intro number bound apart
    rw [value_reconcile cluster configs names]
    refine getElem?_enroll_of_not_named _ _ _ bound fun entry member => ?_
    exact apart entry.1 entry.2 ((Keyed.get?_eq_some_iff _ _ _).2 member)
  rest := by rw [value_reconcile cluster configs names]

end Cluster

namespace DestinationChanges

variable {cluster : Cluster} {configs : Keyed DestinationConfig}

/-- The changes that a configuration comes with, by lookup. -/
structure Describes (changes : DestinationChanges) (cluster : Cluster)
    (configs : Keyed DestinationConfig) : Prop where
  added : ∀ id, id ∈ changes.added ↔
    (configs.get? id).isSome = true ∧ cluster.settings? id = none
  updated : ∀ id, id ∈ changes.updated ↔
    ∃ old new, cluster.settings? id = some old ∧ configs.get? id = some new ∧
      (old.address ≠ new.address ∨ old.health ≠ new.health ∨ old.metadata ≠ new.metadata)
  removed : ∀ id, id ∈ changes.removed ↔
    (cluster.settings? id).isSome = true ∧ configs.get? id = none
  addedAscending : changes.added.Pairwise (fun earlier later => earlier < later)
  updatedAscending : changes.updated.Pairwise (fun earlier later => earlier < later)
  removedAscending : changes.removed.Pairwise (fun earlier later => earlier < later)

private theorem ne_iff_differ (old new : DestinationConfig) :
    old ≠ new ↔
      old.address ≠ new.address ∨ old.health ≠ new.health ∨
        old.metadata ≠ new.metadata := by
  cases old
  cases new
  simp only [ne_eq, DestinationConfig.mk.injEq, Classical.not_and_iff_not_or_not]

private theorem isSome_settings? (names : Cluster.Names cluster.current cluster.records)
    (id : String) :
    (cluster.settings? id).isSome = (cluster.current.get? id).isSome := by
  rw [Cluster.settings?, Option.isSome_map]
  cases found : cluster.current.get? id with
  | none =>
      rw [(Cluster.destination?_eq_none_iff names).2 found]
      rfl
  | some number =>
      rcases names id number found with ⟨destination, stored, -⟩
      simp [Cluster.destination?, Cluster.candidate?, found, stored]

private theorem describes_changes (names : Cluster.Names cluster.current cluster.records)
    (configs : Keyed DestinationConfig) :
    (cluster.changes configs).Describes cluster configs where
  added := by
    intro id
    rw [← Option.not_isSome_iff_eq_none, isSome_settings? names]
    simp only [Cluster.changes, List.mem_filter, Keyed.mem_keys_iff_isSome,
      Keyed.contains_eq_isSome,
      Bool.not_eq_true', Bool.not_eq_true]
  updated := by
    intro id
    simp only [Cluster.changes, List.mem_map, List.mem_filter]
    constructor
    · rintro ⟨⟨key, new⟩, ⟨member, differs⟩, rfl⟩
      have configured := (Keyed.get?_eq_some_iff _ _ _).2 member
      split at differs
      · rename_i candidate found
        refine ⟨candidate.destination.config, new, ?_, configured, ?_⟩
        · rw [Cluster.settings?, found]
          rfl
        · exact (ne_iff_differ _ _).1 (bne_iff_ne.1 differs)
      · cases differs
    · rintro ⟨old, new, settings, configured, differ⟩
      rcases Option.map_eq_some_iff.1 settings with ⟨candidate, found, rfl⟩
      refine ⟨(id, new), ⟨(Keyed.get?_eq_some_iff _ _ _).1 configured, ?_⟩, rfl⟩
      simp only [found]
      exact bne_iff_ne.2 ((ne_iff_differ _ _).2 differ)
  removed := by
    intro id
    rw [isSome_settings? names, ← Option.not_isSome_iff_eq_none]
    simp only [Cluster.changes, List.mem_filter, Keyed.mem_keys_iff_isSome,
      Keyed.contains_eq_isSome,
      Bool.not_eq_true', Bool.not_eq_true]
  addedAscending := (Keyed.ascending_keys configs).filter _
  updatedAscending := List.pairwise_map.2 (configs.ascending.filter _)
  removedAscending := (Keyed.ascending_keys cluster.current).filter _

end DestinationChanges

namespace Cluster

private theorem events_reconcile (cluster : Cluster) (configs : Keyed DestinationConfig) :
    let changes := cluster.changes configs
    (cluster.reconcile configs).events =
      if changes.isEmpty then []
      else [.notice (.concerning cluster.id
        (.destinationsChanged changes.added changes.updated changes.removed))] := by
  simp only [reconcile]
  split <;> rfl

/-- Bringing the records of a cluster in line with a configuration, from any names and
records. A configuration without changes is not stored, which comes to the same as storing
it; of two configurations in a row only the second one can be told from the names and the
settings. -/
theorem reconcile_any (cluster : Cluster) (names : Names cluster.current cluster.records)
    (configs later : Keyed DestinationConfig) :
    let changes := cluster.changes configs
    let after := (cluster.reconcile configs).value
    let last := (after.reconcile later).value
    Reconciled configs cluster after ∧ changes.Describes cluster configs ∧
      ((cluster.reconcile configs).events =
        if changes.isEmpty then []
        else [.notice (.concerning cluster.id
          (.destinationsChanged changes.added changes.updated changes.removed))]) ∧
      after =
        { cluster with
          records := (enroll cluster.current cluster.records configs.entries).1
          current := cluster.enrolledNames configs } ∧
      last.current.keys = later.keys ∧
      ∀ id, last.settings? id = later.get? id ∧
        last.settings? id = (cluster.reconcile later).value.settings? id := by
  have namesAfter := names_reconcile names configs
  refine ⟨reconciled names configs, DestinationChanges.describes_changes names configs,
    events_reconcile cluster configs, value_reconcile cluster configs names,
    keys_reconcile namesAfter later, fun id => ?_⟩
  have settings := settings?_reconcile namesAfter later id
  exact ⟨settings, settings.trans (settings?_reconcile names later id).symm⟩

/-- A cluster with a request at one destination and none at the other. -/
def pair : Cluster where
  id := "pair"
  model :=
    { config := { id := "pair" }
      loadBalancing := .first
      affinity := none
      availability := .healthyAndUnknown
      active := none
      passive := none }
  records :=
    [{ id := "a", config := { address := "10.0.0.1" }, requests := 1 },
      { id := "b", config := { address := "10.0.0.2" } }]
  current := .ofList [("a", 0), ("b", 1)]

/-- One destination moves, one is given up for another. -/
theorem reconcile_pair :
    let configs : Keyed DestinationConfig :=
      .ofList [("a", { address := "10.0.0.9" }), ("c", { address := "10.0.0.3" })]
    let after := (pair.reconcile configs).value
    Names pair.current pair.records ∧ Reconciled configs pair after ∧
      pair.changes configs = { added := ["c"], updated := ["a"], removed := ["b"] } ∧
      after.current.keys = ["a", "c"] ∧
      after.destination? "a" = some
        { record := 0
          destination :=
            { id := "a", config := { address := "10.0.0.9" }, requests := 1 } } := by
  intro configs after
  have names : Names pair.current pair.records := by
    intro id number named
    have entry := (Keyed.get?_eq_some_iff _ _ _).1 named
    have entries : pair.current.entries = [("a", 0), ("b", 1)] := by decide
    rw [entries] at entry
    simp only [List.mem_cons, Prod.mk.injEq, List.not_mem_nil, or_false] at entry
    rcases entry with ⟨rfl, rfl⟩ | ⟨rfl, rfl⟩
    · exact ⟨_, rfl, rfl⟩
    · exact ⟨_, rfl, rfl⟩
  rcases reconcile_any pair names configs {} with ⟨reconciled, -⟩
  have ids : configs.keys = ["a", "c"] := by decide
  refine ⟨names, reconciled, by decide, reconciled.ids.trans ids, ?_⟩
  exact reconciled.kept "a" { address := "10.0.0.9" }
    { record := 0
      destination := { id := "a", config := { address := "10.0.0.1" }, requests := 1 } }
    (by decide) (by decide)

end Cluster

end Gateway
