import Gateway.Cluster.Basic

namespace Gateway

/-! Bringing the records of a cluster in line with its configuration. An id that
stays keeps its record, counters and health; only its settings are replaced. A
new id gets a fresh record. A record whose id is gone stays as it is, but no id
names it any more. -/

structure DestinationChanges where
  added : List String
  updated : List String
  removed : List String
  deriving Repr, DecidableEq

def DestinationChanges.isEmpty (changes : DestinationChanges) : Bool :=
  changes.added.isEmpty && changes.updated.isEmpty && changes.removed.isEmpty

namespace Cluster

/-- The ids that a configuration adds, changes and drops, each in ascending order. -/
def changes (cluster : Cluster) (configs : Keyed DestinationConfig) :
    DestinationChanges where
  added := configs.keys.filter (fun id => !cluster.current.contains id)
  updated :=
    (configs.entries.filter (fun entry =>
      match cluster.destination? entry.1 with
      | some candidate => candidate.destination.config != entry.2
      | none => false)).map Prod.fst
  removed := cluster.current.keys.filter (fun id => !configs.contains id)

/-- Goes through a configuration and finds or makes the record of every id. -/
def enroll (current : Keyed Nat) (records : List Destination) :
    List (String × DestinationConfig) → List Destination × List (String × Nat)
  | [] => (records, [])
  | (id, config) :: rest =>
      match current.get? id with
      | some record =>
          let kept :=
            records.modify record (fun destination => { destination with config })
          let (records, named) := enroll current kept rest
          (records, (id, record) :: named)
      | none =>
          let record := records.length
          let (records, named) := enroll current (records ++ [{ id, config }]) rest
          (records, (id, record) :: named)

theorem map_fst_enroll (current : Keyed Nat) (records : List Destination)
    (configs : List (String × DestinationConfig)) :
    (enroll current records configs).2.map Prod.fst = configs.map Prod.fst := by
  induction configs generalizing records with
  | nil => rfl
  | cons entry rest induction =>
      obtain ⟨id, config⟩ := entry
      simp only [enroll]
      split <;> simp [induction]

theorem ascending_enroll (current : Keyed Nat) (records : List Destination)
    (configs : Keyed DestinationConfig) :
    (enroll current records configs.entries).2.Pairwise
      (fun earlier later => earlier.1 < later.1) := by
  have ascending := List.pairwise_map.2 configs.ascending
  rw [← map_fst_enroll current records configs.entries] at ascending
  exact List.pairwise_map.1 ascending

def reconcile (cluster : Cluster) (configs : Keyed DestinationConfig) : Effect Cluster :=
  let changes := cluster.changes configs
  if changes.isEmpty then pure cluster
  else do
    Effect.tellOf cluster.id
      (.destinationsChanged changes.added changes.updated changes.removed)
    pure
      { cluster with
        records := (enroll cluster.current cluster.records configs.entries).1
        current :=
          { entries := (enroll cluster.current cluster.records configs.entries).2
            ascending := ascending_enroll cluster.current cluster.records configs } }

end Cluster

end Gateway
