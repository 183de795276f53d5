namespace Gateway

/-! A finite map from text keys, stored as its entries in strictly ascending
key order. Each map has exactly one stored form, so equality of maps is
equality of entries and iteration needs no further sorting. -/

structure Keyed (α : Type u) where
  entries : List (String × α)
  ascending : entries.Pairwise (fun earlier later => earlier.1 < later.1) := by simp
  deriving DecidableEq

namespace Keyed

/-! Insertion on the bare entry list. An entry with an equal key is replaced. -/

def place {α : Type u} (key : String) (value : α) :
    List (String × α) → List (String × α)
  | [] => [(key, value)]
  | entry :: rest =>
      if key < entry.1 then (key, value) :: entry :: rest
      else if entry.1 < key then entry :: place key value rest
      else (key, value) :: rest

theorem fst_of_mem_place {α : Type u} {key : String} {value : α}
    {entries : List (String × α)} {entry : String × α}
    (member : entry ∈ place key value entries) :
    entry.1 = key ∨ entry ∈ entries := by
  induction entries with
  | nil => simp_all [place]
  | cons head rest induction =>
      simp only [place] at member
      split at member
      · simp only [List.mem_cons] at member ⊢
        rcases member with rfl | member
        · exact .inl rfl
        · exact .inr member
      · split at member
        · simp only [List.mem_cons] at member ⊢
          rcases member with rfl | member
          · exact .inr (.inl rfl)
          · exact (induction member).imp_right .inr
        · simp only [List.mem_cons] at member ⊢
          rcases member with rfl | member
          · exact .inl rfl
          · exact .inr (.inr member)

theorem ascending_place {α : Type u} (key : String) (value : α)
    {entries : List (String × α)}
    (ascending : entries.Pairwise (fun earlier later => earlier.1 < later.1)) :
    (place key value entries).Pairwise (fun earlier later => earlier.1 < later.1) := by
  induction entries with
  | nil => simp [place]
  | cons head rest induction =>
      rw [List.pairwise_cons] at ascending
      simp only [place]
      split
      · rename_i before
        rw [List.pairwise_cons]
        refine ⟨fun entry member => ?_, List.pairwise_cons.2 ascending⟩
        rcases List.mem_cons.1 member with rfl | member
        · exact before
        · exact String.lt_trans before (ascending.1 entry member)
      · split
        · rename_i after
          rw [List.pairwise_cons]
          refine ⟨fun entry member => ?_, induction ascending.2⟩
          rcases fst_of_mem_place member with same | member
          · exact same ▸ after
          · exact ascending.1 entry member
        · rename_i notBefore notAfter
          have same : key = head.1 :=
            String.le_antisymm (String.not_lt.1 notAfter) (String.not_lt.1 notBefore)
          rw [List.pairwise_cons]
          exact ⟨fun entry member => same ▸ ascending.1 entry member, ascending.2⟩

def empty {α : Type u} : Keyed α := { entries := [] }

instance {α : Type u} : EmptyCollection (Keyed α) := ⟨empty⟩

instance {α : Type u} : Inhabited (Keyed α) := ⟨empty⟩

def get? {α : Type u} (map : Keyed α) (key : String) : Option α :=
  map.entries.lookup key

def contains {α : Type u} (map : Keyed α) (key : String) : Bool :=
  map.entries.any (fun entry => entry.1 == key)

def insert {α : Type u} (map : Keyed α) (key : String) (value : α) : Keyed α where
  entries := place key value map.entries
  ascending := ascending_place key value map.ascending

def erase {α : Type u} (map : Keyed α) (key : String) : Keyed α where
  entries := map.entries.filter (fun entry => entry.1 != key)
  ascending := map.ascending.filter _

/-! Of several entries with one key the last one counts. -/

def ofList {α : Type u} (entries : List (String × α)) : Keyed α :=
  entries.foldl (fun map entry => map.insert entry.1 entry.2) empty

def keys {α : Type u} (map : Keyed α) : List String :=
  map.entries.map Prod.fst

def values {α : Type u} (map : Keyed α) : List α :=
  map.entries.map Prod.snd

def isEmpty {α : Type u} (map : Keyed α) : Bool :=
  map.entries.isEmpty

/-! How the operations act on lookup. -/

@[simp] theorem get?_empty {α : Type u} (key : String) :
    (empty : Keyed α).get? key = none := rfl

theorem lookup_cons_eq_if {α : Type u} (key : String) (entry : String × α)
    (rest : List (String × α)) :
    (entry :: rest).lookup key =
      if key = entry.1 then some entry.2 else rest.lookup key := by
  rw [List.lookup_cons]
  by_cases same : key = entry.1
  · simp [same]
  · rw [if_neg same, beq_false_of_ne same]

theorem lookup_place {α : Type u} (key other : String) (value : α)
    (entries : List (String × α)) :
    (place key value entries).lookup other =
      if other = key then some value else entries.lookup other := by
  induction entries with
  | nil => simp [place, lookup_cons_eq_if]
  | cons head rest induction =>
      simp only [place]
      split
      · exact lookup_cons_eq_if other (key, value) (head :: rest)
      · split
        · rename_i _ after
          rw [lookup_cons_eq_if, lookup_cons_eq_if, induction]
          by_cases atHead : other = head.1
          · have different : ¬ other = key := fun same => by
              rw [← atHead, same] at after
              exact String.lt_irrefl _ after
            simp only [if_pos atHead, if_neg different]
          · simp only [if_neg atHead]
        · rename_i notBefore notAfter
          have same : key = head.1 :=
            String.le_antisymm (String.not_lt.1 notAfter) (String.not_lt.1 notBefore)
          rw [lookup_cons_eq_if, lookup_cons_eq_if, ← same]
          by_cases atKey : other = key
          · simp only [if_pos atKey]
          · simp only [if_neg atKey]

@[simp] theorem get?_insert {α : Type u} (map : Keyed α) (key other : String)
    (value : α) :
    (map.insert key value).get? other =
      if other = key then some value else map.get? other :=
  lookup_place key other value map.entries

theorem lookup_filter_key {α : Type u} (keep : String → Bool) (key : String)
    (entries : List (String × α)) :
    (entries.filter (fun entry => keep entry.1)).lookup key =
      if keep key then entries.lookup key else none := by
  induction entries with
  | nil => simp
  | cons head rest induction =>
      rw [List.filter_cons]
      by_cases atHead : key = head.1
      · subst atHead
        by_cases kept : keep head.1 = true
        · simp only [if_pos kept, lookup_cons_eq_if, if_true]
        · simp only [if_neg kept, induction]
      · split <;> simp only [lookup_cons_eq_if, if_neg atHead, induction]

@[simp] theorem get?_erase {α : Type u} (map : Keyed α) (key other : String) :
    (map.erase key).get? other = if other = key then none else map.get? other := by
  apply (lookup_filter_key (fun candidate => candidate != key) other map.entries).trans
  by_cases same : other = key
  · rw [if_pos same, if_neg (by simp [same])]
  · rw [if_neg same, if_pos (by simpa using same)]
    rfl

end Keyed

end Gateway
