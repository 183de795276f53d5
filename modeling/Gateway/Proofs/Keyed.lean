import Gateway.Keyed

namespace Gateway.Keyed

/-! What a map holds, told by lookup alone: entries, keys and values are what
lookup finds, and two maps that look up alike are the same map. -/

private theorem lookup_eq_some_iff {α : Type u} {entries : List (String × α)}
    (ascending : entries.Pairwise (fun earlier later => earlier.1 < later.1))
    (key : String) (value : α) :
    entries.lookup key = some value ↔ (key, value) ∈ entries := by
  induction entries with
  | nil => simp
  | cons head rest induction =>
      rw [List.pairwise_cons] at ascending
      rw [lookup_cons_eq_if, List.mem_cons]
      by_cases atHead : key = head.1
      · have notLater : (key, value) ∉ rest := fun later => by
          have order := ascending.1 (key, value) later
          rw [← atHead] at order
          exact String.lt_irrefl _ order
        rw [if_pos atHead, Option.some.injEq]
        constructor
        · intro equal
          exact .inl (Prod.ext atHead equal.symm)
        · rintro (equal | later)
          · exact congrArg Prod.snd equal.symm
          · exact absurd later notLater
      · rw [if_neg atHead, induction ascending.2]
        constructor
        · exact .inr
        · rintro (equal | later)
          · exact absurd (congrArg Prod.fst equal) atHead
          · exact later

theorem get?_eq_some_iff {α : Type u} (map : Keyed α) (key : String) (value : α) :
    map.get? key = some value ↔ (key, value) ∈ map.entries :=
  lookup_eq_some_iff map.ascending key value

theorem mem_keys_iff {α : Type u} (map : Keyed α) (key : String) :
    key ∈ map.keys ↔ ∃ value, map.get? key = some value := by
  constructor
  · intro member
    rcases List.mem_map.1 member with ⟨entry, stored, rfl⟩
    exact ⟨entry.2, (map.get?_eq_some_iff entry.1 entry.2).2 stored⟩
  · rintro ⟨value, found⟩
    exact List.mem_map.2 ⟨(key, value), (map.get?_eq_some_iff key value).1 found, rfl⟩

theorem mem_values_iff {α : Type u} (map : Keyed α) (value : α) :
    value ∈ map.values ↔ ∃ key, map.get? key = some value := by
  constructor
  · intro member
    rcases List.mem_map.1 member with ⟨entry, stored, rfl⟩
    exact ⟨entry.1, (map.get?_eq_some_iff entry.1 entry.2).2 stored⟩
  · rintro ⟨key, found⟩
    exact List.mem_map.2 ⟨(key, value), (map.get?_eq_some_iff key value).1 found, rfl⟩

theorem contains_iff {α : Type u} (map : Keyed α) (key : String) :
    map.contains key = true ↔ key ∈ map.keys := by
  simp [contains, keys]

theorem ascending_keys {α : Type u} (map : Keyed α) :
    map.keys.Pairwise (fun earlier later => earlier < later) :=
  List.pairwise_map.2 map.ascending

/-! Entry lists in ascending order that look up alike are equal: of two unequal
heads the lesser key would be missing in the other list. -/

private theorem lookup_eq_none_of_lt {α : Type u} {entries : List (String × α)}
    {key : String} (later : ∀ entry ∈ entries, key < entry.1) :
    entries.lookup key = none := by
  induction entries with
  | nil => rfl
  | cons head rest induction =>
      have different : ¬ key = head.1 := fun equal => by
        have order := later head (List.mem_cons_self ..)
        rw [← equal] at order
        exact String.lt_irrefl _ order
      rw [lookup_cons_eq_if, if_neg different]
      exact induction fun entry member => later entry (List.mem_cons_of_mem head member)

private theorem not_lt_head {α : Type u} {head other : String × α}
    {rest others : List (String × α)}
    (ascending : (other :: others).Pairwise (fun earlier later => earlier.1 < later.1))
    (alike : ∀ key, (head :: rest).lookup key = (other :: others).lookup key) :
    ¬ head.1 < other.1 := by
  intro before
  have found := alike head.1
  rw [lookup_cons_eq_if, if_pos rfl] at found
  have missing : (other :: others).lookup head.1 = none := by
    apply lookup_eq_none_of_lt
    intro entry member
    rcases List.mem_cons.1 member with rfl | member
    · exact before
    · exact String.lt_trans before ((List.pairwise_cons.1 ascending).1 entry member)
  rw [missing] at found
  cases found

private theorem eq_of_lookup {α : Type u} {left right : List (String × α)}
    (leftAscending : left.Pairwise (fun earlier later => earlier.1 < later.1))
    (rightAscending : right.Pairwise (fun earlier later => earlier.1 < later.1))
    (alike : ∀ key, left.lookup key = right.lookup key) : left = right := by
  induction left generalizing right with
  | nil =>
      cases right with
      | nil => rfl
      | cons other others =>
          have found := alike other.1
          rw [lookup_cons_eq_if, if_pos rfl] at found
          cases found
  | cons head rest induction =>
      cases right with
      | nil =>
          have found := alike head.1
          rw [lookup_cons_eq_if, if_pos rfl] at found
          cases found
      | cons other others =>
          have sameKey : head.1 = other.1 :=
            String.le_antisymm
              (String.not_lt.1 (not_lt_head leftAscending fun key => (alike key).symm))
              (String.not_lt.1 (not_lt_head rightAscending alike))
          have sameValue := alike head.1
          rw [lookup_cons_eq_if, if_pos rfl, lookup_cons_eq_if, if_pos sameKey,
            Option.some.injEq] at sameValue
          have sameRest : ∀ key, rest.lookup key = others.lookup key := by
            intro key
            by_cases atHead : key = head.1
            · have inRest := lookup_eq_none_of_lt (List.pairwise_cons.1 leftAscending).1
              have inOthers :=
                lookup_eq_none_of_lt (List.pairwise_cons.1 rightAscending).1
              rw [atHead, inRest, sameKey, inOthers]
            · have found := alike key
              rwa [lookup_cons_eq_if, if_neg atHead, lookup_cons_eq_if,
                if_neg (sameKey ▸ atHead)] at found
          rw [Prod.ext sameKey sameValue,
            induction (List.pairwise_cons.1 leftAscending).2
              (List.pairwise_cons.1 rightAscending).2 sameRest]

theorem ext_get? {α : Type u} {left right : Keyed α}
    (alike : ∀ key, left.get? key = right.get? key) : left = right := by
  rcases left with ⟨leftEntries, leftAscending⟩
  rcases right with ⟨rightEntries, rightAscending⟩
  have equal : leftEntries = rightEntries :=
    eq_of_lookup leftAscending rightAscending alike
  subst equal
  rfl

theorem eq_entries_of_keys {α : Type u} {map : Keyed α} {entries : List (String × α)}
    (keys : entries.map Prod.fst = map.keys)
    (stored : ∀ entry ∈ entries, map.get? entry.1 = some entry.2) :
    entries = map.entries := by
  have ascending : entries.Pairwise (fun earlier later => earlier.1 < later.1) := by
    rw [← List.pairwise_map, keys]
    exact map.ascending_keys
  refine eq_of_lookup ascending map.ascending fun key => ?_
  cases found : entries.lookup key with
  | some value =>
      exact (stored (key, value) ((lookup_eq_some_iff ascending key value).1 found)).symm
  | none =>
      cases other : map.entries.lookup key with
      | none => rfl
      | some value =>
          have member : key ∈ entries.map Prod.fst := by
            rw [keys]
            exact (mem_keys_iff map key).2 ⟨value, other⟩
          rcases List.mem_map.1 member with ⟨entry, there, rfl⟩
          rw [(lookup_eq_some_iff ascending entry.1 entry.2).2 there] at found
          cases found

end Gateway.Keyed
