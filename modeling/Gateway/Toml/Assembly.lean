import Gateway.Toml.Section

namespace Gateway.Toml

/-! Putting sections together. A section belongs to the table that its path
leads to; sections of one path with double brackets are the items of a list.
Sections may come in any order, so assembly takes a table's sections from
wherever they stand, and every section's entries are taken once. -/

structure Slot where
  path : List String
  array : Bool
  /-- The entries, as long as no table has taken them. -/
  entries : Option (List (String × Document))

abbrev Slots := List Slot

/-- Where a table is being assembled: how long its path is, the section that its
path is known from, the first section to look at, and the one to stop before. -/
structure Place where
  depth : Nat
  known : Nat
  next : Nat
  stop : Nat

namespace Slots

def path (slots : Slots) (position : Nat) : List String :=
  (slots[position]?.map Slot.path).getD []

/-- The next section under the path of a table whose entries are not taken. -/
def under? (slots : Slots) (place : Place) : Option Nat :=
  let path := (slots.path place.known).take place.depth
  (List.range place.stop).find? (fun position =>
    place.next ≤ position &&
      slots[position]?.any (fun slot => slot.entries.isSome && path.isPrefixOf slot.path))

/-- The next list item after a section with the same path, or the end. -/
def following (slots : Slots) (position stop : Nat) : Nat :=
  ((List.range stop).find? (fun candidate =>
    position < candidate &&
      slots[candidate]?.any (fun slot =>
        slot.array && slot.path == slots.path position))).getD stop

def take (slots : Slots) (position : Nat) : List (String × Document) × Slots :=
  ((slots[position]?.bind Slot.entries).getD [],
    slots.modify position (fun slot => { slot with entries := none }))

end Slots

mutual

def table? : Nat → Place → Slots → Option (List (String × Document) × Slots)
  | 0, _, _ => none
  | steps + 1, place, slots =>
      if place.known = place.stop ∨ place.next = place.stop then some ([], slots)
      else
        match slots.under? place with
        | none => some ([], slots)
        | some position =>
            let path := slots.path position
            let array := slots[position]?.any Slot.array
            let former := slots.path place.known
            let known :=
              if place.known ≠ position ∧ path.length < former.length then position
              else place.known
            if place.known ≠ position ∧ former = path then none
            else
              match path[place.depth]? with
              | some name => do
                  let (value, slots) ←
                    if array ∧ place.depth + 1 = path.length then do
                      let (items, slots) ←
                        list? steps place.depth position place.stop slots
                      some (Document.list items, slots)
                    else do
                      let inner :=
                        { depth := place.depth + 1, known := position, next := 0
                          stop := place.stop }
                      let (entries, slots) ← table? steps inner slots
                      some (Document.table false entries, slots)
                  let (entries, slots) ←
                    table? steps { place with known, next := position + 1 } slots
                  some ((name, value) :: entries, slots)
              | none =>
                  if array then none
                  else do
                    let (own, slots) := slots.take position
                    let (entries, slots) ←
                      table? steps { place with known, next := position } slots
                    some (own ++ entries, slots)

/-- The items of a list, from the section of its first item on. -/
def list? : Nat → (depth position stop : Nat) → Slots → Option (List Document × Slots)
  | 0, _, _, _, _ => none
  | steps + 1, depth, position, stop, slots =>
      if position = stop then some ([], slots)
      else do
        let next := slots.following position stop
        let (own, slots) := slots.take position
        let inner := { depth := depth + 1, known := position, next := 0, stop := next }
        let (entries, slots) ← table? steps inner slots
        let (items, slots) ← list? steps depth next stop slots
        some (.table false (own ++ entries) :: items, slots)

end

/-- Enough steps for any assembly: at each depth of nesting a table looks at every
section at most twice. -/
def stepsFor (slots : Slots) : Nat :=
  let depth := (slots.map (fun slot => slot.path.length)).foldl max 0
  (depth + 2) * (2 * slots.length + 3) + 1

def assemble? (sections : List Section) : Option Document :=
  let slots : Slots := sections.map (fun part =>
    { path := part.path, array := part.array, entries := some part.entries })
  let place := { depth := 0, known := 0, next := 0, stop := slots.length }
  (table? (stepsFor slots) place slots).map (fun (entries, _) => .table false entries)

def parse? (text : String) : Option Document :=
  (Section.ofText? text).bind assemble?

end Gateway.Toml
