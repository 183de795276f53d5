namespace Gateway.Text

/-! Replacement of parts of a text, by a table whose entries say what is replaced
and by what. -/

abbrev SubstitutionTable := List (List Char × List Char)

/-- Goes through a text from the left and puts the second text of an entry
wherever the first one begins. What is put in is not looked at again. The number
counts characters that still belong to a part that was replaced. -/
def substituteAfter (table : SubstitutionTable) : Nat → List Char → List Char
  | _, [] => []
  | replaced + 1, _ :: rest => substituteAfter table replaced rest
  | 0, character :: rest =>
      match table.find? (fun entry => entry.1.isPrefixOf (character :: rest)) with
      | some entry => entry.2 ++ substituteAfter table (entry.1.length - 1) rest
      | none => character :: substituteAfter table 0 rest

def substitute (table : SubstitutionTable) (text : String) : String :=
  String.ofList (substituteAfter table 0 text.toList)

theorem substituteAfter_nil (text : List Char) : substituteAfter [] 0 text = text := by
  induction text with
  | nil => rfl
  | cons character rest induction => exact congrArg (character :: ·) induction

@[simp] theorem substitute_nil (text : String) : substitute [] text = text := by
  simp [substitute, substituteAfter_nil]

/-- The first of two entries that fit is taken. -/
example :
    substituteAfter [(['a', 'b'], ['x']), (['a'], ['y'])] 0 ['a', 'a', 'b'] =
      ['y', 'x'] :=
  rfl

end Gateway.Text
