import Gateway.Text.Substitution

namespace Gateway.Rehearsal

/-! Encrypted affinity keys differ from run to run. A script writes the n-th key
that was issued as `<aes:n>`, counted from 1, and sees it that way in answers. -/

def keyMark (number : Nat) : String := s!"<aes:{number}>"

def keysOfMarks (keys : List String) : Text.SubstitutionTable :=
  keys.mapIdx (fun index key => ((keyMark (index + 1)).toList, key.toList))

def marksOfKeys (keys : List String) : Text.SubstitutionTable :=
  (keysOfMarks keys).map Prod.swap

end Gateway.Rehearsal
