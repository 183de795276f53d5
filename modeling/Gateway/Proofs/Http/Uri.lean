import Gateway.Http.Uri
import Gateway.Proofs.Traced
import Mathlib.Data.List.TakeWhile

namespace Gateway.Http.Uri

/-! What a URI says, seen from the text that spells it out and from what reading
leaves. -/

theorem of_isPathCharacter {character : Char} (valid : isPathCharacter character = true) :
    character ≠ '?' ∧ character ≠ '#' := by
  constructor <;> rintro rfl <;> exact absurd valid (by decide)

private theorem of_isQueryCharacter {character : Char}
    (valid : isQueryCharacter character = true) :
    character ≠ '#' := by
  rintro rfl
  exact absurd valid (by decide)

/-! Path and query beside each other, and the text that they are read from. -/

def suffix (query : Option (List Char)) : List Char :=
  match query with
  | none => []
  | some query => '?' :: query

private theorem toList_querySuffix (query : Option String) :
    (querySuffix query).toList = suffix (query.map String.toList) := by
  cases query with
  | none => rfl
  | some query => exact String.toList_append

theorem readTarget_append {path : List Char} {query : Option (List Char)}
    (plain : ∀ character ∈ path, character ≠ '?' ∧ character ≠ '#')
    (others : ∀ character ∈ query.getD [], character ≠ '#') :
    readTarget (path ++ suffix query) =
      if path.all isPathCharacter && (query.getD []).all isQueryCharacter then
        .ok (path, query)
      else .error .invalidCharacter := by
  have whole : (path ++ suffix query).takeWhile (fun character => character != '#') =
      path ++ suffix query := by
    refine List.takeWhile_eq_self_iff.2 fun character member => bne_iff_ne.2 ?_
    rcases List.mem_append.1 member with member | member
    · exact (plain character member).2
    · cases query with
      | none => exact absurd member nofun
      | some query =>
          rcases List.mem_cons.1 member with rfl | member
          · decide
          · exact others character member
  have path_kept : ∀ character ∈ path, (character != '?') = true :=
    fun character member =>
    bne_iff_ne.2 (plain character member).1
  rw [readTarget, whole, List.takeWhile_append_of_pos path_kept,
    List.dropWhile_append_of_pos path_kept]
  cases query with
  | none => simp [suffix]
  | some query => simp [suffix]

theorem of_readTarget {text path : List Char} {query : Option (List Char)}
    (read : readTarget text = .ok (path, query)) :
    (∀ character ∈ path, isPathCharacter character = true) ∧
      (∀ character ∈ query.getD [], isQueryCharacter character = true) ∧
      path = (text.takeWhile (fun character => character != '#')).takeWhile
        (fun character => character != '?') := by
  unfold readTarget at read
  extract_lets target front behind at read
  split at read
  · rename_i valid
    rw [Bool.and_eq_true, List.all_eq_true, List.all_eq_true] at valid
    rcases Prod.mk.inj (Except.ok.inj read) with ⟨path_eq, query_eq⟩
    rw [← path_eq, ← query_eq]
    exact ⟨valid.1, valid.2, rfl⟩
  · cases read

theorem append_suffix_of_readTarget {text path : List Char} {query : Option (List Char)}
    (read : readTarget text = .ok (path, query)) :
    path ++ suffix query = text.takeWhile (fun character => character != '#') := by
  unfold readTarget at read
  extract_lets target front behind at read
  have whole : front ++ suffix behind = target := by
    have parts := List.takeWhile_append_dropWhile
      (p := fun character => character != '?') (l := target)
    have stop := List.head?_dropWhile_not (fun character => character != '?') target
    simp only [front, behind]
    split
    · rename_i nothing
      rw [nothing] at parts
      exact parts
    · rename_i mark query asked
      rw [asked] at parts stop
      have asked : mark = '?' := by simpa using stop
      rw [asked] at parts
      exact parts
  split at read
  · rcases Prod.mk.inj (Except.ok.inj read) with ⟨rfl, rfl⟩
    exact whole
  · cases read

theorem ofTarget_eq_ok {scheme authority : Option String} {text : List Char} {uri : Uri} :
    ofTarget scheme authority text = .ok uri ↔ ∃ path query,
      readTarget text = .ok (path, query) ∧
        uri = ⟨scheme, authority, String.ofList path, query.map String.ofList⟩ := by
  rw [ofTarget, bind_eq_ok]
  constructor
  · rintro ⟨⟨path, query⟩, read, ends⟩
    exact ⟨path, query, read, (Except.ok.inj ends).symm⟩
  · rintro ⟨path, query, read, rfl⟩
    exact ⟨(path, query), read, rfl⟩

theorem ofTarget_append_eq_ok_iff {scheme authority : Option String} {path : List Char}
    {query : Option String} {uri : Uri}
    (plain : ∀ character ∈ path, character ≠ '?' ∧ character ≠ '#')
    (valid : ∀ character ∈ (query.map String.toList).getD [],
      isQueryCharacter character = true) :
    ofTarget scheme authority (path ++ suffix (query.map String.toList)) = .ok uri ↔
      (∀ character ∈ path, isPathCharacter character = true) ∧
        uri = { scheme, authority, path := String.ofList path, query } := by
  have same : (query.map String.toList).map String.ofList = query := by
    cases query with
    | none => rfl
    | some query => exact congrArg some String.ofList_toList
  rw [ofTarget_eq_ok, readTarget_append plain fun character member =>
    of_isQueryCharacter (valid character member), List.all_eq_true.2 valid, Bool.and_true,
    ← List.all_eq_true]
  constructor
  · rintro ⟨front, behind, read, rfl⟩
    split at read
    · rename_i holds
      rcases Prod.mk.inj (Except.ok.inj read) with ⟨rfl, rfl⟩
      exact ⟨holds, by rw [same]⟩
    · cases read
  · rintro ⟨holds, rfl⟩
    exact ⟨path, query.map String.toList, if_pos holds, by rw [same]⟩

/-! An absolute form: a common scheme, written in any case, an authority, and what
follows. -/

def Introduces (lead : List Char) (scheme : String) : Prop :=
  (scheme = "http" ∨ scheme = "https") ∧ lead.map Char.toLower = scheme.toList ++
    "://".toList

structure Spells (text : List Char) (scheme : String) (authority rest : List Char) :
    Prop where
  spelled : ∃ lead, Introduces lead scheme ∧ text = lead ++ (authority ++ rest)
  named : authority ≠ []
  bounded : ∀ character ∈ authority, endsAuthority character = false
  ended : ∀ character, rest.head? = some character → endsAuthority character = true

private theorem knownScheme?_append {lead : List Char} {scheme : String}
    (introduces : Introduces lead scheme) (rest : List Char) :
    knownScheme? (lead ++ rest) = some (scheme, rest) := by
  rcases introduces with ⟨rfl | rfl, written⟩
  · have length : lead.length = 7 := by simpa using congrArg List.length written
    rw [knownScheme?, List.take_left' length, if_pos (written.trans (by decide)),
      List.drop_left' length]
  · have length : lead.length = 8 := by simpa using congrArg List.length written
    have other : ((lead ++ rest).take 7).map Char.toLower ≠ "http://".toList := by
      rw [List.take_append_of_le_length (by omega), List.map_take, written]
      decide
    rw [knownScheme?, if_neg other, List.take_left' length,
      if_pos (written.trans (by decide)), List.drop_left' length]

private theorem splitAuthority_append {authority rest : List Char}
    (bounded : ∀ character ∈ authority, endsAuthority character = false)
    (ended : ∀ character, rest.head? = some character → endsAuthority character = true) :
    splitAuthority (authority ++ rest) =
      checkAuthority authority >>= fun _ => .ok (authority, rest) := by
  have inside : ∀ character ∈ authority, (!endsAuthority character) = true :=
    fun character member => by rw [bounded character member]; rfl
  rw [splitAuthority, List.takeWhile_append_of_pos inside,
    List.dropWhile_append_of_pos inside]
  cases rest with
  | nil => rw [List.takeWhile_nil, List.append_nil, List.dropWhile_nil]
  | cons character rest => simp [ended character rfl]

theorem parse_introduced {lead : List Char} {text scheme : String}
    (introduces : Introduces lead scheme) {rest : List Char}
    (split : text.toList = lead ++ rest) : parse text =
      if maximalSize < text.utf8ByteSize then .error .tooLong
        else parseFull text.toList := by
  have long : ∃ first second others, lead = first :: second :: others ∧ first ≠ '/' := by
    rcases introduces with ⟨common, written⟩
    rcases lead with _ | ⟨first, _ | ⟨second, others⟩⟩
    · rcases common with rfl | rfl <;> exact absurd written (by decide)
    · rcases common with rfl | rfl <;>
        exact absurd (congrArg List.length written) (by simp)
    · refine ⟨first, second, others, rfl, ?_⟩
      rintro rfl
      rw [List.map_cons, List.map_cons] at written
      rcases common with rfl | rfl <;> exact absurd (List.cons.inj written).1 (by decide)
  rcases long with ⟨first, second, others, rfl, rooted⟩
  rw [parse, split]
  split
  · rfl
  · simp [rooted]

theorem parse_eq_ok_iff {text scheme : String} {authority rest : List Char} {uri : Uri}
    (spells : Spells text.toList scheme authority rest) :
    parse text = .ok uri ↔ text.utf8ByteSize ≤ maximalSize ∧
      checkAuthority authority = .ok () ∧
        ofTarget (some scheme) (some (String.ofList authority)) rest = .ok uri := by
  rcases spells.spelled with ⟨lead, introduces, split⟩
  rw [parse_introduced introduces split]
  split
  · rename_i long
    exact iff_of_false nofun fun fits => absurd fits.1 (Nat.not_le.2 long)
  · rename_i short
    have known : splitScheme text.toList = .present scheme (authority ++ rest) := by
      rw [splitScheme, split, knownScheme?_append introduces]
    have nonempty : authority.isEmpty = false := List.isEmpty_eq_false_iff.2 spells.named
    rw [parseFull, known]
    simp only [splitAuthority_append spells.bounded spells.ended, bind_eq_ok]
    constructor
    · rintro ⟨parts, ⟨⟨⟩, checked, same⟩, read⟩
      cases same
      rw [nonempty] at read
      exact ⟨Nat.not_lt.1 short, checked, read⟩
    · rintro ⟨-, checked, read⟩
      exact ⟨(authority, rest), ⟨(), checked, rfl⟩, by rw [nonempty]; exact read⟩

/-! What reading leaves: the characters of paths and queries, in a path that is rooted
unless it is the asterisk, and no path or query after an authority that stands alone. -/

structure WellFormed (uri : Uri) : Prop where
  path : ∀ character ∈ uri.path.toList, isPathCharacter character = true
  query : ∀ query, uri.query = some query →
    ∀ character ∈ query.toList, isQueryCharacter character = true
  rooted : uri = { path := "*" } ∨ ∀ character, uri.path.toList.head? = some character →
    character = '/'
  bare : uri.scheme = none → uri.authority.isSome → uri.path = "" ∧ uri.query = none

private theorem wellFormed_of_authority (authority : Option String) :
    WellFormed { authority } where
  path := nofun
  query := nofun
  rooted := .inr nofun
  bare _ _ := ⟨rfl, rfl⟩

private theorem wellFormed_of_ofTarget {scheme authority : Option String}
    {text : List Char} {uri : Uri} (read : ofTarget scheme authority text = .ok uri)
    (ended : ∀ character, text.head? = some character → endsAuthority character = true)
    (absolute : scheme = none → authority = none) : WellFormed uri := by
  rcases ofTarget_eq_ok.1 read with ⟨path, query, target, rfl⟩
  rcases of_readTarget target with ⟨path_valid, query_valid, path_eq⟩
  refine ⟨?_, ?_, .inr ?_, ?_⟩
  · rwa [String.toList_ofList]
  · intro text brought
    rcases Option.map_eq_some_iff.1 brought with ⟨characters, rfl, rfl⟩
    rwa [String.toList_ofList]
  · intro character first
    rw [String.toList_ofList, path_eq, List.head?_takeWhile, List.head?_takeWhile,
      Option.filter_eq_some_iff, Option.filter_eq_some_iff] at first
    rcases first with ⟨⟨first, unmarked⟩, unasked⟩
    have stop := ended character first
    simp only [endsAuthority, Bool.or_eq_true, beq_iff_eq] at stop
    rcases stop with (slash | same) | same
    · exact slash
    · exact absurd same (bne_iff_ne.1 unasked)
    · exact absurd same (bne_iff_ne.1 unmarked)
  · intro schemeless brought
    rw [absolute schemeless] at brought
    cases brought

private theorem ended_of_splitAuthority {text authority rest : List Char}
    (parts : splitAuthority text = .ok (authority, rest)) {character : Char}
    (first : rest.head? = some character) : endsAuthority character = true := by
  rw [splitAuthority, bind_eq_ok] at parts
  rcases parts with ⟨-, -, same⟩
  cases same
  have stop := List.head?_dropWhile_not (fun character => !endsAuthority character) text
  rw [first] at stop
  simpa using stop

private theorem wellFormed_of_parseFull {text : List Char} {uri : Uri}
    (read : parseFull text = .ok uri) :
    WellFormed uri := by
  unfold parseFull at read
  split at read
  · cases read
  · rcases bind_eq_ok.1 read with ⟨⟨authority, rest⟩, -, read⟩
    dsimp only at read
    split at read
    · cases read
      exact wellFormed_of_authority _
    · cases read
  · rcases bind_eq_ok.1 read with ⟨⟨authority, rest⟩, parts, read⟩
    dsimp only at read
    split at read
    · cases read
    · exact wellFormed_of_ofTarget read (fun _ first =>
        ended_of_splitAuthority parts first) nofun

theorem wellFormed_of_parse {text : String} {uri : Uri} (read : parse text = .ok uri) :
    WellFormed uri := by
  unfold parse at read
  split at read
  · cases read
  -- an empty text, the asterisk, a path, a single character, and anything longer
  · split at read
    · cases read
    · cases read
      exact ⟨List.all_eq_true.1 rfl, nofun, .inl rfl, nofun⟩
    · exact wellFormed_of_ofTarget read (fun _ first => by cases first; rfl) fun _ => rfl
    · rcases bind_eq_ok.1 read with ⟨authority, -, ends⟩
      cases ends
      exact wellFormed_of_authority _
    · exact wellFormed_of_parseFull read

/-! What is passed on of a URI. -/

def sentPath (uri : Uri) : String :=
  if uri.path.isEmpty && uri.query.isNone then "/" else uri.path

theorem target_eq (uri : Uri) : uri.target = uri.sentPath ++ querySuffix uri.query := by
  rw [target, sentPath]
  split
  · rename_i neither
    rw [Bool.and_eq_true, Option.isNone_iff_eq_none] at neither
    rw [neither.2]
    rfl
  · rfl

theorem sentPath_or_query (uri : Uri) : uri.sentPath ≠ "" ∨ uri.query.isSome := by
  rw [sentPath]
  split
  · exact .inl (by decide)
  · rename_i sent
    rw [Bool.and_eq_true, not_and_or, String.isEmpty_iff] at sent
    exact sent.imp_right fun asked => by simpa [Option.isSome_iff_ne_none] using asked

theorem toList_target (uri : Uri) :
    uri.target.toList = uri.sentPath.toList ++ suffix (uri.query.map String.toList) := by
  rw [target_eq, String.toList_append, toList_querySuffix]

theorem target_of_sent {uri : Uri} (sent : uri.path ≠ "" ∨ uri.query.isSome) :
    uri.target = uri.path ++ querySuffix uri.query := by
  refine if_neg fun neither => ?_
  rw [Bool.and_eq_true, Option.isNone_iff_eq_none, String.isEmpty_iff] at neither
  rcases sent with path | query
  · exact path neither.1
  · rw [neither.2] at query
    cases query

theorem map_toList_map_ofList (query : Option (List Char)) :
    (query.map String.ofList).map String.toList = query := by
  cases query with
  | none => rfl
  | some query => exact congrArg some String.toList_ofList

theorem target_of_readTarget {text path : List Char} {query : Option (List Char)}
    (read : readTarget text = .ok (path, query)) (present : path ≠ [])
    (scheme authority : Option String) :
    target ⟨scheme, authority, String.ofList path, query.map String.ofList⟩ =
      String.ofList (text.takeWhile (fun character => character != '#')) := by
  have named : String.ofList path ≠ "" := fun empty => by
    apply present
    rw [← String.toList_ofList (l := path), empty]
    rfl
  apply String.toList_inj.1
  rw [target_of_sent (.inl named), String.toList_append, toList_querySuffix,
    map_toList_map_ofList, String.toList_ofList, String.toList_ofList,
    append_suffix_of_readTarget read]

namespace WellFormed

variable {uri : Uri} (wellFormed : WellFormed uri)

include wellFormed

theorem target?_getD : uri.target?.getD "/" = uri.target := by
  rw [target?]
  split
  · rfl
  · rename_i alone
    rw [Bool.or_eq_true, not_or, Bool.not_eq_true, Bool.not_eq_true,
      Option.isSome_eq_false_iff, Option.isNone_iff_eq_none,
      Option.isNone_eq_false_iff] at alone
    rcases wellFormed.bare alone.1 alone.2 with ⟨path, query⟩
    rw [target, path, query]
    rfl

theorem of_mem_sentPath {character : Char} (member : character ∈ uri.sentPath.toList) :
    isPathCharacter character = true := by
  rw [sentPath] at member
  split at member
  · cases List.mem_singleton.1 member
    decide
  · exact wellFormed.path character member

theorem of_mem_query {character : Char}
    (member : character ∈ (uri.query.map String.toList).getD []) :
    isQueryCharacter character = true := by
  cases brought : uri.query with
  | none =>
      rw [brought] at member
      cases member
  | some query =>
      rw [brought] at member
      exact wellFormed.query query brought character member

theorem head?_target (named : uri ≠ { path := "*" }) {character : Char}
    (first : uri.target.toList.head? = some character) : endsAuthority character =
      true := by
  have rooted := wellFormed.rooted.resolve_left named
  rw [toList_target, sentPath] at first
  split at first
  · cases first
    rfl
  · rename_i sent
    cases path : uri.path.toList with
    | cons slash others =>
        rw [path] at first rooted
        cases first
        rw [rooted _ rfl]
        rfl
    | nil =>
        rw [path, List.nil_append] at first
        cases query : uri.query with
        | none =>
            rw [query] at first
            cases first
        | some query =>
            simp [query, suffix] at first
            subst first
            rfl

end WellFormed

end Gateway.Http.Uri
