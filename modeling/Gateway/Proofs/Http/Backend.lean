import Gateway.Http.Backend
import Gateway.Proofs.Http.Uri
import Gateway.Proofs.Text

namespace Gateway.Http.Backend

/-! Where a request goes that is sent to a destination's address. -/

/-- An address of a common scheme, an authority, and perhaps a path. -/
structure Addresses (address scheme authority path : String) : Prop where
  spells : Uri.Spells address.toList scheme authority.toList path.toList
  plain : ∀ character ∈ path.toList, character ≠ '?' ∧ character ≠ '#'

/-- An asterisk right behind an authority is read as a part of it. -/
def Strays (path : String) (client : Uri) : Prop :=
  withoutTrailingSlashes path = [] ∧ client = { path := "*" }

instance (path : String) (client : Uri) : Decidable (Strays path client) :=
  inferInstanceAs (Decidable (_ ∧ _))

namespace Addresses

variable {address scheme authority path : String}
  (addresses : Addresses address scheme authority path)

include addresses

theorem withoutTrailingSlashes_eq : ∃ lead, Uri.Introduces lead scheme ∧
    withoutTrailingSlashes address =
      lead ++ (authority.toList ++ withoutTrailingSlashes path) := by
  rcases addresses.spells.spelled with ⟨lead, introduces, split⟩
  refine ⟨lead, introduces, ?_⟩
  rw [withoutTrailingSlashes, split, ← List.append_assoc, Text.trimRight_append,
    List.append_assoc]
  · rfl
  · intro character last
    rw [List.getLast?_append_of_ne_nil _ addresses.spells.named] at last
    have bounded := addresses.spells.bounded character (List.mem_of_getLast? last)
    exact beq_eq_false_iff_ne.2 fun slash => by rw [slash] at bounded; cases bounded

theorem of_mem_base {character : Char}
    (member : character ∈ withoutTrailingSlashes path) :
    character ≠ '?' ∧ character ≠ '#' :=
  addresses.plain character ((List.rdropWhile_prefix _ _).mem member)

private theorem head?_base {character : Char}
    (first : (withoutTrailingSlashes path).head? = some character) :
    Uri.endsAuthority character = true := by
  have front : withoutTrailingSlashes path <+: path.toList := List.rdropWhile_prefix _ _
  rcases front with ⟨slashes, whole⟩
  refine addresses.spells.ended character ?_
  rw [← whole, List.head?_append, first]
  rfl

theorem spells_append {target : List Char}
    (ended : withoutTrailingSlashes path = [] → ∀ character,
      target.head? = some character → Uri.endsAuthority character = true) :
    Uri.Spells (withoutTrailingSlashes address ++ target) scheme authority.toList
      (withoutTrailingSlashes path ++ target) where
  spelled := by
    rcases addresses.withoutTrailingSlashes_eq with ⟨lead, introduces, split⟩
    exact ⟨lead, introduces, by rw [split]; simp⟩
  named := addresses.spells.named
  bounded := addresses.spells.bounded
  ended character first := by
    cases base : withoutTrailingSlashes path with
    | nil =>
        rw [base] at first
        exact ended base character first
    | cons slash rest =>
        rw [base] at first
        exact addresses.head?_base (base ▸ first)

theorem spells_asterisk (bare : withoutTrailingSlashes path = []) :
    Uri.Spells (withoutTrailingSlashes address ++ ['*']) scheme
      (authority.toList ++ ['*']) [] where
  spelled := by
    rcases addresses.withoutTrailingSlashes_eq with ⟨lead, introduces, split⟩
    exact ⟨lead, introduces, by rw [split, bare]; simp⟩
  named := List.append_ne_nil_of_right_ne_nil _ nofun
  bounded character member := by
    rcases List.mem_append.1 member with member | member
    · exact addresses.spells.bounded character member
    · cases List.mem_singleton.1 member
      rfl
  ended := nofun

end Addresses

def text (address : String) (client : Uri) : String :=
  String.ofList (withoutTrailingSlashes address ++ client.target.toList)

private theorem toList_text (address : String) (client : Uri) :
    (text address client).toList = withoutTrailingSlashes address ++
      client.target.toList :=
  String.toList_ofList

private theorem uri_eq_ok_iff {address : String} {client backend : Uri}
    (wellFormed : client.WellFormed) :
    uri address client = .ok backend ↔ Uri.parse (text address client) = .ok backend := by
  have same : String.ofList (withoutTrailingSlashes address) ++ client.target?.getD "/" =
      text address client := by
    rw [wellFormed.target?_getD, text, String.ofList_append, String.ofList_toList]
  rw [uri, same]
  cases Uri.parse (text address client) with
  | ok uri => exact ⟨fun same => by cases same; rfl, fun same => by cases same; rfl⟩
  | error fault => exact iff_of_false nofun nofun

section

variable {address scheme authority path : String}
  (addresses : Addresses address scheme authority path) {client backend : Uri}
  (wellFormed : client.WellFormed)

include addresses wellFormed

private theorem uri_eq_ok_iff_of_kept (kept : ¬ Strays path client) :
    uri address client = .ok backend ↔
      (text address client).utf8ByteSize ≤ Uri.maximalSize ∧
        Uri.checkAuthority authority.toList = .ok () ∧
        (∀ character ∈ withoutTrailingSlashes path,
          Uri.isPathCharacter character = true) ∧
        backend =
          { scheme := some scheme, authority := some authority,
            path := String.ofList (withoutTrailingSlashes path) ++ client.sentPath,
            query := client.query } := by
  have ended : withoutTrailingSlashes path = [] → ∀ character,
      client.target.toList.head? = some character → Uri.endsAuthority character = true :=
    fun bare _ first =>
      wellFormed.head?_target (fun asterisk => kept ⟨bare, asterisk⟩) first
  have spells := addresses.spells_append ended
  have plain : ∀ character ∈ withoutTrailingSlashes path ++ client.sentPath.toList,
      character ≠ '?' ∧ character ≠ '#' := by
    intro character member
    rcases List.mem_append.1 member with member | member
    · exact addresses.of_mem_base member
    · exact Uri.of_isPathCharacter (wellFormed.of_mem_sentPath member)
  rw [← toList_text] at spells
  rw [uri_eq_ok_iff wellFormed, Uri.parse_eq_ok_iff spells, Uri.toList_target,
    ← List.append_assoc,
    Uri.ofTarget_append_eq_ok_iff plain fun _ => wellFormed.of_mem_query,
    List.forall_mem_append, and_iff_left fun _ => wellFormed.of_mem_sentPath,
    String.ofList_append, String.ofList_toList, String.ofList_toList]

private theorem uri_eq_ok_iff_of_strays (strays : Strays path client) :
    uri address client = .ok backend ↔
      (text address client).utf8ByteSize ≤ Uri.maximalSize ∧
        Uri.checkAuthority (authority.toList ++ ['*']) = .ok () ∧
        backend = { scheme := some scheme, authority := some (authority ++ "*") } := by
  have asterisk : client.target.toList = ['*'] := by
    rw [strays.2]
    rfl
  have joined : String.ofList (authority.toList ++ ['*']) = authority ++ "*" := by
    rw [String.ofList_append, String.ofList_toList]
  have spells := addresses.spells_asterisk strays.1
  rw [← asterisk, ← toList_text] at spells
  have nothing : Uri.ofTarget (some scheme) (some (authority ++ "*")) [] =
      .ok { scheme := some scheme, authority := some (authority ++ "*") } := rfl
  rw [uri_eq_ok_iff wellFormed, Uri.parse_eq_ok_iff spells, asterisk, joined, nothing,
    Except.ok.injEq, @eq_comm _ _ backend]

end

/-- A client has no say in where its request goes: the URI that is sent has the scheme and
the authority of the address and goes on with the address's path and what the client
passes on, and whether it is sent depends on the client through its length alone. The
exception is the asterisk behind an address without a path, which alters the authority. -/
theorem destination_kept {address scheme authority path spelling : String} {client : Uri}
    (addresses : Addresses address scheme authority path)
    (parsed : Uri.parse spelling = .ok client) :
    (∀ backend, uri address client = .ok backend →
      backend.scheme = some scheme ∧
        if Strays path client then
          backend.authority = some (authority ++ "*") ∧ backend.target = "/"
        else
          backend.authority = some authority ∧
            backend.target = String.ofList (withoutTrailingSlashes path) ++
              client.target) ∧
      (¬ Strays path client → ((∃ backend, uri address client = .ok backend) ↔
        (text address client).utf8ByteSize ≤ Uri.maximalSize ∧
          Uri.checkAuthority authority.toList = .ok () ∧
          ∀ character ∈ withoutTrailingSlashes path,
            Uri.isPathCharacter character = true)) := by
  have wellFormed := Uri.wellFormed_of_parse parsed
  constructor
  · intro backend sent
    split
    · rename_i strays
      rcases (uri_eq_ok_iff_of_strays addresses wellFormed strays).1 sent with ⟨-, -, rfl⟩
      exact ⟨rfl, rfl, rfl⟩
    · rename_i kept
      rcases (uri_eq_ok_iff_of_kept addresses wellFormed kept).1 sent with ⟨-, -, -, rfl⟩
      refine ⟨rfl, rfl, ?_⟩
      rw [Uri.target_of_sent, Uri.target_eq client, String.append_assoc]
      exact client.sentPath_or_query.imp_left fun present => by simp [present]
  · intro kept
    simp only [uri_eq_ok_iff_of_kept addresses wellFormed kept]
    exact ⟨fun ⟨_, fits, named, formed, _⟩ => ⟨fits, named, formed⟩,
      fun ⟨fits, named, formed⟩ => ⟨_, fits, named, formed, rfl⟩⟩

/-- A path with a query, and the asterisk, for an address that ends with a slash. -/
theorem destination_kept_of_literals :
    let address := "http://127.0.0.1:8084/"
    ∃ client asterisk backend stray,
      Uri.parse "/api/items?page=2" = .ok client ∧ Uri.parse "*" = .ok asterisk ∧
        uri address client = .ok backend ∧ uri address asterisk = .ok stray ∧
        backend.scheme = some "http" ∧ backend.authority = some "127.0.0.1:8084" ∧
        backend.target = "/api/items?page=2" ∧
          stray.authority = some "127.0.0.1:8084*" := by
  intro address
  have addresses : Addresses address "http" "127.0.0.1:8084" "/" :=
    { spells :=
        { spelled := ⟨"http://".toList, ⟨.inl rfl, by decide⟩, by decide⟩
          named := by decide
          bounded := fun character member =>
            Bool.eq_false_iff.2 (List.any_eq_false.1 (by rfl) character member)
          ended := fun _ first => by cases first; rfl }
      plain := fun _ member => by cases List.mem_singleton.1 member; decide }
  let items : Uri := { path := "/api/items", query := some "page=2" }
  let stray : Uri := { scheme := some "http", authority := some "127.0.0.1:8084*" }
  have plain : Uri.parse "/api/items?page=2" = .ok items := by rfl
  have asterisk : Uri.parse "*" = .ok { path := "*" } := by rfl
  have turned : uri address { path := "*" } = .ok stray := by decide +kernel
  have formed : ∀ character ∈ withoutTrailingSlashes "/",
      Uri.isPathCharacter character = true :=
    List.all_eq_true.1 rfl
  rcases ((destination_kept addresses plain).2 (by decide)).2
    ⟨by decide +kernel, by decide +kernel, formed⟩ with ⟨backend, sent⟩
  have kept := (destination_kept addresses plain).1 backend sent
  have strayed := (destination_kept addresses asterisk).1 stray turned
  rw [if_neg (by decide)] at kept
  rw [if_pos (by decide)] at strayed
  exact ⟨items, { path := "*" }, backend, stray, plain, asterisk, sent, turned, kept.1,
    kept.2.1, kept.2.2, strayed.2.1⟩

end Gateway.Http.Backend
