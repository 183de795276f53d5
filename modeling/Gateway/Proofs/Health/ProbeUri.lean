import Gateway.Health.ProbeUri
import Gateway.Proofs.Http.Backend

namespace Gateway.ProbeUri

open Http (Uri)
open Http.Backend (Addresses withoutTrailingSlashes)

/-! Where a destination is probed. -/

/-- The address that the probes of a destination are sent to. -/
def base (destination : DestinationConfig) : String :=
  destination.health.getD destination.address

/-- What is put behind the address: one slash, however many the path begins with. -/
def behind (path : Option String) : List Char :=
  '/' :: withoutLeadingSlashes (path.getD "")

def text (destination : DestinationConfig) (path : Option String) : String :=
  String.ofList (withoutTrailingSlashes (base destination) ++ behind path)

private theorem probeUri_eq (destination : DestinationConfig) (path : Option String) :
    probeUri destination path =
      match Uri.parse (text destination path) with
      | .ok uri => .ok uri
      | .error fault =>
          .error (.invalidUri (text destination path ++ ": " ++ fault.message)) := by
  have whole :
      String.ofList
          (withoutTrailingSlashes (destination.health.getD destination.address) ++
            '/' :: withoutLeadingSlashes (path.getD "")) =
        text destination path := rfl
  cases parsed : Uri.parse (text destination path) <;> simp only [probeUri, whole, parsed]

private theorem probeUri_eq_ok_iff {destination : DestinationConfig}
    {path : Option String} {uri : Uri} :
    probeUri destination path = .ok uri ↔
      Uri.parse (text destination path) = .ok uri := by
  rw [probeUri_eq]
  cases Uri.parse (text destination path) with
  | ok uri => exact ⟨fun same => by cases same; rfl, fun same => by cases same; rfl⟩
  | error fault => exact iff_of_false nofun nofun

theorem probeUri_of_text {destination other : DestinationConfig}
    {path otherPath : Option String}
    (same : text other otherPath = text destination path) :
    probeUri other otherPath = probeUri destination path := by
  rw [probeUri_eq, probeUri_eq, same]

/-! Slashes where the address and the path meet. -/

def slashes (count : Nat) : String :=
  String.ofList (List.replicate count '/')

private theorem toList_slashes (count : Nat) :
    (slashes count).toList = List.replicate count '/' :=
  String.toList_ofList

private theorem withoutTrailingSlashes_append_slashes (address : String) (count : Nat) :
    withoutTrailingSlashes (address ++ slashes count) =
      withoutTrailingSlashes address := by
  have dropped : ∀ character ∈ (slashes count).toList.reverse,
      (character == '/') = true := by
    intro character member
    rw [toList_slashes, List.reverse_replicate] at member
    exact beq_iff_eq.2 (List.eq_of_mem_replicate member)
  simp only [withoutTrailingSlashes, Text.trimRight, String.toList_append,
    List.reverse_append]
  rw [List.dropWhile_append_of_pos dropped]

private theorem withoutLeadingSlashes_slashes_append (count : Nat) (path : String) :
    withoutLeadingSlashes (slashes count ++ path) = withoutLeadingSlashes path := by
  rw [withoutLeadingSlashes, String.toList_append, List.dropWhile_append_of_pos]
  · rfl
  · intro character member
    rw [toList_slashes] at member
    exact beq_iff_eq.2 (List.eq_of_mem_replicate member)

private theorem behind_slashes_append (count : Nat) (path : String) :
    behind (some (slashes count ++ path)) = behind (some path) :=
  congrArg ('/' :: ·) (withoutLeadingSlashes_slashes_append count path)

private theorem behind_slashes (count : Nat) :
    behind (some (slashes count)) = behind none := by
  have bare := behind_slashes_append count ""
  rwa [String.append_empty] at bare

/-! The target of a probe, read from the path of the address and the path of the probe. -/

section

variable {destination : DestinationConfig} {scheme authority path : String}
  (addresses : Addresses (base destination) scheme authority path)
  (probed : Option String)

include addresses

private theorem probeUri_eq_ok_iff_of_addresses {uri : Uri} :
    probeUri destination probed = .ok uri ↔
      (text destination probed).utf8ByteSize ≤ Uri.maximalSize ∧
        Uri.checkAuthority authority.toList = .ok () ∧
        ∃ front query,
          Uri.readTarget (withoutTrailingSlashes path ++ behind probed) =
            .ok (front, query) ∧ uri =
              { scheme := some scheme, authority := some authority,
                path := String.ofList front, query := query.map String.ofList } := by
  have ended : withoutTrailingSlashes path = [] → ∀ character,
      (behind probed).head? = some character → Uri.endsAuthority character = true := by
    intro _ character first
    cases first
    rfl
  have spells := addresses.spells_append ended
  rw [← String.toList_ofList (l := withoutTrailingSlashes (base destination) ++ _)]
    at spells
  rw [probeUri_eq_ok_iff, text, Uri.parse_eq_ok_iff spells, String.ofList_toList,
    Uri.ofTarget_eq_ok]

theorem takeWhile_append_behind :
    (withoutTrailingSlashes path ++ behind probed).takeWhile
        (fun character => character != '#') =
      withoutTrailingSlashes path ++
        (behind probed).takeWhile (fun character => character != '#') :=
  List.takeWhile_append_of_pos fun _ member =>
    bne_iff_ne.2 (addresses.of_mem_base member).2

theorem ne_nil_of_sent :
    (withoutTrailingSlashes path ++
        (behind probed).takeWhile (fun character => character != '#')).takeWhile
      (fun character => character != '?') ≠ [] := by
  rw [List.takeWhile_append_of_pos fun _ member =>
    bne_iff_ne.2 (addresses.of_mem_base member).1]
  simp [behind]

end

/-- A probe goes to the address that is meant for it, under that scheme and authority: its
path and query are read from the path of the address without slashes at its end, one
slash, and the configured path without slashes at its beginning and without fragment.
Whether it can be sent depends on nothing else. Slashes where the two meet are of no
account, nor is the regular address of a destination that has one for its health. -/
theorem probe_uri_joined {destination : DestinationConfig}
    {scheme authority path : String}
    (addresses : Addresses (base destination) scheme authority path)
    (probed : Option String) :
    let target := withoutTrailingSlashes path ++ behind probed
    let sent := withoutTrailingSlashes path ++
      (behind probed).takeWhile (fun character => character != '#')
    (∀ uri, probeUri destination probed = .ok uri →
      uri.scheme = some scheme ∧ uri.authority = some authority ∧
        uri.target = String.ofList sent ∧
        uri.path = String.ofList (sent.takeWhile (fun character => character != '?')) ∧
        Uri.readTarget target = .ok (uri.path.toList, uri.query.map String.toList)) ∧
    ((∃ uri, probeUri destination probed = .ok uri) ↔
      (text destination probed).utf8ByteSize ≤ Uri.maximalSize ∧
        Uri.checkAuthority authority.toList = .ok () ∧ ∃ parts,
          Uri.readTarget target = .ok parts) ∧
    (∀ other count, base other = base destination ++ slashes count →
      probeUri other probed = probeUri destination probed) ∧
    (∀ count rest,
      probeUri destination (some (slashes count ++ rest)) =
        probeUri destination (some rest)) ∧
    (∀ count, probeUri destination (some (slashes count)) = probeUri destination none) ∧
    (destination.health.isSome → ∀ address,
      probeUri { destination with address } probed = probeUri destination probed) := by
  intro target sent
  have accepted : ∀ uri, probeUri destination probed = .ok uri ↔ _ :=
    fun _ => probeUri_eq_ok_iff_of_addresses addresses probed
  refine ⟨fun uri found => ?_, ⟨?_, ?_⟩, fun other count longer => ?_,
    fun count rest => ?_, fun count => ?_, fun named address => ?_⟩
  · rcases (accepted uri).1 found with ⟨-, -, front, query, read, rfl⟩
    have first : front = sent.takeWhile (fun character => character != '?') := by
      rw [(Uri.of_readTarget read).2.2, takeWhile_append_behind addresses probed]
    refine ⟨rfl, rfl, ?_, congrArg String.ofList first, ?_⟩
    · rw [Uri.target_of_readTarget read (first ▸ ne_nil_of_sent addresses probed),
        takeWhile_append_behind addresses probed]
    · rw [String.toList_ofList, Uri.map_toList_map_ofList]
      exact read
  · rintro ⟨uri, found⟩
    rcases (accepted uri).1 found with ⟨fits, named, front, query, read, -⟩
    exact ⟨fits, named, _, read⟩
  · rintro ⟨fits, named, ⟨front, query⟩, read⟩
    exact ⟨_, (accepted _).2 ⟨fits, named, front, query, read, rfl⟩⟩
  · refine probeUri_of_text ?_
    rw [text, text, longer, withoutTrailingSlashes_append_slashes]
  · refine probeUri_of_text ?_
    rw [text, text, behind_slashes_append]
  · refine probeUri_of_text ?_
    rw [text, text, behind_slashes]
  · rcases Option.isSome_iff_exists.1 named with ⟨health, there⟩
    refine probeUri_of_text ?_
    rw [text, text, base, base, there]
    rfl

/-- A health address with a path, and a probe with a query and a fragment. -/
theorem probe_uri_joined_of_literals :
    let destination : DestinationConfig :=
      { address := "http://10.0.0.1", health := some "https://10.0.0.1:9000/api/" }
    Addresses (base destination) "https" "10.0.0.1:9000" "/api/" ∧
      ∃ uri, probeUri destination (some "//live?full=1#top") = .ok uri ∧
        uri.scheme = some "https" ∧ uri.authority = some "10.0.0.1:9000" ∧
        uri.target = "/api/live?full=1" ∧ uri.path = "/api/live" := by
  intro destination
  have addresses : Addresses (base destination) "https" "10.0.0.1:9000" "/api/" :=
    { spells :=
        { spelled := ⟨"https://".toList, ⟨.inr rfl, by decide⟩, by decide⟩
          named := by decide
          bounded := fun character member =>
            Bool.eq_false_iff.2 (List.any_eq_false.1 (by rfl) character member)
          ended := fun _ first => by cases first; rfl }
      plain := by simp }
  have joined := probe_uri_joined addresses (some "//live?full=1#top")
  have read :
      Uri.readTarget
          (withoutTrailingSlashes "/api/" ++ behind (some "//live?full=1#top")) =
        .ok ("/api/live".toList, some "full=1".toList) := by
    decide +kernel
  rcases joined.2.1.2 ⟨by decide +kernel, by decide +kernel, _, read⟩ with ⟨uri, found⟩
  rcases joined.1 uri found with ⟨scheme, authority, target, path, -⟩
  exact ⟨addresses, uri, found, scheme, authority, target.trans (by decide +kernel),
    path.trans (by decide +kernel)⟩

end Gateway.ProbeUri
