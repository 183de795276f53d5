import Gateway.Proofs.Http.Authority
import Gateway.Proofs.Registry.Independence
import Gateway.Proofs.Removal.Incarnations
import Gateway.Proofs.Sessions.Company
import Gateway.Proofs.Text.Order

namespace Gateway

/-! Which cluster a request is for: of those that list the host that it names, the one
with the least id. Neither the order of the clusters counts for that nor the port. -/

namespace Http

open Uri

variable {request : Request} {content : Bytes} {host port name : String}

theorem Request.host?_of_header (sent : request.headers.first? "host" = some content) :
    request.host? = some name ↔ ∃ text authority, Header.plainText? content = some text ∧
      parseAuthority text = .ok authority ∧ String.ofList (hostOf authority) = name := by
  simp only [Request.host?, sent, Option.bind_eq_bind, Option.bind_eq_some_iff]
  refine exists_congr fun text => ?_
  cases parseAuthority text with
  | error fault => simp
  | ok authority => simp

private theorem legible_of_visible {text : String}
    (visible : ∀ character ∈ text.toList, 33 ≤ character.toNat ∧ character.toNat < 127) :
    Cookie.Legible (Text.bytes text) := by
  rw [← String.ofList_toList (s := text),
    Text.bytes_ofList_of_ascii fun character member => by
    have := visible character member
    omega]
  intro byte member
  rcases List.mem_map.1 member with ⟨character, there, rfl⟩
  have codes :
      ∀ code, code < 127 → 33 ≤ code → Header.isPlainByte (UInt8.ofNat code) = true := by
    decide
  exact codes character.toNat (visible character there).2 (visible character there).1

theorem Request.host?_of_hostname (hostname : Hostname host.toList)
    (ported : Port port.toList)
    (sent : request.headers.first? "host" = some (Text.bytes (host ++ port))) :
    request.host? = some name ↔ Cookie.Legible (Text.bytes host) ∧
      parseAuthority host.toList = .ok host.toList ∧ host = name := by
  -- A port is visible ASCII, so that the whole header is legible if the host is.
  have split :
      Cookie.Legible (Text.bytes (host ++ port)) ↔ Cookie.Legible (Text.bytes host) := by
    have behind := legible_of_visible fun character member =>
      (ported.hostCharacter member).visible
    rw [Text.bytes_append, Cookie.Legible, List.forall_mem_append]
    exact and_iff_left behind
  rw [host?_of_header sent]
  by_cases legible : Cookie.Legible (Text.bytes (host ++ port))
  · have text := Cookie.characters_of_eq_bytes legible rfl
    rw [String.toList_append] at text
    constructor
    · rintro ⟨characters, authority, plain, read, rfl⟩
      rw [Cookie.plainText?_of_legible legible, text, Option.some.injEq] at plain
      subst plain
      rcases (parseAuthority_append hostname ported).1 read with ⟨rfl, whole⟩
      rw [hostOf_append hostname ported, String.ofList_toList]
      exact ⟨split.1 legible, whole, rfl⟩
    · rintro ⟨-, whole, rfl⟩
      refine ⟨host.toList ++ port.toList, host.toList ++ port.toList, ?_,
        (parseAuthority_append hostname ported).2 ⟨rfl, whole⟩, ?_⟩
      · rw [Cookie.plainText?_of_legible legible, text]
      · rw [hostOf_append hostname ported, String.ofList_toList]
  · constructor
    · rintro ⟨characters, authority, plain, -⟩
      rw [Cookie.plainText?_of_illegible legible] at plain
      cases plain
    · rintro ⟨whole, -⟩
      exact absurd (split.2 whole) legible

end Http

namespace Router

variable {router : Router} {host : String} {ref other : ClusterRef}

/-- The cluster is registered, and its current model lists the host, in any case of
letters. -/
def Serves (router : Router) (ref : ClusterRef) (host : String) : Prop :=
  ∃ cluster, router.registered? ref.id = some (ref, cluster) ∧
    ∃ candidate ∈ cluster.model.config.hosts,
      Text.equalIgnoringAsciiCase candidate host = true

theorem Serves.unique {another : String} (serves : router.Serves ref host)
    (also : router.Serves other another) (same : ref.id = other.id) : ref = other := by
  rcases serves with ⟨cluster, found, -⟩
  rcases also with ⟨_, there, -⟩
  rw [same, there] at found
  exact (congrArg Prod.fst (Option.some.inj found)).symm

def server? (router : Router) (host id : String) : Option ClusterRef :=
  (router.registered? id).bind fun entry =>
    if listsHost entry.2.model.config host then some entry.1 else none

private theorem id_of_registered? {id : String} {entry : ClusterRef × Cluster}
    (found : router.registered? id = some entry) : entry.1.id = id :=
  id_of_registeredRef? (registered?_iff.1 found).1

private theorem server?_eq_some_iff {id : String} :
    router.server? host id = some ref ↔ ref.id = id ∧ router.Serves ref host := by
  rw [server?, Option.bind_eq_some_iff]
  constructor
  · rintro ⟨⟨ref, cluster⟩, found, lists⟩
    rw [Option.ite_none_right_eq_some, listsHost, List.any_eq_true] at lists
    rcases lists with ⟨lists, same⟩
    cases same
    have here := id_of_registered? found
    subst here
    exact ⟨rfl, cluster, found, lists⟩
  · rintro ⟨rfl, cluster, found, lists⟩
    refine ⟨(ref, cluster), found, if_pos ?_⟩
    rw [listsHost, List.any_eq_true]
    exact lists

private theorem clusterOfHost?_eq (router : Router) (host : String) :
    router.clusterOfHost? host =
      router.registered.keys.findSome? (router.server? host) := by
  rw [clusterOfHost?, ← List.head?_filterMap, List.filterMap_filterMap,
    List.head?_filterMap]
  rfl

private theorem mem_keys_of_registered? {id : String} {entry : ClusterRef × Cluster}
    (found : router.registered? id = some entry) : id ∈ router.registered.keys := by
  rcases Option.map_eq_some_iff.1 (registered?_iff.1 found).1 with ⟨incarnation, kept, -⟩
  exact (router.registered.mem_keys_iff id).2 ⟨incarnation, kept⟩

private theorem mem_keys_of_serves (serves : router.Serves ref host) :
    ref.id ∈ router.registered.keys := by
  rcases serves with ⟨cluster, found, -⟩
  exact mem_keys_of_registered? found

private theorem clusterOfHost?_eq_none_iff :
    router.clusterOfHost? host = none ↔ ∀ ref, ¬ router.Serves ref host := by
  rw [clusterOfHost?_eq, List.findSome?_eq_none_iff]
  constructor
  · intro nobody ref serves
    have found := server?_eq_some_iff.2 ⟨rfl, serves⟩
    rw [nobody ref.id (mem_keys_of_serves serves)] at found
    cases found
  · intro nobody id _
    cases found : router.server? host id with
    | none => rfl
    | some ref => exact absurd (server?_eq_some_iff.1 found).2 (nobody ref)

/-- The least of the clusters that list a host, by the bytes of their ids. -/
structure First (router : Router) (host : String) (ref : ClusterRef) : Prop where
  serves : router.Serves ref host
  least : ∀ other, router.Serves other host → Text.bytes ref.id ≤ Text.bytes other.id

theorem First.unique (first : router.First host ref) (also : router.First host other) :
    ref = other :=
  first.serves.unique also.serves (String.le_antisymm
    (Text.bytes_le_iff.1 (first.least other also.serves))
    (Text.bytes_le_iff.1 (also.least ref first.serves)))

theorem first_of_clusterOfHost? (found : router.clusterOfHost? host = some ref) :
    router.First host ref := by
  rw [clusterOfHost?_eq, List.findSome?_eq_some_iff] at found
  rcases found with ⟨earlier, id, later, keys, found, nobody⟩
  rcases server?_eq_some_iff.1 found with ⟨rfl, serves⟩
  have ascending := router.registered.ascending_keys
  rw [keys, List.pairwise_append, List.pairwise_cons] at ascending
  refine ⟨serves, fun other also => Text.bytes_le_iff.2 ?_⟩
  -- Under the keys before this one nobody lists the host, and those behind it are
  -- greater.
  have among := mem_keys_of_serves also
  rw [keys, List.mem_append, List.mem_cons] at among
  rcases among with before | same | behind
  · have there := server?_eq_some_iff.2 ⟨rfl, also⟩
    rw [nobody other.id before] at there
    cases there
  · exact same ▸ String.le_refl other.id
  · exact String.not_lt.1 (String.lt_asymm (ascending.2.1.1 other.id behind))

/-- Whatever finds clusters that come first, and nothing only if nobody lists the host,
finds what the search by keys finds. -/
theorem eq_clusterOfHost? {found : Option ClusterRef}
    (first : ∀ ref, found = some ref → router.First host ref)
    (nobody : found = none → ∀ ref, ¬ router.Serves ref host) :
    found = router.clusterOfHost? host := by
  cases searched : router.clusterOfHost? host with
  | none =>
      cases found with
      | none => rfl
      | some ref =>
          exact absurd (first ref rfl).serves (clusterOfHost?_eq_none_iff.1 searched ref)
  | some other =>
      have there := first_of_clusterOfHost? searched
      cases found with
      | none => exact absurd there.serves (nobody rfl other)
      | some ref => rw [(first ref rfl).unique there]

private theorem clusterOfHost?_eq_some_iff :
    router.clusterOfHost? host = some ref ↔ router.First host ref := by
  refine ⟨first_of_clusterOfHost?, fun first => ?_⟩
  symm
  refine eq_clusterOfHost? (fun other same => ?_) nofun
  exact Option.some.inj same ▸ first

/-! The search in any order of the clusters. -/

def entries (router : Router) : List (ClusterRef × Cluster) :=
  router.registered.keys.filterMap router.registered?

/-- Goes through clusters as they come, and keeps the one with the least id of those that
list the host. -/
def firstOf? (host : String) (entries : List (ClusterRef × Cluster)) :
    Option ClusterRef :=
  ((entries.filter fun entry => listsHost entry.2.model.config host).minOn?
    fun entry => Text.bytes entry.1.id).map Prod.fst

private theorem mem_entries_iff {cluster : Cluster} :
    (ref, cluster) ∈ router.entries ↔
      router.registered? ref.id = some (ref, cluster) := by
  rw [entries, List.mem_filterMap]
  constructor
  · rintro ⟨id, -, found⟩
    exact id_of_registered? found ▸ found
  · intro found
    exact ⟨ref.id, mem_keys_of_registered? found, found⟩

section Permuted

variable {clusters : List (ClusterRef × Cluster)}
  (permuted : clusters.Perm router.entries)

include permuted

private theorem serves_iff_of_perm : router.Serves ref host ↔ ∃ cluster, (ref, cluster) ∈
    clusters.filter fun entry => listsHost entry.2.model.config host := by
  refine exists_congr fun cluster => ?_
  rw [List.mem_filter, permuted.mem_iff, mem_entries_iff, listsHost, List.any_eq_true]

theorem firstOf?_of_perm : firstOf? host clusters = router.clusterOfHost? host := by
  apply eq_clusterOfHost?
  · intro ref found
    rcases Option.map_eq_some_iff.1 found with ⟨⟨_, cluster⟩, least, rfl⟩
    refine ⟨(serves_iff_of_perm permuted).2 ⟨cluster, List.minOn?_mem least⟩,
      fun other serves => ?_⟩
    rcases (serves_iff_of_perm permuted).1 serves with ⟨_, member⟩
    have below :=
      List.apply_get_minOn?_le_of_mem (f := fun entry => Text.bytes entry.1.id) member
    simp only [least, Option.get_some] at below
    exact below
  · intro nothing ref serves
    rcases (serves_iff_of_perm permuted).1 serves with ⟨_, member⟩
    have some_listed :=
      List.isSome_minOn?_of_mem (f := fun entry => Text.bytes entry.1.id) member
    rw [Option.map_eq_none_iff.1 nothing] at some_listed
    cases some_listed

end Permuted

/-! What counts of the clusters: their ids and the hosts that they list. -/

def hosts? (router : Router) (id : String) : Option (List String) :=
  (router.registered? id).map fun entry => entry.2.model.config.hosts

def Lists (router : Router) (host id : String) : Prop :=
  ∃ hosts, router.hosts? id = some hosts ∧
    ∃ candidate ∈ hosts, Text.equalIgnoringAsciiCase candidate host = true

private theorem lists_iff {id : String} :
    router.Lists host id ↔ ∃ ref : ClusterRef, ref.id = id ∧ router.Serves ref host := by
  constructor
  · rintro ⟨hosts, known, lists⟩
    rcases Option.map_eq_some_iff.1 known with ⟨⟨ref, cluster⟩, found, rfl⟩
    have here := id_of_registered? found
    exact ⟨ref, here, cluster, here.symm ▸ found, lists⟩
  · rintro ⟨ref, rfl, cluster, found, lists⟩
    exact ⟨cluster.model.config.hosts, Option.map_eq_some_iff.2 ⟨_, found, rfl⟩, lists⟩

private theorem id_clusterOfHost?_eq_some_iff {id : String} :
    (router.clusterOfHost? host).map ClusterRef.id = some id ↔
      router.Lists host id ∧ ∀ other, router.Lists host other →
        Text.bytes id ≤ Text.bytes other := by
  simp only [Option.map_eq_some_iff, clusterOfHost?_eq_some_iff, lists_iff]
  constructor
  · rintro ⟨ref, first, rfl⟩
    refine ⟨⟨ref, rfl, first.serves⟩, ?_⟩
    rintro _ ⟨other, rfl, serves⟩
    exact first.least other serves
  · rintro ⟨⟨ref, rfl, serves⟩, least⟩
    exact ⟨ref, ⟨serves, fun other also => least other.id ⟨other, rfl, also⟩⟩, rfl⟩

theorem id_clusterOfHost?_congr {left right : Router}
    (alike : ∀ id, left.hosts? id = right.hosts? id) (host : String) :
    (left.clusterOfHost? host).map ClusterRef.id =
      (right.clusterOfHost? host).map ClusterRef.id := by
  have lists : left.Lists host = right.Lists host := by
    funext id
    rw [Lists, alike]
    rfl
  ext id
  rw [id_clusterOfHost?_eq_some_iff, id_clusterOfHost?_eq_some_iff, lists]

/-! Requests. -/

section Requests

variable {request : Http.Request} {content : Bytes}

private theorem clusterOfRequest?_eq_some_iff :
    router.clusterOfRequest? request = some ref ↔
      ∃ host, request.host? = some host ∧ router.First host ref := by
  rw [clusterOfRequest?, Option.bind_eq_some_iff]
  exact exists_congr fun host => and_congr_right fun _ => clusterOfHost?_eq_some_iff

private theorem clusterOfRequest?_eq_none_iff : router.clusterOfRequest? request = none ↔
    ∀ host, request.host? = some host → ∀ ref, ¬ router.Serves ref host := by
  rw [clusterOfRequest?, Option.bind_eq_none_iff]
  exact forall_congr' fun host => imp_congr_right fun _ => clusterOfHost?_eq_none_iff

private theorem registered_of_clusterOfRequest?
    (found : router.clusterOfRequest? request = some ref) :
    ∃ cluster, router.registered? ref.id = some (ref, cluster) := by
  rcases clusterOfRequest?_eq_some_iff.1 found with ⟨host, -, first⟩
  rcases first.serves with ⟨cluster, found, -⟩
  exact ⟨cluster, found⟩

private theorem clusterOfRequest?_of_header {another : Http.Request}
    (sent : request.headers.first? "host" = some content)
    (also : another.headers.first? "host" = some content) :
    router.clusterOfRequest? another = router.clusterOfRequest? request := by
  have same : another.host? = request.host? := by
    ext name
    rw [Http.Request.host?_of_header sent, Http.Request.host?_of_header also]
  rw [clusterOfRequest?, clusterOfRequest?, same]

private theorem clusterOfRequest?_of_malformed
    (sent : request.headers.first? "host" = some content)
    (malformed : ∀ text authority, Http.Header.plainText? content = some text →
      Http.Uri.parseAuthority text ≠ .ok authority) :
    router.clusterOfRequest? request = none := by
  rw [clusterOfRequest?_eq_none_iff]
  intro name named
  rcases (Http.Request.host?_of_header sent).1 named with
    ⟨text, authority, plain, read, -⟩
  exact absurd read (malformed text authority plain)

variable {port : String} (hostname : Http.Uri.Hostname host.toList)
  (decimal : ∀ character ∈ port.toList, Decimal.isDigit character = true)
  (sent : request.headers.first? "host" = some (Text.bytes host))

include hostname sent

private theorem host?_of_plain_header {name : String} : request.host? = some name ↔
    Http.Cookie.Legible (Text.bytes host) ∧
      Http.Uri.parseAuthority host.toList = .ok host.toList ∧ host = name := by
  have unported : Http.Uri.Port "".toList := .absent
  refine Http.Request.host?_of_hostname hostname unported ?_
  rw [String.append_empty]
  exact sent

private theorem clusterOfRequest?_of_plain (plain : Http.Uri.Plain host.toList) :
    router.clusterOfRequest? request = router.clusterOfHost? host := by
  have legible := Http.legible_of_visible fun character member =>
    (plain.characters character member).visible
  have named := (host?_of_plain_header hostname sent).2
    ⟨legible, Http.Uri.parseAuthority_of_plain hostname plain, rfl⟩
  rw [clusterOfRequest?, named, Option.bind_some]

include decimal

private theorem clusterOfRequest?_of_port {another : Http.Request}
    (also : another.headers.first? "host" = some (Text.bytes (host ++ ":" ++ port))) :
    router.clusterOfRequest? another = router.clusterOfRequest? request := by
  have ported : Http.Uri.Port (":" ++ port).toList := by
    rw [String.toList_append]
    exact .present decimal
  rw [String.append_assoc] at also
  have same : another.host? = request.host? := by
    ext name
    rw [host?_of_plain_header hostname sent,
      Http.Request.host?_of_hostname hostname ported also]
  rw [clusterOfRequest?, clusterOfRequest?, same]

end Requests

end Router

namespace Scene

end Scene

end Gateway
