import Gateway.Proofs.Dispatch.Answers
import Gateway.Proofs.Sessions.Keys

namespace Gateway.KeyCarrier

open Http

/-! How a key gets to a client and back, for either carrier. -/

/-- A response brings a key to its client: in the first part of the last cookie that it
sets, or as the only value of the header of the session. -/
inductive Brings (config : AffinityConfig) (key : String) (response : Response) :
    KeyCarrier → Prop
  | cookie {text : String}
      (last : (response.headers.values "set-cookie").getLast? = some (Text.bytes text))
      (first : (Text.splitAt ';' text.toList).head? =
        some (config.keyName ++ "=" ++ key).toList) :
      Brings config key response cookie
  | header {name : String} (named : Header.name? config.keyName = some name)
      (only : response.headers.values name = [Text.bytes key]) :
      Brings config key response customHeader

/-- A request carries a key: its first cookie of that name has it as value, or it is the
only value of the header of the session. -/
inductive Carries (config : AffinityConfig) (key : String) (request : Request) :
    KeyCarrier → Prop
  | cookie {before behind : List (List Char)} {part : List Char}
      (brought : Cookie.parts request = before ++ part :: behind)
      (sets : Cookie.Sets part config.keyName key)
      (first : ∀ other ∈ before, ∀ value, ¬ Cookie.Sets other config.keyName value) :
      Carries config key request cookie
  | header {name : String} (named : Header.name? config.keyName = some name)
      (only : request.headers.values name = [Text.bytes key]) :
      Carries config key request customHeader

variable {config : AffinityConfig} {content : Bytes} {carrier : KeyCarrier}

open Protector (keyText)

private theorem ne_separator_of_mem {character : Char}
    (valid : Header.isName config.keyName = true)
    (member : character ∈ (config.keyName ++ "=" ++ keyText content).toList) :
    character ≠ ';' := by
  rw [String.toList_append, String.toList_append, List.mem_append,
    List.mem_append] at member
  rcases member with (name | sign) | key
  · exact (Header.of_isNameCharacter ((Header.of_isName valid).2 character name)).2.2.1
  · rw [List.mem_singleton.1 sign]
    decide
  · exact (Protector.of_mem_keyText key).2.1

theorem brings_of_writes (valid : Header.isName config.keyName = true)
    (plain : carrier = cookie → Cookie.Plain config.cookie) {response answer : Response}
    (writes : carrier.Writes config (keyText content) response answer) :
    carrier.Brings config (keyText content) answer := by
  have writable := Protector.writable_keyText content
  have rendered (plain : Cookie.Plain config.cookie) :
      Header.value? (Cookie.render config.cookie config.keyName (keyText content)) =
        some
          (Text.bytes (Cookie.render config.cookie config.keyName (keyText content))) :=
    Header.value?_of_writable
      (Cookie.writable_render plain (Header.writable_of_isName valid) writable)
  cases writes with
  | @cookie value written =>
      rw [rendered (plain rfl)] at written
      cases written
      refine .cookie ?_ (Cookie.head?_render config.cookie fun _ =>
        ne_separator_of_mem valid)
      rw [Headers.values_append, if_pos rfl, List.getLast?_concat]
  | noCookie unwritable =>
      rw [rendered (plain rfl)] at unwritable
      cases unwritable
  | @header name value named written =>
      rw [Header.value?_of_writable writable] at written
      cases written
      exact .header named ((Headers.values_replace ..).trans (if_pos rfl))
  | noHeader unwritable =>
      rcases unwritable with unnamed | unwritable
      · rw [Header.name?, if_pos valid] at unnamed
        cases unnamed
      · rw [Header.value?_of_writable writable] at unwritable
        cases unwritable

theorem values_of_brings {key name : String} {response : Response}
    (brings : customHeader.Brings config key response)
    (named : Header.name? config.keyName = some name) :
    response.headers.values name = [Text.bytes key] := by
  generalize same : customHeader = carrier at brings
  cases brings with
  | cookie => exact absurd (congrArg KeyCarrier.name same) (by decide)
  | header other only =>
      cases other.symm.trans named
      exact only

theorem key?_of_carries (valid : Header.isName config.keyName = true)
    (filled : content ≠ []) {request : Request}
    (carries : carrier.Carries config (keyText content) request) :
    carrier.key? config request = some (keyText content) := by
  have read : carrier.read config request = some (keyText content) := by
    cases carries with
    | cookie brought sets first =>
        have found := Cookie.find?_ofRequest brought sets first (Header.of_isName valid).1
          (fun member => (Protector.of_mem_keyText member).2.2 rfl)
          (fun _ member => (Protector.of_mem_keyText member).1)
        exact congrArg (Option.map Prod.snd) found
    | header named only =>
        change readHeader config request = _
        simp only [readHeader, named, only, List.isEmpty_cons, List.map_cons,
          List.map_nil, Protector.ofBytesTolerantly_keyText, String.intercalate_singleton,
          Bool.false_eq_true, if_false]
  rw [key?, read, Option.filter_some, Protector.isEmpty_keyText filled]
  rfl

example :
    let request : Request :=
      { headers := { fields := [("cookie", Text.bytes "a=1; session=YQ ;session=Yg")] } }
    cookie.key? { keyName := "session" } request = some "YQ" := by
  decide +kernel

end Gateway.KeyCarrier
