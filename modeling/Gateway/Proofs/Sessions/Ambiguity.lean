import Gateway.Proofs.Base64.Canonical
import Gateway.Proofs.Text
import Gateway.Proofs.Cluster.Choice
import Gateway.Rehearsal.Policies

namespace Gateway

/-! Several values of the header of a session are none: joined by commas they are no key's
text, whatever each of them is by itself. -/

namespace Base64

def comma : UInt8 := 44

theorem comma_not_mem_of_spells {text content : Bytes} (spells : Spells text content) :
    comma ∉ text := by
  rcases spells with ⟨count, -, rfl⟩
  intro member
  rcases List.mem_append.1 member with written | padding
  · rcases mem_encode written with ⟨value, bounded, same⟩
    clear member written
    revert value
    decide
  · exact absurd (List.eq_of_mem_replicate padding) (by decide)

end Base64

namespace Protector

theorem recoverKey_of_comma (protector : Protector) {text : String}
    (separated : Base64.comma ∈ Text.bytes text) :
    ∃ fault, protector.recoverKey text = .error (.encoding fault) := by
  cases decoded : Base64.decode .indifferent (Text.bytes text) with
  | error fault => exact ⟨fault, by rw [recoverKey, decoded]⟩
  | ok content =>
      exact absurd separated
        (Base64.comma_not_mem_of_spells (Base64.decode_eq_ok_iff.1 decoded))

end Protector

namespace KeyCarrier

open Http

variable {config : AffinityConfig} {request : Request}

private theorem comma_mem_intercalate (first second : String) (rest : List String) :
    Base64.comma ∈ Text.bytes (String.intercalate "," (first :: second :: rest)) := by
  have sign : Text.bytes "," = [Base64.comma] := by decide +kernel
  rw [String.intercalate_cons_cons, Text.bytes_append, Text.bytes_append, sign]
  exact List.mem_append_left _ (List.mem_append_right _ (List.mem_singleton_self _))

theorem key?_of_several (valid : Header.isName config.keyName = true)
    (several : 2 ≤ (request.headers.values (Header.lowerCase config.keyName)).length) :
    ∃ text,
      customHeader.key? config request = some text ∧ Base64.comma ∈ Text.bytes text := by
  match split : request.headers.values (Header.lowerCase config.keyName) with
  | [] | [_] =>
      rw [split] at several
      simp at several
  | first :: second :: rest =>
      have separated := comma_mem_intercalate (Text.ofBytesTolerantly first)
        (Text.ofBytesTolerantly second) (rest.map Text.ofBytesTolerantly)
      have read : customHeader.read config request = some (String.intercalate ","
          ((first :: second :: rest).map Text.ofBytesTolerantly)) := by
        change readHeader config request = _
        simp only [readHeader, Header.name?, if_pos valid, split, List.isEmpty_cons,
          Bool.false_eq_true, if_false]
      refine ⟨_, ?_, separated⟩
      have filled : (String.intercalate ","
          ((first :: second :: rest).map Text.ofBytesTolerantly)).isEmpty = false := by
        refine Bool.eq_false_iff.2 fun empty => ?_
        rw [List.map_cons, List.map_cons] at empty
        rw [String.isEmpty_iff.1 empty] at separated
        cases separated
      rw [key?, read, Option.filter_some, filled]
      rfl

end KeyCarrier

namespace AffinityPolicy

open Http

/-- A request with several values of the header of its session is led nowhere: its key
counts as one that cannot be recovered, whatever the values, the protector and the
candidates are, and that is told to the operator. -/
theorem several_values_refused (protector : Protector) (cluster : String)
    (config : AffinityConfig) (request : Request) (candidates : List Candidate)
    (enabled : config.enabled = true) (valid : Header.isName config.keyName = true)
    (several : 2 ≤ (request.headers.values (Header.lowerCase config.keyName)).length) :
    ∃ fault,
      (ofCarrier protector .customHeader).find cluster config request candidates =
        { value := .ok { status := .keyExtractionFailed, candidates := [] }
          events := [.notice (.concerning cluster
            (.keyNotRecovered config.keyName (.encoding fault)))] } := by
  rcases KeyCarrier.key?_of_several valid several with ⟨text, keyed, separated⟩
  rcases protector.recoverKey_of_comma separated with ⟨fault, failed⟩
  refine ⟨fault, ?_⟩
  rw [KeyCarrier.key?] at keyed
  simp only [ofCarrier, findWith, enabled, keyed, failed, Bool.not_true,
    Bool.false_eq_true, if_false]
  rfl

/-- The same key twice, which by itself leads to its destination. -/
theorem several_values_refused_though_equal :
    let config : AffinityConfig := { enabled := true, keyName := "X-Session" }
    let field : String × Bytes := ("x-session", Text.bytes "YQ")
    let once : Request := { headers := { fields := [field] } }
    let twice : Request := { headers := { fields := [field, field] } }
    let candidates : List Candidate :=
      [{ record := 0, destination := { id := "a", config := { address := "http://a" } } }]
    let policy := ofCarrier Rehearsal.identityProtector .customHeader
    (policy.find "c1" config once candidates).value.toOption.map AffinityResult.status =
        some .found ∧
      (config.enabled = true ∧ Header.isName config.keyName = true ∧
        2 ≤ (twice.headers.values (Header.lowerCase config.keyName)).length) ∧
      ∃ fault, policy.find "c1" config twice candidates =
        { value := .ok { status := .keyExtractionFailed, candidates := [] }
          events := [.notice (.concerning "c1"
            (.keyNotRecovered "X-Session" (.encoding fault)))] } := by
  intro config field once twice candidates policy
  have valid : Header.isName config.keyName = true := by decide +kernel
  have several : 2 ≤ (twice.headers.values (Header.lowerCase config.keyName)).length := by
    decide +kernel
  exact ⟨by decide +kernel, ⟨rfl, valid, several⟩,
    several_values_refused Rehearsal.identityProtector "c1" config twice candidates
      rfl valid
      several⟩

end AffinityPolicy

end Gateway
