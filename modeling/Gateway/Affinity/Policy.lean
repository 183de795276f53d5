import Gateway.Affinity.Carrier
import Gateway.Affinity.Protector
import Gateway.Health.Destination

namespace Gateway

/-! Session affinity: requests of one session go to the destination that served
its first request, as long as that is available. -/

structure AffinityResult where
  status : AffinityStatus
  candidates : List Candidate

def AffinityResult.failed (status : AffinityStatus) : AffinityResult :=
  { status, candidates := [] }

/-- A response that may have been given a key, with the number of keys handed
out so far. -/
structure Affinitized where
  response : Http.Response
  serial : Nat

structure AffinityPolicy where
  name : String
  find : (cluster : String) → AffinityConfig → Http.Request → List Candidate →
    Effect (Except UsageFault AffinityResult)
  affinitize : (cluster : String) → AffinityConfig → Destination → AffinityStatus →
    Affinitized → Effect (Except UsageFault Affinitized)

namespace AffinityPolicy

def keyOf (destination : Destination) : String := destination.id

def findKey (cluster key : String) (candidates : List Candidate) :
    Effect AffinityResult :=
  if candidates.isEmpty then do
    Effect.tellOf cluster .affinityWithoutDestinations
    pure (.failed .destinationNotFound)
  else
    match candidates.find? (fun candidate => keyOf candidate.destination == key) with
    | some candidate => pure { status := .found, candidates := [candidate] }
    | none => do
        Effect.tellOf cluster (.affinityDestinationMissing key)
        pure (.failed .destinationNotFound)

def findWith (carrier : KeyCarrier) (protector : Protector) (cluster : String)
    (config : AffinityConfig) (request : Http.Request) (candidates : List Candidate) :
    Effect (Except UsageFault AffinityResult) :=
  if !config.enabled then pure (.error (.affinityDisabled cluster))
  else
    match (carrier.read config request).filter (fun key => !key.isEmpty) with
    | none => pure (.ok { status := .keyNotSet, candidates })
    | some encoded =>
        match protector.recoverKey encoded with
        | .ok key => .ok <$> findKey cluster key candidates
        | .error fault => do
            Effect.tellOf cluster (.keyNotRecovered config.keyName fault)
            pure (.ok (.failed .keyExtractionFailed))

/-- Every response but one to a request that was led by its key gets a key. -/
def affinitizeWith (carrier : KeyCarrier) (protector : Protector) (cluster : String)
    (config : AffinityConfig) (destination : Destination) (status : AffinityStatus)
    (answer : Affinitized) : Effect (Except UsageFault Affinitized) :=
  if !config.enabled then pure (.error (.affinityDisabled cluster))
  else if status = .found then pure (.ok answer)
  else
    match protector.protectKey answer.serial (keyOf destination) with
    | .ok key => do
        Traced.emit (.issue key)
        let response ← carrier.write config key answer.response
        pure (.ok { response, serial := answer.serial + 1 })
    | .error fault => do
        Effect.tellOf cluster (.keyNotProtected destination.id fault)
        pure (.ok { answer with serial := answer.serial + 1 })

def ofCarrier (protector : Protector) (carrier : KeyCarrier) : AffinityPolicy where
  name := carrier.name
  find := findWith carrier protector
  affinitize := affinitizeWith carrier protector

def builtin (protector : Protector) : List AffinityPolicy :=
  KeyCarrier.builtin.map (ofCarrier protector)

end AffinityPolicy

end Gateway
