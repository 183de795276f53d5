import Gateway.Policies

namespace Gateway.Rehearsal

/-! Policies for rehearsals: load balancers with a fixed choice, a passive policy
that only passes on what it is told, and policies that misbehave. -/

def last : LoadBalancer where
  name := "Last"
  pick turn candidates := (candidates.getLast?, turn)

def nobody : LoadBalancer where
  name := "Nobody"
  pick turn _ := (none, turn)

def recorder : PassivePolicy where
  name := "Recorder"
  observe config _ destination outcome := do
    Traced.emit (.report config.id destination.id outcome)
    pure destination.health

def brokenFailurePolicy : FailurePolicy where
  name := "Broken"
  handle _ status := pure (.error (.notAnAffinityFailure status))

/-- Reads no key, and refuses to hand one out. -/
def brokenAffinity (protector : Protector) : AffinityPolicy :=
  let carrier : KeyCarrier :=
    { name := "Broken"
      read := fun _ _ => none
      write := fun _ _ response => pure response }
  { AffinityPolicy.ofCarrier protector carrier with
    affinitize := fun cluster _ _ _ _ => pure (.error (.affinityDisabled cluster)) }

def policies (source : RandomSource) (protector : Protector) : Policies :=
  let builtin := Policies.builtin source protector
  { builtin with
    loadBalancing := builtin.loadBalancing.extend [last, nobody]
    affinity := builtin.affinity.extend [brokenAffinity protector]
    affinityFailure := builtin.affinityFailure.extend [brokenFailurePolicy]
    passive := builtin.passive.extend [recorder] }

/-! Protectors that do nothing or fail. -/

def identityProtector : Protector where
  label := "Identity"
  protect _ content := .ok content
  unprotect content := .ok content

def failingProtector : Protector where
  label := "Failing"
  protect _ _ := .error .encryption
  unprotect _ := .error .authentication

end Gateway.Rehearsal
