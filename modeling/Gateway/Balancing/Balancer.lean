import Gateway.Balancing.Turn
import Gateway.Health.Destination

namespace Gateway

/-! Load balancers choose among the candidates for a request. -/

structure LoadBalancer where
  name : String
  pick : Turn → List Candidate → Option Candidate × Turn

namespace LoadBalancer

def first : LoadBalancer where
  name := "First"
  pick turn candidates := (candidates.head?, turn)

def random (source : RandomSource) : LoadBalancer where
  name := "Random"
  pick turn candidates :=
    if candidates.isEmpty then (none, turn)
    else
      let (index, turn) := turn.draw source candidates.length
      (candidates[index]?, turn)

def roundRobin : LoadBalancer where
  name := "RoundRobin"
  pick turn candidates :=
    if candidates.isEmpty then (none, turn)
    else
      (candidates[turn.cursor.toNat % candidates.length]?,
        { turn with cursor := turn.cursor + 1 })

/-- Of two candidates the one with fewer requests; a tie goes to the left. -/
def lighter (left right : Candidate) : Candidate :=
  if left.requests ≤ right.requests then left else right

/-- Two samples, of which the lighter one wins. A single candidate is taken
without sampling. -/
def powerOfTwoChoices (source : RandomSource) : LoadBalancer where
  name := "PowerOfTwoChoices"
  pick turn candidates :=
    match candidates with
    | [] => (none, turn)
    | [single] => (some single, turn)
    | _ =>
        let (left, turn) := turn.draw source candidates.length
        let (right, turn) := turn.draw source candidates.length
        match candidates[left]?, candidates[right]? with
        | some left, some right => (some (lighter left right), turn)
        | _, _ => (none, turn)

/-- The earliest of the candidates with the fewest requests. -/
def lightest : List Candidate → Option Candidate
  | [] => none
  | candidate :: rest => some (rest.foldl lighter candidate)

def leastRequests : LoadBalancer where
  name := "LeastRequests"
  pick turn candidates := (lightest candidates, turn)

def builtin (source : RandomSource) : List LoadBalancer :=
  [first, random source, roundRobin, powerOfTwoChoices source, leastRequests]

end LoadBalancer

end Gateway
