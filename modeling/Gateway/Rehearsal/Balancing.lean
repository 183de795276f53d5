import Gateway.Balancing.Balancer

namespace Gateway.Rehearsal

/-! Repeated picks of a load balancer among fixed candidates, without a cluster. -/

/-- Candidates `d1`, `d2`, ... with the given numbers of requests. -/
def candidatesOf (requests : List Nat) : List Candidate :=
  requests.mapIdx (fun index count =>
    { record := index
      destination :=
        { id := "d" ++ toString (index + 1)
          config := { address := "" }
          requests := UInt64.ofNat count } })

def countRequest (record : Nat) (candidates : List Candidate) : List Candidate :=
  candidates.map (fun candidate =>
    if candidate.record = record then
      { candidate with destination := candidate.destination.increment }
    else candidate)

structure Picks where
  ids : List (Option String)
  candidates : List Candidate
  turn : Turn

/-- Picks again and again; every pick may count as a request that does not end. -/
def picks (balancer : LoadBalancer) (counting : Bool) :
    Nat → Turn → List Candidate → Picks
  | 0, turn, candidates => { ids := [], candidates, turn }
  | times + 1, turn, candidates =>
      let (picked, turn) := balancer.pick turn candidates
      let counted :=
        match picked with
        | some candidate =>
            if counting then countRequest candidate.record candidates else candidates
        | none => candidates
      let later := picks balancer counting times turn counted
      { later with ids := picked.map Candidate.id :: later.ids }

end Gateway.Rehearsal
