namespace Gateway

/-! What a load balancer may remember between picks: the round-robin position of
the cluster and the number of random numbers drawn so far. Both are words that
wrap. -/

structure Turn where
  cursor : UInt64 := 0
  draws : UInt64 := 0
  deriving Repr, DecidableEq

/-! A source of random numbers, as a function of how many were drawn before. -/

structure RandomSource where
  index : (draws : UInt64) → (bound : Nat) → Nat

namespace RandomSource

/-- A fixed sequence, repeated for ever and reduced to the bound. An empty
sequence gives zero. -/
def ofSequence (sequence : List Nat) : RandomSource where
  index draws bound :=
    match sequence[draws.toNat % sequence.length]? with
    | some number => number % bound
    | none => 0

theorem index_ofSequence_lt (sequence : List Nat) (draws : UInt64) {bound : Nat}
    (positive : 0 < bound) : (ofSequence sequence).index draws bound < bound := by
  simp only [ofSequence]
  split
  · exact Nat.mod_lt _ positive
  · exact positive

end RandomSource

def Turn.draw (turn : Turn) (source : RandomSource) (bound : Nat) : Nat × Turn :=
  (source.index turn.draws bound, { turn with draws := turn.draws + 1 })

end Gateway
