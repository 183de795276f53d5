import Gateway.Proofs.Router.Requests

namespace Gateway

/-! Which operations report an outcome, and where. As far as health goes an operation
comes to its report; one that makes no report comes to moves. -/

namespace Router

variable {policies : Policies} {router : Router}

/-- The report that an operation makes: on which record, and of which outcome. -/
def reported? (router : Router) : Operation → Option (Lease × Outcome)
  | .report ref record outcome => some ({ cluster := ref, record }, outcome)
  | operation =>
      (router.ending? operation).bind (fun ending =>
        (router.lease? ending.1).map (fun lease => (lease, ending.2)))

theorem reported?_cases {operation : Operation} {lease : Lease} {outcome : Outcome}
    (reported : router.reported? operation = some (lease, outcome)) :
    operation = .report lease.cluster lease.record outcome ∨
      ∃ number, router.ending? operation = some (number, outcome) ∧
        router.lease? number = some lease := by
  unfold reported? at reported
  split at reported
  · cases reported
    exact .inl rfl
  · rcases Option.bind_eq_some_iff.1 reported with ⟨⟨number, ended⟩, ending, reported⟩
    rcases Option.map_eq_some_iff.1 reported with ⟨held, there, same⟩
    cases same
    exact .inr ⟨number, ending, there⟩

theorem lease?_of_not_reported {operation : Operation} {number : Nat} {outcome : Outcome}
    (silent : router.reported? operation = none)
    (ending : router.ending? operation = some (number, outcome)) :
    router.lease? number = none := by
  unfold reported? at silent
  split at silent
  · cases silent
  · rw [ending] at silent
    exact Option.map_eq_none_iff.1 silent

theorem SameHealth.trans {before middle after : Router} (first : SameHealth before middle)
    (last : SameHealth middle after) : SameHealth before after where
  health := fun ref record => (last.health ref record).trans (first.health ref record)
  shutDown := fun ref => (last.shutDown ref).trans (first.shutDown ref)
  agenda := last.agenda.trans first.agenda
  now := last.now.trans first.now
  background := last.background.trans first.background

theorem Begun.moves {next : Router} (begun : Begun policies router next) :
    ∃ middle, Moves policies router middle ∧ SameHealth middle next := by
  cases begun with
  | moved moves => exact ⟨next, moves, .refl next⟩
  | acquired => exact ⟨router, .refl, sameHealth_acquire router _ _⟩
  | @started middle moves request =>
      have counted := sameHealth_acquire middle request.cluster request.candidate.record
      exact ⟨middle, moves, counted.health, counted.shutDown, counted.agenda, counted.now,
        counted.background⟩

private theorem sameHealth_endLease {number : Nat} {lease : Lease}
    (held : router.lease? number = some lease) (outcome : Outcome) :
    SameHealth (router.observe lease.cluster lease.record outcome).value
      (router.endLease number outcome).value := by
  rw [value_endLease held]
  have released := sameHealth_release
    (router.observe lease.cluster lease.record outcome).value lease
  exact ⟨released.health, released.shutDown, released.agenda, released.now,
    released.background⟩

end Router

namespace Scene

variable {policies : Policies} {scene : Scene} {operation : Operation}

theorem sameHealth_ending {number : Nat} {outcome : Outcome}
    (ending : scene.router.ending? operation = some (number, outcome)) :
    Router.SameHealth (scene.router.endLease number outcome).value
      (scene.perform operation).value.router := by
  rcases router_ending ending with ⟨-, same⟩ | ⟨position, request, serial, -, -, same⟩
  · rw [same]
    exact .refl _
  · rw [same]
    exact ⟨fun _ _ => rfl, fun _ => rfl, rfl, rfl, rfl⟩

theorem sameHealth_reported {lease : Lease} {outcome : Outcome}
    (reported : scene.router.reported? operation = some (lease, outcome)) :
    Router.SameHealth (scene.router.observe lease.cluster lease.record outcome).value
      (scene.perform operation).value.router := by
  rcases Router.reported?_cases reported with rfl | ⟨number, ending, held⟩
  · exact .refl _
  · exact (Router.sameHealth_endLease held outcome).trans (sameHealth_ending ending)

theorem moves_of_not_reported (known : Router.Known policies scene.router)
    (choosing : policies.Choosing) (silent : scene.router.reported? operation = none) :
    ∃ middle, Router.Moves policies scene.router middle ∧
      Router.SameHealth middle (scene.perform operation).value.router := by
  cases ending : scene.router.ending? operation with
  | none =>
      rcases begun_or_report known choosing ending with
        begun | ⟨ref, record, outcome, rfl⟩
      · exact begun.moves
      · cases silent
  | some ended =>
      rcases ended with ⟨number, outcome⟩
      have same := sameHealth_ending ending
      rw [Router.endLease_of_ended (Router.lease?_of_not_reported silent ending)] at same
      exact ⟨scene.router, .refl, same⟩

end Scene

end Gateway
