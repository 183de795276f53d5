import Gateway.Proofs.Leases.Accounting

namespace Gateway

/-! A request waits for its backend under the model and with the destination that it was
started with. Nothing but its own end changes that: neither other requests nor a change of
the configuration. -/

/-- Whether an operation ends the wait of a request. -/
def Operation.Settles (number : Nat) : Operation → Prop
  | .finish other _ | .abandon other => other = number
  | _ => False

namespace Router

variable {policies : Policies} {router next : Router} {number : Nat}

private theorem inFlight?_of_same (same : next.inFlight = router.inFlight)
    (number : Nat) :
    next.inFlight? number = router.inFlight? number := by
  rw [inFlight?, inFlight?, same]

private theorem inFlight?_set {other : Nat} (different : other ≠ number)
    (changed : next.inFlight = router.inFlight.set other none) :
    next.inFlight? number = router.inFlight? number := by
  rw [inFlight?, changed, List.getElem?_set_ne different]
  rfl

private theorem inFlight_respond (router : Router) (request : InFlight)
    (result : Except ForwardFault Http.Response) :
    (router.respond request result).value.1.inFlight = router.inFlight := by
  rcases respond_serial router request result with ⟨serial, same⟩
  rw [same]

private theorem inFlight?_finish {other : Nat} (different : other ≠ number)
    (result : Except ForwardFault Http.Response) :
    (router.finish other result).value.1.inFlight? number = router.inFlight? number := by
  unfold finish
  split
  · rfl
  · rename_i request waiting
    apply inFlight?_set different
    simp only [Traced.value_bind, Traced.value_pure, inFlight_respond, inFlight_endLease]

private theorem inFlight?_abandon {other : Nat} (different : other ≠ number) :
    (router.abandon other).value.inFlight? number = router.inFlight? number := by
  unfold abandon
  split
  · rfl
  · rename_i request waiting
    apply inFlight?_set different
    simp only [Traced.value_bind, Traced.value_pure, inFlight_endLease]

private theorem inFlight_endHeldLease (router : Router) (number : Nat)
    (outcome : Outcome) :
    (router.endHeldLease number outcome).value.inFlight = router.inFlight := by
  unfold endHeldLease
  split
  · rfl
  · exact inFlight_endLease router number outcome

theorem Begun.inFlight? (begun : Begun policies router next) {request : InFlight}
    (waiting : router.inFlight? number = some request) :
    next.inFlight? number = some request := by
  cases begun with
  | moved moves => rwa [inFlight?_of_same moves.frame.inFlight]
  | @acquired ref record => rwa [inFlight?_of_same (acquire_fields router ref record).2]
  | @started middle moves other =>
      have same : (middle.acquire other.cluster other.candidate.record).1.inFlight =
          router.inFlight :=
        (acquire_fields middle other.cluster other.candidate.record).2.trans
          moves.frame.inFlight
      have inside : number < router.inFlight.length :=
        (List.getElem?_eq_some_iff.1 (Option.join_eq_some_iff.1 waiting)).1
      rw [Router.inFlight?, same, List.getElem?_append_left inside]
      exact waiting

/-- A picked request waits: under which number, on which cluster, with which model and
with which destination. -/
def Waits (router : Router) (number : Nat) (ref : ClusterRef) (model : ClusterModel)
    (picked : Picked) : Prop :=
  ∃ lease backend, router.inFlight? number =
    some { cluster := ref, model, candidate := picked.candidate, status := picked.status,
           lease, backend }

end Router

namespace Scene

variable {policies : Policies} {scene : Scene} {number : Nat} {request : InFlight}

private theorem inFlight?_perform (known : Router.Known policies scene.router)
    (choosing : policies.Choosing)
    (waiting : scene.router.inFlight? number = some request)
    {operation : Operation} (unsettled : ¬ operation.Settles number) :
    (scene.perform operation).value.router.inFlight? number = some request := by
  have silent : scene.router.ending? operation = none →
      (scene.perform operation).value.router.inFlight? number = some request :=
        fun silent => by
    rcases begun_or_report known choosing silent with begun | ⟨ref, record, outcome, rfl⟩
    · exact begun.inFlight? waiting
    · exact (Router.inFlight?_of_same (Router.frame_observe _ ref record outcome).inFlight
        _).trans
        waiting
  cases operation with
  | finish other result => exact (Router.inFlight?_finish unsettled result).trans waiting
  | abandon other => exact (Router.inFlight?_abandon unsettled).trans waiting
  | complete lease outcome =>
      exact (Router.inFlight?_of_same (Router.inFlight_endHeldLease _ lease outcome)
        _).trans
        waiting
  | drop lease =>
      exact (Router.inFlight?_of_same (Router.inFlight_endHeldLease _ lease .canceled)
        _).trans
        waiting
  | _ => exact silent rfl

theorem waits_after (choosing : policies.Choosing) {background : Bool}
    {earlier : List Operation} {ref : ClusterRef} {model : ClusterModel} {picked : Picked}
    (waits :
      ((fresh policies background).after earlier).router.Waits number ref model picked)
    (between : List Operation)
    (unsettled : ∀ operation ∈ between, ¬ operation.Settles number) :
    ((fresh policies background).after
      (between ++ earlier)).router.Waits number ref model picked := by
  rcases waits with ⟨lease, backend, waiting⟩
  refine ⟨lease, backend, ?_⟩
  induction between with
  | nil => exact waiting
  | cons operation between induction =>
      have known := known_after choosing background (between ++ earlier)
      have before := induction fun other member =>
          unsettled other (List.mem_cons_of_mem _ member)
      exact inFlight?_perform known choosing before
        (unsettled operation List.mem_cons_self)

end Scene

end Gateway
