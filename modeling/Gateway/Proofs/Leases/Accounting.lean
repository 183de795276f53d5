import Gateway.Proofs.Leases.Reports
import Mathlib.Data.List.Infix

namespace Gateway

open Effect

/-! The leases of requests that wait for their backends, and the accounts of whole
runs: who ends which lease, with which report, and what is counted in between. -/

namespace Router

variable {policies : Policies} {router next : Router}

/-- A request that waits holds a live lease of its own. -/
structure Owned (policies : Policies) (router : Router) : Prop where
  held : ∀ number request, router.inFlight? number = some request →
    router.lease? request.lease =
      some { cluster := request.cluster, record := request.candidate.record }
  distinct : ∀ left right leftRequest rightRequest,
    router.inFlight? left = some leftRequest →
      router.inFlight? right = some rightRequest →
    leftRequest.lease = rightRequest.lease → left = right
  accepted : ∀ number request, router.inFlight? number = some request →
    policies.resolve request.model.config = .ok request.model

private theorem lease?_set (leases : List (Option Lease)) (ended number : Nat) :
    (leases.set ended none)[number]?.join =
      if number = ended then none else leases[number]?.join := by
  rw [List.getElem?_set]
  by_cases same : number = ended
  · subst same
    split
    · split <;> rfl
    · contradiction
  · rw [if_neg (Ne.symm same), if_neg same]

private theorem lease?_endLease (router : Router) (ended number : Nat)
    (outcome : Outcome) :
    (router.endLease ended outcome).value.lease? number =
      if number = ended then none else router.lease? number := by
  rw [lease?, leases_endLease]
  exact lease?_set router.leases ended number

private theorem lease?_append {router next : Router} {more : List (Option Lease)}
    (grown : next.leases = router.leases ++ more) {number : Nat}
    (taken : number < router.leases.length) :
    next.lease? number = router.lease? number := by
  rw [lease?, grown, List.getElem?_append_left taken]
  rfl

private theorem lt_length_of_lease? {number : Nat} {lease : Lease}
    (held : router.lease? number = some lease) : number < router.leases.length :=
  (List.getElem?_eq_some_iff.1 ((lease?_eq_some_iff _ _ _).1 held)).1

private theorem ne_of_not_owned {number : Nat} (free : router.ownsLease number = false)
    {position : Nat} {request : InFlight}
    (waiting : router.inFlight? position = some request) :
    request.lease ≠ number := by
  intro same
  have member : some request ∈ router.inFlight :=
    List.mem_of_getElem? (Option.join_eq_some_iff.1 waiting)
  have owned := List.any_eq_false.1 free (some request) member
  simp [same] at owned

private theorem owned_fresh (policies : Policies) (background : Bool) :
    Owned policies { policies, background } := by
  have nobody : ∀ number, inFlight? { policies, background } number = none := fun _ => rfl
  constructor
  · intro number request waiting
    rw [nobody] at waiting
    cases waiting
  · intro left right leftRequest rightRequest waiting
    rw [nobody] at waiting
    cases waiting
  · intro number request waiting
    rw [nobody] at waiting
    cases waiting

theorem Owned.keep (owned : Owned policies router)
    (inFlight : next.inFlight = router.inFlight)
    (leases : ∀ number request, router.inFlight? number = some request →
      next.lease? request.lease = router.lease? request.lease) : Owned policies next := by
  have same : ∀ number, next.inFlight? number = router.inFlight? number :=
    fun number => by
    rw [inFlight?, inFlight?, inFlight]
  constructor
  · intro number request waiting
    rw [same] at waiting
    rw [leases number request waiting]
    exact owned.held number request waiting
  · intro left right leftRequest rightRequest leftWaiting rightWaiting
    rw [same] at leftWaiting rightWaiting
    exact owned.distinct left right leftRequest rightRequest leftWaiting rightWaiting
  · intro number request waiting
    rw [same] at waiting
    exact owned.accepted number request waiting

private theorem Owned.grow (owned : Owned policies router) {more : List (Option Lease)}
    (inFlight : next.inFlight = router.inFlight)
    (grown : next.leases = router.leases ++ more) :
    Owned policies next :=
  owned.keep inFlight fun number request waiting =>
    lease?_append grown (lt_length_of_lease? (owned.held number request waiting))

private theorem inFlight?_append {inFlight : List (Option InFlight)}
    {request other : InFlight} {number : Nat}
    (waiting : (inFlight ++ [some request])[number]?.join = some other) :
    inFlight[number]?.join = some other ∨
      (number = inFlight.length ∧ other = request) := by
  rcases Nat.lt_trichotomy number inFlight.length with before | last | beyond
  · rw [List.getElem?_append_left before] at waiting
    exact .inl waiting
  · rw [last, List.getElem?_concat_length, Option.join_some, Option.some.injEq] at waiting
    exact .inr ⟨last, waiting.symm⟩
  · rw [List.getElem?_eq_none (by rw [List.length_append, List.length_singleton]; omega)]
      at waiting
    cases waiting

theorem Owned.start (owned : Owned policies router) {request : InFlight}
    (accepted : policies.resolve request.model.config = .ok request.model)
    (own : request.lease = router.leases.length)
    (inFlight : next.inFlight = router.inFlight ++ [some request])
    (grown : next.leases = router.leases ++
      [some { cluster := request.cluster, record := request.candidate.record }]) :
    Owned policies next := by
  have waits : ∀ number other, next.inFlight? number = some other →
      router.inFlight? number = some other ∨
        (number = router.inFlight.length ∧ other = request) := by
    intro number other waiting
    rw [inFlight?, inFlight] at waiting
    exact inFlight?_append waiting
  have older : ∀ number other, router.inFlight? number = some other →
      other.lease < router.leases.length := fun number other waiting =>
    lt_length_of_lease? (owned.held number other waiting)
  constructor
  · intro number other waiting
    rcases waits number other waiting with old | ⟨-, rfl⟩
    · rw [lease?_append grown (older number other old)]
      exact owned.held number other old
    · rw [lease?, grown, own, List.getElem?_concat_length]
      rfl
  · intro left right leftRequest rightRequest leftWaiting rightWaiting same
    rcases waits left leftRequest leftWaiting with leftOld | ⟨leftLast, rfl⟩
    · rcases waits right rightRequest rightWaiting with rightOld | ⟨-, rfl⟩
      · exact owned.distinct left right leftRequest rightRequest leftOld rightOld same
      · have before := older left leftRequest leftOld
        omega
    · rcases waits right rightRequest rightWaiting with rightOld | ⟨rightLast, -⟩
      · have before := older right rightRequest rightOld
        omega
      · rw [leftLast, rightLast]
  · intro number other waiting
    rcases waits number other waiting with old | ⟨-, rfl⟩
    · exact owned.accepted number other old
    · exact accepted

theorem Owned.finish (owned : Owned policies router) {number : Nat} {request : InFlight}
    (waiting : router.inFlight? number = some request)
    (inFlight : next.inFlight = router.inFlight.set number none)
    (leases : next.leases = router.leases.set request.lease none) :
    Owned policies next := by
  have waits : ∀ other found, next.inFlight? other = some found →
      other ≠ number ∧ router.inFlight? other = some found := by
    intro other found stillWaiting
    rw [inFlight?, inFlight, List.getElem?_set] at stillWaiting
    split at stillWaiting
    · split at stillWaiting <;> cases stillWaiting
    · rename_i different
      exact ⟨Ne.symm different, stillWaiting⟩
  constructor
  · intro other found stillWaiting
    rcases waits other found stillWaiting with ⟨different, old⟩
    rw [lease?, leases, lease?_set, if_neg]
    · exact owned.held other found old
    · intro same
      exact different (owned.distinct other number found request old waiting same)
  · intro left right leftRequest rightRequest leftWaiting rightWaiting
    exact owned.distinct left right leftRequest rightRequest (waits left _ leftWaiting).2
      (waits right _ rightWaiting).2
  · intro other found stillWaiting
    exact owned.accepted other found (waits other found stillWaiting).2

theorem Owned.performed (owned : Owned policies router)
    (performed : Performed policies router next) : Owned policies next := by
  cases performed with
  | begun begun =>
      cases begun with
      | moved moves =>
          exact owned.keep moves.frame.inFlight fun number _ _ => by
            rw [lease?, lease?, moves.frame.leases]
      | @acquired ref record =>
          rcases acquire_fields router ref record with ⟨grown, inFlight⟩
          exact owned.grow inFlight grown
      | @started middle moves request there own accepted =>
          rcases acquire_fields middle request.cluster request.candidate.record with
            ⟨grown, inFlight⟩
          have before : Owned policies middle :=
            owned.keep moves.frame.inFlight fun number _ _ => by
              rw [lease?, lease?, moves.frame.leases]
          exact before.start accepted own (congrArg (· ++ [some request]) inFlight) grown
  | reported ref record outcome =>
      have frame := frame_observe router ref record outcome
      exact owned.keep frame.inFlight fun number _ _ => by
        rw [lease?, lease?, frame.leases]
  | @ended number free outcome =>
      refine owned.keep (inFlight_endLease router number outcome)
        fun position request waiting => ?_
      rw [lease?_endLease, if_neg (ne_of_not_owned free waiting)]
  | @finished number request waiting outcome serial =>
      refine owned.finish waiting ?_ (leases_endLease router request.lease outcome)
      rw [inFlight_endLease]

end Router

/-! Responses may hand out keys, and tell the operator about it. -/

private theorem KeyCarrier.internal_write {carrier : KeyCarrier}
    (known : carrier ∈ builtin) (config : AffinityConfig) (key : String)
    (response : Http.Response) :
    (carrier.write config key response).Internal := by
  simp only [builtin, List.mem_cons, List.not_mem_nil, or_false] at known
  rcases known with rfl | rfl
  · simp only [cookie, writeCookie]
    split
    · exact internal_pure _
    · exact internal_bind (internal_tell _) (internal_pure _)
  · simp only [customHeader, writeHeader]
    split
    · exact internal_bind (internal_tell _) (internal_pure _)
    · split
      · exact internal_pure _
      · exact internal_bind (internal_tell _) (internal_pure _)

private theorem AffinityPolicy.internal_affinitize {protector : Protector}
    {policy : AffinityPolicy} (known : policy ∈ builtin protector) (cluster : String)
    (config : AffinityConfig) (destination : Destination) (status : AffinityStatus)
    (answer : Affinitized) :
    (policy.affinitize cluster config destination status answer).Internal := by
  rcases List.mem_map.1 known with ⟨carrier, listed, rfl⟩
  simp only [ofCarrier, affinitizeWith]
  split
  · exact internal_pure _
  · split
    · exact internal_pure _
    · split
      · rename_i key _
        have issued : Internal (Traced.emit (.issue key) : Effect PUnit) := by
          intro event member
          rw [List.mem_singleton.1 member]
          rfl
        exact internal_bind issued
          (internal_bind (KeyCarrier.internal_write listed _ _ _) (internal_pure _))
      · exact internal_bind (internal_tellOf _ _) (internal_pure _)

namespace Router

variable {source : RandomSource} {protector : Protector} {router : Router}

theorem internal_respond {policies : Policies} {request : InFlight}
    (affinity : policies.affinity.entries = AffinityPolicy.builtin protector)
    (accepted : policies.resolve request.model.config = .ok request.model)
    (result : Except ForwardFault Http.Response) :
    (router.respond request result).Internal := by
  unfold respond
  split
  · unfold affinitize
    split
    · rename_i model status bound _
      have resolved := (Policies.accepts_of_resolve accepted).affinity
      rw [bound] at resolved
      have listed := Policies.mem_affinity_of_resolveAffinity resolved
      rw [affinity] at listed
      refine internal_bind (AffinityPolicy.internal_affinitize listed _ _ _ _ _) ?_
      split
      · exact internal_pure _
      · exact internal_bind (internal_tell _) (internal_pure _)
    · exact internal_pure _
  · exact internal_bind (internal_tellOf _ _) (internal_pure _)
  · exact internal_bind (internal_tell _) (internal_pure _)

private theorem healthOf_respond (router : Router) (request : InFlight)
    (result : Except ForwardFault Http.Response) (ref : ClusterRef) (record : Nat) :
    (router.respond request result).value.1.healthOf ref record =
      router.healthOf ref record := by
  rcases respond_serial router request result with ⟨serial, same⟩
  rw [same]
  rfl

end Router

/-- The builtin policies, but any passive ones. -/
def Policies.reportingTo (source : RandomSource) (protector : Protector)
    (passive : PolicyTable PassivePolicy) : Policies :=
  { builtin source protector with passive }

private theorem Policies.choosing_reportingTo (source : RandomSource)
    (protector : Protector) (passive : PolicyTable PassivePolicy) :
    (reportingTo source protector passive).Choosing :=
  ⟨(choosing_builtin source protector).balancing,
    (choosing_builtin source protector).affinity⟩

namespace Scene

variable {policies : Policies} {scene : Scene}

private theorem router_withRouter (scene : Scene) (change : Effect Router) :
    router <$> scene.withRouter change = change := by
  simp only [withRouter, map_bind, map_pure, bind_pure]

theorem leases_perform (known : Router.Known policies scene.router)
    (choosing : policies.Choosing) {operation : Operation}
    (silent : scene.router.ending? operation = none) :
    ∃ more,
      (scene.perform operation).value.router.leases = scene.router.leases ++ more := by
  rcases begun_or_report known choosing silent with begun | ⟨ref, record, outcome, rfl⟩
  · generalize (scene.perform operation).value.router = next at begun ⊢
    cases begun with
    | moved moves => exact ⟨[], moves.frame.leases.trans (List.append_nil _).symm⟩
    | acquired => exact ⟨_, (Router.acquire_fields scene.router _ _).1⟩
    | @started middle moves request =>
        have grown :=
          (Router.acquire_fields middle request.cluster request.candidate.record).1
        rw [moves.frame.leases] at grown
        exact ⟨_, grown⟩
  · have frame := Router.frame_observe scene.router ref record outcome
    exact ⟨[], frame.leases.trans (List.append_nil _).symm⟩

/-- An operation that ends a lease does so at once; what it does then is neither
heard nor counted. -/
theorem perform_ending {source : RandomSource} {protector : Protector}
    {passive : PolicyTable PassivePolicy}
    (owned : Router.Owned (.reportingTo source protector passive) scene.router)
    {operation : Operation} {number : Nat} {outcome : Outcome}
    (ending : scene.router.ending? operation = some (number, outcome)) :
    ∃ next : Router → Effect Router,
      router <$> scene.perform operation = scene.router.endLease number outcome >>= next ∧
        ∀ ended, (next ended).Internal ∧ (next ended).value.leases = ended.leases ∧
          ∀ ref record,
            (next ended).value.healthOf ref record = ended.healthOf ref record := by
  cases operation with
  | complete number outcome =>
      simp only [Router.ending?] at ending
      split at ending
      · cases ending
      · rename_i free
        cases ending
        refine ⟨pure, ?_, fun ended => ⟨internal_pure _, rfl, fun _ _ => rfl⟩⟩
        simp only [perform, router_withRouter, Router.endHeldLease, if_neg free,
          bind_pure]
  | drop number =>
      simp only [Router.ending?] at ending
      split at ending
      · cases ending
      · rename_i free
        cases ending
        refine ⟨pure, ?_, fun ended => ⟨internal_pure _, rfl, fun _ _ => rfl⟩⟩
        simp only [perform, router_withRouter, Router.endHeldLease, if_neg free,
          bind_pure]
  | abandon position =>
      rcases Option.map_eq_some_iff.1 ending with ⟨request, waiting, same⟩
      cases same
      refine ⟨fun ended =>
        pure { ended with inFlight := ended.inFlight.set position none }, ?_,
        fun ended => ⟨internal_pure _, rfl, fun _ _ => rfl⟩⟩
      simp only [perform, router_withRouter, Router.abandon, waiting]
  | finish position result =>
      rcases Option.map_eq_some_iff.1 ending with ⟨request, waiting, same⟩
      cases same
      refine ⟨fun ended => do
        let answered ←
          Router.respond { ended with inFlight := ended.inFlight.set position none }
            request result
        pure answered.1, ?_, fun ended => ⟨?_, ?_, ?_⟩⟩
      · simp only [perform, router_withRouter, Router.finish, waiting, map_bind, map_pure]
      · have accepted := owned.accepted position request waiting
        exact internal_bind (Router.internal_respond rfl accepted result)
          (internal_pure _)
      · have responded := Router.respond_serial
          { ended with inFlight := ended.inFlight.set position none } request result
        rcases responded with ⟨serial, same⟩
        rw [Traced.value_bind, Traced.value_pure, same]
      · exact Router.healthOf_respond _ request result
  | _ => cases ending

private theorem counted_after (choosing : policies.Choosing) (background : Bool)
    (run : List Operation) (few : ∀ earlier, earlier <:+ run →
      ((fresh policies background).after earlier).router.live < 2 ^ 64) :
    ((fresh policies background).after run).router.Counted := by
  induction run with
  | nil => exact Router.counted_fresh policies background
  | cons operation earlier induction =>
      have before := induction fun first suffix =>
        few first (suffix.trans (List.suffix_cons operation earlier))
      have known := known_after choosing background earlier
      exact before.performed (performed known choosing operation) (few _ List.suffix_rfl)

theorem owned_after (choosing : policies.Choosing) (background : Bool)
    (run : List Operation) :
    Router.Owned policies ((fresh policies background).after run).router := by
  induction run with
  | nil => exact Router.owned_fresh policies background
  | cons operation earlier induction =>
      have known := known_after choosing background earlier
      exact induction.performed (performed known choosing operation)

/-- In every reachable state every counter is the number of live leases that it stands
for, so that no live lease finds a counter at zero. And a lease ends by one operation
only, with one report; what is reported for a request that waited for its backend is told
by what the backend did. -/
theorem lease_accounts_after (source : RandomSource) (protector : Protector)
    (passive : PolicyTable PassivePolicy) (background : Bool) (run : List Operation)
    (few : ∀ earlier, earlier <:+ run →
      Router.live ((fresh (.reportingTo source protector passive)
        background).after earlier).router < 2 ^ 64) :
    let scene := (fresh (.reportingTo source protector passive) background).after run
    let router := scene.router
    (∀ ref cluster, router.cluster? ref = some cluster →
      cluster.requests.toNat = router.liveOn ref ∧
        (∀ record destination, cluster.records[record]? = some destination →
          destination.requests.toNat = router.liveOf ref record) ∧
        cluster.requests.toNat =
          (cluster.records.map (fun destination => destination.requests.toNat)).sum) ∧
    (∀ number lease, router.lease? number = some lease →
      ∃ cluster destination, router.cluster? lease.cluster = some cluster ∧
        cluster.records[lease.record]? = some destination ∧
        cluster.requests ≠ 0 ∧ destination.requests ≠ 0) ∧
    (∀ number request, router.inFlight? number = some request →
      router.lease? request.lease =
          some { cluster := request.cluster, record := request.candidate.record } ∧
        (∀ response,
          router.ending? (.finish number (.ok response)) =
            some (request.lease, .success)) ∧
        (∀ reason, router.ending? (.finish number (.error (.failed reason))) =
          some (request.lease, .backendError)) ∧
        router.ending? (.finish number (.error .timeout)) =
          some (request.lease, .timeout) ∧
        router.ending? (.finish number (.error .canceled)) =
          some (request.lease, .canceled) ∧
        router.ending? (.abandon number) = some (request.lease, .canceled)) ∧
    (∀ operation, router.ending? operation = none →
      ∀ number, number < router.leases.length →
        (scene.perform operation).value.router.lease? number = router.lease? number) ∧
    ∀ operation ended outcome, router.ending? operation = some (ended, outcome) →
      let performed := Scene.router <$> scene.perform operation
      (∀ number, performed.value.lease? number =
        if number = ended then none else router.lease? number) ∧
      (∀ lease, router.lease? ended = some lease →
        router.Reports lease outcome performed) ∧
      (router.lease? ended = none → performed.Internal) := by
  intro scene router
  have choosing := Policies.choosing_reportingTo source protector passive
  have known : Router.Known (.reportingTo source protector passive) router :=
    known_after choosing background run
  have counted : router.Counted := counted_after choosing background run few
  have owned : Router.Owned (.reportingTo source protector passive) router :=
    owned_after choosing background run
  refine ⟨fun ref cluster present => ⟨?_, fun record destination stored => ?_, ?_⟩, ?_,
    fun number request waiting => ?_, fun operation silent => ?_,
    fun operation ended outcome ending => ?_⟩
  · have total := counted.cluster ref
    rwa [Router.requestsOn_of_cluster? present] at total
  · have total := counted.record ref record
    rwa [Router.requestsOf_of_cluster? present, Cluster.requestsOf,
      Destination.requestsAt_of_getElem? stored] at total
  · exact counted.sum present
  · exact fun number lease held => counted.held held
  · have ends : ∀ outcome : Outcome, (router.inFlight? number).map
        (fun request => (request.lease, outcome)) = some (request.lease, outcome) := by
      intro outcome
      rw [waiting, Option.map_some]
    exact ⟨owned.held number request waiting, fun _ => ends .success,
      fun _ => ends .backendError, ends .timeout, ends .canceled, ends .canceled⟩
  · rcases leases_perform known choosing silent with ⟨more, grown⟩
    exact fun number taken => Router.lease?_append grown taken
  · intro performed
    rcases perform_ending owned ending with ⟨next, same, silent⟩
    rcases silent (router.endLease ended outcome).value with ⟨internal, leases, health⟩
    have shape : performed = router.endLease ended outcome >>= next := same
    refine ⟨fun number => ?_, fun lease held => ?_, fun dead => ?_⟩
    · rw [shape, Traced.value_bind, Router.lease?, leases]
      exact Router.lease?_endLease router ended number outcome
    · rcases counted.held held with ⟨cluster, destination, present, stored, -⟩
      have accepted :=
        (Policies.accepts_of_resolve (known.models _ _ present)).availability
      rw [shape]
      exact (Router.reports_endLease held present stored
        (PolicyTable.mem_of_resolve accepted) outcome).bind internal health
    · rw [shape]
      refine internal_bind ?_ internal
      rw [Router.endLease_of_ended dead]
      exact internal_pure _

def leasedRun : List Operation :=
  [.acquire sampleRef 0, .acquire sampleRef 0, .configure sampleConfig]

theorem lease_accounts_after_acquiring :
    (sample.after leasedRun).router.live = 2 ∧
      (∃ cluster, (sample.after leasedRun).router.cluster? sampleRef = some cluster ∧
        cluster.requests.toNat = 2) ∧
      (sample.after leasedRun).router.Reports
        { cluster := sampleRef, record := 0 } .canceled
        (Scene.router <$> (sample.after leasedRun).perform (.drop 0)) := by
  have few : ∀ earlier ∈ leasedRun.tails,
      (sample.after earlier).router.live < 2 ^ 64 := by
    decide +kernel
  have accounts := lease_accounts_after _ _ _ true leasedRun
    fun earlier suffix => few earlier ((List.mem_tails ..).2 suffix)
  rcases accounts with ⟨-, -, -, -, endings⟩
  have alive : (sample.after leasedRun).router.live = 2 := by decide +kernel
  have counter : ((sample.after leasedRun).router.cluster? sampleRef).map
      (fun cluster => cluster.requests.toNat) = some 2 := by decide +kernel
  rcases Option.map_eq_some_iff.1 counter with ⟨cluster, present, total⟩
  have ending :
      (sample.after leasedRun).router.ending? (.drop 0) = some (0, .canceled) := by
    decide +kernel
  have held : (sample.after leasedRun).router.lease? 0 =
      some { cluster := sampleRef, record := 0 } := by decide +kernel
  exact ⟨alive, ⟨cluster, present, total⟩,
    (endings (.drop 0) 0 .canceled ending).2.1 _ held⟩

end Scene

end Gateway
