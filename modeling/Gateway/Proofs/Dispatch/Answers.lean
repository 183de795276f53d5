import Gateway.Proofs.Dispatch.Choosing
import Gateway.Proofs.Dispatch.Waiting

namespace Gateway

open Effect

/-! What becomes of a request, from the pick to the answer that its client gets. The
backend is asked once, after the pick; all else that a request does reaches only the
operator and the client. -/

private theorem AffinityPolicy.internal_find {protector : Protector}
    {policy : AffinityPolicy} (known : policy ∈ builtin protector) (cluster : String)
    (config : AffinityConfig) (request : Http.Request) (candidates : List Candidate) :
    (policy.find cluster config request candidates).Internal := by
  rcases List.mem_map.1 known with ⟨carrier, -, rfl⟩
  simp only [ofCarrier, findWith]
  split
  · exact internal_pure _
  · split
    · exact internal_pure _
    · split
      · rw [map_eq_pure_bind]
        refine internal_bind ?_ (internal_pure _)
        unfold findKey
        split
        · exact internal_bind (internal_tellOf _ _) (internal_pure _)
        · split
          · exact internal_pure _
          · exact internal_bind (internal_tellOf _ _) (internal_pure _)
      · exact internal_bind (internal_tellOf _ _) (internal_pure _)

private theorem FailurePolicy.internal_handle {policy : FailurePolicy}
    (known : policy ∈ builtin) (cluster : String) (status : AffinityStatus) :
    (policy.handle cluster status).Internal := by
  simp only [builtin, List.mem_cons, List.not_mem_nil, or_false] at known
  rcases known with rfl | rfl
  · simp only [redistribute]
    split
    · exact internal_bind (internal_tellOf _ _) (internal_pure _)
    · exact internal_pure _
  · simp only [refuse]
    split <;> exact internal_pure _

theorem PassivePolicy.internal_observe {policy : PassivePolicy} (known : policy ∈ builtin)
    (config : ClusterConfig) (now : Nat) (destination : Destination) (outcome : Outcome) :
    (policy.observe config now destination outcome).Internal := by
  have read : ∀ {α : Type} (key : String) (read : String → Option α) (default : α),
      (config.metadataValue key read default).Internal := by
    intro α key read default
    unfold ClusterConfig.metadataValue
    split
    · exact internal_pure _
    · split
      · exact internal_pure _
      · exact internal_bind (internal_tellOf _ _) (internal_pure _)
  have sampled : ∀ failed, (sample config now destination.health failed).Internal := by
    intro failed
    refine internal_bind ?_ (internal_pure _)
    exact internal_bind (read _ _ _)
      (internal_bind (read _ _ _) (internal_bind (read _ _ _) (internal_pure _)))
  rw [List.mem_singleton.1 known]
  cases outcome with
  | canceled => exact internal_pure _
  | success => exact sampled false
  | backendError | timeout => exact sampled true

namespace Cluster

variable {source : RandomSource} {protector : Protector} {cluster : Cluster}
  {model : ClusterModel}

theorem internal_select (builtin : model.Builtin source protector) (cluster : Cluster)
    (request : Http.Request) : (cluster.select model request).Internal := by
  unfold select
  split
  · exact internal_pure _
  · rename_i affinity bound
    rcases builtin.affinity affinity bound with ⟨-, ⟨carrier, known, travels⟩, handling⟩
    have listed : affinity.policy ∈ AffinityPolicy.builtin protector := by
      rw [travels]
      exact List.mem_map_of_mem known
    refine internal_bind (AffinityPolicy.internal_find listed _ _ _ _) ?_
    split
    · exact internal_pure _
    · split
      · exact internal_pure _
      · refine internal_bind (FailurePolicy.internal_handle handling _ _) ?_
        split <;> exact internal_pure _

theorem internal_pick (builtin : model.Builtin source protector) (cluster : Cluster)
    (request : Http.Request) (turn : Turn) :
    (cluster.pick model request turn).Internal := by
  refine internal_bind (internal_select builtin cluster request) ?_
  split
  · exact internal_pure _
  · dsimp only
    split
    · exact internal_bind (internal_tellOf _ _) (internal_pure _)
    · exact internal_bind (internal_tellOf _ _) (internal_pure _)

theorem internal_observe
    (available : cluster.model.availability ∈ AvailabilityPolicy.builtin)
    (regular : ∀ policy, cluster.model.passive = some policy →
      policy ∈ PassivePolicy.builtin) (now record : Nat) (outcome : Outcome) :
      (cluster.observe now record outcome).Internal := by
  unfold observe
  split
  · rename_i policy destination heard _
    refine internal_bind (PassivePolicy.internal_observe (regular policy heard) _ _ _ _)
      ?_
    split
    · exact internal_pure _
    · exact internal_announcePassive (cluster.setHealth record _) available _ _ _
  · exact internal_pure _

end Cluster

namespace Router

variable {source : RandomSource} {protector : Protector} {router : Router}

theorem internal_pick {model : ClusterModel} (builtin : model.Builtin source protector)
    (router : Router) (ref : ClusterRef) (cluster : Cluster) (request : Http.Request) :
    (router.pick ref model cluster request).Internal :=
  internal_bind (Cluster.internal_pick builtin cluster request _) (internal_pure _)

theorem internal_observe (known : Known (.builtin source protector) router)
    (ref : ClusterRef) (record : Nat) (outcome : Outcome) :
    (router.observe ref record outcome).Internal := by
  have heard : (router.withCluster ref none
      (fun cluster => cluster.observe router.now record outcome)).Internal := by
    unfold withCluster
    split
    · exact internal_pure _
    · rename_i cluster present
      have accepted := known.models ref cluster present
      exact internal_bind
        (Cluster.internal_observe (Policies.availability_mem_builtin accepted)
          (Policies.passive_mem_builtin accepted) _ _ _)
        (internal_pure _)
  refine internal_bind heard ?_
  dsimp only
  split
  · exact internal_pure _
  · exact internal_scheduleReactivation _ _ _

theorem internal_endLease (known : Known (.builtin source protector) router)
    (number : Nat) (outcome : Outcome) : (router.endLease number outcome).Internal := by
  unfold endLease
  split
  · exact internal_pure _
  · exact internal_bind (internal_observe known _ _ _) (internal_pure _)

theorem internal_finish (known : Known (.builtin source protector) router)
    (owned : Owned (.builtin source protector) router) (number : Nat)
    (result : Except ForwardFault Http.Response) :
    (router.finish number result).Internal := by
  unfold finish
  split
  · exact internal_pure _
  · rename_i request waiting
    have accepted := owned.accepted number request waiting
    exact internal_bind (internal_endLease known _ _)
      (internal_bind (internal_respond rfl accepted result) (internal_pure _))

end Router

/-- What a carrier makes of a response that is to bring a key to the client: it sets one
header field, or none if the key cannot stand there. -/
inductive KeyCarrier.Writes (config : AffinityConfig) (key : String)
    (response : Http.Response) :
    KeyCarrier → Http.Response → Prop
  | cookie {value : Bytes}
      (writable :
        Http.Header.value? (Http.Cookie.render config.cookie config.keyName key) =
          some value) :
      Writes config key response cookie
        { response with headers := response.headers.append "set-cookie" value }
  | noCookie
      (unwritable :
        Http.Header.value? (Http.Cookie.render config.cookie config.keyName key) = none) :
      Writes config key response cookie response
  | header {name : String} {value : Bytes}
      (named : Http.Header.name? config.keyName = some name)
      (writable : Http.Header.value? key = some value) :
      Writes config key response customHeader
        { response with headers := response.headers.replace name value }
  | noHeader
      (unwritable :
        Http.Header.name? config.keyName = none ∨ Http.Header.value? key = none) :
      Writes config key response customHeader response

private theorem KeyCarrier.writes_write {carrier : KeyCarrier} (known : carrier ∈ builtin)
    (config : AffinityConfig) (key : String) (response : Http.Response) :
    Writes config key response carrier (carrier.write config key response).value := by
  simp only [builtin, List.mem_cons, List.not_mem_nil, or_false] at known
  rcases known with rfl | rfl
  · change Writes config key response KeyCarrier.cookie
      (writeCookie config key response).value
    unfold writeCookie
    split
    · rename_i value writable
      exact .cookie writable
    · rename_i unwritable
      exact .noCookie unwritable
  · change Writes config key response KeyCarrier.customHeader
      (writeHeader config key response).value
    unfold writeHeader
    split
    · rename_i unnamed
      exact .noHeader (.inl unnamed)
    · rename_i name named
      split
      · rename_i value writable
        exact .header named writable
      · rename_i unwritable
        exact .noHeader (.inr unwritable)

theorem KeyCarrier.Writes.mem_builtin {config : AffinityConfig} {key : String}
    {response answer : Http.Response} {carrier : KeyCarrier}
    (writes : carrier.Writes config key response answer) : carrier ∈ builtin := by
  cases writes <;> simp [builtin]

/-- The answer that a client gets for every result of the backend. The gateway answers for
a backend that gives no response, with a status and nothing else. A response is passed on
as it is, but for the key that it brings to a client of a session that has none. There is
no other answer. -/
inductive Answers (protector : Protector) (serial : Nat) (model : ClusterModel)
    (picked : Picked) : Except ForwardFault Http.Response → Http.Response → Prop
  | timedOut :
      Answers protector serial model picked (.error .timeout)
        { status := 504, headers := { fields := [] }, body := "" }
  | failed {fault : ForwardFault} (untimely : fault ≠ .timeout) :
      Answers protector serial model picked (.error fault)
        { status := 502, headers := { fields := [] }, body := "" }
  | unbound {response : Http.Response} (unbound : model.affinity = none) :
      Answers protector serial model picked (.ok response) response
  | led {response : Http.Response} (led : picked.status = some .found) :
      Answers protector serial model picked (.ok response) response
  | unprotected {affinity : AffinityModel} {response : Http.Response}
      {fault : ProtectionFault}
      (bound : model.affinity = some affinity) (unled : picked.status ≠ some .found)
      (failed : protector.protectKey serial picked.candidate.id = .error fault) :
      Answers protector serial model picked (.ok response) response
  | keyed {affinity : AffinityModel} {carrier : KeyCarrier}
      {response answer : Http.Response}
      {key : String} (bound : model.affinity = some affinity)
      (unled : picked.status ≠ some .found)
      (travels : affinity.policy = .ofCarrier protector carrier)
      (protects : protector.protectKey serial picked.candidate.id = .ok key)
      (writes : carrier.Writes affinity.config key response answer) :
      Answers protector serial model picked (.ok response) answer

namespace Router

variable {source : RandomSource} {protector : Protector} {router : Router}

private theorem answers_affinitize {request : InFlight}
    (builtin : request.model.Builtin source protector)
    (sought : request.status.isSome = request.model.affinity.isSome)
    (response : Http.Response) :
    Answers protector router.serial request.model ⟨request.candidate, request.status⟩
      (.ok response) (router.affinitize request response).value.2 := by
  unfold affinitize
  split
  · rename_i affinity status bound seen
    rcases builtin.affinity affinity bound with ⟨enabled, ⟨carrier, known, travels⟩, -⟩
    simp only [travels, AffinityPolicy.ofCarrier, AffinityPolicy.affinitizeWith, enabled,
      Bool.not_true, Bool.false_eq_true, if_false]
    by_cases led : status = .found
    · rw [if_pos led]
      exact .led (seen.trans (congrArg some led))
    · rw [if_neg led]
      have unled : request.status ≠ some .found := fun same =>
        led (Option.some.inj (seen.symm.trans same))
      split
      · rename_i key protects
        exact .keyed bound unled travels protects (KeyCarrier.writes_write known _ _ _)
      · rename_i fault failed
        exact .unprotected bound unled failed
  · rename_i neither
    cases bound : request.model.affinity with
    | none => exact .unbound bound
    | some affinity =>
        rw [bound] at sought
        rcases Option.isSome_iff_exists.1 sought with ⟨status, seen⟩
        exact absurd seen (neither affinity status bound)

private theorem answers_respond (router : Router) (request : InFlight)
    (builtin : request.model.Builtin source protector)
    (sought : request.status.isSome = request.model.affinity.isSome)
    (result : Except ForwardFault Http.Response) :
    Answers protector router.serial request.model ⟨request.candidate,
      request.status⟩ result
      (router.respond request result).value.2 := by
  unfold respond
  split
  · exact answers_affinitize builtin sought _
  · exact .timedOut
  · rename_i fault untimely
    exact .failed untimely

theorem serial_endLease (router : Router) (number : Nat) (outcome : Outcome) :
    (router.endLease number outcome).value.serial = router.serial := by
  cases held : router.lease? number with
  | none => rw [endLease_of_ended held, Traced.value_pure]
  | some lease =>
      rcases mapCluster_fields (router.observe lease.cluster lease.record outcome).value
        lease.cluster (fun cluster =>
          (cluster.modifyRecord lease.record
            Destination.decrement).decrementRequests) with
        ⟨clusters, released⟩
      have same : (router.observe lease.cluster lease.record outcome).value.serial =
          router.serial := by
        rcases (heard_observe router lease.cluster lease.record outcome).cases with
          ⟨-, same⟩ | ⟨cluster, agenda, -, same⟩
        · rw [same]
        · rw [same]
          rfl
      rw [value_endLease held, release, released]
      exact same

private theorem answers_finish {number : Nat} {ref : ClusterRef} {model : ClusterModel}
    {picked : Picked} (waits : router.Waits number ref model picked)
    (builtin : model.Builtin source protector)
    (sought : picked.status.isSome = model.affinity.isSome)
    (result : Except ForwardFault Http.Response) :
    ∃ answer, (router.finish number result).value.2 = some answer ∧
      Answers protector router.serial model picked result answer := by
  rcases waits with ⟨lease, backend, waiting⟩
  let request : InFlight :=
    { cluster := ref, model, candidate := picked.candidate,
      status := picked.status, lease, backend }
  let ended : Router :=
    { (router.endLease lease (.ofResult result)).value with
      inFlight :=
        (router.endLease lease (.ofResult result)).value.inFlight.set number none }
  have answers := answers_respond ended request builtin sought result
  have handedOut : ended.serial = router.serial :=
    serial_endLease router lease (.ofResult result)
  rw [handedOut] at answers
  simp only [finish, waiting, Traced.value_bind, Traced.value_pure]
  exact ⟨_, rfl, answers⟩

/-! The start of a request. -/

section Start

variable {ref : ClusterRef} {cluster : Cluster} {request : Http.Request}
  (present : router.cluster? ref = some cluster)

include present

theorem value_pick_of_still {model : ClusterModel}
    (still : (cluster.pick model request
      { cursor := cluster.cursor, draws := router.draws }).value.2 =
        { cursor := cluster.cursor, draws := router.draws }) :
    (router.pick ref model cluster request).value.1 = router := by
  have unchanged := congrArg Prod.fst (value_pick router ref model cluster request)
  rw [still] at unchanged
  exact unchanged.trans (setCluster_self present)

private theorem start_refused {response : Http.Response} {fault : RoutingFault}
    (refused : (router.pick ref cluster.model cluster request).value =
      (router, .error (.routing fault response))) :
    (router.start ref request).value = (router, some (.answered response)) := by
  simp only [start, present, Traced.value_bind, refused]
  rfl

private theorem internal_start_refused {response : Http.Response} {fault : RoutingFault}
    (builtin : cluster.model.Builtin source protector)
    (refused : (router.pick ref cluster.model cluster request).value =
      (router, .error (.routing fault response))) :
      (router.start ref request).Internal := by
  simp only [start, present]
  refine internal_bind (internal_pick builtin router ref cluster request) ?_
  simp only [refused]
  exact internal_bind (internal_pure _) (internal_pure _)

theorem start_picked {picked : Picked} {next : Router}
    (chosen : (router.pick ref cluster.model cluster request).value =
      (next, .ok picked)) :
    let address := picked.candidate.destination.config.address
    let uri :=
      (Http.Backend.request address request).toOption.map (fun sent => sent.uri.render)
    let number := router.inFlight.length
    (router.start ref request).value.2 = some (.waiting number) ∧
      (router.start ref request).value.1.Waits number ref cluster.model picked ∧
      (router.start ref request).events =
        (router.pick ref cluster.model cluster request).events ++
          [.forward address uri cluster.model.config.forwarding.activityTimeout
            request.client] := by
  intro address uri number
  have kept : next.inFlight = router.inFlight :=
    congrArg (fun result => result.1.inFlight) chosen.symm
  have waiting :
      (next.acquire ref picked.candidate.record).1.inFlight = router.inFlight :=
    (acquire_fields next ref picked.candidate.record).2.trans kept
  simp only [start, present, Traced.value_bind, Traced.events_bind, chosen, forward,
    Traced.value_pure, Traced.events_pure, Traced.events_emit, List.append_nil]
  refine ⟨?_, ⟨(next.acquire ref picked.candidate.record).2,
    Http.Backend.request address request, ?_⟩, ?_⟩
  · rw [waiting]
  · simp only [inFlight?, waiting, number, address, List.getElem?_concat_length,
      Option.join_some]
  · simp only [uri]
    cases Http.Backend.request address request <;> rfl

end Start

end Router

namespace Scene

/-- A request that was started is answered under the model and with the destination that
it was started with, whatever happens until the backend is done. -/
theorem answers_after {source : RandomSource} {protector : Protector} {background : Bool}
    {earlier : List Operation} {ref : ClusterRef} {cluster : Cluster}
    (present :
      ((fresh (.builtin source protector) background).after earlier).router.cluster? ref =
        some cluster) {request : Http.Request} {picked : Picked} {next : Router}
    (chosen :
      (((fresh (.builtin source protector) background).after earlier).router.pick ref
        cluster.model cluster request).value = (next, .ok picked))
    (sought : picked.status.isSome = cluster.model.affinity.isSome)
    (between : List Operation)
    (unsettled : ∀ operation ∈ between, ¬ Operation.Settles
      ((fresh (.builtin source protector) background).after
        earlier).router.inFlight.length operation)
    (result : Except ForwardFault Http.Response) :
    let origin := fresh (.builtin source protector) background
    let number := (origin.after earlier).router.inFlight.length
    let later := (origin.after (between ++ .start ref request :: earlier)).router
    ∃ answer, (later.finish number result).value.2 = some answer ∧
      Answers protector later.serial cluster.model picked result answer := by
  have choosing := Policies.choosing_builtin source protector
  have waits : ((fresh (.builtin source protector) background).after
      (.start ref request :: earlier)).router.Waits _ ref cluster.model picked :=
    (Router.start_picked present chosen).2.1
  exact Router.answers_finish (waits_after choosing waits between unsettled)
    (builtin_after present) sought result

/-- What becomes of a request in every reachable state. If no destination can be picked,
the client is told that the service is unavailable, the backend is not asked, and nothing
has changed. Otherwise the backend is asked once: at the address of the destination, with
the time limit of the model that is in force. Whatever happens until the backend is done,
the client gets its answer, under that model. -/
theorem dispatch_answers (source : RandomSource) (protector : Protector)
    (bounded : source.Bounded) (background : Bool) (earlier : List Operation)
    (ref : ClusterRef) (cluster : Cluster)
    (present :
      ((fresh (.builtin source protector) background).after earlier).router.cluster? ref =
        some cluster)
    (request : Http.Request) :
    let router := ((fresh (.builtin source protector) background).after earlier).router
    let choice := (router.pick ref cluster.model cluster request).value.2
    let started := router.start ref request
    let unavailable : Http.Response :=
      { status := 503, headers := { fields := [] }, body := "" }
    (∀ fault, choice = .error fault →
      (∃ routing, fault = .routing routing unavailable) ∧
        started.value = (router, some (.answered unavailable)) ∧ started.Internal) ∧
    ∀ picked, choice = .ok picked →
      let address := picked.candidate.destination.config.address
      let uri :=
        (Http.Backend.request address request).toOption.map (fun sent => sent.uri.render)
      let number := router.inFlight.length
      started.value.2 = some (.waiting number) ∧
      (∃ before, started.events = before ++
          [.forward address uri cluster.model.config.forwarding.activityTimeout
            request.client] ∧
        ∀ event ∈ before, event.isInternal = true) ∧
      ∀ between, (∀ operation ∈ between, ¬ Operation.Settles number operation) →
        let later := ((fresh (.builtin source protector) background).after
          (between ++ .start ref request :: earlier)).router
        ∀ result,
          (later.finish number result).Internal ∧
          ∃ answer, (later.finish number result).value.2 = some answer ∧
            Answers protector later.serial cluster.model picked result answer := by
  intro router choice started unavailable
  have choosing := Policies.choosing_builtin source protector
  have builtin := builtin_after present
  let turn : Turn := { cursor := cluster.cursor, draws := router.draws }
  have chosen : Cluster.Choice source protector cluster cluster.model request turn
      (choice, (cluster.pick cluster.model request turn).value.2) :=
    Cluster.choice_pick builtin bounded cluster request turn
  refine ⟨fun fault failed => ?_, fun picked succeeded => ?_⟩
  · rw [failed] at chosen
    rcases chosen.of_error with ⟨still, routing, same, -⟩
    have refused : (router.pick ref cluster.model cluster request).value =
        (router, .error (.routing routing unavailable)) :=
      Prod.ext (Router.value_pick_of_still present still) (failed.trans (congrArg _ same))
    exact ⟨⟨routing, same⟩, Router.start_refused present refused,
      Router.internal_start_refused present builtin refused⟩
  · intro address uri number
    rw [succeeded] at chosen
    have outcome : (router.pick ref cluster.model cluster request).value =
        ((router.pick ref cluster.model cluster request).value.1, .ok picked) :=
      Prod.ext rfl succeeded
    rcases Router.start_picked present outcome with ⟨waiting, -, events⟩
    refine ⟨waiting, ⟨_, events, Router.internal_pick builtin router ref cluster request⟩,
      ?_⟩
    intro between unsettled later result
    constructor
    · exact Router.internal_finish (known_after choosing background _)
        (owned_after choosing background _) number result
    · exact answers_after present outcome chosen.isSome_status between unsettled result

/-- A client without a key gets one even if the cluster is gone by then. -/
theorem dispatch_answers_after_removal :
    let begun := sessionSample.after [.configure sessionConfig]
    let later := sessionSample.after
      [.remove "cluster", .start sampleRef {}, .configure sessionConfig]
    ∃ cluster picked answer, begun.router.cluster? sampleRef = some cluster ∧
      (begun.router.pick sampleRef cluster.model cluster {}).value.2 = .ok picked ∧
      (later.router.finish 0 (.ok {})).value.2 = some answer ∧
      Answers Rehearsal.identityProtector later.router.serial cluster.model picked
        (.ok {}) answer ∧
      answer.headers.values "x-session" = [Text.bytes "YQ"] := by
  intro begun later
  have picks : (begun.router.cluster? sampleRef).map (fun cluster =>
      (begun.router.pick sampleRef cluster.model cluster {}).value.2.toOption.isSome) =
        some true := by
    decide +kernel
  rcases Option.map_eq_some_iff.1 picks with ⟨cluster, present, picked⟩
  have issued : (later.router.finish 0 (.ok {})).value.2.map (fun answer =>
      answer.headers.values "x-session") = some [Text.bytes "YQ"] := by
    decide +kernel
  cases choice : (begun.router.pick sampleRef cluster.model cluster {}).value.2 with
  | error fault =>
      rw [choice] at picked
      cases picked
  | ok picked =>
      have answers := dispatch_answers _ _ (RandomSource.bounded_ofSequence []) true
        [.configure sessionConfig] sampleRef cluster present {}
      rcases answers.2 picked choice with ⟨-, -, finished⟩
      have unsettled : ∀ operation ∈ [Operation.remove "cluster"],
          ¬ Operation.Settles 0 operation := by
        intro operation member
        rw [List.mem_singleton.1 member]
        exact id
      rcases (finished [.remove "cluster"] unsettled (.ok {})).2 with
        ⟨answer, given, answers⟩
      refine ⟨cluster, picked, answer, present, choice, given, answers, ?_⟩
      have headers : (some answer).map (fun answer => answer.headers.values "x-session") =
          some [Text.bytes "YQ"] := given ▸ issued
      exact Option.some.inj headers

end Scene

end Gateway
