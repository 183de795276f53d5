import Gateway.Proofs.Sessions.Carriers

namespace Gateway

/-! A session sticks to the destination that served its first request: the key that the
client is given there leads it back, through every change but one of the settings of the
session or the loss of the destination. -/

namespace Router

/-- The key of a request leads it to a candidate, and that alone: no load balancer has a
say, no position or random number is used up, and nothing in the gateway is changed. -/
structure Led (router : Router) (ref : ClusterRef) (cluster : Cluster)
    (request : Http.Request) (candidate : Candidate) : Prop where
  mem : candidate ∈ cluster.candidates cluster.available
  unbalanced : ∀ balancer turn,
    (cluster.pick { cluster.model with loadBalancing := balancer } request turn).value =
      (.ok { candidate, status := some .found }, turn)
  still : (router.pick ref cluster.model cluster request).value =
    (router, .ok { candidate, status := some .found })

private theorem led_of_leads {router : Router} {ref : ClusterRef} {cluster : Cluster}
    (present : router.cluster? ref = some cluster) {affinity : AffinityModel}
    (bound : cluster.model.affinity = some affinity)
    (enabled : affinity.config.enabled = true) {protector : Protector}
    {carrier : KeyCarrier} (travels : affinity.policy = .ofCarrier protector carrier)
    {request : Http.Request} {encoded : String}
    (keyed : carrier.key? affinity.config request = some encoded)
    {candidate : Candidate}
    (leads : protector.Leads (cluster.candidates cluster.available) encoded candidate) :
    router.Led ref cluster request candidate where
  mem := leads.mem
  unbalanced balancer turn :=
    let model : ClusterModel := { cluster.model with loadBalancing := balancer }
    have bound : model.affinity = some affinity := bound
    Cluster.pick_led bound enabled travels keyed leads turn
  still := by
    have picked := Cluster.pick_led bound enabled travels keyed leads
      { cursor := cluster.cursor, draws := router.draws }
    exact Prod.ext (value_pick_of_still present (congrArg Prod.snd picked))
      (congrArg Prod.fst picked)

end Router

namespace Scene

/-- A key returns to the destination of an id. In every state that can be reached,
before or after, with these settings of the session and with the id among the available
ones, every request that carries the key is led there, and its response is passed on as
it is. -/
def Returns (origin : Scene) (config : AffinityConfig) (carrier : KeyCarrier)
    (key id : String) : Prop :=
  ∀ run ref cluster, (origin.after run).router.cluster? ref = some cluster →
    cluster.model.config.affinity = some config →
    (∃ candidate ∈ cluster.candidates cluster.available, candidate.id = id) →
    ∀ request, carrier.Carries config key request →
      let router := (origin.after run).router
      let number := router.inFlight.length
      (∃ candidate, candidate.id = id ∧ router.Led ref cluster request candidate) ∧
      (router.start ref request).value.2 = some (.waiting number) ∧
      ∀ between, (∀ operation ∈ between, ¬ Operation.Settles number operation) →
        ∀ response,
          ((origin.after (between ++ .start ref request :: run)).router.finish number
            (.ok response)).value.2 = some response

section Session

variable {source : RandomSource} {protector : Protector} {background : Bool}
  {run : List Operation} {ref : ClusterRef} {cluster : Cluster} {request : Http.Request}
  (present :
    ((fresh (.builtin source protector) background).after run).router.cluster? ref =
      some cluster)

include present

/-- A request that is led by its key gets no other one. -/
theorem answer_of_led {affinity : AffinityModel}
    (bound : cluster.model.affinity = some affinity)
    {candidate : Candidate}
    (led :
      ((fresh (.builtin source protector) background).after run).router.Led ref cluster
        request candidate)
    (between : List Operation)
    (unsettled : ∀ operation ∈ between, ¬ Operation.Settles
      ((fresh (.builtin source protector) background).after run).router.inFlight.length
        operation)
    (response : Http.Response) :
    (((fresh (.builtin source protector) background).after
      (between ++ .start ref request :: run)).router.finish
        ((fresh (.builtin source protector) background).after run).router.inFlight.length
        (.ok response)).value.2 = some response := by
  have sought : (some AffinityStatus.found).isSome = cluster.model.affinity.isSome :=
    (congrArg Option.isSome bound).symm
  rcases answers_after present led.still sought between unsettled (.ok response) with
    ⟨answer, given, answers⟩
  rw [given]
  cases answers with
  | unbound => rfl
  | led => rfl
  | unprotected _ unled => exact absurd rfl unled
  | keyed _ unled => exact absurd rfl unled

/-- What holds of the key of one cluster holds of it wherever a cluster has the same
settings. -/
theorem returns_of_unprotect {affinity : AffinityModel}
    (bound : cluster.model.affinity = some affinity) {carrier : KeyCarrier}
    (travels : affinity.policy = .ofCarrier protector carrier) {content : Bytes}
    {id : String} (filled : content ≠ [])
    (restores : protector.unprotect content = .ok (Text.bytes id)) :
    (fresh (.builtin source protector) background).Returns affinity.config carrier
      (Protector.keyText content) id := by
  intro later other found there same available request carries router number
  have settled := Policies.settled_of_bound (accepted_after present) bound
  have foundBound : found.model.affinity = some affinity :=
    (Policies.affinity_of_same (accepted_after present) (accepted_after there)
      (same.trans settled.settings.symm)).trans bound
  have keyed := KeyCarrier.key?_of_carries settled.keyName filled carries
  have named : ((found.candidates found.available).find?
      (fun candidate => candidate.id == id)).isSome := by
    rcases available with ⟨candidate, member, same⟩
    exact List.find?_isSome.2 ⟨candidate, member, beq_iff_eq.2 same⟩
  rcases Option.isSome_iff_exists.1 named with ⟨candidate, first⟩
  have led : router.Led other found request candidate :=
    Router.led_of_leads there foundBound settled.enabled travels keyed
      ⟨id, Protector.recoverKey_keyText restores, first⟩
  have hit := List.find?_some first
  exact ⟨⟨candidate, beq_iff_eq.1 hit, led⟩,
    (Router.start_picked there led.still).1, answer_of_led there foundBound led⟩

end Session

/-- A session sticks. A request without a key that leads anywhere was served by some
destination, whatever happened until its backend was done. Then the response brings a key
to the client, and the key returns to the id of this destination. Of the protector it is
only assumed that it restores this id, and of a cookie that its path and domain are
plain. -/
theorem session_sticks_after (source : RandomSource) (protector : Protector)
    (background : Bool) (earlier : List Operation) (ref : ClusterRef) (cluster : Cluster)
    (present :
      ((fresh (.builtin source protector) background).after earlier).router.cluster? ref =
        some cluster)
    (affinity : AffinityModel) (bound : cluster.model.affinity = some affinity)
    (plain : affinity.policy.name = "Cookie" → Http.Cookie.Plain affinity.config.cookie)
    (request : Http.Request)
    (unled : ∀ candidate, ¬ cluster.LeadsTo protector cluster.model request candidate)
    (picked : Picked)
    (served :
      (((fresh (.builtin source protector) background).after earlier).router.pick ref
        cluster.model cluster request).value.2 = .ok picked)
    (restores : protector.Restores picked.candidate.id) (between : List Operation)
    (unsettled : ∀ operation ∈ between, ¬ Operation.Settles
      ((fresh (.builtin source protector) background).after
        earlier).router.inFlight.length operation)
    (response : Http.Response) :
    let origin := fresh (.builtin source protector) background
    let number := (origin.after earlier).router.inFlight.length
    let later := (origin.after (between ++ .start ref request :: earlier)).router
    ∃ carrier answer key, carrier ∈ KeyCarrier.builtin ∧
      affinity.policy = .ofCarrier protector carrier ∧
      (later.finish number (.ok response)).value.2 = some answer ∧
      carrier.Brings affinity.config key answer ∧
      origin.Returns affinity.config carrier key picked.candidate.id := by
  intro origin number later
  have settled := Policies.settled_of_bound (accepted_after present) bound
  have chosen : (cluster.pick cluster.model request
      { cursor := cluster.cursor, draws := (origin.after earlier).router.draws }).value =
        (.ok picked, _) := Prod.ext served rfl
  rcases Cluster.unled_of_pick (builtin_after present) chosen unled with ⟨unfound, sought⟩
  have outcome :
      ((origin.after earlier).router.pick ref cluster.model cluster request).value =
      (_, .ok picked) := Prod.ext rfl served
  rcases answers_after present outcome sought between unsettled (.ok response) with
    ⟨answer, given, answers⟩
  rcases restores later.serial with ⟨content, filled, protects, unprotects⟩
  have issued := Protector.protectKey_of_protect protects
  cases answers with
  | unbound unbound => exact nomatch bound.symm.trans unbound
  | led found => exact absurd found unfound
  | unprotected _ _ failed => exact nomatch issued.symm.trans failed
  | @keyed other carrier _ _ key otherBound _ travels protects writes =>
      have same : other = affinity := Option.some.inj (otherBound.symm.trans bound)
      subst same
      have text : key = Protector.keyText content :=
        Except.ok.inj (protects.symm.trans issued)
      subst text
      have plain : carrier = .cookie → Http.Cookie.Plain other.config.cookie := by
        rintro rfl
        exact plain (congrArg AffinityPolicy.name travels)
      exact ⟨carrier, answer, _, writes.mem_builtin, travels, given,
        KeyCarrier.brings_of_writes settled.keyName plain writes,
        returns_of_unprotect present bound travels filled unprotects⟩

/-- The second request of a session goes where the first one went, though it is the turn
of the other destination. -/
theorem session_sticks_after_response :
    let begun := sessionSample.after [.configure sessionConfig]
    let later := sessionSample.after
      [.finish 0 (.ok {}), .start sampleRef {}, .configure sessionConfig]
    (∃ cluster picked, begun.router.cluster? sampleRef = some cluster ∧
      (begun.router.pick sampleRef cluster.model cluster {}).value.2 = .ok picked ∧
      picked.candidate.id = "a") ∧
    ∃ cluster candidate,
      later.router.cluster? sampleRef = some cluster ∧ candidate.id = "a" ∧
      later.router.Led sampleRef cluster (sessionRequest "YQ") candidate := by
  intro begun later
  have first : (begun.router.cluster? sampleRef).map (fun cluster =>
      (cluster.model.affinity.map (fun affinity =>
        (affinity.policy.name, affinity.config)),
          (begun.router.pick sampleRef cluster.model cluster {}).value.2.toOption.map
          (fun picked => (picked.candidate.id, picked.status)))) =
      some (some ("CustomHeader", sessionSettings), some ("a", some .keyNotSet)) := by
    decide +kernel
  have issued :
      ((sessionSample.after [.start sampleRef {}, .configure sessionConfig]).router.finish
      0 (.ok {})).value.2.map (fun answer => answer.headers.values "x-session") =
        some [Text.bytes "YQ"] := by
    decide +kernel
  have second : (later.router.cluster? sampleRef).map (fun cluster =>
      (cluster.model.config.affinity,
        ((cluster.candidates cluster.available).map Candidate.id).contains "a")) =
      some (some sessionSettings, true) := by
    decide +kernel
  have named : Http.Header.name? sessionSettings.keyName = some "x-session" := by
    decide +kernel
  rcases Option.map_eq_some_iff.1 first with ⟨cluster, present, settings⟩
  rcases (Prod.mk.injEq ..).mp settings with ⟨settings, chosen⟩
  rcases Option.map_eq_some_iff.1 settings with ⟨affinity, bound, settings⟩
  rcases (Prod.mk.injEq ..).mp settings with ⟨header, settings⟩
  rcases Option.map_eq_some_iff.1 chosen with ⟨picked, chosen, described⟩
  rcases (Prod.mk.injEq ..).mp described with ⟨id, unkeyed⟩
  have served :
      (begun.router.pick sampleRef cluster.model cluster {}).value.2 = .ok picked := by
    cases choice : (begun.router.pick sampleRef cluster.model cluster {}).value.2 with
    | error fault =>
        rw [choice] at chosen
        cases chosen
    | ok other =>
        rw [choice] at chosen
        cases chosen
        rfl
  have unled : ∀ candidate,
      ¬ cluster.LeadsTo Rehearsal.identityProtector cluster.model {} candidate := by
    intro candidate leads
    have found := congrArg Prod.fst
      (leads.pick_eq (builtin_after present)
        { cursor := cluster.cursor, draws := begun.router.draws })
    have same : picked = { candidate, status := some .found } :=
      Except.ok.inj (served.symm.trans found)
    rw [same] at unkeyed
    cases unkeyed
  have restores : Rehearsal.identityProtector.Restores picked.candidate.id := by
    rw [id]
    exact fun serial => ⟨Text.bytes "a", by decide, rfl, rfl⟩
  rcases session_sticks_after (.ofSequence []) Rehearsal.identityProtector true
    [.configure sessionConfig] sampleRef cluster present affinity bound
    (fun cookie => absurd (header.symm.trans cookie) (by decide)) {} unled picked served
      restores []
    (fun _ member => absurd member List.not_mem_nil) {} with
    ⟨carrier, answer, key, listed, travels, given, brings, returns⟩
  have same : carrier = .customHeader := by
    apply KeyCarrier.eq_of_name listed
      (List.mem_cons_of_mem _ (List.mem_singleton_self _))
    rw [travels] at header
    exact header
  subst same
  rw [settings] at brings returns
  have key : key = "YQ" := by
    have values := KeyCarrier.values_of_brings brings named
    have headers : (some answer).map (fun answer => answer.headers.values "x-session") =
        some [Text.bytes "YQ"] := given ▸ issued
    exact Text.bytes_injective
      (List.cons.inj (values.symm.trans (Option.some.inj headers))).1
  subst key
  rcases Option.map_eq_some_iff.1 second with ⟨there, found, settings⟩
  rcases (Prod.mk.injEq ..).mp settings with ⟨settings, available⟩
  rw [List.contains_iff_mem, ← id] at available
  have carries :
      KeyCarrier.Carries sessionSettings "YQ" (sessionRequest "YQ") .customHeader :=
    .header named (by decide +kernel)
  rcases returns _ sampleRef there found settings (List.mem_map.1 available) _
    carries with
    ⟨⟨candidate, same, led⟩, -⟩
  exact ⟨⟨cluster, picked, present, served, id⟩, there, candidate, found,
    same.trans id, led⟩

end Scene

end Gateway
