import Gateway.Proofs.Cluster.Picking

namespace Gateway

/-! The choice of a destination, row by row: how the key of a request stands among the
available candidates, what the failure policy makes of one that leads nowhere, and which
of several candidates the load balancer takes, at which cost. -/

namespace RandomSource

/-- Every index that is drawn lies below its bound. -/
def Bounded (source : RandomSource) : Prop :=
  ∀ draws bound, 0 < bound → source.index draws bound < bound

theorem bounded_ofSequence (sequence : List Nat) : (ofSequence sequence).Bounded :=
  fun draws _ positive => index_ofSequence_lt sequence draws positive

end RandomSource

namespace LoadBalancer

/-- What a choice among several candidates costs: one step of the round-robin
position, one random number or two, or nothing. -/
inductive Advances (source : RandomSource) : LoadBalancer → Turn → Turn → Prop
  | first (turn : Turn) : Advances source first turn turn
  | leastRequests (turn : Turn) : Advances source leastRequests turn turn
  | roundRobin (turn : Turn) :
      Advances source roundRobin turn { turn with cursor := turn.cursor + 1 }
  | random (turn : Turn) :
      Advances source (random source) turn { turn with draws := turn.draws + 1 }
  | powerOfTwoChoices (turn : Turn) :
      Advances source (powerOfTwoChoices source) turn
        { turn with draws := turn.draws + 1 + 1 }

variable {source : RandomSource} {balancer : LoadBalancer}

theorem pick_several (known : balancer ∈ builtin source) (bounded : source.Bounded)
    (turn : Turn) (left right : Candidate) (rest : List Candidate) :
    ∃ chosen next, balancer.pick turn (left :: right :: rest) = (some chosen, next) ∧
      Advances source balancer turn next := by
  have sampled : ∀ draws, ∃ candidate,
      (left :: right :: rest)[source.index draws (left :: right :: rest).length]? =
        some candidate :=
    fun draws =>
      ⟨_, List.getElem?_eq_getElem
        (bounded draws (left :: right :: rest).length (Nat.succ_pos _))⟩
  simp only [builtin, List.mem_cons, List.not_mem_nil, or_false] at known
  rcases known with rfl | rfl | rfl | rfl | rfl
  · exact ⟨left, turn, rfl, .first turn⟩
  · rcases sampled turn.draws with ⟨chosen, found⟩
    refine ⟨chosen, _, ?_, .random turn⟩
    simp only [random, Turn.draw, List.isEmpty_cons, Bool.false_eq_true, if_false, found]
  · have inside : turn.cursor.toNat % (left :: right :: rest).length <
        (left :: right :: rest).length := Nat.mod_lt _ (Nat.succ_pos _)
    have found := List.getElem?_eq_getElem inside
    refine ⟨(left :: right :: rest)[turn.cursor.toNat % (left :: right :: rest).length],
      _, ?_, .roundRobin turn⟩
    simp only [roundRobin, List.isEmpty_cons, Bool.false_eq_true, if_false, found]
  · rcases sampled turn.draws with ⟨first, firstFound⟩
    rcases sampled (turn.draws + 1) with ⟨second, secondFound⟩
    refine ⟨lighter first second, _, ?_, .powerOfTwoChoices turn⟩
    simp only [powerOfTwoChoices, Turn.draw, firstFound, secondFound]
  · exact ⟨_, turn, rfl, .leastRequests turn⟩

end LoadBalancer

/-- Where a request goes that is routed over some candidates: nowhere if there are none,
to a single one as it is, and to one of several as the load balancer chooses. -/
inductive Routed (source : RandomSource) (balancer : LoadBalancer)
    (status : Option AffinityStatus) (turn : Turn) :
    List Candidate → Except DispatchFault Picked × Turn → Prop
  | nowhere :
      Routed source balancer status turn []
        (.error (.routing .noAvailableDestinations Http.Reply.serviceUnavailable), turn)
  | single (candidate : Candidate) :
      Routed source balancer status turn [candidate] (.ok { candidate, status }, turn)
  | balanced {left right candidate : Candidate} {rest : List Candidate} {next : Turn}
      (chosen : balancer.pick turn (left :: right :: rest) = (some candidate, next))
      (member : candidate ∈ left :: right :: rest)
      (cost : balancer.Advances source turn next) :
      Routed source balancer status turn (left :: right :: rest)
        (.ok { candidate, status }, next)

namespace Routed

variable {source : RandomSource} {balancer : LoadBalancer}
  {status : Option AffinityStatus} {turn next : Turn} {candidates : List Candidate}

theorem mem {picked : Picked}
    (routed : Routed source balancer status turn candidates (.ok picked, next)) :
    picked.candidate ∈ candidates := by
  cases routed with
  | single candidate => exact List.mem_singleton_self candidate
  | balanced _ member => exact member

private theorem status_eq {picked : Picked}
    (routed : Routed source balancer status turn candidates (.ok picked, next)) :
    picked.status = status := by
  cases routed <;> rfl

private theorem nowhere_of_error {fault : DispatchFault}
    (routed : Routed source balancer status turn candidates (.error fault, next)) :
    candidates = [] ∧
      fault = .routing .noAvailableDestinations Http.Reply.serviceUnavailable := by
  cases routed
  exact ⟨rfl, rfl⟩

private theorem turn_of_error {fault : DispatchFault}
    (routed : Routed source balancer status turn candidates (.error fault, next)) :
    next = turn := by
  cases routed
  rfl

theorem cost {result : Except DispatchFault Picked}
    (routed : Routed source balancer status turn candidates (result, next)) :
    next = turn ∨ 2 ≤ candidates.length ∧ balancer.Advances source turn next := by
  cases routed with
  | nowhere => exact .inl rfl
  | single => exact .inl rfl
  | balanced _ _ cost => exact .inr ⟨Nat.le_add_left 2 _, cost⟩

end Routed

namespace KeyCarrier

/-- The key that a request carries. An empty one counts as none. -/
def key? (carrier : KeyCarrier) (config : AffinityConfig) (request : Http.Request) :
    Option String :=
  (carrier.read config request).filter (fun key => !key.isEmpty)

theorem eq_of_name {left right : KeyCarrier} (leftKnown : left ∈ builtin)
    (rightKnown : right ∈ builtin) (same : left.name = right.name) : left = right := by
  have different : ¬ cookie.name = customHeader.name := by decide
  simp only [builtin, List.mem_cons, List.not_mem_nil, or_false] at leftKnown rightKnown
  rcases leftKnown with rfl | rfl <;> rcases rightKnown with rfl | rfl
  · rfl
  · exact absurd same different
  · exact absurd same.symm different
  · rfl

end KeyCarrier

namespace Protector

/-- A key leads to the first candidate whose id it stands for. -/
def Leads (protector : Protector) (candidates : List Candidate) (encoded : String)
    (candidate : Candidate) : Prop :=
  ∃ key, protector.recoverKey encoded = .ok key ∧
    candidates.find? (fun candidate => candidate.id == key) = some candidate

/-- A key leads nowhere if it cannot be recovered, or stands for the id of no
candidate. -/
inductive Loses (protector : Protector) (candidates : List Candidate) (encoded : String) :
    AffinityStatus → RoutingFault → Prop
  | unreadable {fault : ProtectionFault}
  (failed : protector.recoverKey encoded = .error fault) :
      Loses protector candidates encoded .keyExtractionFailed .affinityKeyExtractionFailed
  | unmatched {key : String} (recovered : protector.recoverKey encoded = .ok key)
      (missing : ∀ candidate ∈ candidates, candidate.id ≠ key) :
      Loses protector candidates encoded .destinationNotFound .affinityDestinationNotFound

variable {protector : Protector} {candidates : List Candidate} {encoded : String}

private theorem leads_or_loses (protector : Protector) (candidates : List Candidate)
    (encoded : String) :
    (∃ candidate, protector.Leads candidates encoded candidate) ∨
      ∃ status fault, protector.Loses candidates encoded status fault := by
  cases recovered : protector.recoverKey encoded with
  | error fault => exact .inr ⟨_, _, .unreadable recovered⟩
  | ok key =>
      cases found : candidates.find? (fun candidate => candidate.id == key) with
      | some candidate => exact .inl ⟨candidate, key, recovered, found⟩
      | none =>
          refine .inr ⟨_, _, .unmatched recovered fun candidate member same => ?_⟩
          exact List.find?_eq_none.1 found candidate member (beq_iff_eq.2 same)

theorem Leads.mem {candidate : Candidate}
    (leads : protector.Leads candidates encoded candidate) :
    candidate ∈ candidates := by
  rcases leads with ⟨key, -, found⟩
  exact List.mem_of_find?_eq_some found

theorem Loses.isFailure {status : AffinityStatus} {fault : RoutingFault}
    (loses : protector.Loses candidates encoded status fault) :
    status.isFailure = true := by
  cases loses <;> rfl

private theorem Loses.status_ne_found {status : AffinityStatus} {fault : RoutingFault}
    (loses : protector.Loses candidates encoded status fault) : status ≠ .found := by
  cases loses <;> exact nofun

theorem Loses.routingFault? {status : AffinityStatus} {fault : RoutingFault}
    (loses : protector.Loses candidates encoded status fault) :
    status.routingFault? = some fault := by
  cases loses <;> rfl

end Protector

namespace AffinityPolicy

variable {carrier : KeyCarrier} {protector : Protector} {config : AffinityConfig}
  {request : Http.Request} {candidates : List Candidate} {encoded : String}

private theorem value_findWith_unkeyed (enabled : config.enabled = true)
    (unkeyed : carrier.key? config request = none) (cluster : String) :
    (findWith carrier protector cluster config request candidates).value =
      .ok { status := .keyNotSet, candidates } := by
  rw [KeyCarrier.key?] at unkeyed
  simp only [findWith, enabled, unkeyed, Bool.not_true, Bool.false_eq_true, if_false]
  rfl

private theorem value_findWith_led (enabled : config.enabled = true)
    (keyed : carrier.key? config request = some encoded) {candidate : Candidate}
    (leads : protector.Leads candidates encoded candidate) (cluster : String) :
    (findWith carrier protector cluster config request candidates).value =
      .ok { status := .found, candidates := [candidate] } := by
  rcases leads with ⟨key, recovered, found⟩
  have filled : candidates.isEmpty = false :=
    List.isEmpty_eq_false_iff_exists_mem.2 ⟨candidate, List.mem_of_find?_eq_some found⟩
  have named : candidates.find? (fun candidate => keyOf candidate.destination == key) =
      some candidate := found
  rw [KeyCarrier.key?] at keyed
  simp only [findWith, enabled, keyed, recovered, findKey, filled, named, Bool.not_true,
    Bool.false_eq_true, if_false]
  rfl

private theorem value_findWith_lost (enabled : config.enabled = true)
    (keyed : carrier.key? config request = some encoded) {status : AffinityStatus}
    {fault : RoutingFault} (loses : protector.Loses candidates encoded status fault)
    (cluster : String) :
    (findWith carrier protector cluster config request candidates).value =
      .ok (.failed status) := by
  rw [KeyCarrier.key?] at keyed
  cases loses with
  | unreadable failed =>
      simp only [findWith, enabled, keyed, failed, Bool.not_true, Bool.false_eq_true,
        if_false]
      rfl
  | @unmatched key recovered missing =>
      have none :
          candidates.find? (fun candidate => keyOf candidate.destination == key) = none :=
        List.find?_eq_none.2 fun candidate member same =>
          missing candidate member (beq_iff_eq.1 same)
      simp only [findWith, enabled, keyed, recovered, findKey, none, Bool.not_true,
        Bool.false_eq_true, if_false]
      split <;> rfl

end AffinityPolicy

/-! Models all of whose policies are builtin ones. -/

/-- The affinity of a model is there only if it is enabled. -/
structure AffinityModel.Builtin (protector : Protector) (affinity : AffinityModel) :
    Prop where
  enabled : affinity.config.enabled = true
  carrier : ∃ carrier ∈ KeyCarrier.builtin, affinity.policy = .ofCarrier protector carrier
  failurePolicy : affinity.failurePolicy ∈ FailurePolicy.builtin

structure ClusterModel.Builtin (source : RandomSource) (protector : Protector)
    (model : ClusterModel) : Prop where
  loadBalancing : model.loadBalancing ∈ LoadBalancer.builtin source
  affinity : ∀ affinity, model.affinity = some affinity → affinity.Builtin protector

theorem Policies.builtin_of_resolve {source : RandomSource} {protector : Protector}
    {model : ClusterModel}
    (accepted : (Policies.builtin source protector).resolve model.config = .ok model) :
    model.Builtin source protector where
  loadBalancing := PolicyTable.mem_of_resolve (accepts_of_resolve accepted).loadBalancing
  affinity := by
    intro affinity bound
    have resolved := (accepts_of_resolve accepted).affinity
    rw [bound] at resolved
    have settled := settled_of_resolveAffinity resolved
    rcases List.mem_map.1 (PolicyTable.mem_of_resolve settled.policy) with
      ⟨carrier, known, same⟩
    exact ⟨settled.enabled, ⟨carrier, known, same.symm⟩,
      PolicyTable.mem_of_resolve settled.failurePolicy⟩

namespace Cluster

variable {source : RandomSource} {protector : Protector} {cluster : Cluster}
  {model : ClusterModel} {affinity : AffinityModel} {carrier : KeyCarrier}
  {request : Http.Request} {encoded : String}

/-! The rows of a selection. -/

theorem select_unbound (unbound : model.affinity = none) (request : Http.Request) :
    (cluster.select model request).value =
      .ok { candidates := cluster.candidates cluster.available, status := none } := by
  simp only [select, unbound]
  rfl

theorem select_unkeyed (bound : model.affinity = some affinity)
    (enabled : affinity.config.enabled = true)
    (travels : affinity.policy = .ofCarrier protector carrier)
    (unkeyed : carrier.key? affinity.config request = none) :
    (cluster.select model request).value =
      .ok
        { candidates := cluster.candidates cluster.available,
          status := some .keyNotSet } := by
  simp only [select, bound, travels, AffinityPolicy.ofCarrier, Traced.value_bind,
    AffinityPolicy.value_findWith_unkeyed enabled unkeyed]
  rfl

private theorem select_led (bound : model.affinity = some affinity)
    (enabled : affinity.config.enabled = true)
    (travels : affinity.policy = .ofCarrier protector carrier)
    (keyed : carrier.key? affinity.config request = some encoded) {candidate : Candidate}
    (leads : protector.Leads (cluster.candidates cluster.available) encoded candidate) :
    (cluster.select model request).value =
      .ok { candidates := [candidate], status := some .found } := by
  simp only [select, bound, travels, AffinityPolicy.ofCarrier, Traced.value_bind,
    AffinityPolicy.value_findWith_led enabled keyed leads]
  rfl

section Lost

variable {status : AffinityStatus} {fault : RoutingFault}
  (bound : model.affinity = some affinity) (enabled : affinity.config.enabled = true)
  (travels : affinity.policy = .ofCarrier protector carrier)
  (keyed : carrier.key? affinity.config request = some encoded)
  (loses : protector.Loses (cluster.candidates cluster.available) encoded status fault)

include bound enabled travels keyed loses

private theorem select_lost :
    (cluster.select model request).value =
      (cluster.afterFailure affinity status fault).value := by
  simp only [select, bound, travels, AffinityPolicy.ofCarrier, Traced.value_bind,
    AffinityPolicy.value_findWith_lost enabled keyed loses, AffinityResult.failed,
    loses.routingFault?]

theorem select_refused (refuses : affinity.failurePolicy = .refuse) :
    (cluster.select model request).value =
      .error (.routing fault Http.Reply.serviceUnavailable) := by
  rw [select_lost bound enabled travels keyed loses]
  simp only [afterFailure, refuses, FailurePolicy.refuse, loses.isFailure, if_true,
    Traced.value_bind, Traced.value_pure]

theorem select_redistributed (redistributes : affinity.failurePolicy = .redistribute) :
    (cluster.select model request).value =
      .ok
        { candidates := cluster.candidates cluster.available,
          status := some status } := by
  rw [select_lost bound enabled travels keyed loses]
  simp only [afterFailure, redistributes, FailurePolicy.redistribute, loses.isFailure,
    if_true, Traced.value_bind, Traced.value_pure]

end Lost

def LeadsTo (cluster : Cluster) (protector : Protector) (model : ClusterModel)
    (request : Http.Request) (candidate : Candidate) : Prop :=
  ∃ affinity carrier encoded, model.affinity = some affinity ∧
    affinity.policy = .ofCarrier protector carrier ∧
    carrier.key? affinity.config request = some encoded ∧
    protector.Leads (cluster.candidates cluster.available) encoded candidate

def Refuses (cluster : Cluster) (protector : Protector) (model : ClusterModel)
    (request : Http.Request) (fault : RoutingFault) : Prop :=
  ∃ affinity carrier encoded status, model.affinity = some affinity ∧
    affinity.policy = .ofCarrier protector carrier ∧
    affinity.failurePolicy = .refuse ∧
    carrier.key? affinity.config request = some encoded ∧
    protector.Loses (cluster.candidates cluster.available) encoded status fault

theorem LeadsTo.mem {candidate : Candidate}
    (leads : cluster.LeadsTo protector model request candidate) :
    candidate ∈ cluster.candidates cluster.available := by
  rcases leads with ⟨affinity, carrier, encoded, -, -, -, leads⟩
  exact leads.mem

/-- Everything that a selection can be: all available candidates, the one that the key
of the request leads to, or a refusal. -/
inductive Selected (protector : Protector) (cluster : Cluster) (model : ClusterModel)
    (request : Http.Request) : Except DispatchFault Selection → Prop
  | routed {status : Option AffinityStatus} (unled : status ≠ some .found)
      (sought : status.isSome = model.affinity.isSome) :
      Selected protector cluster model request
        (.ok { candidates := cluster.candidates cluster.available, status })
  | led {candidate : Candidate}
      (leads : cluster.LeadsTo protector model request candidate) :
      Selected protector cluster model request
        (.ok { candidates := [candidate], status := some .found })
  | refused {fault : RoutingFault}
      (refuses : cluster.Refuses protector model request fault) :
      Selected protector cluster model request
        (.error (.routing fault Http.Reply.serviceUnavailable))

private theorem selected_select (builtin : model.Builtin source protector)
    (cluster : Cluster) (request : Http.Request) :
    Selected protector cluster model request (cluster.select model request).value := by
  cases bound : model.affinity with
  | none =>
      rw [select_unbound bound]
      exact .routed nofun (congrArg Option.isSome bound).symm
  | some affinity =>
      have sought : model.affinity.isSome = true := congrArg Option.isSome bound
      rcases builtin.affinity affinity bound with
        ⟨enabled, ⟨carrier, -, travels⟩, handling⟩
      cases keyed : carrier.key? affinity.config request with
      | none =>
          rw [select_unkeyed bound enabled travels keyed]
          exact .routed nofun sought.symm
      | some encoded =>
          rcases Protector.leads_or_loses protector
            (cluster.candidates cluster.available) encoded
            with ⟨candidate, leads⟩ | ⟨status, fault, loses⟩
          · rw [select_led bound enabled travels keyed leads]
            exact .led ⟨affinity, carrier, encoded, bound, travels, keyed, leads⟩
          · simp only [FailurePolicy.builtin, List.mem_cons, List.not_mem_nil,
              or_false] at handling
            rcases handling with redistributes | refuses
            · rw [select_redistributed bound enabled travels keyed loses redistributes]
              exact .routed (fun same => loses.status_ne_found (Option.some.inj same))
                sought.symm
            · rw [select_refused bound enabled travels keyed loses refuses]
              exact .refused
                ⟨affinity, carrier, encoded, status, bound, travels, refuses,
                  keyed, loses⟩

/-! From a selection to a destination. -/

theorem pick_of_refused {fault : DispatchFault}
    (refused : (cluster.select model request).value = .error fault) (turn : Turn) :
    (cluster.pick model request turn).value = (.error fault, turn) := by
  simp only [pick, Traced.value_bind, refused, Traced.value_pure]

private theorem select_of_pick {picked : Picked} {turn next : Turn}
    (chosen : (cluster.pick model request turn).value = (.ok picked, next)) :
    ∃ candidates, (cluster.select model request).value =
      .ok { candidates, status := picked.status } := by
  cases selection : (cluster.select model request).value with
  | error fault =>
      rw [pick_of_refused selection] at chosen
      cases chosen
  | ok selected =>
      simp only [pick, Traced.value_bind, selection] at chosen
      split at chosen
      · cases chosen
        exact ⟨_, rfl⟩
      · cases chosen

theorem unled_of_pick (builtin : model.Builtin source protector) {picked : Picked}
    {turn next : Turn}
    (chosen : (cluster.pick model request turn).value = (.ok picked, next))
    (unled : ∀ candidate, ¬ cluster.LeadsTo protector model request candidate) :
    picked.status ≠ some .found ∧ picked.status.isSome = model.affinity.isSome := by
  rcases select_of_pick chosen with ⟨candidates, selection⟩
  have selected := selected_select builtin cluster request
  rw [selection] at selected
  generalize picked.status = status at selected ⊢
  cases selected with
  | routed other sought => exact ⟨other, sought⟩
  | led leads => exact absurd leads (unled _)

theorem routed_pick (known : model.loadBalancing ∈ LoadBalancer.builtin source)
    (bounded : source.Bounded) {selection : Selection}
    (selected : (cluster.select model request).value = .ok selection) (turn : Turn) :
    Routed source model.loadBalancing selection.status turn selection.candidates
      (cluster.pick model request turn).value := by
  rcases selection with ⟨candidates, status⟩
  simp only [pick, Traced.value_bind, selected]
  match candidates with
  | [] => exact .nowhere
  | [candidate] => exact .single candidate
  | left :: right :: rest =>
      rcases LoadBalancer.pick_several known bounded turn left right rest with
        ⟨candidate, next, chosen, cost⟩
      have member : candidate ∈ left :: right :: rest :=
        LoadBalancer.mem_of_pick known (congrArg Prod.fst chosen)
      simp only [balance, chosen]
      exact .balanced chosen member cost

theorem pick_led (bound : model.affinity = some affinity)
    (enabled : affinity.config.enabled = true)
    (travels : affinity.policy = .ofCarrier protector carrier)
    (keyed : carrier.key? affinity.config request = some encoded) {candidate : Candidate}
    (leads : protector.Leads (cluster.candidates cluster.available) encoded candidate)
    (turn : Turn) :
    (cluster.pick model request turn).value =
      (.ok { candidate, status := some .found }, turn) := by
  simp only [pick, Traced.value_bind, select_led bound enabled travels keyed leads,
    balance]
  rfl

theorem LeadsTo.pick_eq (builtin : model.Builtin source protector) {candidate : Candidate}
    (leads : cluster.LeadsTo protector model request candidate) (turn : Turn) :
    (cluster.pick model request turn).value =
      (.ok { candidate, status := some .found }, turn) := by
  rcases leads with ⟨affinity, carrier, encoded, bound, travels, keyed, leads⟩
  exact pick_led bound (builtin.affinity affinity bound).enabled travels keyed leads turn

/-- Everything that a pick can be: a request that was routed, one that was led, or one
that was refused. -/
inductive Choice (source : RandomSource) (protector : Protector) (cluster : Cluster)
    (model : ClusterModel) (request : Http.Request) (turn : Turn) :
    Except DispatchFault Picked × Turn → Prop
  | routed {status : Option AffinityStatus} {result : Except DispatchFault Picked × Turn}
      (unled : status ≠ some .found) (sought : status.isSome = model.affinity.isSome)
      (routed : Routed source model.loadBalancing status turn
        (cluster.candidates cluster.available) result) :
      Choice source protector cluster model request turn result
  | led {candidate : Candidate}
      (leads : cluster.LeadsTo protector model request candidate) :
      Choice source protector cluster model request turn
        (.ok { candidate, status := some .found }, turn)
  | refused {fault : RoutingFault}
      (refuses : cluster.Refuses protector model request fault) :
      Choice source protector cluster model request turn
        (.error (.routing fault Http.Reply.serviceUnavailable), turn)

theorem choice_pick (builtin : model.Builtin source protector) (bounded : source.Bounded)
    (cluster : Cluster) (request : Http.Request) (turn : Turn) :
    Choice source protector cluster model request turn
      (cluster.pick model request turn).value := by
  have selected := selected_select builtin cluster request
  generalize selection : (cluster.select model request).value = result at selected
  cases selected with
  | routed unled sought =>
      exact .routed unled sought
        (routed_pick builtin.loadBalancing bounded selection turn)
  | led leads =>
      have single := routed_pick builtin.loadBalancing bounded selection turn
      generalize (cluster.pick model request turn).value = result at single ⊢
      cases single
      exact .led leads
  | refused refuses =>
      rw [pick_of_refused selection]
      exact .refused refuses

namespace Choice

variable {turn next : Turn}

theorem mem {picked : Picked}
    (choice : Choice source protector cluster model request turn (.ok picked, next)) :
    picked.candidate ∈ cluster.candidates cluster.available := by
  cases choice with
  | routed _ _ routed => exact routed.mem
  | led leads => exact leads.mem

theorem isSome_status {picked : Picked}
    (choice : Choice source protector cluster model request turn (.ok picked, next)) :
    picked.status.isSome = model.affinity.isSome := by
  cases choice with
  | routed _ sought routed => rw [routed.status_eq, sought]
  | led leads =>
      rcases leads with ⟨affinity, -, -, bound, -⟩
      exact (congrArg Option.isSome bound).symm

theorem of_error {fault : DispatchFault}
    (choice : Choice source protector cluster model request turn (.error fault, next)) :
    next = turn ∧ ∃ routing, fault = .routing routing Http.Reply.serviceUnavailable ∧
      (routing = .noAvailableDestinations ∧ cluster.candidates cluster.available = [] ∨
        cluster.Refuses protector model request routing) := by
  cases choice with
  | routed _ _ routed =>
      rcases routed.nowhere_of_error with ⟨nobody, same⟩
      exact ⟨routed.turn_of_error, _, same, .inl ⟨rfl, nobody⟩⟩
  | refused refuses => exact ⟨rfl, _, rfl, .inr refuses⟩

theorem cost {result : Except DispatchFault Picked}
    (choice : Choice source protector cluster model request turn (result, next)) :
    next = turn ∨ 2 ≤ (cluster.candidates cluster.available).length ∧
      model.loadBalancing.Advances source turn next := by
  cases choice with
  | routed _ _ routed => exact routed.cost
  | led => exact .inl rfl
  | refused => exact .inl rfl

end Choice

end Cluster

end Gateway
