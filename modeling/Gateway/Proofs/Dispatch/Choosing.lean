import Gateway.Proofs.Cluster.Choice
import Gateway.Proofs.Router.Requests
import Gateway.Rehearsal.Policies

namespace Gateway

/-! Which destination a request is sent to, as the state of a gateway has it. -/

namespace Router

theorem value_pick (router : Router) (ref : ClusterRef) (model : ClusterModel)
    (cluster : Cluster) (request : Http.Request) :
    let turn : Turn := { cursor := cluster.cursor, draws := router.draws }
    let result := (cluster.pick model request turn).value
    (router.pick ref model cluster request).value =
      ({ router.setCluster ref { cluster with cursor := result.2.cursor } with
          draws := result.2.draws }, result.1) := rfl

/-- A destination is chosen by these rows, and by them alone: without affinity or without
a key the request is routed over the available candidates; a key that leads to one of them
decides; and one that leads nowhere ends in its fault or is routed like a request without
a key, as the failure policy has it. So a choice is an available candidate, and there is
none only for want of candidates or by a refusal, and then the client is owed a bare 503.
No state is touched but the cursor of the cluster and the count of drawn numbers, and
these only by a choice among several. -/
theorem choice_rows (source : RandomSource) (protector : Protector)
    (bounded : source.Bounded) (router : Router) (ref : ClusterRef) (cluster : Cluster)
    (present : router.cluster? ref = some cluster) (model : ClusterModel)
    (builtin : model.Builtin source protector) (request : Http.Request) :
    let available := cluster.candidates cluster.available
    let turn : Turn := { cursor := cluster.cursor, draws := router.draws }
    let after := (router.pick ref model cluster request).value.1
    let result := (router.pick ref model cluster request).value.2
    let unavailable : Http.Response :=
      { status := 503, headers := { fields := [] }, body := "" }
    ∃ next : Turn,
      (model.affinity = none →
        Routed source model.loadBalancing none turn available (result, next)) ∧
      (∀ affinity, model.affinity = some affinity →
        ∃ carrier ∈ KeyCarrier.builtin, affinity.policy = .ofCarrier protector carrier ∧
          affinity.failurePolicy ∈ FailurePolicy.builtin ∧
          (carrier.key? affinity.config request = none →
            Routed source model.loadBalancing (some .keyNotSet) turn available
              (result, next)) ∧
          ∀ encoded, carrier.key? affinity.config request = some encoded →
            (∀ candidate, protector.Leads available encoded candidate →
              result = .ok { candidate, status := some .found } ∧ next = turn) ∧
            ∀ status fault, protector.Loses available encoded status fault →
              (affinity.failurePolicy = .refuse →
                result = .error (.routing fault unavailable) ∧ next = turn) ∧
              (affinity.failurePolicy = .redistribute →
                Routed source model.loadBalancing (some status) turn available
                  (result, next))) ∧
      (∀ picked, result = .ok picked → picked.candidate ∈ available) ∧
      (∀ fault, result = .error fault → ∃ routing,
        fault = .routing routing unavailable ∧
          (routing = .noAvailableDestinations ∧ available = [] ∨
            cluster.Refuses protector model request routing)) ∧
      (next = turn ∨ 2 ≤ available.length ∧
        model.loadBalancing.Advances source turn next) ∧
      after.cluster? ref = some { cluster with cursor := next.cursor } ∧
      (∀ other, other ≠ ref → after.cluster? other = router.cluster? other) ∧
      after = { router with clusters := after.clusters, draws := next.draws } := by
  intro available turn after result unavailable
  have choice : Cluster.Choice source protector cluster model request turn
      (result, (cluster.pick model request turn).value.2) :=
    Cluster.choice_pick builtin bounded cluster request turn
  refine ⟨(cluster.pick model request turn).value.2, fun unbound => ?_,
    fun affinity bound => ?_, fun picked chosen => ?_, fun fault failed => ?_, ?_, ?_,
    fun other different => ?_, rfl⟩
  · exact Cluster.routed_pick builtin.loadBalancing bounded
      (Cluster.select_unbound unbound request) turn
  · rcases builtin.affinity affinity bound with
      ⟨enabled, ⟨carrier, known, travels⟩, handling⟩
    refine ⟨carrier, known, travels, handling, fun unkeyed => ?_, fun encoded keyed =>
      ⟨fun candidate leads => ?_, fun status fault loses =>
        ⟨fun refuses => ?_, fun redistributes => ?_⟩⟩⟩
    · exact Cluster.routed_pick builtin.loadBalancing bounded
        (Cluster.select_unkeyed bound enabled travels unkeyed) turn
    · exact Prod.ext_iff.1 (Cluster.pick_led bound enabled travels keyed leads turn)
    · exact Prod.ext_iff.1 (Cluster.pick_of_refused
        (Cluster.select_refused bound enabled travels keyed loses refuses) turn)
    · exact Cluster.routed_pick builtin.loadBalancing bounded
        (Cluster.select_redistributed bound enabled travels keyed loses redistributes)
        turn
  · rw [chosen] at choice
    exact choice.mem
  · rw [failed] at choice
    exact choice.of_error.2
  · exact choice.cost
  · exact (cluster?_setCluster present _ ref).trans (if_pos rfl)
  · exact (cluster?_setCluster present _ other).trans (if_neg different)

end Router

namespace Scene

section Builtin

variable {source : RandomSource} {protector : Protector} {background : Bool}
  {run : List Operation} {ref : ClusterRef} {cluster : Cluster}
  (present :
    ((fresh (.builtin source protector) background).after run).router.cluster? ref =
      some cluster)

include present

theorem accepted_after :
    (Policies.builtin source protector).resolve cluster.model.config =
      .ok cluster.model :=
  (known_after (Policies.choosing_builtin source protector) background run).models ref
    cluster present

theorem builtin_after : cluster.model.Builtin source protector :=
  Policies.builtin_of_resolve (accepted_after present)

end Builtin

/-! A small gateway with sessions: keys travel in a header, unprotected. -/

def sessionSettings : AffinityConfig where
  enabled := true
  policy := some "CustomHeader"
  keyName := "X-Session"

def sessionConfig : ClusterConfig where
  id := "cluster"
  loadBalancing := some "RoundRobin"
  affinity := some sessionSettings
  destinations :=
    .ofList [("a", { address := "http://10.0.0.1" }),
      ("b", { address := "http://10.0.0.2" })]

def sessionSample : Scene :=
  fresh (.builtin (.ofSequence []) Rehearsal.identityProtector) true

def sessionRequest (key : String) : Http.Request where
  headers := { fields := [("x-session", Text.bytes key)] }

end Scene

/-- The key `Yg` stands for the second destination, and leads there at no cost. -/
theorem Router.choice_rows_of_led :
    ∃ cluster,
      (Scene.sessionSample.after [.configure Scene.sessionConfig]).router.cluster?
        Scene.sampleRef = some cluster ∧
      RandomSource.Bounded (.ofSequence []) ∧
      cluster.model.Builtin (.ofSequence []) Rehearsal.identityProtector ∧
      ∃ candidate, candidate.id = "b" ∧
        ((Scene.sessionSample.after [.configure Scene.sessionConfig]).router.pick
          Scene.sampleRef cluster.model cluster (Scene.sessionRequest "Yg")).value.2 =
            .ok { candidate, status := some .found } := by
  have facts :
      ((Scene.sessionSample.after [.configure Scene.sessionConfig]).router.cluster?
          Scene.sampleRef).map (fun cluster =>
        (cluster.model.affinity.map (fun affinity =>
          (affinity.policy.name, affinity.config)),
        ((cluster.candidates cluster.available).find?
          (fun candidate => candidate.id == "b")).isSome)) =
      some (some ("CustomHeader", Scene.sessionSettings), true) := by
    decide +kernel
  rcases Option.map_eq_some_iff.1 facts with ⟨cluster, present, same⟩
  rcases (Prod.mk.injEq ..).mp same with ⟨bound, found⟩
  rcases Option.map_eq_some_iff.1 bound with ⟨affinity, there, settings⟩
  rcases (Prod.mk.injEq ..).mp settings with ⟨named, configured⟩
  rcases Option.isSome_iff_exists.1 found with ⟨candidate, first⟩
  have builtin := Scene.builtin_after present
  rcases choice_rows _ _ (RandomSource.bounded_ofSequence []) _ Scene.sampleRef cluster
    present cluster.model builtin (Scene.sessionRequest "Yg") with ⟨next, -, rows, -⟩
  rcases rows affinity there with ⟨carrier, listed, travels, -, -, keyed⟩
  have header : carrier = .customHeader := by
    apply KeyCarrier.eq_of_name listed
      (List.mem_cons_of_mem _ (List.mem_singleton_self _))
    rw [travels] at named
    exact named
  have key : carrier.key? affinity.config (Scene.sessionRequest "Yg") = some "Yg" := by
    rw [header, configured]
    decide +kernel
  have recovered : Rehearsal.identityProtector.recoverKey "Yg" = .ok "b" := rfl
  have leads := (keyed "Yg" key).1 candidate ⟨"b", recovered, first⟩
  have hit := List.find?_some first
  exact ⟨cluster, present, RandomSource.bounded_ofSequence [], builtin, candidate,
    beq_iff_eq.1 hit, leads.1⟩

end Gateway
