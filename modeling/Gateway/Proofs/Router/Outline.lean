import Gateway.Proofs.Router.Background

namespace Gateway

/-! What only the registry writes. Requests, reports, timers and probes change the health
of records, the counters and the published lists; what they leave alone is the outline of
a cluster. -/

def Destination.outline (destination : Destination) : Destination :=
  { id := destination.id, config := destination.config }

namespace Cluster

/-- A cluster without what requests, reports, timers and probes have made of it. -/
def outline (cluster : Cluster) : Cluster :=
  { cluster with
    records := cluster.records.map Destination.outline
    all := []
    available := []
    requests := 0
    cursor := 0 }

theorem OnlyHealth.outline {before after : Cluster} (frame : OnlyHealth before after) :
    after.outline = before.outline := by
  have records : after.records.map Destination.outline =
      before.records.map Destination.outline := by
    have same := congrArg
      (List.map (fun destination : Destination => { destination with requests := 0 }))
      (frame.records {})
    rwa [List.map_map, List.map_map] at same
  simp only [Cluster.outline, records, frame.id, frame.model, frame.current, frame.loops,
    frame.shutDown]

theorem outline_modifyRecord (cluster : Cluster) (record : Nat)
    {change : Destination → Destination}
    (kept : ∀ destination, (change destination).outline = destination.outline) :
    (cluster.modifyRecord record change).outline = cluster.outline := by
  have records : (cluster.records.modify record change).map Destination.outline =
      cluster.records.map Destination.outline := by
    apply List.ext_getElem?
    intro number
    by_cases here : record = number
    · subst here
      simp [Function.comp_def, kept]
    · simp [here]
  simp only [Cluster.outline, modifyRecord, records]

/-! What can be told from the outline alone. -/

theorem getElem?_of_outline {before after : Cluster}
    (same : after.outline = before.outline) {number : Nat} {destination : Destination}
    (stored : before.records[number]? = some destination) :
    ∃ other, after.records[number]? = some other ∧ other.id = destination.id ∧
      other.config = destination.config := by
  have alike := congrArg (fun cluster : Cluster => cluster.records[number]?) same
  simp only [Cluster.outline, List.getElem?_map, stored, Option.map_some,
    Option.map_eq_some_iff] at alike
  rcases alike with ⟨other, found, equal⟩
  exact ⟨other, found, (congrArg Destination.id equal :),
    (congrArg Destination.config equal :)⟩

theorem id_of_outline {before after : Cluster} (same : after.outline = before.outline) :
    after.id = before.id :=
  (congrArg Cluster.id same :)

theorem model_of_outline {before after : Cluster}
    (same : after.outline = before.outline) :
    after.model = before.model :=
  (congrArg Cluster.model same :)

theorem current_of_outline {before after : Cluster}
    (same : after.outline = before.outline) :
    after.current = before.current :=
  (congrArg Cluster.current same :)

end Cluster

namespace Router

/-- Two states of a gateway with the same registry, and with the same outlines. -/
structure SameOutline (before after : Router) : Prop where
  policies : after.policies = before.policies
  background : after.background = before.background
  registered : after.registered = before.registered
  probing : after.probing = before.probing
  outlines : ∀ ref,
    (after.cluster? ref).map Cluster.outline = (before.cluster? ref).map Cluster.outline

namespace SameOutline

variable {before middle after router : Router}

theorem refl (router : Router) : SameOutline router router :=
  ⟨rfl, rfl, rfl, rfl, fun _ => rfl⟩

theorem trans (first : SameOutline before middle) (last : SameOutline middle after) :
    SameOutline before after where
  policies := last.policies.trans first.policies
  background := last.background.trans first.background
  registered := last.registered.trans first.registered
  probing := last.probing.trans first.probing
  outlines := fun ref => (last.outlines ref).trans (first.outlines ref)

theorem cluster? (same : SameOutline before after) {ref : ClusterRef} {cluster : Cluster}
    (present : after.cluster? ref = some cluster) :
    ∃ former, before.cluster? ref = some former ∧ cluster.outline = former.outline := by
  have outlines := same.outlines ref
  rw [present] at outlines
  rcases Option.map_eq_some_iff.1 outlines.symm with ⟨former, there, equal⟩
  exact ⟨former, there, equal.symm⟩

theorem registeredRef? (same : SameOutline before after) (id : String) :
    after.registeredRef? id = before.registeredRef? id := by
  rw [Router.registeredRef?, same.registered]
  rfl

theorem setCluster {ref : ClusterRef} {former cluster : Cluster}
    (present : router.cluster? ref = some former)
    (kept : cluster.outline = former.outline) :
    SameOutline router (router.setCluster ref cluster) := by
  refine ⟨rfl, rfl, rfl, rfl, fun other => ?_⟩
  rw [cluster?_setCluster present]
  split
  · rename_i here
    rw [here, present]
    exact congrArg some kept
  · rfl

theorem mapCluster (router : Router) (ref : ClusterRef) {change : Cluster → Cluster}
    (kept : ∀ cluster, (change cluster).outline = cluster.outline) :
    SameOutline router (router.mapCluster ref change) := by
  unfold Router.mapCluster
  split
  · exact .refl router
  · rename_i cluster present
    exact .setCluster present (kept cluster)

end SameOutline

/-! What alarms are set for. -/

private theorem sameOutline_scheduleTick (router : Router) (ref : ClusterRef)
    (loop : Nat) :
    SameOutline router (router.scheduleTick ref loop) := by
  unfold scheduleTick
  split
  · exact .refl router
  · exact ⟨rfl, rfl, rfl, rfl, fun _ => rfl⟩

theorem sameOutline_judge (router : Router) (ref : ClusterRef) (policy : ActivePolicy)
    (outcome : BatchEnd) :
    SameOutline router (router.judge ref policy outcome).value := by
  cases outcome with
  | crashed => exact .refl router
  | completed results =>
      simp only [judge, Traced.value_map, value_withCluster]
      exact .mapCluster router ref fun cluster =>
        (Cluster.onlyHealth_settleProbes cluster policy results).outline

private theorem sameOutline_settle (router : Router) (ref : ClusterRef) (loop : Nat)
    (policy : ActivePolicy) (outcome : BatchEnd) :
    SameOutline router (router.settle ref loop policy outcome).value := by
  have judged := sameOutline_judge router ref policy outcome
  unfold settle
  split <;> exact judged.trans (sameOutline_scheduleTick _ ref loop)

end Router

namespace Scene

variable {scene : Scene}

private theorem sameOutline_tick (scene : Scene) (ref : ClusterRef) (loop : Nat) :
    Router.SameOutline scene.router (scene.tick ref loop).value.router := by
  have same := router_send scene ref
  simp only [tick, Traced.value_bind]
  generalize (scene.send ref).value = result at same ⊢
  rcases result with ⟨after, sent⟩
  dsimp only at same ⊢
  rw [← same]
  cases sent with
  | none => exact Router.sameOutline_scheduleTick _ ref loop
  | some answer =>
      rcases answer with ⟨policy, batch⟩
      dsimp only
      split
      · exact Router.sameOutline_settle _ ref loop policy _
      · exact ⟨rfl, rfl, rfl, rfl, fun _ => rfl⟩

theorem sameOutline_wake (scene : Scene) (alarm : Alarm) :
    Router.SameOutline scene.router (scene.wake alarm).value.router := by
  unfold wake
  split
  · rename_i exclusion _
    simp only [Traced.value_bind, Traced.value_pure, Router.value_withCluster]
    exact .mapCluster scene.router alarm.cluster fun cluster =>
      (Cluster.onlyHealth_reactivate cluster exclusion).outline
  · exact sameOutline_tick scene alarm.cluster _
  · exact sameOutline_tick scene alarm.cluster _
  · exact Router.sameOutline_settle scene.router alarm.cluster _ _ _

end Scene

end Gateway
