import Gateway.Proofs.Cluster.Records
import Gateway.Router.Registry

namespace Gateway.Router

/-! Reading the state of a router after it was written. Clusters are told apart by
their references; one that does not exist counts as having no requests, and its
records count as fresh. -/

def healthOf (router : Router) (ref : ClusterRef) (record : Nat) : DestinationHealth :=
  ((router.cluster? ref).map (fun cluster => cluster.healthOf record)).getD {}

def requestsOf (router : Router) (ref : ClusterRef) (record : Nat) : UInt64 :=
  ((router.cluster? ref).map (fun cluster => cluster.requestsOf record)).getD 0

def requestsOn (router : Router) (ref : ClusterRef) : UInt64 :=
  ((router.cluster? ref).map Cluster.requests).getD 0

def isShutDown (router : Router) (ref : ClusterRef) : Bool :=
  (router.cluster? ref).any Cluster.shutDown

theorem healthOf_of_cluster? {router : Router} {ref : ClusterRef} {cluster : Cluster}
    (present : router.cluster? ref = some cluster) (record : Nat) :
    router.healthOf ref record = cluster.healthOf record := by
  simp [healthOf, present]

theorem requestsOf_of_cluster? {router : Router} {ref : ClusterRef} {cluster : Cluster}
    (present : router.cluster? ref = some cluster) (record : Nat) :
    router.requestsOf ref record = cluster.requestsOf record := by
  simp [requestsOf, present]

theorem requestsOn_of_cluster? {router : Router} {ref : ClusterRef} {cluster : Cluster}
    (present : router.cluster? ref = some cluster) :
    router.requestsOn ref = cluster.requests := by
  simp [requestsOn, present]

theorem isShutDown_of_cluster? {router : Router} {ref : ClusterRef} {cluster : Cluster}
    (present : router.cluster? ref = some cluster) :
    router.isShutDown ref = cluster.shutDown := by
  simp [isShutDown, present]

theorem cluster?_of_unhealthy {router : Router} {ref : ClusterRef} {record : Nat}
    (unhealthy : (router.healthOf ref record).passive = .unhealthy) :
    ∃ cluster, router.cluster? ref = some cluster := by
  cases present : router.cluster? ref with
  | none =>
      rw [healthOf, present] at unhealthy
      cases unhealthy
  | some cluster => exact ⟨cluster, rfl⟩

theorem incarnations_setCluster (router : Router) (ref : ClusterRef) (cluster : Cluster)
    (id : String) :
    (router.setCluster ref cluster).incarnations id =
      if id = ref.id then (router.incarnations ref.id).set ref.incarnation cluster
      else router.incarnations id := by
  simp only [incarnations, setCluster, Keyed.get?_insert]
  split <;> rfl

theorem cluster?_setCluster {router : Router} {ref : ClusterRef} {before : Cluster}
    (present : router.cluster? ref = some before) (after : Cluster) (other : ClusterRef) :
    (router.setCluster ref after).cluster? other =
      if other = ref then some after else router.cluster? other := by
  rcases ref with ⟨id, incarnation⟩
  rcases other with ⟨otherId, otherIncarnation⟩
  have bound : incarnation < (router.incarnations id).length :=
    (List.getElem?_eq_some_iff.1 present).1
  simp only [cluster?, incarnations_setCluster, ClusterRef.mk.injEq]
  by_cases sameId : otherId = id
  · subst sameId
    by_cases sameIncarnation : otherIncarnation = incarnation
    · subst sameIncarnation
      simp [bound]
    · simp [sameIncarnation, List.getElem?_set_ne (Ne.symm sameIncarnation)]
  · simp [sameId]

theorem setCluster_self {router : Router} {ref : ClusterRef} {cluster : Cluster}
    (present : router.cluster? ref = some cluster) :
    router.setCluster ref cluster = router := by
  have stored : (router.incarnations ref.id)[ref.incarnation]? = some cluster := present
  rcases List.getElem?_eq_some_iff.1 stored with ⟨bound, same⟩
  have kept : (router.incarnations ref.id).set ref.incarnation cluster =
      router.incarnations ref.id := by
    rw [← same]
    exact List.set_getElem_self bound
  have there : router.clusters.get? ref.id = some (router.incarnations ref.id) := by
    unfold incarnations at bound ⊢
    cases found : router.clusters.get? ref.id with
    | none =>
        rw [found] at bound
        cases bound
    | some incarnations => rfl
  have clusters :
      router.clusters.insert ref.id (router.incarnations ref.id) = router.clusters := by
    apply Keyed.ext_get?
    intro id
    rw [Keyed.get?_insert]
    split
    · rename_i here
      rw [here, there]
    · rfl
  rw [setCluster, kept, clusters]

theorem cluster?_mapCluster (router : Router) (ref : ClusterRef)
    (change : Cluster → Cluster) (other : ClusterRef) :
    (router.mapCluster ref change).cluster? other =
      if other = ref then
        (router.cluster? ref).map change else router.cluster? other := by
  unfold mapCluster
  split
  · rename_i missing
    split
    · rename_i same
      rw [same, missing]
      rfl
    · rfl
  · rename_i cluster present
    rw [cluster?_setCluster present, present]
    rfl

theorem incarnations_addCluster (router : Router) (cluster : Cluster) (id : String) :
    (router.addCluster cluster).1.incarnations id =
      if id = cluster.id then router.incarnations cluster.id ++ [cluster]
      else router.incarnations id := by
  simp only [incarnations, addCluster, Keyed.get?_insert]
  split <;> rfl

theorem cluster?_addCluster (router : Router) (cluster : Cluster) (other : ClusterRef) :
    (router.addCluster cluster).1.cluster? other =
      if other = (router.addCluster cluster).2 then some cluster
        else router.cluster? other := by
  rcases other with ⟨id, incarnation⟩
  have same : ({ id, incarnation } : ClusterRef) = (router.addCluster cluster).2 ↔
      id = cluster.id ∧ incarnation = (router.incarnations cluster.id).length :=
    iff_of_eq (ClusterRef.mk.injEq ..)
  simp only [cluster?, incarnations_addCluster, same]
  by_cases sameId : id = cluster.id
  · subst sameId
    rw [if_pos rfl]
    rcases Nat.lt_trichotomy incarnation (router.incarnations cluster.id).length with
      before | last | beyond
    · rw [List.getElem?_append_left before, if_neg fun same => Nat.ne_of_lt before same.2]
    · rw [if_pos ⟨rfl, last⟩, last, List.getElem?_concat_length]
    · rw [if_neg fun same => Nat.ne_of_gt beyond same.2,
        List.getElem?_eq_none (by rw [List.length_append, List.length_singleton]; omega),
        List.getElem?_eq_none (by omega)]
  · rw [if_neg sameId, if_neg fun same => sameId same.1]

theorem cluster?_added_eq_none (router : Router) (cluster : Cluster) :
    router.cluster? (router.addCluster cluster).2 = none := by
  simp [cluster?, addCluster]

/-! A part of the state that depends on each cluster alone changes where the cluster
does, and nowhere if the change keeps that part. -/

section Views

variable {α : Type} (view : Cluster → α) (absent : α)

theorem view_setCluster {router : Router} {ref : ClusterRef} {before after : Cluster}
    (present : router.cluster? ref = some before) (kept : view after = view before)
    (other : ClusterRef) :
    (((router.setCluster ref after).cluster? other).map view).getD absent =
      ((router.cluster? other).map view).getD absent := by
  rw [cluster?_setCluster present]
  split
  · rename_i same
    rw [same, present]
    exact kept
  · rfl

theorem view_addCluster (router : Router) {cluster : Cluster}
    (fresh : view cluster = absent) (other : ClusterRef) :
    (((router.addCluster cluster).1.cluster? other).map view).getD absent =
      ((router.cluster? other).map view).getD absent := by
  rw [cluster?_addCluster]
  split
  · rename_i same
    rw [same, cluster?_added_eq_none]
    exact fresh
  · rfl

end Views

theorem isShutDown_setCluster {router : Router} {ref : ClusterRef}
    {before after : Cluster} (present : router.cluster? ref = some before)
    (kept : after.shutDown = before.shutDown) (other : ClusterRef) :
    (router.setCluster ref after).isShutDown other = router.isShutDown other := by
  rw [isShutDown, cluster?_setCluster present]
  split
  · rename_i same
    rw [same, isShutDown_of_cluster? present, ← kept]
    rfl
  · rfl

theorem healthOf_setCluster {router : Router} {ref : ClusterRef} {before after : Cluster}
    (present : router.cluster? ref = some before) (other : ClusterRef) (record : Nat) :
    (router.setCluster ref after).healthOf other record =
      if other = ref then after.healthOf record else router.healthOf other record := by
  rw [healthOf, cluster?_setCluster present]
  split <;> rfl

theorem healthPart_setCluster {α : Type} {router : Router} {ref : ClusterRef}
    {before after : Cluster} (present : router.cluster? ref = some before)
    (part : DestinationHealth → α) (other : ClusterRef) {record : Nat}
    (kept : part (after.healthOf record) = part (before.healthOf record)) :
    part ((router.setCluster ref after).healthOf other record) =
      part (router.healthOf other record) := by
  rw [healthOf_setCluster present]
  split
  · rename_i same
    rw [same, healthOf_of_cluster? present, kept]
  · rfl

end Gateway.Router
