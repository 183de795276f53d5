import Gateway.Proofs.Probing.Beats
import Gateway.Proofs.Registry.Application

namespace Gateway

/-! Parts of clusters that others than their authors leave alone. A cluster keeps the
health of its records, the requests that are counted and the turn of the load balancer
through all reconfigurations; and requests change neither health nor lists before they
end. -/

/-- What every configuration and every removal obeys, and what can be followed from one to
the next, any reconfiguration obeys. -/
theorem Scene.reconfigured_related (Related : Router → Router → Prop)
    (refl : ∀ router, Related router router)
    (trans : ∀ {before middle after}, Related before middle → Related middle after →
      Related before after)
    (configured : ∀ router config, Related router (router.configure config).value.1)
    (removed : ∀ router id, Related router (router.remove id).value.1)
    (scene : Scene) {operation : Operation}
    (reconfigures : operation.reconfigures = true) :
    Related scene.router (scene.perform operation).value.router := by
  cases operation with
  | configure config => exact configured scene.router config
  | applySnapshot configs =>
      have entries : Related scene.router (scene.router.configureAll configs).1 :=
        Traced.fold_related
          (fun before after : Router × List ConfigurationFault =>
            Related before.1 after.1)
          (fun _ => refl _) trans
          (fun state config => by
            rw [Router.router_configureEntry]
            exact configured state.1 config)
          (scene.router, []) configs
      exact trans entries (Traced.fold_related Related refl trans removed _ _)
  | remove id => exact removed scene.router id
  | _ => cases reconfigures

namespace Cluster

/-- A part of clusters that lasts: no new model, no probe loop and no removal changes it,
and on a new cluster it is what is read where there is no cluster. -/
structure Lasting {α : Type} (part : Cluster → α) (absent : α) : Prop where
  applied : ∀ cluster model, part (Router.applyModel cluster model).value = part cluster
  new : ∀ model, part (.ofModel model) = absent
  looped : ∀ cluster, part cluster.withoutLoops = part cluster
  closed : ∀ cluster, part { cluster with shutDown := true } = part cluster

theorem lasting_healthOf (record : Nat) :
    Lasting (fun cluster => cluster.healthOf record) {} where
  applied := fun cluster model => healthOf_applyModel cluster model record
  new := fun _ => rfl
  looped := fun _ => rfl
  closed := fun _ => rfl

theorem lasting_requests : Lasting Cluster.requests 0 where
  applied := fun cluster model => (sameRequests_applyModel cluster model).requests
  new := fun _ => rfl
  looped := fun _ => rfl
  closed := fun _ => rfl

theorem lasting_requestsOf (record : Nat) :
    Lasting (fun cluster => cluster.requestsOf record) 0 where
  applied := fun cluster model =>
    (sameRequests_applyModel cluster model).requestsOf record
  new := fun _ => rfl
  looped := fun _ => rfl
  closed := fun _ => rfl

theorem lasting_cursor : Lasting Cluster.cursor 0 where
  applied := by
    intro cluster model
    simp only [Router.applyModel, reconcile]
    split <;> rfl
  new := fun _ => rfl
  looped := fun _ => rfl
  closed := fun _ => rfl

/-- A part of clusters that requests do not change before they end. -/
structure Unrequested {α : Type} (part : Cluster → α) : Prop where
  turned : ∀ cluster cursor, part { cluster with cursor } = part cluster
  counted : ∀ cluster record,
    part (cluster.incrementRequests.modifyRecord record Destination.increment) =
      part cluster

theorem unrequested_healthOf (record : Nat) :
    Unrequested (fun cluster => cluster.healthOf record) where
  turned := fun _ _ => rfl
  counted := fun cluster taken =>
    Destination.healthAt_modify cluster.records taken record Destination.increment
      fun _ => rfl

def lists (cluster : Cluster) : List Nat × List Nat :=
  (cluster.all, cluster.available)

theorem unrequested_lists : Unrequested lists where
  turned := fun _ _ => rfl
  counted := fun _ _ => rfl

end Cluster

namespace Router

variable {α : Type} {part : Cluster → α} {absent : α}
  {router before middle after : Router} {ref : ClusterRef}

/-- Two states of a gateway in which a part of every cluster is the same. -/
def SamePart (part : Cluster → α) (absent : α) (before after : Router) : Prop :=
  ∀ ref, ((after.cluster? ref).map part).getD absent =
    ((before.cluster? ref).map part).getD absent

theorem SamePart.refl (part : Cluster → α) (absent : α) (router : Router) :
    SamePart part absent router router :=
  fun _ => rfl

theorem SamePart.trans (first : SamePart part absent before middle)
    (last : SamePart part absent middle after) : SamePart part absent before after :=
  fun ref => (last ref).trans (first ref)

section Lasting

variable (lasting : Cluster.Lasting part absent)

include lasting

private theorem samePart_of_sameButLoops (same : SameButLoops before after) :
    SamePart part absent before after :=
  fun ref => congrArg (Option.getD · absent) (same.view part lasting.looped ref)

private theorem samePart_install (router : Router) (model : ClusterModel) :
    SamePart part absent router (router.install model).value := by
  unfold install
  split
  · rename_i ref cluster found
    have applied : SamePart part absent router
        (router.setCluster ref (applyModel cluster model).value) :=
      view_setCluster part absent (registered?_eq_some found).2
        (lasting.applied cluster model)
    exact applied.trans
      (samePart_of_sameButLoops lasting (sameButLoops_updateProbing _ ref model _))
  · have fresh : part (applyModel (.ofModel model) model).value = absent :=
      (lasting.applied _ model).trans (lasting.new model)
    have added : SamePart part absent router
        (router.addCluster (applyModel (.ofModel model) model).value).1 :=
      view_addCluster part absent router fresh
    exact added.trans
      (samePart_of_sameButLoops lasting (sameButLoops_updateProbing _ _ model none))

private theorem samePart_configure (router : Router) (config : ClusterConfig) :
    SamePart part absent router (router.configure config).value.1 := by
  unfold configure
  split
  · exact .refl part absent router
  · exact samePart_install lasting router _

private theorem samePart_remove (router : Router) (id : String) :
    SamePart part absent router (router.remove id).value.1 := by
  unfold remove
  split
  · exact .refl part absent router
  · rename_i ref _
    let unregistered : Router := { router with registered := router.registered.erase id }
    have stopped :
        SamePart part absent unregistered (unregistered.stopProbing ref).value :=
      samePart_of_sameButLoops lasting (sameButLoops_stopProbing unregistered ref)
    have cancelled := sameButLoops_cancelLoops (unregistered.stopProbing ref).value ref
    have closed : ∀ router : Router, SamePart part absent router (router.close ref) := by
      intro router
      unfold close mapCluster
      split
      · exact .refl part absent router
      · rename_i cluster present
        exact view_setCluster part absent present (lasting.closed cluster)
    have dropped : ∀ router : Router, SamePart part absent router
        (router.dropAlarms (fun alarm => alarm.cluster == ref)) := fun _ _ => rfl
    have left : SamePart part absent unregistered
        ((unregistered.stopProbing ref).value.shutDown ref).value := by
      rw [value_shutDown]
      exact (stopped.trans (samePart_of_sameButLoops lasting cancelled)).trans
        ((closed _).trans (dropped _))
    simp only [Traced.value_bind, Traced.value_pure]
    exact left

end Lasting

section Unrequested

variable (unrequested : Cluster.Unrequested part)

include unrequested

theorem samePart_acquire (router : Router) (ref : ClusterRef) (record : Nat) :
    SamePart part absent router (router.acquire ref record).1 := by
  have counted : SamePart part absent router (router.mapCluster ref (fun cluster =>
      cluster.incrementRequests.modifyRecord record Destination.increment)) := by
    unfold mapCluster
    split
    · exact .refl part absent router
    · rename_i cluster present
      exact view_setCluster part absent present (unrequested.counted cluster record)
  exact counted

private theorem samePart_pick (router : Router) {cluster : Cluster}
    (present : router.cluster? ref = some cluster) (model : ClusterModel)
    (request : Http.Request) :
    SamePart part absent router (router.pick ref model cluster request).value.1 := by
  simp only [pick, Traced.value_bind, Traced.value_pure]
  exact view_setCluster part absent present (unrequested.turned cluster _)

theorem samePart_pickNow (router : Router) (ref : ClusterRef) (request : Http.Request) :
    SamePart part absent router (router.pickNow ref request).value := by
  unfold pickNow
  split
  · exact .refl part absent router
  · rename_i cluster present
    exact samePart_pick unrequested router present cluster.model request

theorem samePart_start (router : Router) (ref : ClusterRef) (request : Http.Request) :
    SamePart part absent router (router.start ref request).value.1 := by
  unfold start
  split
  · exact .refl part absent router
  · rename_i cluster present
    have picked : SamePart part absent router
        (router.pick ref cluster.model cluster request).value.1 :=
      samePart_pick unrequested router present cluster.model request
    simp only [Traced.value_bind]
    split
    · exact picked
    · exact picked.trans (samePart_acquire unrequested _ ref _)

end Unrequested

end Router

theorem Scene.samePart_perform {α : Type} {part : Cluster → α} {absent : α}
    (lasting : Cluster.Lasting part absent) {scene : Scene} {operation : Operation}
    (reconfigures : operation.reconfigures = true) :
    Router.SamePart part absent scene.router (scene.perform operation).value.router :=
  scene.reconfigured_related (Router.SamePart part absent) (.refl part absent) .trans
    (Router.samePart_configure lasting) (Router.samePart_remove lasting) reconfigures

theorem Scene.part_perform {α : Type} {part : Cluster → α} {absent : α}
    (lasting : Cluster.Lasting part absent) {scene : Scene} {operation : Operation}
    (reconfigures : operation.reconfigures = true) {ref : ClusterRef} {cluster : Cluster}
    (present : (scene.perform operation).value.router.cluster? ref = some cluster) :
    part cluster = ((scene.router.cluster? ref).map part).getD absent := by
  have same : Router.SamePart part absent scene.router _ :=
    samePart_perform lasting reconfigures
  have here := same ref
  rwa [present] at here

end Gateway
