import Gateway.Proofs.Leases.Reports
import Gateway.Proofs.Registry.Structure

namespace Gateway

/-! Reconfigurations are seen by nobody but the operator. No destination hears of one
before the next tick of its cluster. -/

namespace Effect

private theorem internal_map {α β : Type} {effect : Effect α} (internal : effect.Internal)
    (transform : α → β) : Internal (transform <$> effect) :=
  internal_bind internal (internal_pure _)

theorem internal_fold {σ α : Type} {step : σ → α → Effect σ} (Holds : σ → Prop)
    (kept : ∀ state member, Holds state → Holds (step state member).value)
    (single : ∀ state member, Holds state → (step state member).Internal) {state : σ}
    (holds : Holds state) (members : List α) :
    Internal (Traced.fold step state members) := by
  induction members generalizing state with
  | nil => exact internal_pure _
  | cons member rest induction =>
      exact internal_bind (single state member holds)
        (induction (kept state member holds))

end Effect

open Effect

private theorem Cluster.internal_reconcile (cluster : Cluster)
    (configs : Keyed DestinationConfig) :
    (cluster.reconcile configs).Internal := by
  simp only [reconcile]
  split
  · exact internal_pure _
  · exact internal_bind (internal_tellOf _ _) (internal_pure _)

namespace Router

variable {policies : Policies} {router : Router}

/-! The probe loops. -/

private theorem internal_spawnProbing (router : Router) (ref : ClusterRef) :
    (router.spawnProbing ref).Internal := by
  unfold spawnProbing
  split
  · split
    · exact internal_pure _
    · dsimp only
      split
      · exact internal_bind (internal_tellOf _ _)
          (internal_bind (internal_tellOf _ _) (internal_pure _))
      · exact internal_pure _
  · exact internal_bind (internal_tellOf _ _) (internal_pure _)

private theorem internal_cancelLoop (router : Router) (ref : ClusterRef) (loop : Nat) :
    (router.cancelLoop ref loop).Internal := by
  unfold cancelLoop
  split
  · exact internal_bind (internal_tellOf _ _) (internal_pure _)
  · exact internal_pure _

private theorem internal_stopProbing (router : Router) (ref : ClusterRef) :
    (router.stopProbing ref).Internal := by
  unfold stopProbing
  split
  · exact internal_pure _
  · exact internal_bind (internal_cancelLoop router ref _) (internal_pure _)

private theorem internal_startProbing (router : Router) (ref : ClusterRef) :
    (router.startProbing ref).Internal := by
  refine internal_bind (internal_spawnProbing router ref) ?_
  dsimp only
  split
  · exact internal_pure _
  · exact internal_pure _

private theorem internal_updateProbing (router : Router) (ref : ClusterRef)
    (model : ClusterModel) (previous : Option ClusterModel) :
    (router.updateProbing ref model previous).Internal := by
  have stopped := internal_stopProbing router ref
  simp only [updateProbing]
  split
  · exact stopped
  · split
    · exact internal_pure _
    · exact internal_bind stopped (internal_startProbing _ ref)

/-! Configuring. -/

private theorem internal_applyModel (cluster : Cluster) {model : ClusterModel}
    (known : model.availability ∈ AvailabilityPolicy.builtin) :
    (applyModel cluster model).Internal := by
  refine internal_bind (Cluster.internal_reconcile _ _) (Cluster.internal_publish ?_)
  rw [Cluster.model_reconcile]
  exact known

private theorem internal_install (router : Router) {model : ClusterModel}
    (known : model.availability ∈ AvailabilityPolicy.builtin) :
    (router.install model).Internal := by
  unfold install
  split
  · exact internal_bind (internal_applyModel _ known)
      (internal_bind (internal_tell _) (internal_updateProbing _ _ _ _))
  · exact internal_bind (internal_applyModel _ known)
      (internal_bind (internal_tell _) (internal_updateProbing _ _ _ _))

private theorem internal_configure (known : Known policies router)
    (builtin : policies.availability.entries = AvailabilityPolicy.builtin)
    (config : ClusterConfig) : (router.configure config).Internal := by
  unfold configure
  split
  · exact internal_pure _
  · rename_i model resolved
    rw [known.tables] at resolved
    have listed :=
      PolicyTable.mem_of_resolve (Policies.accepts_of_resolve resolved).availability
    rw [builtin] at listed
    exact internal_bind (internal_install router listed) (internal_pure _)

private theorem internal_configureEntry {state : Router × List ConfigurationFault}
    (known : Known policies state.1)
    (builtin : policies.availability.entries = AvailabilityPolicy.builtin)
    (config : ClusterConfig) : (configureEntry state config).Internal := by
  refine internal_bind (internal_configure known builtin config) ?_
  dsimp only
  split
  · exact internal_pure _
  · exact internal_bind (internal_tell _) (internal_pure _)

/-! Removing. -/

private theorem internal_shutDown (router : Router) (ref : ClusterRef) :
    (router.shutDown ref).Internal :=
  internal_bind
    (internal_fold (fun _ => True) (fun _ _ _ => trivial)
      (fun router loop _ => internal_cancelLoop router ref loop) trivial _)
    (internal_pure _)

private theorem internal_remove (router : Router) (id : String) :
    (router.remove id).Internal := by
  unfold remove
  split
  · exact internal_pure _
  · exact internal_bind (internal_stopProbing _ _)
      (internal_bind (internal_shutDown _ _)
        (internal_bind (internal_tell _) (internal_pure _)))

private theorem internal_applySnapshot (known : Known policies router)
    (builtin : policies.availability.entries = AvailabilityPolicy.builtin)
    (configs : List ClusterConfig) : (router.applySnapshot configs).Internal := by
  have entries : Internal (Traced.fold configureEntry (router, []) configs) :=
    internal_fold (fun state => Known policies state.1)
      (fun state config known => known.moves (moves_configureEntry state known config))
      (fun _ config known => internal_configureEntry known builtin config) known configs
  have removals : ∀ (next : Router) (ids : List String),
      Internal (Traced.fold (fun router id => Prod.fst <$> router.remove id) next ids) :=
    fun _ ids => internal_fold (fun _ => True) (fun _ _ _ => trivial)
      (fun router id _ => internal_map (internal_remove router id) Prod.fst) trivial ids
  exact internal_bind entries (internal_bind (removals _ _) (internal_pure _))

end Router

theorem Scene.internal_perform {policies : Policies} {scene : Scene}
    (known : Router.Known policies scene.router)
    (builtin : policies.availability.entries = AvailabilityPolicy.builtin)
    {operation : Operation} (reconfigures : operation.reconfigures = true) :
    (scene.perform operation).Internal := by
  have within : ∀ {α : Type} {change : Effect (Router × α)}, change.Internal →
      (scene.withRouter (Prod.fst <$> change)).Internal :=
    fun internal => internal_bind (internal_map internal Prod.fst) (internal_pure _)
  cases operation with
  | configure config => exact within (Router.internal_configure known builtin config)
  | applySnapshot configs =>
      exact within (Router.internal_applySnapshot known builtin configs)
  | remove id => exact within (Router.internal_remove scene.router id)
  | _ => cases reconfigures

end Gateway
