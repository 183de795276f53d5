import Gateway.Proofs.Cluster.Reconciliation
import Gateway.Proofs.Registry.Application

namespace Gateway

/-! The registry reads only what it holds under the id that it works on. So in two states
that do not differ there, it does the same and tells the same. -/

namespace Traced

/-- Two computations that record the same events, and whose values are related. -/
structure Parallel {ε : Type u} {α : Type v} (Related : α → α → Prop)
    (left right : Traced ε α) : Prop where
  events : right.events = left.events
  value : Related left.value right.value

namespace Parallel

variable {ε : Type u} {α : Type v} {β : Type w} {Related : α → α → Prop}
  {Next : β → β → Prop}

theorem pure {left right : α} (related : Related left right) :
    Parallel Related (Pure.pure left : Traced ε α) (Pure.pure right) :=
  ⟨rfl, related⟩

theorem same (computation : Traced ε α) : Parallel Eq computation computation :=
  ⟨rfl, rfl⟩

theorem emit (event : ε) {left right : Traced ε α} (next : Parallel Related left right) :
    Parallel Related (Traced.emit event >>= fun _ : PUnit.{v + 1} => left)
      (Traced.emit event >>= fun _ : PUnit.{v + 1} => right) where
  events := by rw [events_bind, events_bind, next.events]
  value := next.value

theorem fold {σ : Type v} {Related : σ → σ → Prop} {step other : σ → β → Traced ε σ}
    (single : ∀ {left right} member, Related left right →
      Parallel Related (step left member) (other right member))
    {left right : σ} (related : Related left right) (members : List β) :
    Parallel Related (Traced.fold step left members)
    (Traced.fold other right members) := by
  induction members generalizing left right with
  | nil => exact .pure related
  | cons member rest induction =>
      have first := single member related
      have last := induction first.value
      refine ⟨?_, last.value⟩
      simp only [Traced.fold, events_bind, first.events, last.events]

end Parallel

theorem Parallel.bind {ε : Type u} {α β : Type v} {Related : α → α → Prop}
    {Next : β → β → Prop} {left right : Traced ε α} {leftNext rightNext : α → Traced ε β}
    (first : Parallel Related left right)
    (next : ∀ {left right}, Related left right →
      Parallel Next (leftNext left) (rightNext right)) :
    Parallel Next (left >>= leftNext) (right >>= rightNext) where
  events := by
    rw [events_bind, events_bind, first.events, (next first.value).events]
  value := (next first.value).value

end Traced

namespace Router

variable {left right : Router} {id : String} {ref : ClusterRef}

/-- Two gateways that do not differ under an id. -/
structure Mirrored (id : String) (left right : Router) :
    Prop extends Untouched id left right where
  policies : right.policies = left.policies
  background : right.background = left.background
  now : right.now = left.now

/-- The same, with a result that is equal. -/
def MirroredWith {α : Type u} (id : String) (left right : Router × α) : Prop :=
  Mirrored id left.1 right.1 ∧ right.2 = left.2

namespace Mirrored

section Here

variable (mirrored : Mirrored id left right) (here : ref.id = id)

include mirrored

private theorem setClusters {leftClusters rightClusters : Keyed (List Cluster)}
    (same : (rightClusters.get? id).getD [] = (leftClusters.get? id).getD []) :
    Mirrored id { left with clusters := leftClusters }
    { right with clusters := rightClusters } :=
  { mirrored with incarnations := same }

private theorem setRegistered {leftRegistered rightRegistered : Keyed Nat}
    (same : rightRegistered.get? id = leftRegistered.get? id) :
    Mirrored id { left with registered := leftRegistered }
      { right with registered := rightRegistered } :=
  { mirrored with registered := same }

private theorem setProbing {leftProbing rightProbing : Keyed Nat}
    (same : rightProbing.get? id = leftProbing.get? id) :
    Mirrored id { left with probing := leftProbing }
    { right with probing := rightProbing } :=
  { mirrored with probing := same }

theorem dropAlarms (drop : Alarm → Bool) :
    Mirrored id (left.dropAlarms drop) (right.dropAlarms drop) := by
  refine { mirrored with agenda := ?_ }
  have swapped : ∀ agenda : List Alarm,
      (agenda.filter (fun alarm => !drop alarm)).filter
          (fun alarm => alarm.cluster.id == id) =
        (agenda.filter (fun alarm => alarm.cluster.id == id)).filter
          (fun alarm => !drop alarm) := by
    intro agenda
    rw [List.filter_filter, List.filter_filter]
    exact List.filter_congr fun alarm _ => Bool.and_comm _ _
  unfold Router.dropAlarms
  rw [swapped, swapped, mirrored.agenda]

theorem setAlarm (alarm : Alarm) :
    Mirrored id (left.setAlarm alarm) (right.setAlarm alarm) := by
  refine { mirrored with agenda := ?_ }
  unfold Router.setAlarm
  rw [List.filter_append, List.filter_append, mirrored.agenda]

include here

private theorem sameCluster? : right.cluster? ref = left.cluster? ref :=
  mirrored.toUntouched.cluster? here

theorem setCluster (cluster : Cluster) :
    Mirrored id (left.setCluster ref cluster) (right.setCluster ref cluster) := by
  subst here
  refine mirrored.setClusters ?_
  have same := mirrored.incarnations
  simp only [Keyed.get?_insert, if_true, Option.getD_some, same]

theorem mapCluster (change : Cluster → Cluster) :
    Mirrored id (left.mapCluster ref change) (right.mapCluster ref change) := by
  unfold Router.mapCluster
  rw [mirrored.sameCluster? here]
  cases left.cluster? ref with
  | none => exact mirrored
  | some cluster => exact mirrored.setCluster here (change cluster)

end Here

theorem addCluster (mirrored : Mirrored id left right) {cluster : Cluster}
    (here : cluster.id = id) :
    MirroredWith id (left.addCluster cluster) (right.addCluster cluster) := by
  subst here
  have same := mirrored.incarnations
  unfold Router.addCluster
  rw [same]
  refine ⟨{ mirrored with incarnations := ?_, registered := ?_ }, rfl⟩
  · simp only [incarnations, Keyed.get?_insert, if_true, Option.getD_some]
  · simp only [Keyed.get?_insert, if_true]

end Mirrored

section Here

variable (mirrored : Mirrored id left right) (here : ref.id = id)

include mirrored here

private theorem parallel_cancelLoop (loop : Nat) :
    Traced.Parallel (Mirrored id) (left.cancelLoop ref loop)
    (right.cancelLoop ref loop) := by
  unfold cancelLoop
  rw [mirrored.sameCluster? here]
  split
  · exact .emit _ (.pure ((mirrored.mapCluster here _).dropAlarms _))
  · exact .pure mirrored

private theorem parallel_stopProbing :
    Traced.Parallel (Mirrored id) (left.stopProbing ref) (right.stopProbing ref) := by
  have same : right.probing.get? ref.id = left.probing.get? ref.id :=
    here ▸ mirrored.probing
  unfold stopProbing
  rw [same]
  split
  · exact .pure mirrored
  · rename_i loop _
    refine (parallel_cancelLoop mirrored here loop).bind fun stopped => .pure ?_
    refine stopped.setProbing ?_
    rw [Keyed.get?_erase, Keyed.get?_erase, if_pos here.symm, if_pos here.symm]

private theorem parallel_spawnProbing :
    Traced.Parallel (MirroredWith id) (left.spawnProbing ref)
    (right.spawnProbing ref) := by
  unfold spawnProbing
  rw [mirrored.sameCluster? here, mirrored.background]
  split
  · split
    · exact .pure ⟨mirrored, rfl⟩
    · rename_i cluster _
      have looped := mirrored.setCluster here
        { cluster with loops := cluster.loops ++ [{ cancelled := cluster.shutDown }] }
      dsimp only
      split
      · exact .emit _ (.emit _ (.pure ⟨looped, rfl⟩))
      · rw [looped.now]
        exact .pure ⟨looped.setAlarm _, rfl⟩
  · exact .emit _ (.pure ⟨mirrored, rfl⟩)

private theorem parallel_startProbing :
    Traced.Parallel (Mirrored id) (left.startProbing ref) (right.startProbing ref) := by
  refine (parallel_spawnProbing mirrored here).bind fun {left right} spawned => ?_
  rcases left with ⟨left, loop⟩
  rcases right with ⟨right, other⟩
  rcases spawned with ⟨mirrored, same⟩
  dsimp only at mirrored same ⊢
  rw [same]
  cases loop with
  | none => exact .pure mirrored
  | some loop =>
      refine .pure (mirrored.setProbing ?_)
      rw [Keyed.get?_insert, Keyed.get?_insert, if_pos here.symm, if_pos here.symm]

private theorem parallel_updateProbing (model : ClusterModel)
    (previous : Option ClusterModel) :
    Traced.Parallel (Mirrored id) (left.updateProbing ref model previous)
      (right.updateProbing ref model previous) := by
  have same : right.probing.contains ref.id = left.probing.contains ref.id := by
    rw [Keyed.contains_eq_isSome, Keyed.contains_eq_isSome, here, mirrored.probing]
  have stopped := parallel_stopProbing mirrored here
  simp only [updateProbing, same]
  split
  · exact stopped
  · split
    · exact .pure mirrored
    · exact stopped.bind fun mirrored => parallel_startProbing mirrored here

private theorem parallel_cancelLoops :
    Traced.Parallel (Mirrored id) (left.cancelLoops ref) (right.cancelLoops ref) := by
  unfold cancelLoops
  rw [mirrored.sameCluster? here]
  exact .fold (fun loop mirrored => parallel_cancelLoop mirrored here loop) mirrored _

private theorem parallel_shutDown :
    Traced.Parallel (Mirrored id) (left.shutDown ref) (right.shutDown ref) :=
  (parallel_cancelLoops mirrored here).bind fun mirrored =>
    .pure ((mirrored.mapCluster here _).dropAlarms _)

end Here

private theorem parallel_install (mirrored : Mirrored id left right)
    {model : ClusterModel} (here : model.config.id = id) :
    Traced.Parallel (Mirrored id) (left.install model) (right.install model) := by
  unfold install
  rw [here, mirrored.toUntouched.registered?]
  split
  · rename_i ref cluster found
    have own := id_of_registeredRef? (registered?_eq_some found).1
    refine (Traced.Parallel.same _).bind fun {changed _} same => ?_
    subst same
    exact .emit _ (parallel_updateProbing (mirrored.setCluster own changed) own model _)
  · have applied : Traced.Parallel
        (fun left right : Cluster => right = left ∧ left.id = id)
        (applyModel (.ofModel model) model) (applyModel (.ofModel model) model) :=
      ⟨rfl, rfl, (id_applyModel (.ofModel model) model).trans here⟩
    refine applied.bind fun {cluster _} same => ?_
    rcases same with ⟨rfl, own⟩
    have added := mirrored.addCluster own
    dsimp only
    rw [added.2]
    exact .emit _ (parallel_updateProbing added.1 own model none)

theorem parallel_configure (mirrored : Mirrored id left right) {config : ClusterConfig}
    (here : config.id = id) :
    Traced.Parallel (MirroredWith id) (left.configure config)
    (right.configure config) := by
  unfold configure
  rw [mirrored.policies]
  split
  · exact .pure ⟨mirrored, rfl⟩
  · rename_i model resolved
    have own : model.config.id = id := by
      rw [(Policies.accepts_of_resolve resolved).settings]
      exact here
    exact (parallel_install mirrored own).bind fun installed => .pure ⟨installed, rfl⟩

theorem parallel_remove (mirrored : Mirrored id left right) :
    Traced.Parallel (MirroredWith id) (left.remove id) (right.remove id) := by
  unfold remove
  rw [mirrored.toUntouched.registeredRef?]
  split
  · exact .pure ⟨mirrored, rfl⟩
  · rename_i ref named
    have here := id_of_registeredRef? named
    have erased : Mirrored id { left with registered := left.registered.erase id }
        { right with registered := right.registered.erase id } := by
      refine mirrored.setRegistered ?_
      rw [Keyed.get?_erase, Keyed.get?_erase, if_pos rfl, if_pos rfl]
    refine (parallel_stopProbing erased here).bind fun stopped => ?_
    refine (parallel_shutDown stopped here).bind fun closed => ?_
    exact .emit _ (.pure ⟨closed, rfl⟩)

end Router

end Gateway
