import Gateway.Proofs.Registry.Loops
import Gateway.Proofs.Router.Requests
import Mathlib.Data.List.Induction

namespace Gateway

/-! What a snapshot comes to. Its entries are applied one after the other, and each is
accepted or refused by itself; so for each id the last entry that is accepted counts. -/

namespace Policies

def accepted (policies : Policies) (configs : List ClusterConfig) : List ClusterConfig :=
  configs.filter (fun config => (policies.resolve config).isOk)

def acceptedFor (policies : Policies) (id : String) (configs : List ClusterConfig) :
    List ClusterConfig :=
  (policies.accepted configs).filter (fun config => config.id == id)

def faults (policies : Policies) (configs : List ClusterConfig) :
    List ConfigurationFault :=
  configs.filterMap (fun config =>
    match policies.resolve config with
    | .ok _ => none
    | .error fault => some fault)

theorem mem_of_mem_acceptedFor {policies : Policies} {id : String}
    {configs : List ClusterConfig} {config : ClusterConfig}
    (member : config ∈ policies.acceptedFor id configs) :
    config ∈ configs ∧ config.id = id := by
  rcases List.mem_filter.1 member with ⟨accepted, own⟩
  exact ⟨(List.mem_filter.1 accepted).1, beq_iff_eq.1 own⟩

section Concat

variable {policies : Policies} {config : ClusterConfig} {id : String}

private theorem accepted_concat_of_ok {model : ClusterModel}
    (resolved : policies.resolve config = .ok model) (configs : List ClusterConfig) :
    policies.accepted (configs ++ [config]) = policies.accepted configs ++ [config] := by
  simp [accepted, resolved, Except.isOk, Except.toBool]

private theorem accepted_concat_of_error {fault : ConfigurationFault}
    (refused : policies.resolve config = .error fault) (configs : List ClusterConfig) :
    policies.accepted (configs ++ [config]) = policies.accepted configs := by
  simp [accepted, refused, Except.isOk, Except.toBool]

theorem acceptedFor_concat_of_error {fault : ConfigurationFault}
    (refused : policies.resolve config = .error fault) (id : String)
    (configs : List ClusterConfig) :
    policies.acceptedFor id (configs ++ [config]) = policies.acceptedFor id configs := by
  rw [acceptedFor, accepted_concat_of_error refused, acceptedFor]

theorem acceptedFor_concat_of_ok {model : ClusterModel}
    (resolved : policies.resolve config = .ok model) (own : config.id = id)
    (configs : List ClusterConfig) :
    policies.acceptedFor id (configs ++ [config]) =
      policies.acceptedFor id configs ++ [config] := by
  simp [acceptedFor, accepted_concat_of_ok resolved, own]

theorem acceptedFor_concat_of_ne (elsewhere : config.id ≠ id)
    (configs : List ClusterConfig) :
    policies.acceptedFor id (configs ++ [config]) = policies.acceptedFor id configs := by
  simp [acceptedFor, accepted, elsewhere]

end Concat

end Policies

namespace Router

variable {policies : Policies} {router : Router} {id : String} {ref : ClusterRef}

/-! The entries of a snapshot, one after the other. -/

/-- Under an id a cluster is configured, with some model. -/
def Configured (router : Router) (ref : ClusterRef) (model : ClusterModel) : Prop :=
  router.registeredRef? ref.id = some ref ∧
    (router.cluster? ref).map Cluster.model = some model

theorem Configured.registered? {model : ClusterModel}
    (configured : router.Configured ref model) :
    ∃ cluster,
      router.registered? ref.id = some (ref, cluster) ∧ cluster.model = model := by
  rcases Option.map_eq_some_iff.1 configured.2 with ⟨cluster, present, own⟩
  refine ⟨cluster, ?_, own⟩
  rw [registered?_of_named configured.1, present, Option.map_some]

theorem Untouched.configured {before after : Router}
    (untouched : Untouched ref.id before after) {model : ClusterModel}
    (configured : before.Configured ref model) :
    after.Configured ref model := by
  refine ⟨untouched.registeredRef?.trans configured.1, ?_⟩
  rw [untouched.cluster? rfl]
  exact configured.2

/-- A model is installed on the cluster that has its id, or on a new one. What comes of it
is told apart from the probe loops, which are brought in line afterwards. -/
theorem registered?_install (router : Router) (model : ClusterModel) :
    ∃ ref cluster former, ref.id = model.config.id ∧
      (router.install model).value.registered? ref.id = some (ref, cluster) ∧
      cluster.withoutLoops = (applyModel former model).value.withoutLoops ∧
      (router.registered? model.config.id = some (ref, former) ∨
        router.registered? model.config.id = none ∧ former = .ofModel model) := by
  have entered : ∀ {middle : Router} {ref : ClusterRef} {cluster : Cluster}
      (previous : Option ClusterModel), middle.registeredRef? ref.id = some ref →
      middle.cluster? ref = some cluster →
      ∃ found, (middle.updateProbing ref model previous).value.registered? ref.id =
        some (ref, found) ∧ found.withoutLoops = cluster.withoutLoops := by
    intro middle ref cluster previous named present
    have same := sameButLoops_updateProbing middle ref model previous
    have clusters := same.clusters ref
    rw [present, Option.map_some] at clusters
    rcases Option.map_eq_some_iff.1 clusters with ⟨found, there, alike⟩
    exact ⟨found, registered?_iff.2 ⟨(same.registeredRef? ref.id).trans named, there⟩,
      alike⟩
  unfold install
  split
  · rename_i ref former found
    rcases registered?_iff.1 found with ⟨named, present⟩
    have here := id_of_registeredRef? named
    have set : (router.setCluster ref (applyModel former model).value).cluster? ref =
        some (applyModel former model).value := by
      rw [cluster?_setCluster present, if_pos rfl]
    rcases entered (some former.model) (here ▸ named) set with ⟨cluster, after, alike⟩
    exact ⟨ref, cluster, former, here, after, alike, .inl found⟩
  · rename_i nobody
    let added := router.addCluster (applyModel (.ofModel model) model).value
    have named : added.1.registeredRef? added.2.id = some added.2 := by
      rw [registeredRef?_addCluster]
      exact if_pos rfl
    have present :
        added.1.cluster? added.2 = some (applyModel (.ofModel model) model).value := by
      rw [cluster?_addCluster, if_pos rfl]
    rcases entered none named present with ⟨cluster, after, alike⟩
    exact ⟨added.2, cluster, .ofModel model, id_applyModel (.ofModel model) model,
      after, alike, .inr ⟨nobody, rfl⟩⟩

private theorem configured_install (known : Known policies router)
    (model : ClusterModel) :
    ∃ ref, ref.id = model.config.id ∧ (router.install model).value.Configured ref model ∧
      ∀ former, router.registeredRef? model.config.id = some former → ref = former := by
  rcases registered?_install router model with
    ⟨ref, cluster, former, here, found, alike, before⟩
  rcases registered?_iff.1 found with ⟨named, present⟩
  refine ⟨ref, here, ⟨named, ?_⟩, fun other alsoNamed => ?_⟩
  · have model :=
      (congrArg Cluster.model alike :).trans (Cluster.model_applyModel former model)
    rw [present, Option.map_some]
    exact congrArg some model
  · rcases known.registered _ other alsoNamed with ⟨there, alsoPresent, -⟩
    have registered := registered?_iff.2 ⟨alsoNamed, alsoPresent⟩
    rcases before with same | ⟨nobody, -⟩
    · rw [registered, Option.some.injEq, Prod.mk.injEq] at same
      exact same.1.symm
    · rw [nobody] at registered
      cases registered

theorem configure_of_error (known : Known policies router) {config : ClusterConfig}
    {fault : ConfigurationFault} (refused : policies.resolve config = .error fault) :
    (router.configure config).value.1 = router := by
  simp only [configure, known.tables, refused, Traced.value_pure]

theorem configure_of_ok (known : Known policies router) {config : ClusterConfig}
    {model : ClusterModel} (accepted : policies.resolve config = .ok model) :
    (router.configure config).value.1 = (router.install model).value := by
  simp only [configure, known.tables, accepted, Traced.value_bind, Traced.value_pure]

/-- One entry: it is refused and changes nothing, or it is accepted and configures its
cluster. Other clusters are not touched. -/
theorem value_configureEntry (known : Known policies router)
    (faults : List ConfigurationFault) (config : ClusterConfig) :
    let after := (configureEntry (router, faults) config).value
    (∀ fault, policies.resolve config = .error fault →
      after = (router, faults ++ [fault])) ∧
      (∀ model, policies.resolve config = .ok model →
        after.2 = faults ∧ ∃ ref, ref.id = config.id ∧ after.1.Configured ref model ∧
          ∀ former, router.registeredRef? config.id = some former → ref = former) ∧
      ∀ id, config.id ≠ id → Untouched id router after.1 := by
  have entry : ∀ result, router.policies.resolve config = result →
      (configureEntry (router, faults) config).value = (match result with
        | .ok model => ((router.install model).value, faults)
        | .error fault => (router, faults ++ [fault])) := by
    intro result resolved
    simp only [configureEntry, configure, resolved, Traced.value_bind]
    cases result <;> rfl
  rw [known.tables] at entry
  refine ⟨fun fault refused => entry _ refused, fun model accepted => ?_,
    fun id elsewhere => ?_⟩
  · have settings := (Policies.accepts_of_resolve accepted).settings
    rw [entry _ accepted, ← settings]
    exact ⟨rfl, configured_install known model⟩
  · have untouched := untouched_configure known elsewhere
    simp only [configureEntry, Traced.value_bind]
    split <;> exact untouched

def configureAll (router : Router) (configs : List ClusterConfig) :
    Router × List ConfigurationFault :=
  (Traced.fold configureEntry (router, []) configs).value

theorem router_configureEntry (state : Router × List ConfigurationFault)
    (config : ClusterConfig) :
    (configureEntry state config).value.1 = (state.1.configure config).value.1 := by
  simp only [configureEntry, Traced.value_bind]
  split <;> rfl

theorem configureAll_concat (router : Router) (configs : List ClusterConfig)
    (config : ClusterConfig) :
    router.configureAll (configs ++ [config]) =
      (configureEntry (router.configureAll configs) config).value := by
  rw [configureAll, Traced.value_fold_append]
  rfl

/-- What the entries of a snapshot come to: why some were refused, and for each id the
model of the last one that was accepted, on the cluster that was there if there was one.
An id for which none was accepted is not touched. -/
structure Applied (policies : Policies) (before : Router) (configs : List ClusterConfig)
    (result : Router × List ConfigurationFault) : Prop where
  known : Known policies result.1
  faults : result.2 = policies.faults configs
  latest : ∀ id config, (policies.acceptedFor id configs).getLast? = some config →
    ∃ model ref, policies.resolve config = .ok model ∧ ref.id = id ∧
      result.1.Configured ref model ∧
      ∀ former, before.registeredRef? id = some former → ref = former
  untouched : ∀ id, policies.acceptedFor id configs = [] → Untouched id before result.1

theorem Applied.kept {configs : List ClusterConfig}
    {result : Router × List ConfigurationFault}
    (applied : Applied policies router configs result)
    (named : router.registeredRef? id = some ref) :
    result.1.registeredRef? id = some ref := by
  cases last : (policies.acceptedFor id configs).getLast? with
  | none =>
      rw [(applied.untouched id (List.getLast?_eq_none_iff.1 last)).registeredRef?,
        named]
  | some config =>
      rcases applied.latest id config last with
        ⟨model, current, -, here, configured, same⟩
      rw [← same ref named, ← here]
      exact configured.1

theorem Applied.entry {configs : List ClusterConfig}
    {result : Router × List ConfigurationFault}
    (applied : Applied policies router configs result) (config : ClusterConfig) :
    Applied policies router (configs ++ [config])
    (configureEntry result config).value := by
  rcases result with ⟨middle, faults⟩
  have known :=
    applied.known.moves (moves_configureEntry (middle, faults) applied.known config)
  rcases value_configureEntry applied.known faults config with
    ⟨refusing, accepting, elsewhere⟩
  cases resolved : policies.resolve config with
  | error fault =>
      have same := Policies.acceptedFor_concat_of_error resolved
      rw [refusing fault resolved]
      refine ⟨applied.known, ?_, fun id config last => ?_, fun id nothing => ?_⟩
      · have before : faults = policies.faults configs := applied.faults
        simp [Policies.faults, before, resolved]
      · rw [same] at last
        exact applied.latest id config last
      · rw [same] at nothing
        exact applied.untouched id nothing
  | ok model =>
      rcases accepting model resolved with ⟨unchanged, ref, here, configured, same⟩
      refine ⟨known, ?_, fun id latest last => ?_, fun id nothing => ?_⟩
      · have before : faults = policies.faults configs := applied.faults
        rw [unchanged, before]
        simp [Policies.faults, resolved]
      · by_cases own : config.id = id
        · rw [Policies.acceptedFor_concat_of_ok resolved own, List.getLast?_concat,
            Option.some.injEq] at last
          subst last
          exact ⟨model, ref, resolved, here.trans own, configured, fun former named =>
            same former (own ▸ applied.kept named)⟩
        · rw [Policies.acceptedFor_concat_of_ne own] at last
          rcases applied.latest id latest last with
            ⟨other, current, accepted, there, before, kept⟩
          have untouched : Untouched current.id middle _ := there ▸ elsewhere id own
          exact ⟨other, current, accepted, there, untouched.configured before, kept⟩
      · by_cases own : config.id = id
        · rw [Policies.acceptedFor_concat_of_ok resolved own] at nothing
          exact absurd nothing (List.concat_ne_nil _ _)
        · rw [Policies.acceptedFor_concat_of_ne own] at nothing
          exact (applied.untouched id nothing).trans (elsewhere id own)

theorem applied_configureAll (known : Known policies router)
    (configs : List ClusterConfig) :
    Applied policies router configs (router.configureAll configs) := by
  induction configs using List.reverseRecOn with
  | nil =>
      refine ⟨known, rfl, fun id config last => ?_, fun id _ => .refl id router⟩
      cases last
  | append_singleton configs config induction =>
      rw [configureAll_concat]
      exact induction.entry config

/-- The entries that are refused leave no trace. -/
theorem configureAll_accepted (known : Known policies router)
    (configs : List ClusterConfig) :
    (router.configureAll configs).1 =
      (router.configureAll (policies.accepted configs)).1 := by
  induction configs using List.reverseRecOn with
  | nil => rfl
  | append_singleton configs config induction =>
      have tables := (applied_configureAll known configs).known.tables
      cases resolved : policies.resolve config with
      | error fault =>
          rw [Policies.accepted_concat_of_error resolved, configureAll_concat,
            router_configureEntry, ← induction]
          simp only [configure, tables, resolved, Traced.value_pure]
      | ok model =>
          rw [Policies.accepted_concat_of_ok resolved, configureAll_concat,
            configureAll_concat, router_configureEntry, router_configureEntry, induction]

/-! The removal of the clusters that a snapshot does not mention. -/

def removeAll (router : Router) (ids : List String) : Router :=
  (Traced.fold (fun router id => Prod.fst <$> router.remove id) router ids).value

theorem untouched_removeAll (router : Router) {ids : List String} (spared : id ∉ ids) :
    Untouched id router (router.removeAll ids) := by
  induction ids generalizing router with
  | nil => exact .refl id router
  | cons other rest induction =>
      have different : other ≠ id := fun same => spared (same ▸ List.mem_cons_self)
      exact (untouched_remove router different).trans
        (induction _ fun member => spared (List.mem_cons_of_mem _ member))

theorem Gone.removeAll (gone : router.Gone ref) (ids : List String) :
    (router.removeAll ids).Gone ref := by
  induction ids generalizing router with
  | nil => exact gone
  | cons other rest induction => exact induction (gone.remove other)

private theorem gone_removeAll (named : router.registeredRef? id = some ref)
    (present : (router.cluster? ref).isSome = true) {ids : List String}
    (dropped : id ∈ ids) :
    (router.removeAll ids).Gone ref := by
  induction ids generalizing router with
  | nil => cases dropped
  | cons other rest induction =>
      by_cases here : other = id
      · subst here
        exact (gone_remove named present).removeAll rest
      · have untouched := untouched_remove router here
        have still := untouched.cluster? (id_of_registeredRef? named)
        exact induction (untouched.registeredRef?.trans named)
          ((congrArg Option.isSome still).trans present)
          (List.mem_of_ne_of_mem (Ne.symm here) dropped)

def unmentioned (router : Router) (configs : List ClusterConfig) : List String :=
  router.registered.keys.filter (fun id => !(configs.map ClusterConfig.id).contains id)

theorem value_applySnapshot (router : Router) (configs : List ClusterConfig) :
    (router.applySnapshot configs).value =
      ((router.configureAll configs).1.removeAll
          ((router.configureAll configs).1.unmentioned configs),
        (router.configureAll configs).2) := rfl

theorem mem_unmentioned_iff (configs : List ClusterConfig) :
    id ∈ router.unmentioned configs ↔
      (∃ ref, router.registeredRef? id = some ref) ∧ ∀ config ∈ configs,
        config.id ≠ id := by
  rw [unmentioned, List.mem_filter, Keyed.mem_keys_iff]
  apply and_congr
  · simp only [registeredRef?, Option.map_eq_some_iff]
    constructor
    · rintro ⟨incarnation, found⟩
      exact ⟨_, incarnation, found, rfl⟩
    · rintro ⟨_, incarnation, found, _⟩
      exact ⟨incarnation, found⟩
  · simp

private theorem unmentioned_congr {configs others : List ClusterConfig}
    (alike : ∀ id, (∀ config ∈ others, config.id ≠ id) ↔ ∀ config ∈ configs,
      config.id ≠ id) :
    router.unmentioned others = router.unmentioned configs := by
  refine List.filter_congr fun id _ => ?_
  rw [Bool.eq_iff_iff]
  simpa using alike id

theorem untouched_of_mentioned (router : Router) {configs : List ClusterConfig}
    (mentioned : ∃ config ∈ configs, config.id = id) :
    Untouched id router (router.removeAll (router.unmentioned configs)) := by
  rcases mentioned with ⟨config, member, own⟩
  refine untouched_removeAll router fun dropped => ?_
  exact ((mem_unmentioned_iff configs).1 dropped).2 config member own

section Unmentioned

variable (known : Known policies router) {configs : List ClusterConfig}
  (missing : ∀ config ∈ configs, config.id ≠ id)

include known missing

theorem gone_of_unmentioned (named : router.registeredRef? id = some ref) :
    (router.removeAll (router.unmentioned configs)).Gone ref := by
  rcases known.registered id ref named with ⟨cluster, present, -⟩
  exact gone_removeAll named (Option.isSome_of_eq_some present)
    ((mem_unmentioned_iff configs).2 ⟨⟨ref, named⟩, missing⟩)

theorem registeredRef?_of_unmentioned :
    (router.removeAll (router.unmentioned configs)).registeredRef? id = none := by
  cases named : router.registeredRef? id with
  | none =>
      refine (untouched_removeAll router fun member => ?_).registeredRef?.trans named
      rcases ((mem_unmentioned_iff configs).1 member).1 with ⟨ref, there⟩
      rw [named] at there
      cases there
  | some ref =>
      rw [← id_of_registeredRef? named]
      exact (gone_of_unmentioned known missing named).unregistered

private theorem registered?_of_unmentioned :
    (router.removeAll (router.unmentioned configs)).registered? id = none :=
  registered?_of_unnamed (registeredRef?_of_unmentioned known missing)

end Unmentioned

end Router

namespace Scene

/-- What a snapshot comes to in every reachable state, whatever its entries are. For each
id the last entry that is accepted is in force, on the cluster that was there if there was
one. An id whose entries are all refused is as it was, and one that is not mentioned has
no cluster. Every refusal is reported in its turn and leaves no other trace: two snapshots
that mention the same ids and have the same accepted entries come to the same. A cluster
that is dropped is gone for good, and one that stays is not shut down. -/
theorem snapshot_applied_after (policies : Policies) (choosing : policies.Choosing)
    (background : Bool) (run : List Operation) (configs : List ClusterConfig) :
    let router := ((fresh policies background).after run).router
    let after := (router.applySnapshot configs).value.1
    (∀ id config, (policies.acceptedFor id configs).getLast? = some config →
      ∃ ref cluster, after.registered? id = some (ref, cluster) ∧
        cluster.model.config = config ∧ policies.resolve config = .ok cluster.model ∧
        ∀ former, router.registeredRef? id = some former → ref = former) ∧
    (∀ id, (∃ config ∈ configs, config.id = id) → policies.acceptedFor id configs = [] →
      after.registered? id = router.registered? id ∧ Router.Untouched id router after) ∧
    (∀ id, (∀ config ∈ configs, config.id ≠ id) → after.registered? id = none) ∧
    (router.applySnapshot configs).value.2 = policies.faults configs ∧
    (∀ others, policies.accepted others = policies.accepted configs →
      (∀ id, (∀ config ∈ others, config.id ≠ id) ↔ ∀ config ∈ configs, config.id ≠ id) →
      (router.applySnapshot others).value.1 = after) ∧
    (∀ id ref, router.registeredRef? id = some ref → after.registeredRef? id ≠ some ref →
      after.Gone ref) ∧
    ∀ id ref, after.registeredRef? id = some ref → after.isShutDown ref = false := by
  intro router after
  have known : Router.Known policies router := known_after choosing background run
  have applied := Router.applied_configureAll known configs
  let middle := (router.configureAll configs).1
  have mentioned : ∀ id, (∃ config ∈ configs, config.id = id) →
      Router.Untouched id middle after := fun _ => middle.untouched_of_mentioned
  refine ⟨fun id config last => ?_, fun id there nothing => ?_, fun id missing => ?_,
    applied.faults, fun others same alike => ?_, fun id ref named replaced => ?_,
    fun id ref named => ?_⟩
  · rcases applied.latest id config last with
      ⟨model, ref, accepted, here, configured, kept⟩
    subst here
    have there := Policies.mem_of_mem_acceptedFor (List.mem_of_getLast? last)
    rcases ((mentioned ref.id ⟨config, there⟩).configured configured).registered? with
      ⟨cluster, found, own⟩
    subst own
    exact ⟨ref, cluster, found, (Policies.accepts_of_resolve accepted).settings,
      accepted, kept⟩
  · have untouched := (applied.untouched id nothing).trans (mentioned id there)
    exact ⟨untouched.registered?, untouched⟩
  · exact Router.registered?_of_unmentioned applied.known missing
  · have configured : (router.configureAll others).1 = middle := by
      rw [Router.configureAll_accepted known, same, ← Router.configureAll_accepted known]
    rw [Router.value_applySnapshot, configured, Router.unmentioned_congr alike]
    rfl
  · have current := applied.kept named
    by_cases missing : ∀ config ∈ configs, config.id ≠ id
    · exact Router.gone_of_unmentioned applied.known missing current
    · have there : ∃ config ∈ configs, config.id = id := by simpa using missing
      exact absurd ((mentioned id there).registeredRef?.trans current) replaced
  · have knownAfter : Router.Known policies after :=
      known.moves (Router.moves_applySnapshot known configs)
    rcases knownAfter.registered id ref named with ⟨cluster, present, working⟩
    rw [Router.isShutDown_of_cluster? present, working]

/-- A snapshot for the sample: one entry that is accepted, between two that are refused
for want of an address. -/
def movedConfig : ClusterConfig :=
  { sampleConfig with destinations := .ofList [("c", { address := "http://10.0.0.3" })] }

def addressless (id : String) : ClusterConfig where
  id := id
  destinations := .ofList [("a", { address := " " })]

def mixedSnapshot : List ClusterConfig :=
  [addressless "other", movedConfig, addressless "cluster"]

theorem snapshot_applied_after_refusals :
    let policies := Policies.builtin (.ofSequence []) (.encrypting [])
    let router := ((fresh policies true).after [.configure sampleConfig]).router
    let after := (router.applySnapshot mixedSnapshot).value.1
    (∃ ref cluster, after.registered? "cluster" = some (ref, cluster) ∧
      cluster.model.config = movedConfig) ∧
      (after.registered? "other").isNone = true ∧
      (router.applySnapshot mixedSnapshot).value.2 = policies.faults mixedSnapshot ∧
      (policies.faults mixedSnapshot).length = 2 := by
  have last : ((Policies.builtin (.ofSequence []) (.encrypting [])).acceptedFor "cluster"
      mixedSnapshot).getLast? = some movedConfig := by
    decide +kernel
  have nothing : (Policies.builtin (.ofSequence []) (.encrypting [])).acceptedFor "other"
      mixedSnapshot = [] := by
    decide +kernel
  have before : (((fresh (.builtin (.ofSequence []) (.encrypting [])) true).after
      [.configure sampleConfig]).router.registered? "other").isNone = true := by
    decide +kernel
  have mentioned : ∃ config ∈ mixedSnapshot, config.id = "other" :=
    ⟨addressless "other", List.mem_cons_self, rfl⟩
  rcases snapshot_applied_after (.builtin (.ofSequence []) (.encrypting []))
    (Policies.choosing_builtin _ _) true [.configure sampleConfig] mixedSnapshot with
    ⟨latest, untouched, -, faults, -⟩
  rcases latest "cluster" movedConfig last with ⟨ref, cluster, found, settings, -⟩
  refine ⟨⟨ref, cluster, found, settings⟩, ?_, faults, by decide +kernel⟩
  rw [(untouched "other" mentioned nothing).1]
  exact before

end Scene

end Gateway
