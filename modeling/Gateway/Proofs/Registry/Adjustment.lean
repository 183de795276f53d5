import Gateway.Proofs.Registry.Structure

namespace Gateway

/-! What reconfigurations do to the probe loops. Under one id there are three cases: the
loop goes on, or no loop runs any more, or a new one takes over. The settings of the
active checks decide which it is. -/

namespace Router

variable {policies : Policies} {router before middle after : Router} {id : String}
  {ref : ClusterRef}

def settingsOf? (router : Router) (id : String) : Option ActiveCheckConfig :=
  (router.registered? id).map (fun found => found.2.model.config.healthCheck.active)

/-- While the gateway is reconfigured the clock stands still and no loop is forgotten. -/
structure Retained (before after : Router) : Prop where
  now : after.now = before.now
  loops : ∀ ref loop, (before.loop? ref loop).isSome = true →
    (after.loop? ref loop).isSome = true

namespace Retained

theorem refl (router : Router) : Retained router router :=
  ⟨rfl, fun _ _ there => there⟩

theorem trans (first : Retained before middle) (last : Retained middle after) :
    Retained before after where
  now := last.now.trans first.now
  loops := fun ref loop there => last.loops ref loop (first.loops ref loop there)

private theorem not_yet (retained : Retained before after) {loop : Nat}
    (new : after.loop? ref loop = none) : before.loop? ref loop = none := by
  cases there : before.loop? ref loop with
  | none => rfl
  | some =>
      have kept := retained.loops ref loop (Option.isSome_of_eq_some there)
      rw [new] at kept
      cases kept

end Retained

private theorem retained_cancelLoop (router : Router) (ref : ClusterRef) (loop : Nat) :
    Retained router (router.cancelLoop ref loop).value := by
  by_cases runs : router.Runs ref loop
  · constructor
    · rcases mapCluster_fields router ref (fun cluster =>
        { cluster with loops := cluster.loops.set loop { cancelled := true } }) with
        ⟨clusters, same⟩
      rw [value_cancelLoop runs, same]
      rfl
    · intro other number there
      rw [loop?_cancelLoop runs]
      split
      · rfl
      · exact there
  · rw [value_cancelLoop_of_idle runs]
    exact .refl router

private theorem retained_stopProbing (router : Router) (ref : ClusterRef) :
    Retained router (router.stopProbing ref).value := by
  unfold stopProbing
  split
  · exact .refl router
  · rename_i loop _
    have stopped := retained_cancelLoop router ref loop
    exact ⟨stopped.now, stopped.loops⟩

private theorem retained_setCluster {former cluster : Cluster}
    (present : router.cluster? ref = some former)
    {more : List ProbeLoop} (loops : cluster.loops = former.loops ++ more) :
    Retained router (router.setCluster ref cluster) := by
  refine ⟨rfl, fun other loop there => ?_⟩
  rw [loop?, cluster?_setCluster present]
  split
  · rename_i here
    rw [here, loop?, present, Option.bind_some] at there
    have bound :=
      (List.getElem?_eq_some_iff.1 (Option.isSome_iff_exists.1 there).choose_spec).1
    rw [Option.bind_some, loops, List.getElem?_append_left bound]
    exact there
  · exact there

private theorem retained_startProbing (router : Router) (ref : ClusterRef) :
    Retained router (router.startProbing ref).value := by
  have spawned : Retained router (router.spawnProbing ref).value.1 := by
    unfold spawnProbing
    split
    · split
      · exact .refl router
      · rename_i cluster present
        have looped : Retained router (router.setCluster ref
            { cluster with loops := cluster.loops ++
              [{ cancelled := cluster.shutDown }] }) :=
          retained_setCluster present rfl
        dsimp only
        split
        · exact looped
        · exact ⟨looped.now, looped.loops⟩
    · exact .refl router
  simp only [startProbing, Traced.value_bind]
  split
  · exact spawned
  · exact ⟨spawned.now, spawned.loops⟩

private theorem retained_updateProbing (router : Router) (ref : ClusterRef)
    (model : ClusterModel) (previous : Option ClusterModel) :
    Retained router (router.updateProbing ref model previous).value := by
  have stopped := retained_stopProbing router ref
  simp only [updateProbing]
  split
  · exact stopped
  · split
    · exact .refl router
    · exact stopped.trans (retained_startProbing _ ref)

private theorem retained_shutDown (router : Router) (ref : ClusterRef) :
    Retained router (router.shutDown ref).value := by
  have cancelled : Retained router (router.cancelLoops ref).value :=
    Traced.fold_related Retained .refl .trans
      (fun router loop => retained_cancelLoop router ref loop) router _
  refine cancelled.trans ⟨?_, fun other loop there => ?_⟩
  · rw [value_shutDown]
    exact (sameAgenda_mapCluster (router.cancelLoops ref).value ref _).now
  · rw [loop?, cluster?_shutDown]
    split
    · rename_i here
      rw [here, loop?] at there
      rw [Option.bind_map]
      exact there
    · exact there

private theorem retained_remove (router : Router) (id : String) :
    Retained router (router.remove id).value.1 := by
  cases named : router.registeredRef? id with
  | none =>
      rw [remove_of_unnamed named]
      exact .refl router
  | some ref =>
      have unregistered :
          Retained router { router with registered := router.registered.erase id } :=
        ⟨rfl, fun _ _ there => there⟩
      simp only [remove, named, Traced.value_bind, Traced.value_pure]
      exact (unregistered.trans (retained_stopProbing _ ref)).trans
        (retained_shutDown _ ref)

private theorem retained_removeAll (router : Router) (ids : List String) :
    Retained router (router.removeAll ids) :=
  Traced.fold_related Retained .refl .trans (fun router id =>
    retained_remove router id) router ids

private theorem retained_addCluster (router : Router) (cluster : Cluster) :
    Retained router (router.addCluster cluster).1 := by
  refine ⟨rfl, fun other loop there => ?_⟩
  rw [loop?, cluster?_addCluster]
  split
  · rename_i here
    rw [here, loop?, cluster?_added_eq_none] at there
    cases there
  · exact there

private theorem retained_install (router : Router) (model : ClusterModel) :
    Retained router (router.install model).value := by
  unfold install
  split
  · rename_i ref cluster found
    have same : (applyModel cluster model).value.loops = cluster.loops ++ [] := by
      rw [Cluster.loops_applyModel, List.append_nil]
    exact (retained_setCluster (registered?_iff.1 found).2 same).trans
      (retained_updateProbing _ ref model _)
  · exact (retained_addCluster router _).trans (retained_updateProbing _ _ model none)

private theorem retained_configure (router : Router) (config : ClusterConfig) :
    Retained router (router.configure config).value.1 := by
  unfold configure
  split
  · exact .refl router
  · exact retained_install router _

/-! Configurations that are accepted. -/

/-- What becomes of the loops under an id when configurations for it are accepted one
after the other, by the settings of the active checks that they have. -/
inductive Adjustment (before after : Router) (id : String)
    (entries : List ActiveCheckConfig) :
    Prop
  | kept (steady : ∀ settings ∈ entries, before.settingsOf? id = some settings)
      (same : SameLoops id before after)
  | ended {settings : ActiveCheckConfig} (last : entries.getLast? = some settings)
      (disabled : settings.enabled = false)
      (still : ∀ ref loop, ref.id = id → ¬ after.Runs ref loop)
  | renewed {settings : ActiveCheckConfig} {ref : ClusterRef} {loop : Nat}
      (last : entries.getLast? = some settings) (enabled : settings.enabled = true)
      (changed : ∃ settings ∈ entries, before.settingsOf? id ≠ some settings)
      (here : ref.id = id) (new : before.loop? ref loop = none)
      (runs : after.Runs ref loop)
      (begins : after.alarmsOf ref loop = [before.beginning ref loop])

structure Adjusted (before after : Router) (id : String)
    (entries : List ActiveCheckConfig) :
    Prop extends Retained before after where
  settings : after.settingsOf? id = entries.getLast?.or (before.settingsOf? id)
  adjustment : Adjustment before after id entries

theorem Untouched.settingsOf? (untouched : Untouched id before after) :
    after.settingsOf? id = before.settingsOf? id := by
  rw [Router.settingsOf?, untouched.registered?]
  rfl

theorem Untouched.adjusted (untouched : Untouched id before after)
    (retained : Retained before after) : Adjusted before after id [] where
  toRetained := retained
  settings := untouched.settingsOf?
  adjustment := .kept nofun untouched.sameLoops

theorem Installed.startsOver {cluster : Cluster} {model : ClusterModel}
    (installed : Installed before middle ref cluster model)
    (background : before.background = true) :
    ∃ loop, before.loop? ref loop = none ∧
      (startProbing (stopProbing middle ref).value ref).value.Runs ref loop ∧
      (startProbing (stopProbing middle ref).value ref).value.alarmsOf ref loop =
        [before.beginning ref loop] := by
  have silence := installed.looped.silence installed.named middle.registered
  have there :=
    (sameButLoops_stopProbing middle ref).view Cluster.shutDown (fun _ => rfl) ref
  rw [installed.present, Option.map_some] at there
  rcases Option.map_eq_some_iff.1 there with ⟨left, remaining, atWork⟩
  have able :=
    (background_stopProbing middle ref).trans (installed.background.trans background)
  have alive := atWork.trans installed.working
  have stopped := retained_stopProbing middle ref
  have number : (stopProbing middle ref).value.loop? ref left.loops.length = none := by
    rw [loop?, remaining, Option.bind_some, List.getElem?_eq_none (Nat.le_refl _)]
  refine ⟨_, (installed.same.loops ref _ rfl).symm.trans (stopped.not_yet number), ?_, ?_⟩
  · exact (loop?_startProbing able remaining alive ref _).trans (if_pos ⟨rfl, rfl⟩)
  · rw [alarmsOf_startProbing able remaining alive, if_pos ⟨rfl, rfl⟩,
      (silence ref _ rfl).2, List.nil_append, beginning, stopped.now, installed.now]
    rfl

theorem adjustment_of_installed {cluster : Cluster} {model : ClusterModel}
    (installed : Installed before middle ref cluster model)
    (background : before.background = true)
    (wellFormed : model.active.isSome = model.config.healthCheck.active.enabled)
    {previous : Option ClusterModel}
    (former : before.settingsOf? ref.id =
      previous.map (fun previous => previous.config.healthCheck.active))
    (probed : ∀ settings, before.settingsOf? ref.id = some settings →
      settings.enabled = true → (before.probing.get? ref.id).isSome = true) :
    Adjustment before (middle.updateProbing ref model previous).value ref.id
      [model.config.healthCheck.active] := by
  have silence := installed.looped.silence installed.named middle.registered
  simp only [updateProbing]
  split
  · rename_i inactive
    have disabled : model.config.healthCheck.active.enabled = false := by
      rw [← wellFormed, ← Option.not_isNone, inactive]
      rfl
    exact .ended rfl disabled fun other loop here => (silence other loop here).1
  · rename_i active
    have enabled : model.config.healthCheck.active.enabled = true := by
      rw [← wellFormed, ← Option.not_isNone, eq_false_of_ne_true active]
      rfl
    split
    · rename_i unchanged
      refine .kept (fun settings member => ?_) installed.same
      rw [List.mem_singleton.1 member, former]
      have equal := ((Bool.and_eq_true _ _).mp unchanged).1
      cases previous with
      | none => cases equal
      | some previous => exact congrArg some (beq_iff_eq.1 equal)
    · rename_i unlike
      have changed :
          before.settingsOf? ref.id ≠ some model.config.healthCheck.active := by
        intro steady
        have kept := probed _ steady enabled
        rw [former] at steady
        rw [← installed.same.probing] at kept
        rcases Option.map_eq_some_iff.1 steady with ⟨other, rfl, equal⟩
        refine unlike ((Bool.and_eq_true _ _).mpr ⟨beq_iff_eq.2 equal, ?_⟩)
        rw [Keyed.contains_iff, Keyed.mem_keys_iff]
        exact Option.isSome_iff_exists.1 kept
      rcases installed.startsOver background with ⟨loop, new, runs, begins⟩
      exact .renewed rfl enabled ⟨_, List.mem_singleton_self _, changed⟩ rfl new
        runs begins

private theorem adjusted_configure (sound : Sound policies true router)
    {config : ClusterConfig} {model : ClusterModel}
    (accepted : policies.resolve config = .ok model) :
    Adjusted router (router.configure config).value.1 config.id
      [config.healthCheck.active] := by
  have settings := (Policies.accepts_of_resolve accepted).settings
  rw [← settings] at accepted ⊢
  have wellFormed := (Policies.wellFormed_of_resolve accepted).active
  have retained := retained_configure router model.config
  have enabled : ∀ ref cluster, router.registered? model.config.id = some (ref, cluster) →
      cluster.model.active.isSome = cluster.model.config.healthCheck.active.enabled := by
    intro ref cluster found
    exact (Policies.wellFormed_of_resolve
      (sound.known.models ref cluster (registered?_iff.1 found).2)).active
  have orderly := sound.orderly model.config.id
  have probed : ∀ settings, router.settingsOf? model.config.id = some settings →
      settings.enabled = true → (router.probing.get? model.config.id).isSome = true := by
    intro settings former active
    rcases Option.map_eq_some_iff.1 former with ⟨⟨ref, cluster⟩, found, rfl⟩
    exact (orderly.probed ref cluster found).2
      ⟨sound.able, (enabled ref cluster found).trans active⟩
  rcases install_eq_updateProbing sound.known orderly with
    ⟨middle, ref, cluster, own, installed, same⟩
  have former : router.settingsOf? model.config.id =
      ((router.registered? model.config.id).map (fun found => found.2.model)).map
        (fun previous => previous.config.healthCheck.active) := by
    rw [settingsOf?, Option.map_map]
    rfl
  refine ⟨retained, ?_, ?_⟩
  · rcases registered?_install router model with
      ⟨current, later, former, here, found, alike, -⟩
    have kept : later.model = model :=
      (congrArg Cluster.model alike :).trans (Cluster.model_applyModel former model)
    rw [configure_of_ok sound.known accepted, settingsOf?, ← here, found, Option.map_some,
      kept]
    rfl
  · rw [← own] at former probed
    rw [configure_of_ok sound.known accepted, same]
    exact own ▸ adjustment_of_installed installed sound.able wellFormed former probed

theorem Adjusted.settings_of_steady {entries : List ActiveCheckConfig}
    (adjusted : Adjusted before after id entries)
    (steady : ∀ settings ∈ entries, before.settingsOf? id = some settings) :
    after.settingsOf? id = before.settingsOf? id := by
  rw [adjusted.settings]
  cases last : entries.getLast? with
  | none => rfl
  | some settings => exact (steady settings (List.mem_of_getLast? last)).symm

theorem Adjusted.goesOn {entries : List ActiveCheckConfig}
    (adjusted : Adjusted before after id entries)
    {settings : ActiveCheckConfig} (former : before.settingsOf? id = some settings)
    (enabled : settings.enabled = true)
    (unchanged : ∀ entry ∈ entries, entry = settings) :
    SameLoops id before after ∧ after.settingsOf? id = some settings := by
  have steady : ∀ entry ∈ entries, before.settingsOf? id = some entry :=
    fun entry member => unchanged entry member ▸ former
  refine ⟨?_, (adjusted.settings_of_steady steady).trans former⟩
  cases adjusted.adjustment with
  | kept _ same => exact same
  | ended last disabled =>
      rw [unchanged _ (List.mem_of_getLast? last), enabled] at disabled
      cases disabled
  | renewed _ _ changed =>
      rcases changed with ⟨entry, member, unlike⟩
      exact absurd (steady entry member) unlike

theorem Adjusted.takesOver {entries : List ActiveCheckConfig}
    (adjusted : Adjusted before after id entries) {settings : ActiveCheckConfig}
    (last : entries.getLast? = some settings) (enabled : settings.enabled = true)
    (changed : ∃ entry ∈ entries, before.settingsOf? id ≠ some entry) :
    ∃ ref loop, ref.id = id ∧ before.loop? ref loop = none ∧ after.Runs ref loop ∧
      after.alarmsOf ref loop = [before.beginning ref loop] := by
  cases adjusted.adjustment with
  | kept steady =>
      rcases changed with ⟨entry, member, unlike⟩
      exact absurd (steady entry member) unlike
  | ended given disabled =>
      rw [last, Option.some.injEq] at given
      rw [← given, enabled] at disabled
      cases disabled
  | renewed _ _ _ here new running begins => exact ⟨_, _, here, new, running, begins⟩

theorem SameLoops.runs_iff (same : SameLoops id before after) (here : ref.id = id)
    (loop : Nat) :
    after.Runs ref loop ↔ before.Runs ref loop := by
  rw [Runs, same.loops ref loop here, Runs]

theorem Adjustment.sameLoops {entries : List ActiveCheckConfig}
    (adjustment : Adjustment before middle id entries)
    (same : SameLoops id middle after) :
    Adjustment before after id entries := by
  cases adjustment with
  | kept steady still => exact .kept steady (still.trans same)
  | ended last disabled still =>
      exact .ended last disabled fun ref loop here running =>
        still ref loop here ((same.runs_iff here loop).1 running)
  | renewed last enabled changed here new running begins =>
      exact .renewed last enabled changed here new ((same.runs_iff here _).2 running)
        ((same.alarms _ _ here).trans begins)

theorem Adjusted.untouched {entries : List ActiveCheckConfig}
    (adjusted : Adjusted before middle id entries) (untouched : Untouched id middle after)
    (retained : Retained middle after) : Adjusted before after id entries where
  toRetained := adjusted.toRetained.trans retained
  settings := untouched.settingsOf?.trans adjusted.settings
  adjustment := adjusted.adjustment.sameLoops untouched.sameLoops

theorem Adjusted.repeated {entries : List ActiveCheckConfig}
    (adjusted : Adjusted before after id entries) {settings : ActiveCheckConfig}
    (inForce : after.settingsOf? id = some settings) :
    Adjustment before after id (entries ++ [settings]) := by
  have latest : (entries ++ [settings]).getLast? = some settings := List.getLast?_concat
  have same : ∀ {former}, entries.getLast? = some former → former = settings := by
    intro former last
    rw [adjusted.settings, last] at inForce
    exact Option.some.inj inForce
  cases adjusted.adjustment with
  | kept steady still =>
      refine .kept (fun other member => ?_) still
      rcases List.mem_append.1 member with earlier | new
      · exact steady other earlier
      · rw [List.mem_singleton.1 new, ← inForce]
        exact (adjusted.settings_of_steady steady).symm
  | ended last disabled still => exact .ended latest (same last ▸ disabled) still
  | renewed last enabled changed here new running begins =>
      rcases changed with ⟨other, member, unlike⟩
      exact .renewed latest (same last ▸ enabled) ⟨other,
        List.mem_append_left _ member, unlike⟩
        here new running begins

theorem Adjusted.concat {entries : List ActiveCheckConfig}
    (first : Adjusted before middle id entries) {settings : ActiveCheckConfig}
    (last : Adjusted middle after id [settings]) :
    Adjusted before after id (entries ++ [settings]) := by
  have latest : (entries ++ [settings]).getLast? = some settings := List.getLast?_concat
  refine ⟨first.toRetained.trans last.toRetained, ?_, ?_⟩
  · rw [last.settings, latest]
    rfl
  cases last.adjustment with
  | kept steady same =>
      exact (first.repeated (steady settings (List.mem_singleton_self _))).sameLoops same
  | ended given disabled still =>
      cases given
      exact .ended latest disabled still
  | renewed given enabled changed here new running begins =>
      cases given
      refine .renewed latest enabled ?_ here (first.not_yet new) running ?_
      · by_contra unchanged
        push Not at unchanged
        have steady := first.settings_of_steady fun other member =>
          unchanged other (List.mem_append_left _ member)
        rcases changed with ⟨other, member, unlike⟩
        rw [List.mem_singleton.1 member, steady] at unlike
        exact unlike (unchanged settings (List.mem_append_right _ List.mem_cons_self))
      · rw [begins, beginning, beginning, first.now]

end Router

/-! All that a reconfiguration does. -/

def Policies.activeFor (policies : Policies) (id : String)
    (configs : List ClusterConfig) :
    List ActiveCheckConfig :=
  (policies.acceptedFor id configs).map (fun config => config.healthCheck.active)

namespace Operation

def configs : Operation → List ClusterConfig
  | .configure config => [config]
  | .applySnapshot configs => configs
  | _ => []

def removes (operation : Operation) (id : String) : Prop :=
  match operation with
  | .applySnapshot configs => ∀ config ∈ configs, config.id ≠ id
  | .remove other => other = id
  | _ => False

end Operation

namespace Router

variable {policies : Policies} {router before after : Router} {id : String}
  {ref : ClusterRef}

private theorem retained_configureAll (router : Router) (configs : List ClusterConfig) :
    Retained router (router.configureAll configs).1 :=
  Traced.fold_related (fun before after : Router × List ConfigurationFault =>
      Retained before.1 after.1)
    (fun _ => .refl _) .trans
    (fun state config => by
      rw [router_configureEntry]
      exact retained_configure state.1 config)
    (router, []) configs

private theorem adjusted_configureAll (sound : Sound policies true router) (id : String)
    (configs : List ClusterConfig) :
    Adjusted router (router.configureAll configs).1 id
      (policies.activeFor id configs) := by
  induction configs using List.reverseRecOn with
  | nil => exact (Untouched.refl id router).adjusted (.refl router)
  | append_singleton configs config induction =>
      have middle := sound.configureAll configs
      rw [configureAll_concat, router_configureEntry, Policies.activeFor]
      cases resolved : policies.resolve config with
      | error fault =>
          rw [Policies.acceptedFor_concat_of_error resolved,
            configure_of_error middle.known resolved]
          exact induction
      | ok model =>
          by_cases here : config.id = id
          · rw [Policies.acceptedFor_concat_of_ok resolved here, List.map_append]
            exact induction.concat (here ▸ adjusted_configure middle resolved)
          · rw [Policies.acceptedFor_concat_of_ne here]
            exact induction.untouched (untouched_configure middle.known here)
              (retained_configure _ config)

private theorem not_runs_of_gone (sound : Sound policies true router)
    (unregistered : router.registeredRef? id = none) (here : ref.id = id) (loop : Nat) :
    ¬ router.Runs ref loop := by
  intro runs
  have named := ((sound.looped id).sole ref loop here runs).1
  rw [unregistered] at named
  cases named

end Router

namespace Scene

variable {policies : Policies} {scene : Scene} {operation : Operation} {id : String}

theorem retained_perform (reconfigures : operation.reconfigures = true) :
    Router.Retained scene.router (scene.perform operation).value.router := by
  cases operation with
  | configure config => exact Router.retained_configure scene.router config
  | applySnapshot configs =>
      exact (Router.retained_configureAll scene.router configs).trans
        (Router.retained_removeAll _ _)
  | remove id => exact Router.retained_remove scene.router id
  | _ => cases reconfigures

theorem adjusted_perform (sound : Router.Sound policies true scene.router)
    (reconfigures : operation.reconfigures = true) (spared : ¬ operation.removes id) :
    Router.Adjusted scene.router (scene.perform operation).value.router id
      (policies.activeFor id operation.configs) := by
  cases operation with
  | configure config =>
      have single : (scene.router.configureAll [config]).1 =
          (scene.router.configure config).value.1 :=
        Router.router_configureEntry (scene.router, []) config
      have adjusted := Router.adjusted_configureAll sound id [config]
      rwa [single] at adjusted
  | applySnapshot configs =>
      have mentioned : ∃ config ∈ configs, config.id = id := by
        simpa [Operation.removes] using spared
      exact (Router.adjusted_configureAll sound id configs).untouched
        (Router.untouched_of_mentioned _ mentioned) (Router.retained_removeAll _ _)
  | remove other =>
      exact (Router.untouched_remove scene.router spared).adjusted
        (Router.retained_remove scene.router other)
  | _ => cases reconfigures

theorem not_runs_of_removes (sound : Router.Sound policies true scene.router)
    (removes : operation.removes id) {ref : ClusterRef} (here : ref.id = id)
    (loop : Nat) :
    ¬ (scene.perform operation).value.router.Runs ref loop := by
  refine Router.not_runs_of_gone (sound_perform sound operation) ?_ here loop
  cases operation with
  | applySnapshot configs =>
      exact Router.registeredRef?_of_unmentioned
        (sound.configureAll configs).known removes
  | remove other =>
      rcases removes with rfl
      change (scene.router.remove other).value.1.registeredRef? other = none
      cases named : scene.router.registeredRef? other with
      | none =>
          rw [Router.remove_of_unnamed named]
          exact named
      | some ref =>
          rcases sound.known.registered other ref named with ⟨cluster, present, -⟩
          have gone := Router.gone_remove named (Option.isSome_of_eq_some present)
          rw [← Router.id_of_registeredRef? named] at gone ⊢
          exact gone.unregistered
  | _ => cases removes

end Scene

end Gateway
