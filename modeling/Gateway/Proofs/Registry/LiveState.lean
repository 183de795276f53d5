import Gateway.Proofs.Registry.Structure

namespace Gateway

/-! What a snapshot leaves of the live state. A destination keeps its record as long as no
entry for its cluster leaves it out; once one does, a later entry only brings back the id,
with a fresh record. -/

namespace Cluster

variable {cluster before middle after : Cluster}

private theorem current_applyModel (names : Names cluster.current cluster.records)
    (model : ClusterModel) :
    (Router.applyModel cluster model).value.current =
      cluster.enrolledNames model.config.destinations :=
  (congrArg Cluster.current
    (value_reconcile { cluster with model } model.config.destinations names) :)

private theorem records_applyModel (names : Names cluster.current cluster.records)
    (model : ClusterModel) :
    (Router.applyModel cluster model).value.records =
      (enroll cluster.current cluster.records model.config.destinations.entries).1 :=
  (congrArg Cluster.records
    (value_reconcile { cluster with model } model.config.destinations names) :)

theorem kept_or_fresh_applyModel (names : Names cluster.current cluster.records)
    (model : ClusterModel) {name : String} {number : Nat}
    (named : (Router.applyModel cluster model).value.current.get? name = some number) :
    model.config.destinations.contains name = true ∧
      (cluster.current.get? name = some number ∨
        cluster.current.get? name = none ∧ cluster.records.length ≤ number) := by
  rw [current_applyModel names] at named
  refine ⟨?_, kept_or_fresh_of_mem_enroll _ _ _ ((Keyed.get?_eq_some_iff _ _ _).1 named)⟩
  rw [Keyed.contains_iff, ← keys_enrolledNames cluster, Keyed.mem_keys_iff]
  exact ⟨number, named⟩

private theorem kept_applyModel (names : Names cluster.current cluster.records)
    (model : ClusterModel) {name : String} {number : Nat}
    (named : cluster.current.get? name = some number)
    (listed : model.config.destinations.contains name = true) :
    (Router.applyModel cluster model).value.current.get? name = some number := by
  rw [Keyed.contains_iff, ← keys_enrolledNames cluster, Keyed.mem_keys_iff,
    ← current_applyModel names] at listed
  rcases listed with ⟨other, given⟩
  rcases (kept_or_fresh_applyModel names model given).2 with same | ⟨missing, -⟩
  · rwa [same.symm.trans named] at given
  · rw [missing] at named
    cases named

/-- What entries of a snapshot do to the live state of their cluster, one after the
other. -/
structure Carried (entries : List ClusterConfig) (before after : Cluster) : Prop where
  length : before.records.length ≤ after.records.length
  health : ∀ number, after.healthOf number = before.healthOf number
  requests : ∀ number, after.requestsOf number = before.requestsOf number
  kept : ∀ name number, before.current.get? name = some number →
    (∀ config ∈ entries, config.destinations.contains name = true) →
    after.current.get? name = some number
  fresh : ∀ name number, (∃ config ∈ entries, config.destinations.contains name = false) →
    after.current.get? name = some number → before.records.length ≤ number

theorem Carried.refl (cluster : Cluster) : Carried [] cluster cluster where
  length := Nat.le_refl _
  health := fun _ => rfl
  requests := fun _ => rfl
  kept := fun _ _ named _ => named
  fresh := by
    rintro name number ⟨config, member, -⟩
    cases member

theorem Carried.withoutLoops {entries : List ClusterConfig}
    (carried : Carried entries before middle)
    (same : after.withoutLoops = middle.withoutLoops) : Carried entries before after := by
  have records : after.records = middle.records := (congrArg Cluster.records same :)
  have current : after.current = middle.current := (congrArg Cluster.current same :)
  refine ⟨?_, ?_, ?_, ?_, ?_⟩
  · rw [records]
    exact carried.length
  · unfold healthOf
    rw [records]
    exact carried.health
  · unfold requestsOf
    rw [records]
    exact carried.requests
  · rw [current]
    exact carried.kept
  · rw [current]
    exact carried.fresh

theorem Carried.entry {entries : List ClusterConfig}
    (carried : Carried entries before middle)
    (names : Names middle.current middle.records) (model : ClusterModel) :
    Carried (entries ++ [model.config]) before
      (Router.applyModel middle model).value where
  length := by
    rw [records_applyModel names]
    exact Nat.le_trans carried.length (length_enroll _ _ _)
  health := fun number =>
    (healthOf_applyModel middle model number).trans (carried.health number)
  requests := fun number =>
    ((sameRequests_applyModel middle model).requestsOf number).trans
      (carried.requests number)
  kept := by
    intro name number named listed
    have before := carried.kept name number named fun config member =>
      listed config (List.mem_append_left _ member)
    exact kept_applyModel names model before
      (listed model.config (List.mem_append_right _ List.mem_cons_self))
  fresh := by
    rintro name number ⟨config, member, left⟩ named
    rcases kept_or_fresh_applyModel names model named with ⟨listed, same | ⟨-, beyond⟩⟩
    · rcases List.mem_append.1 member with earlier | last
      · exact carried.fresh name number ⟨config, earlier, left⟩ same
      · rw [List.mem_singleton.1 last, listed] at left
        cases left
    · exact Nat.le_trans carried.length beyond

end Cluster

namespace Router

variable {policies : Policies} {background : Bool} {router : Router} {id name : String}
  {ref : ClusterRef} {candidate : Candidate}

def held? (router : Router) (id name : String) : Option Candidate :=
  (router.registered? id).bind (fun found => found.2.destination? name)

private theorem held?_eq_some_iff : router.held? id name = some candidate ↔
    ∃ ref cluster, router.registered? id = some (ref, cluster) ∧
      cluster.current.get? name = some candidate.record ∧
      cluster.records[candidate.record]? = some candidate.destination := by
  constructor
  · intro held
    rcases Option.bind_eq_some_iff.1 held with ⟨⟨ref, cluster⟩, found, there⟩
    rcases Option.bind_eq_some_iff.1 there with ⟨number, named, stored⟩
    rcases Option.map_eq_some_iff.1 stored with ⟨destination, record, rfl⟩
    exact ⟨ref, cluster, found, named, record⟩
  · rintro ⟨ref, cluster, found, named, record⟩
    simp [held?, found, Cluster.destination?, Cluster.candidate?, named, record]

theorem carried_configureAll (sound : Sound policies background router)
    {cluster : Cluster} (found : router.registered? id = some (ref, cluster))
    (configs : List ClusterConfig) :
    ∃ later, (router.configureAll configs).1.registered? id = some (ref, later) ∧
      cluster.Carried (policies.acceptedFor id configs) later := by
  induction configs using List.reverseRecOn with
  | nil => exact ⟨cluster, found, .refl cluster⟩
  | append_singleton configs config induction =>
      rcases induction with ⟨middle, there, carried⟩
      have middleSound := sound.configureAll configs
      rw [configureAll_concat, router_configureEntry]
      by_cases here : config.id = id
      · cases resolved : policies.resolve config with
        | error fault =>
            rw [configure_of_error middleSound.known resolved,
              Policies.acceptedFor_concat_of_error resolved]
            exact ⟨middle, there, carried⟩
        | ok model =>
            have settings := (Policies.accepts_of_resolve resolved).settings
            rw [configure_of_ok middleSound.known resolved,
              Policies.acceptedFor_concat_of_ok resolved here]
            rcases registered?_install (router.configureAll configs).1 model with
              ⟨current, later, former, own, after, alike, same | ⟨nobody, -⟩⟩
            · rw [settings, here, there, Option.some.injEq, Prod.mk.injEq] at same
              rcases same with ⟨rfl, rfl⟩
              rw [settings, here] at own
              have names :=
                ((middleSound.orderly id).toEntered.orderly ref middle there).names
              have entry := (carried.entry names model).withoutLoops alike
              rw [settings] at entry
              exact ⟨later, own ▸ after, entry⟩
            · rw [settings, here, there] at nobody
              cases nobody
      · rw [Policies.acceptedFor_concat_of_ne here]
        exact ⟨middle,
          (untouched_configure middleSound.known here).registered?.trans there, carried⟩

end Router

namespace Scene

/-- What a snapshot leaves of a destination of a cluster that it mentions. If every
accepted entry for the cluster lists the destination, it still has its record, with the
requests and the health that it had. If one of them does not, the record is given up, and
if the id is listed again after that, it stands for a fresh record. -/
theorem live_state_after (policies : Policies) (background : Bool) (run : List Operation)
    (configs : List ClusterConfig) (id name : String) (candidate : Candidate)
    (held : ((fresh policies background).after run).router.held? id name = some candidate)
    (mentioned : ∃ config ∈ configs, config.id = id) :
    let router := ((fresh policies background).after run).router
    let after := (router.applySnapshot configs).value.1
    after.registeredRef? id = router.registeredRef? id ∧
      ((∀ config ∈ policies.acceptedFor id configs,
        config.destinations.contains name = true) →
        ∃ kept, after.held? id name = some kept ∧ kept.record = candidate.record ∧
          kept.destination.id = candidate.destination.id ∧
          kept.destination.requests = candidate.destination.requests ∧
          kept.destination.health = candidate.destination.health) ∧
      ((∃ config ∈ policies.acceptedFor id configs,
        config.destinations.contains name = false) →
        ∀ replacement, after.held? id name = some replacement →
          replacement.record ≠ candidate.record ∧ replacement.destination.requests = 0 ∧
            replacement.destination.health = .pristine) := by
  intro router after
  have sound : Router.Sound policies background router :=
    sound_after policies background run
  have soundAfter : Router.Sound policies background after := sound.applySnapshot configs
  rcases Router.held?_eq_some_iff.1 held with ⟨ref, cluster, found, named, stored⟩
  rcases Router.carried_configureAll sound found configs with ⟨later, there, carried⟩
  have untouched :=
    Router.untouched_of_mentioned (router.configureAll configs).1 mentioned
  have registered : after.registered? id = some (ref, later) :=
    untouched.registered?.trans there
  refine ⟨?_, fun listed => ?_, fun left replacement heldLater => ?_⟩
  · exact (Router.registered?_iff.1 registered).1.trans
      (Router.registered?_iff.1 found).1.symm
  · have kept := carried.kept name candidate.record named listed
    have names := ((soundAfter.orderly id).toEntered.orderly ref later registered).names
    have before := ((sound.orderly id).toEntered.orderly ref cluster found).names
    rcases names name candidate.record kept with ⟨destination, record, own⟩
    rcases before name candidate.record named with ⟨former, alsoStored, sameId⟩
    rw [stored, Option.some.injEq] at alsoStored
    subst alsoStored
    have health := carried.health candidate.record
    have requests := carried.requests candidate.record
    rw [Cluster.healthOf_of_getElem? record,
      Cluster.healthOf_of_getElem? stored] at health
    rw [Cluster.requestsOf, Cluster.requestsOf, Destination.requestsAt_of_getElem? record,
      Destination.requestsAt_of_getElem? stored] at requests
    exact ⟨{ record := candidate.record, destination },
      Router.held?_eq_some_iff.2 ⟨ref, later, registered, kept, record⟩, rfl,
      own.trans sameId.symm, requests, health⟩
  · rcases Router.held?_eq_some_iff.1 heldLater with
      ⟨current, other, alsoFound, given, record⟩
    rw [registered, Option.some.injEq, Prod.mk.injEq] at alsoFound
    rcases alsoFound with ⟨rfl, rfl⟩
    have missing : cluster.records[replacement.record]? = none :=
      List.getElem?_eq_none (carried.fresh name replacement.record left given)
    have health := carried.health replacement.record
    have requests := carried.requests replacement.record
    rw [Cluster.healthOf_of_getElem? record, Cluster.healthOf, Destination.healthAt,
      missing] at health
    rw [Cluster.requestsOf, Cluster.requestsOf, Destination.requestsAt_of_getElem? record,
      Destination.requestsAt, missing] at requests
    refine ⟨fun same => ?_, requests, health⟩
    rw [same, stored] at missing
    cases missing

/-- A request that is under way keeps being counted through a change of the settings. -/
theorem live_state_after_reload :
    let router := (sample.after [.acquire sampleRef 0, .configure sampleConfig]).router
    ∃ kept,
      (router.applySnapshot [probedConfig]).value.1.held? "cluster" "a" = some kept ∧
      kept.record = 0 ∧ kept.destination.requests = 1 := by
  have before :
      ((sample.after [.acquire sampleRef 0, .configure sampleConfig]).router.held?
          "cluster" "a").map
        (fun candidate => (candidate.record, candidate.destination.requests)) =
          some (0, 1) := by
    decide +kernel
  have listed :
      ∀ (policies : Policies), ∀ config ∈ policies.acceptedFor "cluster" [probedConfig],
        config.destinations.contains "a" = true := by
    intro policies config member
    rw [List.mem_singleton.1 (Policies.mem_of_mem_acceptedFor member).1]
    decide
  rcases Option.map_eq_some_iff.1 before with ⟨candidate, held, same⟩
  rcases Prod.mk.injEq .. ▸ same with ⟨record, requests⟩
  have state := live_state_after _ true [.acquire sampleRef 0, .configure sampleConfig]
    [probedConfig] "cluster" "a" candidate held ⟨probedConfig, List.mem_cons_self, rfl⟩
  rcases state.2.1 (listed _) with ⟨kept, found, alsoRecord, -, alsoRequests, -⟩
  exact ⟨kept, found, alsoRecord.trans record, alsoRequests.trans requests⟩

/-- Two entries for one cluster, the first of which leaves a destination out that the
second lists again: both are accepted, and the request that was under way there is counted
no more. -/
theorem live_state_lost_by_repetition :
    let policies := Policies.builtin (.ofSequence [])
      (.encrypting (List.replicate Protector.keySize 0))
    let router := (sample.after [.acquire sampleRef 0, .configure sampleConfig]).router
    let look := fun (router : Router) =>
      (router.held? "cluster" "a").map (fun candidate =>
        (candidate.record, candidate.destination.requests))
    policies.faults [movedConfig, sampleConfig] = [] ∧ look router = some (0, 1) ∧
      look (router.applySnapshot [movedConfig, sampleConfig]).value.1 = some (3, 0) := by
  decide +kernel

end Scene

end Gateway
