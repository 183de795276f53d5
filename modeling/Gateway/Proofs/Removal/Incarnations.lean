import Gateway.Proofs.Registry.Adjustment
import Gateway.Proofs.Registry.Lasting
import Gateway.Proofs.Removal.Attachment
import Gateway.Proofs.Router.Spared

namespace Gateway

/-! The incarnations of a cluster. One that was removed stays so, even if its id is
configured again; nothing is pending there any more, and what is configured then is a new
cluster. -/

namespace Router

variable {policies : Policies} {router before middle after : Router} {id : String}
  {ref : ClusterRef}

/-- A cluster that was configured once and is not any more. -/
structure Removed (router : Router) (ref : ClusterRef) : Prop where
  there : (router.cluster? ref).isSome = true
  unregistered : router.registeredRef? ref.id ≠ some ref

/-- What a reconfiguration leaves of a cluster that it does not find: everything but
loops. -/
structure Rests (ref : ClusterRef) (before after : Router) : Prop where
  unregistered : after.registeredRef? ref.id ≠ some ref
  same : (after.cluster? ref).map Cluster.withoutLoops =
    (before.cluster? ref).map Cluster.withoutLoops

theorem Rests.removed (rests : Rests ref before after) (removed : before.Removed ref) :
    after.Removed ref := by
  have there := congrArg Option.isSome rests.same
  rw [Option.isSome_map, Option.isSome_map] at there
  exact ⟨there.trans removed.there, rests.unregistered⟩

theorem Rests.trans (first : Rests ref before middle) (last : Rests ref middle after) :
    Rests ref before after :=
  ⟨last.unregistered, last.same.trans first.same⟩

theorem Removed.rests (removed : router.Removed ref) : Rests ref router router :=
  ⟨removed.unregistered, rfl⟩

theorem Rests.sameButLoops (rests : Rests ref before middle)
    (same : SameButLoops middle after) :
    Rests ref before after where
  unregistered := by
    rw [same.registeredRef?]
    exact rests.unregistered
  same := (same.clusters ref).trans rests.same

theorem Removed.install (removed : router.Removed ref) (model : ClusterModel) :
    Rests ref router (router.install model).value := by
  unfold Router.install
  split
  · rename_i other former found
    rcases registered?_iff.1 found with ⟨named, present⟩
    have different : ref ≠ other := by
      rintro rfl
      exact removed.unregistered (id_of_registeredRef? named ▸ named)
    have set :
        Rests ref router (router.setCluster other (applyModel former model).value) := by
      refine ⟨removed.unregistered, ?_⟩
      rw [cluster?_setCluster present, if_neg different]
    exact set.sameButLoops (sameButLoops_updateProbing _ other model _)
  · let cluster := (applyModel (.ofModel model) model).value
    have different : ref ≠ (router.addCluster cluster).2 := by
      intro same
      have there := removed.there
      rw [same, cluster?_added_eq_none] at there
      cases there
    have added : Rests ref router (router.addCluster cluster).1 := by
      constructor
      · rw [registeredRef?_addCluster]
        split
        · exact fun same => different (Option.some.inj same).symm
        · exact removed.unregistered
      · rw [cluster?_addCluster, if_neg different]
    exact added.sameButLoops (sameButLoops_updateProbing _ _ model none)

theorem Removed.configure (removed : router.Removed ref) (config : ClusterConfig) :
    Rests ref router (router.configure config).value.1 := by
  unfold Router.configure
  split
  · exact removed.rests
  · exact removed.install _

theorem Removed.remove (removed : router.Removed ref) (known : Known policies router)
    (id : String) : Rests ref router (router.remove id).value.1 := by
  cases named : router.registeredRef? id with
  | none =>
      rw [remove_of_unnamed named]
      exact removed.rests
  | some other =>
      have here := id_of_registeredRef? named
      subst here
      have different : ref ≠ other := by
        rintro rfl
        exact removed.unregistered named
      refine ⟨?_, withoutLoops_remove named different⟩
      by_cases same : other.id = ref.id
      · rcases known.registered other.id other named with ⟨cluster, present, -⟩
        rw [← same, (gone_remove named (Option.isSome_of_eq_some present)).unregistered]
        nofun
      · rw [(untouched_remove router same).registeredRef?]
        exact removed.unregistered

/-! What requests are routed by. -/

def listsOf (router : Router) (ref : ClusterRef) : List Nat × List Nat :=
  ((router.cluster? ref).map Cluster.lists).getD ([], [])

/-- Two states of a gateway that do not differ in the health of the records of a cluster,
nor in the lists that it has published. -/
structure SameStanding (ref : ClusterRef) (before after : Router) : Prop where
  health : ∀ record, after.healthOf ref record = before.healthOf ref record
  lists : after.listsOf ref = before.listsOf ref

theorem Rests.view (rests : Rests ref before after) {α : Type} (part : Cluster → α)
    (blind : ∀ cluster, part cluster.withoutLoops = part cluster) :
    (after.cluster? ref).map part = (before.cluster? ref).map part := by
  have same := congrArg (Option.map part) rests.same
  simpa only [Option.map_map, Function.comp_def, blind] using same

private theorem Rests.sameStanding (rests : Rests ref before after) :
    SameStanding ref before after where
  health := by
    intro record
    have same := rests.view (fun cluster => cluster.healthOf record) fun _ => rfl
    exact congrArg (Option.getD · {}) same
  lists := by
    have same := rests.view Cluster.lists fun _ => rfl
    exact congrArg (Option.getD · ([], [])) same

private theorem sameStanding_of_same (same : after.cluster? ref = before.cluster? ref) :
    SameStanding ref before after where
  health := fun record => by rw [healthOf, same, healthOf]
  lists := by rw [listsOf, same, listsOf]

theorem sameStanding_of_samePart
    (health : ∀ record, SamePart (fun cluster => cluster.healthOf record) {} before after)
    (lists : SamePart Cluster.lists ([], []) before after) (ref : ClusterRef) :
    SameStanding ref before after :=
  ⟨fun record => health record ref, lists ref⟩

theorem Gone.removed (gone : router.Gone ref) : router.Removed ref where
  there := by
    rcases (Option.any_eq_true _ _).1 gone.shutDown with ⟨cluster, present, -⟩
    exact Option.isSome_of_eq_some present
  unregistered := by
    rw [gone.unregistered]
    nofun

end Router

/-- A cluster of which nothing has happened yet: no request was counted or routed there,
and all its records have the health of new ones. -/
structure Cluster.Fresh (cluster : Cluster) : Prop where
  cursor : cluster.cursor = 0
  requests : cluster.requests = 0
  records : ∀ destination ∈ cluster.records,
    destination.requests = 0 ∧ destination.health = .pristine

namespace Scene

variable {policies : Policies} {background : Bool} {scene : Scene} {operation : Operation}
  {id : String} {ref : ClusterRef}

private theorem rests_perform (removed : scene.router.Removed ref)
    (known : Router.Known policies scene.router)
    (reconfigures : operation.reconfigures = true) :
    Router.Rests ref scene.router (scene.perform operation).value.router := by
  -- To follow what was removed, everything before has to be known, too.
  refine (scene.reconfigured_related
    (fun before after : Router =>
      Router.Known policies before ∧ Router.Rests ref scene.router before →
        Router.Known policies after ∧ Router.Rests ref scene.router after)
    (fun _ => id) (fun first last both => last (first both))
    (fun router config both => ?_) (fun router id both => ?_) reconfigures
    ⟨known, removed.rests⟩).2
  · exact ⟨both.1.moves (Router.moves_configure both.1 config),
      both.2.trans ((both.2.removed removed).configure config)⟩
  · exact ⟨both.1.moves (Router.moves_remove router id),
      both.2.trans ((both.2.removed removed).remove both.1 id)⟩

theorem removed_perform (removed : scene.router.Removed ref)
    (known : Router.Known policies scene.router) (operation : Operation) :
    (scene.perform operation).value.router.Removed ref := by
  cases reconfigures : operation.reconfigures with
  | true => exact (rests_perform removed known reconfigures).removed removed
  | false =>
      have same : Router.SameOutline scene.router _ := sameOutline_perform reconfigures
      constructor
      · have there := congrArg Option.isSome (same.outlines ref)
        rw [Option.isSome_map, Option.isSome_map] at there
        exact there.trans removed.there
      · rw [same.registeredRef?]
        exact removed.unregistered

theorem removed_later {run : List Operation}
    (removed : ((fresh policies background).after run).router.Removed ref)
    (later : List Operation) :
    ((fresh policies background).after (later ++ run)).router.Removed ref := by
  induction later with
  | nil => exact removed
  | cons operation rest induction =>
      exact removed_perform induction
        (sound_after policies background (rest ++ run)).known operation

theorem removed_of_removes (sound : Router.Sound policies background scene.router)
    (named : scene.router.registeredRef? id = some ref) (removes : operation.removes id) :
    (scene.perform operation).value.router.Removed ref := by
  have known := sound.known
  rcases known.registered id ref named with ⟨cluster, present, -⟩
  cases operation with
  | applySnapshot configs =>
      have applied := Router.applied_configureAll known configs
      have current := applied.kept named
      have gone : (scene.perform (.applySnapshot configs)).value.router.Gone ref :=
        Router.gone_of_unmentioned applied.known removes current
      exact gone.removed
  | remove other =>
      rcases removes with rfl
      have gone : (scene.perform (.remove other)).value.router.Gone ref :=
        Router.gone_remove named (Option.isSome_of_eq_some present)
      exact gone.removed
  | _ => cases removes

/-! What was removed rests. -/

section Removed

variable (removed : scene.router.Removed ref)

include removed

theorem silent_of_removed (sound : Router.Sound policies background scene.router)
    (attached : scene.router.Attached) :
    ∀ alarm ∈ scene.router.agenda, alarm.cluster ≠ ref := by
  rintro alarm pending rfl
  exact removed.unregistered (attached.registered sound.looped pending)

/-- An operation that neither reports on a cluster that was removed nor probes it by hand
changes nothing that requests are routed by there. -/
theorem sameStanding_perform (known : Router.Known policies scene.router)
    (idle : ∀ work ∈ scene.workOf operation, work.alarm.cluster ≠ ref)
    (unchecked : operation ≠ .check ref)
    (unreported : ∀ lease outcome,
      scene.router.reported? operation = some (lease, outcome) →
      lease.cluster ≠ ref) :
    Router.SameStanding ref scene.router (scene.perform operation).value.router := by
  cases reconfigures : operation.reconfigures with
  | true => exact (rests_perform removed known reconfigures).sameStanding
  | false =>
      by_cases site : ref ∈ scene.sites operation
      · rcases requested_of_mem_sites site unreported idle with
          ⟨request, rfl | rfl⟩ | ⟨record, rfl⟩ | rfl
        · exact Router.sameStanding_of_samePart
            (fun record =>
              Router.samePart_pickNow (Cluster.unrequested_healthOf record) _ ref request)
            (Router.samePart_pickNow Cluster.unrequested_lists _ ref request) ref
        · exact Router.sameStanding_of_samePart
            (fun record =>
              Router.samePart_start (Cluster.unrequested_healthOf record) _ ref request)
            (Router.samePart_start Cluster.unrequested_lists _ ref request) ref
        · simp only [perform]
          split
          · exact Router.sameStanding_of_samePart
              (fun number =>
                Router.samePart_acquire (Cluster.unrequested_healthOf number) _
                  ref record)
              (Router.samePart_acquire Cluster.unrequested_lists _ ref record) ref
          · exact Router.sameStanding_of_same rfl
        · exact absurd rfl unchecked
      · have spared : Router.Spared (· == ref) scene.router _ :=
          spared_perform reconfigures fun other there =>
            beq_false_of_ne fun here => site (here ▸ there)
        exact Router.sameStanding_of_same (spared.clusters ref (beq_self_eq_true ref))

end Removed

theorem idle_of_silent (silent : ∀ alarm ∈ scene.router.agenda, alarm.cluster ≠ ref)
    (operation : Operation) : ∀ work ∈ scene.workOf operation,
      work.alarm.cluster ≠ ref := by
  have outside := @outside_workOf scene (· == ref) operation fun alarm pending =>
    beq_false_of_ne (silent alarm pending)
  exact fun work done => ne_of_beq_false (outside work done)

/-! What is configured anew is a new cluster. -/

theorem fresh_perform (known : Router.Known policies scene.router)
    (unnamed : scene.router.registeredRef? id = none) {cluster : Cluster}
    (found : (scene.perform operation).value.router.registered? id =
      some (ref, cluster)) :
    scene.router.cluster? ref = none ∧ cluster.Fresh := by
  rcases Router.registered?_iff.1 found with ⟨named, present⟩
  have here := Router.id_of_registeredRef? named
  subst here
  have reconfigures : operation.reconfigures = true := by
    by_contra quiet
    have same : Router.SameOutline scene.router _ :=
      sameOutline_perform (eq_false_of_ne_true quiet)
    rw [same.registeredRef?, unnamed] at named
    cases named
  have absent : scene.router.cluster? ref = none := by
    by_contra there
    have removed : scene.router.Removed ref :=
      ⟨Option.isSome_iff_ne_none.2 there, by rw [unnamed]; nofun⟩
    exact (removed_perform removed known operation).unregistered named
  -- What lasts of a cluster is in a new one as it is where there is none.
  have kept : ∀ {α : Type} {part : Cluster → α} {nothing : α},
      Cluster.Lasting part nothing → part cluster = nothing := by
    intro α part nothing lasting
    rw [part_perform lasting reconfigures present, absent]
    rfl
  refine ⟨absent, kept Cluster.lasting_cursor, kept Cluster.lasting_requests, ?_⟩
  intro destination member
  rcases List.getElem?_of_mem member with ⟨number, stored⟩
  constructor
  · rw [← Destination.requestsAt_of_getElem? stored]
    exact kept (Cluster.lasting_requestsOf number)
  · rw [← Destination.healthAt_of_getElem? stored]
    exact kept (Cluster.lasting_healthOf number)

end Scene

end Gateway
