import Gateway.Proofs.Leases.Counting
import Gateway.Proofs.Removal.Incarnations

namespace Gateway

/-! Records are never lost, and their numbers are never given to others. So whatever waits
for its time, be it a lease, a timer or the result of a probe, is about a record that
exists, and never about one that comes later. -/

def BatchEnd.records : BatchEnd → List Nat
  | .completed results => results.map Prod.fst
  | .crashed => []

/-- The records that background work is about. What it starts anew is not. -/
def Wakeup.records : Wakeup → List Nat
  | .reactivate exclusion => [exclusion.record]
  | .beginProbing _ | .tick _ => []
  | .settle _ _ outcome => outcome.records

namespace Cluster

variable {policies : Policies} {before middle after : Cluster}

/-- A cluster keeps its records. An id that stands for another one than before stands for
a new one. -/
structure Grows (before after : Cluster) : Prop where
  records : before.records.length ≤ after.records.length
  named : ∀ id number, after.current.get? id = some number →
    before.current.get? id = some number ∨ before.records.length ≤ number

theorem Grows.refl (cluster : Cluster) : Grows cluster cluster :=
  ⟨Nat.le_refl _, fun _ _ => .inl⟩

theorem Grows.trans (first : Grows before middle) (last : Grows middle after) :
    Grows before after where
  records := Nat.le_trans first.records last.records
  named := by
    intro id number named
    rcases last.named id number named with kept | new
    · exact first.named id number kept
    · exact .inr (Nat.le_trans first.records new)

private theorem grows_of_outline (same : after.outline = before.outline) :
    Grows before after where
  records := by
    have lengths := congrArg (fun cluster : Cluster => cluster.records.length) same
    simp only [outline, List.length_map] at lengths
    exact Nat.le_of_eq lengths.symm
  named := by
    intro id number named
    rw [current_of_outline same] at named
    exact .inl named

private theorem grows_applyModel (cluster : Cluster) (model : ClusterModel) :
    Grows cluster (Router.applyModel cluster model).value := by
  simp only [Router.applyModel, reconcile]
  split
  · exact ⟨Nat.le_refl _, fun _ _ => .inl⟩
  · refine ⟨length_enroll _ _ _, fun id number named => ?_⟩
    have given := (Keyed.get?_eq_some_iff _ _ _).1 named
    exact (kept_or_fresh_of_mem_enroll _ _ _ given).imp_right And.right

theorem Change.grows (change : before.Change policies after) : Grows before after := by
  cases change with
  | configured => exact grows_applyModel before _
  | probed => exact grows_of_outline (onlyHealth_settleProbes _ _ _).outline
  | turned => exact ⟨Nat.le_refl _, fun _ _ => .inl⟩
  | looped => exact ⟨Nat.le_refl _, fun _ _ => .inl⟩

end Cluster

namespace Router

variable {policies : Policies} {router before middle after next : Router}
  {ref : ClusterRef}

/-- No cluster is lost, and all of them keep their records. -/
def Grows (before after : Router) : Prop :=
  ∀ ref former, before.cluster? ref = some former →
    ∃ cluster, after.cluster? ref = some cluster ∧ former.Grows cluster

theorem Grows.refl (router : Router) : Grows router router :=
  fun _ former present => ⟨former, present, .refl former⟩

theorem Grows.trans (first : Grows before middle) (last : Grows middle after) :
    Grows before after := by
  intro ref former present
  rcases first ref former present with ⟨cluster, there, grows⟩
  rcases last ref cluster there with ⟨latest, stillThere, more⟩
  exact ⟨latest, stillThere, grows.trans more⟩

theorem Grows.setCluster {former cluster : Cluster}
    (present : router.cluster? ref = some former)
    (grows : former.Grows cluster) : Grows router (router.setCluster ref cluster) := by
  intro other found there
  rw [cluster?_setCluster present]
  split
  · rename_i here
    rw [here, present, Option.some.injEq] at there
    exact ⟨cluster, rfl, there ▸ grows⟩
  · exact ⟨found, there, .refl found⟩

theorem Grows.mapCluster (router : Router) (ref : ClusterRef) {change : Cluster → Cluster}
    (grows : ∀ cluster : Cluster, cluster.Grows (change cluster)) :
    Grows router (router.mapCluster ref change) := by
  unfold Router.mapCluster
  split
  · exact .refl router
  · rename_i cluster present
    exact .setCluster present (grows cluster)

theorem SameOutline.grows (same : SameOutline before after) : Grows before after := by
  intro ref former present
  have outlines := same.outlines ref
  rw [present] at outlines
  rcases Option.map_eq_some_iff.1 outlines with ⟨cluster, there, alike⟩
  exact ⟨cluster, there, Cluster.grows_of_outline alike⟩

theorem Move.grows (move : Move policies router next) : Grows router next := by
  cases move with
  | change present changed => exact .setCluster present changed.grows
  | add =>
      intro ref former present
      refine ⟨former, ?_, .refl former⟩
      rw [cluster?_addCluster, if_neg, present]
      intro added
      rw [added, cluster?_added_eq_none] at present
      cases present
  | shutDown =>
      exact Grows.mapCluster router _ fun _ => ⟨Nat.le_refl _, fun _ _ => .inl⟩
  | @reactivate position alarm exclusion =>
      have restored : Grows (router.eraseAlarm position) _ :=
        .mapCluster (router.eraseAlarm position) alarm.cluster fun cluster =>
          Cluster.grows_of_outline
            (Cluster.onlyHealth_reactivate cluster exclusion).outline
      exact restored
  | _ => exact .refl router

theorem Moves.grows (moves : Moves policies router next) : Grows router next := by
  induction moves with
  | refl => exact .refl router
  | tail _ move induction => exact induction.trans move.grows

theorem Grows.hasRecord (grows : Grows before after) {record : Nat}
    (there : before.hasRecord ref record = true) : after.hasRecord ref record = true := by
  rcases cluster?_of_hasRecord there with ⟨former, present, bound⟩
  rcases grows ref former present with ⟨cluster, stillPresent, more⟩
  have stored := List.getElem?_eq_getElem (Nat.lt_of_lt_of_le bound more.records)
  exact hasRecord_of_stored stillPresent stored

/-! What waits for its time. -/

def Grounds (router : Router) (alarm : Alarm) : Prop :=
  ∀ record ∈ alarm.wakeup.records, router.hasRecord alarm.cluster record = true

theorem Grounds.grows {alarm : Alarm} (grounds : before.Grounds alarm)
    (grows : Grows before after) : after.Grounds alarm :=
  fun record about => grows.hasRecord (grounds record about)

structure Grounded (router : Router) : Prop where
  leases : ∀ number lease, router.lease? number = some lease →
    router.hasRecord lease.cluster lease.record = true
  alarms : ∀ alarm ∈ router.agenda, router.Grounds alarm

private theorem grounded_fresh (policies : Policies) (background : Bool) :
    Grounded { policies, background } where
  leases := nofun
  alarms := nofun

/-! Leases. -/

private theorem lease?_of_acquire {record number : Nat} {lease : Lease}
    (held : (router.acquire ref record).1.lease? number = some lease) :
    router.lease? number = some lease ∨
      router.leases.length ≤ number ∧ lease = { cluster := ref, record } := by
  rw [lease?, (acquire_fields router ref record).1, List.getElem?_append] at held
  split at held
  · exact .inl held
  · rename_i beyond
    refine .inr ⟨Nat.le_of_not_lt beyond, ?_⟩
    cases offset : number - router.leases.length with
    | zero =>
        rw [offset] at held
        exact (Option.some.inj held).symm
    | succ =>
        rw [offset] at held
        cases held

private theorem lease?_of_endLease {ended number : Nat} {outcome : Outcome}
    {lease : Lease}
    (held : (router.endLease ended outcome).value.lease? number = some lease) :
    router.lease? number = some lease := by
  rw [lease?, leases_endLease, List.getElem?_set] at held
  split at held
  · split at held <;> cases held
  · exact held

/-- A lease that is alive was so before, or it is new and on a record that exists. -/
theorem lease?_of_performed (performed : Performed policies router next) {number : Nat}
    {lease : Lease} (held : next.lease? number = some lease) :
    router.lease? number = some lease ∨
      router.leases.length ≤ number ∧
        next.hasRecord lease.cluster lease.record = true := by
  have acquired : ∀ (middle : Router) (ref : ClusterRef) (record : Nat),
      Grows middle (middle.acquire ref record).1 :=
    fun middle ref record => (unnoticed_acquire middle ref record).toSameOutline.grows
  cases performed with
  | begun begun =>
      cases begun with
      | moved moves =>
          rw [lease?, moves.frame.leases] at held
          exact .inl held
      | acquired there =>
          refine (lease?_of_acquire held).imp_right ?_
          rintro ⟨new, rfl⟩
          exact ⟨new, (acquired router _ _).hasRecord there⟩
      | @started middle moves request there =>
          have earlier : ∀ number, middle.lease? number = router.lease? number := by
            intro number
            rw [lease?, moves.frame.leases, lease?]
          have taken := @lease?_of_acquire middle _ _ _ _ held
          rw [earlier, moves.frame.leases] at taken
          refine taken.imp_right ?_
          rintro ⟨new, rfl⟩
          exact ⟨new, (acquired middle _ _).hasRecord there⟩
  | reported ref record outcome =>
      rw [lease?, (frame_observe router ref record outcome).leases] at held
      exact .inl held
  | ended => exact .inl (lease?_of_endLease held)
  | finished => exact .inl (lease?_of_endLease held)

private theorem length_leases_of_performed (performed : Performed policies router next) :
    router.leases.length ≤ next.leases.length := by
  have acquired : ∀ (middle : Router) (ref : ClusterRef) (record : Nat),
      middle.leases.length ≤ (middle.acquire ref record).1.leases.length := by
    intro middle ref record
    rw [(acquire_fields middle ref record).1, List.length_append]
    exact Nat.le_add_right _ _
  have ended : ∀ number outcome,
      router.leases.length ≤ (router.endLease number outcome).value.leases.length := by
    intro number outcome
    rw [leases_endLease, List.length_set]
  cases performed with
  | begun begun =>
      cases begun with
      | moved moves => rw [moves.frame.leases]
      | acquired => exact acquired router _ _
      | started moves request =>
          rw [← moves.frame.leases]
          exact acquired _ request.cluster request.candidate.record
  | reported ref record outcome => rw [(frame_observe router ref record outcome).leases]
  | ended _ outcome => exact ended _ outcome
  | finished _ outcome => exact ended _ outcome

/-! Reconfigurations. What they set alarms for begins with the records of that time. -/

/-- Whatever alarms are new are about no record. -/
def Recordless (before after : Router) : Prop :=
  ∀ alarm ∈ after.agenda, alarm ∈ before.agenda ∨ alarm.wakeup.records = []

theorem Recordless.refl (router : Router) : Recordless router router :=
  fun _ => .inl

theorem Recordless.trans (first : Recordless before middle)
    (last : Recordless middle after) :
    Recordless before after := by
  intro alarm pending
  rcases last alarm pending with old | new
  · exact first alarm old
  · exact .inr new

private theorem recordless_stopProbing (router : Router) (ref : ClusterRef) :
    Recordless router (router.stopProbing ref).value := by
  unfold stopProbing
  split
  · exact .refl router
  · exact fun _ pending => .inl (mem_agenda_cancelLoop pending)

private theorem recordless_startProbing (router : Router) (ref : ClusterRef) :
    Recordless router (router.startProbing ref).value := by
  have spawned : Recordless router (router.spawnProbing ref).value.1 := by
    unfold spawnProbing
    split
    · split
      · exact .refl router
      · dsimp only
        split
        · exact fun _ => .inl
        · intro alarm pending
          rcases List.mem_append.1 pending with old | new
          · exact .inl old
          · rw [List.mem_singleton.1 new]
            exact .inr rfl
    · exact .refl router
  simp only [startProbing, Traced.value_bind]
  split <;> exact spawned

private theorem recordless_updateProbing (router : Router) (ref : ClusterRef)
    (model : ClusterModel) (previous : Option ClusterModel) :
    Recordless router (router.updateProbing ref model previous).value := by
  have stopped := recordless_stopProbing router ref
  simp only [updateProbing]
  split
  · exact stopped
  · split
    · exact .refl router
    · exact stopped.trans (recordless_startProbing _ ref)

theorem recordless_configure (router : Router) (config : ClusterConfig) :
    Recordless router (router.configure config).value.1 := by
  have installed : ∀ model, Recordless router (router.install model).value := by
    intro model
    unfold install
    split
    · rename_i ref cluster _
      exact recordless_updateProbing (router.setCluster ref _) ref model _
    · exact recordless_updateProbing (router.addCluster _).1 _ model none
  unfold configure
  split
  · exact .refl router
  · exact installed _

theorem recordless_remove (router : Router) (id : String) :
    Recordless router (router.remove id).value.1 := by
  unfold remove
  split
  · exact .refl router
  · rename_i ref _
    let unregistered : Router := { router with registered := router.registered.erase id }
    have stopped : Recordless router (unregistered.stopProbing ref).value :=
      recordless_stopProbing unregistered ref
    have closed := fewer_shutDown (unregistered.stopProbing ref).value ref
    exact stopped.trans fun alarm pending => .inl (closed.agenda alarm pending)

end Router

/-! Probes. Their results are about the records that they were sent for. -/

private theorem Batch.sublist_add (batch : Batch) (number : Nat) (answer : ProbeAnswer) :
    (batch.add number answer).outcome.records.Sublist
      (number :: batch.outcome.records) := by
  rcases batch with ⟨duration, outcome⟩
  unfold add
  cases answer.outcome with
  | none => cases outcome <;> exact List.nil_sublist _
  | some result =>
      cases outcome with
      | crashed => exact List.nil_sublist _
      | completed results => exact .refl _

theorem sublist_sendProbes (config : ActiveCheckConfig) (script : ProbeScript)
    (candidates : List Candidate) :
    (sendProbes config script candidates).value.1.outcome.records.Sublist
      (candidates.map Candidate.record) := by
  induction candidates generalizing script with
  | nil => exact .slnil
  | cons candidate rest induction =>
      have added : ∀ script' answer,
          ((sendProbes config script' rest).value.1.add candidate.record
            answer).outcome.records.Sublist
              (candidate.record :: rest.map Candidate.record) :=
        fun script' answer =>
          (Batch.sublist_add _ _ answer).trans ((induction script').cons_cons _)
      simp only [sendProbes]
      split
      · exact added script _
      · simp only [Traced.value_bind]
        split
        · exact List.nil_sublist _
        · exact added _ _

private theorem records_sendProbes (config : ActiveCheckConfig) (script : ProbeScript)
    {candidates : List Candidate} {record : Nat}
    (about : record ∈ (sendProbes config script candidates).value.1.outcome.records) :
    ∃ candidate ∈ candidates, candidate.record = record :=
  List.mem_map.1 ((sublist_sendProbes config script candidates).subset about)

theorem Scene.hasRecord_of_sent {scene : Scene} {ref : ClusterRef} {policy : ActivePolicy}
    {batch : Batch} (sent : (scene.send ref).value.2 = some (policy, batch))
    {record : Nat} (about : record ∈ batch.outcome.records) :
    scene.router.hasRecord ref record = true := by
  unfold send at sent
  split at sent
  · cases sent
  · rename_i cluster present
    split at sent
    · cases sent
    · cases sent
      rcases records_sendProbes _ _ about with ⟨candidate, member, rfl⟩
      have stored := ((Cluster.mem_candidates_iff _ _ _).1 member).2
      exact Router.hasRecord_of_stored present stored

theorem Work.send_of_sent {work : Work} {policy : ActivePolicy} {batch : Batch}
    (sent : work.sent? = some (policy, batch)) :
    (work.scene.send work.alarm.cluster).value.2 = some (policy, batch) := by
  unfold sent? at sent
  split at sent
  · exact sent
  · cases sent

private theorem Work.grounds_following (work : Work) (loop : Nat) :
    work.scene.router.Grounds (work.following loop) := by
  unfold following
  split
  · exact List.forall_mem_nil _
  · rename_i policy batch sent
    split
    · exact List.forall_mem_nil _
    · exact fun record about => Scene.hasRecord_of_sent (send_of_sent sent) about

/-- What a loop waits for after a step, it waited for before, or its work has set it. -/
theorem Beat.loopAlarm {scene next : Scene} {works : List Work}
    (beat : Beat scene works next) (looped : ∀ id, scene.router.Looped id) {alarm : Alarm}
    (pending : alarm ∈ next.router.loopAlarms) :
    alarm ∈ scene.router.loopAlarms ∨ ∃ work ∈ works, ∃ loop,
      alarm = work.following loop := by
  cases beat with
  | @rung position rang there =>
      rcases List.mem_filter.1 pending with ⟨left, looping⟩
      have erased : ∀ alarm ∈ scene.router.agenda.eraseIdx position,
          alarm.wakeup.loop?.isSome → alarm ∈ scene.router.loopAlarms :=
        fun alarm pending looping =>
          List.mem_filter.2 ⟨List.mem_of_mem_eraseIdx pending, looping⟩
      cases wakeup : rang.wakeup.loop? with
      | none =>
          have same : (scene.work position rang).after.router.agenda = _ :=
            Work.agenda_after_of_timer wakeup
          rw [same] at left
          exact .inl (erased alarm left looping)
      | some loop =>
          have own := (Router.belongsToLoop_iff rang.cluster loop rang).2 ⟨rfl, wakeup⟩
          have runs := Scene.runs_of_pending looped (List.mem_of_getElem? there) own
          rcases Option.bind_eq_some_iff.1 runs with ⟨cluster, present, -⟩
          have set : (scene.work position rang).after.router.agenda = _ :=
            Work.agenda_after wakeup present
          rw [set] at left
          rcases List.mem_append.1 left with old | new
          · exact .inl (erased alarm old looping)
          · exact .inr ⟨_, List.mem_singleton_self _, loop, List.mem_singleton.1 new⟩
  | calm unnoticed =>
      rw [unnoticed.alarms] at pending
      exact .inl pending
  | passed => exact .inl pending

theorem Beat.work_cluster? {scene next : Scene} {works : List Work}
    (beat : Beat scene works next) {work : Work} (done : work ∈ works)
    (ref : ClusterRef) :
    work.scene.router.cluster? ref = scene.router.cluster? ref := by
  cases beat with
  | rung =>
      rw [List.mem_singleton.1 done]
      rfl
  | calm => cases done
  | passed => cases done

theorem Beat.grounds {scene next : Scene} {works : List Work}
    (beat : Beat scene works next) (looped : ∀ id, scene.router.Looped id)
    (grounded : ∀ alarm ∈ scene.router.loopAlarms, scene.router.Grounds alarm) :
    ∀ alarm ∈ next.router.loopAlarms, next.router.Grounds alarm := by
  have grows := beat.sameOutline.grows
  intro alarm pending
  rcases beat.loopAlarm looped pending with old | ⟨work, done, loop, rfl⟩
  · exact (grounded alarm old).grows grows
  · have there := work.grounds_following loop
    simp only [Router.Grounds, Router.hasRecord, beat.work_cluster? done] at there
    exact Router.Grounds.grows there grows

theorem Beats.grounds {policies : Policies} {background : Bool} {start next : Scene}
    {works : List Work} (beats : Beats start works next)
    (sound : Router.Sound policies background start.router)
    (grounded : ∀ alarm ∈ start.router.loopAlarms, start.router.Grounds alarm) :
    ∀ alarm ∈ next.router.loopAlarms, next.router.Grounds alarm := by
  induction beats with
  | refl => exact grounded
  | tail earlier beat induction =>
      exact beat.grounds (earlier.sound sound).looped induction

namespace Scene

variable {policies : Policies} {background : Bool} {scene : Scene} {operation : Operation}

theorem grows_perform (known : Router.Known policies scene.router)
    (operation : Operation) :
    Router.Grows scene.router (scene.perform operation).value.router := by
  cases reconfigures : operation.reconfigures with
  | false => exact (sameOutline_perform reconfigures).grows
  | true =>
      cases operation with
      | configure config => exact (Router.moves_configure known config).grows
      | applySnapshot configs => exact (Router.moves_applySnapshot known configs).grows
      | remove id =>
          have moves : Router.Moves policies scene.router _ :=
            Router.moves_remove scene.router id
          exact moves.grows
      | _ => cases reconfigures

theorem alarm_of_observe {router : Router} {ref : ClusterRef} {record : Nat}
    {outcome : Outcome} {alarm : Alarm}
    (pending : alarm ∈ (router.observe ref record outcome).value.agenda) :
    alarm ∈ router.agenda ∨ router.hasRecord ref record = true ∧ alarm.cluster = ref ∧
      alarm.wakeup.records = [record] := by
  refine (Router.mem_agenda_observe pending).imp_right ?_
  rintro ⟨cluster, exclusion, present, -, began, rfl⟩
  have result := Cluster.observe_result cluster router.now record outcome
  generalize (cluster.observe router.now record outcome).value = observed at result began
  cases result with
  | excluded _ stored =>
      cases began
      exact ⟨Router.hasRecord_of_stored present stored, rfl, rfl⟩
  | _ => cases began

private theorem grounds_of_observe {router : Router} {ref : ClusterRef} {record : Nat}
    {outcome : Outcome} {alarm : Alarm}
    (pending : alarm ∈ (router.observe ref record outcome).value.agenda) :
    alarm ∈ router.agenda ∨ router.Grounds alarm := by
  refine (alarm_of_observe pending).imp_right ?_
  rintro ⟨there, rfl, about⟩
  rw [Router.Grounds, about]
  exact List.forall_mem_singleton.2 there

private theorem grounded_perform (sound : Router.Sound policies background scene.router)
    (choosing : policies.Choosing) (grounded : scene.router.Grounded)
    (operation : Operation) :
    (scene.perform operation).value.router.Grounded := by
  have known := sound.known
  have grows := grows_perform known operation
  constructor
  · intro number lease held
    rcases Router.lease?_of_performed (performed known choosing operation) held with
      old | new
    · exact grows.hasRecord (grounded.leases number lease old)
    · exact new.2
  · intro alarm pending
    cases reconfigures : operation.reconfigures with
    | true =>
        have recordless := scene.reconfigured_related Router.Recordless .refl .trans
          Router.recordless_configure Router.recordless_remove reconfigures
        rcases recordless alarm pending with old | new
        · exact (grounded.alarms alarm old).grows grows
        · rw [Router.Grounds, new]
          exact List.forall_mem_nil _
    | false =>
        cases wakeup : alarm.wakeup.loop? with
        | none =>
            rcases reported_of_timer known choosing pending wakeup with
              old | ⟨lease, outcome, -, set⟩
            · exact (grounded.alarms alarm old).grows grows
            · rcases grounds_of_observe set with old | new
              · exact (grounded.alarms alarm old).grows grows
              · exact new.grows grows
        | some loop =>
            have beats : Beats scene _ _ := beats_perform reconfigures
            refine beats.grounds sound (fun other member => ?_) alarm ?_
            · exact grounded.alarms other (List.mem_filter.1 member).1
            · exact List.mem_filter.2 ⟨pending, by rw [wakeup]; rfl⟩

theorem grounded_after (choosing : policies.Choosing) (background : Bool)
    (run : List Operation) : ((fresh policies background).after run).router.Grounded := by
  induction run with
  | nil => exact Router.grounded_fresh policies background
  | cons operation earlier induction =>
      exact grounded_perform (sound_after policies background earlier) choosing
        induction operation

theorem lease?_after (choosing : policies.Choosing) (background : Bool)
    {run : List Operation} {number : Nat} {former : Lease}
    (alive : ((fresh policies background).after run).router.lease? number = some former)
    (later : List Operation) :
    let router := ((fresh policies background).after (later ++ run)).router
    number < router.leases.length ∧ ∀ lease, router.lease? number = some lease →
      lease = former := by
  induction later with
  | nil =>
      refine ⟨?_, fun lease held => Option.some.inj (held.symm.trans alive)⟩
      exact (List.getElem?_eq_some_iff.1 ((Router.lease?_eq_some_iff _ _ _).1 alive)).1
  | cons operation rest induction =>
      have known := known_after choosing background (rest ++ run)
      have performed := performed known choosing operation
      refine ⟨Nat.lt_of_lt_of_le induction.1
        (Router.length_leases_of_performed performed), ?_⟩
      intro lease held
      rcases Router.lease?_of_performed performed held with old | ⟨new, -⟩
      · exact induction.2 lease old
      · exact absurd induction.1 (Nat.not_lt_of_le new)

end Scene

end Gateway
