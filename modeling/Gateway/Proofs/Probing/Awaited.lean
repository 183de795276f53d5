import Gateway.Proofs.Probing.Rulings
import Gateway.Proofs.Removal.Grounding
import Gateway.Proofs.Snapshots

namespace Gateway

/-! The results that a gateway waits for. Every batch that is judged in a run has at most
one result of each record, and all of these records exist, even if they are not configured
any more. -/

namespace Cluster

variable {current : Keyed Nat} {records : List Destination}

theorem Names.nodup_values (names : Names current records) : current.values.Nodup := by
  refine List.Nodup.map_on ?_ (List.Nodup.of_map _ (map_fst_distinct current))
  intro first there second also same
  have named := (Keyed.get?_eq_some_iff _ _ _).2 there
  have alsoNamed := (Keyed.get?_eq_some_iff _ _ _).2 also
  exact Prod.ext (names.eq_of_same named (same ▸ alsoNamed)) same

theorem Names.nodup_candidates {cluster : Cluster}
    (names : Names cluster.current cluster.records) :
    ((cluster.candidates cluster.current.values).map Candidate.record).Nodup := by
  rw [map_record_candidates]
  · exact names.nodup_values
  · intro number listed
    rcases (Keyed.mem_values_iff _ _).1 listed with ⟨id, named⟩
    rcases names id number named with ⟨destination, stored, -⟩
    exact (List.getElem?_eq_some_iff.1 stored).1

theorem Names.outline {before after : Cluster}
    (names : Names before.current before.records)
    (same : after.outline = before.outline) : Names after.current after.records := by
  intro id number named
  rw [current_of_outline same] at named
  rcases names id number named with ⟨destination, stored, alike⟩
  rcases getElem?_of_outline same stored with ⟨other, found, also, -⟩
  exact ⟨other, found, also.trans alike⟩

end Cluster

theorem Scene.nodup_sent {scene : Scene} {ref : ClusterRef}
    (names : ∀ cluster, scene.router.cluster? ref = some cluster →
      Cluster.Names cluster.current cluster.records)
    {policy : ActivePolicy} {batch : Batch}
    (sent : (scene.send ref).value.2 = some (policy, batch)) :
    batch.outcome.records.Nodup := by
  unfold send at sent
  split at sent
  · cases sent
  · rename_i cluster present
    split at sent
    · cases sent
    · cases sent
      exact (sublist_sendProbes _ _ _).nodup (names cluster present).nodup_candidates

namespace Router

variable {policies : Policies} {background : Bool} {router : Router}

/-- What is known about a gateway and the results that it waits for. -/
structure Awaits (policies : Policies) (background : Bool) (router : Router) : Prop where
  sound : Sound policies background router
  names : ∀ ref cluster, router.cluster? ref = some cluster →
    Cluster.Names cluster.current cluster.records
  grounded : ∀ alarm ∈ router.loopAlarms, router.Grounds alarm
  distinct : ∀ alarm ∈ router.loopAlarms, alarm.wakeup.records.Nodup

end Router

private theorem Router.awaits_fresh (policies : Policies) (background : Bool) :
    Awaits policies background { policies, background } where
  sound := sound_fresh policies background
  names := by
    intro ref cluster present
    rw [cluster?_fresh] at present
    cases present
  grounded := nofun
  distinct := nofun

theorem Beat.distinct {scene next : Scene} {works : List Work}
    (beat : Beat scene works next) (looped : ∀ id, scene.router.Looped id)
    (names : ∀ ref cluster, scene.router.cluster? ref = some cluster →
      Cluster.Names cluster.current cluster.records)
    (distinct : ∀ alarm ∈ scene.router.loopAlarms, alarm.wakeup.records.Nodup) :
    ∀ alarm ∈ next.router.loopAlarms, alarm.wakeup.records.Nodup := by
  intro alarm pending
  rcases beat.loopAlarm looped pending with old | ⟨work, done, loop, rfl⟩
  · exact distinct alarm old
  · unfold Work.following
    split
    · exact List.nodup_nil
    · rename_i policy batch sent
      split
      · exact List.nodup_nil
      · refine Scene.nodup_sent (fun cluster present => ?_) (Work.send_of_sent sent)
        rw [beat.work_cluster? done] at present
        exact names _ cluster present

theorem Router.Awaits.beat {policies : Policies} {background : Bool} {scene next : Scene}
    {works : List Work} (awaits : Awaits policies background scene.router)
    (beat : Beat scene works next) : Awaits policies background next.router where
  sound := (Beats.single beat).sound awaits.sound
  names := by
    intro ref cluster present
    rcases beat.sameOutline.cluster? present with ⟨former, there, same⟩
    exact (awaits.names ref former there).outline same
  grounded := beat.grounds awaits.sound.looped awaits.grounded
  distinct := beat.distinct awaits.sound.looped awaits.names awaits.distinct

theorem Beats.awaits {policies : Policies} {background : Bool} {start next : Scene}
    {works : List Work} (beats : Beats start works next)
    (awaits : Router.Awaits policies background start.router) :
    Router.Awaits policies background next.router := by
  induction beats with
  | refl => exact awaits
  | tail _ beat induction => exact induction.beat beat

theorem Beats.origin {policies : Policies} {background : Bool} {start next : Scene}
    {works : List Work} (beats : Beats start works next)
    (awaits : Router.Awaits policies background start.router) {work : Work}
    (done : work ∈ works) :
    ∃ (scene : Scene) (position : Nat) (alarm : Alarm),
      Router.Awaits policies background scene.router ∧
        scene.router.agenda[position]? = some alarm ∧
          work = scene.work position alarm := by
  induction beats with
  | refl => cases done
  | @tail _ _ scene _ earlier beat induction =>
      rcases List.mem_append.1 done with before | here
      · exact induction before
      · cases beat with
        | @rung position alarm pending =>
            exact ⟨scene, position, alarm, earlier.awaits awaits, pending,
              List.mem_singleton.1 here⟩
        | calm => cases here
        | passed => cases here

namespace Scene

variable {policies : Policies} {background : Bool} {scene : Scene}

theorem awaits_after (source : RandomSource) (protector : Protector) (background : Bool)
    (run : List Operation) :
    Router.Awaits (.builtin source protector) background
      ((fresh (.builtin source protector) background).after run).router := by
  have choosing := Policies.choosing_builtin source protector
  induction run with
  | nil => exact Router.awaits_fresh _ background
  | cons operation earlier awaits =>
      cases reconfigures : operation.reconfigures with
      | false => exact (beats_perform reconfigures).awaits awaits
      | true =>
          refine
            { sound := sound_after _ background (operation :: earlier)
              names := fun ref cluster present => ?_
              grounded := fun alarm pending => ?_
              distinct := fun alarm pending => ?_ }
          · exact (coherent_after source protector background (operation :: earlier)
              ref cluster present).names
          · exact (grounded_after choosing background (operation :: earlier)).alarms alarm
              (List.mem_filter.1 pending).1
          · let scene := (fresh (.builtin source protector) background).after earlier
            have recordless := scene.reconfigured_related Router.Recordless .refl .trans
              Router.recordless_configure Router.recordless_remove reconfigures
            rcases recordless alarm (List.mem_filter.1 pending).1 with old | new
            · exact awaits.distinct alarm
                (List.mem_filter.2 ⟨old, (List.mem_filter.1 pending).2⟩)
            · rw [new]
              exact List.nodup_nil

end Scene

namespace Ruling

variable {policies : Policies} {background : Bool}

/-- A batch whose results are about different records, all of which exist. -/
structure Regular (policies : Policies) (ruling : Ruling) : Prop where
  listed : ruling.policy ∈ policies.active.entries
  distinct : (ruling.results.map Prod.fst).Nodup
  stored : ∀ record ∈ ruling.results.map Prod.fst,
    ruling.router.hasRecord ruling.cluster record = true

private theorem regular_of? {router : Router} {ref : ClusterRef} {policy : ActivePolicy}
    {outcome : BatchEnd} (listed : policy ∈ policies.active.entries)
    (distinct : outcome.records.Nodup)
    (stored : ∀ record ∈ outcome.records, router.hasRecord ref record = true) :
    ∀ ruling ∈ of? router ref policy outcome, ruling.Regular policies := by
  intro ruling made
  cases outcome with
  | crashed => cases made
  | completed results =>
      cases made
      exact ⟨listed, distinct, stored⟩

end Ruling

namespace Scene

variable {policies : Policies} {background : Bool} {scene : Scene}

private theorem regular_sent (known : Router.Known policies scene.router)
    {ref : ClusterRef} (names : ∀ cluster, scene.router.cluster? ref = some cluster →
      Cluster.Names cluster.current cluster.records)
    {policy : ActivePolicy} {batch : Batch}
    (sent : (scene.send ref).value.2 = some (policy, batch)) :
    ∀ ruling ∈ Ruling.of? scene.router ref policy batch.outcome,
      ruling.Regular policies :=
  Ruling.regular_of? (policy_send known ref policy batch sent) (nodup_sent names sent)
    fun _ => hasRecord_of_sent sent

private theorem regular_tick (known : Router.Known policies scene.router)
    {target : ClusterRef}
    (names : ∀ cluster, scene.router.cluster? target = some cluster →
      Cluster.Names cluster.current cluster.records)
    (due loop : Nat) :
    ∀ ruling ∈ Work.ruling?
        { scene, alarm := { due, cluster := target, wakeup := .tick loop } },
      ruling.Regular policies := by
  intro ruling made
  rcases Option.bind_eq_some_iff.1 made with ⟨⟨policy, batch⟩, sent, judged⟩
  dsimp only at judged
  split at judged
  · exact regular_sent known names sent ruling judged
  · cases judged

private theorem regular_work (awaits : Router.Awaits policies background scene.router)
    {position : Nat} {alarm : Alarm}
    (pending : scene.router.agenda[position]? = some alarm) :
    ∀ ruling ∈ (scene.work position alarm).ruling?, ruling.Regular policies := by
  have known := awaits.sound.known
  have member := List.mem_of_getElem? pending
  have rung : Router.Known policies (scene.rung position alarm).router :=
    ⟨known.tables, known.models,
      fun other there => known.alarms other (List.mem_of_mem_eraseIdx there),
        known.registered⟩
  rcases alarm with ⟨due, target, wakeup⟩
  cases wakeup with
  | reactivate => exact fun ruling made => absurd made (Option.not_mem_none ruling)
  | beginProbing loop => exact regular_tick rung (awaits.names target) due loop
  | tick loop => exact regular_tick rung (awaits.names target) due loop
  | settle loop policy outcome =>
      have looping :
          Alarm.mk due target (.settle loop policy outcome) ∈ scene.router.loopAlarms :=
        List.mem_filter.2 ⟨member, rfl⟩
      exact Ruling.regular_of? (known.alarms _ member loop policy outcome rfl)
        (awaits.distinct _ looping) (awaits.grounded _ looping)

theorem regular_byHand (awaits : Router.Awaits policies background scene.router)
    (ref : ClusterRef) :
    ∀ ruling ∈ scene.rulingByHand? (.check ref), ruling.Regular policies := by
  have same := router_send scene ref
  have listed := policy_send awaits.sound.known ref
  have distinct := @nodup_sent scene ref (awaits.names ref)
  have stored := @hasRecord_of_sent scene ref
  simp only [rulingByHand?]
  generalize (scene.send ref).value = result at same listed distinct stored ⊢
  rcases result with ⟨after, sent⟩
  dsimp only at same listed distinct stored ⊢
  cases sent with
  | none => exact fun ruling made => absurd made (Option.not_mem_none ruling)
  | some answer =>
      rcases answer with ⟨policy, batch⟩
      have beats := beats_ring (after.alarmsBefore (after.router.now + batch.duration))
        (after.router.now + batch.duration) after
      refine Ruling.regular_of? (listed policy batch rfl) (distinct rfl)
        fun record about => ?_
      have before := stored rfl about
      rw [← same] at before
      exact beats.sameOutline.grows.hasRecord before

theorem regular_rulingsOf (awaits : Router.Awaits policies background scene.router)
    (operation : Operation) : ∀ ruling ∈ scene.rulingsOf operation,
      ruling.Regular policies := by
  intro ruling judged
  rcases List.mem_append.1 judged with worked | byHand
  · rcases List.mem_filterMap.1 worked with ⟨work, done, made⟩
    have beats :
        Beats scene (scene.workOf operation) (scene.perform operation).value := by
      refine beats_perform ?_
      cases operation <;> first | rfl | cases done
    rcases beats.origin awaits done with ⟨middle, position, alarm, before, pending, rfl⟩
    exact regular_work before pending ruling made
  · rw [Option.mem_toList] at byHand
    cases operation with
    | check ref => exact regular_byHand awaits ref ruling byHand
    | _ => cases byHand

theorem regular_rulings (source : RandomSource) (protector : Protector)
    (background : Bool) (run : List Operation) :
    ∀ ruling ∈ (fresh (.builtin source protector) background).rulings run,
      ruling.Regular (.builtin source protector) := by
  induction run with
  | nil => exact List.forall_mem_nil _
  | cons operation earlier induction =>
      intro ruling judged
      rcases List.mem_append.1 judged with before | here
      · exact induction ruling before
      · exact regular_rulingsOf (awaits_after source protector background earlier)
          operation
          ruling here

end Scene

end Gateway
