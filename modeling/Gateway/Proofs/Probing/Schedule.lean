import Gateway.Proofs.Probing.Ticks
import Gateway.Proofs.Registry.Silence

namespace Gateway

/-! The schedule of a probe loop. It is laid down by the instant at which the loop
started, the durations of its ticks and the interval of its settings. -/

def Work.finish (tick : Work) : Nat :=
  tick.time + (tick.sent?.map (fun sent => sent.2.duration)).getD 0

/-- The rhythm of a loop that is always in time: its first tick starts with the loop, and
every other one an interval after the end of the tick before. The alarm that it awaits
ends the last tick or starts the next one. -/
structure Rhythm (started interval : Nat) (ticks : List Work)
    (awaited : Alarm) : Prop where
  first : ∀ tick ∈ ticks.head?, tick.time = started
  next : ticks.IsChain (fun tick next => next.time = tick.finish + interval)
  begins : ticks = [] → awaited.wakeup.startsTick = true ∧ awaited.due = started
  goesOn : ∀ tick ∈ ticks.getLast?,
    awaited.due = tick.finish + if awaited.wakeup.startsTick then interval else 0

namespace Work

variable {work : Work} {loop : Nat}

theorem due_following (work : Work) (loop : Nat) :
    (work.following loop).due =
      work.finish + if (work.following loop).wakeup.startsTick then work.interval
        else 0 := by
  unfold following finish
  cases work.sent? with
  | none => rfl
  | some sent =>
      rcases sent with ⟨policy, batch⟩
      dsimp only [Option.map_some, Option.getD_some]
      split
      · rename_i atOnce
        rw [atOnce]
        rfl
      · rfl

theorem following_of_settle (ends : work.isTick = false) :
    work.following loop = work.nextTick loop := by
  rw [following, sent?, ends]
  rfl

end Work

namespace Rhythm

variable {started interval : Nat} {ticks : List Work} {work : Work} {loop : Nat}

theorem tick (rhythm : Rhythm started interval ticks work.alarm)
    (starts : work.isTick = true) (inTime : work.time = work.alarm.due)
    (own : work.interval = interval) :
    Rhythm started interval (ticks ++ [work]) (work.following loop) := by
  have started' : work.alarm.wakeup.startsTick = true := starts
  refine ⟨?_, ?_, ?_, ?_⟩
  · intro tick first
    cases ticks with
    | nil =>
        rcases Option.mem_some_iff.1 first with rfl
        exact inTime.trans (rhythm.begins rfl).2
    | cons earliest rest => exact rhythm.first tick first
  · refine List.isChain_append.2 ⟨rhythm.next, .singleton work,
      fun last member next new => ?_⟩
    rcases Option.mem_some_iff.1 new with rfl
    have due := rhythm.goesOn last member
    rw [if_pos started'] at due
    exact inTime.trans due
  · intro nothing
    exact absurd nothing (List.concat_ne_nil _ _)
  · intro last member
    rw [List.getLast?_concat] at member
    rcases Option.mem_some_iff.1 member with rfl
    rw [← own]
    exact work.due_following loop

theorem settle (rhythm : Rhythm started interval ticks work.alarm)
    (ends : work.isTick = false) (inTime : work.time = work.alarm.due)
    (own : work.interval = interval) :
    Rhythm started interval ticks (work.following loop) := by
  have ended : work.alarm.wakeup.startsTick = false := ends
  rw [Work.following_of_settle ends]
  refine ⟨rhythm.first, rhythm.next, fun nothing => ?_, fun last member => ?_⟩
  · have starts := (rhythm.begins nothing).1
    rw [ended] at starts
    cases starts
  · have due := rhythm.goesOn last member
    rw [ended] at due
    rw [← own]
    exact congrArg (· + work.interval) (inTime.trans due)

end Rhythm

private theorem Course.rhythm {ref : ClusterRef} {loop started : Nat}
    {settings : ActiveCheckConfig} {works : List Work} {awaited : Alarm}
    (course : Course ref loop started settings works awaited)
    (inTime : ∀ work ∈ works, work.time = work.alarm.due)
    (interval : ∀ work ∈ works, work.interval = settings.interval) :
    Rhythm started settings.interval (works.filter Work.isTick) awaited := by
  induction course with
  | begun => exact ⟨by simp, .nil, fun _ => ⟨rfl, rfl⟩, by simp⟩
  | @worked works work earlier inForce induction =>
      rcases List.forall_mem_append.1 inTime with ⟨inTimeBefore, inTimeNow⟩
      rcases List.forall_mem_append.1 interval with ⟨intervalBefore, intervalNow⟩
      have rhythm := induction inTimeBefore intervalBefore
      have now := inTimeNow work (List.mem_singleton_self _)
      have own := intervalNow work (List.mem_singleton_self _)
      rw [List.filter_append, List.filter_cons, List.filter_nil]
      cases starts : work.isTick with
      | true => exact rhythm.tick starts now own
      | false =>
          rw [if_neg Bool.false_ne_true, List.append_nil]
          exact rhythm.settle starts now own

namespace Scene

variable {policies : Policies}

/-- What is known of a loop from its start on, under the settings that it was started
with. -/
structure Scheduled (start : Scene) (run : List Operation) (ref : ClusterRef) (loop : Nat)
    (started : Nat) (settings : ActiveCheckConfig) (awaited : Alarm) : Prop where
  /-- All its work, and what it awaits. -/
  course : Course ref loop started settings (start.worksOf ref loop run) awaited
  interval : ∀ work ∈ start.worksOf ref loop run, work.interval = settings.interval
  awaits : (start.after run).router.Runs ref loop →
    (start.after run).router.alarmsOf ref loop = [awaited] ∧
      (start.after run).router.settings? ref = some settings
  ticks : ∀ work ∈ start.worksOf ref loop run, work.isTick = true →
    work.told = work.opening ++ work.probes ++ work.closing loop ∧
      ∃ cluster policy batch, work.cluster? = some cluster ∧
        cluster.model.config.healthCheck.active = settings ∧
          work.Tick cluster policy batch ∧
        (batch.outcome = .crashed ∨ batch.duration ≠ 0 → work.Harmless)
  /-- A crash that is noticed later does no harm either. -/
  crashes : ∀ work ∈ start.worksOf ref loop run, ∀ policy,
    work.alarm.wakeup = .settle loop policy .crashed → work.Harmless
  /-- While it works, nothing else is under way that a loop of the cluster began. -/
  alone : ∀ work ∈ start.worksOf ref loop run, ∀ other ∈ work.scene.router.agenda,
    other.cluster.id = ref.id → other.wakeup.loop? = none
  /-- In a run that keeps time, it is always in time. -/
  rhythm : (∀ operation ∈ run, operation.punctual = true) →
    Rhythm started settings.interval ((start.worksOf ref loop run).filter Work.isTick)
      awaited ∧
      ((start.after run).router.Runs ref loop →
        (start.after run).router.now ≤ awaited.due)

private theorem own_of_mem_worksOf {start : Scene} {run : List Operation}
    {ref : ClusterRef} {loop : Nat} {work : Work}
    (member : work ∈ start.worksOf ref loop run) :
    work ∈ start.worked run ∧ work.alarm.cluster = ref ∧ work.alarm.wakeup.loop? =
      some loop := by
  rcases List.mem_filter.1 member with ⟨done, own⟩
  exact ⟨done, (Router.belongsToLoop_iff _ _ _).1 own⟩

theorem serves_of_mem_worksOf {run : List Operation} {ref : ClusterRef} {loop : Nat}
    {settings : ActiveCheckConfig} {work : Work}
    (member : work ∈ (fresh policies true).worksOf ref loop run)
    (inForce : work.settings? = some settings) :
    ∃ cluster policy, work.Serves policies cluster policy ∧
      cluster.model.config.healthCheck.active = settings ∧
        work.interval = settings.interval := by
  rcases own_of_mem_worksOf member with ⟨done, -, own⟩
  rcases (Work.arises_of_worked policies run work done).serves own with
    ⟨cluster, policy, serves⟩
  have same := Work.settings_of_present serves.present
  rw [inForce, Option.some.injEq] at same
  have enabled : cluster.model.config.healthCheck.active.enabled = true := by
    rw [← serves.wellFormed.active, serves.active]
    rfl
  have positive := serves.wellFormed.interval enabled
  rw [← same] at positive
  refine ⟨cluster, policy, serves, same.symm, ?_⟩
  rw [Work.interval_of_settings inForce]
  exact Nat.max_eq_right positive

private theorem scheduled_after (policies : Policies) (run : List Operation)
    {ref : ClusterRef} {loop started : Nat}
    (begun : (fresh policies true).startOf? ref loop run = some started) :
    ∃ settings awaited,
      (fresh policies true).Scheduled run ref loop started settings awaited := by
  have onCourse := onCourse_after policies run ref loop
  rw [begun] at onCourse
  generalize works : (fresh policies true).worksOf ref loop run = done at onCourse
  cases onCourse with
  | @known _ settings _ awaited there course current =>
      subst works
      have inForce := course.inForce
      have interval : ∀ work ∈ (fresh policies true).worksOf ref loop run,
          work.interval = settings.interval := by
        intro work member
        rcases serves_of_mem_worksOf member (inForce work member) with ⟨_, _, _, _, same⟩
        exact same
      refine ⟨settings, awaited, course, interval, current, ?_, ?_, ?_, ?_⟩
      · intro work member starts
        rcases serves_of_mem_worksOf member (inForce work member) with
          ⟨cluster, policy, serves, same, -⟩
        rcases serves.tick starts with ⟨batch, tick⟩
        exact ⟨Work.told_tick (own_of_mem_worksOf member).2.2 starts, cluster,
          policy, batch, serves.present, same, tick,
            Work.harmless_of_unjudged starts tick.sent⟩
      · intro work _ policy crashed
        exact Work.harmless_of_crash crashed
      · intro work member other pending here
        rcases own_of_mem_worksOf member with ⟨done, cluster, own⟩
        exact (Work.arises_of_worked policies run work done).alone own other pending
          (here.trans (congrArg ClusterRef.id cluster).symm)
      · intro timely
        rcases punctual_after policies timely with ⟨punctual, inTime⟩
        refine ⟨course.rhythm (fun work member => ?_) interval, fun running => ?_⟩
        · rcases own_of_mem_worksOf member with ⟨done, -, own⟩
          exact inTime work done (Option.isSome_of_eq_some own)
        · have waiting : awaited ∈ ((fresh policies true).after run).router.alarmsOf ref
              loop := by
            rw [(current running).1]
            exact List.mem_singleton_self _
          exact punctual awaited (Router.mem_loopAlarms_of_alarmsOf waiting)

/-- What a reconfiguration does to the loops of a cluster that it does not take away. It
may accept several configurations for the cluster, one after the other. -/
structure Rescheduled (policies : Policies) (start : Scene) (run : List Operation)
    (operation : Operation) (id : String) : Prop where
  worked : start.worked (operation :: run) = start.worked run
  /-- It sends no probe either, unless a policy that is not builtin does so. -/
  silent : policies.availability.entries = AvailabilityPolicy.builtin →
    ((start.after run).perform operation).Internal
  /-- Configurations that do not change the settings of the active checks leave the loops
  and all that they wait for as they are. -/
  steady : ∀ settings, (start.after run).router.settingsOf? id = some settings →
    settings.enabled = true →
    (∀ entry ∈ policies.activeFor id operation.configs, entry = settings) →
    Router.SameLoops id (start.after run).router (start.after (operation :: run)).router ∧
      (start.after (operation :: run)).router.settingsOf? id = some settings
  /-- If one of them does, all loops that there were are stopped, and if active checks are
  enabled in the end, a new loop starts at that moment. -/
  renewed : ∀ settings,
    (policies.activeFor id operation.configs).getLast? = some settings →
    settings.enabled = true →
    (∃ entry ∈ policies.activeFor id operation.configs,
      (start.after run).router.settingsOf? id ≠ some entry) →
    (∀ ref loop, ref.id = id → start.startOf? ref loop run ≠ none →
      (start.after (operation :: run)).router.Stopped ref loop) ∧
    ∃ ref loop, ref.id = id ∧ start.startOf? ref loop run = none ∧
      start.startOf? ref loop (operation :: run) = some (start.after run).router.now ∧
      (start.after (operation :: run)).router.Runs ref loop ∧
      (start.after (operation :: run)).router.alarmsOf ref loop =
        [(start.after run).router.beginning ref loop] ∧
      (start.after (operation :: run)).router.settings? ref = some settings

private theorem startOf?_eq_none_iff (policies : Policies) (run : List Operation)
    (ref : ClusterRef) (loop : Nat) : (fresh policies true).startOf? ref loop run = none ↔
      ((fresh policies true).after run).router.loop? ref loop = none := by
  have onCourse := onCourse_after policies run ref loop
  generalize (fresh policies true).startOf? ref loop run = started at onCourse ⊢
  generalize (fresh policies true).worksOf ref loop run = works at onCourse
  cases onCourse with
  | unknown missing => exact iff_of_true rfl missing
  | known there =>
      refine iff_of_false nofun fun missing => ?_
      rw [missing] at there
      cases there

private theorem rescheduled_after (policies : Policies) (run : List Operation)
    {operation : Operation} (reconfigures : operation.reconfigures = true) {id : String}
    (spared : ¬ operation.removes id) :
    Rescheduled policies (fresh policies true) run operation id := by
  have sound := sound_after policies true run
  have performed : Router.Sound policies true
      ((fresh policies true).after (operation :: run)).router :=
    sound_after policies true (operation :: run)
  have adjusted :
      Router.Adjusted _ ((fresh policies true).after (operation :: run)).router id _ :=
    adjusted_perform sound reconfigures spared
  refine ⟨?_, fun builtin => internal_perform sound.known builtin reconfigures,
    fun settings former enabled unchanged => ?_, fun settings last enabled changed => ?_⟩
  · rw [worked, workOf_reconfiguration reconfigures, List.append_nil]
  · exact adjusted.goesOn former enabled unchanged
  · rcases adjusted.takesOver last enabled changed with
      ⟨ref, loop, here, new, running, begins⟩
    have looped := performed.looped id
    have unknown := (startOf?_eq_none_iff policies run ref loop).2 new
    refine ⟨fun other number alsoHere begun => ?_,
      ref, loop, here, unknown, ?_, running, begins, ?_⟩
    · have existed :
          (((fresh policies true).after run).router.loop? other number).isSome :=
        Option.isSome_iff_ne_none.2 fun missing =>
          begun ((startOf?_eq_none_iff policies run other number).2 missing)
      refine Router.stopped_of_not_runs (adjusted.loops other number existed) ?_
      intro alsoRunning
      rcases looped.unique here running alsoHere alsoRunning with ⟨rfl, rfl⟩
      rw [new] at existed
      cases existed
    · rw [startOf?, unknown, Option.none_or, if_pos (Option.isSome_of_eq_some running)]
    · have named := (looped.sole ref loop here running).1
      rw [← here] at named
      have settled := adjusted.settings
      rw [last] at settled
      rw [← here, Router.settingsOf?_of_named named] at settled
      exact settled

/-- The schedule of the probes in every run of a gateway that has a runtime. A cluster
whose active checks are enabled has a loop at work. The first tick of a loop is due when
the loop starts and every other one an interval after the end of the tick before; a run
that keeps time never misses one. A tick asks all destinations, is alone, and does no harm
unless it has all the answers. Reconfigurations restart a loop exactly if they change the
settings of the active checks, and a loop that was stopped does nothing more. -/
theorem probe_schedule_after (policies : Policies) (run : List Operation) :
    let start := fresh policies true
    let router := (start.after run).router
    (∀ id ref cluster, router.registered? id = some (ref, cluster) →
      cluster.model.config.healthCheck.active.enabled = true →
      ∃ loop started, start.startOf? ref loop run = some started ∧ router.Runs ref loop) ∧
    (∀ ref loop, start.startOf? ref loop run = none → start.worksOf ref loop run = []) ∧
    (∀ ref loop started, start.startOf? ref loop run = some started →
      ∃ settings awaited, start.Scheduled run ref loop started settings awaited) ∧
    (∀ limit, (∀ alarm ∈ ((start.after run).advance limit).value.router.agenda,
        limit < alarm.due) ∧
      ((start.after run).advance limit).events =
        ((start.after run).workOf (.advance limit)).flatMap Work.told) ∧
    (∀ operation id, operation.reconfigures = true → ¬ operation.removes id →
      Rescheduled policies start run operation id) ∧
    ∀ ref loop, router.Stopped ref loop → ∀ later,
      start.worksOf ref loop (later ++ run) = start.worksOf ref loop run := by
  intro start router
  have sound : Router.Sound policies true router := sound_after policies true run
  refine ⟨fun id ref cluster found enabled => ?_, fun ref loop unknown => ?_,
    fun ref loop started begun => scheduled_after policies run begun,
    fun limit => ⟨?_, ?_⟩, fun operation id reconfigures spared =>
      rescheduled_after policies run reconfigures spared,
    fun ref loop stopped later => (worksOf_of_stopped policies later run stopped).2⟩
  · rcases Router.registered?_iff.1 found with ⟨named, present⟩
    have active :=
      (Policies.wellFormed_of_resolve (sound.known.models ref cluster present)).active
    have probed :=
      ((sound.orderly id).probed ref cluster found).2 ⟨sound.able, active.trans enabled⟩
    rcases Option.isSome_iff_exists.1 probed with ⟨loop, kept⟩
    rcases (sound.looped id).kept loop kept with ⟨-, other, alsoNamed, running⟩
    rw [named, Option.some.injEq] at alsoNamed
    subst alsoNamed
    have begun : start.startOf? ref loop run ≠ none := by
      intro unknown
      have missing : router.loop? ref loop = none :=
        (startOf?_eq_none_iff policies run ref loop).1 unknown
      rw [Router.Runs, missing] at running
      cases running
    exact ⟨loop, _, Option.eq_some_of_isSome (Option.isSome_iff_ne_none.2 begun), running⟩
  · have onCourse := onCourse_after policies run ref loop
    rw [unknown] at onCourse
    generalize works : start.worksOf ref loop run = done at onCourse
    cases onCourse with
    | unknown => rfl
  · exact (settled_advance (start.after run) limit).agenda
  · simp only [advance, Traced.events_bind, Traced.events_pure, List.append_nil]
    exact events_ring _ _ _

/-- A small gateway that is probed every ten seconds. -/
example : ((sample.worksOf sampleRef 0 [.advance 25000, .configure probedConfig]).filter
    Work.isTick).map Work.time = [0, 10000, 20000] := by
  decide +kernel

end Scene

end Gateway
