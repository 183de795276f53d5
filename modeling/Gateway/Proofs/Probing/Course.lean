import Gateway.Proofs.Registry.Adjustment

namespace Gateway

/-! The course of a probe loop through a run. Every alarm of a loop is set by the work
that it did before, the first one by its start; and a loop that is stopped does nothing
any more. -/

/-- What a loop has done since its start under certain settings, earliest first, and the
alarm that it awaits then. -/
inductive Course (ref : ClusterRef) (loop started : Nat) (settings : ActiveCheckConfig) :
    List Work → Alarm → Prop
  | begun : Course ref loop started settings []
      { due := started, cluster := ref, wakeup := .beginProbing loop }
  | worked {works : List Work} {work : Work}
      (earlier : Course ref loop started settings works work.alarm)
      (inForce : work.settings? = some settings) :
      Course ref loop started settings (works ++ [work]) (work.following loop)

theorem Course.inForce {ref : ClusterRef} {loop started : Nat}
    {settings : ActiveCheckConfig} {works : List Work} {awaited : Alarm}
    (course : Course ref loop started settings works awaited) :
    ∀ work ∈ works, work.settings? = some settings := by
  induction course with
  | begun => exact List.forall_mem_nil _
  | worked _ inForce induction =>
      exact List.forall_mem_append.2 ⟨induction, List.forall_mem_singleton.2 inForce⟩

namespace Router

variable {policies : Policies} {router before after : Router} {id : String}
  {ref : ClusterRef} {loop : Nat} {started : Option Nat} {works : List Work}

/-- A loop is on its course: one that has not started has done nothing, and one that runs
awaits the alarm that its course leads to, under settings that are still in force. -/
inductive OnCourse (router : Router) (ref : ClusterRef) (loop : Nat) :
    Option Nat → List Work → Prop
  | unknown (missing : router.loop? ref loop = none) : OnCourse router ref loop none []
  | known {started : Nat} {settings : ActiveCheckConfig} {works : List Work}
      {awaited : Alarm}
      (there : (router.loop? ref loop).isSome = true)
      (course : Course ref loop started settings works awaited)
      (current : router.Runs ref loop →
        router.alarmsOf ref loop = [awaited] ∧ router.settings? ref = some settings) :
      OnCourse router ref loop (some started) works

theorem OnCourse.congr (onCourse : before.OnCourse ref loop started works)
    (same : after.loop? ref loop = before.loop? ref loop)
    (alarms : after.alarmsOf ref loop = before.alarmsOf ref loop)
    (settings : before.Runs ref loop → after.settings? ref = before.settings? ref) :
    after.OnCourse ref loop started works := by
  cases onCourse with
  | unknown missing => exact .unknown (same.trans missing)
  | known there course current =>
      refine .known (same ▸ there) course fun running => ?_
      rw [Runs, same] at running
      rw [alarms, settings running]
      exact current running

theorem OnCourse.start_noted (onCourse : after.OnCourse ref loop started works)
    (now : Nat) :
    started.or (if (after.loop? ref loop).isSome then some now else none) = started := by
  cases onCourse with
  | unknown missing => rw [missing]; rfl
  | known => rfl

/-- What a reconfiguration does to one loop. -/
inductive Shift (before after : Router) (ref : ClusterRef) (loop : Nat) : Prop
  | kept (same : after.loop? ref loop = before.loop? ref loop)
      (alarms : after.alarmsOf ref loop = before.alarmsOf ref loop)
      (settings : before.Runs ref loop → after.settings? ref = before.settings? ref)
  | stopped (existed : (before.loop? ref loop).isSome = true)
      (there : (after.loop? ref loop).isSome = true) (still : ¬ after.Runs ref loop)
  | started (new : before.loop? ref loop = none)
      (there : (after.loop? ref loop).isSome = true)
      (begins : after.Runs ref loop →
        after.alarmsOf ref loop = [before.beginning ref loop])

theorem OnCourse.shift (onCourse : before.OnCourse ref loop started works)
    (shift : Shift before after ref loop) :
    after.OnCourse ref loop
      (started.or (if (after.loop? ref loop).isSome then some before.now else none))
        works := by
  cases shift with
  | kept same alarms settings =>
      have next := onCourse.congr same alarms settings
      exact (next.start_noted _).symm ▸ next
  | stopped existed there still =>
      cases onCourse with
      | unknown missing =>
          rw [missing] at existed
          cases existed
      | known _ course _ => exact .known there course fun running => absurd running still
  | started new there begins =>
      cases onCourse with
      | unknown =>
          rw [there]
          have course : Course ref loop before.now ((after.settings? ref).getD {}) []
              (before.beginning ref loop) := .begun
          refine .known there course fun running => ⟨begins running, ?_⟩
          rcases Option.bind_eq_some_iff.1 running with ⟨cluster, present, -⟩
          rw [settings?, present]
          rfl
      | known existed =>
          rw [new] at existed
          cases existed

/-- A loop that was started once and does not run any more. -/
def Stopped (router : Router) (ref : ClusterRef) (loop : Nat) : Prop :=
  router.loop? ref loop = some { cancelled := true }

theorem Stopped.not_runs (stopped : router.Stopped ref loop) :
    ¬ router.Runs ref loop := by
  intro runs
  rw [Runs, stopped] at runs
  cases runs

theorem stopped_of_not_runs (there : (router.loop? ref loop).isSome = true)
    (still : ¬ router.Runs ref loop) : router.Stopped ref loop := by
  rcases Option.isSome_iff_exists.1 there with ⟨⟨cancelled⟩, found⟩
  cases cancelled with
  | true => exact found
  | false => exact absurd found still

theorem Stopped.shift (stopped : before.Stopped ref loop)
    (shift : Shift before after ref loop) :
    after.Stopped ref loop := by
  cases shift with
  | kept same => exact same.trans stopped
  | stopped _ there still => exact stopped_of_not_runs there still
  | started new =>
      rw [Stopped, new] at stopped
      cases stopped

theorem settingsOf?_of_named (named : router.registeredRef? id = some ref) :
    router.settingsOf? id = router.settings? ref := by
  rw [settingsOf?, registered?_of_named named, Option.map_map]
  rfl

theorem shift_of_not_runs (beforeLooped : before.Looped ref.id)
    (afterLooped : after.Looped ref.id) (retained : Retained before after)
    (still : ¬ after.Runs ref loop) :
    Shift before after ref loop := by
  cases former : before.loop? ref loop with
  | some =>
      have existed := Option.isSome_of_eq_some former
      exact .stopped existed (retained.loops ref loop existed) still
  | none =>
      cases found : after.loop? ref loop with
      | some =>
          exact .started former (Option.isSome_of_eq_some found) fun running =>
            absurd running still
      | none =>
          have idle : ¬ before.Runs ref loop := by
            intro running
            rw [Runs, former] at running
            cases running
          refine .kept (found.trans former.symm) ?_ fun running => absurd running idle
          rw [afterLooped.idle ref loop rfl still, beforeLooped.idle ref loop rfl idle]

end Router

namespace Scene

variable {policies : Policies} {scene : Scene} {operation : Operation}

theorem shift_perform (sound : Router.Sound policies true scene.router)
    (reconfigures : operation.reconfigures = true) (ref : ClusterRef) (loop : Nat) :
    Router.Shift scene.router (scene.perform operation).value.router ref loop := by
  have retained : Router.Retained scene.router (scene.perform operation).value.router :=
    retained_perform reconfigures
  have looped := sound.looped ref.id
  have performed := sound_perform sound operation
  have loopedAfter := performed.looped ref.id
  by_cases removes : operation.removes ref.id
  · exact Router.shift_of_not_runs looped loopedAfter retained
      (not_runs_of_removes sound removes rfl loop)
  have adjusted := adjusted_perform sound reconfigures removes
  cases adjusted.adjustment with
  | kept steady same =>
      refine .kept (same.loops ref loop rfl) (same.alarms ref loop rfl) fun running => ?_
      have alsoRunning := (same.runs_iff rfl loop).2 running
      have named := (looped.sole ref loop rfl running).1
      have namedAfter := (loopedAfter.sole ref loop rfl alsoRunning).1
      rw [← Router.settingsOf?_of_named named, ← Router.settingsOf?_of_named namedAfter]
      exact adjusted.settings_of_steady steady
  | ended last disabled still =>
      exact Router.shift_of_not_runs looped loopedAfter retained (still ref loop rfl)
  | @renewed settings current number last enabled changed here new running begins =>
      by_cases same : ref = current ∧ loop = number
      · rcases same with ⟨rfl, rfl⟩
        exact .started new (Option.isSome_of_eq_some running) fun _ => begins
      · refine Router.shift_of_not_runs looped loopedAfter retained fun alsoRunning =>
          same ?_
        exact loopedAfter.unique here running rfl alsoRunning

def startOf? (start : Scene) (ref : ClusterRef) (loop : Nat) : List Operation → Option Nat
  | [] => none
  | operation :: earlier =>
      (start.startOf? ref loop earlier).or
        (if ((start.after (operation :: earlier)).router.loop? ref loop).isSome then
          some (start.after earlier).router.now
        else none)

def worksOf (start : Scene) (ref : ClusterRef) (loop : Nat) (run : List Operation) :
    List Work :=
  (start.worked run).filter (fun work => Router.belongsToLoop ref loop work.alarm)

private theorem worksOf_cons (start : Scene) (ref : ClusterRef) (loop : Nat)
    (operation : Operation) (earlier : List Operation) :
    start.worksOf ref loop (operation :: earlier) = start.worksOf ref loop earlier ++
      ((start.after earlier).workOf operation).filter
        (fun work => Router.belongsToLoop ref loop work.alarm) :=
  List.filter_append _ _

/-! The steps of a run. -/

private theorem onCourse_work {ref : ClusterRef} {loop position : Nat} {alarm : Alarm}
    (looped : ∀ id, scene.router.Looped id)
    (pending : scene.router.agenda[position]? = some alarm) {started : Option Nat}
    {past : List Work} (onCourse : scene.router.OnCourse ref loop started past) :
    (scene.work position alarm).after.router.OnCourse ref loop started
      (past ++ if Router.belongsToLoop ref loop alarm then [scene.work position alarm]
        else []) := by
  have same := sameOutline_work scene position alarm
  have alarms := alarmsOf_work looped pending ref loop
  by_cases own : Router.belongsToLoop ref loop alarm = true
  · rw [if_pos own] at alarms ⊢
    have runs := runs_of_pending looped (List.mem_of_getElem? pending) own
    cases onCourse with
    | unknown missing =>
        rw [Router.Runs, missing] at runs
        cases runs
    | @known _ _ _ awaited there course current =>
        rcases current runs with ⟨sole, inForce⟩
        have member : alarm ∈ scene.router.alarmsOf ref loop :=
          List.mem_filter.2 ⟨List.mem_of_getElem? pending, own⟩
        rw [sole, List.mem_singleton] at member
        subst member
        have here := ((Router.belongsToLoop_iff _ _ _).1 own).1
        have during : (scene.work position alarm).settings? = some _ := here ▸ inForce
        exact .known ((same.loop? ref loop).symm ▸ there) (course.worked during) fun _ =>
          ⟨alarms, (same.settings? ref).trans inForce⟩
  · rw [if_neg own] at alarms ⊢
    rw [List.append_nil]
    exact onCourse.congr (same.loop? ref loop) alarms fun _ => same.settings? ref

private theorem onCourse_beat {next : Scene} {works : List Work}
    (beat : Beat scene works next) (looped : ∀ id, scene.router.Looped id)
    {ref : ClusterRef} {loop : Nat} {started : Option Nat} {past : List Work}
    (onCourse : scene.router.OnCourse ref loop started past) :
    next.router.OnCourse ref loop started
      (past ++ works.filter (fun work => Router.belongsToLoop ref loop work.alarm)) := by
  cases beat with
  | rung pending =>
      rw [List.filter_cons, List.filter_nil]
      exact onCourse_work looped pending onCourse
  | calm unnoticed =>
      rw [List.filter_nil, List.append_nil]
      exact onCourse.congr (unnoticed.loop? ref loop)
        (Router.alarmsOf_of_loopAlarms unnoticed.alarms ref loop)
        fun _ => unnoticed.settings? ref
  | passed =>
      rw [List.filter_nil, List.append_nil]
      exact onCourse.congr rfl rfl fun _ => rfl

private theorem onCourse_beats {next : Scene} {works : List Work}
    (beats : Beats scene works next) (sound : Router.Sound policies true scene.router)
    {ref : ClusterRef} {loop : Nat} {started : Option Nat} {past : List Work}
    (onCourse : scene.router.OnCourse ref loop started past) :
    next.router.OnCourse ref loop started
      (past ++ works.filter (fun work => Router.belongsToLoop ref loop work.alarm)) := by
  induction beats with
  | refl =>
      rw [List.filter_nil, List.append_nil]
      exact onCourse
  | tail earlier beat induction =>
      rw [List.filter_append, ← List.append_assoc]
      exact onCourse_beat beat (earlier.sound sound).looped induction

theorem onCourse_after (policies : Policies) (run : List Operation) (ref : ClusterRef)
    (loop : Nat) :
    ((fresh policies true).after run).router.OnCourse ref loop
      ((fresh policies true).startOf? ref loop run)
      ((fresh policies true).worksOf ref loop run) := by
  induction run with
  | nil => exact .unknown rfl
  | cons operation earlier induction =>
      have sound := sound_after policies true earlier
      rw [worksOf_cons, startOf?]
      cases reconfigures : operation.reconfigures with
      | false =>
          have next := onCourse_beats (beats_perform reconfigures) sound induction
          exact (next.start_noted _).symm ▸ next
      | true =>
          rw [workOf_reconfiguration reconfigures, List.filter_nil, List.append_nil]
          exact induction.shift (shift_perform sound reconfigures ref loop)

/-! A loop that is stopped. -/

private theorem stopped_beats {next : Scene} {works : List Work}
    (beats : Beats scene works next) (sound : Router.Sound policies true scene.router)
    {ref : ClusterRef} {loop : Nat} (stopped : scene.router.Stopped ref loop) :
    next.router.Stopped ref loop ∧
      works.filter (fun work => Router.belongsToLoop ref loop work.alarm) = [] := by
  induction beats with
  | refl => exact ⟨stopped, rfl⟩
  | @tail works more middle next earlier beat induction =>
      rcases induction with ⟨stopped, silent⟩
      have looped := (earlier.sound sound).looped
      refine ⟨(beat.sameOutline.loop? ref loop).trans stopped, ?_⟩
      rw [List.filter_append, silent, List.nil_append]
      cases beat with
      | @rung position alarm pending =>
          rw [List.filter_cons, List.filter_nil]
          refine if_neg fun own => ?_
          exact stopped.not_runs
            (runs_of_pending looped (List.mem_of_getElem? pending) own)
      | calm => rfl
      | passed => rfl

theorem worksOf_of_stopped (policies : Policies) (later run : List Operation)
    {ref : ClusterRef} {loop : Nat}
    (stopped : ((fresh policies true).after run).router.Stopped ref loop) :
    ((fresh policies true).after (later ++ run)).router.Stopped ref loop ∧
      (fresh policies true).worksOf ref loop (later ++ run) =
        (fresh policies true).worksOf ref loop run := by
  induction later with
  | nil => exact ⟨stopped, rfl⟩
  | cons operation later induction =>
      rcases induction with ⟨still, same⟩
      have sound := sound_after policies true (later ++ run)
      rw [List.cons_append, worksOf_cons, same]
      cases reconfigures : operation.reconfigures with
      | false =>
          rcases stopped_beats (beats_perform reconfigures) sound still with
            ⟨next, silent⟩
          rw [silent, List.append_nil]
          exact ⟨next, rfl⟩
      | true =>
          rw [workOf_reconfiguration reconfigures, List.filter_nil, List.append_nil]
          exact ⟨still.shift (shift_perform sound reconfigures ref loop), rfl⟩

end Scene

end Gateway
