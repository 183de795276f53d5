import Gateway.Proofs.Keyed
import Gateway.Router.Timeline

namespace Gateway

/-! What comes of a batch of probes. It is told by the answers of the destinations alone,
though the probes are sent one after the other and take their answers from one script. -/

namespace Batch

/-- A batch of probes that get certain answers, each on behalf of a record. -/
def ofAnswers (answers : List (Nat × ProbeAnswer)) : Batch :=
  answers.foldr (fun answer batch => batch.add answer.1 answer.2)
    { duration := 0, outcome := .completed [] }

private theorem ofAnswers_cons (record : Nat) (answer : ProbeAnswer)
    (rest : List (Nat × ProbeAnswer)) :
    ofAnswers ((record, answer) :: rest) = (ofAnswers rest).add record answer := rfl

private theorem add_of_instantCrash (batch : Batch) (record : Nat) {answer : ProbeAnswer}
    (crash : answer.outcome = none) (atOnce : answer.delay = 0) :
    batch.add record answer = instantCrash := by
  rcases batch with ⟨duration, outcome⟩
  cases outcome <;> simp [add, instantCrash, crash, atOnce]

private theorem crashed_add {batch : Batch} (crashed : batch.outcome = .crashed)
    (record : Nat) (answer : ProbeAnswer) :
    (batch.add record answer).outcome = .crashed := by
  rcases batch with ⟨duration, outcome⟩
  subst crashed
  unfold add
  cases answer.outcome <;> rfl

/-- A batch without a crash has a result for each of its records, and lasts as long as its
slowest probe. -/
structure Completes (answers : List (Nat × ProbeAnswer)) (batch : Batch) : Prop where
  results : ∃ results, batch.outcome = .completed results ∧
    results.map Prod.fst = answers.map Prod.fst ∧
    ∀ record outcome, (record, outcome) ∈ results →
      ∃ answer, (record, answer) ∈ answers ∧ answer.outcome = some outcome
  lasts : ∀ record answer, (record, answer) ∈ answers → answer.delay ≤ batch.duration
  slowest : batch.duration = 0 ∨
    ∃ record answer, (record, answer) ∈ answers ∧ answer.delay = batch.duration

/-- A batch with a crash has no results, and lasts until its first crash. -/
structure Crashes (answers : List (Nat × ProbeAnswer)) (batch : Batch) : Prop where
  crashed : batch.outcome = .crashed
  lasts : ∀ record answer, (record, answer) ∈ answers → answer.outcome = none →
    batch.duration ≤ answer.delay
  first : ∃ record answer, (record, answer) ∈ answers ∧ answer.outcome = none ∧
    answer.delay = batch.duration

section Adding

variable {answers : List (Nat × ProbeAnswer)} {batch : Batch} {record : Nat}
  {answer : ProbeAnswer}

theorem Completes.add (completes : Completes answers batch) {outcome : ProbeOutcome}
    (given : answer.outcome = some outcome) :
    Completes ((record, answer) :: answers) (batch.add record answer) := by
  rcases completes.results with ⟨results, completed, records, origin⟩
  have sum : batch.add record answer =
      { duration := max answer.delay batch.duration
        outcome := .completed ((record, outcome) :: results) } := by
    rw [Batch.add, given, completed]
  rw [sum]
  refine ⟨⟨_, rfl, by simp [records], fun number result member => ?_⟩,
    fun number other member => ?_, ?_⟩
  · rcases List.mem_cons.1 member with same | later
    · cases same
      exact ⟨answer, List.mem_cons_self, given⟩
    · rcases origin number result later with ⟨other, there, same⟩
      exact ⟨other, List.mem_cons_of_mem _ there, same⟩
  · rcases List.mem_cons.1 member with same | later
    · cases same
      exact Nat.le_max_left _ _
    · exact Nat.le_trans (completes.lasts number other later) (Nat.le_max_right _ _)
  · rcases Nat.le_total answer.delay batch.duration with faster | slower
    · have most : max answer.delay batch.duration = batch.duration :=
        Nat.max_eq_right faster
      rw [most]
      refine completes.slowest.imp_right ?_
      rintro ⟨number, other, member, same⟩
      exact ⟨number, other, List.mem_cons_of_mem _ member, same⟩
    · exact .inr ⟨record, answer, List.mem_cons_self, (Nat.max_eq_left slower).symm⟩

theorem Completes.add_crash (completes : Completes answers batch)
    (answered : ∀ record answer, (record, answer) ∈ answers → answer.outcome ≠ none)
    (crash : answer.outcome = none) :
    Crashes ((record, answer) :: answers) (batch.add record answer) := by
  rcases completes.results with ⟨results, completed, -, -⟩
  have sum :
      batch.add record answer = { duration := answer.delay, outcome := .crashed } := by
    rw [Batch.add, crash, completed]
  rw [sum]
  refine ⟨rfl, fun number other member missing => ?_, record, answer, List.mem_cons_self,
    crash, rfl⟩
  rcases List.mem_cons.1 member with here | member
  · cases here
    exact Nat.le_refl _
  · exact absurd missing (answered number other member)

theorem Crashes.add (crashes : Crashes answers batch) {outcome : ProbeOutcome}
    (given : answer.outcome = some outcome) :
    Crashes ((record, answer) :: answers) (batch.add record answer) := by
  rcases crashes.first with ⟨number, other, there, silent, first⟩
  have same : batch.add record answer = batch := by
    rw [Batch.add, given, crashes.crashed]
  rw [same]
  refine ⟨crashes.crashed, fun number other member missing => ?_,
    number, other, List.mem_cons_of_mem _ there, silent, first⟩
  rcases List.mem_cons.1 member with here | member
  · cases here
    rw [given] at missing
    cases missing
  · exact crashes.lasts number other member missing

private theorem Crashes.add_crash (crashes : Crashes answers batch)
    (crash : answer.outcome = none) :
    Crashes ((record, answer) :: answers) (batch.add record answer) := by
  have sum : batch.add record answer =
      { duration := min answer.delay batch.duration, outcome := .crashed } := by
    rw [Batch.add, crash, crashes.crashed]
  rw [sum]
  refine ⟨rfl, fun number other member missing => ?_, ?_⟩
  · rcases List.mem_cons.1 member with here | member
    · cases here
      exact Nat.min_le_left _ _
    · exact Nat.le_trans (Nat.min_le_right _ _)
        (crashes.lasts number other member missing)
  · rcases Nat.le_total answer.delay batch.duration with sooner | latest
    · exact ⟨record, answer, List.mem_cons_self, crash, (Nat.min_eq_left sooner).symm⟩
    · rcases crashes.first with ⟨number, other, there, silent, first⟩
      exact ⟨number, other, List.mem_cons_of_mem _ there, silent,
        first.trans (Nat.min_eq_right latest).symm⟩

end Adding

theorem completes_ofAnswers {answers : List (Nat × ProbeAnswer)}
    (answered : ∀ record answer, (record, answer) ∈ answers → answer.outcome ≠ none) :
    Completes answers (ofAnswers answers) := by
  induction answers with
  | nil => exact ⟨⟨[], rfl, rfl, nofun⟩, nofun, .inl rfl⟩
  | cons entry rest induction =>
      rcases entry with ⟨record, answer⟩
      have completes := induction fun record answer member =>
        answered record answer (List.mem_cons_of_mem _ member)
      rcases Option.ne_none_iff_exists'.1 (answered record answer List.mem_cons_self) with
        ⟨outcome, given⟩
      exact completes.add given

theorem crashes_ofAnswers {answers : List (Nat × ProbeAnswer)}
    (crash : ∃ record answer, (record, answer) ∈ answers ∧ answer.outcome = none) :
    Crashes answers (ofAnswers answers) := by
  induction answers with
  | nil =>
      rcases crash with ⟨record, answer, member, -⟩
      cases member
  | cons entry rest induction =>
      rcases entry with ⟨record, answer⟩
      rw [ofAnswers_cons]
      by_cases later : ∃ record answer, (record, answer) ∈ rest ∧ answer.outcome = none
      · cases given : answer.outcome with
        | some outcome => exact (induction later).add given
        | none => exact (induction later).add_crash given
      · have answered : ∀ record answer, (record, answer) ∈ rest →
            answer.outcome ≠ none :=
          fun record answer member missing => later ⟨record, answer, member, missing⟩
        refine (completes_ofAnswers answered).add_crash answered ?_
        rcases crash with ⟨number, other, member, missing⟩
        rcases List.mem_cons.1 member with here | member
        · cases here
          exact missing
        · exact absurd missing (answered number other member)

end Batch

/-! The answers that destinations give, and the probes that they are sent. -/

def Candidate.entry (candidate : Candidate) : String × DestinationConfig :=
  (candidate.id, candidate.destination.config)

namespace ActiveCheckConfig

/-- What a destination answers. A probe whose address is no URI fails by itself. -/
def answerOf (config : ActiveCheckConfig) (script : ProbeScript)
    (destination : String × DestinationConfig) : ProbeAnswer :=
  match probeUri destination.2 config.path with
  | .error fault => { outcome := some (.failed fault) }
  | .ok _ => (script.take destination.1).1

def probeOf (config : ActiveCheckConfig) (destination : String × DestinationConfig) :
    Event :=
  .probe destination.1 ((probeUri destination.2 config.path).toOption.map Http.Uri.render)
    config.timeout

def answersOf (config : ActiveCheckConfig) (script : ProbeScript)
    (candidates : List Candidate) :
    List (Nat × ProbeAnswer) :=
  candidates.map (fun candidate =>
    (candidate.record, config.answerOf script candidate.entry))

end ActiveCheckConfig

namespace ProbeScript

theorem take_take_of_ne (script : ProbeScript) {asked other : String}
    (different : other ≠ asked) :
    ((script.take asked).2.take other).1 = (script.take other).1 := by
  have same : (script.take asked).2.get? other = script.get? other := by
    unfold take
    split
    · rfl
    · rfl
    · rfl
    · rw [Keyed.get?_insert, if_neg different]
  unfold take at same ⊢
  rw [same]
  cases script.get? other with
  | none => rfl
  | some answers =>
      match answers with
      | [] => rfl
      | [_] => rfl
      | _ :: _ :: _ => rfl

end ProbeScript

section Sending

variable {config : ActiveCheckConfig}

private theorem answerOf_of_error {destination : String × DestinationConfig}
    {fault : ProbeFault} (invalid : probeUri destination.2 config.path = .error fault)
    (script : ProbeScript) :
    config.answerOf script destination = { outcome := some (.failed fault) } := by
  simp only [ActiveCheckConfig.answerOf, invalid]

private theorem answerOf_of_ok {destination : String × DestinationConfig} {uri : Http.Uri}
    (valid : probeUri destination.2 config.path = .ok uri) (script : ProbeScript) :
    config.answerOf script destination = (script.take destination.1).1 := by
  simp only [ActiveCheckConfig.answerOf, valid]

private theorem answerOf_take_of_ne (script : ProbeScript)
    {destination : String × DestinationConfig} {asked : String}
    (different : destination.1 ≠ asked) :
    config.answerOf (script.take asked).2 destination =
      config.answerOf script destination := by
  cases found : probeUri destination.2 config.path with
  | error fault => rw [answerOf_of_error found, answerOf_of_error found]
  | ok uri =>
      rw [answerOf_of_ok found, answerOf_of_ok found, script.take_take_of_ne different]

theorem batch_sendProbes (script : ProbeScript) {candidates : List Candidate}
    (distinct : (candidates.map Candidate.id).Nodup) :
    (sendProbes config script candidates).value.1 =
      .ofAnswers (config.answersOf script candidates) := by
  induction candidates generalizing script with
  | nil => rfl
  | cons candidate rest induction =>
      rw [List.map_cons, List.nodup_cons] at distinct
      have others : ∀ {script' : ProbeScript}, (∀ other ∈ rest,
          config.answerOf script' other.entry = config.answerOf script other.entry) →
          (sendProbes config script' rest).value.1 =
            .ofAnswers (config.answersOf script rest) := by
        intro script' alike
        rw [induction script' distinct.2]
        exact congrArg Batch.ofAnswers (List.map_congr_left fun other member =>
          congrArg (Prod.mk other.record) (alike other member))
      have left :
          ∀ other ∈ rest, config.answerOf (script.take candidate.id).2 other.entry =
            config.answerOf script other.entry :=
        fun other member => answerOf_take_of_ne script fun same =>
          distinct.1 (List.mem_map.2 ⟨other, member, same⟩)
      have answers : config.answersOf script (candidate :: rest) =
          (candidate.record, config.answerOf script candidate.entry) ::
            config.answersOf script rest := rfl
      rw [answers, Batch.ofAnswers_cons]
      cases found : probeUri candidate.destination.config config.path with
      | error fault =>
          have own : probeUri candidate.entry.2 config.path = .error fault := found
          simp only [sendProbes, found, Traced.value_bind, Traced.value_pure]
          rw [others fun _ _ => rfl, answerOf_of_error own]
      | ok uri =>
          have own : probeUri candidate.entry.2 config.path = .ok uri := found
          have answer :
              config.answerOf script candidate.entry = (script.take candidate.id).1 :=
            answerOf_of_ok own script
          simp only [sendProbes, found, Traced.value_bind]
          rw [answer]
          split
          · rename_i crash
            -- The probes after an instant crash are not sent, whatever their answers are.
            exact (Batch.add_of_instantCrash _ _ (Option.isNone_iff_eq_none.1 crash.1)
              crash.2).symm
          · rw [Traced.value_bind, Traced.value_pure, others left]

/-- Every candidate is sent one probe, in turn. Only a crash at once ends this early. -/
theorem events_sendProbes (script : ProbeScript) (candidates : List Candidate) :
    let sent := sendProbes config script candidates
    let probes := candidates.map (fun candidate => config.probeOf candidate.entry)
    sent.events <+: probes ∧
      (sent.value.1.outcome ≠ .crashed → sent.events = probes) := by
  induction candidates generalizing script with
  | nil => exact ⟨List.prefix_refl _, fun _ => rfl⟩
  | cons candidate rest induction =>
      let others := rest.map (fun candidate => config.probeOf candidate.entry)
      have later : ∀ (script' : ProbeScript) (answer : ProbeAnswer) (first : Event),
          let sent := sendProbes config script' rest
          first :: sent.events <+: first :: others ∧
            ((sent.value.1.add candidate.record answer).outcome ≠ .crashed →
              first :: sent.events = first :: others) := by
        intro script' answer first
        rcases induction script' with ⟨some, all⟩
        refine ⟨(List.prefix_cons_inj first).2 some, fun whole =>
          congrArg (first :: ·) (all ?_)⟩
        exact fun crashed => whole (Batch.crashed_add crashed candidate.record answer)
      rw [List.map_cons]
      cases found : probeUri candidate.destination.config config.path with
      | error fault =>
          have first : config.probeOf candidate.entry =
              .probe candidate.id none config.timeout := by
            simp only [ActiveCheckConfig.probeOf, Candidate.entry, found]
            rfl
          have rest := later script { outcome := some (.failed fault) }
            (.probe candidate.id none config.timeout)
          simp only [sendProbes, found, Traced.events_bind, Traced.events_emit,
            Traced.events_pure, Traced.value_bind, Traced.value_pure, List.append_nil,
            List.singleton_append, first]
          exact rest
      | ok uri =>
          have first : config.probeOf candidate.entry =
              .probe candidate.id (some uri.render) config.timeout := by
            simp only [ActiveCheckConfig.probeOf, Candidate.entry, found]
            rfl
          have rest := later (script.take candidate.id).2 (script.take candidate.id).1
            (.probe candidate.id (some uri.render) config.timeout)
          simp only [sendProbes, found, Traced.events_bind, Traced.events_emit,
            Traced.value_bind, List.singleton_append, first]
          split
          · refine ⟨(List.prefix_cons_inj _).2 (List.nil_prefix), fun whole => ?_⟩
            exact absurd rfl whole
          · simp only [Traced.events_bind, Traced.events_pure, Traced.value_bind,
              Traced.value_pure, List.append_nil]
            exact rest

end Sending

end Gateway
