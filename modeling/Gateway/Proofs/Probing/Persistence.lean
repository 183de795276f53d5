import Gateway.Proofs.Probing.Repetition

namespace Gateway

/-! How long an active exclusion lasts. A record that only fails stays unhealthy until the
word wraps that counts its failures; with a threshold above one the next failure then
counts as the first, and the record is healthy again. -/

open ProbeOutcome

namespace ProbeOutcome

private theorem failuresInARow_append {failures : List ProbeOutcome}
    (failing : ∀ outcome ∈ failures, outcome.isSuccess = false)
    (outcomes : List ProbeOutcome) :
    failuresInARow (outcomes ++ failures) =
      failuresInARow outcomes + failures.length := by
  induction failures using List.reverseRecOn with
  | nil => rw [List.append_nil, List.length_nil, Nat.add_zero]
  | append_singleton earlier failure induction =>
      have failed :=
        failing failure (List.mem_append_right _ (List.mem_singleton_self failure))
      have before := induction fun other member =>
          failing other (List.mem_append_left _ member)
      rw [← List.append_assoc, failuresInARow_concat, failed, before, List.length_append]
      rfl

end ProbeOutcome

namespace ActivePolicy

theorem compared_mono {fewer more : Nat} (order : fewer ≤ more) (few : more ≤ 2 ^ 32) :
    compared fewer ≤ compared more := by
  rcases Nat.eq_or_lt_of_le few with rfl | few
  · rcases Nat.eq_or_lt_of_le order with rfl | fewer
    · exact Nat.le_refl _
    · rw [compared_of_lt fewer]
      have top : compared (2 ^ 32) = 0xffffffff := by decide
      omega
  · rw [compared_of_lt few, compared_of_lt (Nat.lt_of_le_of_lt order few)]
    exact order

private theorem one_le_compared (failures : Nat) : 1 ≤ compared (failures + 1) := by
  rw [compared]
  omega

/-- One more failure falls below a threshold that was reached only when the word has
wrapped. -/
theorem compared_succ_lt_iff {threshold failures : Nat}
    (reached : threshold ≤ compared failures) :
    ¬ threshold ≤ compared (failures + 1) ↔ 2 ≤ threshold ∧ 2 ^ 32 ∣ failures := by
  cases failures with
  | zero =>
      have none : threshold = 0 := Nat.le_zero.1 reached
      subst none
      simp
  | succ before =>
      rw [compared] at reached ⊢
      rw [Nat.dvd_iff_mod_eq_zero]
      omega

end ActivePolicy

open ActivePolicy

namespace Ruling

section Failing

variable {ref : ClusterRef} {record : Nat} {rulings : List Ruling}

theorem failuresInARow_outcomes_append (earlier : List Ruling)
    (failing : ∀ ruling ∈ rulings, ∀ outcome, ruling.outcome? ref record = some outcome →
      outcome.isSuccess = false) :
    failuresInARow (outcomes ref record (earlier ++ rulings)) =
      failuresInARow (outcomes ref record earlier) +
        (outcomes ref record rulings).length := by
  rw [outcomes, List.filterMap_append]
  refine failuresInARow_append (fun outcome member => ?_) _
  rcases List.mem_filterMap.1 member with ⟨ruling, there, given⟩
  exact failing ruling there outcome given

theorem failuresInARow_outcomes {failure : ProbeOutcome}
    (failed : failure.isSuccess = false)
    (failing : ∀ ruling ∈ rulings, ruling.outcome? ref record = some failure) :
    failuresInARow (outcomes ref record rulings) = rulings.length := by
  have row := failuresInARow_outcomes_append [] fun ruling there outcome given =>
    (Option.some.inj ((failing ruling there).symm.trans given)) ▸ failed
  have length : (outcomes ref record rulings).length = rulings.length :=
    List.filterMap_length_eq_length.2 fun ruling there => by
      rw [failing ruling there]; rfl
  exact row.trans ((Nat.zero_add _).trans length)

end Failing

theorem threshold_of_outline {router : Router} {ruling : Ruling}
    (same : Router.SameOutline router ruling.router) :
    ruling.threshold = ((router.cluster? ruling.cluster).map (fun cluster =>
      cluster.model.config.probeThreshold)).getD defaultThreshold := by
  have read : ∀ router : Router, (router.cluster? ruling.cluster).map (fun cluster =>
      cluster.model.config.probeThreshold) =
        ((router.cluster? ruling.cluster).map Cluster.outline).map (fun cluster =>
          cluster.model.config.probeThreshold) := by
    intro router
    rw [Option.map_map]
    rfl
  rw [threshold, read, same.outlines, ← read]

end Ruling

namespace Router.Ruled

variable {source : RandomSource} {protector : Protector} {before after : Router}
  {rulings between : List Ruling} {previous : Ruling} {ref : ClusterRef} {record : Nat}

theorem reached (ruled : Ruled before (rulings ++ [previous]) after)
    (regular : ∀ ruling ∈ rulings ++ [previous],
      ruling.Regular (.builtin source protector))
      (fresh : (before.healthOf ref record).probeFailures = 0)
    (included : previous.outcome? ref record ≠ none)
    (excluded : (previous.after.healthOf ref record).active = .unhealthy) :
    previous.threshold ≤
      compared (failuresInARow (Ruling.outcomes ref record (rulings ++ [previous]))) := by
  rcases Option.ne_none_iff_exists'.1 included with ⟨outcome, given⟩
  rw [ruled.judged_last regular fresh given] at excluded
  exact (verdict_eq_unhealthy_iff _ _).1 excluded

/-- Under one threshold since some batch that had a result of a record, its axis is what
that threshold makes of its failures. -/
theorem standing (ruled : Ruled before (rulings ++ [previous] ++ between) after)
    (regular : ∀ ruling ∈ rulings ++ [previous] ++ between,
      ruling.Regular (.builtin source protector))
    (fresh : (before.healthOf ref record).probeFailures = 0)
    (included : previous.outcome? ref record ≠ none)
    (steady : ∀ batch ∈ between, batch.outcome? ref record ≠ none →
      batch.threshold = previous.threshold) :
    (after.healthOf ref record).active =
      verdict previous.threshold
        (compared
          (failuresInARow
            (Ruling.outcomes ref record (rulings ++ [previous] ++ between)))) := by
  induction between using List.reverseRecOn generalizing after with
  | nil =>
      rw [List.append_nil] at ruled regular ⊢
      rcases Option.ne_none_iff_exists'.1 included with ⟨outcome, given⟩
      rw [ruled.last.2.active]
      exact ruled.judged_last regular fresh given
  | append_singleton between batch induction =>
      rw [← List.append_assoc] at ruled regular ⊢
      rw [ruled.last.2.active]
      cases given : batch.outcome? ref record with
      | none =>
          have own :=
            regular batch (List.mem_append_right _ (List.mem_singleton_self batch))
          have earlier := induction ruled.last.1
            (fun other member => regular other (List.mem_append_left _ member))
            (fun other member => steady other (List.mem_append_left _ member))
          rw [batch.healthOf_after own, Ruling.outcomes_concat, given, Option.toList_none,
            List.append_nil]
          exact earlier
      | some outcome =>
          have threshold :=
            steady batch (List.mem_append_right _ (List.mem_singleton_self batch))
            (by rw [given]; nofun)
          rw [← threshold]
          exact ruled.judged_last regular fresh given

theorem active_of_failing (ruled : Ruled before rulings after)
    (regular : ∀ ruling ∈ rulings, ruling.Regular (.builtin source protector))
    (fresh : (before.healthOf ref record).probeFailures = 0) (judged : rulings ≠ [])
    {failure : ProbeOutcome} {threshold : Nat} (failed : failure.isSuccess = false)
    (failing : ∀ ruling ∈ rulings,
      ruling.outcome? ref record = some failure ∧ ruling.threshold = threshold) :
    (after.healthOf ref record).active = verdict threshold (compared rulings.length) := by
  have row := Ruling.failuresInARow_outcomes failed fun ruling there =>
      (failing ruling there).1
  rcases (List.eq_nil_or_concat' rulings).resolve_left judged with ⟨earlier, last, rfl⟩
  rcases failing last List.mem_concat_self with ⟨given, threshold⟩
  rw [ruled.last.2.active, ← row, ← threshold]
  exact ruled.judged_last regular fresh given

end Router.Ruled

namespace Scene

/-- Once a record is unhealthy, let the results that follow for it all be failures, judged
under the same threshold. As long as its row of failures is shorter than a word can count,
or if the threshold is at most one, every batch leaves it unhealthy. And whenever a
failure finds it unhealthy, that failure makes it healthy in one case only: the threshold
is above one, and the number of failures in a row before it is a multiple of the range of
a word. -/
theorem exclusion_lasts_after (source : RandomSource) (protector : Protector)
    (background : Bool) (run : List Operation) :
    ∀ (earlier : List Ruling) (previous : Ruling) (later : List Ruling),
      (fresh (.builtin source protector) background).rulings run =
        earlier ++ previous :: later →
      ∀ ref record, previous.outcome? ref record ≠ none →
        (previous.after.healthOf ref record).active = .unhealthy →
        (∀ batch ∈ later, ∀ outcome, batch.outcome? ref record = some outcome →
          outcome.isSuccess = false ∧ batch.threshold = previous.threshold) →
        ∀ (between : List Ruling) (batch : Ruling) (rest : List Ruling),
          later = between ++ batch :: rest →
          batch.outcome? ref record ≠ none →
          let failures := failuresInARow
            (Ruling.outcomes ref record (earlier ++ previous :: between))
          (failures < 2 ^ 32 ∨ previous.threshold ≤ 1 →
            (batch.after.healthOf ref record).active = .unhealthy) ∧
          ((batch.router.healthOf ref record).active = .unhealthy →
            ((batch.after.healthOf ref record).active = .healthy ↔
              2 ≤ previous.threshold ∧ 2 ^ 32 ∣ failures)) := by
  intro earlier previous later parts ref record included excluded failing between
    batch rest
    split given failures
  subst split
  rcases Option.ne_none_iff_exists'.1 given with ⟨outcome, result⟩
  rcases failing batch (by simp) outcome result with ⟨failed, threshold⟩
  have all : (fresh (.builtin source protector) background).rulings run =
      earlier ++ [previous] ++ between ++ [batch] ++ rest := by
    simp [parts]
  have ruled := ruled_after source protector background run
  have regular := regular_rulings source protector background run
  rw [all] at ruled regular
  rcases ruled.cut with ⟨_, path, -⟩
  have regular : ∀ ruling ∈ earlier ++ [previous] ++ between ++ [batch],
      ruling.Regular (.builtin source protector) :=
    fun ruling member => regular ruling (List.mem_append_left _ member)
  have before : ∀ ruling ∈ earlier ++ [previous] ++ between,
      ruling.Regular (.builtin source protector) :=
    fun ruling member => regular ruling (List.mem_append_left _ member)
  -- The failures reach the threshold up to the batch that excluded the record, and only
  -- grow.
  have row : failures =
      failuresInARow (Ruling.outcomes ref record (earlier ++ [previous])) +
        (Ruling.outcomes ref record between).length := by
    change failuresInARow _ = _
    rw [List.append_cons]
    exact Ruling.failuresInARow_outcomes_append _ fun ruling there outcome given =>
      (failing ruling (List.mem_append_left _ there) outcome given).1
  have reached : previous.threshold ≤
      compared (failuresInARow (Ruling.outcomes ref record (earlier ++ [previous]))) := by
    rcases path.last.1.cut with ⟨_, first, -⟩
    exact first.reached (fun ruling member =>
      before ruling (List.mem_append_left _ member)) rfl
      included excluded
  have standing : (batch.router.healthOf ref record).active =
      verdict previous.threshold (compared failures) := by
    have steady : ∀ ruling ∈ between, ruling.outcome? ref record ≠ none →
        ruling.threshold = previous.threshold := by
      intro ruling there given
      rcases Option.ne_none_iff_exists'.1 given with ⟨outcome, result⟩
      exact (failing ruling (List.mem_append_left _ there) outcome result).2
    rw [path.last.1.standing before rfl included steady, ← List.append_cons]
  have after : (batch.after.healthOf ref record).active =
      verdict previous.threshold (compared (failures + 1)) := by
    rw [path.judged_last regular rfl result, threshold, Ruling.outcomes_concat, result,
      Option.toList_some, failuresInARow_concat, failed, ← List.append_cons]
    rfl
  refine ⟨fun lasting => ?_, fun unhealthy => ?_⟩
  · rw [after, verdict_eq_unhealthy_iff]
    rcases lasting with few | low
    · exact Nat.le_trans reached (compared_mono (by omega) few)
    · exact Nat.le_trans low (one_le_compared failures)
  · rw [standing, verdict_eq_unhealthy_iff] at unhealthy
    rw [after, verdict_eq_healthy_iff]
    exact compared_succ_lt_iff unhealthy

theorem rulings_ailing (count : Nat) :
    let run := List.replicate count (Operation.check sampleRef) ++ ailing
    (sample.rulings run).length = count ∧
      ∀ ruling ∈ sample.rulings run,
        ruling.outcome? sampleRef 0 = some (.answered 503) ∧ ruling.threshold = 2 := by
  have ready : (sample.after ailing).router.now = 0 ∧ sample.rulings ailing = [] ∧
      ((sample.after ailing).send sampleRef).value.2.map
        (fun sent => (sent.2.duration, sent.2.outcome)) =
          some (0, .completed [(0, .answered 503), (1, .answered 200)]) ∧
      ((sample.after ailing).send sampleRef).value.1.script =
        (sample.after ailing).script ∧
      ((sample.after ailing).router.cluster? sampleRef).map (fun cluster =>
        cluster.model.config.probeThreshold) = some 2 := by
    decide +kernel
  rcases ready with ⟨beginning, unjudged, answered, lasting, settings⟩
  have checks := rulings_checks beginning unjudged answered lasting count
  refine ⟨checks.2.1, fun ruling judged => ?_⟩
  rcases checks.2.2 ruling judged with ⟨cluster, same, outlines⟩
  refine ⟨?_, ?_⟩
  · rw [Ruling.outcome?, cluster, if_pos rfl, same]
    rfl
  · rw [ruling.threshold_of_outline outlines, cluster, settings]
    rfl

theorem exists_ends {α : Type} {members : List α} {count : Nat}
    (length : members.length = count + 3) :
    ∃ (first second : α) (between : List α) (last : α),
      members = [first] ++ second :: (between ++ [last]) ∧ between.length = count := by
  rcases List.exists_cons_of_length_eq_add_one length with ⟨first, rest, rfl⟩
  rcases List.exists_cons_of_length_eq_add_one (Nat.succ.inj length) with
    ⟨second, later, rfl⟩
  rcases List.eq_nil_or_concat' later with rfl | ⟨between, last, rfl⟩
  · simp at length
  · refine ⟨first, second, between, last, rfl, ?_⟩
    simpa using length

/-- After as many failures in a row as a word can count, the next one makes the
destination healthy. -/
theorem exclusion_lasts_after_wrapping :
    ∃ run earlier, ∃ batch : Ruling, sample.rulings run = earlier ++ [batch] ∧
      (∀ ruling ∈ earlier ++ [batch],
        ruling.outcome? sampleRef 0 = some (.answered 503) ∧ ruling.threshold = 2) ∧
      (batch.router.healthOf sampleRef 0).active = .unhealthy ∧
      (batch.after.healthOf sampleRef 0).active = .healthy := by
  rcases rulings_ailing (2 ^ 32 + 1) with ⟨length, alike⟩
  refine ⟨List.replicate (2 ^ 32 + 1) (Operation.check sampleRef) ++ ailing, ?_⟩
  generalize List.replicate (2 ^ 32 + 1) (Operation.check sampleRef) ++ ailing =
    run at length alike ⊢
  rcases exists_ends (length.trans (by omega : 2 ^ 32 + 1 = 2 ^ 32 - 2 + 3)) with
    ⟨first, previous, between, batch, parts, count⟩
  let source : RandomSource := .ofSequence []
  let protector : Protector := .encrypting (List.replicate Protector.keySize 0)
  have lasts := exclusion_lasts_after source protector true run [first] previous
    (between ++ [batch]) parts sampleRef 0
  have path : Router.Ruled sample.router (sample.rulings run) (sample.after run).router :=
    ruled_after source protector true run
  have regular : ∀ ruling ∈ sample.rulings run,
      ruling.Regular (.builtin source protector) :=
    regular_rulings source protector true run
  have all : sample.rulings run = [first] ++ previous :: between ++ [batch] := by
    simp [parts]
  rw [all] at path regular alike
  have many : ([first] ++ previous :: between).length = 2 ^ 32 := by
    rw [List.length_append, List.length_singleton, List.length_cons, count]
    omega
  have given : ∀ ruling ∈ [first] ++ previous :: between ++ [batch],
      ruling.outcome? sampleRef 0 ≠ none := by
    intro ruling there
    rw [(alike ruling there).1]
    nofun
  have excluded : (previous.after.healthOf sampleRef 0).active = .unhealthy := by
    have two : ∀ ruling ∈ [first] ++ [previous],
        ruling ∈ [first] ++ previous :: between ++ [batch] := by simp
    rw [path.last.1.upto.active_of_failing (fun ruling there =>
      regular ruling (two ruling there))
      rfl (List.concat_ne_nil _ _) rfl (fun ruling there =>
        alike ruling (two ruling there))]
    rfl
  have unhealthy : (batch.router.healthOf sampleRef 0).active = .unhealthy := by
    rw [path.last.1.active_of_failing
      (fun ruling there => regular ruling (List.mem_append_left _ there)) rfl nofun rfl
      (fun ruling there => alike ruling (List.mem_append_left _ there)), many]
    rfl
  have failing : ∀ other ∈ between ++ [batch], ∀ outcome,
      other.outcome? sampleRef 0 = some outcome →
        outcome.isSuccess = false ∧ other.threshold = previous.threshold := by
    intro other there outcome result
    have failed := alike other (by
      rw [List.append_assoc]
      exact List.mem_append_right _ (List.mem_cons_of_mem _ there))
    rw [failed.1, Option.some_inj] at result
    exact ⟨result ▸ rfl, failed.2.trans (alike previous (by simp)).2.symm⟩
  have row := Ruling.failuresInARow_outcomes rfl fun ruling there =>
    (alike ruling (List.mem_append_left _ there)).1
  refine ⟨_, batch, all, alike, unhealthy, ?_⟩
  refine ((lasts (given previous (by simp)) excluded failing between batch [] rfl
    (given batch (by simp))).2 unhealthy).2 ⟨(alike previous (by simp)).2.ge, ?_⟩
  rw [row, many]

end Scene

end Gateway
