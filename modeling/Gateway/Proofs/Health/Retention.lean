import Gateway.Proofs.Health.FailureWindow

namespace Gateway

/-! What a failure window counts, whatever the clock does and whatever the windows are. A
sample of a second that is over is counted by the newest bucket, so it is as old as the
latest of the seconds up to it. Only the whole milliseconds of a window count. -/

/-- One sample as it is told to a failure window, with the window that is in force then,
both in nanoseconds. -/
structure Addition where
  instant : Nat
  failed : Bool
  window : Nat

namespace Addition

section Positions

/-! Additions are told by their positions, from the oldest one. -/

variable (additions : List Addition)

def moment (position : Nat) : Nat :=
  (additions[position]?.map Addition.instant).getD 0

def failedAt (position : Nat) : Bool :=
  additions[position]?.any Addition.failed

def windowAt (position : Nat) : Nat :=
  (additions[position]?.map Addition.window).getD 0

/-- The whole seconds from the first addition to another one; none if that is earlier. -/
def second (position : Nat) : Nat :=
  (moment additions position - moment additions 0) / 1000000000

/-- The latest of the seconds up to an addition. -/
def latest (position : Nat) : Nat :=
  (Finset.range (position + 1)).sup (second additions)

/-- An addition lets an earlier one be forgotten if it is later than all seconds up to
that one, by as much as the window. -/
def Forgets (later earlier : Nat) : Prop :=
  latest additions earlier < second additions later ∧
    windowAt additions later / 1000000 ≤
      (second additions later - latest additions earlier) * 1000

instance (later earlier : Nat) : Decidable (Forgets additions later earlier) :=
  inferInstanceAs (Decidable (_ ∧ _))

/-- The positions of the additions that no later one lets be forgotten. -/
def retained : List Nat :=
  (List.range additions.length).filter (fun position =>
    decide (∀ later < additions.length,
      position < later → ¬ Forgets additions later position))

def age (position : Nat) : Nat :=
  moment additions (additions.length - 1) - moment additions position

end Positions

variable {additions : List Addition} {addition : Addition} {position later earlier : Nat}

private theorem mem_retained_iff :
    position ∈ retained additions ↔
      position < additions.length ∧
        ∀ later < additions.length,
          position < later → ¬ Forgets additions later position := by
  rw [retained, List.mem_filter, List.mem_range, decide_eq_true_eq]

theorem length_retained_le (additions : List Addition) :
    (retained additions).length ≤ additions.length :=
  (List.length_filter_le _ _).trans_eq List.length_range

private theorem last_mem_retained (some : additions ≠ []) :
    additions.length - 1 ∈ retained additions := by
  have count : 0 < additions.length := List.length_pos_iff.2 some
  exact mem_retained_iff.2 ⟨by omega, fun later before after => by omega⟩

private theorem second_le_latest (order : earlier ≤ position) :
    second additions earlier ≤ latest additions position :=
  Finset.le_sup (f := second additions) (Finset.mem_range.2 (Nat.lt_succ_of_le order))

private theorem latest_succ (additions : List Addition) (position : Nat) :
    latest additions (position + 1) =
      max (latest additions position) (second additions (position + 1)) := by
  rw [latest, Finset.range_add_one, Finset.sup_insert]
  exact max_comm _ _

private theorem latest_zero (additions : List Addition) :
    latest additions 0 = second additions 0 := by
  rw [latest, Finset.range_one, Finset.sup_singleton]

/-! One more addition leaves what is told of the earlier ones as it is. -/

private theorem getElem?_concat (there : position < additions.length) :
    (additions ++ [addition])[position]? = additions[position]? :=
  List.getElem?_append_left there

private theorem moment_concat (there : position < additions.length) :
    moment (additions ++ [addition]) position = moment additions position := by
  rw [moment, getElem?_concat there, ← moment]

private theorem second_concat (there : position < additions.length) :
    second (additions ++ [addition]) position = second additions position := by
  rw [second, moment_concat there, moment_concat (Nat.zero_lt_of_lt there), ← second]

private theorem latest_concat (there : position < additions.length) :
    latest (additions ++ [addition]) position = latest additions position := by
  refine Finset.sup_congr rfl fun earlier before => second_concat ?_
  exact Nat.lt_of_le_of_lt (Nat.le_of_lt_succ (Finset.mem_range.1 before)) there

private theorem forgets_concat (there : later < additions.length)
    (before : earlier < additions.length) :
    Forgets (additions ++ [addition]) later earlier ↔
      Forgets additions later earlier := by
  rw [Forgets, second_concat there, latest_concat before, windowAt, getElem?_concat there,
    ← windowAt, ← Forgets]

theorem retained_concat (additions : List Addition) (addition : Addition) :
    retained (additions ++ [addition]) =
      (retained additions).filter (fun position =>
        !decide (Forgets (additions ++ [addition]) additions.length position)) ++
        [additions.length] := by
  rw [retained, List.length_append, List.length_singleton, List.range_succ,
    List.filter_append, retained, List.filter_filter]
  congr 1
  · refine List.filter_congr fun position there => ?_
    rw [← decide_not, ← Bool.decide_and, decide_eq_decide, Nat.forall_lt_succ_right]
    have before : position < additions.length := List.mem_range.1 there
    constructor
    · rintro ⟨lasting, last⟩
      refine ⟨last before, fun later older after forgets => ?_⟩
      exact lasting later older after ((forgets_concat older before).2 forgets)
    · rintro ⟨last, lasting⟩
      refine ⟨fun later older after forgets => ?_, fun _ => last⟩
      exact lasting later older after ((forgets_concat older before).1 forgets)
  · refine List.filter_eq_self.2 fun position there =>
      decide_eq_true fun later older after => ?_
    rw [List.mem_singleton.1 there] at after
    omega

section Steady

/-! With a clock that never steps back and one window, only ages matter. -/

variable (ordered : additions.Pairwise (fun earlier later =>
  earlier.instant ≤ later.instant))

include ordered

private theorem moment_mono (order : earlier ≤ later) (there : later < additions.length) :
    moment additions earlier ≤ moment additions later := by
  rcases Nat.eq_or_lt_of_le order with rfl | before
  · exact Nat.le_refl _
  · have first : additions[earlier]? = some additions[earlier] :=
      List.getElem?_eq_getElem (Nat.lt_trans before there)
    have second : additions[later]? = some additions[later] :=
      List.getElem?_eq_getElem there
    rw [moment, moment, first, second]
    exact List.pairwise_iff_getElem.1 ordered earlier later _ there before

private theorem latest_eq_second (there : position < additions.length) :
    latest additions position = second additions position := by
  refine Nat.le_antisymm (Finset.sup_le fun earlier before => ?_)
    (second_le_latest le_rfl)
  have order : earlier ≤ position := Nat.le_of_lt_succ (Finset.mem_range.1 before)
  exact Nat.div_le_div_right (Nat.sub_le_sub_right (moment_mono ordered order there) _)

variable {window : Nat} (same : ∀ addition ∈ additions, addition.window = window)

include same

private theorem forgets_iff (order : earlier < later) (there : later < additions.length) :
    Forgets additions later earlier ↔
      second additions earlier < second additions later ∧
        window / 1000000 ≤
          (second additions later - second additions earlier) * 1000 := by
  have own : windowAt additions later = window := by
    rw [windowAt, List.getElem?_eq_getElem there]
    exact same _ (List.getElem_mem there)
  rw [Forgets, own, latest_eq_second ordered (Nat.lt_trans order there)]

theorem mem_retained_of_young (there : position < additions.length)
    (young : age additions position + 1000000000 ≤ window / 1000000 * 1000000) :
    position ∈ retained additions := by
  refine mem_retained_iff.2 ⟨there, fun later before after forgets => ?_⟩
  have first := moment_mono ordered (Nat.zero_le position) there
  have next := moment_mono ordered (Nat.le_of_lt after) before
  have last := moment_mono ordered (Nat.le_sub_one_of_lt before) (by omega)
  rcases (forgets_iff ordered same after before).1 forgets with ⟨-, old⟩
  rw [second, second] at old
  rw [age] at young
  omega

theorem notMem_retained_of_old
    (old : window / 1000000 * 1000000 + 1000000000 ≤ age additions position) :
    position ∉ retained additions := by
  intro retains
  rcases mem_retained_iff.1 retains with ⟨there, lasting⟩
  rw [age] at old
  have first := moment_mono ordered (Nat.zero_le position) there
  have after : position < additions.length - 1 := by
    rcases Nat.eq_or_lt_of_le (Nat.le_sub_one_of_lt there) with rfl | after
    · omega
    · exact after
  have before : additions.length - 1 < additions.length := by omega
  refine lasting _ before after ((forgets_iff ordered same after before).2 ?_)
  rw [second, second]
  omega

end Steady

end Addition

namespace FailureWindow

open Addition

variable {window : FailureWindow} {additions : List Addition} {addition : Addition}

/-- A window that was told some additions since it was cleared: its origin, the second of
its newest bucket, and what its buckets count of each second. -/
structure Counts (window : FailureWindow) (additions : List Addition) : Prop where
  accurate : window.Accurate
  origin : window.origin = additions.head?.map Addition.instant
  newest : window.buckets.getLast?.map Bucket.second =
    (List.range additions.length).getLast?.map (latest additions)
  total : ∀ keep : Nat → Bool,
    Bucket.sum Bucket.total (window.buckets.filter (fun bucket => keep bucket.second)) =
      (retained additions).countP (fun position =>
        additions[position]?.any (fun _ => true) && keep (latest additions position))
  failures : ∀ keep : Nat → Bool,
    Bucket.sum Bucket.failures
      (window.buckets.filter (fun bucket => keep bucket.second)) =
      (retained additions).countP (fun position =>
        additions[position]?.any Addition.failed && keep (latest additions position))

private theorem counts_empty : Counts .empty [] :=
  ⟨accurate_empty, rfl, rfl, fun _ => rfl, fun _ => rfl⟩

private theorem moment_length (additions : List Addition) (addition : Addition) :
    moment (additions ++ [addition]) additions.length = addition.instant := by
  rw [moment, List.getElem?_concat_length]
  rfl

theorem Counts.second (counts : Counts window additions) (addition : Addition) :
    window.second addition.instant =
      Addition.second (additions ++ [addition]) additions.length := by
  have first :
      window.origin.getD addition.instant = moment (additions ++ [addition]) 0 := by
    rw [counts.origin]
    cases additions with
    | nil => rfl
    | cons first rest => rfl
  rw [FailureWindow.second, first, Addition.second, moment_length]

theorem Counts.second_le (counts : Counts window additions) (addition : Addition) :
    window.second addition.instant ≤ latest (additions ++ [addition]) additions.length :=
  counts.second addition ▸ second_le_latest le_rfl

theorem Counts.newest_record (counts : Counts window additions) (addition : Addition) :
    (Bucket.record (window.second addition.instant) addition.failed
        window.buckets).getLast?.map Bucket.second =
      some (latest (additions ++ [addition]) additions.length) := by
  have recorded := Bucket.recorded_record (window.second addition.instant) addition.failed
    counts.accurate.ascending
  rw [recorded.newest_second, counts.newest, counts.second]
  refine congrArg some ?_
  cases count : additions.length with
  | zero => exact (latest_zero _).symm
  | succ before =>
      rw [latest_succ, List.range_succ, List.getLast?_concat,
        latest_concat (count ▸ Nat.lt_succ_self before)]
      rfl

theorem Counts.sum_record (counts : Counts window additions) {part : Bucket → Nat}
    {counted : Addition → Bool}
    (first : ∀ second, part (.of second addition.failed) = (counted addition).toNat)
    (more : ∀ bucket : Bucket,
      part (bucket.count addition.failed) = part bucket + (counted addition).toNat)
    (before : ∀ keep : Nat → Bool,
      Bucket.sum part (window.buckets.filter (fun bucket => keep bucket.second)) =
        (retained additions).countP (fun position =>
          additions[position]?.any counted && keep (latest additions position)))
    (keep : Nat → Bool) :
    Bucket.sum part
        ((window.record addition.instant addition.failed addition.window).buckets.filter
          (fun bucket => keep bucket.second)) =
      (retained (additions ++ [addition])).countP (fun position =>
        (additions ++ [addition])[position]?.any counted &&
          keep (latest (additions ++ [addition]) position)) := by
  have own := counts.second addition
  rw [counts.accurate.sum_filter_record _ _ _ (counts.second_le addition)
      (counts.newest_record addition) keep (first _) more,
    before (fun past =>
      keep past &&
        Bucket.lasts (window.second addition.instant) (addition.window / 1000000) past),
    retained_concat, List.countP_append, List.countP_filter, List.countP_singleton]
  congr 1
  · refine List.countP_congr fun position there => ?_
    have older := (mem_retained_iff.1 there).1
    have lasts : Bucket.lasts (window.second addition.instant) (addition.window / 1000000)
        (latest additions position) =
          !decide (Forgets (additions ++ [addition]) additions.length position) := by
      rw [own, Bucket.lasts, ← Bool.decide_and]
      refine congrArg not (decide_eq_decide.2 ?_)
      rw [Forgets, latest_concat older, windowAt, List.getElem?_concat_length]
      rfl
    rw [lasts, getElem?_concat older, latest_concat older, Bool.and_assoc]
  · rw [List.getElem?_concat_length, Option.any_some]
    cases counted addition <;>
      cases keep (latest (additions ++ [addition]) additions.length) <;> rfl

theorem Counts.record (counts : Counts window additions) (addition : Addition) :
    Counts (window.record addition.instant addition.failed addition.window)
      (additions ++ [addition]) where
  accurate := counts.accurate.record _ _ _
  origin := by
    have added : (window.record addition.instant addition.failed addition.window).origin =
        some (window.origin.getD addition.instant) := rfl
    rw [added, counts.origin]
    cases additions with
    | nil => rfl
    | cons first rest => rfl
  newest := by
    rw [List.length_append, List.length_singleton, List.range_succ, List.getLast?_concat]
    exact counts.accurate.newest_record _ _ _ (counts.second_le addition)
      (counts.newest_record addition)
  total := counts.sum_record (fun _ => rfl) (fun _ => rfl) counts.total
  failures := counts.sum_record (fun _ => rfl) (fun _ => rfl) counts.failures

theorem Counts.total_eq (counts : Counts window additions) :
    window.total = (retained additions).length := by
  have counted := counts.total fun _ => true
  rw [List.filter_true] at counted
  rw [counts.accurate.total, counted, List.countP_eq_length]
  intro position there
  rw [List.getElem?_eq_getElem (mem_retained_iff.1 there).1]
  rfl

theorem Counts.failures_eq (counts : Counts window additions) :
    window.failures = (retained additions).countP (failedAt additions) := by
  have counted := counts.failures fun _ => true
  simp only [List.filter_true, Bool.and_true] at counted
  exact counts.accurate.failures.trans counted

inductive Step where
  | add (addition : Addition)
  | clear

def after : List Step → FailureWindow
  | [] => .empty
  | .add addition :: earlier =>
      (after earlier).record addition.instant addition.failed addition.window
  | .clear :: _ => .empty

/-- The additions since the window was cleared last, from the oldest one. -/
def told : List Step → List Addition
  | [] => []
  | .add addition :: earlier => told earlier ++ [addition]
  | .clear :: _ => []

theorem counts_told (steps : List Step) : Counts (after steps) (told steps) := by
  induction steps with
  | nil => exact counts_empty
  | cons step earlier counts =>
      cases step with
      | add addition => exact counts.record addition
      | clear => exact counts_empty

/-- A failure window counts, since it was cleared last, exactly the additions that no
later one lets be forgotten, and those of them that failed. An addition that was made is
always among them. With one window and a clock that never steps back, an addition is
counted as long as it is younger by a second than the whole milliseconds of the window,
and is not counted any more when it is older than them by a second. -/
theorem retains_after (steps : List Step) :
    (after steps).total = (retained (told steps)).length ∧
      (after steps).failures = (retained (told steps)).countP (failedAt (told steps)) ∧
      (after steps).failures ≤ (after steps).total ∧
      (after steps).total ≤ (told steps).length ∧
      (told steps ≠ [] → 1 ≤ (after steps).total) ∧
      ∀ length, (∀ addition ∈ told steps, addition.window = length) →
        (told steps).Pairwise (fun earlier later => earlier.instant ≤ later.instant) →
        ∀ position < (told steps).length,
          (age (told steps) position + 1000000000 ≤ length / 1000000 * 1000000 →
            position ∈ retained (told steps)) ∧
          (length / 1000000 * 1000000 + 1000000000 ≤ age (told steps) position →
            position ∉ retained (told steps)) := by
  have counts := counts_told steps
  refine ⟨counts.total_eq, counts.failures_eq, ?_, ?_, fun some => ?_,
    fun length same ordered position there => ⟨fun young => ?_, fun old => ?_⟩⟩
  · rw [counts.total_eq, counts.failures_eq]
    exact List.countP_le_length
  · rw [counts.total_eq]
    exact length_retained_le (told steps)
  · rw [counts.total_eq]
    exact List.length_pos_of_mem (last_mem_retained some)
  · exact mem_retained_of_young ordered same there young
  · exact notMem_retained_of_old ordered same old

/-- A sample from before a clear, and three after it. -/
def clearedSteps : List Step :=
  [.add { instant := 4400000000, failed := true, window := 2000999999 },
    .add { instant := 3500000000, failed := false, window := 2000999999 },
    .add { instant := 1000000000, failed := true, window := 2000999999 }, .clear,
    .add { instant := 900000000, failed := true, window := 50000000 }]

/-- Of these three the oldest one is forgotten. -/
theorem retains_after_clear :
    (after clearedSteps).total = 2 ∧ (after clearedSteps).failures = 1 ∧
      1 ∈ retained (told clearedSteps) ∧ 0 ∉ retained (told clearedSteps) := by
  rcases retains_after clearedSteps with ⟨total, failures, -, -, -, steady⟩
  have same : ∀ addition ∈ told clearedSteps, addition.window = 2000999999 := by decide
  have ordered : (told clearedSteps).Pairwise
      (fun earlier later => earlier.instant ≤ later.instant) := by
    decide
  exact ⟨total.trans (by decide +kernel), failures.trans (by decide +kernel),
    (steady 2000999999 same ordered 1 (by decide)).1 (by decide),
    (steady 2000999999 same ordered 0 (by decide)).2 (by decide)⟩

/-- Three samples under a window of a second and 0.9 milliseconds. -/
def brokenSteps : List Step :=
  [.add { instant := 1000400000, failed := true, window := 1000900000 },
    .add { instant := 999500000, failed := true, window := 1000900000 },
    .add { instant := 0, failed := true, window := 1000900000 }]

/-- The second of them is 0.9 milliseconds old, which is no more than the window without a
second. It is forgotten all the same, for the broken millisecond of the window does not
count: with the last one, two samples are as young as that, and only one is counted. -/
theorem forgets_within_broken_milliseconds :
    (∀ addition ∈ told brokenSteps, addition.window = 1000900000) ∧
      (told brokenSteps).Pairwise (fun earlier later => earlier.instant ≤ later.instant) ∧
      (List.range (told brokenSteps).length).countP
          (fun position =>
            age (told brokenSteps) position + 1000000000 ≤ 1000900000) = 2 ∧
      (after brokenSteps).total = 1 := by
  decide

end FailureWindow

end Gateway
