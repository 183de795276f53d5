import Gateway.Proofs.Health.Retention

namespace Gateway

/-! How a failure window keeps its books: what its buckets look like, that no more is ever
taken off a count than the count holds, and that the buckets are no more than the window
has seconds. -/

namespace Bucket

variable {second window : Nat} {failed : Bool} {buckets : List Bucket}

theorem sum_cons (part : Bucket → Nat) (bucket : Bucket) (buckets : List Bucket) :
    sum part (bucket :: buckets) = part bucket + sum part buckets := by
  simp only [sum_eq_sum_map, List.map_cons, List.sum_cons]

/-! A bucket counts something, and no more failures than it counts at all. -/

def Filled (bucket : Bucket) : Prop :=
  1 ≤ bucket.total ∧ bucket.failures ≤ bucket.total

private theorem filled_of (second : Nat) (failed : Bool) : (of second failed).Filled := by
  constructor
  · exact Nat.le_refl 1
  · exact Bool.toNat_le failed

theorem Filled.count {bucket : Bucket} (filled : bucket.Filled) (failed : Bool) :
    (bucket.count failed).Filled := by
  rcases filled with ⟨inhabited, within⟩
  constructor
  · exact Nat.le_add_left 1 bucket.total
  · exact Nat.add_le_add within (Bool.toNat_le failed)

theorem Recorded.filled {result : List Bucket}
    (recorded : Recorded second failed buckets result)
    (filled : ∀ bucket ∈ buckets, bucket.Filled) : ∀ bucket ∈ result, bucket.Filled := by
  intro bucket member
  cases recorded with
  | later =>
      rcases List.mem_append.1 member with there | new
      · exact filled bucket there
      · rw [List.mem_singleton.1 new]
        exact filled_of second failed
  | @newest older newest =>
      rcases List.mem_append.1 member with there | new
      · exact filled bucket (List.mem_append_left _ there)
      · rw [List.mem_singleton.1 new]
        apply Filled.count
        exact filled newest (List.mem_append_right _ (List.mem_singleton_self newest))

theorem Recorded.second_le {result : List Bucket}
    (recorded : Recorded second failed buckets result)
    {newest : Bucket} (last : result.getLast? = some newest) :
    second ≤ newest.second := by
  cases recorded with
  | later =>
      rw [List.getLast?_concat, Option.some.injEq] at last
      rw [← last]
      exact Nat.le_refl second
  | newest order =>
      rw [List.getLast?_concat, Option.some.injEq] at last
      rw [← last]
      exact order

private theorem Recorded.getLast?_filter {result : List Bucket}
    (recorded : Recorded second failed buckets result) (window : Nat) :
    (result.filter (fun bucket => lasts second window bucket.second)).getLast? =
      result.getLast? := by
  cases last : result.getLast? with
  | none =>
      rw [List.getLast?_eq_none_iff.1 last]
      rfl
  | some newest =>
      have stays := lasts_of_le (recorded.second_le last) window
      rcases List.getLast?_eq_some_iff.1 last with ⟨older, rfl⟩
      rw [List.filter_append, List.filter_singleton, stays, cond_true,
        List.getLast?_concat]

/-! Forgetting as a loop: the oldest bucket goes as long as it has expired, and its counts
are taken off. The loop gets stuck where a count is too small for that. -/

def evict (second window : Nat) :
    List Bucket → Nat → Nat → Option (List Bucket × Nat × Nat)
  | [], total, failures => some ([], total, failures)
  | bucket :: rest, total, failures =>
      if bucket.expired second window then
        if bucket.total ≤ total ∧ bucket.failures ≤ failures then
          evict second window rest (total - bucket.total) (failures - bucket.failures)
        else none
      else some (bucket :: rest, total, failures)

theorem evict_eq_some (second window : Nat) {total failures : Nat}
    (totals : sum Bucket.total buckets ≤ total)
    (failed : sum Bucket.failures buckets ≤ failures) :
    evict second window buckets total failures =
      some (buckets.dropWhile (expired second window),
        total - sum Bucket.total (buckets.takeWhile (expired second window)),
        failures - sum Bucket.failures (buckets.takeWhile (expired second window))) := by
  induction buckets generalizing total failures with
  | nil => rfl
  | cons bucket rest induction =>
      rw [sum_cons] at totals failed
      cases old : bucket.expired second window with
      | false => simp [evict, old, sum]
      | true =>
          have enough : bucket.total ≤ total ∧ bucket.failures ≤ failures := by omega
          have later := @induction (total - bucket.total) (failures - bucket.failures)
            (by omega) (by omega)
          rw [evict, if_pos old, if_pos enough, later, List.dropWhile_cons_of_pos old,
            List.takeWhile_cons_of_pos old, sum_cons, sum_cons, Nat.sub_sub, Nat.sub_sub]

theorem Ascending.length_le {low high : Nat} (ascending : Ascending buckets)
    (within : ∀ bucket ∈ buckets, low ≤ bucket.second ∧ bucket.second < high) :
    buckets.length ≤ high - low := by
  induction buckets generalizing low with
  | nil => exact Nat.zero_le _
  | cons first rest induction =>
      rcases List.pairwise_cons.1 ascending with ⟨before, ascending⟩
      rcases List.forall_mem_cons.1 within with ⟨own, others⟩
      have later : rest.length ≤ high - (first.second + 1) := by
        apply induction ascending
        intro bucket member
        exact ⟨before bucket member, (others bucket member).2⟩
      rw [List.length_cons]
      omega

/-! Under a window of one length, every bucket is younger than the window when the newest
one is, or it is the newest one. -/

def Recent (length : Nat) (buckets : List Bucket) : Prop :=
  ∀ newest, buckets.getLast? = some newest → ∀ bucket ∈ buckets,
    bucket.second = newest.second ∨ (newest.second - bucket.second) * 1000 < length

/-- A clock that steps back does no harm: the sample is counted by the newest bucket. -/
theorem Recorded.recent {length : Nat} {result : List Bucket}
    (recorded : Recorded second failed buckets result) (recent : Recent length buckets) :
    Recent length (result.filter (fun bucket => lasts second length bucket.second)) := by
  intro newest last bucket member
  rw [recorded.getLast?_filter] at last
  rcases List.mem_filter.1 member with ⟨there, lasting⟩
  cases recorded with
  | later order =>
      rw [List.getLast?_concat, Option.some.injEq] at last
      subst last
      rcases List.mem_append.1 there with older | new
      · have before : bucket.second < second := order bucket older
        have young : (second - bucket.second) * 1000 < length := by
          simpa [lasts, before] using lasting
        exact .inr young
      · rw [List.mem_singleton.1 new]
        exact .inl rfl
  | @newest older counted =>
      rw [List.getLast?_concat, Option.some.injEq] at last
      subst last
      have known := recent counted List.getLast?_concat
      rcases List.mem_append.1 there with before | new
      · exact known bucket (List.mem_append_left _ before)
      · rw [List.mem_singleton.1 new]
        exact .inl rfl

private theorem Ascending.le_newest (ascending : Ascending buckets) {newest : Bucket}
    (last : buckets.getLast? = some newest) :
    ∀ bucket ∈ buckets, bucket.second ≤ newest.second := by
  intro bucket member
  rcases List.getLast?_eq_some_iff.1 last with ⟨older, rfl⟩
  rcases List.mem_append.1 member with before | same
  · apply Nat.le_of_lt
    exact (List.pairwise_append.1 ascending).2.2 bucket before newest
      (List.mem_singleton_self newest)
  · rw [List.mem_singleton.1 same]

theorem Recent.length_le {length : Nat} (recent : Recent (length / 1000000) buckets)
    (ascending : Ascending buckets) : buckets.length ≤ max 1 (length ⌈/⌉ 1000000000) := by
  cases last : buckets.getLast? with
  | none =>
      rw [List.getLast?_eq_none_iff.1 last]
      exact Nat.zero_le _
  | some newest =>
      rw [Nat.ceilDiv_eq_add_pred_div]
      have within : ∀ bucket ∈ buckets,
          newest.second + 1 - max 1 ((length + 1000000000 - 1) / 1000000000) ≤
              bucket.second ∧
            bucket.second < newest.second + 1 := by
        intro bucket member
        have order := ascending.le_newest last bucket member
        have young := recent newest last bucket member
        omega
      have room := ascending.length_le within
      omega

end Bucket

namespace FailureWindow

open Addition

variable {samples : FailureWindow}

private theorem Accurate.getLast?_record (accurate : samples.Accurate) (instant : Nat)
    (failed : Bool) (window : Nat) :
    (samples.record instant failed window).buckets.getLast? =
      (Bucket.record (samples.second instant) failed samples.buckets).getLast? := by
  rw [accurate.buckets_record]
  exact (Bucket.recorded_record _ failed accurate.ascending).getLast?_filter _

/-- The counts are large enough for every bucket that is forgotten. -/
theorem Accurate.evict_eq_record (accurate : samples.Accurate) (instant : Nat)
    (failed : Bool) (window : Nat) :
    let next := samples.record instant failed window
    Bucket.evict (samples.second instant) (window / 1000000)
        (Bucket.record (samples.second instant) failed samples.buckets)
        (samples.total + 1) (samples.failures + failed.toNat) =
      some (next.buckets, next.total, next.failures) := by
  have recorded :=
    Bucket.recorded_record (samples.second instant) failed accurate.ascending
  apply Bucket.evict_eq_some
  · rw [accurate.total]
    exact Nat.le_of_eq (recorded.sum rfl fun _ => rfl)
  · rw [accurate.failures]
    exact Nat.le_of_eq (recorded.sum rfl fun _ => rfl)

private theorem Accurate.filled_record (accurate : samples.Accurate)
    (filled : ∀ bucket ∈ samples.buckets, bucket.Filled) (instant : Nat) (failed : Bool)
    (window : Nat) :
    ∀ bucket ∈ (samples.record instant failed window).buckets, bucket.Filled := by
  intro bucket member
  rw [accurate.buckets_record] at member
  exact (Bucket.recorded_record _ failed accurate.ascending).filled filled bucket
    (List.mem_filter.1 member).1

private theorem filled_after (steps : List Step) : ∀ bucket ∈ (after steps).buckets,
    bucket.Filled := by
  induction steps with
  | nil => exact nofun
  | cons step earlier filled =>
      cases step with
      | add addition => exact (counts_told earlier).accurate.filled_record filled _ _ _
      | clear => exact nofun

theorem recent_after {length : Nat} (steps : List Step)
    (same : ∀ addition ∈ told steps, addition.window = length) :
    Bucket.Recent (length / 1000000) (after steps).buckets := by
  induction steps with
  | nil => exact nofun
  | cons step earlier recent =>
      cases step with
      | clear => exact nofun
      | add addition =>
          rcases List.forall_mem_append.1 same with ⟨before, own⟩
          have accurate := (counts_told earlier).accurate
          rw [after, accurate.buckets_record,
            own addition (List.mem_singleton_self addition)]
          apply Bucket.Recorded.recent
          · exact Bucket.recorded_record _ addition.failed accurate.ascending
          · exact recent before

/-- A failure window keeps its books, whatever the instants and the windows are that it is
told. Its buckets are in order, each of them counts something and no more failures than
samples, and the counts of the window are those of its buckets and no more than the
additions, so that words hold them if words can count the additions. One more sample
takes expired buckets away one by one without a count ever falling short, and leaves the
newest bucket. As long as the window is one and the same, there are no more buckets than
it has seconds, the last of which may have only begun, and one bucket under a window of
no length. -/
theorem books_after (steps : List Step) :
    let samples := after steps
    Bucket.Ascending samples.buckets ∧
      (∀ bucket ∈ samples.buckets, 1 ≤ bucket.total ∧ bucket.failures ≤ bucket.total) ∧
      samples.total = (samples.buckets.map Bucket.total).sum ∧
      samples.failures = (samples.buckets.map Bucket.failures).sum ∧
      samples.failures ≤ samples.total ∧ samples.total ≤ (told steps).length ∧
      (∀ instant failed window,
        let recorded := Bucket.record (samples.second instant) failed samples.buckets
        let next := samples.record instant failed window
        Bucket.evict (samples.second instant) (window / 1000000) recorded
            (samples.total + 1) (samples.failures + failed.toNat) =
          some (next.buckets, next.total, next.failures) ∧
          ∃ newest,
            recorded.getLast? = some newest ∧ next.buckets.getLast? = some newest) ∧
      ∀ length, (∀ addition ∈ told steps, addition.window = length) →
        samples.buckets.length ≤ max 1 (length ⌈/⌉ 1000000000) := by
  intro samples
  have counts := counts_told steps
  have accurate : samples.Accurate := counts.accurate
  have total := accurate.total
  have failures := accurate.failures
  rw [Bucket.sum_eq_sum_map] at total failures
  have within : samples.failures ≤ samples.total := by
    rw [counts.failures_eq, counts.total_eq]
    exact List.countP_le_length
  have few : samples.total ≤ (told steps).length := by
    rw [counts.total_eq]
    exact length_retained_le (told steps)
  refine ⟨accurate.ascending, filled_after steps, total, failures, within, few, ?_, ?_⟩
  · intro instant failed window recorded next
    have kept : next.buckets.getLast? = recorded.getLast? :=
      accurate.getLast?_record instant failed window
    have latest := (Bucket.recorded_record (samples.second instant) failed
      accurate.ascending).newest_second
    rcases Option.map_eq_some_iff.1 latest with ⟨newest, last, -⟩
    exact ⟨accurate.evict_eq_record instant failed window, newest, last, kept.trans last⟩
  · intro length same
    exact (recent_after steps same).length_le accurate.ascending

/-- Samples after a clear, one of which is from before the others, under a window of two
and a half seconds. -/
def steadySteps : List Step :=
  [.add { instant := 8200000000, failed := true, window := 2500000000 },
    .add { instant := 4000000000, failed := false, window := 2500000000 },
    .add { instant := 7300000000, failed := false, window := 2500000000 },
    .add { instant := 6100000000, failed := true, window := 2500000000 },
    .add { instant := 5000000000, failed := true, window := 2500000000 }, .clear,
    .add { instant := 900000000, failed := true, window := 50000000 }]

/-- They fill the three buckets that there may be. -/
theorem books_after_stepping_back :
    (∀ addition ∈ told steadySteps, addition.window = 2500000000) ∧
      (after steadySteps).buckets.map Bucket.second = [1, 2, 3] ∧
      (after steadySteps).buckets.length ≤ 3 := by
  have same : ∀ addition ∈ told steadySteps, addition.window = 2500000000 := by decide
  have bounded := (books_after steadySteps).2.2.2.2.2.2.2 2500000000 same
  exact ⟨same, by decide, bounded⟩

end FailureWindow

end Gateway
