import Gateway.Health.Passive
import Gateway.Proofs.Health.FailureWindow

namespace Gateway

/-! What a failure window counts, told by the samples themselves. The window keeps no
sample, only counts by second; what it has counted are the samples that no later one has
let it forget. -/

/-- A report that was sampled: when that was, whether a failure was reported, and the
settings that were in force then. -/
structure Sample where
  now : Nat
  failed : Bool
  settings : PassivePolicy.RateSettings

namespace Sample

variable {origin : Nat} {samples : List Sample}

def second (origin : Nat) (sample : Sample) : Nat :=
  (sample.now - origin) / 1000

/-- Whether a sample lets an earlier one be forgotten: it is of a later second, and by
then the earlier one is as old as the window. -/
def forgets (origin : Nat) (later earlier : Sample) : Bool :=
  earlier.second origin < later.second origin &&
    later.settings.window ≤ (later.second origin - earlier.second origin) * 1000

/-- Those of some samples, oldest first, that no later one lets be forgotten. -/
def unforgotten (origin : Nat) : List Sample → List Sample
  | [] => []
  | sample :: later =>
      if later.any (fun other => other.forgets origin sample) then
        unforgotten origin later
      else sample :: unforgotten origin later

/-- The samples that the window retains. Seconds are counted from the first of all
samples. -/
def retained (samples : List Sample) : List Sample :=
  unforgotten ((samples.head?.map Sample.now).getD 0) samples

theorem unforgotten_concat (origin : Nat) (samples : List Sample) (sample : Sample) :
    unforgotten origin (samples ++ [sample]) =
      (unforgotten origin samples).filter
        (fun earlier => !sample.forgets origin earlier) ++
        [sample] := by
  induction samples with
  | nil => rfl
  | cons first rest induction =>
      simp only [List.cons_append, unforgotten, List.any_append, List.any_cons,
        List.any_nil, Bool.or_false, induction]
      cases rest.any (fun other => other.forgets origin first) with
      | true => simp
      | false =>
          cases forgotten : sample.forgets origin first with
          | true => simp [forgotten]
          | false => simp [forgotten]

end Sample

namespace Bucket

variable {second : Nat} {failed : Bool} {buckets result : List Bucket}

theorem Recorded.second_of_mem (recorded : Recorded second failed buckets result)
    {bucket : Bucket} (there : bucket ∈ result) :
    bucket.second = second ∨ ∃ former ∈ buckets, bucket.second = former.second := by
  cases recorded with
  | later =>
      rcases List.mem_append.1 there with old | new
      · exact .inr ⟨bucket, old, rfl⟩
      · rw [List.mem_singleton.1 new]
        exact .inl rfl
  | @newest older newest order =>
      rcases List.mem_append.1 there with old | new
      · exact .inr ⟨bucket, List.mem_append_left _ old, rfl⟩
      · rw [List.mem_singleton.1 new]
        exact .inr ⟨newest, List.mem_append_right _ (List.mem_singleton_self newest), rfl⟩

end Bucket

namespace FailureWindow

variable {origin : Nat} {window : FailureWindow} {samples : List Sample} {sample : Sample}

theorem second_of_milliseconds {origin : Nat}
    (since : window.origin = some (origin * 1000000))
    (sample : Sample) : window.second (sample.now * 1000000) = sample.second origin := by
  rw [FailureWindow.second, since, Option.getD_some, Sample.second]
  omega

/-- A window whose buckets count the samples that are not forgotten, second by second. -/
structure Tallies (origin : Nat) (window : FailureWindow) (samples : List Sample) :
    Prop where
  accurate : window.Accurate
  seen : ∀ bucket ∈ window.buckets, ∃ sample ∈ samples,
    bucket.second = sample.second origin
  total : ∀ keep : Nat → Bool,
    Bucket.sum Bucket.total (window.buckets.filter (fun bucket => keep bucket.second)) =
      (Sample.unforgotten origin samples).countP (fun sample =>
        keep (sample.second origin))
  failures : ∀ keep : Nat → Bool,
    Bucket.sum Bucket.failures
      (window.buckets.filter (fun bucket => keep bucket.second)) =
      (Sample.unforgotten origin samples).countP
        (fun sample => sample.failed && keep (sample.second origin))

private theorem tallies_empty (origin : Nat) : Tallies origin .empty [] :=
  ⟨accurate_empty, nofun, fun _ => rfl, fun _ => rfl⟩

theorem Accurate.sum_add (accurate : window.Accurate)
    (own : window.second (sample.now * 1000000) = sample.second origin)
    (latest : ∀ bucket ∈ window.buckets, bucket.second ≤ sample.second origin)
    {part : Bucket → Nat} {counted : Sample → Bool}
    (first : ∀ second, part (.of second sample.failed) = (counted sample).toNat)
    (more : ∀ bucket : Bucket, part (bucket.count sample.failed) =
      part bucket + (counted sample).toNat)
    (before : ∀ keep : Nat → Bool,
      Bucket.sum part (window.buckets.filter (fun bucket => keep bucket.second)) =
        (Sample.unforgotten origin samples).countP
          (fun earlier => counted earlier && keep (earlier.second origin)))
    (keep : Nat → Bool) :
    Bucket.sum part
        ((window.add sample.now sample.failed sample.settings.window).buckets.filter
          (fun bucket => keep bucket.second)) =
      (Sample.unforgotten origin (samples ++ [sample])).countP
        (fun earlier => counted earlier && keep (earlier.second origin)) := by
  have recorded :=
    Bucket.recorded_record (window.second (sample.now * 1000000)) sample.failed
    accurate.ascending
  have newest := recorded.newest_of_latest (own ▸ latest)
  have whole : sample.settings.window * 1000000 / 1000000 = sample.settings.window :=
    Nat.mul_div_cancel _ (by decide)
  rw [FailureWindow.add,
    accurate.sum_filter_record _ _ _ (Nat.le_refl _) newest keep (first _) more, own,
    whole,
    before (fun past =>
      keep past && Bucket.lasts (sample.second origin) sample.settings.window past),
    Sample.unforgotten_concat, List.countP_append, List.countP_filter,
      List.countP_singleton]
  congr 1
  · refine List.countP_congr fun earlier _ => ?_
    rw [← Bool.and_assoc]
    rfl
  · cases counted sample <;> cases keep (sample.second origin) <;> rfl

theorem Tallies.latest (tallies : Tallies origin window samples)
    (order : ∀ earlier ∈ samples, earlier.now ≤ sample.now) :
    ∀ bucket ∈ window.buckets, bucket.second ≤ sample.second origin := by
  intro bucket there
  rcases tallies.seen bucket there with ⟨earlier, member, same⟩
  rw [same]
  exact Nat.div_le_div_right (Nat.sub_le_sub_right (order earlier member) origin)

theorem Tallies.add (tallies : Tallies origin window samples)
    (own : window.second (sample.now * 1000000) = sample.second origin)
    (order : ∀ earlier ∈ samples, earlier.now ≤ sample.now) :
    Tallies origin (window.add sample.now sample.failed sample.settings.window)
      (samples ++ [sample]) where
  accurate := tallies.accurate.record _ _ _
  seen := by
    intro bucket there
    have recorded := Bucket.recorded_record (window.second (sample.now * 1000000))
      sample.failed tallies.accurate.ascending
    have kept :
        bucket ∈ Bucket.record (window.second (sample.now * 1000000)) sample.failed
        window.buckets := (List.dropWhile_sublist _).subset there
    rcases recorded.second_of_mem kept with new | ⟨former, member, same⟩
    · exact ⟨sample, List.mem_append_right _ (List.mem_singleton_self sample),
        new.trans own⟩
    · rcases tallies.seen former member with ⟨earlier, old, also⟩
      exact ⟨earlier, List.mem_append_left _ old, same.trans also⟩
  total := by
    have added : ∀ keep : Nat → Bool,
        Bucket.sum Bucket.total
            ((window.add sample.now sample.failed sample.settings.window).buckets.filter
              (fun bucket => keep bucket.second)) =
          (Sample.unforgotten origin (samples ++ [sample])).countP
            (fun earlier => true && keep (earlier.second origin)) :=
      tallies.accurate.sum_add own (tallies.latest order) (fun _ => rfl) (fun _ => rfl)
        tallies.total
    exact added
  failures :=
    tallies.accurate.sum_add own (tallies.latest order) (fun _ => rfl) (fun _ => rfl)
      tallies.failures

/-- A window that has counted some samples, and no others. -/
structure Tally (window : FailureWindow) (samples : List Sample) : Prop where
  origin : window.origin = samples.head?.map (fun sample => sample.now * 1000000)
  tallies : Tallies ((samples.head?.map Sample.now).getD 0) window samples

theorem tally_empty : Tally .empty [] :=
  ⟨rfl, tallies_empty 0⟩

theorem Tally.add (tally : Tally window samples)
    (order : ∀ earlier ∈ samples, earlier.now ≤ sample.now) :
    Tally (window.add sample.now sample.failed sample.settings.window)
    (samples ++ [sample]) := by
  rcases tally with ⟨origin, tallies⟩
  have added : (window.add sample.now sample.failed sample.settings.window).origin =
      some (window.origin.getD (sample.now * 1000000)) := rfl
  cases samples with
  | nil =>
      have own : window.second (sample.now * 1000000) = sample.second sample.now := by
        simp [FailureWindow.second, origin, Sample.second]
      have before : Tallies sample.now window [] := by
        refine ⟨tallies.accurate, fun bucket there => ?_, tallies.total, tallies.failures⟩
        rcases tallies.seen bucket there with ⟨earlier, member, -⟩
        cases member
      exact ⟨by rw [added, origin]; rfl, before.add own nofun⟩
  | cons first rest =>
      have own := second_of_milliseconds origin sample
      exact ⟨by rw [added, origin]; rfl, tallies.add own order⟩

theorem Tally.total (tally : Tally window samples) :
    window.total = (Sample.retained samples).length := by
  have counted := tally.tallies.total fun _ => true
  rw [List.filter_true, List.countP_true] at counted
  exact tally.tallies.accurate.total.trans counted

theorem Tally.failures (tally : Tally window samples) :
    window.failures = (Sample.retained samples).countP Sample.failed := by
  have counted := tally.tallies.failures fun _ => true
  simp only [List.filter_true, Bool.and_true] at counted
  exact tally.tallies.accurate.failures.trans counted

end FailureWindow

end Gateway
