import Gateway.Health.FailureWindow
import Mathlib

namespace Gateway

/-! The buckets of a failure window are in order of time. So the ones that are
forgotten are all that have expired, and the counts are those of the buckets left. -/

section Prefixes

variable {α : Type} {early : α → Bool} {members : List α}

/-- In an order in which only early members stand before early ones, dropping from the
front drops all of them. -/
theorem dropWhile_eq_filter_not
    (order : members.Pairwise fun earlier later =>
      early later = true → early earlier = true) :
    members.dropWhile early = members.filter (fun member => !early member) := by
  induction members with
  | nil => rfl
  | cons first rest induction =>
      rcases List.pairwise_cons.1 order with ⟨before, order⟩
      cases head : early first with
      | true =>
          rw [List.dropWhile_cons_of_pos head, List.filter_cons_of_neg (by simp [head]),
            induction order]
      | false =>
          rw [List.dropWhile_cons_of_neg (by simp [head])]
          refine (List.filter_eq_self.2 fun member there => ?_).symm
          rcases List.mem_cons.1 there with rfl | there
          · simp [head]
          · cases late : early member with
            | false => rfl
            | true =>
                rw [before member there late] at head
                cases head

end Prefixes

namespace Bucket

variable {second window : Nat} {failed : Bool} {buckets : List Bucket}

theorem sum_eq_sum_map (part : Bucket → Nat) (buckets : List Bucket) :
    sum part buckets = (buckets.map part).sum := by
  rw [List.sum_eq_foldl, List.foldl_map]
  rfl

theorem sum_append (part : Bucket → Nat) (left right : List Bucket) :
    sum part (left ++ right) = sum part left + sum part right := by
  simp only [sum_eq_sum_map, List.map_append, List.sum_append]

theorem sum_singleton (part : Bucket → Nat) (bucket : Bucket) :
    sum part [bucket] = part bucket := by
  simp only [sum_eq_sum_map, List.map_singleton, List.sum_singleton]

def Ascending (buckets : List Bucket) : Prop :=
  buckets.Pairwise (fun earlier later => earlier.second < later.second)

/-- What becomes of buckets when a sample is recorded: the sample starts a bucket of its
own, or it is counted by the newest one. -/
inductive Recorded (second : Nat) (failed : Bool) : List Bucket → List Bucket → Prop
  | later {buckets : List Bucket} (order : ∀ bucket ∈ buckets, bucket.second < second) :
      Recorded second failed buckets (buckets ++ [of second failed])
  | newest {older : List Bucket} {newest : Bucket} (order : second ≤ newest.second) :
      Recorded second failed (older ++ [newest]) (older ++ [newest.count failed])

theorem Recorded.cons {first : Bucket} {result : List Bucket}
    (recorded : Recorded second failed buckets result)
    (before : ∀ bucket ∈ buckets, first.second < bucket.second) (some : buckets ≠ []) :
    Recorded second failed (first :: buckets) (first :: result) := by
  cases recorded with
  | later order =>
      refine .later fun bucket there => ?_
      rcases List.mem_cons.1 there with rfl | there
      · rcases List.exists_mem_of_ne_nil buckets some with ⟨other, member⟩
        exact Nat.lt_trans (before other member) (order other member)
      · exact order bucket there
  | @newest older newest order => exact @Recorded.newest _ _ (first :: older) newest order

theorem recorded_record (second : Nat) (failed : Bool) :
    ∀ {buckets : List Bucket}, Ascending buckets →
      Recorded second failed buckets (record second failed buckets)
  | [], _ => .later nofun
  | [newest], _ => by
      unfold record
      split
      · rename_i order
        exact @Recorded.newest _ _ [] newest order
      · rename_i order
        refine .later fun bucket there => ?_
        rw [List.mem_singleton.1 there]
        exact Nat.not_le.1 order
  | first :: next :: rest, ascending => by
      rcases List.pairwise_cons.1 ascending with ⟨before, ascending⟩
      exact (recorded_record second failed ascending).cons before
        (List.cons_ne_nil next rest)

theorem Recorded.ascending {result : List Bucket}
    (recorded : Recorded second failed buckets result)
    (ascending : Ascending buckets) : Ascending result := by
  cases recorded with
  | later order =>
      refine List.pairwise_append.2 ⟨ascending, List.pairwise_singleton _ _, ?_⟩
      intro bucket there added new
      rw [List.mem_singleton.1 new]
      exact order bucket there
  | @newest older newest =>
      rcases List.pairwise_append.1 ascending with ⟨alsoAscending, -, before⟩
      refine List.pairwise_append.2 ⟨alsoAscending, List.pairwise_singleton _ _, ?_⟩
      intro bucket there added new
      rw [List.mem_singleton.1 new]
      exact before bucket there newest (List.mem_singleton_self newest)

theorem Recorded.sum_filter {result : List Bucket}
    (recorded : Recorded second failed buckets result) {keep : Bucket → Bool}
    (kept : ∀ bucket : Bucket, second ≤ bucket.second → keep bucket = true)
    {part : Bucket → Nat} {gain : Nat} (first : part (of second failed) = gain)
    (more : ∀ bucket : Bucket, part (bucket.count failed) = part bucket + gain) :
    sum part (result.filter keep) = sum part (buckets.filter keep) + gain := by
  cases recorded with
  | later =>
      have new : [of second failed].filter keep = [of second failed] :=
        List.filter_eq_self.2 fun bucket there => by
          rw [List.mem_singleton.1 there]
          exact kept (of second failed) (Nat.le_refl second)
      rw [List.filter_append, new, sum_append, sum_singleton, first]
  | @newest older newest order =>
      have before : [newest].filter keep = [newest] :=
        List.filter_eq_self.2 fun bucket there => by
          rw [List.mem_singleton.1 there]
          exact kept newest order
      have after : [newest.count failed].filter keep = [newest.count failed] :=
        List.filter_eq_self.2 fun bucket there => by
          rw [List.mem_singleton.1 there]
          exact kept (newest.count failed) order
      rw [List.filter_append, List.filter_append, before, after, sum_append, sum_append,
        sum_singleton, sum_singleton, more, Nat.add_assoc]

theorem Recorded.sum {result : List Bucket}
    (recorded : Recorded second failed buckets result)
    {part : Bucket → Nat} {gain : Nat} (first : part (of second failed) = gain)
    (more : ∀ bucket : Bucket, part (bucket.count failed) = part bucket + gain) :
    Bucket.sum part result = Bucket.sum part buckets + gain := by
  have all : ∀ list : List Bucket, list.filter (fun _ => true) = list := by
    intro list
    exact List.filter_eq_self.2 fun _ _ => rfl
  have counted : Bucket.sum part (result.filter (fun _ => true)) =
      Bucket.sum part (buckets.filter (fun _ => true)) + gain :=
    recorded.sum_filter (fun _ _ => rfl) first more
  rw [all, all] at counted
  exact counted

theorem Recorded.sum_filter_newest {result : List Bucket}
    (recorded : Recorded second failed buckets result) {latest : Nat}
    (newest : result.getLast?.map Bucket.second = some latest) (keep : Nat → Bool)
    {part : Bucket → Nat} {gain : Nat} (first : part (of second failed) = gain)
    (more : ∀ bucket : Bucket, part (bucket.count failed) = part bucket + gain) :
    Bucket.sum part (result.filter (fun bucket => keep bucket.second)) =
      Bucket.sum part (buckets.filter (fun bucket => keep bucket.second)) +
        if keep latest then gain else 0 := by
  cases recorded with
  | later =>
      rw [List.getLast?_concat] at newest
      have own : (of second failed).second = latest := Option.some.inj newest
      rw [List.filter_append, sum_append]
      cases kept : keep latest with
      | true => simp [own, kept, sum_singleton, first]
      | false => simp [own, kept, Bucket.sum]
  | @newest older bucket order =>
      rw [List.getLast?_concat] at newest
      have counted : (bucket.count failed).second = latest := Option.some.inj newest
      have same : bucket.second = latest := counted
      rw [List.filter_append, List.filter_append, sum_append, sum_append]
      cases kept : keep latest with
      | true => simp [same, counted, kept, sum_singleton, more, Nat.add_assoc]
      | false => simp [same, counted, kept]

theorem Recorded.newest_second {result : List Bucket}
    (recorded : Recorded second failed buckets result) :
    result.getLast?.map Bucket.second =
      some ((buckets.getLast?.map Bucket.second).elim second (max · second)) := by
  cases recorded with
  | later order =>
      rw [List.getLast?_concat]
      cases newest : buckets.getLast? with
      | none => rfl
      | some bucket =>
          have before : bucket.second < second :=
            order bucket (List.mem_of_getLast? newest)
          exact congrArg some (Nat.max_eq_right (Nat.le_of_lt before)).symm
  | newest order =>
      rw [List.getLast?_concat, List.getLast?_concat]
      exact congrArg some (Nat.max_eq_left order).symm

theorem Recorded.newest_of_latest {result : List Bucket}
    (recorded : Recorded second failed buckets result)
    (latest : ∀ bucket ∈ buckets, bucket.second ≤ second) :
    result.getLast?.map Bucket.second = some second := by
  rw [recorded.newest_second]
  cases newest : buckets.getLast? with
  | none => rfl
  | some bucket =>
      have before : bucket.second ≤ second := latest bucket (List.mem_of_getLast? newest)
      exact congrArg some (Nat.max_eq_right before)

/-- Whether a second is still remembered at another one, under a window in
milliseconds. -/
def lasts (second window past : Nat) : Bool :=
  !(decide (past < second) && decide (window ≤ (second - past) * 1000))

theorem lasts_of_le {past : Nat} (order : second ≤ past) (window : Nat) :
    lasts second window past = true := by
  rw [lasts, decide_eq_false (Nat.not_lt.2 order), Bool.false_and, Bool.not_false]

private theorem not_expired (second window : Nat) (bucket : Bucket) :
    (!bucket.expired second window) =
      (decide (second ≤ bucket.second) ||
        decide ((second - bucket.second) * 1000 < window)) := by
  simp only [expired, Bool.not_and, ← decide_not, Nat.not_lt, Nat.not_le]

private theorem expired_of_lt {earlier later : Bucket}
    (order : earlier.second < later.second) (old : later.expired second window = true) :
    earlier.expired second window = true := by
  simp only [expired, Bool.and_eq_true, decide_eq_true_eq] at old ⊢
  omega

private theorem dropWhile_expired (ascending : Ascending buckets) (second window : Nat) :
    buckets.dropWhile (expired second window) =
      buckets.filter (fun bucket => !bucket.expired second window) :=
  dropWhile_eq_filter_not (ascending.imp fun order old => expired_of_lt order old)

end Bucket

namespace FailureWindow

variable {samples : FailureWindow}

/-- A window whose counts are those of its buckets, which are in order. -/
structure Accurate (samples : FailureWindow) : Prop where
  ascending : Bucket.Ascending samples.buckets
  total : samples.total = Bucket.sum Bucket.total samples.buckets
  failures : samples.failures = Bucket.sum Bucket.failures samples.buckets

theorem accurate_empty : Accurate empty :=
  ⟨List.Pairwise.nil, rfl, rfl⟩

def second (samples : FailureWindow) (instant : Nat) : Nat :=
  (instant - samples.origin.getD instant) / 1000000000

/-- The buckets that a sample of some instant does not let be forgotten: those that are
younger than the window, or not older than the sample. -/
def kept (samples : FailureWindow) (instant window : Nat) : List Bucket :=
  samples.buckets.filter (fun bucket =>
    samples.second instant ≤ bucket.second ||
      (samples.second instant - bucket.second) * 1000 < window / 1000000)

def left (samples : FailureWindow) (instant : Nat) (failed : Bool) (window : Nat) :
    List Bucket :=
  (Bucket.record (samples.second instant) failed samples.buckets).dropWhile
    (Bucket.expired (samples.second instant) (window / 1000000))

section Sums

variable (accurate : samples.Accurate) (instant : Nat) (failed : Bool) (window : Nat)
  (part : Bucket → Nat) {gain : Nat}
  (first : part (Bucket.of (samples.second instant) failed) = gain)
  (more : ∀ bucket : Bucket, part (bucket.count failed) = part bucket + gain)

include accurate first more

theorem Accurate.sum_left :
    Bucket.sum part samples.buckets + gain -
        Bucket.sum part
          ((Bucket.record (samples.second instant) failed samples.buckets).takeWhile
          (Bucket.expired (samples.second instant) (window / 1000000))) =
      Bucket.sum part (samples.left instant failed window) := by
  have recorded :=
    Bucket.recorded_record (samples.second instant) failed accurate.ascending
  have whole : (Bucket.record (samples.second instant) failed samples.buckets).takeWhile
        (Bucket.expired (samples.second instant) (window / 1000000)) ++
          samples.left instant failed window =
      Bucket.record (samples.second instant) failed samples.buckets :=
    List.takeWhile_append_dropWhile
  have counted := congrArg (Bucket.sum part) whole
  rw [Bucket.sum_append, recorded.sum first more] at counted
  omega

theorem Accurate.sum_kept :
    Bucket.sum part (samples.left instant failed window) =
      Bucket.sum part (samples.kept instant window) + gain := by
  have recorded :=
    Bucket.recorded_record (samples.second instant) failed accurate.ascending
  rw [left, Bucket.dropWhile_expired (recorded.ascending accurate.ascending)]
  simp only [Bucket.not_expired]
  refine recorded.sum_filter (fun bucket order => ?_) first more
  rw [decide_eq_true order, Bool.true_or]

end Sums

theorem Accurate.buckets_record (accurate : samples.Accurate) (instant : Nat)
    (failed : Bool) (window : Nat) :
    (samples.record instant failed window).buckets =
      (Bucket.record (samples.second instant) failed samples.buckets).filter
        (fun bucket =>
          Bucket.lasts (samples.second instant) (window / 1000000) bucket.second) := by
  have recorded :=
    Bucket.recorded_record (samples.second instant) failed accurate.ascending
  exact Bucket.dropWhile_expired (recorded.ascending accurate.ascending) _ _

theorem Accurate.newest_record (accurate : samples.Accurate) (instant : Nat)
    (failed : Bool) (window : Nat) {latest : Nat}
    (after : samples.second instant ≤ latest)
    (newest : (Bucket.record (samples.second instant) failed samples.buckets).getLast?.map
      Bucket.second = some latest) :
    (samples.record instant failed window).buckets.getLast?.map Bucket.second =
      some latest := by
  rw [accurate.buckets_record]
  rcases Option.map_eq_some_iff.1 newest with ⟨bucket, last, same⟩
  rcases List.getLast?_eq_some_iff.1 last with ⟨older, whole⟩
  have stays :
      Bucket.lasts (samples.second instant) (window / 1000000) bucket.second = true :=
    Bucket.lasts_of_le (same ▸ after) _
  rw [whole, List.filter_append, List.filter_singleton, stays, cond_true,
    List.getLast?_concat, Option.map_some, same]

theorem Accurate.sum_filter_record (accurate : samples.Accurate) (instant : Nat)
    (failed : Bool) (window : Nat) {latest : Nat}
    (after : samples.second instant ≤ latest)
    (newest : (Bucket.record (samples.second instant) failed samples.buckets).getLast?.map
      Bucket.second = some latest)
    (keep : Nat → Bool) {part : Bucket → Nat} {gain : Nat}
    (first : part (Bucket.of (samples.second instant) failed) = gain)
    (more : ∀ bucket : Bucket, part (bucket.count failed) = part bucket + gain) :
    Bucket.sum part
        ((samples.record instant failed window).buckets.filter
          (fun bucket => keep bucket.second)) =
      Bucket.sum part (samples.buckets.filter (fun bucket =>
          keep bucket.second &&
            Bucket.lasts (samples.second instant) (window / 1000000) bucket.second)) +
        if keep latest then gain else 0 := by
  have recorded :=
    Bucket.recorded_record (samples.second instant) failed accurate.ascending
  rw [accurate.buckets_record, List.filter_filter,
    recorded.sum_filter_newest newest
      (fun past =>
        keep past && Bucket.lasts (samples.second instant) (window / 1000000) past)
      first more,
    Bucket.lasts_of_le after, Bool.and_true]

theorem Accurate.record (accurate : samples.Accurate) (instant : Nat) (failed : Bool)
    (window : Nat) :
    (samples.record instant failed window).Accurate where
  ascending := by
    have recorded :=
      Bucket.recorded_record (samples.second instant) failed accurate.ascending
    exact (recorded.ascending accurate.ascending).sublist (List.dropWhile_sublist _)
  total := by
    have counted := accurate.sum_left instant failed window Bucket.total rfl fun _ => rfl
    rw [← accurate.total] at counted
    exact counted
  failures := by
    have counted := accurate.sum_left instant failed window Bucket.failures rfl fun _ =>
        rfl
    rw [← accurate.failures] at counted
    exact counted

theorem Accurate.total_record (accurate : samples.Accurate) (instant : Nat)
    (failed : Bool) (window : Nat) :
    (samples.record instant failed window).total =
      Bucket.sum Bucket.total (samples.kept instant window) + 1 :=
  (accurate.record instant failed window).total.trans
    (accurate.sum_kept instant failed window Bucket.total rfl fun _ => rfl)

theorem Accurate.failures_record (accurate : samples.Accurate) (instant : Nat)
    (failed : Bool) (window : Nat) :
    (samples.record instant failed window).failures =
      Bucket.sum Bucket.failures (samples.kept instant window) + failed.toNat :=
  (accurate.record instant failed window).failures.trans
    (accurate.sum_kept instant failed window Bucket.failures rfl fun _ => rfl)

end FailureWindow

end Gateway
