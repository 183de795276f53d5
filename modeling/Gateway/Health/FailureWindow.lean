namespace Gateway

/-! A sliding count of requests and failures. Time goes by nanoseconds and is cut
into whole seconds since the first sample; each second that saw a sample has a
bucket, oldest first. Seconds as old as the window, which is cut to whole
milliseconds, are forgotten when a later second records a sample. -/

structure Bucket where
  second : Nat
  total : Nat
  failures : Nat
  deriving Repr, DecidableEq

structure FailureWindow where
  origin : Option Nat := none
  buckets : List Bucket := []
  total : Nat := 0
  failures : Nat := 0
  deriving Repr, DecidableEq

namespace Bucket

def of (second : Nat) (failed : Bool) : Bucket :=
  { second, total := 1, failures := failed.toNat }

def count (bucket : Bucket) (failed : Bool) : Bucket :=
  { bucket with total := bucket.total + 1, failures := bucket.failures + failed.toNat }

/-- Adds a sample to the newest bucket, or to a new one if its second is later.
A clock that steps back adds to the newest bucket. -/
def record (second : Nat) (failed : Bool) : List Bucket → List Bucket
  | [] => [of second failed]
  | [newest] =>
      if second ≤ newest.second then [newest.count failed] else [newest, of second failed]
  | bucket :: next :: rest => bucket :: record second failed (next :: rest)

/-- Whether a bucket is forgotten at a given second, under a window in milliseconds. -/
def expired (second window : Nat) (bucket : Bucket) : Bool :=
  bucket.second < second && window ≤ (second - bucket.second) * 1000

def sum (part : Bucket → Nat) (buckets : List Bucket) : Nat :=
  buckets.foldl (fun total bucket => total + part bucket) 0

end Bucket

namespace FailureWindow

def empty : FailureWindow :=
  { origin := none, buckets := [], total := 0, failures := 0 }

/-- Records one sample. The instant and the window are in nanoseconds. -/
def record (samples : FailureWindow) (instant : Nat) (failed : Bool) (window : Nat) :
    FailureWindow :=
  let origin := samples.origin.getD instant
  let second := (instant - origin) / 1000000000
  let milliseconds := window / 1000000
  let buckets := Bucket.record second failed samples.buckets
  let forgotten := buckets.takeWhile (Bucket.expired second milliseconds)
  { origin := some origin
    buckets := buckets.dropWhile (Bucket.expired second milliseconds)
    total := samples.total + 1 - Bucket.sum Bucket.total forgotten
    failures := samples.failures + failed.toNat - Bucket.sum Bucket.failures forgotten }

/-- Records one sample where the instant and the window are in milliseconds. -/
def add (samples : FailureWindow) (now : Nat) (failed : Bool) (window : Nat) :
    FailureWindow :=
  samples.record (now * 1000000) failed (window * 1000000)

/-- The share of failures among the samples; an empty window has none. -/
def failureRate (samples : FailureWindow) : Float :=
  if samples.total = 0 then 0.0
  else Float.ofNat samples.failures / Float.ofNat samples.total

/-- The second sample shares the bucket of the first; the third forgets that bucket. -/
example :
    (((empty.add 500 true 1000).add 1400 false 1000).add 1600 true 1000).total = 1 := by
  decide

end FailureWindow

end Gateway
