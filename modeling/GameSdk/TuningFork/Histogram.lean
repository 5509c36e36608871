import Mathlib.Data.Rat.Floor
import Mathlib.Data.Rat.Sqrt
import Mathlib.Data.UInt

/-!
# Tuning Fork histograms

`tuningfork::Histogram` of `histogram.cpp`: bucketed, auto-ranging, or a ring of raw events.
Samples and bounds are exact rationals, bucket counts are `uint32_t` and wrap, and `count_` is
unbounded. `histogram.h` is not among the sources: its three constants and the `sqrt` the code
calls are the parameters `Consts`, and the `AUTO_RANGE` buffer has capacity `num_buckets_`.
-/

namespace TuningFork

/-- The constants of `histogram.h` that `histogram.cpp` uses, and `<cmath>`'s `sqrt`. -/
structure Consts where
  kDefaultNumBuckets : Nat
  kAutoSizeNumStdDev : ℚ
  kAutoSizeMinBucketSizeMs : ℚ
  sqrt : ℚ → ℚ
  two_lt_kDefaultNumBuckets : 2 < kDefaultNumBuckets
  kAutoSizeMinBucketSizeMs_pos : 0 < kAutoSizeMinBucketSizeMs

/-- One admissible choice of the constants, to state results at a concrete input. -/
def Consts.example : Consts :=
  ⟨200, 3, 1 / 10, Rat.sqrt, by decide, by norm_num⟩

inductive Mode
  | histogram
  | autoRange
  | eventsOnly
  deriving DecidableEq, Repr

/-- `TFERROR_OK` and `TFERROR_BAD_PARAMETER`, the two codes `AddCounts` returns. -/
inductive TFErrorCode
  | ok
  | badParameter
  deriving DecidableEq, Repr

structure Histogram where
  mode : Mode
  startMs : ℚ
  endMs : ℚ
  bucketDtMs : ℚ
  numBuckets : Nat
  buckets : List UInt32
  samples : List ℚ
  count : Nat
  nextEventIndex : Nat
  buckets_length : buckets.length = numBuckets
  two_lt_numBuckets : 2 < numBuckets

namespace Histogram

variable (K : Consts)

/-- `Histogram::Histogram(start_ms, end_ms, num_buckets_between, never_bucket)`. -/
def new (startMs endMs : ℚ) (numBucketsBetween : Int) (neverBucket : Bool) : Histogram :=
  let mode : Mode := if neverBucket then .eventsOnly
    else if startMs = 0 ∧ endMs = 0 then .autoRange else .histogram
  let numBuckets := if numBucketsBetween ≤ 0 then K.kDefaultNumBuckets
    else (numBucketsBetween + 2).toNat
  { mode, startMs, endMs
    bucketDtMs := (endMs - startMs) / ((if numBucketsBetween ≤ 0 then 1 else numBucketsBetween : Int) : ℚ)
    numBuckets
    buckets := List.replicate numBuckets 0
    samples := if mode = .eventsOnly then List.replicate numBuckets 0 else []
    count := 0
    nextEventIndex := 0
    buckets_length := List.length_replicate _ _
    two_lt_numBuckets := by
      simp only [numBuckets]
      split
      · exact K.two_lt_kDefaultNumBuckets
      · omega }

/-- The conversion of a `double` to `int`, which truncates toward zero. -/
def truncate (q : ℚ) : Int := if q < 0 then ⌈q⌉ else ⌊q⌋

/-- The bucket that `Add` increments in `HISTOGRAM` mode. -/
def bucketIndex (startMs bucketDtMs : ℚ) (numBuckets : Nat) (x : ℚ) : Nat :=
  let i := truncate ((x - startMs) / bucketDtMs)
  if i < 0 then 0 else if i + 1 ≥ numBuckets then numBuckets - 1 else (i + 1).toNat

/-- `int i = (dt_ms - start_ms_) / bucket_dt_ms_` and `i + 1` are defined: the truncated
quotient is an `int` below `INT_MAX`. -/
def IndexInInt (startMs bucketDtMs x : ℚ) : Prop :=
  -2 ^ 31 ≤ truncate ((x - startMs) / bucketDtMs) ∧ truncate ((x - startMs) / bucketDtMs) < 2 ^ 31 - 1

/-- `Add` when `mode_ == HISTOGRAM`, its `++count_` included. This is also the form the
replay in `CalcBucketsFromSamples` takes, since it sets the mode before it replays. -/
def addHistogram (h : Histogram) (x : ℚ) : Histogram :=
  { h with
    buckets := h.buckets.modify (· + 1) (bucketIndex h.startMs h.bucketDtMs h.numBuckets x)
    count := h.count + 1
    buckets_length := by rw [List.length_modify, h.buckets_length] }

/-- The range `CalcBucketsFromSamples` derives from a batch of samples. -/
structure Geometry where
  startMs : ℚ
  endMs : ℚ
  bucketDtMs : ℚ

/-- The width of `num_buckets_ - 2` buckets over `[startMs, endMs)`, widened around `mean`
when it falls under `kAutoSizeMinBucketSizeMs`. -/
def fitBuckets (numBuckets : Nat) (mean startMs endMs : ℚ) : Geometry :=
  let bucketDtMs := (endMs - startMs) / ((numBuckets - 2 : Nat) : ℚ)
  if bucketDtMs < K.kAutoSizeMinBucketSizeMs then
    let w := K.kAutoSizeMinBucketSizeMs * ((numBuckets - 2 : Nat) : ℚ)
    ⟨mean - w / 2, mean + w / 2, K.kAutoSizeMinBucketSizeMs⟩
  else ⟨startMs, endMs, bucketDtMs⟩

/-- Mean ± `kAutoSizeNumStdDev` standard deviations, clamped at zero below. The minimum and
maximum that the source also computes are never read, and are left out. -/
def autoGeometry (numBuckets : Nat) (samples : List ℚ) : Geometry :=
  let n : ℚ := samples.length
  let mean := samples.sum / n
  let var := (samples.map fun d => d * d).sum / n - mean * mean
  let var := if var < 0 then 0 else var
  let stddev := K.sqrt var
  fitBuckets K numBuckets mean (max (mean - K.kAutoSizeNumStdDev * stddev) 0)
    (mean + K.kAutoSizeNumStdDev * stddev)

/-- `Histogram::CalcBucketsFromSamples`: fix the range, switch to `HISTOGRAM`, reset
`count_` and replay the buffered samples through `Add`. -/
def calcBucketsFromSamples (h : Histogram) : Histogram :=
  if h.mode ≠ .autoRange then h else
  let g := autoGeometry K h.numBuckets h.samples
  h.samples.foldl addHistogram
    { h with mode := .histogram, startMs := g.startMs, endMs := g.endMs,
             bucketDtMs := g.bucketDtMs, count := 0 }

/-- `Histogram::Add`. -/
def add (h : Histogram) (x : ℚ) : Histogram :=
  match h.mode with
  | .histogram => addHistogram h x
  | .autoRange =>
    let h' := { h with samples := h.samples ++ [x] }
    let h'' := if h'.samples.length = h.numBuckets then calcBucketsFromSamples K h' else h'
    { h'' with count := h''.count + 1 }
  | .eventsOnly =>
    let i := h.nextEventIndex + 1
    { h with samples := h.samples.set h.nextEventIndex x
             nextEventIndex := if i ≥ h.samples.length then 0 else i
             count := h.count + 1 }

/-- `Histogram::Clear`. -/
def clear (h : Histogram) : Histogram :=
  { h with
    buckets := h.buckets.map fun _ => 0
    samples := if h.mode = .eventsOnly then h.samples.map fun _ => 0 else []
    nextEventIndex := if h.mode = .eventsOnly then 0 else h.nextEventIndex
    count := 0
    buckets_length := by rw [List.length_map, h.buckets_length] }

/-- `Histogram::AddCounts`. -/
def addCounts (h : Histogram) (counts : List UInt32) : TFErrorCode × Histogram :=
  if hc : counts.length ≠ h.buckets.length then (.badParameter, h)
  else (.ok, { h with
    buckets := List.zipWith (· + ·) h.buckets counts
    buckets_length := by rw [List.length_zipWith, not_not.mp hc, min_self, h.buckets_length] })

/-- `Histogram::operator==`. -/
def beq (h g : Histogram) : Bool := h.buckets == g.buckets && h.samples == g.samples

/-- The values `ToDebugJSON` prints: the raw events, or the bucket bounds and counts. -/
inductive DebugJSON
  | events (values : List ℚ)
  | histogram (pmax : List ℚ) (cnts : List UInt32)

/-- The `pmax` loop of `ToDebugJSON`: `k` bounds from `x` in steps of `dt`, then `99999`. -/
def pmaxFrom (x dt : ℚ) : Nat → List ℚ
  | 0 => [99999]
  | k + 1 => x :: pmaxFrom (x + dt) dt k

/-- `Histogram::ToDebugJSON`. -/
def toDebugJSON (h : Histogram) : DebugJSON :=
  if h.mode ≠ .histogram then .events h.samples
  else .histogram (pmaxFrom h.startMs h.bucketDtMs (h.numBuckets - 1)) h.buckets

/-- One call on a histogram. -/
inductive Op
  | add (x : ℚ)
  | clear

def apply (h : Histogram) : Op → Histogram
  | .add x => h.add K x
  | .clear => h.clear

def run (h : Histogram) (ops : List Op) : Histogram := ops.foldl (apply K) h

/-- The samples added since the last `Clear` (or since construction). -/
def samplesSinceClear (ops : List Op) : List ℚ :=
  ops.foldl (fun xs op => match op with | .add x => xs ++ [x] | .clear => []) []

@[simp] theorem addHistogram_mode (h : Histogram) (x : ℚ) : (h.addHistogram x).mode = h.mode := rfl
@[simp] theorem addHistogram_startMs (h : Histogram) (x : ℚ) :
    (h.addHistogram x).startMs = h.startMs := rfl
@[simp] theorem addHistogram_endMs (h : Histogram) (x : ℚ) : (h.addHistogram x).endMs = h.endMs := rfl
@[simp] theorem addHistogram_bucketDtMs (h : Histogram) (x : ℚ) :
    (h.addHistogram x).bucketDtMs = h.bucketDtMs := rfl
@[simp] theorem addHistogram_numBuckets (h : Histogram) (x : ℚ) :
    (h.addHistogram x).numBuckets = h.numBuckets := rfl
@[simp] theorem addHistogram_samples (h : Histogram) (x : ℚ) :
    (h.addHistogram x).samples = h.samples := rfl
@[simp] theorem addHistogram_count (h : Histogram) (x : ℚ) : (h.addHistogram x).count = h.count + 1 :=
  rfl
@[simp] theorem addHistogram_buckets (h : Histogram) (x : ℚ) : (h.addHistogram x).buckets =
    h.buckets.modify (· + 1) (bucketIndex h.startMs h.bucketDtMs h.numBuckets x) := rfl

@[simp] theorem clear_mode (h : Histogram) : h.clear.mode = h.mode := rfl
@[simp] theorem clear_startMs (h : Histogram) : h.clear.startMs = h.startMs := rfl
@[simp] theorem clear_endMs (h : Histogram) : h.clear.endMs = h.endMs := rfl
@[simp] theorem clear_bucketDtMs (h : Histogram) : h.clear.bucketDtMs = h.bucketDtMs := rfl
@[simp] theorem clear_numBuckets (h : Histogram) : h.clear.numBuckets = h.numBuckets := rfl
@[simp] theorem clear_count (h : Histogram) : h.clear.count = 0 := rfl
@[simp] theorem clear_buckets (h : Histogram) : h.clear.buckets = h.buckets.map fun _ => 0 := rfl
@[simp] theorem clear_samples (h : Histogram) :
    h.clear.samples = if h.mode = .eventsOnly then h.samples.map (fun _ => 0) else [] := rfl
@[simp] theorem clear_nextEventIndex (h : Histogram) :
    h.clear.nextEventIndex = if h.mode = .eventsOnly then 0 else h.nextEventIndex := rfl

/-- The buckets after `Add` in `HISTOGRAM` mode has been fed `xs`, from counts `b`. -/
def bucketsAfter (startMs bucketDtMs : ℚ) (numBuckets : Nat) (b : List UInt32) (xs : List ℚ) :
    List UInt32 :=
  xs.foldl (fun b x => b.modify (· + 1) (bucketIndex startMs bucketDtMs numBuckets x)) b

@[simp] theorem length_bucketsAfter (s w : ℚ) (n : Nat) (b : List UInt32) (xs : List ℚ) :
    (bucketsAfter s w n b xs).length = b.length := by
  induction xs generalizing b with
  | nil => rfl
  | cons x xs ih => exact (ih _).trans (List.length_modify _ _ _)

/-- Repeated `addHistogram`, as one record update. -/
theorem foldl_addHistogram (h : Histogram) (xs : List ℚ) :
    xs.foldl addHistogram h =
      { h with
        buckets := bucketsAfter h.startMs h.bucketDtMs h.numBuckets h.buckets xs
        count := h.count + xs.length
        buckets_length := by rw [length_bucketsAfter, h.buckets_length] } := by
  induction xs generalizing h with
  | nil => rfl
  | cons x xs ih =>
    rw [List.foldl_cons, ih]
    simp only [addHistogram, List.length_cons, Histogram.mk.injEq, true_and, and_true]
    exact ⟨rfl, by omega⟩

theorem add_of_histogram {h : Histogram} (hm : h.mode = .histogram) (x : ℚ) :
    h.add K x = h.addHistogram x := by
  simp only [add, hm]

/-- An `AUTO_RANGE` `Add` that leaves the buffer short of its capacity. -/
theorem add_of_autoRange_collect {h : Histogram} (hm : h.mode = .autoRange) {x : ℚ}
    (hn : h.samples.length + 1 ≠ h.numBuckets) :
    h.add K x = { h with samples := h.samples ++ [x], count := h.count + 1 } := by
  simp only [add, hm, List.length_append, List.length_singleton, hn, if_false]

/-- The `AUTO_RANGE` `Add` that fills the buffer: the replay counts every buffered sample,
and the outer `Add` then counts one more. -/
theorem add_of_autoRange_fill {h : Histogram} (hm : h.mode = .autoRange) {x : ℚ}
    (hn : h.samples.length + 1 = h.numBuckets) :
    let g := autoGeometry K h.numBuckets (h.samples ++ [x])
    h.add K x =
      { h with
        mode := .histogram, startMs := g.startMs, endMs := g.endMs, bucketDtMs := g.bucketDtMs
        samples := h.samples ++ [x]
        buckets := bucketsAfter g.startMs g.bucketDtMs h.numBuckets h.buckets (h.samples ++ [x])
        count := h.numBuckets + 1
        buckets_length := by rw [length_bucketsAfter, h.buckets_length] } := by
  simp only [add, hm, List.length_append, List.length_singleton, hn, if_true,
    calcBucketsFromSamples, ne_eq, not_true_eq_false, if_false, foldl_addHistogram]
  simp [hn]

theorem add_of_eventsOnly {h : Histogram} (hm : h.mode = .eventsOnly) (x : ℚ) :
    h.add K x =
      { h with
        samples := h.samples.set h.nextEventIndex x
        nextEventIndex := if h.nextEventIndex + 1 ≥ h.samples.length then 0 else h.nextEventIndex + 1
        count := h.count + 1 } := by
  simp only [add, hm]

@[simp] theorem add_numBuckets (h : Histogram) (x : ℚ) : (h.add K x).numBuckets = h.numBuckets := by
  cases hm : h.mode with
  | histogram => rw [add_of_histogram K hm]; rfl
  | eventsOnly => rw [add_of_eventsOnly K hm]
  | autoRange =>
    by_cases hn : h.samples.length + 1 = h.numBuckets
    · rw [add_of_autoRange_fill K hm hn]
    · rw [add_of_autoRange_collect K hm hn]

@[simp] theorem apply_add (h : Histogram) (x : ℚ) : h.apply K (.add x) = h.add K x := rfl
@[simp] theorem apply_clear (h : Histogram) : h.apply K .clear = h.clear := rfl

@[simp] theorem run_nil (h : Histogram) : run K h [] = h := rfl
@[simp] theorem run_cons (h : Histogram) (op : Op) (ops : List Op) :
    run K h (op :: ops) = run K (h.apply K op) ops := rfl
@[simp] theorem run_append (h : Histogram) (ops ops' : List Op) :
    run K h (ops ++ ops') = run K (run K h ops) ops' := List.foldl_append _ _ _ _
theorem run_concat (h : Histogram) (ops : List Op) (op : Op) :
    run K h (ops ++ [op]) = (run K h ops).apply K op := by simp [run]

@[simp] theorem run_numBuckets (h : Histogram) (ops : List Op) :
    (run K h ops).numBuckets = h.numBuckets := by
  induction ops generalizing h with
  | nil => rfl
  | cons op ops ih => rw [run_cons, ih]; cases op <;> simp

@[simp] theorem samplesSinceClear_nil : samplesSinceClear [] = [] := rfl
theorem samplesSinceClear_concat_add (ops : List Op) (x : ℚ) :
    samplesSinceClear (ops ++ [.add x]) = samplesSinceClear ops ++ [x] := by
  simp [samplesSinceClear]
theorem samplesSinceClear_concat_clear (ops : List Op) :
    samplesSinceClear (ops ++ [.clear]) = [] := by
  simp [samplesSinceClear]

end Histogram

end TuningFork
