import GameSdk.TuningFork.Histogram

/-!
# Clearing a histogram

`Histogram::Clear` zeroes the buckets, `count_` and the samples, rewinds the event index and
keeps the mode and range. From every state a program reaches it gives exactly the state the
constructor builds for that mode and range, so a cleared histogram goes on as a fresh one.
-/

namespace TuningFork.Histogram

variable (K : Consts)

/-- The state the constructor initialises, with `h`'s mode and range: zero buckets, no count,
write index `0`, and a zeroed ring in `EVENTS_ONLY` mode or an empty sample buffer, of
capacity `num_buckets_`, otherwise. -/
def fresh (h : Histogram) : Histogram :=
  { h with
    buckets := List.replicate h.numBuckets 0
    samples := if h.mode = .eventsOnly then List.replicate h.numBuckets 0 else []
    count := 0
    nextEventIndex := 0
    buckets_length := List.length_replicate _ _ }

/-- The histograms a program reaches: constructed, then any sequence of `Add`, `Clear` and
`AddCounts`. -/
inductive Reachable : Histogram → Prop
  | new (startMs endMs : ℚ) (numBucketsBetween : Int) (neverBucket : Bool) :
      Reachable (new K startMs endMs numBucketsBetween neverBucket)
  | add {h : Histogram} (x : ℚ) : Reachable h → Reachable (h.add K x)
  | clear {h : Histogram} : Reachable h → Reachable h.clear
  | addCounts {h : Histogram} (counts : List UInt32) : Reachable h → Reachable (h.addCounts counts).2

/-- What `Clear` relies on: an `EVENTS_ONLY` ring has `num_buckets_` slots, and the write index
of any other histogram is `0`. -/
structure ClearInv (h : Histogram) : Prop where
  ring_length : h.mode = .eventsOnly → h.samples.length = h.numBuckets
  index_zero : h.mode ≠ .eventsOnly → h.nextEventIndex = 0

variable {K}

theorem new_clearInv (startMs endMs : ℚ) (nbb : Int) (neverBucket : Bool) :
    ClearInv (new K startMs endMs nbb neverBucket) :=
  ⟨fun hm => by simp only [new] at hm ⊢; simp [hm], fun _ => rfl⟩

theorem ClearInv.add {h : Histogram} (hi : ClearInv h) (x : ℚ) : ClearInv (h.add K x) := by
  cases hm : h.mode with
  | histogram => rw [add_of_histogram K hm]; exact ⟨hi.1, hi.2⟩
  | autoRange =>
    have hz := hi.2 (by rw [hm]; decide)
    by_cases hn : h.samples.length + 1 = h.numBuckets
    · rw [add_of_autoRange_fill K hm hn]; exact ⟨(fun h' => nomatch h'), fun _ => hz⟩
    · rw [add_of_autoRange_collect K hm hn]; exact ⟨(fun h' => nomatch hm.symm.trans h'), fun _ => hz⟩
  | eventsOnly =>
    rw [add_of_eventsOnly K hm]
    exact ⟨fun _ => (List.length_set ..).trans (hi.1 hm), fun h' => absurd hm h'⟩

theorem ClearInv.clear {h : Histogram} (hi : ClearInv h) : ClearInv h.clear :=
  ⟨fun hm => by simp_all [hi.1 hm], fun hm => by simp_all [hi.2 hm]⟩

theorem ClearInv.addCounts {h : Histogram} (hi : ClearInv h) (counts : List UInt32) :
    ClearInv (h.addCounts counts).2 := by
  unfold Histogram.addCounts
  split
  · exact hi
  · exact ⟨hi.1, hi.2⟩

theorem Reachable.clearInv {h : Histogram} (hr : Reachable K h) : ClearInv h := by
  induction hr with
  | new startMs endMs nbb neverBucket => exact new_clearInv startMs endMs nbb neverBucket
  | add x _ ih => exact ih.add x
  | clear _ ih => exact ih.clear
  | addCounts counts _ ih => exact ih.addCounts counts

/-- `Clear` rebuilds the constructor's state for the histogram's mode and range. -/
theorem ClearInv.clear_eq_fresh {h : Histogram} (hi : ClearInv h) : h.clear = h.fresh := by
  obtain ⟨mode, startMs, endMs, bucketDtMs, numBuckets, buckets, samples, count, i, hb, hn⟩ := h
  obtain ⟨hl, hz⟩ := hi
  simp only [Histogram.clear, fresh, Histogram.mk.injEq, true_and, List.map_const', hb] at hl hz ⊢
  by_cases hm : mode = .eventsOnly
  · simp [hm, hl hm]
  · simp [hm, hz hm]

/-- From every reachable histogram, `Clear` and then any samples leave the state a fresh
histogram of the same mode, range and bucket count reaches with those samples: the same
buckets, samples, count and mode. `Clear` keeps a transitioned auto-range histogram in
`HISTOGRAM` mode, and leaves no stale sample or write index. -/
theorem clear_then_adds_as_fresh {h : Histogram} (hr : Reachable K h) (xs : List ℚ) :
    run K h.clear (xs.map .add) = run K h.fresh (xs.map .add) := by
  rw [hr.clearInv.clear_eq_fresh]

theorem clear_then_adds_as_fresh_scenario :
    Reachable Consts.example ((((new Consts.example 0 0 1 false).add Consts.example 1).add
      Consts.example 2).add Consts.example 3) ∧
    run Consts.example ((((new Consts.example 0 0 1 false).add Consts.example 1).add
      Consts.example 2).add Consts.example 3).clear (([5] : List ℚ).map .add) =
      run Consts.example ((((new Consts.example 0 0 1 false).add Consts.example 1).add
        Consts.example 2).add Consts.example 3).fresh (([5] : List ℚ).map .add) := by
  have hr : Reachable Consts.example ((((new Consts.example 0 0 1 false).add Consts.example 1).add
      Consts.example 2).add Consts.example 3) := .add 3 (.add 2 (.add 1 (.new 0 0 1 false)))
  exact ⟨hr, clear_then_adds_as_fresh hr [5]⟩

end TuningFork.Histogram
