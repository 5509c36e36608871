import GameSdk.TuningFork.Bucketing

/-!
# Runs from construction: auto-ranging and bucket geometry

An `AUTO_RANGE` histogram buffers samples until the `num_buckets_`-th since the last `Clear`,
fixes its range from them and replays them; the `Add` that fills the buffer counts its sample
twice. The derived range tiles `[start_ms_, end_ms_)` with buckets of positive width; a fixed
range does so when it is non-empty, and the constructor accepts an empty one with a log line.
-/

namespace TuningFork.Histogram

open scoped UInt32.CommRing

variable (K : Consts)

/-- The in-range buckets have positive width and tile `[start_ms_, end_ms_)`. -/
def GeometryWF (h : Histogram) : Prop :=
  0 < h.bucketDtMs ∧ h.startMs + ((h.numBuckets - 2 : Nat) : ℚ) * h.bucketDtMs = h.endMs

theorem fitBuckets_wf {n : Nat} (hn : 2 < n) (mean startMs endMs : ℚ) :
    let g := fitBuckets K n mean startMs endMs
    K.kAutoSizeMinBucketSizeMs ≤ g.bucketDtMs ∧
      g.startMs + ((n - 2 : Nat) : ℚ) * g.bucketDtMs = g.endMs := by
  have hm : ((n - 2 : Nat) : ℚ) ≠ 0 := by norm_cast; omega
  dsimp only [fitBuckets]
  split
  · exact ⟨le_rfl, by ring⟩
  · exact ⟨not_lt.mp ‹_›, by rw [mul_div_cancel₀ _ hm]; ring⟩

theorem autoGeometry_wf {n : Nat} (hn : 2 < n) (xs : List ℚ) :
    let g := autoGeometry K n xs
    K.kAutoSizeMinBucketSizeMs ≤ g.bucketDtMs ∧
      g.startMs + ((n - 2 : Nat) : ℚ) * g.bucketDtMs = g.endMs :=
  fitBuckets_wf K hn _ _ _

theorem apply_geometryWF {h : Histogram} (hg : h.mode = .histogram → GeometryWF h) (op : Op) :
    (h.apply K op).mode = .histogram → GeometryWF (h.apply K op) := by
  cases op with
  | clear => exact hg
  | add x =>
    cases hm : h.mode with
    | histogram => rw [apply_add, add_of_histogram K hm]; exact hg
    | eventsOnly => simp [add_of_eventsOnly K hm, hm]
    | autoRange =>
      by_cases hn : h.samples.length + 1 = h.numBuckets
      · have hwf := autoGeometry_wf K h.two_lt_numBuckets (h.samples ++ [x])
        rw [apply_add, add_of_autoRange_fill K hm hn]
        exact fun _ => ⟨lt_of_lt_of_le K.kAutoSizeMinBucketSizeMs_pos hwf.1, hwf.2⟩
      · simp [add_of_autoRange_collect K hm hn, hm]

theorem run_geometryWF {h : Histogram} (hg : h.mode = .histogram → GeometryWF h)
    (ops : List Op) : (run K h ops).mode = .histogram → GeometryWF (run K h ops) := by
  induction ops generalizing h with
  | nil => exact hg
  | cons op ops ih => exact ih (apply_geometryWF K hg op)

theorem new_geometryWF {startMs endMs : ℚ} {nbb : Int} {neverBucket : Bool}
    (hcfg : neverBucket = true ∨ (startMs = 0 ∧ endMs = 0) ∨ (0 < nbb ∧ startMs < endMs)) :
    (new K startMs endMs nbb neverBucket).mode = .histogram →
      GeometryWF (new K startMs endMs nbb neverBucket) := by
  rcases hcfg with rfl | ⟨rfl, rfl⟩ | ⟨hb, hr⟩
  · simp [new]
  · cases neverBucket <;> simp [new]
  · intro _
    have hb' : ¬ nbb ≤ 0 := not_le.mpr hb
    have hcast : (((nbb + 2).toNat - 2 : Nat) : ℚ) = (nbb : ℚ) := by
      rw [show (nbb + 2).toNat - 2 = nbb.toNat by omega]
      exact_mod_cast Int.toNat_of_nonneg hb.le
    have hq : (0 : ℚ) < nbb := Int.cast_pos.mpr hb
    simp only [GeometryWF, new, hb', if_false, hcast]
    exact ⟨div_pos (sub_pos.mpr hr) hq, by rw [mul_div_cancel₀ _ hq.ne']; ring⟩

/-- Whenever a histogram is in `HISTOGRAM` mode its buckets tile its range with positive
widths, if it got there by auto-ranging, or was built with a bucket count and a non-empty
range (or never buckets). -/
theorem histogram_geometry_wf (startMs endMs : ℚ) (nbb : Int) (neverBucket : Bool)
    (ops : List Op)
    (hcfg : neverBucket = true ∨ (startMs = 0 ∧ endMs = 0) ∨ (0 < nbb ∧ startMs < endMs)) :
    (run K (new K startMs endMs nbb neverBucket) ops).mode = .histogram →
      GeometryWF (run K (new K startMs endMs nbb neverBucket) ops) :=
  run_geometryWF K (new_geometryWF K hcfg) ops

/-- `Histogram(0, 0, 1)` auto-ranges over three buckets: its third sample makes
`CalcBucketsFromSamples` switch it to `HISTOGRAM` mode. -/
theorem histogram_geometry_wf_scenario :
    (false = true ∨ ((0 : ℚ) = 0 ∧ (0 : ℚ) = 0) ∨ ((0 : Int) < 1 ∧ (0 : ℚ) < 0)) ∧
      (run Consts.example (new Consts.example 0 0 1 false) [.add 10, .add 12, .add 14]).mode =
        .histogram ∧
      GeometryWF (run Consts.example (new Consts.example 0 0 1 false) [.add 10, .add 12, .add 14]) :=
  have hcfg : false = true ∨ ((0 : ℚ) = 0 ∧ (0 : ℚ) = 0) ∨ ((0 : Int) < 1 ∧ (0 : ℚ) < 0) :=
    Or.inr (Or.inl ⟨rfl, rfl⟩)
  have hm : (run Consts.example (new Consts.example 0 0 1 false) [.add 10, .add 12, .add 14]).mode =
      .histogram := rfl
  ⟨hcfg, hm, histogram_geometry_wf Consts.example 0 0 1 false _ hcfg hm⟩

/-- `Histogram(5, 5, 1)` is in `HISTOGRAM` mode with bucket width `0`, so `Add` divides by
zero. -/
theorem empty_range_has_zero_width :
    ¬ ∀ (startMs endMs : ℚ) (nbb : Int) (neverBucket : Bool) (ops : List Op),
      (run Consts.example (new Consts.example startMs endMs nbb neverBucket) ops).mode =
          .histogram →
        GeometryWF (run Consts.example (new Consts.example startMs endMs nbb neverBucket) ops) := by
  intro H
  have := (H 5 5 1 false [] (by simp [new])).1
  simp [new] at this

/-- What an auto-ranging histogram of `N` buckets holds when `xs` are the samples added since
the last `Clear`: still collecting them, or bucketing them over a derived range. -/
def AutoRangeInv (N : Nat) (h : Histogram) (xs : List ℚ) : Prop :=
  h.numBuckets = N ∧
  ((h.mode = .autoRange ∧ h.buckets = List.replicate N 0 ∧ h.samples = xs ∧ xs.length < N) ∨
   (h.mode = .histogram ∧ K.kAutoSizeMinBucketSizeMs ≤ h.bucketDtMs ∧
     h.startMs + ((N - 2 : Nat) : ℚ) * h.bucketDtMs = h.endMs ∧
     h.buckets = bucketsAfter h.startMs h.bucketDtMs N (List.replicate N 0) xs))

variable {K}

theorem AutoRangeInv.add {N : Nat} {h : Histogram} {xs : List ℚ} (hi : AutoRangeInv K N h xs)
    (x : ℚ) : AutoRangeInv K N (h.add K x) (xs ++ [x]) := by
  obtain ⟨rfl, ⟨hm, hb, rfl, hl⟩ | ⟨hm, hmin, htile, hb⟩⟩ := hi
  · by_cases hn : h.samples.length + 1 = h.numBuckets
    · have hwf := autoGeometry_wf K h.two_lt_numBuckets (h.samples ++ [x])
      rw [add_of_autoRange_fill K hm hn]
      exact ⟨rfl, Or.inr ⟨rfl, hwf.1, hwf.2, by dsimp only; rw [hb]⟩⟩
    · rw [add_of_autoRange_collect K hm hn]
      exact ⟨rfl, Or.inl ⟨hm, hb, rfl, by simp; omega⟩⟩
  · rw [add_of_histogram K hm]
    exact ⟨rfl, Or.inr ⟨hm, hmin, htile, by rw [addHistogram_buckets, hb, bucketsAfter_append]; rfl⟩⟩

theorem AutoRangeInv.clear {N : Nat} {h : Histogram} {xs : List ℚ} (hi : AutoRangeInv K N h xs) :
    AutoRangeInv K N h.clear [] := by
  have hz : h.clear.buckets = List.replicate N 0 := by
    rw [clear_buckets, List.map_const', h.buckets_length, hi.1]
  obtain ⟨rfl, ⟨hm, -, -, -⟩ | ⟨hm, hmin, htile, -⟩⟩ := hi
  · exact ⟨rfl, Or.inl ⟨hm, hz, by simp [hm], by simpa using Nat.zero_lt_of_lt h.two_lt_numBuckets⟩⟩
  · exact ⟨rfl, Or.inr ⟨hm, hmin, htile, hz⟩⟩

/-- A histogram in `HISTOGRAM` mode stays there, with the same range. -/
theorem run_of_histogram {h : Histogram} (hm : h.mode = .histogram) (ops : List Op) :
    (run K h ops).mode = .histogram ∧ (run K h ops).startMs = h.startMs ∧
      (run K h ops).bucketDtMs = h.bucketDtMs ∧ (run K h ops).endMs = h.endMs := by
  induction ops generalizing h with
  | nil => exact ⟨hm, rfl, rfl, rfl⟩
  | cons op ops ih =>
    cases op with
    | add x =>
      have := ih (h := h.add K x) (by rw [add_of_histogram K hm]; exact hm)
      simpa [add_of_histogram K hm] using this
    | clear => simpa using ih (h := h.clear) hm

open scoped UInt32.CommRing in
/-- Three `Add`s on `Histogram(0, 0, 1)`, an auto-ranging histogram of three buckets: the
third fills the buffer, and then `count_` is `4` while the buckets hold `3` samples. -/
theorem autoRange_fill_counts_last_sample_twice :
    (run K (new K 0 0 1 false) [.add 1, .add 2, .add 3]).mode = .histogram ∧
      (run K (new K 0 0 1 false) [.add 1, .add 2, .add 3]).count = 4 ∧
      (run K (new K 0 0 1 false) [.add 1, .add 2, .add 3]).buckets.sum = 3 := by
  simp (disch := simp [new]) only [run_cons, apply_add, run_nil, add_of_autoRange_collect K,
    add_of_autoRange_fill K]
  refine ⟨trivial, rfl, ?_⟩
  rw [sum_bucketsAfter (new K 0 0 1 false).buckets_length
    (Nat.zero_lt_of_lt (new K 0 0 1 false).two_lt_numBuckets)]
  simp [new]

/-- From zeroed counts, a `HISTOGRAM`-mode run counts and buckets exactly the samples added
since the last `Clear`. -/
theorem run_histogram_counts {h : Histogram} (hm : h.mode = .histogram)
    (hb : h.buckets = List.replicate h.numBuckets 0) (hc : h.count = 0) (ops : List Op) :
    (run K h ops).count = (samplesSinceClear ops).length ∧
      (run K h ops).buckets = bucketsAfter h.startMs h.bucketDtMs h.numBuckets
        (List.replicate h.numBuckets 0) (samplesSinceClear ops) := by
  induction ops using List.reverseRecOn with
  | nil => exact ⟨hc, hb⟩
  | append_singleton ops op ih =>
    obtain ⟨hm', hs', hw', -⟩ := run_of_histogram hm ops
    rw [run_concat]
    cases op with
    | add x =>
      rw [apply_add, add_of_histogram K hm', samplesSinceClear_concat_add, addHistogram_count,
        addHistogram_buckets, ih.1, ih.2, bucketsAfter_append, hs', hw', run_numBuckets]
      exact ⟨by simp, rfl⟩
    | clear =>
      rw [apply_clear, samplesSinceClear_concat_clear, clear_count, clear_buckets, List.map_const',
        (run K h ops).buckets_length, run_numBuckets]
      exact ⟨rfl, rfl⟩

/-- A histogram constructed with a fixed range (`never_bucket` unset, `start_ms < end_ms`) stays
in `HISTOGRAM` mode with buckets of positive width. When every sample added has a quotient less
than `INT_MAX` in size, each `Add` converts it to a defined `int` index. After any run of `Add`
and `Clear`, `count_` is the number of samples added since the last `Clear`, the buckets hold
each of them once, at its bucket index, and they sum to `count_` modulo `2^32`. -/
theorem fixedRange_run (startMs endMs : ℚ) (nbb : Int) (ops : List Op) (hwidth : startMs < endMs)
    (hq : ∀ x, Op.add x ∈ ops →
      |(x - startMs) / (new K startMs endMs nbb false).bucketDtMs| < 2 ^ 31 - 1) :
    (run K (new K startMs endMs nbb false) ops).mode = .histogram ∧
      0 < (new K startMs endMs nbb false).bucketDtMs ∧
      (∀ x, Op.add x ∈ ops → IndexInInt startMs (new K startMs endMs nbb false).bucketDtMs x) ∧
      (run K (new K startMs endMs nbb false) ops).count = (samplesSinceClear ops).length ∧
      (run K (new K startMs endMs nbb false) ops).buckets =
        bucketsAfter startMs (new K startMs endMs nbb false).bucketDtMs
          (new K startMs endMs nbb false).numBuckets
          (List.replicate (new K startMs endMs nbb false).numBuckets 0) (samplesSinceClear ops) ∧
      (run K (new K startMs endMs nbb false) ops).buckets.sum = (samplesSinceClear ops).length := by
  have hm : (new K startMs endMs nbb false).mode = .histogram := by
    simp [new, show ¬(startMs = 0 ∧ endMs = 0) from fun h => by linarith [h.1, h.2]]
  have hw : 0 < (new K startMs endMs nbb false).bucketDtMs := by
    simp only [new]
    split
    · simpa using hwidth
    · exact div_pos (by linarith) (by exact_mod_cast (by omega : (0 : Int) < nbb))
  obtain ⟨hc, hb⟩ := run_histogram_counts hm rfl rfl ops
  refine ⟨(run_of_histogram hm ops).1, hw, fun x hx => indexInInt_of_abs_lt (hq x hx), hc, hb, ?_⟩
  have hn := (new K startMs endMs nbb false).two_lt_numBuckets
  rw [hb, sum_bucketsAfter (List.length_replicate _ _) (by omega)]
  simp

theorem fixedRange_run_scenario :
    (0 : ℚ) < 20 ∧
      (∀ x, Op.add x ∈ [.add 1, .clear, .add 3, .add 25] →
        |(x - 0) / (new Consts.example 0 20 5 false).bucketDtMs| < 2 ^ 31 - 1) ∧
      (run Consts.example (new Consts.example 0 20 5 false) [.add 1, .clear, .add 3, .add 25]).count = 2 :=
  have hq : ∀ x, Op.add x ∈ [.add 1, .clear, .add 3, .add 25] →
      |(x - 0) / (new Consts.example 0 20 5 false).bucketDtMs| < 2 ^ 31 - 1 := by
    intro x hx
    simp only [List.mem_cons, Op.add.injEq, reduceCtorEq, List.not_mem_nil, or_false, false_or] at hx
    rcases hx with rfl | rfl | rfl <;> norm_num [new, abs_div]
  ⟨by norm_num, hq,
    (fixedRange_run (K := Consts.example) 0 20 5 [.add 1, .clear, .add 3, .add 25] (by norm_num) hq).2.2.2.1⟩

end TuningFork.Histogram
