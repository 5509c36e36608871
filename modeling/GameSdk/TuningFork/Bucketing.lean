import GameSdk.TuningFork.Histogram

/-!
# Bucket choice and bucket arithmetic

Where `Add` counts a sample in `HISTOGRAM` mode, and how bucket arrays combine. The
index is the quotient `(dt_ms - start_ms_) / bucket_dt_ms_` truncated toward zero, so a
sample less than one bucket width below `start_ms_` shares bucket `1` with the first
in-range bucket; only samples at or below `start_ms_ - bucket_dt_ms_` reach bucket `0`.

`AddCounts` adds arrays pointwise, modulo `2^32`, and bucketing maps the concatenation of
two sample runs to that addition, in either order.
-/

namespace TuningFork.Histogram

variable (K : Consts)

theorem truncate_neg_iff (q : ℚ) : truncate q < 0 ↔ q ≤ -1 := by
  unfold truncate
  split
  · rw [show ⌈q⌉ < 0 ↔ ⌈q⌉ ≤ -1 by omega, Int.ceil_le]
    norm_num
  · have : 0 ≤ ⌊q⌋ := Int.floor_nonneg.mpr (by linarith)
    constructor <;> intro h <;> linarith

theorem truncate_of_nonneg {q : ℚ} (hq : 0 ≤ q) : truncate q = ⌊q⌋ := by
  simp [truncate, not_lt.mpr hq]

theorem truncate_eq_zero {q : ℚ} (h₁ : -1 < q) (h₂ : q < 1) : truncate q = 0 := by
  unfold truncate
  split
  · exact Int.ceil_eq_iff.mpr ⟨by norm_num; linarith, by norm_num; linarith⟩
  · exact Int.floor_eq_iff.mpr ⟨by norm_num; linarith, by norm_num; linarith⟩

/-- A quotient less than `INT_MAX` in size truncates to an `int` index that `i + 1` does not
overflow. -/
theorem indexInInt_of_abs_lt {s w x : ℚ} (h : |(x - s) / w| < 2 ^ 31 - 1) : IndexInInt s w x := by
  obtain ⟨h₁, h₂⟩ := abs_lt.mp h
  unfold IndexInInt truncate
  split
  next hq =>
    have hc : ⌈(x - s) / w⌉ ≤ 0 := Int.ceil_le.mpr (by rw [Int.cast_zero]; exact hq.le)
    have hl : -2 ^ 31 - 1 < ⌈(x - s) / w⌉ := Int.lt_ceil.mpr (lt_of_le_of_lt (by norm_num) h₁)
    omega
  next hq =>
    have hf : ⌊(x - s) / w⌋ < 2 ^ 31 - 1 := Int.floor_lt.mpr (by exact_mod_cast h₂)
    have h0 : 0 ≤ ⌊(x - s) / w⌋ := Int.floor_nonneg.mpr (not_lt.mp hq)
    omega

section Index

variable {s w : ℚ} {n : Nat} {x : ℚ}

theorem bucketIndex_lt (hn : 0 < n) : bucketIndex s w n x < n := by
  dsimp only [bucketIndex]
  split
  · exact hn
  · split <;> omega

/-- At or below one width under the start: the underflow bucket. -/
theorem bucketIndex_of_le (hw : 0 < w) (hx : x ≤ s - w) : bucketIndex s w n x = 0 := by
  have : truncate ((x - s) / w) < 0 :=
    (truncate_neg_iff _).mpr (by rw [div_le_iff₀ hw]; linarith)
  simp [bucketIndex, this]

/-- Within one width under the start: bucket `1`, as for the first in-range width. -/
theorem bucketIndex_of_near_start (hw : 0 < w) (hn : 2 < n) (hx₁ : s - w < x) (hx₂ : x < s + w) :
    bucketIndex s w n x = 1 := by
  have : truncate ((x - s) / w) = 0 :=
    truncate_eq_zero (by rw [lt_div_iff₀ hw]; linarith) (by rw [div_lt_iff₀ hw]; linarith)
  simp only [bucketIndex, this]
  split <;> [omega; (split <;> [omega; rfl])]

/-- From the start on: the floor of the quotient, shifted past the underflow bucket and
clamped to the overflow bucket. -/
theorem bucketIndex_of_ge (hw : 0 < w) (hx : s ≤ x) :
    bucketIndex s w n x = min (⌊(x - s) / w⌋.toNat + 1) (n - 1) := by
  have hq : 0 ≤ (x - s) / w := div_nonneg (by linarith) hw.le
  have h0 : 0 ≤ ⌊(x - s) / w⌋ := Int.floor_nonneg.mpr hq
  simp only [bucketIndex, truncate_of_nonneg hq, not_lt.mpr h0, if_false]
  split <;> omega

end Index

/-- In `HISTOGRAM` mode with buckets of positive width, and a sample whose quotient
`(x - start_ms_) / bucket_dt_ms_` is less than `INT_MAX` in size, the conversion to `int` and
`i + 1` are defined, and `Add(x)` counts `x` once, in the bucket the truncated quotient gives:
`0` at or below one width under `start_ms_`, `1` within one width of it on either side, and from
`start_ms_` on the floor of the quotient plus one, clamped to the overflow bucket. -/
theorem add_histogram_bucket {h : Histogram} (hm : h.mode = .histogram) (hw : 0 < h.bucketDtMs)
    {x : ℚ} (hx : |(x - h.startMs) / h.bucketDtMs| < 2 ^ 31 - 1) :
    IndexInInt h.startMs h.bucketDtMs x ∧ (h.add K x).count = h.count + 1 ∧
      ∃ i, (h.add K x).buckets = h.buckets.modify (· + 1) i ∧ i < h.numBuckets ∧
        (x ≤ h.startMs - h.bucketDtMs → i = 0) ∧
        (h.startMs - h.bucketDtMs < x → x < h.startMs + h.bucketDtMs → i = 1) ∧
        (h.startMs ≤ x → i = min (⌊(x - h.startMs) / h.bucketDtMs⌋.toNat + 1) (h.numBuckets - 1)) := by
  rw [add_of_histogram K hm]
  exact ⟨indexInInt_of_abs_lt hx, rfl, _, rfl,
    bucketIndex_lt (by have := h.two_lt_numBuckets; omega), bucketIndex_of_le hw,
    bucketIndex_of_near_start hw h.two_lt_numBuckets, bucketIndex_of_ge hw⟩

theorem add_histogram_bucket_scenario :
    (new Consts.example 0 20 5 false).mode = .histogram ∧ 0 < (new Consts.example 0 20 5 false).bucketDtMs ∧
      |(-1 - (new Consts.example 0 20 5 false).startMs) / (new Consts.example 0 20 5 false).bucketDtMs| <
        2 ^ 31 - 1 ∧
      ((new Consts.example 0 20 5 false).add Consts.example (-1)).count = 1 := by
  have hm : (new Consts.example 0 20 5 false).mode = .histogram := by simp [new]
  have hw : 0 < (new Consts.example 0 20 5 false).bucketDtMs := by simp [new]
  have hx : |(-1 - (new Consts.example 0 20 5 false).startMs) /
      (new Consts.example 0 20 5 false).bucketDtMs| < 2 ^ 31 - 1 := by
    norm_num [new, abs_div]
  exact ⟨hm, hw, hx, (add_histogram_bucket Consts.example hm hw hx).2.1⟩

/-- `Histogram(0, 20, 5)` after one `Add`: seven buckets of width `4` from `0`. -/
theorem new_0_20_5_add (x : ℚ) :
    let h := (new K 0 20 5 false).add K x
    h.mode = .histogram ∧
      h.buckets = (List.replicate 7 0).modify (· + 1) (bucketIndex 0 4 7 x) ∧
      h.toDebugJSON = .histogram [0, 4, 8, 12, 16, 20, 99999] h.buckets := by
  have hm : (new K 0 20 5 false).mode = .histogram := by simp [new]
  have hb : ((new K 0 20 5 false).add K x).buckets =
      (List.replicate 7 0).modify (· + 1) (bucketIndex 0 4 7 x) := by
    rw [add_of_histogram K hm, addHistogram_buckets]
    norm_num [new]
    rfl
  refine ⟨by rw [add_of_histogram K hm]; exact hm, hb, ?_⟩
  rw [toDebugJSON, add_of_histogram K hm]
  norm_num [new, pmaxFrom]

/-- `Add` at `-1` on `Histogram(0, 20, 5)`: the sample lies below `start_ms_ = 0`, yet it is
counted in bucket `1`, whose bounds in `ToDebugJSON` are `[0, 4)`. -/
theorem add_below_start_counted_in_first_range_bucket :
    ((new K 0 20 5 false).add K (-1)).buckets = [0, 1, 0, 0, 0, 0, 0] ∧
      ((new K 0 20 5 false).add K (-1)).toDebugJSON =
        .histogram [0, 4, 8, 12, 16, 20, 99999] [0, 1, 0, 0, 0, 0, 0] := by
  have hi : bucketIndex 0 4 7 (-1) = 1 := bucketIndex_of_near_start (by norm_num) (by norm_num)
    (by norm_num) (by norm_num)
  obtain ⟨-, hb, hj⟩ := new_0_20_5_add K (-1)
  rw [hi] at hb
  exact ⟨hb, by rw [hj, hb]; rfl⟩

theorem modify_succ_zipWith_add (b c : List UInt32) (i : Nat) :
    (List.zipWith (· + ·) b c).modify (· + 1) i = List.zipWith (· + ·) (b.modify (· + 1) i) c := by
  induction b generalizing c i with
  | nil => simp
  | cons a b ih =>
    cases c with
    | nil => simp
    | cons d c =>
      cases i with
      | zero => simp [add_right_comm]
      | succ i => simp [ih]

theorem modify_succ_comm (b : List UInt32) (i j : Nat) :
    (b.modify (· + 1) i).modify (· + 1) j = (b.modify (· + 1) j).modify (· + 1) i := by
  by_cases hij : i = j
  · rw [hij]
  · exact List.modify_modify_ne _ _ _ hij

theorem bucketsAfter_append (s w : ℚ) (n : Nat) (b : List UInt32) (xs ys : List ℚ) :
    bucketsAfter s w n b (xs ++ ys) = bucketsAfter s w n (bucketsAfter s w n b xs) ys :=
  List.foldl_append _ _ _ _

theorem bucketsAfter_modify (s w : ℚ) (n : Nat) (b : List UInt32) (i : Nat) (xs : List ℚ) :
    bucketsAfter s w n (b.modify (· + 1) i) xs = (bucketsAfter s w n b xs).modify (· + 1) i := by
  induction xs generalizing b with
  | nil => rfl
  | cons x xs ih =>
    show bucketsAfter s w n ((b.modify (· + 1) i).modify (· + 1) _) xs = _
    rw [modify_succ_comm, ih]
    rfl

/-- Feeding samples commutes with adding a fixed array of counts. -/
theorem bucketsAfter_zipWith_add (s w : ℚ) (n : Nat) (b c : List UInt32) (xs : List ℚ) :
    bucketsAfter s w n (List.zipWith (· + ·) b c) xs =
      List.zipWith (· + ·) (bucketsAfter s w n b xs) c := by
  induction xs generalizing b with
  | nil => rfl
  | cons x xs ih =>
    show bucketsAfter s w n ((List.zipWith (· + ·) b c).modify (· + 1) _) xs = _
    rw [modify_succ_zipWith_add, ih]
    rfl

/-- The buckets do not depend on the order of two sample runs. -/
theorem bucketsAfter_append_comm (s w : ℚ) (n : Nat) (b : List UInt32) (xs ys : List ℚ) :
    bucketsAfter s w n b (xs ++ ys) = bucketsAfter s w n b (ys ++ xs) := by
  induction xs generalizing b with
  | nil => simp
  | cons x xs ih =>
    have step : ∀ b zs, bucketsAfter s w n b (x :: zs) =
        (bucketsAfter s w n b zs).modify (· + 1) (bucketIndex s w n x) :=
      fun b zs => bucketsAfter_modify s w n b _ zs
    rw [List.cons_append, step, ih, bucketsAfter_append s w n b ys xs,
      bucketsAfter_append s w n b ys (x :: xs), step]

section Sum

open scoped UInt32.CommRing

theorem sum_modify_succ {b : List UInt32} {i : Nat} (hi : i < b.length) :
    (b.modify (· + 1) i).sum = b.sum + 1 := by
  induction b generalizing i with
  | nil => simp at hi
  | cons a b ih =>
    cases i with
    | zero => simp [add_right_comm]
    | succ i => simp [ih (by simpa using hi), add_assoc]

/-- Each sample adds one count, modulo `2^32`. -/
theorem sum_bucketsAfter {s w : ℚ} {n : Nat} {b : List UInt32} (hb : b.length = n) (hn : 0 < n)
    (xs : List ℚ) : (bucketsAfter s w n b xs).sum = b.sum + xs.length := by
  induction xs generalizing b with
  | nil => simp [bucketsAfter]
  | cons x xs ih =>
    have hi : bucketIndex s w n x < b.length := hb.symm ▸ bucketIndex_lt hn
    show (bucketsAfter s w n (b.modify (· + 1) _) xs).sum = _
    rw [ih (by rw [List.length_modify, hb]), sum_modify_succ hi, List.length_cons, Nat.cast_succ]
    ring

end Sum

theorem run_adds_of_histogram {h : Histogram} (hm : h.mode = .histogram) (xs : List ℚ) :
    run K h (xs.map .add) = xs.foldl addHistogram h := by
  induction xs generalizing h with
  | nil => rfl
  | cons x xs ih =>
    rw [List.map_cons, List.foldl_cons, ← ih (by rwa [addHistogram_mode])]
    simp [run, add_of_histogram K hm]

theorem run_adds_buckets {h : Histogram} (hm : h.mode = .histogram) (xs : List ℚ) :
    (run K h (xs.map .add)).buckets =
      bucketsAfter h.startMs h.bucketDtMs h.numBuckets h.buckets xs := by
  rw [run_adds_of_histogram K hm, foldl_addHistogram]

theorem addCounts_of_length_ne {h : Histogram} {c : List UInt32} (hc : c.length ≠ h.numBuckets) :
    h.addCounts c = (.badParameter, h) := by
  simp [addCounts, h.buckets_length, hc]

theorem addCounts_of_length_eq {h : Histogram} {c : List UInt32} (hc : c.length = h.numBuckets) :
    h.addCounts c = (.ok, { h with
      buckets := List.zipWith (· + ·) h.buckets c
      buckets_length := by rw [List.length_zipWith, hc, h.buckets_length, min_self] }) := by
  simp [addCounts, h.buckets_length, hc]

/-- `AddCounts` rejects a vector of the wrong length and changes nothing; otherwise it adds
the vector bucket by bucket (modulo `2^32`) and changes nothing else. Merging the buckets of
a second histogram with the same geometry gives what feeding both sample runs to the first
gives, in either order, plus the counts the second held before its run. -/
theorem addCounts_merge (h : Histogram) (c : List UInt32) (h₁ h₂ : Histogram) (xs ys : List ℚ) :
    (c.length ≠ h.numBuckets → h.addCounts c = (.badParameter, h)) ∧
    (∀ hc : c.length = h.numBuckets, h.addCounts c = (.ok, { h with
      buckets := List.zipWith (· + ·) h.buckets c
      buckets_length := by rw [List.length_zipWith, hc, h.buckets_length, min_self] })) ∧
    (h₁.mode = .histogram → h₂.mode = .histogram → h₁.startMs = h₂.startMs →
      h₁.bucketDtMs = h₂.bucketDtMs → h₁.numBuckets = h₂.numBuckets →
      let r := (run K h₁ (xs.map .add)).addCounts (run K h₂ (ys.map .add)).buckets
      r.1 = .ok ∧
      r.2.buckets = List.zipWith (· + ·) (run K h₁ ((xs ++ ys).map .add)).buckets h₂.buckets ∧
      r.2.buckets = List.zipWith (· + ·) (run K h₁ ((ys ++ xs).map .add)).buckets h₂.buckets) := by
  refine ⟨addCounts_of_length_ne, fun hc => addCounts_of_length_eq hc, ?_⟩
  intro hm₁ hm₂ hs hw hn
  have hlen : (run K h₂ (ys.map .add)).buckets.length = (run K h₁ (xs.map .add)).numBuckets := by
    rw [(run K h₂ _).buckets_length, run_numBuckets, run_numBuckets, hn]
  have merged : ((run K h₁ (xs.map .add)).addCounts (run K h₂ (ys.map .add)).buckets).2.buckets =
      List.zipWith (· + ·) (run K h₁ ((xs ++ ys).map .add)).buckets h₂.buckets := by
    rw [addCounts_of_length_eq hlen]
    dsimp only
    rw [run_adds_buckets K hm₁, run_adds_buckets K hm₂, run_adds_buckets K hm₁, ← hs, ← hw, ← hn]
    set A := bucketsAfter h₁.startMs h₁.bucketDtMs h₁.numBuckets h₁.buckets xs
    calc List.zipWith (· + ·) A (bucketsAfter h₁.startMs h₁.bucketDtMs h₁.numBuckets h₂.buckets ys)
        _ = List.zipWith (· + ·)
              (bucketsAfter h₁.startMs h₁.bucketDtMs h₁.numBuckets h₂.buckets ys) A :=
          List.zipWith_comm_of_comm _ add_comm _ _
        _ = bucketsAfter h₁.startMs h₁.bucketDtMs h₁.numBuckets
              (List.zipWith (· + ·) h₂.buckets A) ys := (bucketsAfter_zipWith_add ..).symm
        _ = bucketsAfter h₁.startMs h₁.bucketDtMs h₁.numBuckets
              (List.zipWith (· + ·) A h₂.buckets) ys := by
          rw [List.zipWith_comm_of_comm _ add_comm]
        _ = _ := by rw [bucketsAfter_zipWith_add, bucketsAfter_append]
  refine ⟨by rw [addCounts_of_length_eq hlen], merged, ?_⟩
  rw [merged, run_adds_buckets K hm₁, run_adds_buckets K hm₁, bucketsAfter_append_comm]

theorem addCounts_merge_scenario :
    let K := Consts.example
    let h := new K 0 20 5 false
    let r := (run K h (([1] : List ℚ).map .add)).addCounts (run K h (([-1] : List ℚ).map .add)).buckets
    h.mode = .histogram ∧ r.1 = .ok ∧
      r.2.buckets = List.zipWith (· + ·) (run K h (([1] ++ [-1] : List ℚ).map .add)).buckets h.buckets :=
  have hm : (new Consts.example 0 20 5 false).mode = .histogram := by simp [new]
  have hr := (addCounts_merge Consts.example (new Consts.example 0 20 5 false) []
    (new Consts.example 0 20 5 false) (new Consts.example 0 20 5 false) [1] [-1]).2.2 hm hm rfl rfl rfl
  ⟨hm, hr.1, hr.2.1⟩

/-- Without the second histogram's earlier counts the merge law fails: merging a histogram
that already holds a sample into an equal one counts that sample twice. -/
theorem addCounts_merge_counts_earlier_samples :
    ¬ ∀ (h₁ h₂ : Histogram) (xs ys : List ℚ), h₁.mode = .histogram → h₂.mode = .histogram →
      h₁.startMs = h₂.startMs → h₁.bucketDtMs = h₂.bucketDtMs → h₁.numBuckets = h₂.numBuckets →
      ((run Consts.example h₁ (xs.map .add)).addCounts
          (run Consts.example h₂ (ys.map .add)).buckets).2.buckets =
        (run Consts.example h₁ ((xs ++ ys).map .add)).buckets := by
  intro H
  obtain ⟨hm, hb, -⟩ := new_0_20_5_add Consts.example 1
  have hi : bucketIndex 0 4 7 1 = 1 := by
    rw [bucketIndex_of_ge (by norm_num) (by norm_num)]
    norm_num
  have := H _ _ [] [] hm hm rfl rfl rfl
  simp only [List.map_nil, run_nil, List.append_nil] at this
  rw [addCounts_of_length_eq (by rw [(Histogram.add _ _ _).buckets_length])] at this
  dsimp only at this
  rw [hb, hi] at this
  revert this
  decide

end TuningFork.Histogram
