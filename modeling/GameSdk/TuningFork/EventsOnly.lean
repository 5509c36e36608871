import GameSdk.TuningFork.Histogram

/-!
# Event rings

A histogram built with `never_bucket` keeps raw samples in a ring of `num_buckets_` slots:
`Add` writes at `next_event_index_` and advances it, wrapping to zero, and `Clear` zeroes the
ring and rewinds the index. After any run the index is the number of samples since the last
`Clear` modulo the ring size, and each slot holds the latest of those samples whose position
is congruent to it, or zero.
-/

namespace TuningFork.Histogram

variable {K : Consts}

/-- Slot `j` of a ring of `N` slots, after `xs` were written in order from slot `0`, holds
`v`: the latest `xs[i]` with `i ≡ j (mod N)`, or `0` when none was written there. -/
def SlotHolds (N : Nat) (xs : List ℚ) (j : Nat) (v : Option ℚ) : Prop :=
  (∃ i < xs.length, i % N = j ∧ (∀ i' < xs.length, i' % N = j → i' ≤ i) ∧ v = xs[i]?) ∨
  ((∀ i < xs.length, i % N ≠ j) ∧ v = some 0)

/-- A write at the next position `xs.length % N` leaves the other slots as they were. -/
theorem SlotHolds.concat_ne {N j : Nat} {xs : List ℚ} {v : Option ℚ} (hs : SlotHolds N xs j v)
    (x : ℚ) (hj : xs.length % N ≠ j) : SlotHolds N (xs ++ [x]) j v := by
  have below : ∀ i < (xs ++ [x]).length, i % N = j → i < xs.length := fun i hi hij => by
    simp only [List.length_append, List.length_singleton] at hi
    rcases Nat.lt_succ_iff_lt_or_eq.mp hi with hi | rfl
    · exact hi
    · exact absurd hij hj
  rcases hs with ⟨i, hi, hij, hmax, rfl⟩ | ⟨hnone, rfl⟩
  · refine Or.inl ⟨i, by simp; omega, hij, fun i' hi' h' => hmax i' (below i' hi' h') h', ?_⟩
    rw [List.getElem?_append_left hi]
  · exact Or.inr ⟨fun i hi h' => hnone i (below i hi h') h', rfl⟩

theorem SlotHolds.concat_eq (N : Nat) (xs : List ℚ) (x : ℚ) :
    SlotHolds N (xs ++ [x]) (xs.length % N) (some x) :=
  Or.inl ⟨xs.length, by simp, rfl, fun i' hi' _ => by simp at hi'; omega,
    (List.getElem?_concat_length xs x).symm⟩

theorem SlotHolds.nil (N j : Nat) : SlotHolds N [] j (some 0) :=
  Or.inr ⟨fun _ hi => absurd hi (Nat.not_lt_zero _), rfl⟩

theorem succ_mod_eq_ite {N : Nat} (hN : 1 < N) (k : Nat) :
    (k + 1) % N = if k % N + 1 ≥ N then 0 else k % N + 1 := by
  have hk : k % N < N := Nat.mod_lt _ (by omega)
  rw [Nat.add_mod, Nat.mod_eq_of_lt hN]
  split
  · rw [show k % N + 1 = N by omega, Nat.mod_self]
  · exact Nat.mod_eq_of_lt (by omega)

/-- What an event ring of `N` slots holds when `xs` are the samples since the last `Clear`. -/
def EventsInv (N : Nat) (h : Histogram) (xs : List ℚ) : Prop :=
  h.mode = .eventsOnly ∧ h.numBuckets = N ∧ h.samples.length = N ∧
    h.nextEventIndex = xs.length % N ∧ h.count = xs.length ∧
    ∀ j < N, SlotHolds N xs j h.samples[j]?

theorem EventsInv.add {N : Nat} {h : Histogram} {xs : List ℚ} (hi : EventsInv N h xs) (x : ℚ) :
    EventsInv N (h.add K x) (xs ++ [x]) := by
  obtain ⟨hm, rfl, hl, hn, hc, hs⟩ := hi
  have h1 : 1 < h.numBuckets := by have := h.two_lt_numBuckets; omega
  rw [add_of_eventsOnly K hm]
  refine ⟨hm, rfl, by simp [hl], ?_, by simp [hc], fun j hj => ?_⟩
  · simp only [hn, hl, List.length_append, List.length_singleton]
    exact (succ_mod_eq_ite h1 _).symm
  · show SlotHolds _ _ j (h.samples.set h.nextEventIndex x)[j]?
    by_cases hj' : xs.length % h.numBuckets = j
    · rw [hn, hj', List.getElem?_set_self (by omega), ← hj']
      exact SlotHolds.concat_eq _ xs x
    · rw [List.getElem?_set_ne (by rw [hn]; exact hj')]
      exact (hs j hj).concat_ne x hj'

theorem EventsInv.clear {N : Nat} {h : Histogram} {xs : List ℚ} (hi : EventsInv N h xs) :
    EventsInv N h.clear [] := by
  obtain ⟨hm, hN, hl, -, -, -⟩ := hi
  refine ⟨hm, hN, by simp [hm, hl], by simp [hm], rfl, fun j hj => ?_⟩
  have : h.clear.samples[j]? = some 0 := by simp [hm, hl, hj, List.getElem?_eq_getElem]
  exact this ▸ SlotHolds.nil N j

theorem new_eventsInv (startMs endMs : ℚ) (nbb : Int) :
    EventsInv (new K startMs endMs nbb true).numBuckets (new K startMs endMs nbb true) [] := by
  refine ⟨by simp [new], rfl, by simp [new], by simp [new], rfl, fun j hj => ?_⟩
  have : (new K startMs endMs nbb true).samples[j]? = some 0 := by
    simp only [new] at hj ⊢
    simp [hj, List.getElem?_replicate]
  exact this ▸ SlotHolds.nil _ j

/-- For a histogram that never buckets, after any run of `Add` and `Clear` the write index is
the number `k` of samples since the last `Clear` modulo the ring size `N`, `count_` is `k`,
the ring keeps its size, and each slot holds the latest of those samples at a position
congruent to it, or `0`: the ring holds exactly the last `min k N` samples. -/
theorem eventsOnly_run (startMs endMs : ℚ) (nbb : Int) (ops : List Op) :
    let h₀ := new K startMs endMs nbb true
    let N := h₀.numBuckets
    let h := run K h₀ ops
    let xs := samplesSinceClear ops
    h.nextEventIndex = xs.length % N ∧ h.nextEventIndex < N ∧ h.count = xs.length ∧
      h.samples.length = N ∧ ∀ j < N, SlotHolds N xs j h.samples[j]? := by
  have hi : EventsInv (new K startMs endMs nbb true).numBuckets
      (run K (new K startMs endMs nbb true) ops) (samplesSinceClear ops) := by
    induction ops using List.reverseRecOn with
    | nil => exact new_eventsInv startMs endMs nbb
    | append_singleton ops op ih =>
      rw [run_concat]
      cases op with
      | add x => rw [samplesSinceClear_concat_add]; exact ih.add x
      | clear => rw [samplesSinceClear_concat_clear]; exact ih.clear
  obtain ⟨-, -, hl, hn, hc, hs⟩ := hi
  exact ⟨hn, hn ▸ Nat.mod_lt _ (by have := (new K startMs endMs nbb true).two_lt_numBuckets; omega),
    hc, hl, hs⟩

end TuningFork.Histogram
