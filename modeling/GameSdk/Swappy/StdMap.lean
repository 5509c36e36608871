import Mathlib.Order.Basic

/-!
# `std::map` over handles

SwappyVk keys its maps by Vulkan handles and pointers, which `std::map` orders as
integers. A map is its list of entries in increasing key order, so `begin()` is the least
key. `operator[]` inserts a default value for a missing key and `find` does not.
-/

namespace Swappy

/-- `std::map<K, V>` for integer-ordered keys: its entries, in increasing key order. -/
structure StdMap (V : Type) where
  entries : List (Nat × V)
  sorted : entries.Pairwise (fun a b => a.1 < b.1)

namespace StdMap

variable {V W : Type}

def empty : StdMap V := ⟨[], List.Pairwise.nil⟩

def insertSorted (k : Nat) (v : V) : List (Nat × V) → List (Nat × V)
  | [] => [(k, v)]
  | e :: es => if k < e.1 then (k, v) :: e :: es
    else if k = e.1 then (k, v) :: es else e :: insertSorted k v es

theorem mem_insertSorted_of_mem {k : Nat} {v : V} {es : List (Nat × V)} {e : Nat × V}
    (he : e ∈ insertSorted k v es) : e = (k, v) ∨ e ∈ es := by
  induction es with
  | nil => simpa [insertSorted] using he
  | cons a es ih =>
    unfold insertSorted at he
    split at he
    · simpa using he
    · split at he
      · exact (List.mem_cons.mp he).imp_right (List.mem_cons_of_mem _)
      · rcases List.mem_cons.mp he with rfl | h
        · exact Or.inr (List.mem_cons_self _ _)
        · exact (ih h).imp_right (List.mem_cons_of_mem _)

theorem insertSorted_sorted (k : Nat) (v : V) {es : List (Nat × V)}
    (hs : es.Pairwise (fun a b => a.1 < b.1)) :
    (insertSorted k v es).Pairwise (fun a b => a.1 < b.1) := by
  induction es with
  | nil => simp [insertSorted]
  | cons a es ih =>
    rw [List.pairwise_cons] at hs
    unfold insertSorted
    split
    next hlt =>
      refine List.Pairwise.cons (fun b hb => ?_) (List.Pairwise.cons hs.1 hs.2)
      rcases List.mem_cons.mp hb with rfl | hb
      · exact hlt
      · exact Nat.lt_trans hlt (hs.1 b hb)
    next hge =>
      split
      next heq => exact List.Pairwise.cons (fun b hb => heq ▸ hs.1 b hb) hs.2
      next hne =>
        refine List.Pairwise.cons (fun b hb => ?_) (ih hs.2)
        rcases mem_insertSorted_of_mem hb with rfl | hb
        · show a.1 < k; omega
        · exact hs.1 b hb

/-- `m[k] = v`. -/
def assign (m : StdMap V) (k : Nat) (v : V) : StdMap V :=
  ⟨insertSorted k v m.entries, insertSorted_sorted k v m.sorted⟩

/-- `find`: the value at `k`, when the key is present. -/
def find (m : StdMap V) (k : Nat) : Option V := m.entries.lookup k

/-- `operator[]`: the value at `k`, inserting `d` there when the key is absent. -/
def subscript (m : StdMap V) (k : Nat) (d : V) : V × StdMap V :=
  match m.find k with
  | some v => (v, m)
  | none => (d, m.assign k d)

/-- `erase(k)`. -/
def erase (m : StdMap V) (k : Nat) : StdMap V :=
  ⟨m.entries.filter (fun e => e.1 != k), m.sorted.filter _⟩

/-- Apply `f` to every value, in key order. -/
def mapValues (f : V → W) (m : StdMap V) : StdMap W :=
  ⟨m.entries.map (fun e => (e.1, f e.2)), List.pairwise_map.mpr (m.sorted.imp id)⟩

/-- The map restricted to the entries that satisfy `p`. -/
def restrict (m : StdMap V) (p : Nat × V → Bool) : StdMap V :=
  ⟨m.entries.filter p, m.sorted.filter _⟩

theorem lookup_cons (k : Nat) (e : Nat × V) (es : List (Nat × V)) :
    (e :: es).lookup k = if k = e.1 then some e.2 else es.lookup k := by
  obtain ⟨k', v⟩ := e
  rw [List.lookup_cons]
  by_cases h : k = k'
  · simp [h]
  · rw [show (k == k') = false from beq_false_of_ne h]
    simp [h]

theorem lookup_insertSorted (k' k : Nat) (v : V) (es : List (Nat × V)) :
    (insertSorted k v es).lookup k' = if k' = k then some v else es.lookup k' := by
  induction es with
  | nil => simp [insertSorted, lookup_cons]
  | cons e es ih =>
    unfold insertSorted
    split
    · simp only [lookup_cons]
    · split
      next heq => by_cases h : k' = k <;> simp [lookup_cons, h, ← heq]
      next hne =>
        rw [lookup_cons, ih, lookup_cons]
        by_cases h : k' = e.1
        · simp [h, Ne.symm hne]
        · simp [h]

theorem find_assign (m : StdMap V) (k' k : Nat) (v : V) :
    (m.assign k v).find k' = if k' = k then some v else m.find k' :=
  lookup_insertSorted k' k v m.entries

/-- `operator[]` changes no lookup of a key already present. -/
theorem find_subscript_of_find {m : StdMap V} {k k' : Nat} {v : V} (d : V)
    (h : m.find k' = some v) : (m.subscript k d).2.find k' = some v := by
  unfold subscript
  split
  · exact h
  next hk =>
    rw [find_assign, if_neg]
    · exact h
    · rintro rfl; rw [h] at hk; cases hk

theorem find_subscript_ne (m : StdMap V) {k k' : Nat} (d : V) (hk : k' ≠ k) :
    (m.subscript k d).2.find k' = m.find k' := by
  unfold subscript
  split <;> simp [find_assign, hk]

theorem subscript_of_find {m : StdMap V} {k : Nat} {v : V} (d : V) (h : m.find k = some v) :
    m.subscript k d = (v, m) := by
  simp [subscript, h]

theorem subscript_fst (m : StdMap V) (k : Nat) (d : V) : (m.subscript k d).1 = (m.find k).getD d := by
  unfold subscript
  split <;> simp [*]

theorem lookup_filter_key (k' k : Nat) (es : List (Nat × V)) :
    (es.filter (fun e => e.1 != k)).lookup k' = if k' = k then none else es.lookup k' := by
  induction es with
  | nil => simp
  | cons e es ih =>
    by_cases he : e.1 = k
    · rw [List.filter_cons_of_neg (by simpa using he), ih, lookup_cons]
      by_cases h : k' = k <;> simp [h, he]
    · rw [List.filter_cons_of_pos (by simpa using he), lookup_cons, ih, lookup_cons]
      by_cases h : k' = k
      · simp [h, Ne.symm he]
      · simp [h]

theorem filter_key_of_lookup_none {k : Nat} :
    ∀ {es : List (Nat × V)}, es.lookup k = none → es.filter (fun e => e.1 != k) = es
  | [], _ => rfl
  | e :: es, h => by
    rw [lookup_cons] at h
    split at h
    · cases h
    next hk =>
      rw [List.filter_cons_of_pos (by simpa using Ne.symm hk), filter_key_of_lookup_none h]

/-- Erasing a key that is not present changes nothing. -/
theorem erase_of_find_none {m : StdMap V} {k : Nat} (h : m.find k = none) : m.erase k = m := by
  obtain ⟨es, hs⟩ := m
  simp only [erase, StdMap.mk.injEq]
  exact filter_key_of_lookup_none h

theorem find_erase (m : StdMap V) (k' k : Nat) :
    (m.erase k).find k' = if k' = k then none else m.find k' :=
  lookup_filter_key k' k m.entries

theorem lookup_map_snd (f : V → W) (k : Nat) (es : List (Nat × V)) :
    (es.map fun e => (e.1, f e.2)).lookup k = (es.lookup k).map f := by
  induction es with
  | nil => rfl
  | cons e es ih =>
    rw [List.map_cons, lookup_cons, lookup_cons, ih]
    split <;> rfl

theorem find_mapValues (f : V → W) (m : StdMap V) (k : Nat) :
    (m.mapValues f).find k = (m.find k).map f :=
  lookup_map_snd f k m.entries

theorem mem_of_lookup {k : Nat} {v : V} :
    ∀ {es : List (Nat × V)}, es.lookup k = some v → (k, v) ∈ es
  | [], h => by cases h
  | e :: es, h => by
    rw [lookup_cons] at h
    split at h
    next hk => cases h; exact hk ▸ List.mem_cons_self _ _
    next => exact List.mem_cons_of_mem _ (mem_of_lookup h)

theorem mem_of_find {m : StdMap V} {k : Nat} {v : V} (h : m.find k = some v) : (k, v) ∈ m.entries :=
  mem_of_lookup h

/-- A second write at a key replaces the first. -/
theorem insertSorted_insertSorted (k : Nat) (v w : V) (es : List (Nat × V)) :
    insertSorted k v (insertSorted k w es) = insertSorted k v es := by
  induction es with
  | nil => simp [insertSorted]
  | cons e es ih =>
    by_cases hlt : k < e.1
    · simp [insertSorted, hlt]
    · by_cases heq : k = e.1
      · simp [insertSorted, heq]
      · simp [insertSorted, hlt, heq, ih]

/-- `m[k] = v` after `m[k]` gives what `m[k] = v` gives. -/
theorem assign_subscript_entries (m : StdMap V) (k : Nat) (d v : V) :
    ((m.subscript k d).2.assign k v).entries = (m.assign k v).entries := by
  unfold subscript
  split
  · rfl
  · exact insertSorted_insertSorted k v d m.entries

theorem mem_assign {m : StdMap V} {k : Nat} {v : V} {e : Nat × V} (he : e ∈ (m.assign k v).entries) :
    e = (k, v) ∨ e ∈ m.entries :=
  mem_insertSorted_of_mem he

theorem mem_subscript {m : StdMap V} {k : Nat} {d : V} {e : Nat × V}
    (he : e ∈ (m.subscript k d).2.entries) : e = (k, d) ∨ e ∈ m.entries := by
  unfold subscript at he
  split at he
  · exact Or.inr he
  · exact mem_assign he

theorem mem_erase {m : StdMap V} {k : Nat} {e : Nat × V} (he : e ∈ (m.erase k).entries) :
    e ∈ m.entries :=
  (List.mem_filter.mp he).1

theorem mem_mapValues {f : V → W} {m : StdMap V} {e : Nat × W} (he : e ∈ (m.mapValues f).entries) :
    ∃ v, (e.1, v) ∈ m.entries ∧ e.2 = f v := by
  obtain ⟨⟨k, v⟩, hv, rfl⟩ := List.mem_map.mp he
  exact ⟨v, hv, rfl⟩

end StdMap

end Swappy
