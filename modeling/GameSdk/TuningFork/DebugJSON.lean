import GameSdk.TuningFork.Histogram
import Mathlib.Data.List.Basic
import Mathlib.Data.Nat.Digits

/-!
# The text of `Histogram::ToDebugJSON`

The characters `ToDebugJSON` writes with `std::fixed` and `precision(2)`: a count as its
digits, a sample or a bound as its sign and its magnitude rounded to hundredths, a half to the
even neighbour. Samples are exact rationals, so the binary value of a `double` is not modelled.
The reader `parseDebugJSON` is not in the sources: it states what the text says, and reads back
from every histogram's text the values `toDebugJSON` prints.
-/

namespace TuningFork.Histogram

/-- The digits `operator<<` writes for an unsigned integer, most significant first. -/
def decimal (n : Nat) : List Char := Nat.toDigits 10 n

/-- The value of a run of decimal digits, read from the left. -/
def digitsValue (cs : List Char) : Nat := cs.foldl (fun acc c => 10 * acc + (c.toNat - 48)) 0

/-- A non-empty run of decimal digits, read as a number. -/
def parseDigits (cs : List Char) : Option Nat :=
  if cs ≠ [] ∧ cs.all Char.isDigit then some (digitsValue cs) else none

theorem digitChar_isDigit {d : Nat} (hd : d < 10) :
    (Nat.digitChar d).isDigit ∧ (Nat.digitChar d).toNat - 48 = d := by
  revert d
  decide

theorem digitsValue_concat (cs : List Char) (c : Char) :
    digitsValue (cs ++ [c]) = 10 * digitsValue cs + (c.toNat - 48) := by
  simp [digitsValue, List.foldl_append]

theorem toDigitsCore_spec (fuel n : Nat) (ds : List Char) (hn : n < fuel) :
    ∃ cs, Nat.toDigitsCore 10 fuel n ds = cs ++ ds ∧ cs ≠ [] ∧ cs.all Char.isDigit ∧
      digitsValue cs = n := by
  induction fuel generalizing n ds with
  | zero => omega
  | succ fuel ih =>
    obtain ⟨hdig, hval⟩ := digitChar_isDigit (Nat.mod_lt n (by decide : 10 > 0))
    by_cases h0 : n / 10 = 0
    · refine ⟨[Nat.digitChar (n % 10)], by simp [Nat.toDigitsCore, h0], by simp, by simp [hdig], ?_⟩
      simp [digitsValue, hval]
      omega
    · obtain ⟨cs, hcs, hne, hall, hv⟩ := ih (n / 10) (Nat.digitChar (n % 10) :: ds) (by omega)
      refine ⟨cs ++ [Nat.digitChar (n % 10)], ?_, by simp, by simp [hall, hdig], ?_⟩
      · simp [Nat.toDigitsCore, h0, hcs]
      · rw [digitsValue_concat, hv, hval]
        omega

theorem decimal_spec (n : Nat) :
    decimal n ≠ [] ∧ (decimal n).all Char.isDigit ∧ parseDigits (decimal n) = some n := by
  obtain ⟨cs, hcs, hne, hall, hv⟩ := toDigitsCore_spec (n + 1) n [] (Nat.lt_succ_self n)
  have hd : decimal n = cs := hcs.trans (List.append_nil cs)
  rw [hd]
  exact ⟨hne, hall, by simp [parseDigits, hne, hall, hv]⟩

/-- Rounding to the nearest integer, a half to the even one. -/
def roundHalfEven (q : ℚ) : Int :=
  if q - ⌊q⌋ < 1 / 2 then ⌊q⌋
  else if 1 / 2 < q - ⌊q⌋ then ⌊q⌋ + 1
  else if ⌊q⌋ % 2 = 0 then ⌊q⌋ else ⌊q⌋ + 1

/-- The digits of a count of hundredths: the integer part, a point and two decimals. -/
def fixedDigits (n : Nat) : List Char :=
  decimal (n / 100) ++ ['.', Nat.digitChar (n % 100 / 10), Nat.digitChar (n % 10)]

/-- What `operator<<` writes for a double under `std::fixed` and `precision(2)`: its sign and
its magnitude rounded to hundredths. -/
def fixed2 (q : ℚ) : List Char :=
  (if q < 0 then ['-'] else []) ++ fixedDigits (roundHalfEven (|q| * 100)).toNat

/-- The value `fixed2` prints. -/
def rounded2 (q : ℚ) : ℚ := (if q < 0 then -1 else 1) * roundHalfEven (|q| * 100) / 100

/-- An unsigned number: digits, then possibly a point and more digits. -/
def parseUnsigned (cs : List Char) : Option ℚ :=
  match cs.span Char.isDigit with
  | (ip, []) => (parseDigits ip).map fun (i : Nat) => (i : ℚ)
  | (ip, '.' :: fp) =>
    (parseDigits ip).bind fun (i : Nat) =>
      (parseDigits fp).map fun (f : Nat) => (i : ℚ) + (f : ℚ) / 10 ^ fp.length
  | _ => none

/-- A number, possibly negative. -/
def parseNumber (cs : List Char) : Option ℚ :=
  if cs.head? = some '-' then (parseUnsigned cs.tail).map (- ·) else parseUnsigned cs

/-- Rounding goes down when the fraction is at most a half, up when it is at least. -/
theorem roundHalfEven_cases (q : ℚ) :
    roundHalfEven q = ⌊q⌋ ∧ q - ⌊q⌋ ≤ 1 / 2 ∨ roundHalfEven q = ⌊q⌋ + 1 ∧ 1 / 2 ≤ q - ⌊q⌋ := by
  unfold roundHalfEven
  split_ifs with h₁ h₂
  exacts [.inl ⟨rfl, h₁.le⟩, .inr ⟨rfl, h₂.le⟩, .inl ⟨rfl, not_lt.mp h₂⟩, .inr ⟨rfl, not_lt.mp h₁⟩]

/-- An integer rounds to itself. -/
theorem roundHalfEven_intCast (n : Int) : roundHalfEven n = n := by
  rw [roundHalfEven, Int.floor_intCast, sub_self, if_pos (by norm_num)]

theorem roundHalfEven_nonneg {q : ℚ} (hq : 0 ≤ q) : 0 ≤ roundHalfEven q := by
  have : 0 ≤ ⌊q⌋ := Int.floor_nonneg.mpr hq
  rcases roundHalfEven_cases q with ⟨h, -⟩ | ⟨h, -⟩ <;> rw [h] <;> omega

theorem span_digits (ds rest : List Char) (hd : ds.all Char.isDigit) (c : Char)
    (hc : c.isDigit = false) :
    (ds ++ c :: rest).span Char.isDigit = (ds, c :: rest) := by
  rw [List.all_eq_true] at hd
  rw [List.span_eq_take_drop, List.takeWhile_append_of_pos hd, List.dropWhile_append_of_pos hd]
  simp [List.takeWhile_cons, List.dropWhile_cons, hc]

theorem parseUnsigned_fixedDigits (n : Nat) :
    parseUnsigned (fixedDigits n) = some ((n : ℚ) / 100) := by
  obtain ⟨-, hall, hparse⟩ := decimal_spec (n / 100)
  obtain ⟨h₁, v₁⟩ := digitChar_isDigit (show n % 100 / 10 < 10 by omega)
  obtain ⟨h₂, v₂⟩ := digitChar_isDigit (show n % 10 < 10 by omega)
  have hfrac : parseDigits [Nat.digitChar (n % 100 / 10), Nat.digitChar (n % 10)] =
      some (10 * (n % 100 / 10) + n % 10) := by
    simp [parseDigits, digitsValue, h₁, h₂, v₁, v₂]
  have hn : (n : ℚ) = 100 * ((n / 100 : ℕ) : ℚ) + ((10 * (n % 100 / 10) + n % 10 : ℕ) : ℚ) := by
    exact_mod_cast (show n = 100 * (n / 100) + (10 * (n % 100 / 10) + n % 10) by omega)
  rw [parseUnsigned, fixedDigits, span_digits _ _ hall '.' rfl]
  simp only [hparse, hfrac, Option.some_bind, Option.map_some', List.length_cons,
    List.length_singleton, List.length_nil]
  rw [hn]
  exact congrArg some (by ring)

theorem head?_fixedDigits (n : Nat) : (fixedDigits n).head? ≠ some '-' := by
  obtain ⟨hne, hall, -⟩ := decimal_spec (n / 100)
  obtain ⟨c, cs, hc⟩ := List.exists_cons_of_ne_nil hne
  rw [fixedDigits, hc]
  rintro ⟨⟩
  simp [hc] at hall

/-- The reader gives back what `fixed2` printed: the value rounded to hundredths. -/
theorem parseNumber_fixed2 (q : ℚ) : parseNumber (fixed2 q) = some (rounded2 q) := by
  have hr := roundHalfEven_nonneg (mul_nonneg (abs_nonneg q) (by norm_num : (0 : ℚ) ≤ 100))
  have hcast : (((roundHalfEven (|q| * 100)).toNat : Nat) : ℚ) = roundHalfEven (|q| * 100) := by
    exact_mod_cast Int.toNat_of_nonneg hr
  unfold fixed2 rounded2 parseNumber
  by_cases hq : q < 0
  · simp only [if_pos hq, List.singleton_append, List.head?_cons, List.tail_cons, if_true,
      parseUnsigned_fixedDigits, Option.map_some', hcast, neg_one_mul, neg_div]
  · simp only [if_neg hq, List.nil_append, if_neg (head?_fixedDigits _),
      parseUnsigned_fixedDigits, hcast, one_mul]

/-- The literals `ToDebugJSON` writes. -/
def eventsOpen : List Char := "\x7b\"events\":[".toList
def pmaxOpen : List Char := "\x7b\"pmax\":[".toList
def pmaxEnd : List Char := "99999],\"cnts\":[".toList
def closing : List Char := "]\x7d".toList

/-- The loop over `samples_`, with its flag `first`. -/
def eventsLoop : Bool → List ℚ → List Char
  | _, [] => []
  | first, x :: xs => (if first then [] else [',']) ++ fixed2 x ++ eventsLoop false xs

/-- The `pmax` loop: `k` bounds from `x`, each followed by a comma. -/
def pmaxLoop (x dt : ℚ) : Nat → List Char
  | 0 => []
  | k + 1 => fixed2 x ++ [','] ++ pmaxLoop (x + dt) dt k

/-- `Histogram::ToDebugJSON`, character by character. -/
def debugJSON (h : Histogram) : List Char :=
  if h.mode ≠ .histogram then eventsOpen ++ eventsLoop true h.samples ++ closing
  else pmaxOpen ++ pmaxLoop h.startMs h.bucketDtMs (h.numBuckets - 1) ++ pmaxEnd ++
    (h.buckets.take (h.numBuckets - 1)).flatMap (fun c => decimal c.toNat ++ [',']) ++
    (if 0 < h.numBuckets then decimal (h.buckets.getLastD 0).toNat else []) ++ closing

/-- The rest of a text after a given prefix. -/
def dropPrefix? : List Char → List Char → Option (List Char)
  | [], cs => some cs
  | _ :: _, [] => none
  | p :: ps, c :: cs => if p = c then dropPrefix? ps cs else none

/-- The start of a text before a given suffix. -/
def dropSuffix? (s cs : List Char) : Option (List Char) :=
  (dropPrefix? s.reverse cs.reverse).map List.reverse

/-- The items between brackets, separated by commas. -/
def parseList {α : Type} (p : List Char → Option α) (inner : List Char) : Option (List α) :=
  if inner = [] then some [] else (inner.splitOn ',').mapM p

/-- What separates the bounds from the counts, after the last bound. -/
def cntsOpen : List Char := "],\"cnts\":[".toList

/-- The events, or the bounds up to the first `]` and the counts after `"cnts":[`. -/
def parseDebugJSON (s : List Char) : Option DebugJSON :=
  match dropPrefix? eventsOpen s with
  | some rest => (dropSuffix? closing rest).bind fun inner =>
    (parseList parseNumber inner).map .events
  | none => (dropPrefix? pmaxOpen s).bind fun body =>
    (dropPrefix? cntsOpen (body.dropWhile (· != ']'))).bind fun tail =>
    (dropSuffix? closing tail).bind fun inner =>
    (parseList parseNumber (body.takeWhile (· != ']'))).bind fun pmax =>
    (parseList parseDigits inner).map fun cnts => .histogram pmax (cnts.map Nat.toUInt32)

/-- The values as the text shows them: doubles rounded to two places, counts as they are. -/
def DebugJSON.rounded : DebugJSON → DebugJSON
  | .events values => .events (values.map rounded2)
  | .histogram pmax cnts => .histogram (pmax.map rounded2) cnts

/-- The characters of a printed number. -/
def numberChar (c : Char) : Bool := c.isDigit || c == '-' || c == '.'

theorem numberChar_of_isDigit {c : Char} (h : c.isDigit = true) : numberChar c = true := by
  rw [numberChar, h, Bool.true_or, Bool.true_or]

theorem numberChar_of_mem_decimal {n : Nat} {c : Char} (hc : c ∈ decimal n) : numberChar c :=
  numberChar_of_isDigit (List.all_eq_true.mp (decimal_spec n).2.1 c hc)

theorem numberChar_of_mem_fixed2 {q : ℚ} {c : Char} (hc : c ∈ fixed2 q) : numberChar c := by
  simp only [fixed2, fixedDigits, List.mem_append, List.mem_cons, List.mem_singleton,
    List.not_mem_nil, or_false] at hc
  rcases hc with hc | hc | rfl | rfl | rfl
  · split_ifs at hc
    · rw [List.mem_singleton.mp hc]; rfl
    · exact absurd hc (List.not_mem_nil c)
  · exact numberChar_of_mem_decimal hc
  · rfl
  · exact numberChar_of_isDigit (digitChar_isDigit (by omega)).1
  · exact numberChar_of_isDigit (digitChar_isDigit (by omega)).1

theorem not_mem_of_numberChar {l : List Char} (hl : ∀ c ∈ l, numberChar c) {d : Char}
    (hd : numberChar d = false) : d ∉ l :=
  fun h => by simpa [hd] using hl d h

theorem dropPrefix?_append (p cs : List Char) : dropPrefix? p (p ++ cs) = some cs := by
  induction p with
  | nil => rfl
  | cons c p ih => simp [dropPrefix?, ih]

theorem dropSuffix?_append (s cs : List Char) : dropSuffix? s (cs ++ s) = some cs := by
  simp [dropSuffix?, dropPrefix?_append]

theorem intercalate_cons_cons (a b : List Char) (L : List (List Char)) :
    [','].intercalate (a :: b :: L) = a ++ ',' :: [','].intercalate (b :: L) := by
  simp [List.intercalate, List.intersperse]

theorem intercalate_cons_ne_nil {a : List Char} (ha : a ≠ []) (L : List (List Char)) :
    [','].intercalate (a :: L) ≠ [] := by
  cases L with
  | nil => simpa [List.intercalate] using ha
  | cons b L => simp [intercalate_cons_cons, ha]

/-- Items each followed by a comma, then a last one, are the items joined by commas. -/
theorem flatMap_comma_append {β : Type} (f : β → List Char) (L : List β) (t : List Char) :
    L.flatMap (fun a => f a ++ [',']) ++ t = [','].intercalate (L.map f ++ [t]) := by
  induction L with
  | nil => simp [List.intercalate]
  | cons a L ih =>
    obtain ⟨b, rest, hb⟩ := List.exists_cons_of_ne_nil (List.append_ne_nil_of_right_ne_nil
      (L.map f) (List.cons_ne_nil t []))
    rw [List.flatMap_cons, List.append_assoc, ih, List.map_cons, List.cons_append, hb,
      intercalate_cons_cons]
    simp

theorem mapM_map_append {α β : Type} {p : List Char → Option α} {f : β → List Char} {g : β → α}
    (h : ∀ x, p (f x) = some (g x)) (xs : List β) (ts : List (List Char)) :
    (xs.map f ++ ts).mapM p = (ts.mapM p).map (xs.map g ++ ·) := by
  induction xs with
  | nil => simp
  | cons x xs ih =>
    rw [List.map_cons, List.cons_append, List.mapM_cons, h, ih]
    cases ts.mapM p <;> rfl

/-- Splitting at commas undoes joining with commas items that hold no comma. -/
theorem parseList_intercalate {α : Type} (p : List Char → Option α) {ts : List (List Char)}
    (hts : ts ≠ []) (htok : ∀ t ∈ ts, t ≠ [] ∧ ∀ c ∈ t, numberChar c) :
    parseList p ([','].intercalate ts) = ts.mapM p := by
  obtain ⟨t, ts, rfl⟩ := List.exists_cons_of_ne_nil hts
  rw [parseList, if_neg (intercalate_cons_ne_nil (htok t (List.mem_cons_self _ _)).1 _),
    List.splitOn_intercalate]
  · exact fun l hl => not_mem_of_numberChar (htok l hl).2 (by decide)
  · exact hts

theorem fixed2_spec (q : ℚ) : fixed2 q ≠ [] ∧ ∀ c ∈ fixed2 q, numberChar c :=
  ⟨by simp [fixed2, fixedDigits], fun _ => numberChar_of_mem_fixed2⟩

theorem decimal_toNat_spec (c : UInt32) :
    decimal c.toNat ≠ [] ∧ ∀ d ∈ decimal c.toNat, numberChar d :=
  ⟨(decimal_spec _).1, fun _ => numberChar_of_mem_decimal⟩

theorem eventsLoop_cons (x : ℚ) (xs : List ℚ) :
    eventsLoop true (x :: xs) = [','].intercalate ((x :: xs).map fixed2) := by
  induction xs generalizing x with
  | nil => simp [eventsLoop, List.intercalate]
  | cons y ys ih =>
    rw [List.map_cons, List.map_cons, intercalate_cons_cons, ← List.map_cons, ← ih]
    simp [eventsLoop]

theorem pmaxFrom_ne_nil (x dt : ℚ) (k : Nat) : pmaxFrom x dt k ≠ [] := by
  cases k <;> simp [pmaxFrom]

theorem pmaxLoop_eq (x dt : ℚ) (k : Nat) :
    pmaxLoop x dt k = (pmaxFrom x dt k).dropLast.flatMap fun q => fixed2 q ++ [','] := by
  induction k generalizing x with
  | zero => rfl
  | succ k ih =>
    rw [pmaxLoop, ih, pmaxFrom, List.dropLast_cons_of_ne_nil (pmaxFrom_ne_nil _ _ _)]
    simp

theorem dropLast_pmaxFrom_append (x dt : ℚ) (k : Nat) :
    (pmaxFrom x dt k).dropLast ++ [99999] = pmaxFrom x dt k := by
  induction k generalizing x with
  | zero => rfl
  | succ k ih =>
    rw [pmaxFrom, List.dropLast_cons_of_ne_nil (pmaxFrom_ne_nil _ _ _), List.cons_append, ih]

theorem mem_pmaxLoop {c : Char} {x dt : ℚ} {k : Nat} (hc : c ∈ pmaxLoop x dt k) :
    c = ',' ∨ numberChar c := by
  induction k generalizing x with
  | zero => simp [pmaxLoop] at hc
  | succ k ih =>
    rw [pmaxLoop, List.mem_append, List.mem_append, List.mem_singleton] at hc
    rcases hc with (hc | hc) | hc
    · exact .inr (numberChar_of_mem_fixed2 hc)
    · exact .inl hc
    · exact ih hc

theorem parseNumber_99999 : parseNumber "99999".toList = some (rounded2 99999) := by
  have h : rounded2 99999 = 99999 := by
    rw [rounded2, if_neg (by norm_num), abs_of_nonneg (by norm_num),
      show (99999 : ℚ) * 100 = ((9999900 : Int) : ℚ) by norm_num, roundHalfEven_intCast]
    norm_num
  rw [h]
  rfl

theorem toUInt32_toNat (c : UInt32) : c.toNat.toUInt32 = c :=
  UInt32.eq_of_val_eq (Fin.ext (UInt32.toNat_ofNat_of_lt c.val.isLt))

/-- The `events` items read back as the samples rounded to two places. -/
theorem parseList_eventsLoop (xs : List ℚ) :
    parseList parseNumber (eventsLoop true xs) = some (xs.map rounded2) := by
  cases xs with
  | nil => rfl
  | cons x xs =>
    have htok : ∀ t ∈ (x :: xs).map fixed2, t ≠ [] ∧ ∀ c ∈ t, numberChar c := by
      simp only [List.mem_map]
      rintro t ⟨q, -, rfl⟩
      exact fixed2_spec q
    rw [eventsLoop_cons, parseList_intercalate _ (by simp) htok,
      ← List.append_nil (List.map fixed2 _),
      mapM_map_append parseNumber_fixed2, List.mapM_nil]
    exact congrArg some (List.append_nil _)

/-- The `pmax` items read back as the bounds rounded to two places, then `99999`. -/
theorem parseList_pmaxLoop (x dt : ℚ) (k : Nat) :
    parseList parseNumber (pmaxLoop x dt k ++ "99999".toList) =
      some ((pmaxFrom x dt k).map rounded2) := by
  have htok : ∀ t ∈ (pmaxFrom x dt k).dropLast.map fixed2 ++ ["99999".toList],
      t ≠ [] ∧ ∀ c ∈ t, numberChar c := by
    simp only [List.mem_append, List.mem_map, List.mem_singleton]
    rintro t (⟨q, -, rfl⟩ | rfl)
    exacts [fixed2_spec q, by decide]
  have hend : ["99999".toList].mapM parseNumber = some [rounded2 99999] := by
    rw [List.mapM_cons, parseNumber_99999, List.mapM_nil]
    rfl
  rw [pmaxLoop_eq, flatMap_comma_append, parseList_intercalate _ (by simp) htok,
    mapM_map_append parseNumber_fixed2, hend, Option.map_some']
  conv_rhs => rw [← dropLast_pmaxFrom_append x dt k, List.map_append]
  rfl

/-- The `cnts` items read back as the bucket counts. -/
theorem parseList_cnts {b : List UInt32} (hb : b ≠ []) :
    parseList parseDigits ((b.take (b.length - 1)).flatMap (fun c => decimal c.toNat ++ [',']) ++
      decimal (b.getLastD 0).toNat) = some (b.map UInt32.toNat) := by
  have htok : ∀ t ∈ b.dropLast.map (fun c => decimal c.toNat) ++ [decimal (b.getLast hb).toNat],
      t ≠ [] ∧ ∀ c ∈ t, numberChar c := by
    simp only [List.mem_append, List.mem_map, List.mem_singleton]
    rintro t (⟨c, -, rfl⟩ | rfl)
    exacts [decimal_toNat_spec c, decimal_toNat_spec _]
  rw [← List.dropLast_eq_take, List.getLastD_eq_getLast?, List.getLast?_eq_getLast _ hb,
    Option.getD_some, flatMap_comma_append, parseList_intercalate _ (by simp) htok,
    mapM_map_append (f := fun c : UInt32 => decimal c.toNat) (fun c => (decimal_spec c.toNat).2.2),
    List.mapM_cons, (decimal_spec _).2.2, List.mapM_nil]
  conv_rhs => rw [← List.dropLast_append_getLast hb, List.map_append]
  rfl

theorem parseDebugJSON_events (E : List Char) :
    parseDebugJSON (eventsOpen ++ E ++ closing) = (parseList parseNumber E).map .events := by
  rw [parseDebugJSON, List.append_assoc, dropPrefix?_append]
  simp only [Option.bind_eq_bind, dropSuffix?_append, Option.some_bind]

theorem parseDebugJSON_histogram (P C : List Char) (hP : ∀ c ∈ P, (c != ']') = true) :
    parseDebugJSON (pmaxOpen ++ P ++ cntsOpen ++ C ++ closing) =
      (parseList parseNumber P).bind fun pmax =>
        (parseList parseDigits C).map fun cnts => .histogram pmax (cnts.map Nat.toUInt32) := by
  have hnot : dropPrefix? eventsOpen (pmaxOpen ++ (P ++ cntsOpen ++ C ++ closing)) = none := rfl
  have hbody : ∀ b, (P ++ b).takeWhile (· != ']') = P ++ b.takeWhile (· != ']') ∧
      (P ++ b).dropWhile (· != ']') = b.dropWhile (· != ']') := fun b =>
    ⟨List.takeWhile_append_of_pos hP, List.dropWhile_append_of_pos hP⟩
  have hcnts : ∀ b, (cntsOpen ++ b).takeWhile (· != ']') = [] ∧
      (cntsOpen ++ b).dropWhile (· != ']') = cntsOpen ++ b := fun _ => ⟨rfl, rfl⟩
  simp only [List.append_assoc] at hnot ⊢
  rw [parseDebugJSON, hnot]
  simp only [Option.bind_eq_bind, dropPrefix?_append, Option.some_bind, (hbody _).1,
    (hbody _).2, (hcnts _).1, (hcnts _).2, dropSuffix?_append, List.append_nil]

/-- The text `ToDebugJSON` writes reads back as the values it prints, bounds and samples
rounded to two decimal places. -/
theorem parseDebugJSON_debugJSON (h : Histogram) :
    parseDebugJSON (debugJSON h) = some (toDebugJSON h).rounded := by
  by_cases hm : h.mode = .histogram
  · have hpos : 0 < h.numBuckets := by have := h.two_lt_numBuckets; omega
    have hb : h.buckets ≠ [] := List.ne_nil_of_length_pos (h.buckets_length ▸ hpos)
    have hP : ∀ c ∈ pmaxLoop h.startMs h.bucketDtMs (h.numBuckets - 1) ++ "99999".toList,
        (c != ']') = true := by
      intro c hc
      have h9 : ∀ c ∈ "99999".toList, numberChar c := by decide
      have : c = ',' ∨ numberChar c := by
        rcases List.mem_append.mp hc with hc | hc
        exacts [mem_pmaxLoop hc, .inr (h9 c hc)]
      rcases this with rfl | hc
      · rfl
      · exact bne_iff_ne.mpr fun e => absurd (e ▸ hc) (by decide)
    have hcnts := parseList_cnts hb
    rw [h.buckets_length] at hcnts
    rw [debugJSON, toDebugJSON, if_neg (not_not.mpr hm), if_neg (not_not.mpr hm), if_pos hpos,
      show pmaxEnd = "99999".toList ++ cntsOpen from rfl]
    simp only [← List.append_assoc]
    rw [List.append_assoc pmaxOpen _ "99999".toList,
      List.append_assoc (_ ++ cntsOpen) _ (decimal _), parseDebugJSON_histogram _ _ hP,
      parseList_pmaxLoop, hcnts]
    simp [DebugJSON.rounded, Function.comp_def, toUInt32_toNat]
  · rw [debugJSON, toDebugJSON, if_pos hm, if_pos hm, parseDebugJSON_events,
      parseList_eventsLoop]
    rfl

end TuningFork.Histogram
