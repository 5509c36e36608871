import Mathlib.Data.UInt

/-!
# Settings: annotation combinations and `Check`

`Settings::NumAnnotationCombinations` multiplies the annotation enum sizes in `uint64_t` and
gives up with the maximum once a product drops below the one before; a wrap that lands at or
above it is missed. `Settings::Check` caps the default frame-time metric count with it and
fills in each member the game left unset, so a second call changes nothing. The header is not
among the sources: enum sizes, counts and timeouts are taken as `uint32_t`, and the histograms,
the API key, the annotation indices and the logs are left out.
-/

namespace TuningFork

namespace Settings

/-- `std::numeric_limits<uint64_t>::max()`. -/
def uint64Max : UInt64 := 18446744073709551615

/-- The loop of `NumAnnotationCombinations`, from the running product `n`. -/
def numAnnotationCombinationsFrom (n : UInt64) : List UInt32 → UInt64
  | [] => n
  | x :: xs =>
    let m := n
    let n := n * x.toUInt64
    if n < m then uint64Max else numAnnotationCombinationsFrom n xs

/-- `Settings::NumAnnotationCombinations`. -/
def numAnnotationCombinations (annotationEnumSize : List UInt32) : UInt64 :=
  numAnnotationCombinationsFrom 1 annotationEnumSize

/-- The exact product of the sizes. -/
def exactProduct (annotationEnumSize : List UInt32) : Nat :=
  annotationEnumSize.foldr (fun x n => x.toNat * n) 1

@[simp] theorem exactProduct_nil : exactProduct [] = 1 := rfl
@[simp] theorem exactProduct_cons (x : UInt32) (xs : List UInt32) :
    exactProduct (x :: xs) = x.toNat * exactProduct xs := rfl

theorem toNat_pos_of_not_mem {x : UInt32} {xs : List UInt32} (h0 : 0 ∉ x :: xs) :
    0 < x.toNat ∧ 0 ∉ xs :=
  ⟨Nat.pos_of_ne_zero fun h => h0 (List.mem_cons.mpr (.inl (show x = 0 from UInt32.toNat.inj h).symm)),
    fun h => h0 (List.mem_cons_of_mem _ h)⟩

theorem exactProduct_pos {xs : List UInt32} (h0 : 0 ∉ xs) : 0 < exactProduct xs := by
  induction xs with
  | nil => decide
  | cons x xs ih =>
    obtain ⟨hx, hxs⟩ := toNat_pos_of_not_mem h0
    exact (exactProduct_cons x xs).symm ▸ Nat.mul_pos hx (ih hxs)

theorem toNat_mul_toUInt64 (n : UInt64) (x : UInt32) :
    (n * x.toUInt64).toNat = n.toNat * x.toNat % 2 ^ 64 := by
  simp [UInt64.toNat, UInt64.mul_def, BitVec.toNat_mul, UInt32.toUInt64, UInt32.toNat]

theorem uint64_lt_iff (a b : UInt64) : a < b ↔ a.toNat < b.toNat := by
  simp [UInt64.lt_def, UInt64.toNat, BitVec.lt_def]

theorem numAnnotationCombinationsFrom_cons (n : UInt64) (x : UInt32) (xs : List UInt32) :
    numAnnotationCombinationsFrom n (x :: xs) =
      if n.toNat * x.toNat % 2 ^ 64 < n.toNat then uint64Max
      else numAnnotationCombinationsFrom (n * x.toUInt64) xs := by
  simp only [numAnnotationCombinationsFrom, uint64_lt_iff, toNat_mul_toUInt64]

/-- A running product that is not `0` meets a factor `0` with the check: the product drops. -/
theorem numAnnotationCombinationsFrom_of_zero_mem {n : UInt64} {xs : List UInt32}
    (hn : 0 < n.toNat) (h0 : 0 ∈ xs) : numAnnotationCombinationsFrom n xs = uint64Max := by
  induction xs generalizing n with
  | nil => cases h0
  | cons x xs ih =>
    rw [numAnnotationCombinationsFrom_cons]
    split_ifs with hlt
    · rfl
    · rcases List.mem_cons.mp h0 with rfl | h0
      · exact absurd (by simpa using hn) hlt
      · exact ih (by rw [toNat_mul_toUInt64]; omega) h0

/-- Without a factor `0` and below `2^64`, no multiplication wraps and the check never fires. -/
theorem numAnnotationCombinationsFrom_exact {n : UInt64} {xs : List UInt32} (h0 : 0 ∉ xs)
    (hp : n.toNat * exactProduct xs < 2 ^ 64) :
    (numAnnotationCombinationsFrom n xs).toNat = n.toNat * exactProduct xs := by
  induction xs generalizing n with
  | nil => simp [numAnnotationCombinationsFrom]
  | cons x xs ih =>
    obtain ⟨hx1, hxs⟩ := toNat_pos_of_not_mem h0
    have hrest : 1 ≤ exactProduct xs := exactProduct_pos hxs
    rw [exactProduct_cons, ← Nat.mul_assoc] at hp
    have hnx : n.toNat * x.toNat < 2 ^ 64 :=
      lt_of_le_of_lt (Nat.le_mul_of_pos_right _ hrest) hp
    have hmul : (n * x.toUInt64).toNat = n.toNat * x.toNat := by
      rw [toNat_mul_toUInt64, Nat.mod_eq_of_lt hnx]
    rw [numAnnotationCombinationsFrom_cons, Nat.mod_eq_of_lt hnx,
      if_neg (not_lt.mpr (Nat.le_mul_of_pos_right _ hx1)), ih hxs (hmul ▸ hp), hmul,
      exactProduct_cons, Nat.mul_assoc]

/-- Whatever the factors, the loop ends with `max()` or with the product modulo `2^64`. -/
theorem numAnnotationCombinationsFrom_mod (n : UInt64) (xs : List UInt32) :
    (numAnnotationCombinationsFrom n xs).toNat = n.toNat * exactProduct xs % 2 ^ 64 ∨
      numAnnotationCombinationsFrom n xs = uint64Max := by
  induction xs generalizing n with
  | nil => exact .inl (by simp [numAnnotationCombinationsFrom, Nat.mod_eq_of_lt n.toNat_lt_size])
  | cons x xs ih =>
    rw [numAnnotationCombinationsFrom_cons]
    split_ifs
    · exact .inr rfl
    · refine (ih _).imp_left fun h => ?_
      rw [h, toNat_mul_toUInt64, Nat.mod_mul_mod, exactProduct_cons, Nat.mul_assoc]

/-- What `NumAnnotationCombinations` returns: `max()` for a size `0`; the exact product when
no size is `0` and the product is below `2^64`; and in every case `max()` or the product
modulo `2^64`, the latter when a wrap ends at or above the previous product. -/
theorem numAnnotationCombinations_spec (annotationEnumSize : List UInt32) :
    (0 ∈ annotationEnumSize → numAnnotationCombinations annotationEnumSize = uint64Max) ∧
    (0 ∉ annotationEnumSize → exactProduct annotationEnumSize < 2 ^ 64 →
      (numAnnotationCombinations annotationEnumSize).toNat = exactProduct annotationEnumSize) ∧
    ((numAnnotationCombinations annotationEnumSize).toNat =
        exactProduct annotationEnumSize % 2 ^ 64 ∨
      numAnnotationCombinations annotationEnumSize = uint64Max) := by
  have h1 : (1 : UInt64).toNat = 1 := rfl
  have hexact := @numAnnotationCombinationsFrom_exact 1 annotationEnumSize
  have hmod := numAnnotationCombinationsFrom_mod 1 annotationEnumSize
  rw [h1, Nat.one_mul] at hexact hmod
  exact ⟨numAnnotationCombinationsFrom_of_zero_mem (h1 ▸ Nat.one_pos), hexact, hmod⟩

theorem numAnnotationCombinations_spec_scenario :
    0 ∉ ([3, 5, 7] : List UInt32) ∧ exactProduct [3, 5, 7] < 2 ^ 64 ∧
      (numAnnotationCombinations [3, 5, 7]).toNat = exactProduct [3, 5, 7] :=
  ⟨by decide, by decide, (numAnnotationCombinations_spec [3, 5, 7]).2.1 (by decide) (by decide)⟩

/-- `2^16 * 2^17 = 2^33`, and `2^33 * (2^31 + 1) = 2^64 + 2^33` wraps to `2^33`, which is not
below the previous product `2^33`: the wrap goes unseen. A single size `0` is taken for an
overflow, though the product `0` fits. -/
theorem numAnnotationCombinations_misses_wrap :
    exactProduct [65536, 131072, 2147483649] = 2 ^ 64 + 8589934592 ∧
      numAnnotationCombinations [65536, 131072, 2147483649] = 8589934592 ∧
      numAnnotationCombinations [0] = uint64Max := by
  decide

/-- `Settings::AggregationStrategy::Submission`. -/
inductive AggregationStrategy.Submission
  | tickBased
  | timeBased
  deriving DecidableEq, Repr

/-- `Settings::AggregationStrategy`. -/
structure AggregationStrategy where
  method : AggregationStrategy.Submission
  intervalmsOrCount : UInt32
  maxInstrumentationKeys : UInt32
  annotationEnumSize : List UInt32
  deriving Repr

/-- `TuningFork_MetricLimits`: how many metrics of each kind are kept. -/
structure MetricLimits where
  frameTime : UInt32
  loadingTime : UInt32
  memory : UInt32
  battery : UInt32
  thermal : UInt32
  deriving DecidableEq, Repr

/-- The `TuningFork_Cache` of `c_settings.persistent_cache`: the one of `sFileCache`, or one the
game passed in. -/
inductive Persister
  | fileCache
  | game (id : Nat)
  deriving DecidableEq, Repr

end Settings

/-- The members of `Settings` that `Check` reads or writes, those of `c_settings` flattened in;
`none` is a null persister. -/
structure Settings where
  persistentCache : Option Settings.Persister
  maxNumMetrics : Settings.MetricLimits
  aggregationStrategy : Settings.AggregationStrategy
  baseUri : List Char
  initialRequestTimeoutMs : UInt32
  ultimateRequestTimeoutMs : UInt32
  deriving Repr

namespace Settings

def kPerformanceParametersBaseUri : List Char :=
  "https://performanceparameters.googleapis.com/v1/".toList

def kDefaultFrameTimeAnnotationCombinationLimit : UInt64 := 64

/-- The form of each default in `Check`: `if (x == 0) x = d;`. -/
def orDefault (x d : UInt32) : UInt32 := if x = 0 then d else x

/-- `CheckPersister`: a null persister becomes the file cache's, whose directory is set to
`save_dir`, or to `DefaultTuningForkSaveDirectory()` when that is empty. -/
def checkPersister (defaultSaveDirectory saveDir : String) (persister : Option Persister)
    (fileCacheDir : Option String) : Option Persister × Option String :=
  match persister with
  | none => (some .fileCache, some (if saveDir.isEmpty then defaultSaveDirectory else saveDir))
  | some p => (some p, fileCacheDir)

/-- The service's URI when `base_uri` is empty, then a final `/`. -/
def checkBaseUri (baseUri : List Char) : List Char :=
  let baseUri := if baseUri.isEmpty then kPerformanceParametersBaseUri else baseUri
  if baseUri.getLast? ≠ some '/' then baseUri ++ ['/'] else baseUri

/-- An interval of `0` makes the submission time based: every 10 s in a debug build, every two
hours with `NDEBUG`. -/
def checkAggregationStrategy (ndebug : Bool) (a : AggregationStrategy) : AggregationStrategy :=
  if a.intervalmsOrCount = 0 then
    { a with method := .timeBased, intervalmsOrCount := if ndebug then 7200000 else 10000 }
  else a

/-- `std::min(kDefaultFrameTimeAnnotationCombinationLimit, NumAnnotationCombinations())` times
`max_instrumentation_keys`, stored in `max_num_metrics.frame_time`. -/
def defaultFrameTime (a : AggregationStrategy) : UInt32 :=
  (min kDefaultFrameTimeAnnotationCombinationLimit
      (numAnnotationCombinations a.annotationEnumSize) * a.maxInstrumentationKeys.toUInt64).toUInt32

/-- With `2^26` keys and 64 or more combinations the product is `2^32`, whose low bits are `0`. -/
example : defaultFrameTime ⟨.timeBased, 1, 67108864, [64]⟩ = 0 := by decide

def checkMaxNumMetrics (a : AggregationStrategy) (m : MetricLimits) : MetricLimits where
  frameTime := orDefault m.frameTime (defaultFrameTime a)
  loadingTime := orDefault m.loadingTime 32
  memory := orDefault m.memory 15
  battery := orDefault m.battery 32
  thermal := orDefault m.thermal 32

/-- `Settings::Check(save_dir)`, on the settings and the directory of `sFileCache`. The frame-time
default reads the aggregation strategy as `Check` has just left it. -/
def check (ndebug : Bool) (defaultSaveDirectory saveDir : String)
    (x : Settings × Option String) : Settings × Option String :=
  let persister := checkPersister defaultSaveDirectory saveDir x.1.persistentCache x.2
  let aggregationStrategy := checkAggregationStrategy ndebug x.1.aggregationStrategy
  ({ persistentCache := persister.1
     maxNumMetrics := checkMaxNumMetrics aggregationStrategy x.1.maxNumMetrics
     aggregationStrategy
     baseUri := checkBaseUri x.1.baseUri
     initialRequestTimeoutMs := orDefault x.1.initialRequestTimeoutMs 1000
     ultimateRequestTimeoutMs := orDefault x.1.ultimateRequestTimeoutMs 100000 }, persister.2)

/-- What `Check` establishes: a persister, a base URI ending with `/`, a nonzero interval,
timeouts and metric limits, and a frame-time limit that is set unless its default is `0`. -/
structure Checked (s : Settings) : Prop where
  persistentCache : s.persistentCache.isSome
  baseUri : s.baseUri.getLast? = some '/'
  intervalmsOrCount : s.aggregationStrategy.intervalmsOrCount ≠ 0
  initialRequestTimeoutMs : s.initialRequestTimeoutMs ≠ 0
  ultimateRequestTimeoutMs : s.ultimateRequestTimeoutMs ≠ 0
  frameTime : s.maxNumMetrics.frameTime = 0 → defaultFrameTime s.aggregationStrategy = 0
  loadingTime : s.maxNumMetrics.loadingTime ≠ 0
  memory : s.maxNumMetrics.memory ≠ 0
  battery : s.maxNumMetrics.battery ≠ 0
  thermal : s.maxNumMetrics.thermal ≠ 0

section Parts

variable {x d : UInt32}

theorem orDefault_eq_zero_iff : orDefault x d = 0 ↔ x = 0 ∧ d = 0 := by
  by_cases hx : x = 0 <;> simp [orDefault, hx]

theorem orDefault_ne_zero (hd : d ≠ 0) : orDefault x d ≠ 0 :=
  fun h => hd (orDefault_eq_zero_iff.mp h).2

theorem orDefault_of_ne_zero (hx : x ≠ 0) : orDefault x d = x := if_neg hx

theorem checkPersister_isSome (defaultSaveDirectory saveDir : String) (p : Option Persister)
    (dir : Option String) : (checkPersister defaultSaveDirectory saveDir p dir).1.isSome := by
  cases p <;> rfl

theorem checkPersister_of_isSome {defaultSaveDirectory saveDir : String} {p : Option Persister}
    (hp : p.isSome) (dir : Option String) :
    checkPersister defaultSaveDirectory saveDir p dir = (p, dir) := by
  cases p
  · cases hp
  · rfl

theorem getLast?_checkBaseUri (baseUri : List Char) :
    (checkBaseUri baseUri).getLast? = some '/' := by
  dsimp only [checkBaseUri]
  generalize (if baseUri.isEmpty then kPerformanceParametersBaseUri else baseUri) = l
  by_cases h : l.getLast? = some '/' <;> simp [h]

theorem checkBaseUri_of_getLast? {baseUri : List Char} (h : baseUri.getLast? = some '/') :
    checkBaseUri baseUri = baseUri := by
  have hne : baseUri ≠ [] := by
    rintro rfl
    cases h
  simp [checkBaseUri, hne, h]

theorem intervalmsOrCount_checkAggregationStrategy (ndebug : Bool) (a : AggregationStrategy) :
    (checkAggregationStrategy ndebug a).intervalmsOrCount ≠ 0 := by
  by_cases h : a.intervalmsOrCount = 0
  · simp only [checkAggregationStrategy, if_pos h]
    cases ndebug <;> decide
  · rwa [checkAggregationStrategy, if_neg h]

theorem checkAggregationStrategy_of_ne_zero {ndebug : Bool} {a : AggregationStrategy}
    (h : a.intervalmsOrCount ≠ 0) : checkAggregationStrategy ndebug a = a := if_neg h

end Parts

/-- Every default `Check` fills in passes its own test. -/
theorem check_checked (ndebug : Bool) (defaultSaveDirectory saveDir : String)
    (x : Settings × Option String) : Checked (check ndebug defaultSaveDirectory saveDir x).1 where
  persistentCache := checkPersister_isSome _ _ _ _
  baseUri := getLast?_checkBaseUri _
  intervalmsOrCount := intervalmsOrCount_checkAggregationStrategy _ _
  initialRequestTimeoutMs := orDefault_ne_zero (by decide)
  ultimateRequestTimeoutMs := orDefault_ne_zero (by decide)
  frameTime h := (orDefault_eq_zero_iff.mp h).2
  loadingTime := orDefault_ne_zero (by decide)
  memory := orDefault_ne_zero (by decide)
  battery := orDefault_ne_zero (by decide)
  thermal := orDefault_ne_zero (by decide)

example : (check true "" "" (⟨none, ⟨0, 0, 0, 0, 0⟩, ⟨.tickBased, 0, 2, [3, 5]⟩, [], 0, 0⟩,
    none)).1.maxNumMetrics = ⟨30, 32, 15, 32, 32⟩ := by decide

/-- `Check` changes nothing, not even the file cache's directory, on `Checked` settings. -/
theorem check_of_checked (ndebug : Bool) (defaultSaveDirectory saveDir : String)
    (x : Settings × Option String) (h : Checked x.1) :
    check ndebug defaultSaveDirectory saveDir x = x := by
  obtain ⟨⟨p, ⟨f, l, me, b, t⟩, a, u, i, ui⟩, dir⟩ := x
  have hf : orDefault f (defaultFrameTime a) = f := by
    by_cases hf : f = 0
    · rw [hf, h.frameTime hf]
      rfl
    · exact orDefault_of_ne_zero hf
  simp only [check, checkMaxNumMetrics, checkPersister_of_isSome h.persistentCache,
    checkBaseUri_of_getLast? h.baseUri, checkAggregationStrategy_of_ne_zero h.intervalmsOrCount,
    hf, orDefault_of_ne_zero h.initialRequestTimeoutMs,
    orDefault_of_ne_zero h.ultimateRequestTimeoutMs, orDefault_of_ne_zero h.loadingTime,
    orDefault_of_ne_zero h.memory, orDefault_of_ne_zero h.battery, orDefault_of_ne_zero h.thermal]

/-- The settings `Check` leaves unchanged, file cache included, are exactly the `Checked` ones. -/
theorem check_eq_self_iff (ndebug : Bool) (defaultSaveDirectory saveDir : String)
    (x : Settings × Option String) :
    check ndebug defaultSaveDirectory saveDir x = x ↔ Checked x.1 :=
  ⟨fun h => h ▸ check_checked ndebug defaultSaveDirectory saveDir x,
    check_of_checked ndebug defaultSaveDirectory saveDir x⟩

/-- A second `Check`, whatever its `save_dir`, changes neither the settings nor the file cache's
directory. -/
theorem check_idempotent (ndebug : Bool) (defaultSaveDirectory saveDir saveDir' : String)
    (x : Settings × Option String) :
    check ndebug defaultSaveDirectory saveDir' (check ndebug defaultSaveDirectory saveDir x) =
      check ndebug defaultSaveDirectory saveDir x :=
  check_of_checked _ _ _ _ (check_checked ndebug defaultSaveDirectory saveDir x)

end Settings

end TuningFork
