import Mathlib.Data.List.Nodup
import Mathlib.Algebra.Group.Int

/-!
# Configuration permutations of the marching cubes operation

`OnGlContextReady` of `MarchingCubesGLES3Operation` expands the configuration with `Permute`,
one permutation per thread setup and sleep time, and each heartbeat reports the march durations
of the current permutation and moves to the next. A draw is the duration it records: marching,
threads and rendering are left out, and any order of calls is allowed. A `size_t` is below
`2 ^ 64` and `size() - 1` wraps; reading past a vector's end and dividing by zero give `none`.
-/

namespace MarchingCubes

inductive ThreadAffinitySetup
  | one
  | onePerBigCore
  | onePerLittleCore
  | onePerCore
  deriving DecidableEq, Repr

/-- The fields of `configuration` that `Permute` reads, in milliseconds, with their defaults. -/
structure Configuration where
  sleepPerIterationMin : Int := 0
  sleepPerIterationMax : Int := 0
  deriving Repr

structure ExecutionConfiguration where
  threadSetup : ThreadAffinitySetup
  pinned : Bool
  sleepPerIteration : Int
  deriving DecidableEq, Repr

/-- The thread setups `Permute` walks through, in its order. -/
def threadSetups : List ThreadAffinitySetup :=
  [.one, .onePerBigCore, .onePerLittleCore, .onePerCore]

/-- The innermost loop of `Permute`, `for (ms = from; ms < to; ms += 1ms)`, with `fuel` passes
left. -/
def sleepLoop (setup : ThreadAffinitySetup) (pinned : Bool) (sleepMax : Int) :
    Nat → Int → List ExecutionConfiguration
  | 0, _ => []
  | fuel + 1, ms =>
    if ms < sleepMax then ⟨setup, pinned, ms⟩ :: sleepLoop setup pinned sleepMax fuel (ms + 1)
    else []

/-- `Permute`. Its sleep loop makes at most `(max - min).toNat` passes, which is all it needs. -/
def permute (config : Configuration) : List ExecutionConfiguration :=
  threadSetups.flatMap fun setup =>
    (List.range 2).flatMap fun i =>
      sleepLoop setup (i == 1) config.sleepPerIterationMax
        (config.sleepPerIterationMax - config.sleepPerIterationMin).toNat
        config.sleepPerIterationMin

section Permute

variable {setup : ThreadAffinitySetup} {pinned : Bool} {sleepMax : Int}

theorem sleepLoop_eq_map {n : Nat} {ms : Int} (hn : (sleepMax - ms).toNat = n) :
    sleepLoop setup pinned sleepMax n ms =
      (List.range n).map fun k => ⟨setup, pinned, ms + k⟩ := by
  induction n generalizing ms with
  | zero => rfl
  | succ n ih =>
    rw [sleepLoop, if_pos (by omega), ih (by omega), List.range_succ_eq_map, List.map_cons,
      List.map_map]
    congr 1
    · simp
    · exact List.map_congr_left fun k _ => by
        simp only [Function.comp, ExecutionConfiguration.mk.injEq, true_and]
        omega

theorem fields_of_mem_sleepLoop {n : Nat} {ms : Int} {c : ExecutionConfiguration}
    (h : c ∈ sleepLoop setup pinned sleepMax n ms) :
    c.threadSetup = setup ∧ c.pinned = pinned := by
  induction n generalizing ms with
  | zero => simp [sleepLoop] at h
  | succ n ih =>
    rw [sleepLoop] at h
    split at h
    · rcases List.mem_cons.1 h with rfl | h
      · exact ⟨rfl, rfl⟩
      · exact ih h
    · simp at h

/-- The loops of `Permute` for the two pinnings of a thread setup list different
configurations. -/
theorem disjoint_sleepLoop {pinned' : Bool} {n n' : Nat} {ms ms' : Int} (h : pinned ≠ pinned') :
    (sleepLoop setup pinned sleepMax n ms).Disjoint (sleepLoop setup pinned' sleepMax n' ms') :=
  fun _ h₁ h₂ => h ((fields_of_mem_sleepLoop h₁).2.symm.trans (fields_of_mem_sleepLoop h₂).2)

theorem mem_permute {config : Configuration} {c : ExecutionConfiguration} :
    c ∈ permute config ↔ config.sleepPerIterationMin ≤ c.sleepPerIteration ∧
      c.sleepPerIteration < config.sleepPerIterationMax := by
  obtain ⟨setup, pinned, ms⟩ := c
  simp only [permute, sleepLoop_eq_map rfl, List.mem_flatMap, List.mem_map, List.mem_range,
    ExecutionConfiguration.mk.injEq]
  constructor
  · rintro ⟨_, _, _, _, k, hk, -, -, rfl⟩
    omega
  · rintro ⟨hmin, hmax⟩
    refine ⟨setup, by cases setup <;> decide, if pinned then 1 else 0, by split <;> omega,
      (ms - config.sleepPerIterationMin).toNat, by omega, rfl, by cases pinned <;> rfl, by omega⟩

theorem length_permute (config : Configuration) :
    (permute config).length =
      8 * (config.sleepPerIterationMax - config.sleepPerIterationMin).toNat := by
  simp [permute, sleepLoop_eq_map rfl, threadSetups, List.flatMap, List.range_succ,
    Function.comp_def]
  omega

theorem nodup_permute (config : Configuration) : (permute config).Nodup := by
  refine List.nodup_flatMap.2 ⟨fun setup _ => List.nodup_flatMap.2 ⟨fun i _ => ?_, ?_⟩, ?_⟩
  · rw [sleepLoop_eq_map rfl]
    exact (List.nodup_range _).map fun a b h => by
      simp only [ExecutionConfiguration.mk.injEq, true_and] at h
      omega
  · exact (List.nodup_range 2).imp_of_mem fun ha hb hab =>
      disjoint_sleepLoop fun h => by
        have := congrArg (· = true) h
        simp only [List.mem_range, beq_iff_eq, eq_iff_iff] at ha hb this
        omega
  · refine (show threadSetups.Nodup by decide).imp fun hne c h₁ h₂ => hne ?_
    obtain ⟨_, _, h₁⟩ := List.mem_flatMap.1 h₁
    obtain ⟨_, _, h₂⟩ := List.mem_flatMap.1 h₂
    exact (fields_of_mem_sleepLoop h₁).1.symm.trans (fields_of_mem_sleepLoop h₂).1

/-- `Permute` lists each thread setup and pinning with each whole millisecond from
`sleep_per_iteration_min` up to `sleep_per_iteration_max`, that bound excluded, and nothing
twice. -/
theorem permute_enumerates_sleep_range (config : Configuration) :
    (∀ c, c ∈ permute config ↔ config.sleepPerIterationMin ≤ c.sleepPerIteration ∧
      c.sleepPerIteration < config.sleepPerIterationMax) ∧
    (permute config).Nodup ∧
    (permute config).length =
      8 * (config.sleepPerIterationMax - config.sleepPerIterationMin).toNat :=
  ⟨fun _ => mem_permute, nodup_permute config, length_permute config⟩

end Permute

/-- The fields of `result` that the operation computes itself; `num_threads_used` and
`num_voxels_marched_per_iteration` come from the platform and the volume. -/
structure Result where
  configuration : ExecutionConfiguration
  numIterations : Nat
  minCalcDuration : Nat
  maxCalcDuration : Nat
  averageCalcDuration : Nat
  deriving Repr

/-- `Duration::max()`, in nanoseconds. -/
def durationMax : Nat := 2 ^ 63 - 1

/-- The loop of `ReportPerformanceData`: the least and the greatest duration and their sum,
starting from `Duration::max()`, `0` and `0`. -/
def durationStats (ds : List Nat) : Nat × Nat × Nat :=
  ds.foldl (fun (mn, mx, acc) d => (if d < mn then d else mn, if d > mx then d else mx, acc + d))
    (durationMax, 0, 0)

/-- The `result` that `ReportPerformanceData` builds for permutation `c` from its durations. -/
def summary (c : ExecutionConfiguration) (ds : List Nat) : Result :=
  let (mn, mx, acc) := durationStats ds
  ⟨c, ds.length, mn, mx, acc / ds.length⟩

/-- The state of a `MarchingCubesGLES3Operation`: `marcher` says whether `_marcher` holds a
`ThreadedMarcher`, and `reports` lists the data passed to `Report`, oldest first. -/
structure MarchingCubesGLES3Operation where
  configurationPermutations : List ExecutionConfiguration
  currentConfigurationPermutation : Nat
  marcher : Bool
  marchDurations : List Nat
  reports : List Result
  stopped : Bool
  deriving Repr

namespace MarchingCubesGLES3Operation

def initial : MarchingCubesGLES3Operation := ⟨[], 0, false, [], [], false⟩

variable (s : MarchingCubesGLES3Operation)

/-- `SetCurrentConfigurationPermutation`: `BuildExecConfiguration` builds a marcher for the
permutation at `idx`. -/
def setCurrentConfigurationPermutation (idx : Nat) : Option MarchingCubesGLES3Operation :=
  s.configurationPermutations[idx]?.map fun _ =>
    { s with currentConfigurationPermutation := idx, marcher := true }

/-- `OnGlContextReady`; `programBuilt` is the result of building the shader program. -/
def onGlContextReady (config : Configuration) (programBuilt : Bool) :
    Option MarchingCubesGLES3Operation :=
  let s := { s with configurationPermutations := permute config }
  if programBuilt then s.setCurrentConfigurationPermutation s.currentConfigurationPermutation
  else some { s with stopped := true }

/-- `Step`, with the time `March` took. -/
def step (marchDuration : Nat) : MarchingCubesGLES3Operation :=
  if s.marcher then { s with marchDurations := s.marchDurations ++ [marchDuration] } else s

/-- `Draw`: reads the sleep time of the current permutation, then steps. -/
def draw (marchDuration : Nat) : Option MarchingCubesGLES3Operation :=
  s.configurationPermutations[s.currentConfigurationPermutation]?.map fun _ =>
    s.step marchDuration

/-- `HasMoreConfigurationPermutations`: `size() - 1` is a `size_t`. -/
def hasMoreConfigurationPermutations : Bool :=
  decide ((s.currentConfigurationPermutation : Int) <
    ((s.configurationPermutations.length : Int) - 1) % 2 ^ 64)

/-- `ReportPerformanceData`: the average divides by the number of durations. -/
def reportPerformanceData : Option Result :=
  if s.marchDurations = [] then none
  else s.configurationPermutations[s.currentConfigurationPermutation]?.map
    (summary · s.marchDurations)

/-- `OnHeartbeat`: report, reset and switch to the next permutation, or stop. -/
def onHeartbeat : Option MarchingCubesGLES3Operation :=
  if s.hasMoreConfigurationPermutations then
    s.reportPerformanceData.bind fun r =>
      { s with reports := s.reports ++ [r], marchDurations := [] }.setCurrentConfigurationPermutation
        (s.currentConfigurationPermutation + 1)
  else some { s with stopped := true }

inductive Call
  | onGlContextReady (config : Configuration) (programBuilt : Bool)
  | draw (marchDuration : Nat)
  | onHeartbeat
  deriving Repr

def handle : Call → Option MarchingCubesGLES3Operation
  | .onGlContextReady config programBuilt => s.onGlContextReady config programBuilt
  | .draw marchDuration => s.draw marchDuration
  | .onHeartbeat => s.onHeartbeat

def run (s : MarchingCubesGLES3Operation) : List Call → Option MarchingCubesGLES3Operation
  | [] => some s
  | c :: cs => (s.handle c).bind fun s' => s'.run cs

theorem run_append (l₁ l₂ : List Call) : s.run (l₁ ++ l₂) = (s.run l₁).bind (·.run l₂) := by
  induction l₁ generalizing s with
  | nil => rfl
  | cons c l₁ ih =>
    rw [List.cons_append, run, run, Option.bind_assoc]
    simp only [ih]

/-- With a sleep range that holds no millisecond, the default one included, `Permute` lists no
configuration, and `OnGlContextReady` switches to the first of them all the same. -/
theorem onGlContextReady_crashes_on_empty_range (config : Configuration)
    (h : config.sleepPerIterationMax ≤ config.sleepPerIterationMin) :
    s.handle (.onGlContextReady config true) = none := by
  have hnil : permute config = [] := List.eq_nil_of_length_eq_zero (by rw [length_permute]; omega)
  simp [handle, onGlContextReady, setCurrentConfigurationPermutation, hnil]

/-- The default configuration's range is empty. -/
example : initial.handle (.onGlContextReady {} true) = none :=
  onGlContextReady_crashes_on_empty_range initial {} (le_refl _)

theorem hasMoreConfigurationPermutations_iff (h₀ : 0 < s.configurationPermutations.length)
    (h₁ : s.configurationPermutations.length < 2 ^ 64) :
    s.hasMoreConfigurationPermutations = true ↔
      s.currentConfigurationPermutation + 1 < s.configurationPermutations.length := by
  rw [hasMoreConfigurationPermutations, decide_eq_true_iff, Int.emod_eq_of_lt (by omega) (by omega)]
  omega

/-- The draws of a round, for a permutation with a marcher, record their durations in order. -/
theorem run_draws (hk : s.currentConfigurationPermutation < s.configurationPermutations.length)
    (hm : s.marcher = true) (ds : List Nat) :
    s.run (ds.map .draw) = some { s with marchDurations := s.marchDurations ++ ds } := by
  induction ds generalizing s with
  | nil => simp [run]
  | cons d ds ih =>
    have hd : s.draw d = some { s with marchDurations := s.marchDurations ++ [d] } := by
      simp [draw, step, hm, List.getElem?_eq_getElem hk]
    simp only [List.map_cons, run, handle, hd, Option.some_bind]
    rw [ih { s with marchDurations := s.marchDurations ++ [d] } hk hm, List.append_assoc,
      List.singleton_append]

theorem onHeartbeat_of_more
    (hk : s.currentConfigurationPermutation + 1 < s.configurationPermutations.length)
    (hsize : s.configurationPermutations.length < 2 ^ 64) (hd : s.marchDurations ≠ []) :
    s.onHeartbeat = some { s with
      reports := s.reports ++ [summary
        (s.configurationPermutations[s.currentConfigurationPermutation]) s.marchDurations]
      marchDurations := []
      currentConfigurationPermutation := s.currentConfigurationPermutation + 1
      marcher := true } := by
  rw [onHeartbeat, if_pos ((s.hasMoreConfigurationPermutations_iff (by omega) hsize).2 hk),
    reportPerformanceData, if_neg hd, List.getElem?_eq_getElem (by omega)]
  simp [setCurrentConfigurationPermutation, List.getElem?_eq_getElem hk]

theorem onHeartbeat_of_last
    (hk : s.currentConfigurationPermutation + 1 = s.configurationPermutations.length)
    (hsize : s.configurationPermutations.length < 2 ^ 64) :
    s.onHeartbeat = some { s with stopped := true } := by
  rw [onHeartbeat, if_neg (by rw [s.hasMoreConfigurationPermutations_iff (by omega) hsize]; omega)]

/-- Rounds of draws with durations `rounds[i]`, each closed by a heartbeat. -/
def schedule (rounds : List (List Nat)) : List Call :=
  rounds.flatMap fun ds => ds.map .draw ++ [.onHeartbeat]

theorem schedule_cons (ds : List Nat) (rounds : List (List Nat)) :
    schedule (ds :: rounds) = (ds.map .draw ++ [.onHeartbeat]) ++ schedule rounds := rfl

/-- A state at the start of a round: the current permutation exists and has a marcher, and
unless it is the last one nothing has been recorded for it yet. -/
structure RoundStart : Prop where
  current_lt : s.currentConfigurationPermutation < s.configurationPermutations.length
  size_lt : s.configurationPermutations.length < 2 ^ 64
  marcher : s.marcher = true
  fresh : s.currentConfigurationPermutation + 1 < s.configurationPermutations.length →
    s.marchDurations = []

variable {s} {ds : List Nat}

theorem run_round_of_more (hs : s.RoundStart)
    (hmore : s.currentConfigurationPermutation + 1 < s.configurationPermutations.length)
    (hds : ds ≠ []) :
    s.run (ds.map .draw ++ [.onHeartbeat]) = some { s with
      reports := s.reports ++ [summary (s.configurationPermutations[s.currentConfigurationPermutation]) ds]
      marchDurations := []
      currentConfigurationPermutation := s.currentConfigurationPermutation + 1
      marcher := true } := by
  rw [run_append, s.run_draws hs.current_lt hs.marcher, Option.some_bind, run, handle,
    onHeartbeat_of_more { s with marchDurations := s.marchDurations ++ ds } hmore hs.size_lt
      (by simpa [hs.fresh hmore] using hds)]
  simp [run, hs.fresh hmore]

theorem run_round_of_last (hs : s.RoundStart)
    (hlast : s.currentConfigurationPermutation + 1 = s.configurationPermutations.length) :
    s.run (ds.map .draw ++ [.onHeartbeat]) =
      some { s with marchDurations := s.marchDurations ++ ds, stopped := true } := by
  rw [run_append, s.run_draws hs.current_lt hs.marcher, Option.some_bind, run, handle,
    onHeartbeat_of_last { s with marchDurations := s.marchDurations ++ ds } hlast hs.size_lt]
  rfl

/-- Over rounds with at least one draw each, the heartbeats report the permutations from the
current one on, each with its own round's durations, up to the last permutation and never it. -/
theorem run_schedule (hs : s.RoundStart) (rounds : List (List Nat))
    (hr : ∀ ds ∈ rounds, ds ≠ []) :
    ∃ s', s.run (schedule rounds) = some s' ∧
      s'.reports = s.reports ++
        ((s.configurationPermutations.drop s.currentConfigurationPermutation).zipWith
          summary rounds).take
            (s.configurationPermutations.length - 1 - s.currentConfigurationPermutation) ∧
      (s'.stopped = true ↔ s.stopped = true ∨
        s.configurationPermutations.length - s.currentConfigurationPermutation ≤ rounds.length) := by
  induction rounds generalizing s with
  | nil =>
    exact ⟨s, rfl, by simp, .inl, fun h => h.resolve_right (by have := hs.current_lt; simp; omega)⟩
  | cons ds rounds ih =>
    have hds := hr ds (List.mem_cons_self _ _)
    have hrest := fun ds' h => hr ds' (List.mem_cons_of_mem _ h)
    have hk := hs.current_lt
    rw [schedule_cons, run_append]
    rcases Nat.lt_or_ge (s.currentConfigurationPermutation + 1) s.configurationPermutations.length
      with hmore | hlast
    · rw [run_round_of_more hs hmore hds, Option.some_bind]
      obtain ⟨s', hrun, hrep, hstop⟩ := ih (s := { s with
        reports := s.reports ++
          [summary (s.configurationPermutations[s.currentConfigurationPermutation]) ds]
        marchDurations := []
        currentConfigurationPermutation := s.currentConfigurationPermutation + 1
        marcher := true }) ⟨hmore, hs.size_lt, rfl, fun _ => rfl⟩ hrest
      dsimp only at hrep hstop
      refine ⟨s', hrun, ?_, ?_⟩
      · have htake : s.configurationPermutations.length - 1 - s.currentConfigurationPermutation =
            s.configurationPermutations.length - 1 - (s.currentConfigurationPermutation + 1) + 1 := by
          omega
        rw [hrep, List.drop_eq_getElem_cons hk, htake, List.zipWith_cons_cons, List.take_succ_cons,
          List.append_assoc, List.singleton_append]
      · rw [hstop, List.length_cons]
        exact or_congr_right (by omega)
    · have hlast : s.currentConfigurationPermutation + 1 = s.configurationPermutations.length := by
        omega
      rw [run_round_of_last hs hlast, Option.some_bind]
      obtain ⟨s', hrun, hrep, hstop⟩ :=
        ih (s := { s with marchDurations := s.marchDurations ++ ds, stopped := true })
          ⟨hk, hs.size_lt, hs.marcher, fun h => absurd h (by dsimp only; omega)⟩ hrest
      dsimp only at hrep hstop
      refine ⟨s', hrun, ?_, iff_of_true (by simpa using hstop) (.inr (by simp; omega))⟩
      rw [hrep, show s.configurationPermutations.length - 1 - s.currentConfigurationPermutation = 0
        by omega]
      simp

/-- Once the shader program builds, rounds with at least one draw each report every
permutation in `Permute`'s order with its own round's durations, except the last one: the
heartbeat that ends its round stops the operation without reporting it. -/
theorem heartbeats_report_all_but_last (config : Configuration)
    (hrange : config.sleepPerIterationMin < config.sleepPerIterationMax)
    (hsize : (permute config).length < 2 ^ 64)
    (rounds : List (List Nat)) (hr : ∀ ds ∈ rounds, ds ≠ []) :
    ∃ s, initial.run (.onGlContextReady config true :: schedule rounds) = some s ∧
      s.reports = ((permute config).zipWith summary rounds).take ((permute config).length - 1) ∧
      (s.stopped = true ↔ (permute config).length ≤ rounds.length) := by
  have hpos : 0 < (permute config).length := by rw [length_permute]; omega
  have hready : initial.handle (.onGlContextReady config true) =
      some ⟨permute config, 0, true, [], [], false⟩ := by
    simp [handle, onGlContextReady, setCurrentConfigurationPermutation, initial,
      List.getElem?_eq_getElem hpos]
  obtain ⟨s, hrun, hrep, hstop⟩ :=
    run_schedule (s := ⟨permute config, 0, true, [], [], false⟩) ⟨hpos, hsize, rfl, fun _ => rfl⟩
      rounds hr
  exact ⟨s, by rw [run, hready, Option.some_bind, hrun], by simpa using hrep, by simpa using hstop⟩

theorem heartbeats_report_all_but_last_scenario :
    (0 : Int) < 1 ∧ (permute ⟨0, 1⟩).length < 2 ^ 64 ∧ (∀ ds ∈ [[5]], ds ≠ []) ∧
      ∃ s, initial.run (.onGlContextReady ⟨0, 1⟩ true :: schedule [[5]]) = some s ∧
        s.reports = ((permute ⟨0, 1⟩).zipWith summary [[5]]).take ((permute ⟨0, 1⟩).length - 1) ∧
        (s.stopped = true ↔ (permute ⟨0, 1⟩).length ≤ [[5]].length) :=
  ⟨by decide, by decide, by decide,
    heartbeats_report_all_but_last ⟨0, 1⟩ (by decide) (by decide) [[5]] (by decide)⟩

end MarchingCubesGLES3Operation

end MarchingCubes
