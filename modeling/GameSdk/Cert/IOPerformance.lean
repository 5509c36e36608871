import Mathlib.Data.List.Nodup
import Mathlib.Algebra.BigOperators.Group.List
import Mathlib.Tactic.Ring
import Mathlib.Logic.Relation

/-!
# Reads of the IO performance operation

`PrepareFileAndData` of `IOPerformanceOperation` fixes the read area of a file and sizes the
shared data vector, `Start` runs passes over the area until `total_read` is reached, and each
thread's `DoWork` loop takes the offsets of its reads from `EvenDivisionScheme`,
`InterleavedScheme` or `GreedyScheme`. Sizes are natural numbers, `padded_read_size` is a field
(`NextAlignedValue` is not among the sources), and `IsStopped()` is false. A read is the pair
of offsets its scheme gives it.
-/

namespace IOPerformance

inductive WorkScheme
  | kDividedEvenly
  | kInterleaved
  | kGreedy
  deriving DecidableEq, Repr

inductive FileApi
  | kCApi
  | kCppStreams
  | kPosix
  deriving DecidableEq, Repr

/-- The fields of `Configuration` that file preparation, the schemes, the file APIs and the
loops read, in bytes. -/
structure Configuration where
  workScheme : WorkScheme
  fileApi : FileApi
  readAreaStart : Nat
  readAreaEnd : Nat
  totalRead : Nat
  bufferSize : Nat
  paddedReadSize : Nat
  totalAreaSize : Nat
  totalDataSize : Nat
  numThreads : Nat
  deriving DecidableEq, Repr

structure FileDataOffsets where
  file : Nat
  data : Nat
  deriving DecidableEq, Repr

/-- `PrepareFileAndData`, given the size of the file it created or found; `none` is its
`FatalError` for an invalid area. The data vector is resized to `total_data_size`. -/
def prepareFileAndData (config : Configuration) (fileSize : Nat) : Option Configuration :=
  let readAreaEnd := if config.readAreaEnd = 0 then fileSize else config.readAreaEnd
  if config.readAreaStart > readAreaEnd ∨ readAreaEnd > fileSize then none
  else
    let totalAreaSize := readAreaEnd - config.readAreaStart
    some { config with
      readAreaEnd
      totalAreaSize
      totalDataSize := totalAreaSize / config.paddedReadSize * config.bufferSize }

/-- What `PrepareFileAndData` accepts and sets. -/
theorem prepareFileAndData_eq_some {config config' : Configuration} {fileSize : Nat}
    (h : prepareFileAndData config fileSize = some config') :
    ∃ e, config.readAreaStart ≤ e ∧ e ≤ fileSize ∧ config' = { config with
      readAreaEnd := e
      totalAreaSize := e - config.readAreaStart
      totalDataSize := (e - config.readAreaStart) / config.paddedReadSize * config.bufferSize } := by
  simp only [prepareFileAndData] at h
  split_ifs at h with h0 hbad hbad <;> cases h
  · exact ⟨_, by omega, by omega, rfl⟩
  · exact ⟨_, by omega, by omega, rfl⟩

/-- What an accepted configuration keeps: the area runs from `read_area_start` to
`read_area_end`, and the data vector holds one buffer per whole chunk of the area. -/
theorem prepareFileAndData_area {config prepared : Configuration} {fileSize : Nat}
    (h : prepareFileAndData config fileSize = some prepared) :
    prepared.readAreaStart + prepared.totalAreaSize = prepared.readAreaEnd ∧
      prepared.totalDataSize =
        prepared.totalAreaSize / prepared.paddedReadSize * prepared.bufferSize := by
  obtain ⟨e, hs, -, rfl⟩ := prepareFileAndData_eq_some h
  exact ⟨by dsimp only; omega, rfl⟩

/-- `EvenDivisionScheme` and `InterleavedScheme`: the offsets the scheme is at, what `Update`
adds to them, and the file offset `ShouldContinue` stops at. -/
structure StrideScheme where
  offsets : FileDataOffsets
  fileAdvance : Nat
  dataAdvance : Nat
  fileEnd : Nat
  deriving DecidableEq, Repr

/-- `EvenDivisionScheme(thread, config)`. -/
def evenDivisionScheme (thread : Nat) (config : Configuration) : StrideScheme :=
  let fileDivision := config.totalAreaSize / config.numThreads
  let dataDivision := config.totalDataSize / config.numThreads
  { offsets := ⟨fileDivision * thread, dataDivision * thread⟩
    fileAdvance := config.paddedReadSize
    dataAdvance := config.bufferSize
    fileEnd := fileDivision * thread + fileDivision }

/-- `InterleavedScheme(thread, config)`. -/
def interleavedScheme (thread : Nat) (config : Configuration) : StrideScheme :=
  { offsets := ⟨config.paddedReadSize * thread, config.bufferSize * thread⟩
    fileAdvance := config.paddedReadSize * config.numThreads
    dataAdvance := config.bufferSize * config.numThreads
    fileEnd := config.totalAreaSize }

namespace StrideScheme

/-- `Update`. -/
def update (s : StrideScheme) : StrideScheme :=
  { s with offsets := ⟨s.offsets.file + s.fileAdvance, s.offsets.data + s.dataAdvance⟩ }

/-- `ShouldContinue`. -/
def shouldContinue (s : StrideScheme) : Bool := s.offsets.file < s.fileEnd

/-- The offsets after `k` updates. -/
def offsetsAfter (s : StrideScheme) (k : Nat) : FileDataOffsets :=
  ⟨s.offsets.file + k * s.fileAdvance, s.offsets.data + k * s.dataAdvance⟩

/-- The loop of `DoWork`: the offsets of its reads in order, or `none` when `fuel` iterations
do not end it. -/
def doWork : StrideScheme → Nat → Option (List FileDataOffsets)
  | s, 0 => if s.shouldContinue then none else some []
  | s, fuel + 1 => if s.shouldContinue then (s.update.doWork fuel).map (s.offsets :: ·) else some []

@[simp] theorem offsetsAfter_zero (s : StrideScheme) : s.offsetsAfter 0 = s.offsets := by
  simp [offsetsAfter]

@[simp] theorem update_offsetsAfter (s : StrideScheme) (k : Nat) :
    s.update.offsetsAfter k = s.offsetsAfter (k + 1) := by
  simp only [update, offsetsAfter, FileDataOffsets.mk.injEq]
  constructor <;> ring

theorem offsetsAfter_file_not_lt {s : StrideScheme} (hc : ¬ s.offsets.file < s.fileEnd) (k : Nat) :
    ¬ (s.offsetsAfter k).file < s.fileEnd :=
  fun h => hc (lt_of_le_of_lt (Nat.le_add_right _ _) h)

/-- A `DoWork` loop that ends has read at the offsets of the first updates, in order: exactly
those whose file offset is before the end. -/
theorem doWork_eq_some {s : StrideScheme} {fuel : Nat} {reads : List FileDataOffsets}
    (h : s.doWork fuel = some reads) :
    reads = (List.range reads.length).map s.offsetsAfter ∧
      ∀ k, k < reads.length ↔ (s.offsetsAfter k).file < s.fileEnd := by
  induction fuel generalizing s reads with
  | zero =>
    simp only [doWork, shouldContinue, decide_eq_true_eq] at h
    split_ifs at h with hc
    cases h
    exact ⟨rfl, fun k => iff_of_false (Nat.not_lt_zero k) (offsetsAfter_file_not_lt hc k)⟩
  | succ fuel ih =>
    simp only [doWork, shouldContinue, decide_eq_true_eq] at h
    split_ifs at h with hc
    · obtain ⟨rest, hrest, rfl⟩ := Option.map_eq_some'.mp h
      obtain ⟨hr, hk⟩ := ih hrest
      refine ⟨?_, fun k => ?_⟩
      · rw [List.length_cons, List.range_succ_eq_map, List.map_cons, List.map_map, offsetsAfter_zero]
        conv_lhs => rw [hr]
        congr 1
        exact List.map_congr_left fun k _ => update_offsetsAfter s k
      · cases k with
        | zero => simpa using hc
        | succ k => simpa using hk k
    · cases h
      exact ⟨rfl, fun k => iff_of_false (Nat.not_lt_zero k) (offsetsAfter_file_not_lt hc k)⟩

theorem mem_doWork {s : StrideScheme} {fuel : Nat} {reads : List FileDataOffsets}
    (h : s.doWork fuel = some reads) {o : FileDataOffsets} (ho : o ∈ reads) :
    ∃ k, o = s.offsetsAfter k ∧ (s.offsetsAfter k).file < s.fileEnd := by
  obtain ⟨hr, hk⟩ := doWork_eq_some h
  rw [hr, List.mem_map] at ho
  obtain ⟨k, hk', rfl⟩ := ho
  exact ⟨k, rfl, (hk k).mp (List.mem_range.mp hk')⟩

/-- With a positive step, the loop ends within `fileEnd - offsets.file` iterations. -/
theorem doWork_isSome {s : StrideScheme} (ha : 0 < s.fileAdvance) {fuel : Nat}
    (hf : s.fileEnd - s.offsets.file ≤ fuel) : (s.doWork fuel).isSome := by
  induction fuel generalizing s with
  | zero =>
    have hc : ¬ s.offsets.file < s.fileEnd := by omega
    simp [doWork, shouldContinue, hc]
  | succ fuel ih =>
    simp only [doWork, shouldContinue, decide_eq_true_eq]
    split_ifs
    · rw [Option.isSome_map']
      exact @ih s.update ha (by simp only [update]; omega)
    · rfl

end StrideScheme

/-- `GreedyDispenser`: the offsets it hands out next, and what it adds after each grab. -/
structure GreedyDispenser where
  offsets : FileDataOffsets
  fileInc : Nat
  dataInc : Nat
  deriving DecidableEq, Repr

namespace GreedyDispenser

/-- `GreedyDispenser(config)`. -/
def new (config : Configuration) : GreedyDispenser :=
  ⟨⟨config.readAreaStart, 0⟩, config.paddedReadSize, config.bufferSize⟩

/-- `GrabNextOffsets`, one step under the dispenser's mutex. -/
def grabNextOffsets (d : GreedyDispenser) : FileDataOffsets × GreedyDispenser :=
  (d.offsets, { d with offsets := ⟨d.offsets.file + d.fileInc, d.offsets.data + d.dataInc⟩ })

/-- The offsets handed out after `k` grabs. -/
def offsetsAfter (d : GreedyDispenser) (k : Nat) : FileDataOffsets :=
  ⟨d.offsets.file + k * d.fileInc, d.offsets.data + k * d.dataInc⟩

/-- The dispenser after `k` grabs. -/
def advance (d : GreedyDispenser) (k : Nat) : GreedyDispenser :=
  { d with offsets := d.offsetsAfter k }

theorem advance_zero (d : GreedyDispenser) : d.advance 0 = d := by
  simp [advance, offsetsAfter]

theorem grabNextOffsets_advance (d : GreedyDispenser) (k : Nat) :
    (d.advance k).grabNextOffsets = (d.offsetsAfter k, d.advance (k + 1)) := by
  simp only [grabNextOffsets, advance, offsetsAfter, Prod.mk.injEq, GreedyDispenser.mk.injEq,
    FileDataOffsets.mk.injEq, true_and, and_true]
  constructor <;> ring

theorem offsetsAfter_file_le (d : GreedyDispenser) {j k : Nat} (h : j ≤ k) :
    (d.offsetsAfter j).file ≤ (d.offsetsAfter k).file :=
  Nat.add_le_add_left (Nat.mul_le_mul_right _ h) _

theorem offsetsAfter_inj {d : GreedyDispenser} (hd : 0 < d.fileInc) {j k : Nat}
    (h : d.offsetsAfter j = d.offsetsAfter k) : j = k :=
  Nat.eq_of_mul_eq_mul_right hd (Nat.add_left_cancel (congrArg FileDataOffsets.file h))

end GreedyDispenser

/-- A pass of `Start` under `kGreedy`. Its threads differ only in their affinity, so the pass
keeps how many have not yet built their `GreedyScheme`, the offsets each thread in its loop
holds, and how many have left the loop; and the offsets read so far, in order. -/
structure GreedyPass where
  dispenser : GreedyDispenser
  starting : Nat
  holding : List FileDataOffsets
  finished : Nat
  reads : List FileDataOffsets

/-- A pass before any of its threads runs. -/
def GreedyPass.init (config : Configuration) (numThreads : Nat) : GreedyPass :=
  ⟨GreedyDispenser.new config, numThreads, [], 0, []⟩

/-- One step of one thread of a greedy pass, in any interleaving; `fileEnd` is `_file_end`,
that is `total_area_size`. The `GreedyScheme` constructor grabs offsets; an iteration of the
loop of `DoWork` reads at the offsets the thread holds and grabs the next ones (the read touches
no shared offset, so taking it with the grab loses no order of grabs); and a thread whose
offsets are not before `fileEnd` leaves the loop. -/
inductive GreedyPass.Step (fileEnd : Nat) : GreedyPass → GreedyPass → Prop
  | start {p : GreedyPass} (h : 0 < p.starting) :
      Step fileEnd p ⟨p.dispenser.grabNextOffsets.2, p.starting - 1,
        p.dispenser.grabNextOffsets.1 :: p.holding, p.finished, p.reads⟩
  | read {p : GreedyPass} {o : FileDataOffsets} (ho : o ∈ p.holding) (hc : o.file < fileEnd) :
      Step fileEnd p ⟨p.dispenser.grabNextOffsets.2, p.starting,
        p.dispenser.grabNextOffsets.1 :: p.holding.erase o, p.finished, p.reads ++ [o]⟩
  | finish {p : GreedyPass} {o : FileDataOffsets} (ho : o ∈ p.holding) (hc : ¬ o.file < fileEnd) :
      Step fileEnd p ⟨p.dispenser, p.starting, p.holding.erase o, p.finished + 1, p.reads⟩

namespace GreedyPass

variable {fileEnd : Nat}

/-- What a thread in its loop still does: read and grab, or only leave. -/
def weight (fileEnd : Nat) (o : FileDataOffsets) : Nat := if o.file < fileEnd then 2 else 1

/-- Two for each thread yet to start, the weight of each thread in its loop, and the file
offsets the dispenser has yet to pass: every step lowers it. -/
def measure (fileEnd : Nat) (p : GreedyPass) : Nat :=
  2 * p.starting + (p.holding.map (weight fileEnd)).sum + (fileEnd - p.dispenser.offsets.file)

theorem sum_map_erase {f : FileDataOffsets → Nat} {o : FileDataOffsets}
    {l : List FileDataOffsets} (h : o ∈ l) : (l.map f).sum = f o + ((l.erase o).map f).sum := by
  rw [← List.sum_cons, ← List.map_cons]
  exact ((List.perm_cons_erase h).map f).sum_eq

theorem Step.measure_lt {p q : GreedyPass} (hd : 0 < p.dispenser.fileInc)
    (h : Step fileEnd p q) :
    q.measure fileEnd < p.measure fileEnd ∧ q.dispenser.fileInc = p.dispenser.fileInc := by
  cases h with
  | start h =>
    refine ⟨?_, rfl⟩
    simp only [measure, GreedyDispenser.grabNextOffsets, List.map_cons, List.sum_cons, weight]
    split_ifs <;> omega
  | read ho hc =>
    refine ⟨?_, rfl⟩
    simp only [measure, GreedyDispenser.grabNextOffsets, List.map_cons, List.sum_cons,
      sum_map_erase ho]
    simp only [weight, hc, if_true]
    split_ifs <;> omega
  | finish ho hc =>
    refine ⟨?_, rfl⟩
    simp only [measure, sum_map_erase ho]
    simp only [weight, hc, if_false]
    omega

theorem acc_of_measure_lt :
    ∀ (m : Nat) (p : GreedyPass), p.measure fileEnd < m → 0 < p.dispenser.fileInc →
      Acc (fun q p => Step fileEnd p q) p
  | 0, _, h, _ => absurd h (Nat.not_lt_zero _)
  | m + 1, p, h, hd => Acc.intro p fun q hq =>
    have hlt := hq.measure_lt hd
    acc_of_measure_lt m q (by omega) (hlt.2 ▸ hd)

/-- Every interleaving of a greedy pass ends when `padded_read_size` is positive. -/
theorem init_acc (config : Configuration) (hp : 0 < config.paddedReadSize) (numThreads : Nat) :
    Acc (fun q p => Step config.totalAreaSize p q) (init config numThreads) :=
  acc_of_measure_lt _ _ (Nat.lt_succ_self _) hp

/-- What every state of a greedy pass of `numThreads` threads from the dispenser `d₀` satisfies.
After some `g` grabs, each offset read or held is one of the first `g` handed out, none twice,
and each of those before the end is read or held; reads are before the end; every thread is
counted once; and once a thread has left its loop, the dispenser is past the end. -/
structure Inv (fileEnd numThreads : Nat) (d₀ : GreedyDispenser) (p : GreedyPass) : Prop where
  grabbed : ∃ g, p.dispenser = d₀.advance g ∧
    (∀ o ∈ p.reads ++ p.holding, ∃ k < g, o = d₀.offsetsAfter k) ∧
    ∀ k < g, (d₀.offsetsAfter k).file < fileEnd → d₀.offsetsAfter k ∈ p.reads ++ p.holding
  nodup : (p.reads ++ p.holding).Nodup
  reads_before_end : ∀ o ∈ p.reads, o.file < fileEnd
  threads : p.starting + p.holding.length + p.finished = numThreads
  past_end : 0 < p.finished → fileEnd ≤ p.dispenser.offsets.file

theorem init_inv (config : Configuration) (numThreads : Nat) :
    Inv fileEnd numThreads (GreedyDispenser.new config) (init config numThreads) :=
  ⟨⟨0, (GreedyDispenser.advance_zero _).symm, (fun _ h => nomatch h), (fun _ h => nomatch h)⟩,
    List.nodup_nil, (fun _ h => nomatch h), by simp [init], (fun h => nomatch h)⟩

/-- Handing out the offsets after `g` grabs keeps the bookkeeping of `Inv`. -/
theorem grabbed_of_perm {d₀ : GreedyDispenser} (hd : 0 < d₀.fileInc) {g : Nat}
    {L L' : List FileDataOffsets} (hA : ∀ o ∈ L, ∃ k < g, o = d₀.offsetsAfter k)
    (hD : ∀ k < g, (d₀.offsetsAfter k).file < fileEnd → d₀.offsetsAfter k ∈ L)
    (hnd : L.Nodup) (hperm : L'.Perm (d₀.offsetsAfter g :: L)) :
    (∀ o ∈ L', ∃ k < g + 1, o = d₀.offsetsAfter k) ∧
      (∀ k < g + 1, (d₀.offsetsAfter k).file < fileEnd → d₀.offsetsAfter k ∈ L') ∧ L'.Nodup := by
  refine ⟨fun o ho => ?_, fun k hk hkE => hperm.mem_iff.mpr ?_, ?_⟩
  · rcases List.mem_cons.mp (hperm.mem_iff.mp ho) with rfl | ho
    · exact ⟨g, Nat.lt_succ_self g, rfl⟩
    · obtain ⟨k, hk, rfl⟩ := hA o ho
      exact ⟨k, by omega, rfl⟩
  · rcases Nat.lt_succ_iff_lt_or_eq.mp hk with hk | rfl
    · exact List.mem_cons_of_mem _ (hD k hk hkE)
    · exact List.mem_cons_self _ _
  · refine hperm.nodup_iff.mpr (List.nodup_cons.mpr ⟨fun hm => ?_, hnd⟩)
    obtain ⟨k, hk, he⟩ := hA _ hm
    exact absurd (GreedyDispenser.offsetsAfter_inj hd he) (by omega)

theorem Inv.step {d₀ : GreedyDispenser} {n : Nat} (hd : 0 < d₀.fileInc) {p q : GreedyPass}
    (hi : Inv fileEnd n d₀ p) (h : Step fileEnd p q) : Inv fileEnd n d₀ q := by
  obtain ⟨⟨g, hg, hA, hD⟩, hnd, hr, ht, hpe⟩ := hi
  have hgrab : p.dispenser.grabNextOffsets = (d₀.offsetsAfter g, d₀.advance (g + 1)) := by
    rw [hg, GreedyDispenser.grabNextOffsets_advance]
  have hpast : p.dispenser.offsets.file ≤ (d₀.advance (g + 1)).offsets.file := by
    rw [hg]
    exact d₀.offsetsAfter_file_le (Nat.le_succ g)
  cases h with
  | start hs =>
    rw [hgrab]
    obtain ⟨hA', hD', hnd'⟩ := grabbed_of_perm hd hA hD hnd List.perm_middle
    refine ⟨⟨g + 1, rfl, hA', hD'⟩, hnd', hr, ?_, fun hf => (hpe hf).trans hpast⟩
    simp only [List.length_cons] at ht ⊢
    omega
  | read ho hc =>
    rename_i o
    rw [hgrab]
    have hperm : (p.reads ++ [o] ++ d₀.offsetsAfter g :: p.holding.erase o).Perm
        (d₀.offsetsAfter g :: (p.reads ++ p.holding)) := by
      refine List.perm_middle.trans (List.Perm.cons _ ?_)
      rw [List.append_assoc, List.singleton_append]
      exact (List.perm_cons_erase ho).symm.append_left _
    obtain ⟨hA', hD', hnd'⟩ := grabbed_of_perm hd hA hD hnd hperm
    refine ⟨⟨g + 1, rfl, hA', hD'⟩, hnd', fun o' ho' => ?_, ?_, fun hf => (hpe hf).trans hpast⟩
    · rcases List.mem_append.mp ho' with ho' | ho'
      · exact hr o' ho'
      · rw [List.mem_singleton.mp ho']
        exact hc
    · have := List.length_pos_of_mem ho
      dsimp only
      rw [List.length_cons, List.length_erase_of_mem ho]
      omega
  | finish ho hc =>
    obtain ⟨k, hk, rfl⟩ := hA _ (List.mem_append_right _ ho)
    have hsub : (p.reads ++ p.holding.erase (d₀.offsetsAfter k)).Sublist (p.reads ++ p.holding) :=
      (List.erase_sublist _ _).append_left _
    refine ⟨⟨g, hg, fun o' ho' => hA o' (hsub.subset ho'), fun j hj hjE => ?_⟩, hnd.sublist hsub,
      hr, ?_, fun _ => ?_⟩
    · rcases List.mem_append.mp (hD j hj hjE) with hm | hm
      · exact List.mem_append_left _ hm
      · refine List.mem_append_right _ ((List.mem_erase_of_ne fun he => hc ?_).mpr hm)
        rwa [← he]
    · have := List.length_pos_of_mem ho
      dsimp only
      rw [List.length_erase_of_mem ho]
      omega
    · rw [hg]
      exact le_trans (not_lt.mp hc) (d₀.offsetsAfter_file_le hk.le)

theorem Inv.reflTransGen {d₀ : GreedyDispenser} {n : Nat} (hd : 0 < d₀.fileInc) {p q : GreedyPass}
    (hi : Inv fileEnd n d₀ p) (h : Relation.ReflTransGen (Step fileEnd) p q) : Inv fileEnd n d₀ q := by
  induction h with
  | refl => exact hi
  | tail _ hs ih => exact ih.step hd hs

/-- Once every thread has left its loop, each offset the dispenser hands out before the end has
been read, and only once. -/
theorem Inv.complete {d₀ : GreedyDispenser} {n : Nat} {q : GreedyPass}
    (hi : Inv fileEnd n d₀ q) (hn : 0 < n) (hs : q.starting = 0) (hh : q.holding = []) :
    q.reads.Nodup ∧ ∀ k, (d₀.offsetsAfter k).file < fileEnd → d₀.offsetsAfter k ∈ q.reads := by
  obtain ⟨⟨g, hg, -, hD⟩, hnd, -, ht, hpe⟩ := hi
  rw [hh, List.append_nil] at hnd hD
  rw [hs, hh, List.length_nil] at ht
  have hend : fileEnd ≤ (d₀.offsetsAfter g).file := by
    have := hpe (by omega)
    rwa [hg] at this
  refine ⟨hnd, fun k hk => hD k ?_ hk⟩
  by_contra hkg
  exact absurd (lt_of_le_of_lt (d₀.offsetsAfter_file_le (not_lt.mp hkg)) hk) (not_lt.mpr hend)

end GreedyPass

/-- Every interleaving of the threads of a greedy pass ends. Each read is at offsets the
dispenser hands out, `read_area_start + k * padded_read_size` in the file and
`k * buffer_size` in the data, with its file offset before `total_area_size`; and once all
threads, at least one, have left their loops, each such offset before `total_area_size` has
been read exactly once. -/
theorem greedyPass_run (config : Configuration) (hp : 0 < config.paddedReadSize) (n : Nat) :
    Acc (fun q p => GreedyPass.Step config.totalAreaSize p q) (GreedyPass.init config n) ∧
    ∀ q, Relation.ReflTransGen (GreedyPass.Step config.totalAreaSize) (GreedyPass.init config n) q →
      (∀ o ∈ q.reads, ∃ k, o = (GreedyDispenser.new config).offsetsAfter k ∧
        o.file < config.totalAreaSize) ∧
      (0 < n → q.starting = 0 → q.holding = [] → q.reads.Nodup ∧
        ∀ k, ((GreedyDispenser.new config).offsetsAfter k).file < config.totalAreaSize →
          (GreedyDispenser.new config).offsetsAfter k ∈ q.reads) := by
  refine ⟨GreedyPass.init_acc config hp n, fun q hq => ?_⟩
  have hi := (GreedyPass.init_inv config n).reflTransGen hp hq
  refine ⟨fun o ho => ?_, fun hn hs hh => hi.complete hn hs hh⟩
  obtain ⟨g, -, hA, -⟩ := hi.grabbed
  obtain ⟨k, -, rfl⟩ := hA o (List.mem_append_left _ ho)
  exact ⟨k, rfl, hi.reads_before_end _ ho⟩

theorem greedyPass_run_scenario :
    0 < ({ workScheme := .kGreedy, fileApi := .kPosix, readAreaStart := 0, readAreaEnd := 10
           totalRead := 10, bufferSize := 4, paddedReadSize := 4, totalAreaSize := 10
           totalDataSize := 8, numThreads := 2 } : Configuration).paddedReadSize ∧
      Acc (fun q p => GreedyPass.Step 10 p q)
        (GreedyPass.init { workScheme := .kGreedy, fileApi := .kPosix, readAreaStart := 0
                           readAreaEnd := 10, totalRead := 10, bufferSize := 4, paddedReadSize := 4
                           totalAreaSize := 10, totalDataSize := 8, numThreads := 2 } 2) :=
  ⟨by decide, (greedyPass_run
    { workScheme := .kGreedy, fileApi := .kPosix, readAreaStart := 0, readAreaEnd := 10
      totalRead := 10, bufferSize := 4, paddedReadSize := 4, totalAreaSize := 10
      totalDataSize := 8, numThreads := 2 } (by decide) 2).1⟩

/-- With `padded_read_size` positive, the `DoWork` loop of every thread ends under each scheme:
within `total_area_size` iterations for a thread `thread < num_threads` of an evenly divided or
interleaved pass, and in every interleaving of the threads of a greedy pass. -/
theorem doWork_loops_terminate (config : Configuration) (hp : 0 < config.paddedReadSize)
    (thread : Nat) (ht : thread < config.numThreads) :
    ((evenDivisionScheme thread config).doWork config.totalAreaSize).isSome ∧
      ((interleavedScheme thread config).doWork config.totalAreaSize).isSome ∧
      Acc (fun q p => GreedyPass.Step config.totalAreaSize p q)
        (GreedyPass.init config config.numThreads) := by
  refine ⟨StrideScheme.doWork_isSome hp ?_, StrideScheme.doWork_isSome
    (Nat.mul_pos hp (by omega)) (Nat.sub_le _ _), GreedyPass.init_acc config hp _⟩
  simp only [evenDivisionScheme]
  have := Nat.div_le_self config.totalAreaSize config.numThreads
  omega

theorem doWork_loops_terminate_scenario :
    0 < ({ workScheme := .kInterleaved, fileApi := .kPosix, readAreaStart := 0, readAreaEnd := 10
           totalRead := 10, bufferSize := 4, paddedReadSize := 4, totalAreaSize := 10
           totalDataSize := 8, numThreads := 2 } : Configuration).paddedReadSize ∧
      ((interleavedScheme 1
        { workScheme := .kInterleaved, fileApi := .kPosix, readAreaStart := 0, readAreaEnd := 10
          totalRead := 10, bufferSize := 4, paddedReadSize := 4, totalAreaSize := 10
          totalDataSize := 8, numThreads := 2 }).doWork 10).isSome :=
  by refine ⟨by decide, (doWork_loops_terminate _ ?_ 1 ?_).2.1⟩ <;> decide

/-- The pass loop of `Start`: `read` at each pass, in order, or `none` when `fuel` passes do not
bring it to `total_read`. -/
def passLoop (config : Configuration) : Nat → Nat → Option (List Nat)
  | read, 0 => if read < config.totalRead then none else some []
  | read, fuel + 1 => if read < config.totalRead then
      (passLoop config (read + config.totalAreaSize) fuel).map (read :: ·) else some []

/-- An empty area leaves `read` where it is: while it is below `total_read`, no fuel ends the
loop. -/
theorem passLoop_of_empty_area {config : Configuration} (ha : config.totalAreaSize = 0)
    {read : Nat} (hr : read < config.totalRead) (fuel : Nat) : passLoop config read fuel = none := by
  induction fuel with
  | zero => simp [passLoop, hr]
  | succ fuel ih => simp [passLoop, hr, ha, ih]

/-- The pass loop is a stride loop over `read`. -/
theorem passLoop_eq_doWork (config : Configuration) (read fuel : Nat) :
    passLoop config read fuel =
      ((⟨⟨read, 0⟩, config.totalAreaSize, 0, config.totalRead⟩ : StrideScheme).doWork fuel).map
        (·.map (·.file)) := by
  induction fuel generalizing read with
  | zero =>
    simp only [passLoop, StrideScheme.doWork, StrideScheme.shouldContinue, decide_eq_true_eq]
    split_ifs <;> rfl
  | succ fuel ih =>
    simp only [passLoop, StrideScheme.doWork, StrideScheme.shouldContinue, decide_eq_true_eq, ih]
    split_ifs
    · simp only [StrideScheme.update, Option.map_map]
      rfl
    · rfl

/-- With a nonempty area, the pass loop ends within `total_read` passes, at
`read = 0, total_area_size, 2 * total_area_size, …`: those below `total_read`. -/
theorem passLoop_ends (config : Configuration) (ha : 0 < config.totalAreaSize) :
    ∃ reads, passLoop config 0 config.totalRead = some reads ∧
      reads = (List.range reads.length).map (· * config.totalAreaSize) ∧
      ∀ k, k < reads.length ↔ k * config.totalAreaSize < config.totalRead := by
  rw [passLoop_eq_doWork]
  obtain ⟨offsets, hs⟩ := Option.isSome_iff_exists.mp
    (@StrideScheme.doWork_isSome ⟨⟨0, 0⟩, config.totalAreaSize, 0, config.totalRead⟩ ha _
      (Nat.sub_le _ _))
  obtain ⟨hr, hk⟩ := StrideScheme.doWork_eq_some hs
  refine ⟨_, by rw [hs]; rfl, ?_, fun k => ?_⟩
  · rw [List.length_map]
    conv_lhs => rw [hr]
    simp only [List.map_map]
    exact List.map_congr_left fun k _ => by simp [StrideScheme.offsetsAfter]
  · simpa [StrideScheme.offsetsAfter] using hk k

theorem passLoop_ends_scenario :
    ∃ reads, passLoop { workScheme := .kGreedy, fileApi := .kPosix, readAreaStart := 0
                        readAreaEnd := 10, totalRead := 25, bufferSize := 4, paddedReadSize := 4
                        totalAreaSize := 10, totalDataSize := 8, numThreads := 2 } 0 25 = some reads ∧
      reads = (List.range reads.length).map (· * 10) ∧ ∀ k, k < reads.length ↔ k * 10 < 25 :=
  passLoop_ends _ (by decide)

/-- `PrepareFileAndData` accepts an area that ends where it starts, and then the pass loop of
`Start` runs for ever once `total_read` is positive. -/
theorem empty_area_pass_loop_never_ends (config : Configuration) (start extra totalRead fuel : Nat) :
    ∃ prepared, prepareFileAndData
        { config with readAreaStart := start + 1, readAreaEnd := start + 1, totalRead := totalRead + 1 }
        (start + 1 + extra) = some prepared ∧
      prepared.totalAreaSize = 0 ∧ passLoop prepared 0 fuel = none :=
  ⟨{ config with
      readAreaStart := start + 1, readAreaEnd := start + 1, totalRead := totalRead + 1
      totalAreaSize := 0, totalDataSize := 0 },
    by simp [prepareFileAndData], rfl, passLoop_of_empty_area rfl (Nat.succ_pos _) fuel⟩

/-- A read in the read area whose `buffer_size` bytes land in the data vector. -/
def ReadInBounds (config : Configuration) (o : FileDataOffsets) : Prop :=
  config.readAreaStart ≤ o.file ∧ o.file < config.readAreaEnd ∧
    o.data + config.bufferSize ≤ config.totalDataSize

instance (config : Configuration) : DecidablePred (ReadInBounds config) :=
  fun _ => inferInstanceAs (Decidable (_ ∧ _ ∧ _))

/-- Two configurations that `PrepareFileAndData` accepts, with one thread, where `DoWork`
performs a read that is not in bounds. Over a file of 10 bytes read in chunks of 4, the data
vector has 8 bytes, and the interleaved scheme's third read writes bytes 8 to 11. Over the area
from byte 4 to byte 8 of a file of 8 bytes, the evenly divided scheme reads at file offset 0,
before the area. -/
theorem scheme_reads_leave_area_and_data :
    (∃ c, prepareFileAndData
        { workScheme := .kInterleaved, fileApi := .kPosix, readAreaStart := 0, readAreaEnd := 0
          totalRead := 10, bufferSize := 4, paddedReadSize := 4, totalAreaSize := 0
          totalDataSize := 0, numThreads := 1 } 10 = some c ∧
      ∃ reads, (interleavedScheme 0 c).doWork 3 = some reads ∧ ⟨8, 8⟩ ∈ reads ∧
        ¬ ReadInBounds c ⟨8, 8⟩) ∧
    (∃ c, prepareFileAndData
        { workScheme := .kDividedEvenly, fileApi := .kPosix, readAreaStart := 4, readAreaEnd := 8
          totalRead := 4, bufferSize := 4, paddedReadSize := 4, totalAreaSize := 0
          totalDataSize := 0, numThreads := 1 } 8 = some c ∧
      ∃ reads, (evenDivisionScheme 0 c).doWork 1 = some reads ∧ ⟨0, 0⟩ ∈ reads ∧
        ¬ ReadInBounds c ⟨0, 0⟩) :=
  ⟨⟨_, rfl, _, rfl, by decide, by decide⟩, ⟨_, rfl, _, rfl, by decide, by decide⟩⟩

/-- Chunk `j` of `q` chunks ends within `q` buffers. -/
theorem chunk_data_le {b j q : Nat} (hj : j < q) : j * b + b ≤ q * b :=
  Nat.succ_mul j b ▸ Nat.mul_le_mul_right b hj

section Bounds

variable {c : Configuration} (hp : 0 < c.paddedReadSize)
  (harea : c.readAreaStart + c.totalAreaSize = c.readAreaEnd)
  (hdata : c.totalDataSize = c.totalAreaSize / c.paddedReadSize * c.bufferSize)
include hp harea hdata

theorem interleaved_readInBounds (hstart : c.readAreaStart = 0) (hdvd : c.paddedReadSize ∣ c.totalAreaSize)
    {thread fuel : Nat} {reads : List FileDataOffsets}
    (hr : (interleavedScheme thread c).doWork fuel = some reads) : ∀ o ∈ reads, ReadInBounds c o := by
  intro o ho
  obtain ⟨k, rfl, hk⟩ := StrideScheme.mem_doWork hr ho
  obtain ⟨m, hm⟩ := hdvd
  have hfile : (interleavedScheme thread c).offsetsAfter k =
      ⟨c.paddedReadSize * (thread + k * c.numThreads), (thread + k * c.numThreads) * c.bufferSize⟩ := by
    simp only [StrideScheme.offsetsAfter, interleavedScheme, FileDataOffsets.mk.injEq]
    constructor <;> ring
  rw [hfile] at hk ⊢
  simp only [interleavedScheme, hm] at hk
  have hj := Nat.lt_of_mul_lt_mul_left hk
  simp only [ReadInBounds, hdata, hm, Nat.mul_div_cancel_left m hp]
  refine ⟨by omega, by omega, ?_⟩
  exact chunk_data_le hj

theorem greedy_readInBounds (hdvd : c.paddedReadSize ∣ c.totalAreaSize) {n : Nat}
    {q : GreedyPass}
    (hq : Relation.ReflTransGen (GreedyPass.Step c.totalAreaSize) (GreedyPass.init c n) q) :
    ∀ o ∈ q.reads, ReadInBounds c o := by
  intro o ho
  have hi := (GreedyPass.init_inv c n).reflTransGen hp hq
  obtain ⟨g, -, hA, -⟩ := hi.grabbed
  obtain ⟨k, -, rfl⟩ := hA o (List.mem_append_left _ ho)
  have hk := hi.reads_before_end _ ho
  obtain ⟨m, hm⟩ := hdvd
  simp only [GreedyDispenser.offsetsAfter, GreedyDispenser.new] at hk
  have hj : k < m := Nat.lt_of_mul_lt_mul_right (by rw [Nat.mul_comm m, ← hm]; omega)
  simp only [ReadInBounds, GreedyDispenser.offsetsAfter, GreedyDispenser.new, hdata, hm,
    Nat.mul_div_cancel_left m hp, Nat.zero_add]
  exact ⟨Nat.le_add_right _ _, by omega, chunk_data_le hj⟩

theorem evenDivision_readInBounds (hstart : c.readAreaStart = 0)
    (hdvd : c.paddedReadSize * c.numThreads ∣ c.totalAreaSize) {thread fuel : Nat}
    (ht : thread < c.numThreads) {reads : List FileDataOffsets}
    (hr : (evenDivisionScheme thread c).doWork fuel = some reads) : ∀ o ∈ reads, ReadInBounds c o := by
  intro o ho
  obtain ⟨k, rfl, hk⟩ := StrideScheme.mem_doWork hr ho
  obtain ⟨r, hrea⟩ := hdvd
  have hn : 0 < c.numThreads := by omega
  have hfd : c.totalAreaSize / c.numThreads = c.paddedReadSize * r := by
    rw [hrea, Nat.mul_right_comm, Nat.mul_div_cancel _ hn]
  have htotal : c.totalDataSize = c.numThreads * r * c.bufferSize := by
    rw [hdata, hrea, Nat.mul_assoc, Nat.mul_div_cancel_left _ hp]
  have hdd : c.totalDataSize / c.numThreads = r * c.bufferSize := by
    rw [htotal, Nat.mul_assoc, Nat.mul_div_cancel_left _ hn]
  simp only [evenDivisionScheme, hfd, StrideScheme.offsetsAfter] at hk
  have hkr : k < r :=
    @Nat.lt_of_mul_lt_mul_right c.paddedReadSize k r (by rw [Nat.mul_comm r]; omega)
  have hj : r * thread + k < r * c.numThreads := calc
    r * thread + k < r * thread + r := by omega
    _ = r * (thread + 1) := (Nat.mul_succ r thread).symm
    _ ≤ r * c.numThreads := Nat.mul_le_mul_left r ht
  have hoff : (evenDivisionScheme thread c).offsetsAfter k =
      ⟨c.paddedReadSize * (r * thread + k), (r * thread + k) * c.bufferSize⟩ := by
    simp only [StrideScheme.offsetsAfter, evenDivisionScheme, hfd, hdd, FileDataOffsets.mk.injEq]
    constructor <;> ring
  have hfile := Nat.mul_lt_mul_of_pos_left hj hp
  rw [hoff]
  simp only [ReadInBounds, htotal]
  refine ⟨by omega, ?_, Nat.mul_comm r c.numThreads ▸ chunk_data_le hj⟩
  rw [← harea, hstart, hrea, Nat.zero_add, Nat.mul_assoc, Nat.mul_comm c.numThreads]
  exact hfile

end Bounds

/-- When the area is made of whole chunks of `padded_read_size`, every read of any interleaving
of the threads of a greedy pass is in the area and writes its `buffer_size` bytes inside the
data vector. Once the area starts at byte `0`, so does every read of an interleaved pass, and
of an evenly divided pass whose divisions are made of whole chunks: those two schemes count
file offsets from byte `0`, not from `read_area_start`. -/
theorem reads_in_bounds_of_whole_chunks {config prepared : Configuration} {fileSize : Nat}
    (hprep : prepareFileAndData config fileSize = some prepared)
    (hp : 0 < prepared.paddedReadSize) :
    (prepared.paddedReadSize ∣ prepared.totalAreaSize → ∀ n q,
      Relation.ReflTransGen (GreedyPass.Step prepared.totalAreaSize) (GreedyPass.init prepared n) q →
        ∀ o ∈ q.reads, ReadInBounds prepared o) ∧
    (prepared.readAreaStart = 0 → prepared.paddedReadSize ∣ prepared.totalAreaSize →
      ∀ thread fuel reads, (interleavedScheme thread prepared).doWork fuel = some reads →
        ∀ o ∈ reads, ReadInBounds prepared o) ∧
    (prepared.readAreaStart = 0 →
      prepared.paddedReadSize * prepared.numThreads ∣ prepared.totalAreaSize →
      ∀ thread fuel reads, thread < prepared.numThreads →
        (evenDivisionScheme thread prepared).doWork fuel = some reads →
          ∀ o ∈ reads, ReadInBounds prepared o) := by
  obtain ⟨harea, hdata⟩ := prepareFileAndData_area hprep
  exact ⟨fun hdvd _ _ hq => greedy_readInBounds hp harea hdata hdvd hq,
    fun hs hdvd _ _ _ hr => interleaved_readInBounds hp harea hdata hs hdvd hr,
    fun hs hdvd _ _ _ ht hr => evenDivision_readInBounds hp harea hdata hs hdvd ht hr⟩

theorem reads_in_bounds_of_whole_chunks_scenario :
    prepareFileAndData
        { workScheme := .kInterleaved, fileApi := .kPosix, readAreaStart := 0, readAreaEnd := 0
          totalRead := 8, bufferSize := 4, paddedReadSize := 4, totalAreaSize := 0
          totalDataSize := 0, numThreads := 2 } 8 =
      some { workScheme := .kInterleaved, fileApi := .kPosix, readAreaStart := 0, readAreaEnd := 8
             totalRead := 8, bufferSize := 4, paddedReadSize := 4, totalAreaSize := 8
             totalDataSize := 8, numThreads := 2 } ∧
    (interleavedScheme 1
        { workScheme := .kInterleaved, fileApi := .kPosix, readAreaStart := 0, readAreaEnd := 8
          totalRead := 8, bufferSize := 4, paddedReadSize := 4, totalAreaSize := 8
          totalDataSize := 8, numThreads := 2 }).doWork 1 = some [⟨4, 4⟩] ∧
    ∀ o ∈ [(⟨4, 4⟩ : FileDataOffsets)], ReadInBounds
        { workScheme := .kInterleaved, fileApi := .kPosix, readAreaStart := 0, readAreaEnd := 8
          totalRead := 8, bufferSize := 4, paddedReadSize := 4, totalAreaSize := 8
          totalDataSize := 8, numThreads := 2 } o := by
  have hprep : prepareFileAndData
      { workScheme := .kInterleaved, fileApi := .kPosix, readAreaStart := 0, readAreaEnd := 0
        totalRead := 8, bufferSize := 4, paddedReadSize := 4, totalAreaSize := 0
        totalDataSize := 0, numThreads := 2 } 8 =
      some { workScheme := .kInterleaved, fileApi := .kPosix, readAreaStart := 0, readAreaEnd := 8
             totalRead := 8, bufferSize := 4, paddedReadSize := 4, totalAreaSize := 8
             totalDataSize := 8, numThreads := 2 } := by decide
  have hr : (interleavedScheme 1
      { workScheme := .kInterleaved, fileApi := .kPosix, readAreaStart := 0, readAreaEnd := 8
        totalRead := 8, bufferSize := 4, paddedReadSize := 4, totalAreaSize := 8
        totalDataSize := 8, numThreads := 2 }).doWork 1 = some [⟨4, 4⟩] := by decide
  exact ⟨hprep, hr,
    (reads_in_bounds_of_whole_chunks hprep (by decide)).2.1 rfl (by decide) 1 1 _ hr⟩

/-- `_avoid_seek` of `CApi` and `CppStreams`: under `kDividedEvenly` with whole padded chunks,
a read goes on from where the last one stopped, without a seek. -/
def avoidSeek (config : Configuration) : Bool :=
  config.workScheme = .kDividedEvenly ∧ config.paddedReadSize = config.bufferSize

/-- Where `Read` of the thread's file API starts, given the scheme's offsets and the file
position its last read left: `pread` and a seek start at the scheme's file offset, the others
where the last read stopped. -/
def readStart (config : Configuration) (position : Nat) (offsets : FileDataOffsets) : Nat :=
  match config.fileApi with
  | .kPosix => offsets.file
  | .kCApi | .kCppStreams => if avoidSeek config then position else offsets.file

/-- `Read`: where it starts, and the position after it. `fread` and `ifstream::read` read at
most `buffer_size` bytes, none past the end of the file, and move on by what they read. -/
def readAt (config : Configuration) (fileSize position : Nat) (offsets : FileDataOffsets) :
    Nat × Nat :=
  (readStart config position offsets,
    readStart config position offsets + min config.bufferSize
      (fileSize - readStart config position offsets))

/-- The positions the reads of one `DoWork` loop start at; the thread opens its file at `0`. -/
def readPositions (config : Configuration) (fileSize : Nat) : Nat → List FileDataOffsets → List Nat
  | _, [] => []
  | position, o :: os =>
    (readAt config fileSize position o).1 ::
      readPositions config fileSize (readAt config fileSize position o).2 os

theorem readStart_of_avoidSeek {config : Configuration} (hapi : config.fileApi ≠ .kPosix)
    (hs : avoidSeek config = true) (position : Nat) (offsets : FileDataOffsets) :
    readStart config position offsets = position := by
  cases h : config.fileApi <;> simp_all [readStart]

theorem readPositions_of_avoidSeek {config : Configuration} (hapi : config.fileApi ≠ .kPosix)
    (hs : avoidSeek config = true) (fileSize : Nat) (reads : List FileDataOffsets) {position : Nat}
    (hp : position ≤ fileSize) :
    readPositions config fileSize position reads =
      (List.range reads.length).map fun k => min (position + k * config.bufferSize) fileSize := by
  induction reads generalizing position with
  | nil => rfl
  | cons o os ih =>
    have hnext : position + min config.bufferSize (fileSize - position) =
        min (position + config.bufferSize) fileSize := by omega
    rw [readPositions, readAt, readStart_of_avoidSeek hapi hs, hnext, ih (min_le_right _ _),
      List.length_cons, List.range_succ_eq_map, List.map_cons, List.map_map]
    refine congrArg₂ _ (by simp [hp]) (List.map_congr_left fun k _ => ?_)
    simp only [Function.comp, Nat.succ_mul]
    omega

/-- With `fread` or `ifstream::read` and no seek, a thread of an evenly divided pass reads at
file positions `0`, `buffer_size`, `2 * buffer_size`, and so on up to the end of the file,
while its scheme's offsets are those of its own division: every thread reads the start of the
file. -/
theorem avoidSeek_reads_from_file_start (config : Configuration) (hapi : config.fileApi ≠ .kPosix)
    (hs : avoidSeek config = true) (fileSize thread fuel : Nat) (reads : List FileDataOffsets)
    (hr : (evenDivisionScheme thread config).doWork fuel = some reads) :
    reads = (List.range reads.length).map (evenDivisionScheme thread config).offsetsAfter ∧
      readPositions config fileSize 0 reads =
        (List.range reads.length).map fun k => min (k * config.bufferSize) fileSize := by
  refine ⟨(StrideScheme.doWork_eq_some hr).1, ?_⟩
  rw [readPositions_of_avoidSeek hapi hs fileSize reads (Nat.zero_le _)]
  simp only [Nat.zero_add]

theorem avoidSeek_reads_from_file_start_scenario :
    ({ workScheme := .kDividedEvenly, fileApi := .kCApi, readAreaStart := 0, readAreaEnd := 8
       totalRead := 8, bufferSize := 4, paddedReadSize := 4, totalAreaSize := 8
       totalDataSize := 8, numThreads := 2 } : Configuration).fileApi ≠ .kPosix ∧
      avoidSeek { workScheme := .kDividedEvenly, fileApi := .kCApi, readAreaStart := 0
                  readAreaEnd := 8, totalRead := 8, bufferSize := 4, paddedReadSize := 4
                  totalAreaSize := 8, totalDataSize := 8, numThreads := 2 } = true ∧
      (evenDivisionScheme 1
        { workScheme := .kDividedEvenly, fileApi := .kCApi, readAreaStart := 0, readAreaEnd := 8
          totalRead := 8, bufferSize := 4, paddedReadSize := 4, totalAreaSize := 8
          totalDataSize := 8, numThreads := 2 }).doWork 1 = some [⟨4, 4⟩] ∧
      readPositions
        { workScheme := .kDividedEvenly, fileApi := .kCApi, readAreaStart := 0, readAreaEnd := 8
          totalRead := 8, bufferSize := 4, paddedReadSize := 4, totalAreaSize := 8
          totalDataSize := 8, numThreads := 2 } 8 0 [⟨4, 4⟩] = [0] :=
  ⟨by decide, by decide, by decide, by
    simpa using (avoidSeek_reads_from_file_start
      { workScheme := .kDividedEvenly, fileApi := .kCApi, readAreaStart := 0, readAreaEnd := 8
        totalRead := 8, bufferSize := 4, paddedReadSize := 4, totalAreaSize := 8
        totalDataSize := 8, numThreads := 2 } (by decide) (by decide) 8 1 1 [⟨4, 4⟩] (by decide)).2⟩

end IOPerformance
