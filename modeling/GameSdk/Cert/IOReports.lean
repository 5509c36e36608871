import GameSdk.Cert.IOPerformance

/-!
# Reports of the IO performance operation

The `Datum`s a thread of `IOPerformanceOperation` hands its `Reporter`, through a `DirectBuffer`
when `buffer_align` is `-1` and an `OwnedBuffer` otherwise. A read or a copy that writes past
the data vector, and `CopyFrom`'s `assert` unless `NDEBUG` is defined, give `none`. The clock
maps the number of readings taken to a time: reading `0` is the constructor's, reading `k + 1`
that of the `DataTouched` after read `k + 1`.
-/

namespace IOPerformance

/-- What `Read` of the thread's file API returns for each read of one `DoWork` loop, the file
opened at `0`: the bytes from where it starts to the end of the file, at most `buffer_size`.
An `ifstream::read` that comes back short sets `failbit`; from then on `seekg` and `read` do
nothing, and `gcount` is `0`. -/
def readCounts (config : Configuration) (fileSize : Nat) :
    Nat → Bool → List FileDataOffsets → List Nat
  | _, _, [] => []
  | position, failed, o :: os =>
    let count :=
      if failed then 0 else min config.bufferSize (fileSize - readStart config position o)
    count :: readCounts config fileSize
      (if failed then position else readStart config position o + count)
      (failed || (config.fileApi == .kCppStreams && count < config.bufferSize)) os

theorem length_readCounts (config : Configuration) (fileSize position : Nat) (failed : Bool)
    (reads : List FileDataOffsets) :
    (readCounts config fileSize position failed reads).length = reads.length := by
  induction reads generalizing position failed with
  | nil => rfl
  | cons o os ih => simp only [readCounts, List.length_cons, ih]

/-- Whether `size` bytes written at the read's data offset `o.data` of a data vector of
`dataSize` bytes let the thread go on: they land in the vector and, when `checked`,
`CopyFrom`'s `assert` of `o.data + size < dataSize` holds. -/
def readLands (checked : Bool) (dataSize : Nat) (o : FileDataOffsets) (size : Nat) : Bool :=
  (!checked || decide (o.data + size < dataSize)) && decide (o.data + size ≤ dataSize)

/-- The fields of `DirectBuffer` its reports read. -/
structure DirectBuffer where
  lastReport : Int
  reportRate : Int
  bytesRead : Nat

namespace DirectBuffer

/-- The constructor, at the clock's reading `now`. -/
def new (reportRate now : Int) : DirectBuffer := ⟨now, reportRate, 0⟩

/-- `ReportReads`: one `Datum`, of the bytes read so far. -/
def reportReads (b : DirectBuffer) : List Nat := [b.bytesRead]

/-- `DataTouched`, at the clock's reading `now`. -/
def dataTouched (b : DirectBuffer) (now : Int) : DirectBuffer × List Nat :=
  if b.lastReport < now + b.reportRate then ({ b with lastReport := now }, b.reportReads)
  else (b, [])

/-- What `ReadFrom` and `CopyFrom` share once the bytes are in: count them, then
`DataTouched`. -/
def addBytes (b : DirectBuffer) (bytes : Nat) (now : Int) : DirectBuffer × List Nat :=
  dataTouched { b with bytesRead := b.bytesRead + bytes } now

/-- `ReadFrom`, where `Read` wrote `count` bytes at `GetData()`, the read's data offset `o`:
`none` when they do not all land in the data vector of `dataSize` bytes. -/
def readFrom (b : DirectBuffer) (dataSize : Nat) (o : FileDataOffsets) (count : Nat) (now : Int) :
    Option (DirectBuffer × List Nat) :=
  if readLands false dataSize o count then some (b.addBytes count now) else none

/-- `CopyFrom`, of `size` bytes at the read's data offset `o`. Unless `NDEBUG` is defined its
`assert` aborts when they reach the vector's last byte; `memcpy` then writes them, past the
vector when they do not fit. -/
def copyFrom (ndebug : Bool) (b : DirectBuffer) (dataSize : Nat) (o : FileDataOffsets)
    (size : Nat) (now : Int) : Option (DirectBuffer × List Nat) :=
  if readLands (!ndebug) dataSize o size then some (b.addBytes size now) else none

/-- The destructor. -/
def destroy (b : DirectBuffer) : List Nat := if b.bytesRead ≠ 0 then b.reportReads else []

theorem addBytes_eq (b : DirectBuffer) (bytes : Nat) (now : Int) :
    b.addBytes bytes now =
      if b.lastReport < now + b.reportRate then
        (⟨now, b.reportRate, b.bytesRead + bytes⟩, [b.bytesRead + bytes])
      else (⟨b.lastReport, b.reportRate, b.bytesRead + bytes⟩, []) := by
  unfold addBytes dataTouched reportReads
  split <;> rfl

end DirectBuffer

/-- The fields of `OwnedBuffer` its reports read: `_buf_size` and the inner buffer. -/
structure OwnedBuffer where
  bufSize : Nat
  databuffer : DirectBuffer

namespace OwnedBuffer

/-- The constructor: `FatalError` unless `buffer_align` is `0`. -/
def new (bufferSize : Nat) (bufferAlign reportRate now : Int) : Option OwnedBuffer :=
  if bufferAlign ≠ 0 then none else some ⟨bufferSize, DirectBuffer.new reportRate now⟩

/-- `ReadFrom`: `Read` fills the thread's own block, what it returned is dropped, and
`_buf_size` bytes are copied over. -/
def readFrom (ndebug : Bool) (ob : OwnedBuffer) (dataSize : Nat) (o : FileDataOffsets)
    (_count : Nat) (now : Int) : Option (OwnedBuffer × List Nat) :=
  (ob.databuffer.copyFrom ndebug dataSize o ob.bufSize now).map fun r =>
    ({ ob with databuffer := r.1 }, r.2)

/-- The destructor frees the block; the inner buffer's destructor then runs. -/
def destroy (ob : OwnedBuffer) : List Nat := ob.databuffer.destroy

end OwnedBuffer

/-- The loop of `DoWork(scheme, buffer, file)` as the buffer sees it: one `ReadFrom` for each
read, at its offsets and with the count `Read` returns, the first at the clock's reading `k`;
`none` once a read faults. -/
def readLoop {B : Type} (readFrom : B → FileDataOffsets → Nat → Int → Option (B × List Nat))
    (b : B) (clock : Nat → Int) : Nat → List (FileDataOffsets × Nat) → Option (B × List Nat)
  | _, [] => some (b, [])
  | k, (o, count) :: steps =>
    (readFrom b o count (clock k)).bind fun r =>
      (readLoop readFrom r.1 clock (k + 1) steps).map fun r' => (r'.1, r.2 ++ r'.2)

/-- The `Datum`s of one thread's `DoWork(thread_config, scheme)` over its scheme's reads: the
buffer `buffer_align` selects, the loop, then the buffer's destructor. `none` is the
`FatalError` of `OwnedBuffer`'s constructor, or a read that faults. -/
def threadReports (ndebug : Bool) (config : Configuration) (fileSize : Nat)
    (bufferAlign reportRate : Int) (clock : Nat → Int) (reads : List FileDataOffsets) :
    Option (List Nat) :=
  let steps := reads.zip (readCounts config fileSize 0 false reads)
  if bufferAlign = -1 then
    (readLoop (·.readFrom config.totalDataSize) (DirectBuffer.new reportRate (clock 0)) clock 1
      steps).map fun r => r.2 ++ r.1.destroy
  else
    (OwnedBuffer.new config.bufferSize bufferAlign reportRate (clock 0)).bind fun ob =>
      (readLoop (OwnedBuffer.readFrom ndebug · config.totalDataSize) ob clock 1 steps).map
        fun r => r.2 ++ r.1.destroy

/-- The accounting of a `DirectBuffer` over reads that all land, each adding its count. -/
def reportsLoop (b : DirectBuffer) (clock : Nat → Int) : Nat → List Nat → DirectBuffer × List Nat
  | _, [] => (b, [])
  | k, count :: counts =>
    ((reportsLoop (b.addBytes count (clock k)).1 clock (k + 1) counts).1,
      (b.addBytes count (clock k)).2 ++ (reportsLoop (b.addBytes count (clock k)).1 clock (k + 1) counts).2)

/-- The bytes each read adds to a thread's count: what `Read` returned with a `DirectBuffer`,
`buffer_size` with an `OwnedBuffer`. -/
def threadCounts (config : Configuration) (fileSize : Nat) (bufferAlign : Int)
    (reads : List FileDataOffsets) : Option (List Nat) :=
  if bufferAlign = -1 then some (readCounts config fileSize 0 false reads)
  else if bufferAlign = 0 then some (reads.map fun _ => config.bufferSize)
  else none

/-- The bytes read so far after each of a run of reads, from `start`. -/
def runningTotals : Nat → List Nat → List Nat
  | _, [] => []
  | total, n :: ns => (total + n) :: runningTotals (total + n) ns

/-- All the bytes of a run of reads. -/
def bytesTotal (counts : List Nat) : Nat := counts.foldl (· + ·) 0

/-- The `Datum` a destructor sends for a total: none for `0`. -/
def finalDatum (total : Nat) : List Nat := if total = 0 then [] else [total]

theorem DirectBuffer.destroy_eq (b : DirectBuffer) : b.destroy = finalDatum b.bytesRead := by
  unfold DirectBuffer.destroy DirectBuffer.reportReads finalDatum
  split_ifs <;> first | rfl | omega

theorem readCounts_le (config : Configuration) (fileSize position : Nat) (failed : Bool)
    (reads : List FileDataOffsets) : ∀ c ∈ readCounts config fileSize position failed reads,
      c ≤ config.bufferSize := by
  induction reads generalizing position failed with
  | nil => exact fun _ h => absurd h (List.not_mem_nil _)
  | cons o os ih =>
    refine List.forall_mem_cons.mpr ⟨?_, ih _ _⟩
    split
    · exact Nat.zero_le _
    · exact min_le_left _ _

section Loop

variable (clock : Nat → Int)

/-- A loop of reads that each either fault or add bytes runs as `reportsLoop` when none
faults. Both buffers' reads have this form. -/
theorem readLoop_eq_reportsLoop (step : DirectBuffer → FileDataOffsets → Nat → Int →
      Option (DirectBuffer × List Nat)) {ok : FileDataOffsets → Nat → Bool}
    {bytes : FileDataOffsets → Nat → Nat}
    (hstep : ∀ b o c now, step b o c now = if ok o c then some (b.addBytes (bytes o c) now) else none)
    (b : DirectBuffer) (k : Nat) (steps : List (FileDataOffsets × Nat)) :
    readLoop step b clock k steps = if steps.all (fun s => ok s.1 s.2) then
      some (reportsLoop b clock k (steps.map fun s => bytes s.1 s.2)) else none := by
  induction steps generalizing b k with
  | nil => rfl
  | cons s ss ih =>
    obtain ⟨o, c⟩ := s
    rw [readLoop, hstep, List.all_cons]
    cases ok o c
    · rfl
    · rw [if_pos rfl, Option.some_bind, ih, Bool.true_and]
      split <;> rfl

/-- An `OwnedBuffer` runs its inner buffer's `CopyFrom` of `_buf_size` for every read. -/
theorem readLoop_ownedBuffer (ndebug : Bool) (ob : OwnedBuffer) (dataSize k : Nat)
    (steps : List (FileDataOffsets × Nat)) :
    readLoop (OwnedBuffer.readFrom ndebug · dataSize) ob clock k steps =
      (readLoop (fun b o _ now => b.copyFrom ndebug dataSize o ob.bufSize now) ob.databuffer
        clock k steps).map (Prod.map (OwnedBuffer.mk ob.bufSize) id) := by
  induction steps generalizing ob k with
  | nil => rfl
  | cons s ss ih =>
    obtain ⟨o, c⟩ := s
    simp only [readLoop, OwnedBuffer.readFrom, Option.bind_map]
    cases ob.databuffer.copyFrom ndebug dataSize o ob.bufSize (clock k) with
    | none => rfl
    | some r =>
      simp only [Option.some_bind, Function.comp, ih, Option.map_map]
      rfl

theorem reportsLoop_bytesRead (b : DirectBuffer) (k : Nat) (counts : List Nat) :
    (reportsLoop b clock k counts).1.bytesRead = counts.foldl (· + ·) b.bytesRead := by
  induction counts generalizing b k with
  | nil => rfl
  | cons c cs ih =>
    rw [reportsLoop, ih, List.foldl_cons, DirectBuffer.addBytes_eq]
    split <;> rfl

/-- Whatever the clock and the rate, every report of the loop is the running total after one
of its reads, in order. -/
theorem reportsLoop_sublist (b : DirectBuffer) (k : Nat) (counts : List Nat) :
    List.Sublist (reportsLoop b clock k counts).2 (runningTotals b.bytesRead counts) := by
  induction counts generalizing b k with
  | nil => exact List.Sublist.slnil
  | cons c cs ih =>
    rw [reportsLoop, runningTotals, DirectBuffer.addBytes_eq]
    split
    · exact (ih _ _).cons₂ _
    · exact (ih _ _).cons _

/-- With a positive rate and a clock that never goes back, `DataTouched` reports after every
read: the last report is never later than the next reading. -/
theorem reportsLoop_of_pos (hclock : ∀ k, clock k ≤ clock (k + 1)) (b : DirectBuffer)
    (hrate : 0 < b.reportRate) (k : Nat) (hlast : b.lastReport ≤ clock k) (counts : List Nat) :
    (reportsLoop b clock k counts).2 = runningTotals b.bytesRead counts := by
  induction counts generalizing b k with
  | nil => rfl
  | cons c cs ih =>
    rw [reportsLoop, runningTotals, DirectBuffer.addBytes_eq, if_pos (by omega)]
    exact congrArg _ (ih ⟨clock k, b.reportRate, b.bytesRead + c⟩ hrate (k + 1) (hclock k))

end Loop

/-- A check of each read against one size, over the reads paired with counts of their length. -/
theorem all_zip_fst (p : FileDataOffsets → Nat → Bool) (n : Nat) (reads : List FileDataOffsets)
    (counts : List Nat) (hl : counts.length = reads.length) :
    (reads.zip counts).all (fun s => p s.1 n) = reads.all (p · n) := by
  induction reads generalizing counts with
  | nil => rfl
  | cons o os ih =>
    cases counts with
    | nil => cases hl
    | cons c cs => simp only [List.zip_cons_cons, List.all_cons, ih cs (Nat.succ.inj hl)]

theorem all_zip_map_const (p : FileDataOffsets → Nat → Bool) (n : Nat)
    (reads : List FileDataOffsets) :
    (reads.zip (reads.map fun _ => n)).all (fun s => p s.1 s.2) = reads.all (p · n) := by
  induction reads with
  | nil => rfl
  | cons o os ih => simp only [List.map_cons, List.zip_cons_cons, List.all_cons, ih]

/-- A thread's reports depend on its reads only through the bytes each adds to its count,
once each lands: the `assert` of `CopyFrom` is checked with an `OwnedBuffer` unless `NDEBUG`
is defined. -/
theorem threadReports_eq (ndebug : Bool) (config : Configuration) (fileSize : Nat)
    (bufferAlign reportRate : Int) (clock : Nat → Int) (reads : List FileDataOffsets) :
    threadReports ndebug config fileSize bufferAlign reportRate clock reads =
      (threadCounts config fileSize bufferAlign reads).bind fun counts =>
        if (reads.zip counts).all (fun s =>
            readLands (bufferAlign ≠ -1 && !ndebug) config.totalDataSize s.1 s.2) then
          some ((reportsLoop (DirectBuffer.new reportRate (clock 0)) clock 1 counts).2 ++
            finalDatum (bytesTotal counts))
        else none := by
  have hlen := length_readCounts config fileSize 0 false reads
  unfold threadReports threadCounts
  dsimp only
  split_ifs with h₁ h₂
  · rw [readLoop_eq_reportsLoop clock (·.readFrom config.totalDataSize) (fun _ _ _ _ => rfl),
      Option.some_bind, List.map_snd_zip _ _ hlen.le]
    simp only [h₁, ne_eq, not_true_eq_false, decide_False, Bool.false_and]
    split
    · simp only [Option.map_some', DirectBuffer.destroy_eq, reportsLoop_bytesRead]
      rfl
    · rfl
  · rw [OwnedBuffer.new, if_neg (not_not.mpr h₂), Option.some_bind, Option.some_bind,
      readLoop_ownedBuffer]
    dsimp only
    rw [readLoop_eq_reportsLoop clock
        (fun b o _ now => b.copyFrom ndebug config.totalDataSize o config.bufferSize now)
        (fun _ _ _ _ => rfl),
      all_zip_fst _ _ _ _ hlen, all_zip_map_const, List.map_const', List.map_const',
      List.length_zip, hlen, min_self]
    simp only [h₁, ne_eq, not_false_eq_true, decide_True, Bool.true_and]
    split
    · simp only [Option.map_some', Prod.map_fst, Prod.map_snd, OwnedBuffer.destroy,
        DirectBuffer.destroy_eq, reportsLoop_bytesRead]
      rfl
    · rfl
  · rw [OwnedBuffer.new, if_pos h₂]
    rfl

/-- Whatever the clock and `report_rate`, a thread that does not fault sends some of the
running totals of the bytes its reads add, in order, and then, from its buffer's destructor,
their total unless it is `0`. -/
theorem thread_reports_running_totals {ndebug : Bool} {config : Configuration} {fileSize : Nat}
    {bufferAlign reportRate : Int} {clock : Nat → Int} {reads : List FileDataOffsets}
    {rs : List Nat}
    (h : threadReports ndebug config fileSize bufferAlign reportRate clock reads = some rs) :
    ∃ counts sent, threadCounts config fileSize bufferAlign reads = some counts ∧
      List.Sublist sent (runningTotals 0 counts) ∧ rs = sent ++ finalDatum (bytesTotal counts) := by
  rw [threadReports_eq] at h
  obtain ⟨counts, hc, h⟩ := Option.bind_eq_some.mp h
  split at h
  · cases h
    exact ⟨counts, _, hc, reportsLoop_sublist clock _ 1 counts, rfl⟩
  · cases h

theorem thread_reports_running_totals_scenario :
    threadReports false
        { workScheme := .kDividedEvenly, fileApi := .kCppStreams, readAreaStart := 0
          readAreaEnd := 12, totalRead := 12, bufferSize := 4, paddedReadSize := 4
          totalAreaSize := 12, totalDataSize := 12, numThreads := 1 }
        10 (-1) 0 (fun _ => 0) [⟨0, 0⟩, ⟨4, 4⟩, ⟨8, 8⟩] = some [10] ∧
      ∃ counts sent, threadCounts
          { workScheme := .kDividedEvenly, fileApi := .kCppStreams, readAreaStart := 0
            readAreaEnd := 12, totalRead := 12, bufferSize := 4, paddedReadSize := 4
            totalAreaSize := 12, totalDataSize := 12, numThreads := 1 }
          10 (-1) [⟨0, 0⟩, ⟨4, 4⟩, ⟨8, 8⟩] = some counts ∧
        List.Sublist sent (runningTotals 0 counts) ∧ [10] = sent ++ finalDatum (bytesTotal counts) :=
  ⟨by decide, @thread_reports_running_totals false _ _ _ 0 (fun _ => 0) _ _ (by decide)⟩

/-- Every read of a thread lands in the data vector with `buffer_size` bytes, and the `assert`
of `CopyFrom` holds where an `OwnedBuffer` checks it. -/
def ReadsFit (ndebug : Bool) (config : Configuration) (bufferAlign : Int)
    (reads : List FileDataOffsets) : Prop :=
  ∀ o ∈ reads, o.data + config.bufferSize ≤ config.totalDataSize ∧
    (bufferAlign = -1 ∨ ndebug = true ∨ o.data + config.bufferSize < config.totalDataSize)

/-- A read adds at most `buffer_size` bytes, and with an `OwnedBuffer` exactly that many. -/
theorem count_le_of_threadCounts {config : Configuration} {fileSize : Nat} {bufferAlign : Int}
    {reads : List FileDataOffsets} {counts : List Nat}
    (hc : threadCounts config fileSize bufferAlign reads = some counts) {s : FileDataOffsets × Nat}
    (hs : s ∈ reads.zip counts) :
    s.2 ≤ config.bufferSize ∧ (bufferAlign ≠ -1 → s.2 = config.bufferSize) := by
  unfold threadCounts at hc
  split_ifs at hc with h₁ <;> cases hc
  · exact ⟨readCounts_le _ _ _ _ _ _ (List.of_mem_zip hs).2, fun h => absurd h₁ h⟩
  · obtain ⟨o, -, ho⟩ := List.mem_map.mp (List.of_mem_zip hs).2
    exact ⟨ho ▸ le_rfl, fun _ => ho.symm⟩

/-- A read that fits lands, whatever it adds up to `buffer_size`; where `CopyFrom`'s `assert`
is checked the read adds `buffer_size`, which the fit keeps inside. -/
theorem readLands_of_fit {ndebug : Bool} {bufferAlign : Int} {dataSize bufferSize : Nat}
    {o : FileDataOffsets} {count : Nat}
    (hfit : o.data + bufferSize ≤ dataSize ∧
      (bufferAlign = -1 ∨ ndebug = true ∨ o.data + bufferSize < dataSize))
    (hcount : count ≤ bufferSize ∧ (bufferAlign ≠ -1 → count = bufferSize)) :
    readLands (bufferAlign ≠ -1 && !ndebug) dataSize o count = true := by
  obtain ⟨hle, hassert⟩ := hfit
  simp only [readLands, Bool.and_eq_true, Bool.or_eq_true, Bool.not_eq_true', decide_eq_true_eq,
    Bool.and_eq_false_iff, decide_eq_false_iff_not, Bool.not_eq_false', ne_eq, not_not]
  refine ⟨?_, by omega⟩
  rcases hassert with h | h | h
  · exact Or.inl (Or.inl h)
  · exact Or.inl (Or.inr h)
  · by_cases hb : bufferAlign = -1
    · exact Or.inl (Or.inl hb)
    · exact Or.inr (by rw [hcount.2 hb]; exact h)

/-- With a positive `report_rate` and a steady clock the rate holds nothing back: a thread
whose reads fit reports the running total after every read, then the total once more. With an
`OwnedBuffer` every read counts `buffer_size`, whatever `Read` returned. -/
theorem positive_rate_reports_every_read (ndebug : Bool) (config : Configuration) (fileSize : Nat)
    (bufferAlign : Int) {reportRate : Int} (hrate : 0 < reportRate) {clock : Nat → Int}
    (hclock : ∀ k, clock k ≤ clock (k + 1)) {reads : List FileDataOffsets}
    (hfit : ReadsFit ndebug config bufferAlign reads) :
    threadReports ndebug config fileSize bufferAlign reportRate clock reads =
      (threadCounts config fileSize bufferAlign reads).map fun counts =>
        runningTotals 0 counts ++ finalDatum (bytesTotal counts) := by
  rw [threadReports_eq, Option.map_eq_bind]
  refine Option.bind_congr fun counts hc => ?_
  have hall : (reads.zip counts).all (fun s =>
      readLands (bufferAlign ≠ -1 && !ndebug) config.totalDataSize s.1 s.2) = true :=
    List.all_eq_true.mpr fun s hs =>
      readLands_of_fit (hfit s.1 (List.of_mem_zip hs).1) (count_le_of_threadCounts hc hs)
  rw [if_pos hall, reportsLoop_of_pos clock hclock _ hrate 1 (hclock 0)]
  rfl

theorem positive_rate_reports_every_read_scenario :
    0 < (5 : Int) ∧ (∀ k : Nat, (k : Int) ≤ (k + 1 : Nat)) ∧
      ReadsFit false
        { workScheme := .kDividedEvenly, fileApi := .kPosix, readAreaStart := 0
          readAreaEnd := 12, totalRead := 12, bufferSize := 4, paddedReadSize := 4
          totalAreaSize := 12, totalDataSize := 12, numThreads := 1 } 0 [⟨0, 0⟩, ⟨4, 4⟩] ∧
      threadReports false
          { workScheme := .kDividedEvenly, fileApi := .kPosix, readAreaStart := 0
            readAreaEnd := 12, totalRead := 12, bufferSize := 4, paddedReadSize := 4
            totalAreaSize := 12, totalDataSize := 12, numThreads := 1 }
          12 0 5 (fun k => (k : Int)) [⟨0, 0⟩, ⟨4, 4⟩] = some [4, 8, 8] := by
  have hfit : ReadsFit false
      { workScheme := .kDividedEvenly, fileApi := .kPosix, readAreaStart := 0
        readAreaEnd := 12, totalRead := 12, bufferSize := 4, paddedReadSize := 4
        totalAreaSize := 12, totalDataSize := 12, numThreads := 1 } 0 [⟨0, 0⟩, ⟨4, 4⟩] := by
    intro o ho
    rcases List.mem_pair.mp ho with rfl | rfl <;> decide
  refine ⟨by decide, fun k => Int.ofNat_le.mpr k.le_succ, hfit, ?_⟩
  rw [positive_rate_reports_every_read _ _ _ _ (by decide) (fun k => Int.ofNat_le.mpr k.le_succ) hfit]
  decide

/-- With an `OwnedBuffer` and `assert` compiled in, a thread aborts as soon as it reads a chunk
that ends at the data vector's end, though its bytes fit: `CopyFrom` asks for
`o.data + size < dataSize`, one byte more than they need. -/
theorem ownedBuffer_assert_aborts_last_chunk (config : Configuration) (fileSize : Nat)
    (reportRate : Int) (clock : Nat → Int) {reads : List FileDataOffsets}
    (hlast : ∃ o ∈ reads, config.totalDataSize ≤ o.data + config.bufferSize) :
    threadReports false config fileSize 0 reportRate clock reads = none := by
  obtain ⟨o, ho, hle⟩ := hlast
  have hfail : reads.all (readLands true config.totalDataSize · config.bufferSize) = false :=
    List.all_eq_false.mpr ⟨o, ho, by simp [readLands, Nat.not_lt.mpr hle]⟩
  rw [threadReports_eq, threadCounts, if_neg (by decide), if_pos rfl, Option.some_bind,
    all_zip_map_const]
  exact if_neg (by simpa using hfail)

/-- A thread of one `OwnedBuffer` reading the three chunks of a 12-byte data vector aborts at
the last one, unless `NDEBUG` is defined. -/
theorem ownedBuffer_assert_aborts_last_chunk_scenario :
    (∃ o ∈ [(⟨0, 0⟩ : FileDataOffsets), ⟨4, 4⟩, ⟨8, 8⟩], 12 ≤ o.data + 4) ∧
      threadReports false
          { workScheme := .kDividedEvenly, fileApi := .kPosix, readAreaStart := 0
            readAreaEnd := 12, totalRead := 12, bufferSize := 4, paddedReadSize := 4
            totalAreaSize := 12, totalDataSize := 12, numThreads := 1 }
          12 0 0 (fun _ => 0) [⟨0, 0⟩, ⟨4, 4⟩, ⟨8, 8⟩] = none ∧
      threadReports true
          { workScheme := .kDividedEvenly, fileApi := .kPosix, readAreaStart := 0
            readAreaEnd := 12, totalRead := 12, bufferSize := 4, paddedReadSize := 4
            totalAreaSize := 12, totalDataSize := 12, numThreads := 1 }
          12 0 0 (fun _ => 0) [⟨0, 0⟩, ⟨4, 4⟩, ⟨8, 8⟩] = some [12] :=
  have hlast : ∃ o ∈ [(⟨0, 0⟩ : FileDataOffsets), ⟨4, 4⟩, ⟨8, 8⟩], 12 ≤ o.data + 4 :=
    ⟨⟨8, 8⟩, by simp⟩
  ⟨hlast, ownedBuffer_assert_aborts_last_chunk _ 12 0 (fun _ => 0) hlast, by decide⟩

end IOPerformance
