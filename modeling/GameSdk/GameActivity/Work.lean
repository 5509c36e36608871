import Mathlib.Data.List.Nodup
import GameSdk.Swappy.StdMap

/-!
# The work pipe of GameActivity

The `GameActivity_*` requests, from any thread, `write_work` an `ActivityWork` record to a pipe,
and `mainWorkCallback` on the main thread `read_work`s one and runs its command;
`setTextInputState` passes a `malloc`'d copy of the state that the main thread frees. A record
is written whole or not at all (it is below `PIPE_BUF`), and any order of calls is an
interleaving of the threads. Blocks are numbered in the order they are allocated; logging, JNI
exceptions and the destructor are left out.
-/

namespace GameActivity

open Swappy (StdMap)

/-- `ActivityWork`: an `int32_t` command and two `int64_t` arguments. -/
structure ActivityWork where
  cmd : Int
  arg1 : Int
  arg2 : Int
  deriving DecidableEq, Repr

def CMD_FINISH : Int := 1
def CMD_SET_WINDOW_FORMAT : Int := 2
def CMD_SET_WINDOW_FLAGS : Int := 3
def CMD_SHOW_SOFT_INPUT : Int := 4
def CMD_HIDE_SOFT_INPUT : Int := 5
def CMD_SET_SOFT_INPUT_STATE : Int := 6

/-- A call the main thread makes for a command, with what it passes: the Java methods
`finish`, `setWindowFormat` and `setWindowFlags`, and `GameInput_showIme`, `GameInput_setState`
(given the state the block holds) and `GameInput_hideIme`. -/
inductive MainCall
  | finish
  | setWindowFormat (format : Int)
  | setWindowFlags (values mask : Int)
  | showIme (flags : Int)
  | setState (state : Nat)
  | hideIme (flags : Int)
  deriving DecidableEq, Repr

/-- The records in the pipe, oldest first; the blocks `GameActivity_setTextInputState` has
allocated and not freed, with the state each holds; the number of blocks allocated so far; and
the calls the main thread has made. -/
structure WorkPipe where
  pipe : List ActivityWork
  heap : StdMap Nat
  allocated : Nat
  mainCalls : List MainCall

namespace WorkPipe

/-- An empty pipe. -/
def initial : WorkPipe := ⟨[], .empty, 0, []⟩

/-- `write_work(fd, cmd, arg1, arg2)`, given whether `write` writes the record. -/
def writeWork (s : WorkPipe) (ok : Bool) (cmd arg1 arg2 : Int) : WorkPipe :=
  if ok then { s with pipe := s.pipe ++ [⟨cmd, arg1, arg2⟩] } else s

@[simp] theorem writeWork_heap (s : WorkPipe) (ok : Bool) (cmd arg1 arg2 : Int) :
    (s.writeWork ok cmd arg1 arg2).heap = s.heap := by
  cases ok <;> rfl

@[simp] theorem writeWork_allocated (s : WorkPipe) (ok : Bool) (cmd arg1 arg2 : Int) :
    (s.writeWork ok cmd arg1 arg2).allocated = s.allocated := by
  cases ok <;> rfl

/-- `GameActivity_finish`. -/
def finish (s : WorkPipe) (ok : Bool) : WorkPipe := s.writeWork ok CMD_FINISH 0 0

/-- `GameActivity_setWindowFormat`. -/
def setWindowFormat (s : WorkPipe) (format : Int) (ok : Bool) : WorkPipe :=
  s.writeWork ok CMD_SET_WINDOW_FORMAT format 0

/-- `GameActivity_setWindowFlags`. -/
def setWindowFlags (s : WorkPipe) (values mask : Nat) (ok : Bool) : WorkPipe :=
  s.writeWork ok CMD_SET_WINDOW_FLAGS values mask

/-- `GameActivity_showSoftInput`. -/
def showSoftInput (s : WorkPipe) (flags : Nat) (ok : Bool) : WorkPipe :=
  s.writeWork ok CMD_SHOW_SOFT_INPUT flags 0

/-- `GameActivity_hideSoftInput`. -/
def hideSoftInput (s : WorkPipe) (flags : Nat) (ok : Bool) : WorkPipe :=
  s.writeWork ok CMD_HIDE_SOFT_INPUT flags 0

/-- `GameActivity_setTextInputState`: a new block holding a copy of the state, whose address
goes through the pipe. -/
def setTextInputState (s : WorkPipe) (state : Nat) (ok : Bool) : WorkPipe :=
  ({ s with heap := s.heap.assign s.allocated state, allocated := s.allocated + 1 }).writeWork ok
    CMD_SET_SOFT_INPUT_STATE s.allocated 0

/-- The main thread makes the call `c`. -/
def call (s : WorkPipe) (c : MainCall) : WorkPipe := { s with mainCalls := s.mainCalls ++ [c] }

/-- `mainWorkCallback(fd, events, data)`, given whether `POLLIN` is among `events`: reads the
record at the head of the pipe, when there is one, and runs its command. For
`CMD_SET_SOFT_INPUT_STATE` it reads and frees the block the record names, and has no result
when that is not a live block. -/
def mainWorkCallback (s : WorkPipe) (pollIn : Bool) : Option WorkPipe :=
  if !pollIn then some s
  else
    match s.pipe with
    | [] => some s
    | work :: rest =>
      let s := { s with pipe := rest }
      if work.cmd = CMD_FINISH then some (s.call .finish)
      else if work.cmd = CMD_SET_WINDOW_FORMAT then some (s.call (.setWindowFormat work.arg1))
      else if work.cmd = CMD_SET_WINDOW_FLAGS then
        some (s.call (.setWindowFlags work.arg1 work.arg2))
      else if work.cmd = CMD_SHOW_SOFT_INPUT then some (s.call (.showIme work.arg1))
      else if work.cmd = CMD_SET_SOFT_INPUT_STATE then
        match s.heap.find work.arg1.toNat with
        | some state => some { s.call (.setState state) with heap := s.heap.erase work.arg1.toNat }
        | none => none
      else if work.cmd = CMD_HIDE_SOFT_INPUT then some (s.call (.hideIme work.arg1))
      else some s

/-- A call on one of the threads, with what `write` and `poll` answer. -/
inductive Call
  | finish (ok : Bool)
  | setWindowFormat (format : Int) (ok : Bool)
  | setWindowFlags (values mask : Nat) (ok : Bool)
  | showSoftInput (flags : Nat) (ok : Bool)
  | hideSoftInput (flags : Nat) (ok : Bool)
  | setTextInputState (state : Nat) (ok : Bool)
  | mainWorkCallback (pollIn : Bool)
  deriving Repr

def step (s : WorkPipe) : Call → Option WorkPipe
  | .finish ok => some (s.finish ok)
  | .setWindowFormat format ok => some (s.setWindowFormat format ok)
  | .setWindowFlags values mask ok => some (s.setWindowFlags values mask ok)
  | .showSoftInput flags ok => some (s.showSoftInput flags ok)
  | .hideSoftInput flags ok => some (s.hideSoftInput flags ok)
  | .setTextInputState state ok => some (s.setTextInputState state ok)
  | .mainWorkCallback pollIn => s.mainWorkCallback pollIn

/-- The state after a sequence of calls, or `none` once one has no result. -/
def run (s : WorkPipe) : List Call → Option WorkPipe
  | [] => some s
  | c :: cs => (s.step c).bind (·.run cs)

/-- The call `mainWorkCallback` makes for the record `work` when `heap` holds the live blocks:
none for an unknown command or a `CMD_SET_SOFT_INPUT_STATE` record whose block is not live. -/
def decode (heap : StdMap Nat) (work : ActivityWork) : Option MainCall :=
  if work.cmd = CMD_FINISH then some .finish
  else if work.cmd = CMD_SET_WINDOW_FORMAT then some (.setWindowFormat work.arg1)
  else if work.cmd = CMD_SET_WINDOW_FLAGS then some (.setWindowFlags work.arg1 work.arg2)
  else if work.cmd = CMD_SHOW_SOFT_INPUT then some (.showIme work.arg1)
  else if work.cmd = CMD_SET_SOFT_INPUT_STATE then (heap.find work.arg1.toNat).map .setState
  else if work.cmd = CMD_HIDE_SOFT_INPUT then some (.hideIme work.arg1)
  else none

/-- The calls the records in the pipe make, oldest first. -/
def pending (s : WorkPipe) : List MainCall := s.pipe.filterMap (decode s.heap)

/-- The call a request asks the main thread for, when `write` puts its record in the pipe. -/
def Call.sent : Call → Option MainCall
  | .finish true => some .finish
  | .setWindowFormat format true => some (.setWindowFormat format)
  | .setWindowFlags values mask true => some (.setWindowFlags values mask)
  | .showSoftInput flags true => some (.showIme flags)
  | .hideSoftInput flags true => some (.hideIme flags)
  | .setTextInputState state true => some (.setState state)
  | _ => none

/-- The blocks the `CMD_SET_SOFT_INPUT_STATE` records of a pipe name. -/
def blocks (pipe : List ActivityWork) : List Int :=
  pipe.filterMap fun w => if w.cmd = CMD_SET_SOFT_INPUT_STATE then some w.arg1 else none

/-- What every state reached from an empty pipe satisfies: the main thread can run each record
in the pipe, no two records name one block, and each block named or live is one already
allocated. -/
structure Sound (s : WorkPipe) : Prop where
  decodes : ∀ w ∈ s.pipe, (decode s.heap w).isSome
  blocks_nodup : (blocks s.pipe).Nodup
  blocks_allocated : ∀ b ∈ blocks s.pipe, ∃ p : Nat, b = p ∧ p < s.allocated
  heap_allocated : ∀ p st, s.heap.find p = some st → p < s.allocated

theorem initial_sound : Sound initial :=
  ⟨(fun _ h => nomatch h), List.nodup_nil, (fun _ h => nomatch h), fun _ _ h => nomatch h⟩

theorem decode_congr {heap heap' : StdMap Nat} {w : ActivityWork}
    (h : w.cmd = CMD_SET_SOFT_INPUT_STATE → heap'.find w.arg1.toNat = heap.find w.arg1.toNat) :
    decode heap' w = decode heap w := by
  by_cases h6 : w.cmd = CMD_SET_SOFT_INPUT_STATE
  · unfold decode
    rw [h h6]
  · simp only [decode, h6, if_false]

theorem mem_blocks {pipe : List ActivityWork} {w : ActivityWork} (hw : w ∈ pipe)
    (h6 : w.cmd = CMD_SET_SOFT_INPUT_STATE) : w.arg1 ∈ blocks pipe :=
  List.mem_filterMap.mpr ⟨w, hw, if_pos h6⟩

theorem blocks_append_of_ne {pipe : List ActivityWork} {w : ActivityWork}
    (h6 : w.cmd ≠ CMD_SET_SOFT_INPUT_STATE) : blocks (pipe ++ [w]) = blocks pipe := by
  simp [blocks, h6]

theorem blocks_append_block {pipe : List ActivityWork} {p : Nat} :
    blocks (pipe ++ [⟨CMD_SET_SOFT_INPUT_STATE, p, 0⟩]) = blocks pipe ++ [(p : Int)] := by
  simp [blocks]

theorem blocks_cons {w : ActivityWork} {rest : List ActivityWork} :
    blocks (w :: rest) = if w.cmd = CMD_SET_SOFT_INPUT_STATE then w.arg1 :: blocks rest
      else blocks rest := by
  by_cases h6 : w.cmd = CMD_SET_SOFT_INPUT_STATE <;> simp [blocks, h6]

/-- A change of the heap at blocks no record names changes no record's call. -/
theorem decode_congr_of_blocks {pipe : List ActivityWork} {heap heap' : StdMap Nat}
    (h : ∀ p : Nat, (p : Int) ∈ blocks pipe → heap'.find p = heap.find p)
    (hb : ∀ b ∈ blocks pipe, ∃ p : Nat, b = p) {w : ActivityWork} (hw : w ∈ pipe) :
    decode heap' w = decode heap w := by
  refine decode_congr fun h6 => ?_
  obtain ⟨p, hp⟩ := hb _ (mem_blocks hw h6)
  rw [hp, Int.toNat_ofNat]
  exact h p (hp ▸ mem_blocks hw h6)

/-- A `CMD_SET_SOFT_INPUT_STATE` record is none of the commands the `switch` tests before it. -/
theorem not_earlier_of_block {w : ActivityWork} (h6 : w.cmd = CMD_SET_SOFT_INPUT_STATE) :
    ¬ w.cmd = CMD_FINISH ∧ ¬ w.cmd = CMD_SET_WINDOW_FORMAT ∧ ¬ w.cmd = CMD_SET_WINDOW_FLAGS ∧
      ¬ w.cmd = CMD_SHOW_SOFT_INPUT := by
  rw [h6]
  decide

theorem decode_of_block {heap : StdMap Nat} {w : ActivityWork} (h6 : w.cmd = CMD_SET_SOFT_INPUT_STATE) :
    decode heap w = (heap.find w.arg1.toNat).map .setState := by
  obtain ⟨h1, h2, h3, h4⟩ := not_earlier_of_block h6
  simp only [decode, if_neg h1, if_neg h2, if_neg h3, if_neg h4, if_pos h6]

variable {s : WorkPipe}

/-- A write of a command other than `CMD_SET_SOFT_INPUT_STATE`, whose call is `c`, adds `c`
behind the pending calls when it succeeds. -/
theorem writeWork_spec (hs : Sound s) (ok : Bool) {cmd a b : Int}
    (h6 : cmd ≠ CMD_SET_SOFT_INPUT_STATE) {c : MainCall} (hc : decode s.heap ⟨cmd, a, b⟩ = some c) :
    Sound (s.writeWork ok cmd a b) ∧
      (s.writeWork ok cmd a b).mainCalls ++ (s.writeWork ok cmd a b).pending =
        s.mainCalls ++ s.pending ++ (if ok then [c] else []) := by
  cases ok
  · exact ⟨hs, (List.append_nil _).symm⟩
  · have hb := @blocks_append_of_ne s.pipe ⟨cmd, a, b⟩ h6
    simp only [writeWork, if_true]
    refine ⟨⟨fun w hw => ?_, hb ▸ hs.blocks_nodup, hb ▸ hs.blocks_allocated, hs.heap_allocated⟩, ?_⟩
    · rcases List.mem_append.mp hw with hw | hw
      · exact hs.decodes w hw
      · rw [List.mem_singleton.mp hw, hc]
        rfl
    · simp [pending, hc]

theorem setTextInputState_spec (hs : Sound s) (state : Nat) (ok : Bool) :
    Sound (s.setTextInputState state ok) ∧
      (s.setTextInputState state ok).mainCalls ++ (s.setTextInputState state ok).pending =
        s.mainCalls ++ s.pending ++ (if ok then [.setState state] else []) := by
  have hfresh : ∀ p : Nat, (p : Int) ∈ blocks s.pipe → p ≠ s.allocated := fun p hp => by
    obtain ⟨q, hq, hlt⟩ := hs.blocks_allocated _ hp
    omega
  have hcongr := @decode_congr_of_blocks s.pipe s.heap (s.heap.assign s.allocated state)
    (fun p hp => by rw [StdMap.find_assign, if_neg (hfresh p hp)])
    (fun b hb => (hs.blocks_allocated b hb).imp fun _ h => h.1)
  have hpend : s.pipe.filterMap (decode (s.heap.assign s.allocated state)) = s.pending :=
    List.filterMap_congr fun w hw => hcongr hw
  have hheap : ∀ p st, (s.heap.assign s.allocated state).find p = some st → p < s.allocated + 1 :=
    fun p st h => by
      rw [StdMap.find_assign] at h
      split_ifs at h with hp
      · omega
      · exact Nat.lt_succ_of_lt (hs.heap_allocated p st h)
  have hdec : ∀ w ∈ s.pipe, (decode (s.heap.assign s.allocated state) w).isSome :=
    fun w hw => hcongr hw ▸ hs.decodes w hw
  have halloc : ∀ b ∈ blocks s.pipe, ∃ p : Nat, b = p ∧ p < s.allocated + 1 :=
    fun b hb => (hs.blocks_allocated b hb).imp fun _ ⟨h, hlt⟩ => ⟨h, Nat.lt_succ_of_lt hlt⟩
  cases ok
  · exact ⟨⟨hdec, hs.blocks_nodup, halloc, hheap⟩, by simp [setTextInputState, writeWork, pending, hpend]⟩
  · have hblocks := @blocks_append_block s.pipe s.allocated
    have hnew : decode (s.heap.assign s.allocated state) ⟨CMD_SET_SOFT_INPUT_STATE, s.allocated, 0⟩ =
        some (.setState state) := by
      simp [decode_of_block, StdMap.find_assign]
    simp only [setTextInputState, writeWork, if_true]
    refine ⟨⟨fun w hw => ?_, ?_, fun b hb => ?_, hheap⟩, ?_⟩
    · rcases List.mem_append.mp hw with hw | hw
      · exact hdec w hw
      · rw [List.mem_singleton.mp hw, hnew]
        rfl
    · rw [hblocks]
      exact List.nodup_append.mpr ⟨hs.blocks_nodup, List.nodup_singleton _,
        List.disjoint_singleton.mpr fun hm => hfresh _ hm rfl⟩
    · rw [hblocks, List.mem_append, List.mem_singleton] at hb
      rcases hb with hb | rfl
      · exact halloc b hb
      · exact ⟨_, rfl, Nat.lt_succ_self _⟩
    · simp [pending, hpend, hnew]

variable {w : ActivityWork} {rest : List ActivityWork} {c : MainCall}

/-- Reading a record other than `CMD_SET_SOFT_INPUT_STATE` makes its call. -/
theorem mainWorkCallback_of_ne (hp : s.pipe = w :: rest) (h6 : w.cmd ≠ CMD_SET_SOFT_INPUT_STATE)
    (hc : decode s.heap w = some c) :
    s.mainWorkCallback true = some ({ s with pipe := rest }.call c) := by
  simp only [mainWorkCallback, hp, Bool.not_true, Bool.false_eq_true, if_false]
  simp only [decode, h6, if_false] at hc ⊢
  by_cases h1 : w.cmd = CMD_FINISH
  · rw [if_pos h1] at hc ⊢; cases hc; rfl
  rw [if_neg h1] at hc ⊢
  by_cases h2 : w.cmd = CMD_SET_WINDOW_FORMAT
  · rw [if_pos h2] at hc ⊢; cases hc; rfl
  rw [if_neg h2] at hc ⊢
  by_cases h3 : w.cmd = CMD_SET_WINDOW_FLAGS
  · rw [if_pos h3] at hc ⊢; cases hc; rfl
  rw [if_neg h3] at hc ⊢
  by_cases h4 : w.cmd = CMD_SHOW_SOFT_INPUT
  · rw [if_pos h4] at hc ⊢; cases hc; rfl
  rw [if_neg h4] at hc ⊢
  by_cases h5 : w.cmd = CMD_HIDE_SOFT_INPUT
  · rw [if_pos h5] at hc ⊢; cases hc; rfl
  rw [if_neg h5] at hc
  cases hc

/-- Reading a `CMD_SET_SOFT_INPUT_STATE` record whose block is live passes the block's state to
`GameInput_setState` and frees the block. -/
theorem mainWorkCallback_of_block (hp : s.pipe = w :: rest) (h6 : w.cmd = CMD_SET_SOFT_INPUT_STATE)
    {state : Nat} (hf : s.heap.find w.arg1.toNat = some state) :
    s.mainWorkCallback true =
      some { { s with pipe := rest }.call (.setState state) with heap := s.heap.erase w.arg1.toNat } := by
  obtain ⟨h1, h2, h3, h4⟩ := not_earlier_of_block h6
  simp only [mainWorkCallback, hp, Bool.not_true, Bool.false_eq_true, if_false, if_neg h1, if_neg h2,
    if_neg h3, if_neg h4, if_pos h6, hf]

/-- What a call leaves alone: no block is allocated twice, and a block allocated before and named
by no record keeps its contents and stays unnamed. -/
structure Frame (s s' : WorkPipe) : Prop where
  allocated_le : s.allocated ≤ s'.allocated
  unnamed : ∀ b : Nat, b < s.allocated → (b : Int) ∉ blocks s.pipe →
    s'.heap.find b = s.heap.find b ∧ (b : Int) ∉ blocks s'.pipe

theorem Frame.refl (s : WorkPipe) : Frame s s := ⟨le_rfl, fun _ _ hb => ⟨rfl, hb⟩⟩

theorem Frame.trans {s₁ s₂ s₃ : WorkPipe} (h₁ : Frame s₁ s₂) (h₂ : Frame s₂ s₃) : Frame s₁ s₃ :=
  ⟨h₁.allocated_le.trans h₂.allocated_le, fun b hb hn =>
    have h := h₁.unnamed b hb hn
    have h' := h₂.unnamed b (lt_of_lt_of_le hb h₁.allocated_le) h.2
    ⟨h'.1.trans h.1, h'.2⟩⟩

theorem mainWorkCallback_spec (hs : Sound s) (pollIn : Bool) :
    ∃ s', s.mainWorkCallback pollIn = some s' ∧ Sound s' ∧
      s'.mainCalls ++ s'.pending = s.mainCalls ++ s.pending ∧ Frame s s' := by
  cases pollIn
  · exact ⟨s, rfl, hs, rfl, Frame.refl s⟩
  cases hp : s.pipe with
  | nil => exact ⟨s, by simp [mainWorkCallback, hp], hs, rfl, Frame.refl s⟩
  | cons w rest =>
    have hw : w ∈ s.pipe := hp ▸ List.mem_cons_self w rest
    have hsub : ∀ w' ∈ rest, w' ∈ s.pipe := fun w' h => hp ▸ List.mem_cons_of_mem w h
    obtain ⟨c, hc⟩ := Option.isSome_iff_exists.mp (hs.decodes w hw)
    have hpend : s.pending = c :: rest.filterMap (decode s.heap) := by
      rw [pending, hp, List.filterMap_cons_some hc]
    have hb := hs.blocks_allocated
    have hnd := hs.blocks_nodup
    rw [hp, blocks_cons] at hb hnd
    by_cases h6 : w.cmd = CMD_SET_SOFT_INPUT_STATE
    · rw [if_pos h6] at hb hnd
      obtain ⟨p, hp1, -⟩ := hb w.arg1 (List.mem_cons_self _ _)
      have hnot : ∀ q : Nat, (q : Int) ∈ blocks rest → q ≠ p := fun q hq hqp =>
        (List.nodup_cons.mp hnd).1 (hp1 ▸ hqp ▸ hq)
      have hfind : ∀ q : Nat, (q : Int) ∈ blocks rest →
          (s.heap.erase w.arg1.toNat).find q = s.heap.find q := fun q hq => by
        rw [StdMap.find_erase, hp1, Int.toNat_ofNat, if_neg (hnot q hq)]
      have hcongr := @decode_congr_of_blocks rest s.heap (s.heap.erase w.arg1.toNat) hfind
        (fun b hb' => (hb b (List.mem_cons_of_mem _ hb')).imp fun _ h => h.1)
      rw [decode_of_block h6, Option.map_eq_some'] at hc
      obtain ⟨state, hf, rfl⟩ := hc
      refine ⟨_, mainWorkCallback_of_block hp h6 hf, ⟨fun w' hw' => ?_, (List.nodup_cons.mp hnd).2,
        fun b hb' => hb b (List.mem_cons_of_mem _ hb'), fun q st hq => ?_⟩, ?_, ?_, fun q hq hn => ?_⟩
      · exact hcongr hw' ▸ hs.decodes w' (hsub w' hw')
      · rw [StdMap.find_erase] at hq
        split_ifs at hq
        exact hs.heap_allocated q st hq
      · rw [hpend]
        simp only [call, pending, List.filterMap_congr fun w' hw' => hcongr hw', List.append_assoc,
          List.singleton_append]
      · exact le_rfl
      · rw [hp, blocks_cons, if_pos h6, List.mem_cons, not_or] at hn
        refine ⟨?_, hn.2⟩
        show (s.heap.erase w.arg1.toNat).find q = s.heap.find q
        rw [StdMap.find_erase, hp1, Int.toNat_ofNat, if_neg fun h => hn.1 (by rw [h, hp1])]
    · rw [if_neg h6] at hb hnd
      refine ⟨_, mainWorkCallback_of_ne hp h6 hc, ⟨fun w' hw' => hs.decodes w' (hsub w' hw'), hnd,
        hb, hs.heap_allocated⟩, ?_, le_rfl, fun q _ hn => ⟨rfl, ?_⟩⟩
      · rw [hpend]
        simp only [call, pending, List.append_assoc, List.singleton_append]
      · rwa [hp, blocks_cons, if_neg h6] at hn

theorem writeWork_frame (ok : Bool) {cmd a b : Int} (h6 : cmd ≠ CMD_SET_SOFT_INPUT_STATE) :
    Frame s (s.writeWork ok cmd a b) := by
  cases ok
  · exact Frame.refl s
  · exact ⟨le_rfl, fun _ _ hn => ⟨rfl, (@blocks_append_of_ne s.pipe ⟨cmd, a, b⟩ h6).symm ▸ hn⟩⟩

theorem setTextInputState_frame (state : Nat) (ok : Bool) : Frame s (s.setTextInputState state ok) := by
  refine ⟨by simp [setTextInputState], fun q hq hn => ⟨?_, ?_⟩⟩
  · simp only [setTextInputState, writeWork_heap, StdMap.find_assign, if_neg (Nat.ne_of_lt hq)]
  · cases ok
    · exact hn
    · show (q : Int) ∉ blocks (s.pipe ++ [⟨CMD_SET_SOFT_INPUT_STATE, s.allocated, 0⟩])
      rw [blocks_append_block, List.mem_append, List.mem_singleton, not_or]
      exact ⟨hn, fun h => by omega⟩

/-- Each call from a sound state has a result, keeps the state sound, adds the call it sends to
what the main thread has made or will make, and leaves unnamed blocks alone. -/
theorem step_spec (hs : Sound s) (c : Call) :
    ∃ s', s.step c = some s' ∧ Sound s' ∧
      s'.mainCalls ++ s'.pending = s.mainCalls ++ s.pending ++ c.sent.toList ∧ Frame s s' := by
  cases c with
  | finish ok =>
    obtain ⟨h₁, h₂⟩ := @writeWork_spec s hs ok CMD_FINISH 0 0 (by decide) .finish rfl
    exact ⟨_, rfl, h₁, by cases ok <;> exact h₂, writeWork_frame ok (by decide)⟩
  | setWindowFormat format ok =>
    obtain ⟨h₁, h₂⟩ := @writeWork_spec s hs ok CMD_SET_WINDOW_FORMAT format 0 (by decide) (.setWindowFormat format) rfl
    exact ⟨_, rfl, h₁, by cases ok <;> exact h₂, writeWork_frame ok (by decide)⟩
  | setWindowFlags values mask ok =>
    obtain ⟨h₁, h₂⟩ := @writeWork_spec s hs ok CMD_SET_WINDOW_FLAGS values mask (by decide) (.setWindowFlags values mask) rfl
    exact ⟨_, rfl, h₁, by cases ok <;> exact h₂, writeWork_frame ok (by decide)⟩
  | showSoftInput flags ok =>
    obtain ⟨h₁, h₂⟩ := @writeWork_spec s hs ok CMD_SHOW_SOFT_INPUT flags 0 (by decide) (.showIme flags) rfl
    exact ⟨_, rfl, h₁, by cases ok <;> exact h₂, writeWork_frame ok (by decide)⟩
  | hideSoftInput flags ok =>
    obtain ⟨h₁, h₂⟩ := @writeWork_spec s hs ok CMD_HIDE_SOFT_INPUT flags 0 (by decide) (.hideIme flags) rfl
    exact ⟨_, rfl, h₁, by cases ok <;> exact h₂, writeWork_frame ok (by decide)⟩
  | setTextInputState state ok =>
    obtain ⟨h₁, h₂⟩ := setTextInputState_spec hs state ok
    exact ⟨_, rfl, h₁, by cases ok <;> exact h₂, setTextInputState_frame state ok⟩
  | mainWorkCallback pollIn =>
    obtain ⟨s', h, h₁, h₂, h₃⟩ := mainWorkCallback_spec hs pollIn
    exact ⟨s', h, h₁, by rw [h₂]; exact (List.append_nil _).symm, h₃⟩

theorem run_spec (hs : Sound s) (calls : List Call) :
    ∃ s', s.run calls = some s' ∧ Sound s' ∧
      s'.mainCalls ++ s'.pending = s.mainCalls ++ s.pending ++ calls.filterMap Call.sent ∧
      Frame s s' := by
  induction calls generalizing s with
  | nil => exact ⟨s, rfl, hs, (List.append_nil _).symm, Frame.refl s⟩
  | cons c cs ih =>
    obtain ⟨s₁, h₁, hs₁, he₁, hf₁⟩ := step_spec hs c
    obtain ⟨s₂, h₂, hs₂, he₂, hf₂⟩ := ih hs₁
    refine ⟨s₂, by simp only [run, h₁, Option.some_bind, h₂], hs₂, ?_, hf₁.trans hf₂⟩
    rw [he₂, he₁, List.filterMap_cons]
    cases c.sent <;> simp

/-- Whatever the interleaving of the threads and whatever `write` and `poll` answer, no call
fails, and the calls the main thread has made, followed by those the records still in the pipe
make, are the requests whose record was written, in the order they were written: none lost,
none run twice, none out of order. Every block the main thread reads and frees is a live copy
that only its record names. -/
theorem work_delivered_in_order (calls : List Call) :
    ∃ s, initial.run calls = some s ∧ s.mainCalls ++ s.pending = calls.filterMap Call.sent := by
  obtain ⟨s, h, -, he, -⟩ := run_spec initial_sound calls
  exact ⟨s, h, he⟩

/-- The copy `GameActivity_setTextInputState` allocates is freed only when the main thread reads
its record: when `write` fails, no record names it, and from any state the pipe reaches it
stays allocated, holding the state, whatever the threads do next. -/
theorem failed_write_leaks_copy (calls₀ : List Call) (s : WorkPipe) (hs : initial.run calls₀ = some s)
    (state : Nat) (calls : List Call) (s' : WorkPipe)
    (hr : (s.setTextInputState state false).run calls = some s') :
    s'.heap.find s.allocated = some state := by
  obtain ⟨s₀, h₀, hs₀, -, -⟩ := run_spec initial_sound calls₀
  rw [h₀, Option.some.injEq] at hs
  subst hs
  have hs₁ := (setTextInputState_spec hs₀ state false).1
  obtain ⟨s₂, h₂, -, -, hf⟩ := run_spec hs₁ calls
  rw [h₂, Option.some.injEq] at hr
  subst hr
  have hn : ((s₀.allocated : Nat) : Int) ∉ blocks (s₀.setTextInputState state false).pipe :=
    fun hm => by
      obtain ⟨q, hq, hlt⟩ := hs₀.blocks_allocated _ hm
      omega
  rw [(hf.unnamed s₀.allocated (Nat.lt_succ_self _) hn).1]
  simp [setTextInputState, writeWork, StdMap.find_assign]

theorem failed_write_leaks_copy_scenario :
    ((initial.setTextInputState 7 false).run
        [.mainWorkCallback true, .setTextInputState 8 true, .mainWorkCallback true]).isSome ∧
      (((initial.setTextInputState 7 false).run
        [.mainWorkCallback true, .setTextInputState 8 true, .mainWorkCallback true]).get
          (by rfl)).heap.find 0 = some 7 :=
  ⟨rfl, failed_write_leaks_copy [] initial rfl 7 _ _ (Option.some_get _).symm⟩

end WorkPipe

end GameActivity
