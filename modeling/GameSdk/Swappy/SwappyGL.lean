import GameSdk.Swappy.SwappyVk

/-!
# SwappyGL

`swappy::SwappyGL`: the single instance that `init` builds and `destroyInstance` resets, the
entry points that find it with `getInstance()`, and the EGL that `getEgl()` keeps in a
`thread_local` of each thread. `SwappyGL.h`, `SwappyCommon`, `EGL` and `FrameStatisticsGL` are
not among the sources: the instance keeps what the entry points read back and the calls it
passes on, and what the platform answers is part of each call. Dereferencing a null pointer, or
the EGL of a destroyed instance, has no result.
-/

namespace Swappy

/-- What the constructor finds: whether `EGL::create` loads the EGL functions, whether
`SwappyCommon` is valid, the `SWAPPY_SYSTEM_PROP_KEY_DISABLE` property, and whether the EGL
supports statistics. -/
structure Platform where
  eglLoads : Bool
  commonValid : Bool
  disableProp : Bool
  statsSupported : Bool
  deriving DecidableEq, Repr

/-- A call SwappyGL makes on `mCommonBase` that passes something on. -/
inductive CommonCall
  | onChoreographer (frameTimeNanos : Int)
  | setANativeWindow (window : Nat)
  | onPreSwap
  | onPostSwap
  | addTracerCallbacks (tracer : SwappyTracer)
  | removeTracerCallbacks (tracer : SwappyTracer)
  | setAutoSwapInterval (enabled : Bool)
  | setAutoPipelineMode (enabled : Bool)
  | setMaxAutoSwapDuration (maxDurationNs : Int)
  | setFenceTimeout (tNs : Int)
  | setBufferStuffingFixWait (nFrames : Int)
  | resetFramePacing
  | enableFramePacing (enable : Bool)
  | enableBlockingWait (enable : Bool)
  | setLastLatencyRecordedCallback
  deriving Repr

/-- A call SwappyGL makes on `mFrameStatistics`. -/
inductive StatsCall
  | enableStats (enabled : Bool)
  | capture (display surface : Nat)
  | getStats
  | clearStats
  deriving DecidableEq, Repr

namespace SwappyGL

/-- The instance `sInstance` owns: `mEnableSwappy`, the number of the EGL `mEgl` owns (`none`
when `EGL::create` fails), the calls made on `mFrameStatistics` when there is one, and the calls
made on `mCommonBase`. Swappy is never enabled without an EGL, and only an enabled instance has
frame statistics. -/
structure Instance where
  enableSwappy : Bool
  egl : Option Nat
  frameStatistics : Option (List StatsCall)
  common : List CommonCall
  egl_of_enabled : enableSwappy = true → egl.isSome
  enabled_of_frameStatistics : frameStatistics.isSome → enableSwappy = true

namespace Instance

/-- `SwappyGL::SwappyGL`, for the instance numbered `n`. -/
def new (p : Platform) (n : Nat) : Instance :=
  if !p.eglLoads then ⟨false, none, none, [], (fun h => nomatch h), fun h => nomatch h⟩
  else if !p.commonValid then ⟨false, some n, none, [], fun _ => rfl, fun h => nomatch h⟩
  else if p.disableProp then ⟨false, some n, none, [], fun _ => rfl, fun h => nomatch h⟩
  else if p.statsSupported then
    ⟨true, some n, some [], [.setLastLatencyRecordedCallback], fun _ => rfl, fun _ => rfl⟩
  else ⟨true, some n, none, [], fun _ => rfl, fun h => nomatch h⟩

/-- `mCommonBase.c`. -/
def call (i : Instance) (c : CommonCall) : Instance := { i with common := i.common ++ [c] }

/-- `mFrameStatistics->c`, when there is one. -/
def stats (i : Instance) (c : StatsCall) : Instance :=
  { i with
    frameStatistics := i.frameStatistics.map (· ++ [c])
    enabled_of_frameStatistics := fun h => i.enabled_of_frameStatistics (by simpa using h) }

/-- Whether the pointer `e` is to the EGL this instance owns, the only one not freed. -/
def owns (i : Instance) (e : Option Nat) : Bool := e.isSome && decide (e = i.egl)

/-- `swapInternal` on the instance's EGL: `onPreSwap`; then, when `needToSetPresentationTime()`
and `setPresentationTime` fails, `false` at once; else `eglSwapBuffers` and `onPostSwap`. -/
def swapInternal (i : Instance) (needPresentationTime presentationTimeOk swapBuffersOk : Bool) :
    Instance × Bool :=
  if needPresentationTime ∧ ¬ presentationTimeOk then (i.call .onPreSwap, false)
  else ((i.call .onPreSwap).call .onPostSwap, swapBuffersOk)

/-- What only `init` and `destroyInstance` change. -/
def core (i : Instance) : Bool × Option Nat := (i.enableSwappy, i.egl)

end Instance

/-- What an entry point returns or writes through its out-parameter. -/
inductive Reply
  | unit
  | bool (b : Bool)
  | nanoseconds (t : Int)
  | int (n : Int)
  /-- The value `mCommonBase` or `mFrameStatistics` returns. -/
  | delegated
  deriving DecidableEq, Repr

end SwappyGL

/-- `SwappyGL`'s statics: `sInstance`; the `thread_local` pointer `egl` of `getEgl()`, for each
thread whose pointer is set; and the number of instances built so far. -/
structure SwappyGL where
  sInstance : Option SwappyGL.Instance
  egl : StdMap Nat
  built : Nat

namespace SwappyGL

/-- Before the first `init`. -/
def initial : SwappyGL := ⟨none, .empty, 0⟩

/-- `init(env, jactivity)`: with an instance already there, `false` and nothing else. -/
def init (s : SwappyGL) (p : Platform) : SwappyGL × Reply :=
  match s.sInstance with
  | some _ => (s, .bool false)
  | none =>
    ({ s with sInstance := some (Instance.new p s.built), built := s.built + 1 },
      .bool (Instance.new p s.built).enableSwappy)

/-- The entry points that pass `c` to `mCommonBase` whenever there is an instance. -/
def forward (s : SwappyGL) (c : CommonCall) : SwappyGL :=
  match s.sInstance with
  | some i => { s with sInstance := some (i.call c) }
  | none => s

/-- The entry points that pass `c` to `mCommonBase` only when `enabled()`. -/
def forwardIfEnabled (s : SwappyGL) (c : CommonCall) : SwappyGL :=
  match s.sInstance with
  | some i => if i.enableSwappy then { s with sInstance := some (i.call c) } else s
  | none => s

/-- The entry points that pass `c` to `mFrameStatistics`. -/
def forwardStats (s : SwappyGL) (c : StatsCall) : SwappyGL :=
  match s.sInstance with
  | some i => { s with sInstance := some (i.stats c) }
  | none => s

/-- The getters that return what `mCommonBase` answers when `enabled()`, and `default` else. -/
def getIfEnabled (s : SwappyGL) (default : Reply) : Reply :=
  match s.sInstance with
  | some i => if i.enableSwappy then .delegated else default
  | none => default

/-- `getEgl()` on thread `t`, for the instance `i`: the thread's pointer once it is set, else
`mEgl`, which the thread keeps when it is not null. -/
def getEgl (s : SwappyGL) (i : Instance) (t : Nat) : SwappyGL × Option Nat :=
  match s.egl.find t with
  | some e => (s, some e)
  | none =>
    match i.egl with
    | some e => ({ s with egl := s.egl.assign t e }, some e)
    | none => (s, none)

/-- `swap(display, surface)` on thread `t`: through `swapInternal` when enabled, else
`eglSwapBuffers` alone, on the EGL `getEgl()` gives. -/
def swap (s : SwappyGL) (t : Nat) (needPresentationTime presentationTimeOk swapBuffersOk : Bool) :
    Option (SwappyGL × Reply) :=
  match s.sInstance with
  | none => some (s, .bool false)
  | some i =>
    if i.owns (s.getEgl i t).2 then
      if i.enableSwappy then
        some ({ (s.getEgl i t).1 with
            sInstance := some (i.swapInternal needPresentationTime presentationTimeOk swapBuffersOk).1 },
          .bool (i.swapInternal needPresentationTime presentationTimeOk swapBuffersOk).2)
      else some ((s.getEgl i t).1, .bool swapBuffersOk)
    else none

def onChoreographer (s : SwappyGL) (frameTimeNanos : Int) : SwappyGL :=
  s.forward (.onChoreographer frameTimeNanos)

def setWindow (s : SwappyGL) (window : Nat) : SwappyGL × Reply :=
  (s.forward (.setANativeWindow window), .bool s.sInstance.isSome)

def addTracer (s : SwappyGL) (tracer : Option SwappyTracer) : SwappyGL :=
  match tracer with
  | some t => s.forwardIfEnabled (.addTracerCallbacks t)
  | none => s

def removeTracer (s : SwappyGL) (tracer : Option SwappyTracer) : SwappyGL :=
  match tracer with
  | some t => s.forwardIfEnabled (.removeTracerCallbacks t)
  | none => s

def getSwapDuration (s : SwappyGL) : Reply := s.getIfEnabled (.nanoseconds (-1))

def setAutoSwapInterval (s : SwappyGL) (enabled : Bool) : SwappyGL :=
  s.forwardIfEnabled (.setAutoSwapInterval enabled)

def setAutoPipelineMode (s : SwappyGL) (enabled : Bool) : SwappyGL :=
  s.forwardIfEnabled (.setAutoPipelineMode enabled)

def setMaxAutoSwapDuration (s : SwappyGL) (maxDurationNs : Int) : SwappyGL :=
  s.forwardIfEnabled (.setMaxAutoSwapDuration maxDurationNs)

def enableStats (s : SwappyGL) (enabled : Bool) : SwappyGL := s.forwardStats (.enableStats enabled)

def recordFrameStart (s : SwappyGL) (display surface : Nat) : SwappyGL :=
  s.forwardStats (.capture display surface)

/-- `getStats(stats)` writes `*stats` only when there are frame statistics. -/
def getStats (s : SwappyGL) : SwappyGL × Reply :=
  (s.forwardStats .getStats,
    match s.sInstance with
    | some i => if i.frameStatistics.isSome then .delegated else .unit
    | none => .unit)

def clearStats (s : SwappyGL) : SwappyGL := s.forwardStats .clearStats

def isEnabled (s : SwappyGL) : Reply :=
  match s.sInstance with
  | some i => .bool i.enableSwappy
  | none => .bool false

def destroyInstance (s : SwappyGL) : SwappyGL := { s with sInstance := none }

def setFenceTimeout (s : SwappyGL) (tNs : Int) : SwappyGL := s.forwardIfEnabled (.setFenceTimeout tNs)

def getFenceTimeout (s : SwappyGL) : Reply := s.getIfEnabled (.nanoseconds 0)

def setBufferStuffingFixWait (s : SwappyGL) (nFrames : Int) : SwappyGL :=
  s.forward (.setBufferStuffingFixWait nFrames)

def getSupportedRefreshPeriodsNS (s : SwappyGL) : Reply :=
  match s.sInstance with
  | some _ => .delegated
  | none => .int (-1)

def resetFramePacing (s : SwappyGL) : SwappyGL := s.forward .resetFramePacing

def enableFramePacing (s : SwappyGL) (enable : Bool) : SwappyGL := s.forward (.enableFramePacing enable)

def enableBlockingWait (s : SwappyGL) (enable : Bool) : SwappyGL :=
  s.forward (.enableBlockingWait enable)

/-- A call of a static SwappyGL entry point, with what the platform answers it. -/
inductive Call
  | init (p : Platform)
  | onChoreographer (frameTimeNanos : Int)
  | setWindow (window : Nat)
  | swap (thread : Nat) (needPresentationTime presentationTimeOk swapBuffersOk : Bool)
  | addTracer (tracer : Option SwappyTracer)
  | removeTracer (tracer : Option SwappyTracer)
  | getSwapDuration
  | setAutoSwapInterval (enabled : Bool)
  | setAutoPipelineMode (enabled : Bool)
  | setMaxAutoSwapDuration (maxDurationNs : Int)
  | enableStats (enabled : Bool)
  | recordFrameStart (display surface : Nat)
  | getStats
  | clearStats
  | isEnabled
  | destroyInstance
  | setFenceTimeout (tNs : Int)
  | getFenceTimeout
  | setBufferStuffingFixWait (nFrames : Int)
  | getSupportedRefreshPeriodsNS
  | resetFramePacing
  | enableFramePacing (enable : Bool)
  | enableBlockingWait (enable : Bool)
  deriving Repr

/-- One call: the new state and the reply, or `none` when it uses a null or freed EGL. -/
def step (s : SwappyGL) : Call → Option (SwappyGL × Reply)
  | .init p => some (s.init p)
  | .onChoreographer f => some (s.onChoreographer f, .unit)
  | .setWindow w => some (s.setWindow w)
  | .swap t need ok swapped => s.swap t need ok swapped
  | .addTracer tr => some (s.addTracer tr, .unit)
  | .removeTracer tr => some (s.removeTracer tr, .unit)
  | .getSwapDuration => some (s, s.getSwapDuration)
  | .setAutoSwapInterval b => some (s.setAutoSwapInterval b, .unit)
  | .setAutoPipelineMode b => some (s.setAutoPipelineMode b, .unit)
  | .setMaxAutoSwapDuration d => some (s.setMaxAutoSwapDuration d, .unit)
  | .enableStats b => some (s.enableStats b, .unit)
  | .recordFrameStart d sf => some (s.recordFrameStart d sf, .unit)
  | .getStats => some s.getStats
  | .clearStats => some (s.clearStats, .unit)
  | .isEnabled => some (s, s.isEnabled)
  | .destroyInstance => some (s.destroyInstance, .unit)
  | .setFenceTimeout t => some (s.setFenceTimeout t, .unit)
  | .getFenceTimeout => some (s, s.getFenceTimeout)
  | .setBufferStuffingFixWait n => some (s.setBufferStuffingFixWait n, .unit)
  | .getSupportedRefreshPeriodsNS => some (s, s.getSupportedRefreshPeriodsNS)
  | .resetFramePacing => some (s.resetFramePacing, .unit)
  | .enableFramePacing b => some (s.enableFramePacing b, .unit)
  | .enableBlockingWait b => some (s.enableBlockingWait b, .unit)

/-- The state after a sequence of calls, or `none` once one has no result. -/
def run (s : SwappyGL) : List Call → Option SwappyGL
  | [] => some s
  | c :: cs => (s.step c).bind fun r => r.1.run cs

namespace Instance

@[simp] theorem call_core (i : Instance) (c : CommonCall) : (i.call c).core = i.core := rfl

@[simp] theorem stats_core (i : Instance) (c : StatsCall) : (i.stats c).core = i.core := rfl

theorem swapInternal_core (i : Instance) (a b d : Bool) : (i.swapInternal a b d).1.core = i.core := by
  unfold swapInternal
  split <;> rfl

theorem new_egl (p : Platform) (n : Nat) :
    (new p n).egl = if p.eglLoads then some n else none := by
  obtain ⟨_ | _, _ | _, _ | _, _ | _⟩ := p <;> rfl

end Instance

/-- What every call but `init` and `destroyInstance` keeps: the instances built, the
instance's `mEnableSwappy` and EGL, and every thread's pointer but one `getEgl()` sets to the
instance's EGL. -/
structure Keeps (s s' : SwappyGL) : Prop where
  built : s'.built = s.built
  core : s'.sInstance.map Instance.core = s.sInstance.map Instance.core
  egl : ∀ t e, s'.egl.find t = some e →
    s.egl.find t = some e ∨ ∃ i, s.sInstance = some i ∧ i.egl = some e

namespace Keeps

variable {s s' s'' : SwappyGL}

theorem refl (s : SwappyGL) : Keeps s s := ⟨rfl, rfl, fun _ _ h => .inl h⟩

theorem instance_of (hk : Keeps s s') {i : Instance} (h : s.sInstance = some i) :
    ∃ i', s'.sInstance = some i' ∧ i'.core = i.core := by
  have hc := hk.core
  rw [h, Option.map_some'] at hc
  exact Option.map_eq_some'.mp hc

theorem instance_egl (hk : Keeps s s') {i' : Instance} (h : s'.sInstance = some i') :
    ∃ i, s.sInstance = some i ∧ i.core = i'.core := by
  have hc := hk.core
  rw [h, Option.map_some'] at hc
  exact Option.map_eq_some'.mp hc.symm

theorem trans (h₁ : Keeps s s') (h₂ : Keeps s' s'') : Keeps s s'' :=
  ⟨h₂.built.trans h₁.built, h₂.core.trans h₁.core, fun t e he => by
    rcases h₂.egl t e he with he | ⟨i, hi, hie⟩
    · exact h₁.egl t e he
    · obtain ⟨i₀, hi₀, hc⟩ := h₁.instance_egl hi
      exact .inr ⟨i₀, hi₀, (congrArg Prod.snd hc).trans hie⟩⟩

theorem setInstance {i i' : Instance} (hi : s.sInstance = some i) (hc : i'.core = i.core) :
    Keeps s { s with sInstance := some i' } :=
  ⟨rfl, by rw [hi]; exact congrArg some hc, fun _ _ h => .inl h⟩

end Keeps

variable {s s' : SwappyGL}

theorem forward_keeps (s : SwappyGL) (c : CommonCall) : Keeps s (s.forward c) := by
  unfold forward
  split
  next i hi => exact Keeps.setInstance hi rfl
  next => exact Keeps.refl s

theorem forwardIfEnabled_keeps (s : SwappyGL) (c : CommonCall) : Keeps s (s.forwardIfEnabled c) := by
  unfold forwardIfEnabled
  split
  next i hi =>
    split_ifs
    · exact Keeps.setInstance hi rfl
    · exact Keeps.refl s
  next => exact Keeps.refl s

theorem forwardStats_keeps (s : SwappyGL) (c : StatsCall) : Keeps s (s.forwardStats c) := by
  unfold forwardStats
  split
  next i hi => exact Keeps.setInstance hi rfl
  next => exact Keeps.refl s

theorem getEgl_sInstance (s : SwappyGL) (i : Instance) (t : Nat) :
    (s.getEgl i t).1.sInstance = s.sInstance := by
  unfold getEgl
  split
  · rfl
  · split <;> rfl

theorem getEgl_keeps {i : Instance} (hi : s.sInstance = some i) (t : Nat) : Keeps s (s.getEgl i t).1 := by
  unfold getEgl
  split
  · exact Keeps.refl s
  · split
    next e he =>
      refine ⟨rfl, rfl, fun t' e' h => ?_⟩
      rw [StdMap.find_assign] at h
      split_ifs at h
      · cases h
        exact .inr ⟨i, hi, he⟩
      · exact .inl h
    next => exact Keeps.refl s

theorem swap_keeps {t : Nat} {a b d : Bool} {r : Reply} (h : s.swap t a b d = some (s', r)) :
    Keeps s s' := by
  unfold swap at h
  split at h
  · cases h
    exact Keeps.refl s
  next i hi =>
    split_ifs at h <;> cases h
    · exact (getEgl_keeps hi t).trans
        (Keeps.setInstance ((getEgl_sInstance s i t).trans hi) (i.swapInternal_core a b d))
    · exact getEgl_keeps hi t

/-- Everything a call can do: `destroyInstance` resets the instance; `init` on no instance
builds the next one; and every other call keeps what `Keeps` says. -/
theorem step_cases {c : Call} {r : Reply} (h : s.step c = some (s', r)) :
    (c = .destroyInstance ∧ s' = s.destroyInstance) ∨
    (∃ p, c = .init p ∧ s.sInstance = none ∧
      s' = { s with sInstance := some (Instance.new p s.built), built := s.built + 1 }) ∨
    Keeps s s' := by
  cases c with
  | init p =>
    replace h : s.init p = (s', r) := Option.some.inj h
    unfold init at h
    split at h
    · cases h
      exact .inr (.inr (Keeps.refl s))
    next hs =>
      cases h
      exact .inr (.inl ⟨p, rfl, hs, rfl⟩)
  | swap t a b d => exact .inr (.inr (swap_keeps h))
  | destroyInstance =>
    cases h
    exact .inl ⟨rfl, rfl⟩
  | addTracer tr =>
    cases h
    cases tr
    · exact .inr (.inr (Keeps.refl s))
    · exact .inr (.inr (forwardIfEnabled_keeps _ _))
  | removeTracer tr =>
    cases h
    cases tr
    · exact .inr (.inr (Keeps.refl s))
    · exact .inr (.inr (forwardIfEnabled_keeps _ _))
  | onChoreographer | setWindow | setBufferStuffingFixWait | resetFramePacing | enableFramePacing
  | enableBlockingWait =>
    cases h
    exact .inr (.inr (forward_keeps _ _))
  | setAutoSwapInterval | setAutoPipelineMode | setMaxAutoSwapDuration | setFenceTimeout =>
    cases h
    exact .inr (.inr (forwardIfEnabled_keeps _ _))
  | enableStats | recordFrameStart | getStats | clearStats =>
    cases h
    exact .inr (.inr (forwardStats_keeps _ _))
  | getSwapDuration | isEnabled | getFenceTimeout | getSupportedRefreshPeriodsNS =>
    cases h
    exact .inr (.inr (Keeps.refl s))

theorem run_cons_eq_some {c : Call} {cs : List Call} {s'' : SwappyGL} :
    s.run (c :: cs) = some s'' ↔ ∃ s' r, s.step c = some (s', r) ∧ s'.run cs = some s'' := by
  simp only [run, Option.bind_eq_some, Prod.exists]

/-- What every allowed call keeps holds after every run of allowed calls. -/
theorem run_inv {P : SwappyGL → Prop} {Q : Call → Prop}
    (hstep : ∀ {s c s' r}, P s → Q c → s.step c = some (s', r) → P s') :
    ∀ {calls : List Call} {s s' : SwappyGL}, P s → (∀ c ∈ calls, Q c) → s.run calls = some s' → P s'
  | [], _, _, hs, _, h => by
    cases h
    exact hs
  | c :: _, _, _, hs, hq, h => by
    obtain ⟨s₁, r, h₁, h⟩ := run_cons_eq_some.mp h
    exact run_inv hstep (hstep hs (hq c (List.mem_cons_self _ _)) h₁)
      (fun c' hc' => hq c' (List.mem_cons_of_mem _ hc')) h

/-- A run of allowed calls from a state where no allowed call fails has a result. -/
theorem run_isSome {P : SwappyGL → Prop} {Q : Call → Prop}
    (hsome : ∀ {s c}, P s → Q c → (s.step c).isSome)
    (hstep : ∀ {s c s' r}, P s → Q c → s.step c = some (s', r) → P s') :
    ∀ {calls : List Call} {s : SwappyGL}, P s → (∀ c ∈ calls, Q c) → (s.run calls).isSome
  | [], _, _, _ => rfl
  | c :: _, _, hs, hq => by
    obtain ⟨⟨s₁, r⟩, h₁⟩ := Option.isSome_iff_exists.mp (hsome hs (hq c (List.mem_cons_self _ _)))
    simp only [run, h₁, Option.some_bind]
    exact run_isSome hsome hstep (hstep hs (hq c (List.mem_cons_self _ _)) h₁)
      (fun c' hc' => hq c' (List.mem_cons_of_mem _ hc'))

/-- No call but `destroyInstance` removes the instance or changes its `mEnableSwappy` and EGL. -/
theorem instance_persists {c : Call} {r : Reply} (hd : c ≠ .destroyInstance) {i : Instance}
    (hi : s.sInstance = some i) (h : s.step c = some (s', r)) :
    ∃ i', s'.sInstance = some i' ∧ i'.core = i.core := by
  rcases step_cases h with ⟨rfl, -⟩ | ⟨p, -, hs, -⟩ | hk
  · exact absurd rfl hd
  · rw [hi] at hs
    cases hs
  · exact hk.instance_of hi

/-- Every thread's pointer, and the instance's EGL, is one of the EGLs built so far. -/
structure Fresh (s : SwappyGL) : Prop where
  thread : ∀ t e, s.egl.find t = some e → e < s.built
  inst : ∀ i e, s.sInstance = some i → i.egl = some e → e < s.built

theorem initial_fresh : Fresh initial := ⟨(fun _ _ h => nomatch h), fun _ _ h => nomatch h⟩

theorem Fresh.step {c : Call} {r : Reply} (hf : Fresh s) (h : s.step c = some (s', r)) : Fresh s' := by
  rcases step_cases h with ⟨-, rfl⟩ | ⟨p, -, -, rfl⟩ | hk
  · exact ⟨hf.thread, fun _ _ h => nomatch h⟩
  · refine ⟨fun t e he => Nat.lt_succ_of_lt (hf.thread t e he), fun i e hi he => ?_⟩
    cases hi
    rw [Instance.new_egl] at he
    split_ifs at he
    cases he
    exact Nat.lt_succ_self _
  · refine ⟨fun t e he => ?_, fun i e hi he => ?_⟩ <;> rw [hk.built]
    · rcases hk.egl t e he with he | ⟨i, hi, hie⟩
      · exact hf.thread t e he
      · exact hf.inst i e hi hie
    · obtain ⟨i₀, hi₀, hc⟩ := hk.instance_egl hi
      exact hf.inst i₀ e hi₀ ((congrArg Prod.snd hc).trans he)

/-- Every thread's pointer is to the EGL of the instance there is now. -/
def EglCurrent (s : SwappyGL) : Prop :=
  ∀ t e, s.egl.find t = some e → ∃ i, s.sInstance = some i ∧ i.egl = some e

theorem initial_eglCurrent : EglCurrent initial := fun _ _ h => nomatch h

theorem EglCurrent.step {c : Call} {r : Reply} (hc : EglCurrent s) (hd : c ≠ .destroyInstance)
    (h : s.step c = some (s', r)) : EglCurrent s' := by
  rcases step_cases h with ⟨rfl, -⟩ | ⟨p, -, hs, rfl⟩ | hk
  · exact absurd rfl hd
  · intro t e he
    obtain ⟨i, hi, -⟩ := hc t e he
    rw [hs] at hi
    cases hi
  · intro t e he
    obtain ⟨i, hi, hie⟩ := (hk.egl t e he).elim (hc t e) id
    obtain ⟨i', hi', hcore⟩ := hk.instance_of hi
    exact ⟨i', hi', (congrArg Prod.snd hcore).trans hie⟩

/-- With every pointer current, the one `getEgl()` gives is to a live EGL exactly when the
instance has one. -/
theorem owns_getEgl (hc : EglCurrent s) {i : Instance} (hi : s.sInstance = some i) (t : Nat) :
    i.owns (s.getEgl i t).2 = i.egl.isSome := by
  unfold getEgl
  split
  next e he =>
    obtain ⟨i', hi', hie⟩ := hc t e he
    rw [hi] at hi'
    cases hi'
    simp [Instance.owns, hie]
  next => split <;> simp_all [Instance.owns]

theorem swap_eq_none_iff {t : Nat} {a b d : Bool} :
    s.swap t a b d = none ↔ ∃ i, s.sInstance = some i ∧ i.owns (s.getEgl i t).2 = false := by
  unfold swap
  split
  next hs => simp [hs]
  next i hi => split_ifs with ho <;> simp [hi, ho]

theorem step_eq_none_iff {c : Call} :
    s.step c = none ↔ ∃ t a b d, c = .swap t a b d ∧ s.swap t a b d = none := by
  cases c
  case swap t a b d =>
    exact ⟨fun h => ⟨_, _, _, _, rfl, h⟩, fun ⟨_, _, _, _, he, h⟩ => by cases he; exact h⟩
  all_goals exact iff_of_false (Option.some_ne_none _) (by rintro ⟨_, _, _, _, ⟨⟩, _⟩)

/-- Until a `destroyInstance`, every thread's EGL pointer is that of the live instance. So from
the start and with no `destroyInstance`, a swap has no result exactly when the instance's EGL
functions did not load, and a run whose `init`s all load them never crashes. -/
theorem swap_crashes_only_without_egl (calls : List Call) (hd : Call.destroyInstance ∉ calls) :
    (∀ s, initial.run calls = some s → ∀ i t a b d, s.sInstance = some i →
      (s.step (.swap t a b d) = none ↔ i.egl = none)) ∧
    ((∀ p, Call.init p ∈ calls → p.eglLoads = true) → (initial.run calls).isSome) := by
  have hnd : ∀ c ∈ calls, c ≠ .destroyInstance := fun c hc he => hd (he ▸ hc)
  refine ⟨fun s hs i t a b d hi => ?_, fun hl => ?_⟩
  · have hcur : EglCurrent s := run_inv (fun hc hq h => hc.step hq h) initial_eglCurrent hnd hs
    show s.swap t a b d = none ↔ _
    simp [swap_eq_none_iff, hi, owns_getEgl hcur hi]
  · refine @run_isSome (fun s => EglCurrent s ∧ ∀ i, s.sInstance = some i → i.egl.isSome)
      (fun c => c ≠ .destroyInstance ∧ ∀ p, c = .init p → p.eglLoads = true) ?_ ?_ calls initial
      ⟨initial_eglCurrent, fun _ h => nomatch h⟩ (fun c hc => ⟨hnd c hc, fun p hp => hl p (hp ▸ hc)⟩)
    · intro s c ⟨hcur, hegl⟩ _
      rw [Option.isSome_iff_ne_none, Ne, step_eq_none_iff]
      rintro ⟨t, a, b, d, rfl, hn⟩
      obtain ⟨i, hi, ho⟩ := swap_eq_none_iff.mp hn
      rw [owns_getEgl hcur hi, hegl i hi] at ho
      cases ho
    · intro s c s' r ⟨hcur, hegl⟩ ⟨hd, hl⟩ h
      refine ⟨hcur.step hd h, fun i' hi' => ?_⟩
      rcases step_cases h with ⟨rfl, -⟩ | ⟨p, rfl, -, rfl⟩ | hk
      · exact absurd rfl hd
      · cases hi'
        rw [Instance.new_egl, hl p rfl]
        rfl
      · obtain ⟨i, hi, hc⟩ := hk.instance_egl hi'
        have he : i.egl = i'.egl := congrArg Prod.snd hc
        rw [← he]
        exact hegl i hi

theorem swap_crashes_only_without_egl_scenario :
    (initial.run [.init ⟨true, true, false, false⟩, .swap 0 false true true]).isSome ∧
      (initial.init ⟨false, true, false, false⟩).1.step (.swap 0 false true true) = none :=
  ⟨(swap_crashes_only_without_egl [.init ⟨true, true, false, false⟩, .swap 0 false true true]
      (by simp)).2 (by simp),
    ((swap_crashes_only_without_egl [.init ⟨false, true, false, false⟩] (by simp)).1 _ rfl _ 0
      false true true rfl).mpr rfl⟩

/-- A thread's pointer survives `destroyInstance` and `init`, and the new instance's EGL, if
any, is the new one. -/
theorem swap_after_reinit (hf : Fresh s) {t e : Nat} (he : s.egl.find t = some e) (p : Platform)
    (a b d : Bool) : (s.destroyInstance.init p).1.swap t a b d = none := by
  have hown : (Instance.new p s.built).owns (some e) = false := by
    rw [Instance.owns, Instance.new_egl]
    split_ifs <;> simp [Nat.ne_of_lt (hf.thread t e he)]
  simp only [swap, destroyInstance, init, getEgl, he, hown]
  rfl

/-- `getEgl()` keeps a thread's pointer across instances. After `destroyInstance` and a new
`init`, whatever the platform answers, a thread whose pointer is set (it has swapped on an
instance whose EGL loaded) still points at the EGL of the destroyed instance, which was freed
with it: the thread's next swap has no defined result. -/
theorem reinit_swap_uses_freed_egl (calls : List Call) (s : SwappyGL)
    (hs : initial.run calls = some s) (t : Nat) (ht : (s.egl.find t).isSome) (p : Platform)
    (a b d : Bool) : s.run [.destroyInstance, .init p, .swap t a b d] = none := by
  obtain ⟨e, he⟩ := Option.isSome_iff_exists.mp ht
  have hf : Fresh s :=
    @run_inv Fresh (fun _ => True) (fun hf _ h => hf.step h) calls initial s initial_fresh
      (fun _ _ => trivial) hs
  simp only [run, step, Option.some_bind, swap_after_reinit hf he p a b d, Option.none_bind]

theorem reinit_swap_uses_freed_egl_scenario :
    ((initial.run [.init ⟨true, true, false, false⟩, .swap 0 false true true]).get rfl).egl.find 0 =
        some 0 ∧
      ((initial.run [.init ⟨true, true, false, false⟩, .swap 0 false true true]).get rfl).run
        [.destroyInstance, .init ⟨true, true, false, false⟩, .swap 0 false true true] = none :=
  ⟨rfl, reinit_swap_uses_freed_egl [.init ⟨true, true, false, false⟩, .swap 0 false true true] _
    (Option.some_get (by rfl)).symm 0 rfl ⟨true, true, false, false⟩ false true true⟩

/-- `init` builds an instance only when there is none, and no call but `destroyInstance` removes
the instance or changes its `mEnableSwappy`. So after an `init` on no instance that returns
`false` (the EGL functions do not load, `SwappyCommon` is invalid, or the system property
disables Swappy), and until a `destroyInstance`, `isEnabled` answers `false` and every `init`
returns `false` and changes nothing, whatever the platform answers. -/
theorem failed_init_is_final {s₀ : SwappyGL} (h₀ : s₀.sInstance = none) (p : Platform)
    (hfail : (s₀.init p).2 = .bool false) (calls : List Call) (hd : Call.destroyInstance ∉ calls)
    (s : SwappyGL) (hs : (s₀.init p).1.run calls = some s) (p' : Platform) :
    s.step (.init p') = some (s, .bool false) ∧ s.step .isEnabled = some (s, .bool false) := by
  simp only [init, h₀, Reply.bool.injEq] at hfail hs
  obtain ⟨i, hi, hc⟩ := @run_inv
    (fun s => ∃ i, s.sInstance = some i ∧ i.core = (Instance.new p s₀.built).core)
    (· ≠ .destroyInstance) (fun ⟨_, hi, hc⟩ hq h => (instance_persists hq hi h).imp
      fun _ ⟨hi', hc'⟩ => ⟨hi', hc'.trans hc⟩)
    calls _ s ⟨_, rfl, rfl⟩ (fun c hc he => hd (he ▸ hc)) hs
  have he : i.enableSwappy = false := (congrArg Prod.fst hc).trans hfail
  simp [step, init, isEnabled, hi, he]

theorem failed_init_is_final_scenario :
    (initial.init ⟨false, true, false, true⟩).2 = .bool false ∧
      (((initial.init ⟨false, true, false, true⟩).1.run [.setWindow 5, .isEnabled]).get rfl).step
          (.init ⟨true, true, false, true⟩) =
        some (((initial.init ⟨false, true, false, true⟩).1.run [.setWindow 5, .isEnabled]).get rfl,
          .bool false) :=
  ⟨rfl, (@failed_init_is_final initial rfl ⟨false, true, false, true⟩ rfl [.setWindow 5, .isEnabled]
    (by simp) _ (Option.some_get (by rfl)).symm ⟨true, true, false, true⟩).1⟩

end SwappyGL

end Swappy
