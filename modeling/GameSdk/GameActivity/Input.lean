import Mathlib.Data.List.Basic
import Mathlib.Algebra.Group.Int

/-!
# Motion events and the axes they carry

`GameActivityInputInfo_enableAxis` and `GameActivityInputInfo_disableAxis` set one entry of the
static `enabledAxes`, and `GameActivityMotionEvent_fromJava` copies, for each pointer, the value
of each enabled axis and leaves the others `0`. `GameActivity.h` is not among the sources: the
axis count is the parameter `axisCount`, and `enabledAxes` starts with the first two axes on. A
Java event is what its getters answer; a time whose conversion to nanoseconds overflows
`int64_t` has no result.
-/

namespace GameActivity.Input

/-- A call from the game on the axes. -/
inductive AxisCall
  | enableAxis (axis : Int)
  | disableAxis (axis : Int)
  deriving Repr

section Axes

variable (axisCount : Nat)

/-- `enabledAxes` as its initializer leaves it. -/
def initialEnabledAxes : List Bool := (List.range axisCount).map fun axis => decide (axis < 2)

/-- `enabledAxes[axis] = value`, unless
`axis < 0 || axis >= GAME_ACTIVITY_POINTER_INFO_AXIS_COUNT`. -/
def setAxis (enabledAxes : List Bool) (axis : Int) (value : Bool) : List Bool :=
  if axis < 0 ∨ axis ≥ axisCount then enabledAxes else enabledAxes.set axis.toNat value

/-- `GameActivityInputInfo_enableAxis`. -/
def InputInfo.enableAxis (enabledAxes : List Bool) (axis : Int) : List Bool :=
  setAxis axisCount enabledAxes axis true

/-- `GameActivityInputInfo_disableAxis`. -/
def InputInfo.disableAxis (enabledAxes : List Bool) (axis : Int) : List Bool :=
  setAxis axisCount enabledAxes axis false

def AxisCall.apply (enabledAxes : List Bool) : AxisCall → List Bool
  | .enableAxis axis => InputInfo.enableAxis axisCount enabledAxes axis
  | .disableAxis axis => InputInfo.disableAxis axisCount enabledAxes axis

def runAxisCalls (enabledAxes : List Bool) : List AxisCall → List Bool
  | [] => enabledAxes
  | c :: cs => runAxisCalls (c.apply axisCount enabledAxes) cs

end Axes

/-- What a call asks for axis `a`, if it names it. -/
def AxisCall.setting (a : Nat) : AxisCall → Option Bool
  | .enableAxis axis => if axis = a then some true else none
  | .disableAxis axis => if axis = a then some false else none

/-- What the last call naming axis `a` asks for it. -/
def lastSetting (a : Nat) : List AxisCall → Option Bool
  | [] => none
  | c :: cs => (lastSetting a cs).or (c.setting a)

section Run

variable {axisCount a : Nat} {enabledAxes : List Bool}

theorem length_setAxis (axis : Int) (value : Bool) :
    (setAxis axisCount enabledAxes axis value).length = enabledAxes.length := by
  unfold setAxis
  split_ifs <;> simp

/-- An axis inside the array is set exactly by a call that names it. -/
theorem getElem?_setAxis (ha : a < axisCount) (hlen : enabledAxes.length = axisCount)
    (axis : Int) (value : Bool) :
    (setAxis axisCount enabledAxes axis value)[a]? =
      if axis = a then some value else enabledAxes[a]? := by
  unfold setAxis
  by_cases hin : axis < 0 ∨ axis ≥ axisCount
  · have hne : axis ≠ a := by omega
    simp only [if_pos hin, if_neg hne]
  · have heq : axis.toNat = a ↔ axis = a := by omega
    simp only [if_neg hin, List.getElem?_set, heq, hlen]
    split_ifs <;> first | rfl | omega

theorem length_apply (c : AxisCall) :
    (c.apply axisCount enabledAxes).length = enabledAxes.length := by
  cases c <;> exact length_setAxis _ _

theorem getElem?_apply (ha : a < axisCount) (hlen : enabledAxes.length = axisCount)
    (c : AxisCall) :
    (c.apply axisCount enabledAxes)[a]? = (c.setting a).or enabledAxes[a]? := by
  cases c <;>
    simp only [AxisCall.apply, InputInfo.enableAxis, InputInfo.disableAxis, AxisCall.setting,
      getElem?_setAxis ha hlen] <;>
    split_ifs <;> rfl

/-- From any array of the right length, a run leaves each axis as its last call asks, and
otherwise as it was. -/
theorem getElem?_runAxisCalls (ha : a < axisCount) (calls : List AxisCall) :
    enabledAxes.length = axisCount →
      (runAxisCalls axisCount enabledAxes calls)[a]? =
        (lastSetting a calls).or enabledAxes[a]? := by
  induction calls generalizing enabledAxes with
  | nil => intro _; rfl
  | cons c cs ih =>
    intro hlen
    rw [runAxisCalls, ih ((length_apply c).trans hlen), getElem?_apply ha hlen, lastSetting,
      Option.or_assoc]

end Run

theorem getElem?_initialEnabledAxes {axisCount a : Nat} (ha : a < axisCount) :
    (initialEnabledAxes axisCount)[a]? = some (decide (a < 2)) := by
  simp [initialEnabledAxes, ha]

/-- After any run of calls, an axis is enabled when the last call naming it enables it, or,
when no call names it, when it is X or Y. -/
theorem enabledAxes_after_calls {axisCount a : Nat} (ha : a < axisCount) (calls : List AxisCall) :
    (runAxisCalls axisCount (initialEnabledAxes axisCount) calls)[a]? =
      some ((lastSetting a calls).getD (decide (a < 2))) := by
  rw [getElem?_runAxisCalls ha calls (by simp [initialEnabledAxes]),
    getElem?_initialEnabledAxes ha]
  cases lastSetting a calls <;> rfl

/-- What the getters of a Java `MotionEvent` answer; the pointer's index is the last argument. -/
structure JavaMotionEvent where
  deviceId : Int
  source : Int
  action : Int
  eventTime : Int
  downTime : Int
  flags : Int
  metaState : Int
  actionButton : Int
  buttonState : Int
  classification : Int
  edgeFlags : Int
  pointerCount : Int
  pointerId : Nat → Int
  rawX : Nat → Float
  rawY : Nat → Float
  xPrecision : Float
  yPrecision : Float
  axisValue : Nat → Nat → Float

/-- `GameActivityInputInfo`. -/
structure InputInfo where
  id : Int
  axisValues : List Float
  rawX : Float
  rawY : Float

/-- `GameActivityMotionEvent`. -/
structure MotionEvent where
  deviceId : Int
  source : Int
  action : Int
  eventTime : Int
  downTime : Int
  flags : Int
  metaState : Int
  actionButton : Int
  buttonState : Int
  classification : Int
  edgeFlags : Int
  pointerCount : Nat
  pointers : List InputInfo
  precisionX : Float
  precisionY : Float

/-- Which of the getters that depend on the SDK version `gMotionEventClassInfo` holds. -/
structure MotionEventClassInfo where
  getActionButton : Bool
  getButtonState : Bool
  getClassification : Bool
  getRawX : Bool
  getRawY : Bool

/-- The lookups of the first call, for the SDK version it reads. -/
def motionEventClassInfo (sdkVersion : Int) : MotionEventClassInfo where
  getActionButton := decide (23 ≤ sdkVersion)
  getButtonState := decide (14 ≤ sdkVersion)
  getClassification := decide (29 ≤ sdkVersion)
  getRawX := decide (29 ≤ sdkVersion)
  getRawY := decide (29 ≤ sdkVersion)

/-- `ms * 1000000` in `int64_t`; `none` where it overflows. -/
def millisToNanos (ms : Int) : Option Int :=
  if -2 ^ 63 ≤ ms * 1000000 ∧ ms * 1000000 < 2 ^ 63 then some (ms * 1000000) else none

section FromJava

variable (axisCount : Nat)

/-- The loop over `axisIndex` for pointer `i`, from `axisValues = {0}`. -/
def axisValues (enabledAxes : List Bool) (e : JavaMotionEvent) (i : Nat) : List Float :=
  (List.range axisCount).foldl (fun values axisIndex =>
      if enabledAxes.getD axisIndex false then values.set axisIndex (e.axisValue axisIndex i)
      else values)
    (List.replicate axisCount 0)

/-- `pointers[i]`. -/
def inputInfo (info : MotionEventClassInfo) (enabledAxes : List Bool) (e : JavaMotionEvent)
    (i : Nat) : InputInfo where
  id := e.pointerId i
  axisValues := axisValues axisCount enabledAxes e i
  rawX := if info.getRawX then e.rawX i else 0
  rawY := if info.getRawY then e.rawY i else 0

/-- `GameActivityMotionEvent_fromJava`. The pointer count, a Java `int`, is kept in a
`uint32_t`. -/
def MotionEvent.fromJava (sdkVersion : Int) (enabledAxes : List Bool) (e : JavaMotionEvent) :
    Option MotionEvent := do
  let info := motionEventClassInfo sdkVersion
  let pointerCount := (e.pointerCount % 2 ^ 32).toNat
  let eventTime ← millisToNanos e.eventTime
  let downTime ← millisToNanos e.downTime
  pure
    { deviceId := e.deviceId
      source := e.source
      action := e.action
      eventTime
      downTime
      flags := e.flags
      metaState := e.metaState
      actionButton := if info.getActionButton then e.actionButton else 0
      buttonState := if info.getButtonState then e.buttonState else 0
      classification := if info.getClassification then e.classification else 0
      edgeFlags := e.edgeFlags
      pointerCount
      pointers := (List.range pointerCount).map (inputInfo axisCount info enabledAxes e)
      precisionX := e.xPrecision
      precisionY := e.yPrecision }

end FromJava

section AxisLoop

variable {axisCount : Nat} {enabledAxes : List Bool} {e : JavaMotionEvent} {i : Nat}

/-- The axis loop, after its first `k` axes, has written exactly the enabled ones among them. -/
theorem foldl_range_axisValues {k : Nat} (hk : k ≤ axisCount) :
    (List.range k).foldl (fun values axisIndex =>
        if enabledAxes.getD axisIndex false then values.set axisIndex (e.axisValue axisIndex i)
        else values)
      (List.replicate axisCount 0) =
    (List.range axisCount).map fun a =>
      if a < k ∧ enabledAxes.getD a false then e.axisValue a i else 0 := by
  induction k with
  | zero => simp [List.map_const']
  | succ k ih =>
    rw [List.range_succ, List.foldl_append, ih (by omega), List.foldl_cons, List.foldl_nil]
    apply List.ext_getElem
      (by split_ifs <;> simp only [List.length_set, List.length_map, List.length_range])
    intro a _ _
    have hlt : a < k + 1 ↔ a < k ∨ a = k := Nat.lt_succ_iff_lt_or_eq
    split_ifs with hk'
    · rw [List.getElem_set]
      simp only [List.getElem_map, List.getElem_range]
      by_cases hka : k = a
      · subst hka
        rw [if_pos rfl, if_pos ⟨Nat.lt_succ_self k, hk'⟩]
      · simp only [if_neg hka, hlt, Ne.symm hka, or_false]
    · simp only [List.getElem_map, List.getElem_range, hlt]
      by_cases hka : a = k
      · subst hka
        rw [if_neg (fun h => Nat.lt_irrefl a h.1), if_neg fun h => hk' h.2]
      · simp only [hka, or_false]

/-- The loop leaves the Java value of each enabled axis and `0` for the others. -/
theorem axisValues_eq :
    axisValues axisCount enabledAxes e i =
      (List.range axisCount).map fun a =>
        if enabledAxes.getD a false then e.axisValue a i else 0 := by
  rw [axisValues, foldl_range_axisValues le_rfl]
  refine List.map_congr_left fun a ha => ?_
  simp [List.mem_range.mp ha]

end AxisLoop

/-- After any run of axis calls, a motion event whose times fit in `int64_t` converts, and each
of its pointers has its Java id and carries the Java value of each axis the run left enabled,
`0` for the others. -/
theorem motionEvent_carries_enabled_axes (axisCount : Nat) (sdkVersion : Int)
    (calls : List AxisCall) (e : JavaMotionEvent) (he : (millisToNanos e.eventTime).isSome)
    (hd : (millisToNanos e.downTime).isSome) :
    ∃ ev, MotionEvent.fromJava axisCount sdkVersion
        (runAxisCalls axisCount (initialEnabledAxes axisCount) calls) e = some ev ∧
      ev.pointers.length = ev.pointerCount ∧
      ∀ i < ev.pointerCount, ∃ p, ev.pointers[i]? = some p ∧ p.id = e.pointerId i ∧
        p.axisValues.length = axisCount ∧ ∀ a < axisCount, p.axisValues[a]? =
          some (if (lastSetting a calls).getD (decide (a < 2)) then e.axisValue a i else 0) := by
  obtain ⟨t, ht⟩ := Option.isSome_iff_exists.mp he
  obtain ⟨d, hd⟩ := Option.isSome_iff_exists.mp hd
  refine ⟨_, by rw [MotionEvent.fromJava, ht, hd]; rfl, by simp, fun i hi =>
    ⟨inputInfo axisCount (motionEventClassInfo sdkVersion)
      (runAxisCalls axisCount (initialEnabledAxes axisCount) calls) e i, ?_, rfl, ?_⟩⟩
  · rw [List.getElem?_map, List.getElem?_range hi]
    rfl
  · refine ⟨by simp [inputInfo, axisValues_eq], fun a ha => ?_⟩
    have hmask := enabledAxes_after_calls ha calls
    simp [inputInfo, axisValues_eq, ha, List.getD_eq_getElem?_getD, hmask]

theorem motionEvent_carries_enabled_axes_scenario :
    (millisToNanos 1000).isSome ∧ (millisToNanos 990).isSome ∧
      ∃ ev, MotionEvent.fromJava 48 33
          (runAxisCalls 48 (initialEnabledAxes 48) [.enableAxis 5, .disableAxis 0])
          ⟨0, 0, 0, 1000, 990, 0, 0, 0, 0, 0, 0, 1, fun n => n, fun _ => 0, fun _ => 0, 1, 1,
            fun _ _ => 1⟩ = some ev ∧
        ev.pointers.length = ev.pointerCount ∧
        ∀ i < ev.pointerCount, ∃ p, ev.pointers[i]? = some p ∧ p.id = i ∧
          p.axisValues.length = 48 ∧ ∀ a < 48, p.axisValues[a]? =
            some (if (lastSetting a [.enableAxis 5, .disableAxis 0]).getD (decide (a < 2)) then 1
              else 0) :=
  ⟨by decide, by decide, motionEvent_carries_enabled_axes 48 33 _ _ (by decide) (by decide)⟩

end GameActivity.Input
