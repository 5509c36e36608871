import GameSdk.GameActivity.Input
import GameSdk.TuningFork.DebugJSON

/-!
# The event entry points of GameActivity

The JNI entry points through which the Java activity passes lifecycle, input and GameInput
events to the game. Each takes the `NativeCode` as a `jlong` handle, `none` here for `0`, and
calls the game's callback only when it is not null. The input conversions read the SDK version
once and keep it in a static. The game's callbacks, GameInput and the JNI lookups are left
out; a crash or an `int` overflow gives `none`.
-/

namespace GameActivity.Events

open GameActivity.Input
open TuningFork.Histogram (digitsValue)

/-- The characters `isspace` accepts in the "C" locale. -/
def isSpace (c : Char) : Bool :=
  c == ' ' || c == '\t' || c == '\n' || c == '\x0b' || c == '\x0c' || c == '\r'

def LLONG_MAX : Int := 2 ^ 63 - 1
def LLONG_MIN : Int := -2 ^ 63

/-- `strtoll(s, nullptr, 10)`: blanks, an optional sign and a run of decimal digits, the value
clamped to `long long` as `ERANGE` does; `0` when no digit follows. -/
def strtoll (s : List Char) : Int :=
  match s.dropWhile isSpace with
  | '-' :: rest => max LLONG_MIN (-(digitsValue (rest.takeWhile Char.isDigit) : Int))
  | '+' :: rest => min LLONG_MAX (digitsValue (rest.takeWhile Char.isDigit) : Int)
  | rest => min LLONG_MAX (digitsValue (rest.takeWhile Char.isDigit) : Int)

/-- The conversion of a `long long` to `int`, modulo `2 ^ 32`. -/
def toInt (v : Int) : Int := (v + 2 ^ 31) % 2 ^ 32 - 2 ^ 31

/-- `GetSystemProp`: the property's text, `""` when it is not set. -/
def getSystemProp (value : Option (List Char)) : List Char := value.getD []

/-- `GetSystemPropAsInt(key, default_value)`, given the text `GetSystemProp(key)` returns. -/
def getSystemPropAsInt (prop : List Char) (defaultValue : Int) : Int :=
  if prop = [] then defaultValue else toInt (strtoll prop)

/-- What the getters of a Java `KeyEvent` answer. -/
structure JavaKeyEvent where
  deviceId : Int
  source : Int
  action : Int
  eventTime : Int
  downTime : Int
  flags : Int
  metaState : Int
  modifiers : Int
  repeatCount : Int
  keyCode : Int

/-- `GameActivityKeyEvent`; the times are in nanoseconds. -/
structure KeyEvent where
  deviceId : Int
  source : Int
  action : Int
  eventTime : Int
  downTime : Int
  flags : Int
  metaState : Int
  modifiers : Int
  repeatCount : Int
  keyCode : Int

/-- `GameActivityKeyEvent_fromJava`, with the SDK version its first call read: `getModifiers`
exists from SDK 13 on, and without it the field is `0`. -/
def KeyEvent.fromJava (sdkVersion : Int) (e : JavaKeyEvent) : Option KeyEvent := do
  let eventTime ← millisToNanos e.eventTime
  let downTime ← millisToNanos e.downTime
  pure
    { deviceId := e.deviceId
      source := e.source
      action := e.action
      eventTime
      downTime
      flags := e.flags
      metaState := e.metaState
      modifiers := if 13 ≤ sdkVersion then e.modifiers else 0
      repeatCount := e.repeatCount
      keyCode := e.keyCode }

/-- Which of the game's callbacks in `GameActivityCallbacks` these entry points call are
non-null. -/
structure Callbacks where
  onStart : Bool
  onResume : Bool
  onSaveInstanceState : Bool
  onPause : Bool
  onStop : Bool
  onConfigurationChanged : Bool
  onLowMemory : Bool
  onWindowFocusChanged : Bool
  onContentRectChanged : Bool
  onTouchEvent : Bool
  onKeyUp : Bool
  onKeyDown : Bool

/-- `ARect`. -/
structure ARect where
  left : Int
  top : Int
  right : Int
  bottom : Int

/-- What an entry point passes on: a call of one of the game's callbacks, with its arguments,
or a call into GameInput. -/
inductive Delivery
  | onStart
  | onResume
  | onSaveInstanceState
  | onPause
  | onStop
  | onConfigurationChanged
  | onLowMemory
  | onWindowFocusChanged (hasFocus : Int)
  | onContentRectChanged (rect : ARect)
  | onTouchEvent (event : MotionEvent)
  | onKeyUp (event : KeyEvent)
  | onKeyDown (event : KeyEvent)
  | gameInputProcessEvent (textInputEvent : Nat)
  | gameInputSetInputConnection (inputConnection : Nat)

/-- The statics of the two conversions: the SDK version each read at its first call, if it
has been called. -/
structure Statics where
  motionSdkVersion : Option Int
  keySdkVersion : Option Int

/-- Before any conversion. -/
def Statics.initial : Statics := ⟨none, none⟩

/-- `if (!initialized) { int sdkVersion = GetSystemPropAsInt(...); ... initialized = true; }`:
the SDK version a conversion uses, the one read now only at the first call. -/
def classInfoVersion (cached : Option Int) (sdkProp : List Char) : Int :=
  cached.getD (getSystemPropAsInt sdkProp 0)

/-- `int32_t` addition; `none` where it overflows. -/
def addInt32 (a b : Int) : Option Int :=
  if -2 ^ 31 ≤ a + b ∧ a + b < 2 ^ 31 then some (a + b) else none

/-- `onStart_native`, `onResume_native`, `onPause_native`, `onStop_native`,
`onConfigurationChanged_native`, `onLowMemory_native` and `onWindowFocusChanged_native`:
nothing for handle `0`, else the callback `registered` reads, if it is not null. -/
def lifecycleNative (registered : Callbacks → Bool) (d : Delivery) :
    Option Callbacks → List Delivery
  | none => []
  | some cb => if registered cb then [d] else []

def onStartNative : Option Callbacks → List Delivery :=
  lifecycleNative Callbacks.onStart .onStart

def onResumeNative : Option Callbacks → List Delivery :=
  lifecycleNative Callbacks.onResume .onResume

def onPauseNative : Option Callbacks → List Delivery :=
  lifecycleNative Callbacks.onPause .onPause

def onStopNative : Option Callbacks → List Delivery :=
  lifecycleNative Callbacks.onStop .onStop

def onConfigurationChangedNative : Option Callbacks → List Delivery :=
  lifecycleNative Callbacks.onConfigurationChanged .onConfigurationChanged

def onLowMemoryNative : Option Callbacks → List Delivery :=
  lifecycleNative Callbacks.onLowMemory .onLowMemory

/-- `onWindowFocusChanged_native`: the `jboolean` is passed on as `1` or `0`. -/
def onWindowFocusChangedNative (handle : Option Callbacks) (focused : Bool) : List Delivery :=
  lifecycleNative Callbacks.onWindowFocusChanged (.onWindowFocusChanged (if focused then 1 else 0))
    handle

/-- `onSaveInstanceState_native`, given the bytes the game's callback returns and whether
`NewByteArray` succeeds: the array it returns, `NULL` for no bytes. -/
def onSaveInstanceStateNative (handle : Option Callbacks) (state : List Int)
    (newByteArrayOk : Bool) : Option (List Int) × List Delivery :=
  match handle with
  | none => (none, [])
  | some cb =>
    if cb.onSaveInstanceState then
      (if 0 < state.length ∧ newByteArrayOk then some state else none, [.onSaveInstanceState])
    else (none, [])

/-- `onContentRectChanged_native`: the rectangle from `x`, `y`, `w` and `h`, whose right and
bottom edges are `int` sums. -/
def onContentRectChangedNative (handle : Option Callbacks) (x y w h : Int) :
    Option (List Delivery) :=
  match handle with
  | none => some []
  | some cb =>
    if cb.onContentRectChanged then
      (addInt32 x w).bind fun right => (addInt32 y h).map fun bottom =>
        [.onContentRectChanged ⟨x, y, right, bottom⟩]
    else some []

section Input

variable (axisCount : Nat) (enabledAxes : List Bool)

/-- `onTouchEvent_native`: the event converted by `GameActivityMotionEvent_fromJava`, which
only a registered callback triggers. -/
def onTouchEventNative (statics : Statics) (sdkProp : List Char) (handle : Option Callbacks)
    (e : JavaMotionEvent) : Option (Statics × List Delivery) :=
  match handle with
  | none => some (statics, [])
  | some cb =>
    if cb.onTouchEvent then
      (MotionEvent.fromJava axisCount (classInfoVersion statics.motionSdkVersion sdkProp)
          enabledAxes e).map fun ev =>
        ({ statics with
            motionSdkVersion := some (classInfoVersion statics.motionSdkVersion sdkProp) },
          [.onTouchEvent ev])
    else some (statics, [])

end Input

/-- `onKeyUp_native` and `onKeyDown_native`: the event converted by
`GameActivityKeyEvent_fromJava` for the callback `registered` reads, if it is not null. -/
def keyNative (registered : Callbacks → Bool) (d : KeyEvent → Delivery) (statics : Statics)
    (sdkProp : List Char) (handle : Option Callbacks) (e : JavaKeyEvent) :
    Option (Statics × List Delivery) :=
  match handle with
  | none => some (statics, [])
  | some cb =>
    if registered cb then
      (KeyEvent.fromJava (classInfoVersion statics.keySdkVersion sdkProp) e).map fun ev =>
        ({ statics with keySdkVersion := some (classInfoVersion statics.keySdkVersion sdkProp) },
          [d ev])
    else some (statics, [])

def onKeyUpNative : Statics → List Char → Option Callbacks → JavaKeyEvent →
    Option (Statics × List Delivery) :=
  keyNative Callbacks.onKeyUp .onKeyUp

def onKeyDownNative : Statics → List Char → Option Callbacks → JavaKeyEvent →
    Option (Statics × List Delivery) :=
  keyNative Callbacks.onKeyDown .onKeyDown

/-- `onTextInput_native`: nothing for handle `0`, else `GameInput_processEvent`. -/
def onTextInputNative (handle : Option Callbacks) (textInputEvent : Nat) : List Delivery :=
  match handle with
  | none => []
  | some _ => [.gameInputProcessEvent textInputEvent]

/-- `setInputConnection_native` reads `code->gameInput` without testing the handle: handle
`0` is a null dereference. -/
def setInputConnectionNative (handle : Option Callbacks) (inputConnection : Nat) :
    Option (List Delivery) :=
  handle.map fun _ => [.gameInputSetInputConnection inputConnection]

/-- What the entry points share with the game's calls on the axes: the statics of the
conversions and `enabledAxes`. -/
structure State where
  statics : Statics
  enabledAxes : List Bool

/-- When the library is loaded. -/
def State.initial (axisCount : Nat) : State := ⟨Statics.initial, initialEnabledAxes axisCount⟩

/-- A call of an entry point, with what the platform and the game answer it, or a call of the
game on the axes. -/
inductive Call
  | axis (c : AxisCall)
  | onStart
  | onResume
  | onPause
  | onStop
  | onConfigurationChanged
  | onLowMemory
  | onWindowFocusChanged (focused : Bool)
  | onSaveInstanceState (state : List Int) (newByteArrayOk : Bool)
  | onContentRectChanged (x y w h : Int)
  | onTouchEvent (sdkProp : List Char) (e : JavaMotionEvent)
  | onKeyUp (sdkProp : List Char) (e : JavaKeyEvent)
  | onKeyDown (sdkProp : List Char) (e : JavaKeyEvent)
  | onTextInput (textInputEvent : Nat)
  | setInputConnection (inputConnection : Nat)

section Run

variable (axisCount : Nat) (handle : Option Callbacks)

/-- One call, each atomic: the new state and what it passed on, or `none` on a crash or an
overflow. -/
def step (s : State) : Call → Option (State × List Delivery)
  | .axis c => some ({ s with enabledAxes := c.apply axisCount s.enabledAxes }, [])
  | .onStart => some (s, onStartNative handle)
  | .onResume => some (s, onResumeNative handle)
  | .onPause => some (s, onPauseNative handle)
  | .onStop => some (s, onStopNative handle)
  | .onConfigurationChanged => some (s, onConfigurationChangedNative handle)
  | .onLowMemory => some (s, onLowMemoryNative handle)
  | .onWindowFocusChanged focused => some (s, onWindowFocusChangedNative handle focused)
  | .onSaveInstanceState state ok => some (s, (onSaveInstanceStateNative handle state ok).2)
  | .onContentRectChanged x y w h => (onContentRectChangedNative handle x y w h).map (s, ·)
  | .onTouchEvent sdkProp e =>
    (onTouchEventNative axisCount s.enabledAxes s.statics sdkProp handle e).map fun r =>
      ({ s with statics := r.1 }, r.2)
  | .onKeyUp sdkProp e =>
    (onKeyUpNative s.statics sdkProp handle e).map fun r => ({ s with statics := r.1 }, r.2)
  | .onKeyDown sdkProp e =>
    (onKeyDownNative s.statics sdkProp handle e).map fun r => ({ s with statics := r.1 }, r.2)
  | .onTextInput textInputEvent => some (s, onTextInputNative handle textInputEvent)
  | .setInputConnection inputConnection =>
    (setInputConnectionNative handle inputConnection).map (s, ·)

/-- Calls one after another: the last state and all that was passed on, or `none` at the
first crash. -/
def run (s : State) : List Call → Option (State × List Delivery)
  | [] => some (s, [])
  | c :: cs => (step axisCount handle s c).bind fun r =>
    (run r.1 cs).map fun r' => (r'.1, r.2 ++ r'.2)

/-- Every SDK version cached in `s` is still cached, unchanged, in `s'`. -/
def Statics.Keeps (s s' : Statics) : Prop :=
  (∀ v, s.motionSdkVersion = some v → s'.motionSdkVersion = some v) ∧
    (∀ v, s.keySdkVersion = some v → s'.keySdkVersion = some v)

theorem Statics.Keeps.refl (s : Statics) : s.Keeps s := ⟨fun _ => id, fun _ => id⟩

theorem Statics.Keeps.trans {s s' s'' : Statics} (h : s.Keeps s') (h' : s'.Keeps s'') :
    s.Keeps s'' :=
  ⟨fun v hv => h'.1 v (h.1 v hv), fun v hv => h'.2 v (h.2 v hv)⟩

end Run

end GameActivity.Events
