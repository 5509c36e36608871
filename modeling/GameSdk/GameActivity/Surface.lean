import Mathlib.Order.Basic

/-!
# Surface callbacks of GameActivity

`onSurfaceCreated_native`, `onSurfaceChanged_native`, `onSurfaceRedrawNeeded_native` and
`onSurfaceDestroyed_native` keep `NativeCode::nativeWindow` and call the game's
`onNativeWindow*` callbacks. A window is the handle of the event's surface, `none` for a null
one; asking a null window for its size crashes, and the handler then returns `none`.
-/

namespace GameActivity

/-- Which of the game's window callbacks in `GameActivityCallbacks` are non-null. -/
structure Callbacks where
  onNativeWindowCreated : Bool
  onNativeWindowResized : Bool
  onNativeWindowRedrawNeeded : Bool
  onNativeWindowDestroyed : Bool
  deriving DecidableEq, Repr

/-- The part of `NativeCode` the surface handlers read and write. -/
structure NativeCode where
  callbacks : Callbacks
  nativeWindow : Option Nat
  lastWindowWidth : Int
  lastWindowHeight : Int
  deriving DecidableEq, Repr

/-- A call of one of the game's window callbacks, with the window it is given. -/
inductive Callback
  | onNativeWindowCreated (window : Nat)
  | onNativeWindowResized (window : Nat)
  | onNativeWindowRedrawNeeded (window : Nat)
  | onNativeWindowDestroyed (window : Nat)
  deriving DecidableEq, Repr

/-- A `SurfaceHolder` event, with what the platform answers its handler: the window of the
event's surface, and for `onSurfaceChanged` the size reported for that window. -/
inductive Event
  | onSurfaceCreated (window : Option Nat)
  | onSurfaceChanged (window : Option Nat) (width height : Int)
  | onSurfaceRedrawNeeded
  | onSurfaceDestroyed
  deriving DecidableEq, Repr

namespace NativeCode

/-- `NativeCode::setSurface`, given what `ANativeWindow_fromSurface` returns. -/
def setSurface (code : NativeCode) (window : Option Nat) : NativeCode :=
  { code with nativeWindow := window }

/-- `if (window != NULL && callback != NULL) callback(code, window)`. -/
def notify (registered : Bool) (callback : Nat → Callback) : Option Nat → List Callback
  | some w => if registered then [callback w] else []
  | none => []

def onSurfaceCreatedNative (code : NativeCode) (window : Option Nat) :
    NativeCode × List Callback :=
  let code := code.setSurface window
  (code, notify code.callbacks.onNativeWindowCreated .onNativeWindowCreated code.nativeWindow)

/-- `onSurfaceChanged_native`: a new window replaces the old one, with `Destroyed` for the old
and `Created` for the new, and records its size; the same window is `Resized` when its size
differs from the recorded one, which that branch does not update. -/
def onSurfaceChangedNative (code : NativeCode) (window : Option Nat) (width height : Int) :
    Option (NativeCode × List Callback) :=
  let oldNativeWindow := code.nativeWindow
  let code := code.setSurface window
  if oldNativeWindow ≠ code.nativeWindow then
    let destroyed :=
      notify code.callbacks.onNativeWindowDestroyed .onNativeWindowDestroyed oldNativeWindow
    match code.nativeWindow with
    | some w =>
      let code := { code with lastWindowWidth := width, lastWindowHeight := height }
      some (code, destroyed ++ notify code.callbacks.onNativeWindowCreated .onNativeWindowCreated (some w))
    | none => some (code, destroyed)
  else
    match code.nativeWindow with
    | none => none
    | some w =>
      some (code, if width ≠ code.lastWindowWidth ∨ height ≠ code.lastWindowHeight then
        notify code.callbacks.onNativeWindowResized .onNativeWindowResized (some w) else [])

def onSurfaceRedrawNeededNative (code : NativeCode) : List Callback :=
  notify code.callbacks.onNativeWindowRedrawNeeded .onNativeWindowRedrawNeeded code.nativeWindow

def onSurfaceDestroyedNative (code : NativeCode) : NativeCode × List Callback :=
  (code.setSurface none,
    notify code.callbacks.onNativeWindowDestroyed .onNativeWindowDestroyed code.nativeWindow)

/-- Deliver one event: the new state and the callbacks made, or `none` on a crash. -/
def handle (code : NativeCode) : Event → Option (NativeCode × List Callback)
  | .onSurfaceCreated window => some (code.onSurfaceCreatedNative window)
  | .onSurfaceChanged window width height => code.onSurfaceChangedNative window width height
  | .onSurfaceRedrawNeeded => some (code, code.onSurfaceRedrawNeededNative)
  | .onSurfaceDestroyed => some code.onSurfaceDestroyedNative

/-- Deliver events one after another: the last state and every callback made, or `none` at
the first crash. -/
def deliver (code : NativeCode) : List Event → Option (NativeCode × List Callback)
  | [] => some (code, [])
  | e :: es => (code.handle e).bind fun (code', out) =>
    (code'.deliver es).map fun (code'', rest) => (code'', out ++ rest)

/-- `SurfaceHolder` delivers `surfaceCreated` only while no window is current. -/
def expects (code : NativeCode) : Event → Bool
  | .onSurfaceCreated _ => code.nativeWindow.isNone
  | _ => true

theorem handle_callbacks {code code' : NativeCode} {out : List Callback} {e : Event}
    (h : code.handle e = some (code', out)) : code'.callbacks = code.callbacks := by
  cases e with
  | onSurfaceChanged window width height =>
    simp only [handle, onSurfaceChangedNative, setSurface] at h
    split at h
    · split at h <;> cases h <;> rfl
    · split at h
      · cases h
      · cases h; rfl
  | _ => cases h; rfl

/-- The handlers crash exactly on `onSurfaceChanged` with a null surface while no window is
current, where `ANativeWindow_getWidth` is asked for the size of a null window. -/
theorem handle_eq_none_iff (code : NativeCode) (e : Event) :
    code.handle e = none ↔
      ∃ width height, e = .onSurfaceChanged none width height ∧ code.nativeWindow = none := by
  cases e with
  | onSurfaceChanged window width height =>
    simp only [handle, onSurfaceChangedNative, setSurface, Event.onSurfaceChanged.injEq]
    split
    next hne => split <;> simp_all
    next heq =>
      rw [not_not.mp heq]
      cases window <;> simp
  | _ => simp [handle]

/-- `onSurfaceCreated_native` records no size, and a change that keeps the window compares
with the recorded size without updating it. So two changes of a new window to one size both
compare with the size recorded before the window existed, and make the same callbacks. -/
theorem same_window_changes_compare_stale_size (created redraw destroyed : Bool) (w : Nat)
    (lastWidth lastHeight width height : Int) :
    deliver ⟨⟨created, true, redraw, destroyed⟩, none, lastWidth, lastHeight⟩
        [.onSurfaceCreated (some w), .onSurfaceChanged (some w) width height,
          .onSurfaceChanged (some w) width height] =
      some (⟨⟨created, true, redraw, destroyed⟩, some w, lastWidth, lastHeight⟩,
        notify created .onNativeWindowCreated (some w) ++
          ((if width ≠ lastWidth ∨ height ≠ lastHeight then [.onNativeWindowResized w] else []) ++
            if width ≠ lastWidth ∨ height ≠ lastHeight then [.onNativeWindowResized w] else [])) := by
  simp only [deliver, handle, onSurfaceCreatedNative, onSurfaceChangedNative, setSurface,
    ne_eq, not_true_eq_false, if_false, Option.some_bind, Option.map_some', List.append_nil]
  split_ifs <;> simp [notify]

end NativeCode

/-- The order the window callbacks keep, from `current`, the window of the last `Created` not
yet `Destroyed`: `Created` only when there is none, and `Destroyed`, `Resized` and
`RedrawNeeded` only of that window. The result is the window current at the end, or `none`
when a callback breaks the order. -/
def windowOrder : Option Nat → List Callback → Option (Option Nat)
  | current, [] => some current
  | none, .onNativeWindowCreated w :: cs => windowOrder (some w) cs
  | some v, .onNativeWindowDestroyed w :: cs => if w = v then windowOrder none cs else none
  | some v, .onNativeWindowResized w :: cs => if w = v then windowOrder (some v) cs else none
  | some v, .onNativeWindowRedrawNeeded w :: cs => if w = v then windowOrder (some v) cs else none
  | _, _ :: _ => none

theorem windowOrder_append (current : Option Nat) (cs ds : List Callback) :
    windowOrder current (cs ++ ds) = (windowOrder current cs).bind (windowOrder · ds) := by
  induction cs generalizing current with
  | nil => simp [windowOrder]
  | cons c cs ih =>
    rw [List.cons_append]
    rcases current with _ | v <;> cases c <;> simp only [windowOrder, ih, Option.none_bind] <;>
      split_ifs <;> simp only [Option.none_bind]

theorem windowOrder_notify_destroyed (w : Option Nat) :
    windowOrder w (NativeCode.notify true .onNativeWindowDestroyed w) = some none := by
  cases w <;> simp [NativeCode.notify, windowOrder]

theorem windowOrder_notify_current (registered : Bool) {callback : Nat → Callback}
    (hcb : callback = .onNativeWindowResized ∨ callback = .onNativeWindowRedrawNeeded)
    (w : Option Nat) : windowOrder w (NativeCode.notify registered callback w) = some w := by
  rcases hcb with rfl | rfl <;> cases w <;> cases registered <;> simp [NativeCode.notify, windowOrder]

section Handlers

variable {code code' : NativeCode} {out : List Callback}
variable (hc : code.callbacks.onNativeWindowCreated = true)
  (hd : code.callbacks.onNativeWindowDestroyed = true)
include hc hd

omit hd in
theorem onSurfaceCreated_windowOrder (window : Option Nat) (ho : code.nativeWindow = none) :
    windowOrder code.nativeWindow (code.onSurfaceCreatedNative window).2 =
      some (code.onSurfaceCreatedNative window).1.nativeWindow := by
  cases window <;> simp [NativeCode.onSurfaceCreatedNative, NativeCode.setSurface,
    NativeCode.notify, ho, hc, windowOrder]

theorem onSurfaceChanged_windowOrder (window : Option Nat) (width height : Int)
    (h : code.onSurfaceChangedNative window width height = some (code', out)) :
    windowOrder code.nativeWindow out = some code'.nativeWindow := by
  simp only [NativeCode.onSurfaceChangedNative, NativeCode.setSurface, hd, hc] at h
  split at h
  · split at h <;> cases h
    · rw [windowOrder_append, windowOrder_notify_destroyed]; rfl
    · exact windowOrder_notify_destroyed _
  · split at h
    · cases h
    next w hw =>
      cases h
      rw [not_not.mp hw]
      split_ifs
      · exact windowOrder_notify_current _ (.inl rfl) (some w)
      · rfl

omit hc in
theorem onSurfaceDestroyed_windowOrder :
    windowOrder code.nativeWindow code.onSurfaceDestroyedNative.2 =
      some code.onSurfaceDestroyedNative.1.nativeWindow := by
  simp only [NativeCode.onSurfaceDestroyedNative, hd]
  exact windowOrder_notify_destroyed _

omit hc hd in
theorem onSurfaceRedrawNeeded_windowOrder :
    windowOrder code.nativeWindow code.onSurfaceRedrawNeededNative = some code.nativeWindow :=
  windowOrder_notify_current _ (.inr rfl) _

/-- Each handler, on an event `SurfaceHolder` may deliver, makes callbacks in the window order
from the current window, and ends with `nativeWindow` as the current window. -/
theorem handle_windowOrder {e : Event} (ho : code.expects e = true)
    (h : code.handle e = some (code', out)) :
    windowOrder code.nativeWindow out = some code'.nativeWindow := by
  cases e with
  | onSurfaceCreated window =>
    cases h
    exact onSurfaceCreated_windowOrder hc window (by simpa [NativeCode.expects] using ho)
  | onSurfaceChanged window width height => exact onSurfaceChanged_windowOrder hc hd window width height h
  | onSurfaceRedrawNeeded => cases h; exact onSurfaceRedrawNeeded_windowOrder
  | onSurfaceDestroyed => cases h; exact onSurfaceDestroyed_windowOrder hd

end Handlers

/-- The states a `NativeCode` whose game registered `cb` reaches, with the callbacks made so
far. The constructor leaves no window current and the last window size uninitialised; every
later event is one `SurfaceHolder` may deliver. -/
inductive Reachable (cb : Callbacks) : NativeCode → List Callback → Prop
  | init (width height : Int) : Reachable cb ⟨cb, none, width, height⟩ []
  | step {code code' : NativeCode} {trace out : List Callback} (e : Event) :
      Reachable cb code trace → code.expects e = true → code.handle e = some (code', out) →
      Reachable cb code' (trace ++ out)

theorem Reachable.callbacks {cb : Callbacks} {code : NativeCode} {trace : List Callback}
    (h : Reachable cb code trace) : code.callbacks = cb := by
  induction h with
  | init => rfl
  | step _ _ _ he ih => exact (NativeCode.handle_callbacks he).trans ih

/-- With `onNativeWindowCreated` and `onNativeWindowDestroyed` registered, the callbacks made
over any run keep the window order from no window, and the window current after the last
event is `nativeWindow`. -/
theorem window_callbacks_follow_nativeWindow {cb : Callbacks} {code : NativeCode}
    {trace : List Callback} (hc : cb.onNativeWindowCreated = true)
    (hd : cb.onNativeWindowDestroyed = true) (h : Reachable cb code trace) :
    windowOrder none trace = some code.nativeWindow := by
  induction h with
  | init => rfl
  | step e hr ho he ih =>
    have hcb := hr.callbacks
    rw [windowOrder_append, ih]
    exact handle_windowOrder (hcb ▸ hc) (hcb ▸ hd) ho he

theorem window_callbacks_scenario :
    ∃ code, Reachable ⟨true, true, true, true⟩ code [.onNativeWindowCreated 1,
        .onNativeWindowResized 1, .onNativeWindowDestroyed 1, .onNativeWindowCreated 2,
        .onNativeWindowRedrawNeeded 2, .onNativeWindowDestroyed 2] ∧
      windowOrder none [.onNativeWindowCreated 1, .onNativeWindowResized 1,
        .onNativeWindowDestroyed 1, .onNativeWindowCreated 2, .onNativeWindowRedrawNeeded 2,
        .onNativeWindowDestroyed 2] = some code.nativeWindow ∧ code.nativeWindow = none := by
  have h := Reachable.step .onSurfaceDestroyed
    (Reachable.step .onSurfaceRedrawNeeded
      (Reachable.step (.onSurfaceChanged (some 2) 640 480)
        (Reachable.step (.onSurfaceChanged (some 1) 640 480)
          (Reachable.step (.onSurfaceCreated (some 1))
            (@Reachable.init ⟨true, true, true, true⟩ 0 0) rfl rfl) rfl rfl) rfl rfl)
      rfl rfl) rfl rfl
  exact ⟨_, h, window_callbacks_follow_nativeWindow rfl rfl h, rfl⟩

end GameActivity
