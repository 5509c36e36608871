import Mathlib.Data.UInt
import GameSdk.Swappy.StdMap

/-!
# SwappyVk

`swappy::SwappyVk`: the per-swapchain implementations, the queue family of each queue, the
display-timing support of each physical device and the tracer list, with the entry points that
read and change them. `SwappyVkBase` and `SwappyCommon` are not among the sources: an
implementation is its device, kind, tracers and four settings, and a forwarded call answers
`Reply.delegated`. A null `shared_ptr` is `none`, and dereferencing one has no result.
-/

namespace Swappy

/-- `SwappyTracer`, compared field by field as `operator==` does; callbacks and user data are
their addresses. -/
structure SwappyTracer where
  preWait : Nat
  postWait : Nat
  preSwapBuffers : Nat
  postSwapBuffers : Nat
  startFrame : Nat
  userData : Nat
  swapIntervalChanged : Nat
  deriving DecidableEq, Repr

/-- The settings SwappyVk passes to every implementation. -/
structure Settings where
  autoSwapInterval : Bool
  autoPipelineMode : Bool
  maxAutoSwapDurationNs : Nat
  fenceTimeoutNs : Nat
  deriving DecidableEq, Repr

/-- One choice of the settings an implementation starts with, for statements at a concrete
input; the constructor that fixes them is not among the sources. -/
def Settings.example : Settings := ⟨true, true, 50000000, 50000000⟩

/-- A `SwappyVkGoogleDisplayTiming` or `SwappyVkFallback`, as SwappyVk sees it. -/
structure SwappyVkBase where
  device : Nat
  googleDisplayTiming : Bool
  tracers : List SwappyTracer
  settings : Settings
  deriving DecidableEq, Repr

structure QueueFamilyIndex where
  device : Nat
  queueFamilyIndex : Nat
  deriving DecidableEq, Repr

structure SwappyVk where
  doesPhysicalDeviceHaveGoogleDisplayTiming : StdMap Bool
  perSwapchainImplementation : StdMap (Option SwappyVkBase)
  perQueueFamilyIndex : StdMap QueueFamilyIndex
  tracerList : List SwappyTracer

inductive VkResult
  | incomplete
  | errorDeviceLost
  deriving DecidableEq, Repr

/-- What an entry point returns, or writes through its out-parameters. -/
inductive Reply
  | unit
  | bool (b : Bool)
  | vkResult (r : VkResult)
  | nanoseconds (t : Nat)
  | extensionCount (count : UInt32)
  | extensionsWritten (indices : List Nat)
  /-- The value the implementation returns. -/
  | delegated
  deriving DecidableEq, Repr

/-- A method SwappyVk forwards to the implementation it `find`s for a swapchain. -/
inductive ImplMethod
  | enableStats (enabled : Bool)
  | getStats
  | recordFrameStart (queue image : Nat)
  | clearStats
  | resetFramePacing
  | enableFramePacing (enable : Bool)
  | enableBlockingWait (enable : Bool)
  | getSwapInterval
  deriving DecidableEq, Repr

namespace SwappyVk

variable (defaults : Settings)

def init : SwappyVk := ⟨.empty, .empty, .empty, []⟩

def VK_GOOGLE_DISPLAY_TIMING_EXTENSION_NAME : String := "VK_GOOGLE_display_timing"

/-- The filling loop of `swappyVkDetermineDeviceExtensions`: the indices it writes the
extension name at, `j` being the next one. -/
def fillRequired (requiredCount : UInt32) : List String → Nat → List Nat
  | [], _ => []
  | e :: es, j =>
    if e = VK_GOOGLE_DISPLAY_TIMING_EXTENSION_NAME then
      if j < requiredCount.toNat then j :: fillRequired requiredCount es (j + 1)
      else fillRequired requiredCount es j
    else fillRequired requiredCount es j

/-- `SwappyVk::swappyVkDetermineDeviceExtensions`; `requiredExtensions` says whether
`pRequiredExtensions` is non-null. -/
def swappyVkDetermineDeviceExtensions (st : SwappyVk) (physicalDevice : Nat)
    (available : List String) (requiredExtensionCount : UInt32) (requiredExtensions : Bool) :
    SwappyVk × Reply :=
  if !requiredExtensions then
    (st, .extensionCount (available.foldl (fun c e =>
      if e = VK_GOOGLE_DISPLAY_TIMING_EXTENSION_NAME then c + 1 else c) requiredExtensionCount))
  else
    let written := fillRequired requiredExtensionCount available 0
    let cache := st.doesPhysicalDeviceHaveGoogleDisplayTiming.assign physicalDevice false
    let cache := if written = [] then cache else cache.assign physicalDevice true
    ({ st with doesPhysicalDeviceHaveGoogleDisplayTiming := cache }, .extensionsWritten written)

/-- `SwappyVk::SetQueueFamilyIndex`. -/
def setQueueFamilyIndex (st : SwappyVk) (device queue queueFamilyIndex : Nat) : SwappyVk :=
  { st with perQueueFamilyIndex := st.perQueueFamilyIndex.assign queue ⟨device, queueFamilyIndex⟩ }

/-- `auto& pImplementation = perSwapchainImplementation[swapchain]`: the implementation, after
a null one is inserted for an unknown swapchain. -/
def subscriptImplementation (st : SwappyVk) (swapchain : Nat) :
    Option SwappyVkBase × SwappyVk :=
  let r := st.perSwapchainImplementation.subscript swapchain none
  (r.1, { st with perSwapchainImplementation := r.2 })

/-- `SwappyVk::GetRefreshCycleDuration`: create the swapchain's implementation if it has none,
register every tracer of `tracer_list` with it, and forward the call. `initFunctions` is
what `InitFunctions()` returns. -/
def getRefreshCycleDuration (st : SwappyVk) (physicalDevice device swapchain : Nat)
    (initFunctions : Bool) : SwappyVk × Reply :=
  let (pImplementation, st) := st.subscriptImplementation swapchain
  let created : Option (SwappyVkBase × SwappyVk) :=
    match pImplementation with
    | some impl => some (impl, st)
    | none =>
      if initFunctions then
        let r := st.doesPhysicalDeviceHaveGoogleDisplayTiming.subscript physicalDevice false
        some (⟨device, r.1, [], defaults⟩, { st with doesPhysicalDeviceHaveGoogleDisplayTiming := r.2 })
      else none
  match created with
  | none => (st, .bool false)
  | some (impl, st) =>
    let impl := { impl with tracers := impl.tracers ++ st.tracerList }
    ({ st with perSwapchainImplementation :=
        st.perSwapchainImplementation.assign swapchain (some impl) }, .delegated)

/-- `SetWindow` and `SetSwapDuration`: forward to the swapchain's implementation, if any. -/
def forwardVoid (st : SwappyVk) (swapchain : Nat) : SwappyVk × Reply :=
  let (pImplementation, st) := st.subscriptImplementation swapchain
  (st, if pImplementation.isSome then .delegated else .unit)

/-- `SwappyVk::SetWindow`. -/
def setWindow (st : SwappyVk) (_device swapchain : Nat) (_window : Option Nat) : SwappyVk × Reply :=
  forwardVoid st swapchain

/-- `SwappyVk::SetSwapDuration`. -/
def setSwapDuration (st : SwappyVk) (_device swapchain _swapNs : Nat) : SwappyVk × Reply :=
  forwardVoid st swapchain

/-- `SwappyVk::QueuePresent`; `swapchains` is empty when `swapchainCount` is `0` or
`pSwapchains` is null. -/
def queuePresent (st : SwappyVk) (queue : Nat) (swapchains : List Nat) : SwappyVk × Reply :=
  if st.perQueueFamilyIndex.find queue = none then (st, .vkResult .incomplete)
  else match swapchains with
    | [] => (st, .vkResult .errorDeviceLost)
    | swapchain :: _ =>
      let (pImplementation, st) := st.subscriptImplementation swapchain
      (st, if pImplementation.isSome then .delegated else .vkResult .errorDeviceLost)

/-- `SwappyVk::DestroySwapchain`. -/
def destroySwapchain (st : SwappyVk) (_device swapchain : Nat) : SwappyVk :=
  if st.perSwapchainImplementation.find swapchain = none then st
  else { st with perSwapchainImplementation := st.perSwapchainImplementation.erase swapchain }

/-- The first loop of `DestroyDevice`: erase each implementation of `device`, reading
`getDevice()` of every implementation it passes. -/
def eraseSwapchainsOf (device : Nat) :
    List (Nat × Option SwappyVkBase) → Option (List (Nat × Option SwappyVkBase))
  | [] => some []
  | (_, none) :: _ => none
  | (k, some impl) :: es =>
    if impl.device = device then eraseSwapchainsOf device es
    else (eraseSwapchainsOf device es).map ((k, some impl) :: ·)

/-- The second loop of `DestroyDevice`: erase each queue of `device`. -/
def eraseQueuesOf (device : Nat) : List (Nat × QueueFamilyIndex) → List (Nat × QueueFamilyIndex)
  | [] => []
  | e :: es => if e.2.device = device then eraseQueuesOf device es else e :: eraseQueuesOf device es

theorem eraseSwapchainsOf_sublist {device : Nat} :
    ∀ {es es' : List (Nat × Option SwappyVkBase)}, eraseSwapchainsOf device es = some es' →
      es'.Sublist es
  | [], _, h => by cases h; exact List.Sublist.slnil
  | (_, none) :: _, _, h => by cases h
  | (k, some impl) :: es, es', h => by
    unfold eraseSwapchainsOf at h
    split at h
    · exact (eraseSwapchainsOf_sublist h).cons _
    · obtain ⟨es'', h', rfl⟩ := Option.map_eq_some'.mp h
      exact (eraseSwapchainsOf_sublist h').cons₂ _

/-- With no null implementation, the first loop of `DestroyDevice` keeps exactly the
implementations of the other devices, in order. -/
theorem eraseSwapchainsOf_eq_filter (device : Nat) :
    ∀ {es : List (Nat × Option SwappyVkBase)}, (∀ e ∈ es, e.2.isSome) →
      eraseSwapchainsOf device es = some (es.filter fun e => e.2.any (·.device != device))
  | [], _ => rfl
  | (k, v) :: es, h => by
    obtain ⟨impl, rfl⟩ := Option.isSome_iff_exists.mp (h _ (List.mem_cons_self _ _))
    have ih := eraseSwapchainsOf_eq_filter device fun e he => h e (List.mem_cons_of_mem _ he)
    by_cases hd : impl.device = device <;> simp [eraseSwapchainsOf, List.filter_cons, hd, ih]

/-- The second loop of `DestroyDevice` keeps exactly the queues of the other devices. -/
theorem eraseQueuesOf_eq_filter (device : Nat) (es : List (Nat × QueueFamilyIndex)) :
    eraseQueuesOf device es = es.filter (·.2.device != device) := by
  induction es with
  | nil => rfl
  | cons e es ih =>
    by_cases hd : e.2.device = device <;> simp [eraseQueuesOf, List.filter_cons, hd, ih]

theorem eraseQueuesOf_sublist (device : Nat) (es : List (Nat × QueueFamilyIndex)) :
    (eraseQueuesOf device es).Sublist es :=
  eraseQueuesOf_eq_filter device es ▸ List.filter_sublist es

/-- `SwappyVk::DestroyDevice`. -/
def destroyDevice (st : SwappyVk) (device : Nat) : Option SwappyVk :=
  match h : eraseSwapchainsOf device st.perSwapchainImplementation.entries with
  | none => none
  | some es => some { st with
      perSwapchainImplementation := ⟨es, st.perSwapchainImplementation.sorted.sublist
        (eraseSwapchainsOf_sublist h)⟩
      perQueueFamilyIndex := ⟨eraseQueuesOf device st.perQueueFamilyIndex.entries,
        st.perQueueFamilyIndex.sorted.sublist (eraseQueuesOf_sublist _ _)⟩ }

/-- `for (auto i : perSwapchainImplementation) i.second->...`: apply `f` to every
implementation; a null one is dereferenced. -/
def broadcast (f : SwappyVkBase → SwappyVkBase) (st : SwappyVk) : Option SwappyVk :=
  if st.perSwapchainImplementation.entries.all (·.2.isSome) then
    some { st with perSwapchainImplementation := st.perSwapchainImplementation.mapValues (·.map f) }
  else none

/-- `SwappyVk::SetAutoSwapInterval`. -/
def setAutoSwapInterval (st : SwappyVk) (enabled : Bool) : Option SwappyVk :=
  broadcast (fun i => { i with settings := { i.settings with autoSwapInterval := enabled } }) st

/-- `SwappyVk::SetAutoPipelineMode`. -/
def setAutoPipelineMode (st : SwappyVk) (enabled : Bool) : Option SwappyVk :=
  broadcast (fun i => { i with settings := { i.settings with autoPipelineMode := enabled } }) st

/-- `SwappyVk::SetMaxAutoSwapDuration`. -/
def setMaxAutoSwapDuration (st : SwappyVk) (maxDurationNs : Nat) : Option SwappyVk :=
  broadcast (fun i => { i with settings := { i.settings with maxAutoSwapDurationNs := maxDurationNs } })
    st

/-- `SwappyVk::SetFenceTimeout`. -/
def setFenceTimeout (st : SwappyVk) (t : Nat) : Option SwappyVk :=
  broadcast (fun i => { i with settings := { i.settings with fenceTimeoutNs := t } }) st

/-- `SwappyVk::GetFenceTimeout`: the first implementation's, or `0` without one. -/
def getFenceTimeout (st : SwappyVk) : Option Reply :=
  match st.perSwapchainImplementation.entries.head? with
  | none => some (.nanoseconds 0)
  | some (_, none) => none
  | some (_, some impl) => some (.nanoseconds impl.settings.fenceTimeoutNs)

/-- `SwappyVk::addTracer`; `t` is `none` for a null pointer. -/
def addTracer (st : SwappyVk) : Option SwappyTracer → Option SwappyVk
  | none => some st
  | some t => broadcast (fun i => { i with tracers := i.tracers ++ [t] })
      { st with tracerList := st.tracerList ++ [t] }

/-- `SwappyVk::removeTracer`: `std::list::remove` drops every equal tracer. -/
def removeTracer (st : SwappyVk) : Option SwappyTracer → Option SwappyVk
  | none => some st
  | some t => broadcast (fun i => { i with tracers := i.tracers.filter (· != t) })
      { st with tracerList := st.tracerList.filter (· != t) }

/-- `SwappyVk::GetSupportedRefreshPeriodsNS` dereferences `perSwapchainImplementation[swapchain]`
without a check. -/
def getSupportedRefreshPeriodsNS (st : SwappyVk) (swapchain : Nat) : Option (SwappyVk × Reply) :=
  let (pImplementation, st) := st.subscriptImplementation swapchain
  if pImplementation.isSome then some (st, .delegated) else none

/-- `SwappyVk::IsEnabled`; `isEnabled` says whether the out-pointer is non-null. -/
def isEnabled (st : SwappyVk) (swapchain : Nat) (isEnabled : Bool) : SwappyVk × Reply :=
  let (pImplementation, st) := st.subscriptImplementation swapchain
  (st, .bool (pImplementation.isSome && isEnabled))

/-- The entry points that `find` the swapchain's implementation and forward to it: nothing
happens for an unknown swapchain, and a null implementation is dereferenced. -/
def findAndForward (st : SwappyVk) (swapchain : Nat) (absent : Reply) : Option Reply :=
  match st.perSwapchainImplementation.find swapchain with
  | none => some absent
  | some none => none
  | some (some _) => some .delegated

/-- `SwappyVk::GetSwapInterval`, and `enableStats`, `getStats`, `recordFrameStart`,
`clearStats`, `resetFramePacing`, `enableFramePacing`, `enableBlockingWait`. -/
def forward (st : SwappyVk) (swapchain : Nat) : ImplMethod → Option Reply
  | .getSwapInterval => findAndForward st swapchain (.nanoseconds 0)
  | _ => findAndForward st swapchain .unit

/-- A call of a SwappyVk entry point, with what the platform answers it. -/
inductive Call
  | determineDeviceExtensions (physicalDevice : Nat) (available : List String)
      (requiredExtensionCount : UInt32) (requiredExtensions : Bool)
  | setQueueFamilyIndex (device queue queueFamilyIndex : Nat)
  | getRefreshCycleDuration (physicalDevice device swapchain : Nat) (initFunctions : Bool)
  | setWindow (device swapchain : Nat) (window : Option Nat)
  | setSwapDuration (device swapchain swapNs : Nat)
  | queuePresent (queue : Nat) (swapchains : List Nat)
  | destroySwapchain (device swapchain : Nat)
  | destroyDevice (device : Nat)
  | setAutoSwapInterval (enabled : Bool)
  | setAutoPipelineMode (enabled : Bool)
  | setMaxAutoSwapDuration (maxDurationNs : Nat)
  | setFenceTimeout (t : Nat)
  | getFenceTimeout
  | addTracer (t : Option SwappyTracer)
  | removeTracer (t : Option SwappyTracer)
  | getSupportedRefreshPeriodsNS (swapchain : Nat)
  | isEnabled (swapchain : Nat) (isEnabled : Bool)
  | forward (swapchain : Nat) (method : ImplMethod)
  deriving Repr

/-- One call: the new state and the reply, or `none` when it dereferences a null
implementation. -/
def step (st : SwappyVk) : Call → Option (SwappyVk × Reply)
  | .determineDeviceExtensions pd available count required =>
    some (st.swappyVkDetermineDeviceExtensions pd available count required)
  | .setQueueFamilyIndex device queue index => some (st.setQueueFamilyIndex device queue index, .unit)
  | .getRefreshCycleDuration pd device swapchain ok =>
    some (st.getRefreshCycleDuration defaults pd device swapchain ok)
  | .setWindow device swapchain window => some (st.setWindow device swapchain window)
  | .setSwapDuration device swapchain swapNs => some (st.setSwapDuration device swapchain swapNs)
  | .queuePresent queue swapchains => some (st.queuePresent queue swapchains)
  | .destroySwapchain device swapchain => some (st.destroySwapchain device swapchain, .unit)
  | .destroyDevice device => (st.destroyDevice device).map (·, .unit)
  | .setAutoSwapInterval enabled => (st.setAutoSwapInterval enabled).map (·, .unit)
  | .setAutoPipelineMode enabled => (st.setAutoPipelineMode enabled).map (·, .unit)
  | .setMaxAutoSwapDuration ns => (st.setMaxAutoSwapDuration ns).map (·, .unit)
  | .setFenceTimeout t => (st.setFenceTimeout t).map (·, .unit)
  | .getFenceTimeout => st.getFenceTimeout.map (st, ·)
  | .addTracer t => (st.addTracer t).map (·, .unit)
  | .removeTracer t => (st.removeTracer t).map (·, .unit)
  | .getSupportedRefreshPeriodsNS swapchain => st.getSupportedRefreshPeriodsNS swapchain
  | .isEnabled swapchain ok => some (st.isEnabled swapchain ok)
  | .forward swapchain method => (st.forward swapchain method).map (st, ·)

/-- The state after a sequence of calls, or `none` once one crashes. -/
def run (st : SwappyVk) : List Call → Option SwappyVk
  | [] => some st
  | c :: cs => match step defaults st c with
    | none => none
    | some (st', _) => run st' cs

section Frame

variable {defaults}
variable {st : SwappyVk} {s : Nat} {v : Option SwappyVkBase}

theorem subscriptImplementation_find (k : Nat) (h : st.perSwapchainImplementation.find s = some v) :
    (st.subscriptImplementation k).2.perSwapchainImplementation.find s = some v :=
  StdMap.find_subscript_of_find none h

/-- `GetRefreshCycleDuration` for another swapchain changes no lookup of `s`. -/
theorem getRefreshCycleDuration_find_ne (pd dev k : Nat) (ok : Bool) (hk : s ≠ k) :
    (st.getRefreshCycleDuration defaults pd dev k ok).1.perSwapchainImplementation.find s =
      st.perSwapchainImplementation.find s := by
  have h := StdMap.find_subscript_ne st.perSwapchainImplementation none hk
  rcases hp : (st.perSwapchainImplementation.subscript k none).1 with _ | impl <;> cases ok <;>
    simp [getRefreshCycleDuration, subscriptImplementation, hp, StdMap.find_assign, hk, h]

theorem getRefreshCycleDuration_find {impl : SwappyVkBase} (pd dev k : Nat) (ok : Bool)
    (h : st.perSwapchainImplementation.find s = some (some impl)) :
    (st.getRefreshCycleDuration defaults pd dev k ok).1.perSwapchainImplementation.find s =
      some (some (if k = s then { impl with tracers := impl.tracers ++ st.tracerList } else impl)) := by
  by_cases hk : k = s
  · subst hk
    simp [getRefreshCycleDuration, subscriptImplementation, StdMap.subscript_of_find none h,
      StdMap.find_assign]
  · rw [getRefreshCycleDuration_find_ne pd dev k ok (Ne.symm hk), h, if_neg hk]

/-- `GetRefreshCycleDuration` for a swapchain without an implementation, when
`InitFunctions()` succeeds, creates one for the device with the defaults. -/
theorem getRefreshCycleDuration_creates (pd dev : Nat)
    (h : st.perSwapchainImplementation.find s = none ∨
      st.perSwapchainImplementation.find s = some none) :
    ∃ impl, (st.getRefreshCycleDuration defaults pd dev s true).1.perSwapchainImplementation.find s =
      some (some impl) ∧ impl.settings = defaults ∧ impl.device = dev := by
  have h0 : (st.perSwapchainImplementation.subscript s none).1 = none := by
    rw [StdMap.subscript_fst]; rcases h with h | h <;> simp [h]
  simp only [getRefreshCycleDuration, subscriptImplementation, h0, if_true, StdMap.find_assign]
  exact ⟨_, rfl, rfl, rfl⟩

theorem eraseSwapchainsOf_lookup {device : Nat} {impl : SwappyVkBase} (hd : impl.device ≠ device) :
    ∀ {es es' : List (Nat × Option SwappyVkBase)}, eraseSwapchainsOf device es = some es' →
      es.lookup s = some (some impl) → es'.lookup s = some (some impl)
  | [], _, _, h => by simp at h
  | (_, none) :: _, _, h, _ => by cases h
  | (k, some i) :: es, es', h, hl => by
    unfold eraseSwapchainsOf at h
    rw [StdMap.lookup_cons] at hl
    split at h
    next hi =>
      split at hl
      · cases hl; exact absurd hi hd
      · exact eraseSwapchainsOf_lookup hd h hl
    next hi =>
      obtain ⟨es'', h', rfl⟩ := Option.map_eq_some'.mp h
      rw [StdMap.lookup_cons]
      split at hl
      next hk => rwa [if_pos hk]
      next hk => rw [if_neg hk]; exact eraseSwapchainsOf_lookup hd h' hl

theorem swappyVkDetermineDeviceExtensions_perSwapchainImplementation (pd : Nat)
    (available : List String) (count : UInt32) (required : Bool) :
    (st.swappyVkDetermineDeviceExtensions pd available count required).1.perSwapchainImplementation =
      st.perSwapchainImplementation := by
  unfold swappyVkDetermineDeviceExtensions
  split <;> rfl

/-- `DestroySwapchain` of another swapchain changes no lookup of `s`. -/
theorem destroySwapchain_find (dev k : Nat) (hk : s ≠ k) :
    (st.destroySwapchain dev k).perSwapchainImplementation.find s =
      st.perSwapchainImplementation.find s := by
  unfold destroySwapchain
  split
  · rfl
  · exact (StdMap.find_erase _ s k).trans (if_neg hk)

/-- `DestroyDevice`, when it does not crash, keeps every implementation of another device. -/
theorem destroyDevice_find {st' : SwappyVk} {device : Nat} {impl : SwappyVkBase}
    (hd : impl.device ≠ device) (h : st.destroyDevice device = some st')
    (hs : st.perSwapchainImplementation.find s = some (some impl)) :
    st'.perSwapchainImplementation.find s = some (some impl) := by
  unfold destroyDevice at h
  split at h
  · cases h
  next es he =>
    cases h
    exact eraseSwapchainsOf_lookup hd he hs

/-- A broadcast that does not crash applies `f` to every implementation. -/
theorem broadcast_find {st' : SwappyVk} {f : SwappyVkBase → SwappyVkBase}
    (h : broadcast f st = some st') (hs : st.perSwapchainImplementation.find s = some v) :
    st'.perSwapchainImplementation.find s = some (v.map f) := by
  unfold broadcast at h
  split at h
  · cases h
    rw [StdMap.find_mapValues, hs]
    rfl
  · cases h

/-- `GetFenceTimeout` answers from the implementation with the least handle. -/
theorem getFenceTimeout_of_head {impl : SwappyVkBase}
    (hh : st.perSwapchainImplementation.entries.head?.map Prod.fst = some s)
    (hs : st.perSwapchainImplementation.find s = some (some impl)) :
    st.getFenceTimeout = some (.nanoseconds impl.settings.fenceTimeoutNs) := by
  unfold getFenceTimeout
  unfold StdMap.find at hs
  rcases hes : st.perSwapchainImplementation.entries with _ | ⟨⟨k, w⟩, es⟩
  · simp [hes] at hh
  · simp only [hes, List.head?_cons, Option.map_some', Option.some.injEq] at hh ⊢
    subst hh
    simp only [hes, StdMap.lookup_cons, if_true, Option.some.injEq] at hs
    subst hs
    rfl

end Frame

section Entries

variable {defaults}
variable {st : SwappyVk} {k : Nat}

/-- `operator[]` on a swapchain that has an entry changes nothing. -/
theorem subscriptImplementation_of_find {v : Option SwappyVkBase}
    (h : st.perSwapchainImplementation.find k = some v) : st.subscriptImplementation k = (v, st) := by
  simp only [subscriptImplementation, StdMap.subscript_of_find none h]

variable (defaults) in
/-- `GetRefreshCycleDuration` of a swapchain with an implementation, or with `InitFunctions()`
succeeding, leaves the map with an implementation written at that swapchain. -/
theorem getRefreshCycleDuration_entries (pd dev : Nat) {ok : Bool}
    (h : (∃ impl, st.perSwapchainImplementation.find k = some (some impl)) ∨ ok = true) :
    ∃ impl, (st.getRefreshCycleDuration defaults pd dev k ok).1.perSwapchainImplementation.entries =
      (st.perSwapchainImplementation.assign k (some impl)).entries := by
  rcases hp : (st.perSwapchainImplementation.subscript k none).1 with _ | impl
  · have hok : ok = true := h.resolve_left fun ⟨impl, hi⟩ => by
      rw [StdMap.subscript_of_find none hi] at hp; cases hp
    subst hok
    simp only [getRefreshCycleDuration, subscriptImplementation, hp, if_true]
    exact ⟨_, StdMap.assign_subscript_entries _ _ _ _⟩
  · simp only [getRefreshCycleDuration, subscriptImplementation, hp]
    exact ⟨_, StdMap.assign_subscript_entries _ _ _ _⟩

theorem eraseSwapchainsOf_of_isSome (device : Nat) :
    ∀ {es : List (Nat × Option SwappyVkBase)}, (∀ e ∈ es, e.2.isSome) →
      ∃ es', eraseSwapchainsOf device es = some es'
  | [], _ => ⟨[], rfl⟩
  | (k, v) :: es, h => by
    obtain ⟨es', hes'⟩ := eraseSwapchainsOf_of_isSome device fun e he => h e (List.mem_cons_of_mem _ he)
    obtain ⟨impl, rfl⟩ := Option.isSome_iff_exists.mp (h _ (List.mem_cons_self _ _))
    unfold eraseSwapchainsOf
    split
    · exact ⟨es', hes'⟩
    · exact ⟨_, by rw [hes']; rfl⟩

/-- `DestroyDevice` does not crash when no implementation is null, and keeps some of them. -/
theorem destroyDevice_of_isSome (device : Nat)
    (h : ∀ e ∈ st.perSwapchainImplementation.entries, e.2.isSome) :
    ∃ st', st.destroyDevice device = some st' ∧
      st'.perSwapchainImplementation.entries.Sublist st.perSwapchainImplementation.entries := by
  obtain ⟨es', hes'⟩ := eraseSwapchainsOf_of_isSome device h
  unfold destroyDevice
  split
  next he => rw [he] at hes'; cases hes'
  next es he => exact ⟨_, rfl, eraseSwapchainsOf_sublist he⟩

/-- A broadcast does not crash when no implementation is null. -/
theorem broadcast_of_isSome (f : SwappyVkBase → SwappyVkBase)
    (h : ∀ e ∈ st.perSwapchainImplementation.entries, e.2.isSome) :
    broadcast f st =
      some { st with perSwapchainImplementation := st.perSwapchainImplementation.mapValues (·.map f) } :=
  if_pos (List.all_eq_true.mpr h)

/-- `operator[]` adds at most a null implementation. -/
theorem subscriptImplementation_mem {e : Nat × Option SwappyVkBase}
    (he : e ∈ (st.subscriptImplementation k).2.perSwapchainImplementation.entries) :
    e ∈ st.perSwapchainImplementation.entries ∨ e.2 = none := by
  rcases StdMap.mem_subscript he with rfl | he
  · exact Or.inr rfl
  · exact Or.inl he

/-- `QueuePresent` leaves the state as it was, or as `operator[]` on its first swapchain
leaves it. -/
theorem queuePresent_fst (queue : Nat) (swapchains : List Nat) :
    (st.queuePresent queue swapchains).1 = st ∨
      ∃ k, (st.queuePresent queue swapchains).1 = (st.subscriptImplementation k).2 := by
  unfold queuePresent
  split
  · exact Or.inl rfl
  · split
    · exact Or.inl rfl
    · exact Or.inr ⟨_, rfl⟩

theorem destroySwapchain_tracerList (dev : Nat) (k : Nat) :
    (st.destroySwapchain dev k).tracerList = st.tracerList := by
  unfold destroySwapchain
  split <;> rfl

theorem getRefreshCycleDuration_tracerList (pd dev : Nat) (ok : Bool) :
    (st.getRefreshCycleDuration defaults pd dev k ok).1.tracerList = st.tracerList := by
  rcases hp : (st.perSwapchainImplementation.subscript k none).1 with _ | impl <;> cases ok <;>
    simp [getRefreshCycleDuration, subscriptImplementation, hp]

/-- `GetRefreshCycleDuration` of a swapchain without an implementation adds at most a null
entry for it, or an implementation that has registered every tracer of `tracer_list`. -/
theorem getRefreshCycleDuration_fresh_mem (pd dev : Nat) (ok : Bool)
    (h : (st.perSwapchainImplementation.subscript k none).1 = none) {e : Nat × Option SwappyVkBase}
    (he : e ∈ (st.getRefreshCycleDuration defaults pd dev k ok).1.perSwapchainImplementation.entries) :
    e ∈ st.perSwapchainImplementation.entries ∨ e.2 = none ∨
      ∃ impl, e.2 = some impl ∧ impl.tracers = st.tracerList := by
  cases ok with
  | false =>
    simp only [getRefreshCycleDuration, subscriptImplementation, h] at he
    exact (subscriptImplementation_mem he).imp_right Or.inl
  | true =>
    simp only [getRefreshCycleDuration, subscriptImplementation, h, if_true] at he
    rw [StdMap.assign_subscript_entries] at he
    rcases StdMap.mem_assign he with rfl | he
    · exact Or.inr (Or.inr ⟨_, rfl, List.nil_append _⟩)
    · exact Or.inl he

theorem destroySwapchain_mem (dev : Nat) {e : Nat × Option SwappyVkBase}
    (he : e ∈ (st.destroySwapchain dev k).perSwapchainImplementation.entries) :
    e ∈ st.perSwapchainImplementation.entries := by
  unfold destroySwapchain at he
  split at he
  · exact he
  · exact StdMap.mem_erase he

theorem destroyDevice_mem {st' : SwappyVk} {device : Nat} (h : st.destroyDevice device = some st')
    {e : Nat × Option SwappyVkBase} (he : e ∈ st'.perSwapchainImplementation.entries) :
    e ∈ st.perSwapchainImplementation.entries := by
  unfold destroyDevice at h
  split at h
  · cases h
  next es hes =>
    cases h
    exact (eraseSwapchainsOf_sublist hes).subset he

theorem destroyDevice_tracerList {st' : SwappyVk} {device : Nat}
    (h : st.destroyDevice device = some st') : st'.tracerList = st.tracerList := by
  unfold destroyDevice at h
  split at h
  · cases h
  · cases h; rfl

/-- A broadcast that does not crash applies `f` to the implementations and nothing else. -/
theorem broadcast_mem {st' : SwappyVk} {f : SwappyVkBase → SwappyVkBase} (h : broadcast f st = some st')
    {e : Nat × Option SwappyVkBase} (he : e ∈ st'.perSwapchainImplementation.entries) :
    ∃ v, (e.1, v) ∈ st.perSwapchainImplementation.entries ∧ e.2 = v.map f := by
  unfold broadcast at h
  split at h
  · cases h
    exact StdMap.mem_mapValues he
  · cases h

theorem broadcast_tracerList {st' : SwappyVk} {f : SwappyVkBase → SwappyVkBase}
    (h : broadcast f st = some st') : st'.tracerList = st.tracerList := by
  unfold broadcast at h
  split at h
  · cases h; rfl
  · cases h

theorem swappyVkDetermineDeviceExtensions_tracerList (pd : Nat) (available : List String)
    (count : UInt32) (required : Bool) :
    (st.swappyVkDetermineDeviceExtensions pd available count required).1.tracerList = st.tracerList := by
  unfold swappyVkDetermineDeviceExtensions
  split <;> rfl

/-- `DestroyDevice` on a state with no null implementation restricts both maps to the other
devices. -/
theorem destroyDevice_eq_restrict (device : Nat)
    (h : ∀ e ∈ st.perSwapchainImplementation.entries, e.2.isSome) :
    st.destroyDevice device = some { st with
      perSwapchainImplementation :=
        st.perSwapchainImplementation.restrict fun e => e.2.any (·.device != device)
      perQueueFamilyIndex := st.perQueueFamilyIndex.restrict (·.2.device != device) } := by
  have he := eraseSwapchainsOf_eq_filter device h
  unfold destroyDevice
  split
  next h' => rw [he] at h'; cases h'
  next es h' =>
    rw [he] at h'; cases h'
    simp only [StdMap.restrict, eraseQueuesOf_eq_filter]

theorem destroySwapchain_eq_erase (device s : Nat) :
    st.destroySwapchain device s =
      { st with perSwapchainImplementation := st.perSwapchainImplementation.erase s } := by
  unfold destroySwapchain
  split_ifs with h
  · rw [StdMap.erase_of_find_none h]
  · rfl

theorem getSupportedRefreshPeriodsNS_state {st' : SwappyVk} {r : Reply}
    (hr : st.getSupportedRefreshPeriodsNS k = some (st', r)) : st' = (st.subscriptImplementation k).2 := by
  simp only [getSupportedRefreshPeriodsNS, subscriptImplementation] at hr
  split at hr
  · cases hr; rfl
  · cases hr

end Entries

section Extensions

open scoped UInt32.CommRing

variable (st : SwappyVk) (pd : Nat) (available : List String)

/-- The filling loop from index `j` writes the next `min (c - j) m` indices, `m` being the
number of entries that name the extension. -/
theorem fillRequired_eq_range' (c : UInt32) (j : Nat) :
    fillRequired c available j = List.range' j
      (min (c.toNat - j) (available.count VK_GOOGLE_DISPLAY_TIMING_EXTENSION_NAME)) := by
  induction available generalizing j with
  | nil => simp [fillRequired]
  | cons e es ih =>
    by_cases he : e = VK_GOOGLE_DISPLAY_TIMING_EXTENSION_NAME
    · subst he
      rw [fillRequired, if_pos rfl, List.count_cons, beq_self_eq_true, if_pos rfl]
      split_ifs with hj
      · have hmin : min (c.toNat - j) (es.count VK_GOOGLE_DISPLAY_TIMING_EXTENSION_NAME + 1) =
            min (c.toNat - (j + 1)) (es.count VK_GOOGLE_DISPLAY_TIMING_EXTENSION_NAME) + 1 := by
          omega
        rw [ih, hmin, List.range'_succ]
      · have hc : c.toNat - j = 0 := by omega
        rw [ih, hc, Nat.zero_min, Nat.zero_min]
    · rw [fillRequired, if_neg he, ih, List.count_cons, beq_false_of_ne he, if_neg Bool.false_ne_true,
        Nat.add_zero]

/-- The counting loop adds the number of entries that name the extension, in `uint32_t`. -/
theorem foldl_countRequired (c : UInt32) :
    available.foldl (fun c e => if e = VK_GOOGLE_DISPLAY_TIMING_EXTENSION_NAME then c + 1 else c) c =
      c + (available.count VK_GOOGLE_DISPLAY_TIMING_EXTENSION_NAME : UInt32) := by
  induction available generalizing c with
  | nil => simp
  | cons e es ih =>
    by_cases he : e = VK_GOOGLE_DISPLAY_TIMING_EXTENSION_NAME
    · simp only [List.foldl_cons, he, if_true, ih, List.count_cons, beq_self_eq_true, Nat.cast_succ]
      rw [add_assoc, add_comm 1]
    · simp [he, ih, List.count_cons]

theorem swappyVkDetermineDeviceExtensions_count (c : UInt32) :
    st.swappyVkDetermineDeviceExtensions pd available c false =
      (st, .extensionCount (c + (available.count VK_GOOGLE_DISPLAY_TIMING_EXTENSION_NAME : UInt32))) := by
  simp [swappyVkDetermineDeviceExtensions, foldl_countRequired]

theorem swappyVkDetermineDeviceExtensions_fill (c : UInt32) :
    (st.swappyVkDetermineDeviceExtensions pd available c true).2 = .extensionsWritten
        (List.range (min c.toNat (available.count VK_GOOGLE_DISPLAY_TIMING_EXTENSION_NAME))) ∧
      (st.swappyVkDetermineDeviceExtensions pd available c true).1.doesPhysicalDeviceHaveGoogleDisplayTiming.find pd =
        some (decide (0 < min c.toNat (available.count VK_GOOGLE_DISPLAY_TIMING_EXTENSION_NAME))) := by
  simp only [swappyVkDetermineDeviceExtensions, fillRequired_eq_range', Nat.sub_zero,
    List.range_eq_range', Bool.not_true, Bool.false_eq_true, if_false, true_and]
  split_ifs with h <;> rw [List.range'_eq_nil] at h
  · simp [StdMap.find_assign, h]
  · simp [StdMap.find_assign, Nat.pos_of_ne_zero h]

/-- The counting call adds the number `m` of entries that name the extension (in `uint32_t`);
the filling call with count `c` writes the name at exactly `0, …, min c m - 1` and records
display-timing support iff it wrote one. So counting from `0` and then filling with that count
writes `m` names and records support iff the extension is available, for every list that
`availableExtensionCount`, a `uint32_t`, can describe. -/
theorem determineDeviceExtensions_two_calls (c : UInt32) :
    st.swappyVkDetermineDeviceExtensions pd available c false =
      (st, .extensionCount (c + (available.count VK_GOOGLE_DISPLAY_TIMING_EXTENSION_NAME : UInt32))) ∧
    (st.swappyVkDetermineDeviceExtensions pd available c true).2 = .extensionsWritten
        (List.range (min c.toNat (available.count VK_GOOGLE_DISPLAY_TIMING_EXTENSION_NAME))) ∧
    (st.swappyVkDetermineDeviceExtensions pd available c true).1.doesPhysicalDeviceHaveGoogleDisplayTiming.find pd =
        some (decide (0 < min c.toNat (available.count VK_GOOGLE_DISPLAY_TIMING_EXTENSION_NAME))) ∧
    (available.length < 2 ^ 32 → ∀ st₁ c₁,
      st.swappyVkDetermineDeviceExtensions pd available 0 false = (st₁, .extensionCount c₁) →
      (st₁.swappyVkDetermineDeviceExtensions pd available c₁ true).2 = .extensionsWritten
          (List.range (available.count VK_GOOGLE_DISPLAY_TIMING_EXTENSION_NAME)) ∧
        (st₁.swappyVkDetermineDeviceExtensions pd available c₁ true).1.doesPhysicalDeviceHaveGoogleDisplayTiming.find pd =
          some (decide (VK_GOOGLE_DISPLAY_TIMING_EXTENSION_NAME ∈ available))) := by
  obtain ⟨hw, hf⟩ := swappyVkDetermineDeviceExtensions_fill st pd available c
  refine ⟨swappyVkDetermineDeviceExtensions_count st pd available c, hw, hf, fun hlen st₁ c₁ h => ?_⟩
  rw [swappyVkDetermineDeviceExtensions_count, Prod.mk.injEq, Reply.extensionCount.injEq] at h
  obtain ⟨rfl, rfl⟩ := h
  have hm : ((0 : UInt32) + (available.count VK_GOOGLE_DISPLAY_TIMING_EXTENSION_NAME : UInt32)).toNat =
      available.count VK_GOOGLE_DISPLAY_TIMING_EXTENSION_NAME := by
    rw [zero_add]
    exact Nat.mod_eq_of_lt (lt_of_le_of_lt (List.count_le_length _ _) hlen)
  obtain ⟨hw, hf⟩ := swappyVkDetermineDeviceExtensions_fill st pd available
    (0 + (available.count VK_GOOGLE_DISPLAY_TIMING_EXTENSION_NAME : UInt32))
  rw [hm, min_self] at hw hf
  exact ⟨hw, hf.trans (by rw [decide_eq_decide.mpr List.count_pos_iff])⟩

theorem determineDeviceExtensions_two_calls_scenario :
    ["VK_KHR_swapchain", VK_GOOGLE_DISPLAY_TIMING_EXTENSION_NAME].length < 2 ^ 32 ∧
      (init.swappyVkDetermineDeviceExtensions 1
          ["VK_KHR_swapchain", VK_GOOGLE_DISPLAY_TIMING_EXTENSION_NAME] 1 true).2 =
        .extensionsWritten (List.range
          (["VK_KHR_swapchain", VK_GOOGLE_DISPLAY_TIMING_EXTENSION_NAME].count
            VK_GOOGLE_DISPLAY_TIMING_EXTENSION_NAME)) ∧
      (init.swappyVkDetermineDeviceExtensions 1
          ["VK_KHR_swapchain", VK_GOOGLE_DISPLAY_TIMING_EXTENSION_NAME] 1 true).1.doesPhysicalDeviceHaveGoogleDisplayTiming.find 1 =
        some (decide (VK_GOOGLE_DISPLAY_TIMING_EXTENSION_NAME ∈
          ["VK_KHR_swapchain", VK_GOOGLE_DISPLAY_TIMING_EXTENSION_NAME])) :=
  ⟨by decide, (determineDeviceExtensions_two_calls init 1
    ["VK_KHR_swapchain", VK_GOOGLE_DISPLAY_TIMING_EXTENSION_NAME] 0).2.2.2 (by decide) init 1 rfl⟩

end Extensions

theorem run_cons_eq_some {st st'' : SwappyVk} {c : Call} {cs : List Call}
    (h : run defaults st (c :: cs) = some st'') :
    ∃ st' r, step defaults st c = some (st', r) ∧ run defaults st' cs = some st'' := by
  unfold run at h
  split at h
  · cases h
  next st' r hc => exact ⟨st', r, hc, h⟩

end SwappyVk

end Swappy
