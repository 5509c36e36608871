import GameSdk.Swappy.SwappyVk

/-!
# What SwappyVk keeps per swapchain

`operator[]` inserts a null implementation for every unknown swapchain it is asked about, and a
later call that reaches it dereferences it. `GetRefreshCycleDuration` registers the tracer list
on every call, and the four settings reach only the implementations that exist when a setter is
called. Over whole runs: callers that name only swapchains with an implementation never crash,
and while each implementation is created once it has registered exactly the tracer list.
-/

namespace Swappy

/-- What a call does to the settings of an implementation it reaches: each of the four setters
writes its own field, and no other entry point touches them. -/
def Settings.update (s : Settings) : SwappyVk.Call → Settings
  | .setAutoSwapInterval enabled => { s with autoSwapInterval := enabled }
  | .setAutoPipelineMode enabled => { s with autoPipelineMode := enabled }
  | .setMaxAutoSwapDuration ns => { s with maxAutoSwapDurationNs := ns }
  | .setFenceTimeout t => { s with fenceTimeoutNs := t }
  | _ => s

namespace SwappyVk

variable (defaults : Settings)

/-- `SetWindow` on a swapchain without an implementation inserts a null one, and the next
`SetAutoSwapInterval` dereferences it. -/
theorem setWindow_unknown_swapchain_inserts_null :
    (init.setWindow 1 7 none).1.perSwapchainImplementation.entries = [(7, none)] ∧
      run defaults init [.setWindow 1 7 none, .setAutoSwapInterval true] = none :=
  ⟨rfl, rfl⟩

/-- A second `GetRefreshCycleDuration` for the same swapchain registers every tracer with its
implementation a second time. -/
theorem getRefreshCycleDuration_again_registers_tracers_again (t : SwappyTracer) :
    (run defaults init [.addTracer (some t), .getRefreshCycleDuration 1 1 7 true,
        .getRefreshCycleDuration 1 1 7 true]).map
      (fun st => (st.tracerList, st.perSwapchainImplementation.entries.map (·.2.map (·.tracers)))) =
      some ([t], [some [t, t]]) :=
  rfl

variable {defaults}

/-- What one call that does not crash can do to the implementations and the tracer list: leave
both as they were, add a null implementation by `operator[]`, run `GetRefreshCycleDuration`,
`DestroySwapchain` or `DestroyDevice`, or broadcast `f` after changing the tracer list by `g`.
Only a broadcast changes settings, as `Settings.update` says. -/
theorem step_cases {st st' : SwappyVk} {c : Call} {r : Reply} (h : step defaults st c = some (st', r)) :
    (st'.perSwapchainImplementation = st.perSwapchainImplementation ∧
      st'.tracerList = st.tracerList ∧ ∀ s : Settings, s.update c = s) ∨
    (∃ k, st' = (st.subscriptImplementation k).2 ∧ ∀ s : Settings, s.update c = s) ∨
    (∃ pd device k ok, c = .getRefreshCycleDuration pd device k ok ∧
      st' = (st.getRefreshCycleDuration defaults pd device k ok).1) ∨
    (∃ device k, c = .destroySwapchain device k ∧ st' = st.destroySwapchain device k) ∨
    (∃ device, c = .destroyDevice device ∧ st.destroyDevice device = some st') ∨
    (∃ (f : SwappyVkBase → SwappyVkBase) (g : List SwappyTracer → List SwappyTracer),
      broadcast f { st with tracerList := g st.tracerList } = some st' ∧
      ∀ impl, (f impl).settings = impl.settings.update c ∧ (f impl).device = impl.device ∧
        (f impl).tracers = g impl.tracers) := by
  have result {p : SwappyVk × Reply} (hp : some p = some (st', r)) : p.1 = st' :=
    congrArg Prod.fst (Option.some.inj hp)
  cases c with
  | determineDeviceExtensions pd available count required =>
    obtain rfl := result h
    exact .inl ⟨swappyVkDetermineDeviceExtensions_perSwapchainImplementation pd available count required,
      swappyVkDetermineDeviceExtensions_tracerList pd available count required, fun _ => rfl⟩
  | setQueueFamilyIndex => obtain rfl := result h; exact .inl ⟨rfl, rfl, fun _ => rfl⟩
  | getRefreshCycleDuration pd device k ok =>
    obtain rfl := result h; exact .inr (.inr (.inl ⟨pd, device, k, ok, rfl, rfl⟩))
  | setWindow _ k | setSwapDuration _ k | isEnabled k =>
    obtain rfl := result h; exact .inr (.inl ⟨k, rfl, fun _ => rfl⟩)
  | getSupportedRefreshPeriodsNS k =>
    exact .inr (.inl ⟨k, getSupportedRefreshPeriodsNS_state h, fun _ => rfl⟩)
  | queuePresent queue swapchains =>
    obtain rfl := result h
    rcases queuePresent_fst queue swapchains with hq | ⟨k, hq⟩
    · exact .inl ⟨by rw [hq], by rw [hq], fun _ => rfl⟩
    · exact .inr (.inl ⟨k, hq, fun _ => rfl⟩)
  | destroySwapchain device k =>
    obtain rfl := result h; exact .inr (.inr (.inr (.inl ⟨device, k, rfl, rfl⟩)))
  | destroyDevice device =>
    obtain ⟨st'', hd, ⟨⟩⟩ := Option.map_eq_some'.mp h
    exact .inr (.inr (.inr (.inr (.inl ⟨device, rfl, hd⟩))))
  | setAutoSwapInterval | setAutoPipelineMode | setMaxAutoSwapDuration | setFenceTimeout =>
    obtain ⟨st'', hb, ⟨⟩⟩ := Option.map_eq_some'.mp h
    exact .inr (.inr (.inr (.inr (.inr ⟨_, id, hb, fun _ => ⟨rfl, rfl, rfl⟩⟩))))
  | addTracer t =>
    obtain ⟨st'', hb, ⟨⟩⟩ := Option.map_eq_some'.mp h
    cases t with
    | none => cases hb; exact .inl ⟨rfl, rfl, fun _ => rfl⟩
    | some t => exact .inr (.inr (.inr (.inr (.inr ⟨_, (· ++ [t]), hb, fun _ => ⟨rfl, rfl, rfl⟩⟩))))
  | removeTracer t =>
    obtain ⟨st'', hb, ⟨⟩⟩ := Option.map_eq_some'.mp h
    cases t with
    | none => cases hb; exact .inl ⟨rfl, rfl, fun _ => rfl⟩
    | some t =>
      exact .inr (.inr (.inr (.inr (.inr ⟨_, List.filter (· != t), hb, fun _ => ⟨rfl, rfl, rfl⟩⟩))))
  | getFenceTimeout | forward =>
    obtain ⟨_, -, ⟨⟩⟩ := Option.map_eq_some'.mp h
    exact .inl ⟨rfl, rfl, fun _ => rfl⟩

/-- A call that does not crash, other than destroying swapchain `s` or the device of its
implementation, keeps that implementation, on that device, and updates its settings as
`Settings.update` says. -/
theorem step_keeps_implementation {st st' : SwappyVk} {c : Call} {r : Reply} {s : Nat}
    {impl : SwappyVkBase} (hstep : step defaults st c = some (st', r))
    (hs : st.perSwapchainImplementation.find s = some (some impl))
    (hsc : ∀ d, c ≠ .destroySwapchain d s) (hdev : c ≠ .destroyDevice impl.device) :
    ∃ impl', st'.perSwapchainImplementation.find s = some (some impl') ∧
      impl'.settings = impl.settings.update c ∧ impl'.device = impl.device := by
  rcases step_cases hstep with ⟨hp, -, hu⟩ | ⟨k, rfl, hu⟩ | ⟨pd, device, k, ok, rfl, rfl⟩ |
    ⟨d, k, rfl, rfl⟩ | ⟨d, rfl, hd⟩ | ⟨f, g, hb, hf⟩
  · exact ⟨impl, by rw [hp]; exact hs, (hu _).symm, rfl⟩
  · exact ⟨impl, subscriptImplementation_find k hs, (hu _).symm, rfl⟩
  · exact ⟨_, getRefreshCycleDuration_find pd device k ok hs, by split <;> rfl, by split <;> rfl⟩
  · exact ⟨impl, (destroySwapchain_find d k fun hk => hsc d (hk ▸ rfl)).trans hs, rfl, rfl⟩
  · exact ⟨impl, destroyDevice_find (fun hd' => hdev (hd' ▸ rfl)) hd hs, rfl, rfl⟩
  · exact ⟨_, broadcast_find hb hs, (hf impl).1, (hf impl).2.1⟩

/-- Over a run that does not crash, and destroys neither swapchain `s` nor its device, the
implementation of `s` stays, and its settings are those it had, updated by every setter call
of the run in order. -/
theorem run_keeps_implementation {st st' : SwappyVk} {s : Nat} {impl : SwappyVkBase}
    {calls : List Call} (hrun : run defaults st calls = some st')
    (hs : st.perSwapchainImplementation.find s = some (some impl))
    (hkeep : ∀ c ∈ calls, (∀ d, c ≠ .destroySwapchain d s) ∧ c ≠ .destroyDevice impl.device) :
    ∃ impl', st'.perSwapchainImplementation.find s = some (some impl') ∧
      impl'.settings = calls.foldl Settings.update impl.settings ∧ impl'.device = impl.device := by
  induction calls generalizing st impl with
  | nil => cases hrun; exact ⟨impl, hs, rfl, rfl⟩
  | cons c cs ih =>
    obtain ⟨st₁, r, hstep, hrun⟩ := run_cons_eq_some defaults hrun
    have hc := hkeep c (List.mem_cons_self c cs)
    obtain ⟨impl₁, hs₁, hset₁, hdev₁⟩ := step_keeps_implementation hstep hs hc.1 hc.2
    obtain ⟨impl₂, hs₂, hset₂, hdev₂⟩ :=
      ih hrun hs₁ fun c' hc' => hdev₁ ▸ hkeep c' (List.mem_cons_of_mem c hc')
    exact ⟨impl₂, hs₂, by rw [hset₂, hset₁]; rfl, hdev₂.trans hdev₁⟩

/-- The settings of an implementation are the defaults it was created with, updated by every
setter call made since `GetRefreshCycleDuration` created it (and none made before), as long as
neither the swapchain nor its device is destroyed. When its swapchain has the least handle,
`GetFenceTimeout` answers with its fence timeout. -/
theorem settings_since_creation (st st' : SwappyVk) (pd device s : Nat) (calls : List Call)
    (hnew : st.perSwapchainImplementation.find s = none ∨
      st.perSwapchainImplementation.find s = some none)
    (hkeep : ∀ c ∈ calls, (∀ d, c ≠ .destroySwapchain d s) ∧ c ≠ .destroyDevice device)
    (hrun : run defaults st (.getRefreshCycleDuration pd device s true :: calls) = some st') :
    ∃ impl, st'.perSwapchainImplementation.find s = some (some impl) ∧
      impl.settings = calls.foldl Settings.update defaults ∧
      (st'.perSwapchainImplementation.entries.head?.map Prod.fst = some s →
        step defaults st' .getFenceTimeout = some (st', .nanoseconds impl.settings.fenceTimeoutNs)) := by
  obtain ⟨st₁, r, hstep, hrun⟩ := run_cons_eq_some defaults hrun
  obtain rfl : _ = st₁ := congrArg Prod.fst (Option.some.inj hstep)
  obtain ⟨impl₀, hs₀, hset₀, hdev₀⟩ := getRefreshCycleDuration_creates pd device hnew
  obtain ⟨impl, hs, hset, -⟩ := run_keeps_implementation hrun hs₀ (hdev₀ ▸ hkeep)
  refine ⟨impl, hs, hset₀ ▸ hset, fun hh => ?_⟩
  simp only [step, getFenceTimeout_of_head hh hs, Option.map_some']

theorem settings_since_creation_scenario :
    ∃ impl, ((run Settings.example init [.getRefreshCycleDuration 1 1 7 true,
        .setFenceTimeout 5]).getD init).perSwapchainImplementation.find 7 = some (some impl) ∧
      impl.settings = { Settings.example with fenceTimeoutNs := 5 } ∧
      (step Settings.example ((run Settings.example init [.getRefreshCycleDuration 1 1 7 true,
        .setFenceTimeout 5]).getD init) .getFenceTimeout).map Prod.snd = some (.nanoseconds 5) := by
  obtain ⟨impl, hs, hset, hget⟩ := @settings_since_creation Settings.example init
    ((run Settings.example init [.getRefreshCycleDuration 1 1 7 true, .setFenceTimeout 5]).getD init)
    1 1 7 [.setFenceTimeout 5] (Or.inl rfl) (by simp) rfl
  exact ⟨impl, hs, hset, by rw [hget rfl, hset]; rfl⟩

variable (defaults) in
/-- A fence timeout set before the swapchain's implementation exists is lost: the setter reaches
no implementation and stores nothing, so `GetFenceTimeout` then answers the default. -/
theorem setFenceTimeout_before_creation_is_lost (t pd device s : Nat) :
    ((run defaults init [.setFenceTimeout t, .getRefreshCycleDuration pd device s true]).bind
        fun st => (step defaults st .getFenceTimeout).map Prod.snd) =
      some (.nanoseconds defaults.fenceTimeoutNs) := by
  simp [run, step, init, setFenceTimeout, broadcast, StdMap.empty, StdMap.mapValues,
    getRefreshCycleDuration, subscriptImplementation, StdMap.subscript, StdMap.find,
    StdMap.assign, StdMap.insertSorted, getFenceTimeout]

variable (defaults) in
/-- Every call of a run satisfies `P` in the state it is made in. -/
def Respects (P : SwappyVk → Call → Prop) (st : SwappyVk) : List Call → Prop
  | [] => True
  | c :: cs => P st c ∧ ∀ st' r, step defaults st c = some (st', r) → Respects P st' cs

/-- A property that every call satisfying `P` keeps holds after every run that respects `P`
and does not crash. -/
theorem Respects.run_inv {P : SwappyVk → Call → Prop} {Inv : SwappyVk → Prop}
    (hstep : ∀ {st c st' r}, Inv st → P st c → step defaults st c = some (st', r) → Inv st') :
    ∀ {calls : List Call} {st st' : SwappyVk}, Inv st → Respects defaults P st calls →
      run defaults st calls = some st' → Inv st'
  | [], _, _, h, _, hrun => by cases hrun; exact h
  | _ :: _, _, _, h, ⟨hc, hcs⟩, hrun => by
    obtain ⟨st₁, r, hs, hrun⟩ := run_cons_eq_some defaults hrun
    exact Respects.run_inv hstep (hstep h hc hs) (hcs st₁ r hs) hrun

/-- No swapchain holds a null implementation. -/
def NoNullImplementation (st : SwappyVk) : Prop :=
  ∀ e ∈ st.perSwapchainImplementation.entries, e.2.isSome

/-- The call looks up with `operator[]` only swapchains that have an entry, except
`GetRefreshCycleDuration` with `InitFunctions()` succeeding, which creates one. -/
def Admissible (st : SwappyVk) : Call → Prop
  | .getRefreshCycleDuration _ _ k ok => ok = true ∨ st.perSwapchainImplementation.find k ≠ none
  | .setWindow _ k _ | .setSwapDuration _ k _ | .isEnabled k _ | .getSupportedRefreshPeriodsNS k =>
    st.perSwapchainImplementation.find k ≠ none
  | .queuePresent queue (k :: _) =>
    st.perQueueFamilyIndex.find queue = none ∨ st.perSwapchainImplementation.find k ≠ none
  | _ => True

theorem NoNullImplementation.find {st : SwappyVk} (hst : NoNullImplementation st) {k : Nat}
    (hk : st.perSwapchainImplementation.find k ≠ none) :
    ∃ impl, st.perSwapchainImplementation.find k = some (some impl) := by
  obtain ⟨v, hv⟩ := Option.ne_none_iff_exists'.mp hk
  obtain ⟨impl, rfl⟩ := Option.isSome_iff_exists.mp (hst _ (StdMap.mem_of_find hv))
  exact ⟨impl, hv⟩

theorem NoNullImplementation.mapValues {st : SwappyVk} (hst : NoNullImplementation st)
    (f : SwappyVkBase → SwappyVkBase) (st₀ : SwappyVk) :
    NoNullImplementation
      { st₀ with perSwapchainImplementation := st.perSwapchainImplementation.mapValues (·.map f) } := by
  intro e he
  obtain ⟨v, hv, he⟩ := StdMap.mem_mapValues he
  rw [he, Option.isSome_map']
  exact hst _ hv

/-- From a state with no null implementation, an admissible call does not crash and stores no
null implementation. -/
theorem step_safe {st : SwappyVk} (hst : NoNullImplementation st) {c : Call} (hc : Admissible st c) :
    ∃ st' r, step defaults st c = some (st', r) ∧ NoNullImplementation st' := by
  have known {k : Nat} (hk : st.perSwapchainImplementation.find k ≠ none) :
      ∃ impl, st.subscriptImplementation k = (some impl, st) :=
    (hst.find hk).imp fun _ hi => subscriptImplementation_of_find hi
  cases c with
  | determineDeviceExtensions pd available count required =>
    refine ⟨(st.swappyVkDetermineDeviceExtensions pd available count required).1, _, rfl,
      fun e he => hst e ?_⟩
    rwa [swappyVkDetermineDeviceExtensions_perSwapchainImplementation] at he
  | setQueueFamilyIndex => exact ⟨_, _, rfl, hst⟩
  | getRefreshCycleDuration pd device k ok =>
    obtain ⟨impl, he⟩ := getRefreshCycleDuration_entries defaults pd device
      (hc.symm.imp hst.find id)
    refine ⟨(st.getRefreshCycleDuration defaults pd device k ok).1, _, rfl, fun e hm => ?_⟩
    rw [he] at hm
    rcases StdMap.mem_assign hm with rfl | hm
    · rfl
    · exact hst e hm
  | setWindow _ k | setSwapDuration _ k =>
    obtain ⟨impl, h⟩ := known hc
    exact ⟨st, .delegated, by simp [step, setWindow, setSwapDuration, forwardVoid, h], hst⟩
  | isEnabled k b =>
    obtain ⟨impl, h⟩ := known hc
    exact ⟨st, .bool b, by simp [step, isEnabled, h], hst⟩
  | getSupportedRefreshPeriodsNS k =>
    obtain ⟨impl, h⟩ := known hc
    exact ⟨st, .delegated, by simp [step, getSupportedRefreshPeriodsNS, h], hst⟩
  | queuePresent queue swapchains =>
    have hq : (st.queuePresent queue swapchains).1 = st := by
      unfold queuePresent
      split
      · rfl
      next hq =>
        cases swapchains with
        | nil => rfl
        | cons k _ =>
          obtain ⟨impl, h⟩ := known (hc.resolve_left hq)
          simp [h]
    exact ⟨(st.queuePresent queue swapchains).1, (st.queuePresent queue swapchains).2, rfl,
      by rw [hq]; exact hst⟩
  | destroySwapchain d k =>
    refine ⟨st.destroySwapchain d k, _, rfl, fun e he => ?_⟩
    unfold destroySwapchain at he
    split at he
    · exact hst e he
    · exact hst e (StdMap.mem_erase he)
  | destroyDevice d =>
    obtain ⟨st', h, hsub⟩ := destroyDevice_of_isSome d hst
    exact ⟨st', .unit, by simp [step, h], fun e he => hst e (hsub.subset he)⟩
  | setAutoSwapInterval | setAutoPipelineMode | setMaxAutoSwapDuration | setFenceTimeout =>
    exact ⟨_, _, Option.map_eq_some'.mpr ⟨_, broadcast_of_isSome _ hst, rfl⟩, hst.mapValues _ _⟩
  | addTracer t | removeTracer t =>
    cases t with
    | none => exact ⟨st, _, rfl, hst⟩
    | some t =>
      exact ⟨_, _, Option.map_eq_some'.mpr ⟨_, broadcast_of_isSome _ hst, rfl⟩, hst.mapValues _ _⟩
  | getFenceTimeout =>
    obtain ⟨r, hr⟩ : ∃ r, st.getFenceTimeout = some r := by
      unfold getFenceTimeout
      rcases hh : st.perSwapchainImplementation.entries with _ | ⟨⟨k, v⟩, es⟩
      · exact ⟨_, rfl⟩
      · obtain ⟨impl, rfl⟩ := Option.isSome_iff_exists.mp (hst _ (hh ▸ List.mem_cons_self _ _))
        exact ⟨_, rfl⟩
    exact ⟨st, r, by simp [step, hr], hst⟩
  | forward k method =>
    obtain ⟨r, hr⟩ : ∃ r, st.forward k method = some r := by
      rcases hf : st.perSwapchainImplementation.find k with _ | _ | impl
      · cases method <;> simp [forward, findAndForward, hf]
      · exact absurd (hst _ (StdMap.mem_of_find hf)) (by simp)
      · cases method <;> simp [forward, findAndForward, hf]
    exact ⟨st, r, by simp [step, hr], hst⟩

/-- A run whose calls name, where they use `operator[]`, only swapchains that have an
implementation never crashes and never stores a null implementation. -/
theorem admissible_run_safe (calls : List Call) :
    ∀ {st : SwappyVk}, NoNullImplementation st → Respects defaults Admissible st calls →
      ∃ st', run defaults st calls = some st' ∧ NoNullImplementation st' := by
  induction calls with
  | nil => exact fun hst _ => ⟨_, rfl, hst⟩
  | cons c cs ih =>
    intro st hst ⟨hc, hcs⟩
    obtain ⟨st₁, r, hstep, hst₁⟩ := step_safe hst hc
    obtain ⟨st', hrun, hst'⟩ := ih hst₁ (hcs st₁ r hstep)
    exact ⟨st', by simp only [run, hstep, hrun], hst'⟩

theorem admissible_run_safe_scenario :
    NoNullImplementation init ∧
      Respects Settings.example Admissible init [.getRefreshCycleDuration 1 1 7 true,
        .setWindow 1 7 none, .setFenceTimeout 5, .destroyDevice 1] ∧
      ∃ st', run Settings.example init [.getRefreshCycleDuration 1 1 7 true,
        .setWindow 1 7 none, .setFenceTimeout 5, .destroyDevice 1] = some st' ∧
        NoNullImplementation st' := by
  have h₀ : NoNullImplementation init := fun _ h => nomatch h
  have hadm : Respects Settings.example Admissible init [.getRefreshCycleDuration 1 1 7 true,
      .setWindow 1 7 none, .setFenceTimeout 5, .destroyDevice 1] := by
    refine ⟨Or.inl rfl, fun st₁ r₁ h₁ => ?_⟩
    cases h₁
    refine ⟨(fun h => nomatch h), fun st₂ r₂ h₂ => ?_⟩
    cases h₂
    refine ⟨trivial, fun st₃ r₃ h₃ => ?_⟩
    cases h₃
    exact ⟨trivial, fun _ _ _ => trivial⟩
  exact ⟨h₀, hadm, admissible_run_safe _ h₀ hadm⟩

/-- On a state with no null implementation, `DestroyDevice(d)` keeps exactly the
implementations whose `getDevice()` is not `d` and the queues of the other devices, and
`DestroySwapchain` erases its key, if present. Nothing else changes. -/
theorem destroy_restricts_maps {st : SwappyVk} (hst : NoNullImplementation st) (d : Nat) :
    st.destroyDevice d = some { st with
      perSwapchainImplementation :=
        st.perSwapchainImplementation.restrict fun e => e.2.any (·.device != d)
      perQueueFamilyIndex := st.perQueueFamilyIndex.restrict (·.2.device != d) } ∧
    ∀ device s, st.destroySwapchain device s =
      { st with perSwapchainImplementation := st.perSwapchainImplementation.erase s } :=
  ⟨destroyDevice_eq_restrict d hst, destroySwapchain_eq_erase⟩

theorem destroy_restricts_maps_scenario :
    let st := ((((init.setQueueFamilyIndex 1 10 0).setQueueFamilyIndex 2 20 0).getRefreshCycleDuration
      Settings.example 1 1 7 true).1.getRefreshCycleDuration Settings.example 1 2 8 true).1
    NoNullImplementation st ∧ st.perSwapchainImplementation.entries.map Prod.fst = [7, 8] ∧
      st.perQueueFamilyIndex.entries.map Prod.fst = [10, 20] ∧
      (st.destroyDevice 1).map (fun st' => (st'.perSwapchainImplementation.entries.map Prod.fst,
        st'.perQueueFamilyIndex.entries.map Prod.fst)) = some ([8], [20]) := by
  intro st
  have h₀ : NoNullImplementation st := fun e he => by
    rcases List.mem_pair.mp he with rfl | rfl <;> rfl
  exact ⟨h₀, rfl, rfl, by rw [(destroy_restricts_maps h₀ 1).1]; rfl⟩

/-- Every implementation has registered exactly the tracers of `tracer_list`, in order and with
their multiplicity. -/
def TracersRegistered (st : SwappyVk) : Prop :=
  ∀ e ∈ st.perSwapchainImplementation.entries, ∀ impl ∈ e.2, impl.tracers = st.tracerList

/-- `GetRefreshCycleDuration` is called only for a swapchain without an implementation. -/
def CreatesOnly (st : SwappyVk) : Call → Prop
  | .getRefreshCycleDuration _ _ k _ =>
    ∀ impl, st.perSwapchainImplementation.find k ≠ some (some impl)
  | _ => True

theorem TracersRegistered.of_mem {st st' : SwappyVk} (h : TracersRegistered st)
    (hl : st'.tracerList = st.tracerList)
    (hs : ∀ e ∈ st'.perSwapchainImplementation.entries,
      e ∈ st.perSwapchainImplementation.entries ∨ e.2 = none) :
    TracersRegistered st' := by
  intro e he impl hi
  rcases hs e he with he | hn
  · rw [hl]; exact h e he impl hi
  · rw [hn] at hi; exact absurd hi (Option.not_mem_none _)

/-- A broadcast keeps the tracers registered when `f` registers with each implementation the
change the call makes to `tracer_list`. -/
theorem TracersRegistered.broadcast {st st₀ st' : SwappyVk} (h : TracersRegistered st)
    {f : SwappyVkBase → SwappyVkBase} (hb : broadcast f st₀ = some st')
    (hp : st₀.perSwapchainImplementation = st.perSwapchainImplementation)
    (hf : ∀ impl : SwappyVkBase, impl.tracers = st.tracerList → (f impl).tracers = st₀.tracerList) :
    TracersRegistered st' := by
  intro e he impl hi
  obtain ⟨v, hv, he₂⟩ := broadcast_mem hb he
  rw [he₂] at hi
  obtain ⟨impl₀, rfl, rfl⟩ := Option.map_eq_some'.mp hi
  rw [broadcast_tracerList hb]
  exact hf impl₀ (h _ (hp ▸ hv) impl₀ rfl)

theorem tracersRegistered_step {st st' : SwappyVk} {c : Call} {r : Reply} (h : TracersRegistered st)
    (hc : CreatesOnly st c) (hstep : step defaults st c = some (st', r)) : TracersRegistered st' := by
  rcases step_cases hstep with ⟨hp, hl, -⟩ | ⟨k, rfl, -⟩ | ⟨pd, device, k, ok, rfl, rfl⟩ |
    ⟨d, k, rfl, rfl⟩ | ⟨d, rfl, hd⟩ | ⟨f, g, hb, hf⟩
  · exact h.of_mem hl fun e he => Or.inl (hp ▸ he)
  · exact h.of_mem rfl fun e he => subscriptImplementation_mem he
  · have h₀ : (st.perSwapchainImplementation.subscript k none).1 = none := by
      rw [StdMap.subscript_fst]
      rcases hf : st.perSwapchainImplementation.find k with _ | _ | impl
      · rfl
      · rfl
      · exact absurd hf (hc impl)
    intro e he impl hi
    rw [getRefreshCycleDuration_tracerList]
    rcases getRefreshCycleDuration_fresh_mem pd device ok h₀ he with he | hn | ⟨impl', he₂, ht⟩
    · exact h e he impl hi
    · rw [hn] at hi; exact absurd hi (Option.not_mem_none _)
    · rw [he₂, Option.mem_def, Option.some.injEq] at hi
      exact hi ▸ ht
  · exact h.of_mem (destroySwapchain_tracerList d k) fun e he => Or.inl (destroySwapchain_mem d he)
  · exact h.of_mem (destroyDevice_tracerList hd) fun e he => Or.inl (destroyDevice_mem hd he)
  · exact h.broadcast hb rfl fun impl hi => by rw [(hf impl).2.2, hi]

/-- While `GetRefreshCycleDuration` is called only for swapchains without an implementation,
every implementation has registered exactly the tracers of `tracer_list`, in order and with
their multiplicity, after every run that does not crash, whether each tracer was added before
or after the swapchain's implementation was created. -/
theorem tracers_registered_run {st st' : SwappyVk} {calls : List Call} (h : TracersRegistered st)
    (hc : Respects defaults CreatesOnly st calls) (hrun : run defaults st calls = some st') :
    TracersRegistered st' :=
  Respects.run_inv tracersRegistered_step h hc hrun

theorem tracers_registered_run_scenario :
    TracersRegistered ((run Settings.example init [.addTracer (some ⟨1, 0, 0, 0, 0, 0, 0⟩),
      .getRefreshCycleDuration 1 1 7 true, .addTracer (some ⟨2, 0, 0, 0, 0, 0, 0⟩),
      .getRefreshCycleDuration 1 1 8 true, .removeTracer (some ⟨1, 0, 0, 0, 0, 0, 0⟩)]).getD init) := by
  have hc : Respects Settings.example CreatesOnly init [.addTracer (some ⟨1, 0, 0, 0, 0, 0, 0⟩),
      .getRefreshCycleDuration 1 1 7 true, .addTracer (some ⟨2, 0, 0, 0, 0, 0, 0⟩),
      .getRefreshCycleDuration 1 1 8 true, .removeTracer (some ⟨1, 0, 0, 0, 0, 0, 0⟩)] := by
    refine ⟨trivial, fun st₁ r₁ h₁ => ?_⟩
    cases h₁
    refine ⟨(fun _ h => nomatch h), fun st₂ r₂ h₂ => ?_⟩
    cases h₂
    refine ⟨trivial, fun st₃ r₃ h₃ => ?_⟩
    cases h₃
    refine ⟨(fun _ h => nomatch h), fun st₄ r₄ h₄ => ?_⟩
    cases h₄
    exact ⟨trivial, fun _ _ _ => trivial⟩
  have h₀ : TracersRegistered init := fun _ h => nomatch h
  exact tracers_registered_run h₀ hc rfl

end SwappyVk

end Swappy
