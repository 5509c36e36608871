import Mathlib.Data.List.Basic
import Mathlib.Algebra.Group.Int

/-!
# Renderers and configuration increments of the fill rate operation

`FillRateGLES3Operation` of the Android certification test app splits `num_quads` quads among
renderers of at most `instances_per_renderer` instances in `BuildRenderers`. Every heartbeat
reports what was drawn and, once `increment.period` has passed, grows `num_quads` and
`quad_size` and builds the renderers again. A renderer is its instance count: GL state, the
animation and the frame rate calculator are left out, and any order of calls is allowed.
`int` arithmetic that overflows, an allocation that cannot succeed and `FatalError` give `none`;
the `int64_t` counters are exact.
-/

namespace FillRate

structure ConfigurationIncrement where
  period : Int
  numQuadsIncrement : Int
  quadSizeIncrement : Int
  deriving Repr

/-- The fields of `base_configuration` that the operation reads, with their defaults;
`blending` only picks the texture. -/
structure BaseConfiguration where
  numQuads : Int := 0
  quadSize : Int := 0
  instancesPerRenderer : Int := 64
  deriving Repr

/-- `configuration`, whose `increment` stays zero unless the JSON sets it. -/
structure Configuration extends BaseConfiguration where
  increment : ConfigurationIncrement := ⟨0, 0, 0⟩
  deriving Repr

/-- An `int` value: signed arithmetic whose result leaves `[-2^31, 2^31)` is undefined. -/
def InInt (v : Int) : Prop := -2 ^ 31 ≤ v ∧ v < 2 ^ 31

instance : DecidablePred InInt := fun _ => inferInstanceAs (Decidable (_ ∧ _))

/-- The loop of `BuildRenderers` from `remaining` quads, with `fuel` passes left: the instance
counts of the renderers it pushes, or `none` once the passes run out. A negative `instances`
is converted to a `GLuint` of at least `2^31` by `QuadRenderer`'s constructor, and `Start`
then resizes four vectors to that many elements, which cannot be allocated: `none` (when
`remaining -= instances` has not overflowed first). -/
def buildLoop (instancesPerRenderer : Int) : Nat → Int → Option (List Int)
  | 0, _ => none
  | fuel + 1, remaining =>
    if 0 < remaining then
      let instances := min remaining instancesPerRenderer
      if instances < 0 then none
      else (buildLoop instancesPerRenderer fuel (remaining - instances)).map (instances :: ·)
    else some []

/-- `BuildRenderers`: the instance counts of the renderers, in order. -/
def buildRenderers (configuration : BaseConfiguration) : Option (List Int) :=
  buildLoop configuration.instancesPerRenderer (configuration.numQuads.toNat + 1)
    configuration.numQuads

/-- The renderers `n` quads need: full ones of `ipr` instances, then one with the rest. -/
def chunks (ipr n : Int) : List Int :=
  List.replicate (n / ipr).toNat ipr ++ if 0 < n % ipr then [n % ipr] else []

section Chunks

variable {ipr : Int}

theorem chunks_zero : chunks ipr 0 = [] := by
  simp [chunks]

/-- One pass of the loop takes the first renderer of `chunks`. -/
theorem chunks_cons (hipr : 0 < ipr) {n : Int} (hn : 0 < n) :
    chunks ipr n = min n ipr :: chunks ipr (n - min n ipr) := by
  by_cases hlt : n < ipr
  · rw [Int.min_eq_left (Int.le_of_lt hlt), Int.sub_self, chunks_zero, chunks,
      Int.ediv_eq_zero_of_lt (Int.le_of_lt hn) hlt, Int.emod_eq_of_lt (Int.le_of_lt hn) hlt,
      if_pos hn]
    rfl
  · have hdiv : n / ipr = (n - ipr) / ipr + 1 :=
      calc n / ipr = (n - ipr + 1 * ipr) / ipr := by rw [Int.one_mul, Int.sub_add_cancel]
        _ = (n - ipr) / ipr + 1 := Int.add_mul_ediv_right _ _ (by omega)
    have hmod : n % ipr = (n - ipr) % ipr := by
      rw [Int.sub_emod, Int.emod_self, Int.sub_zero, Int.emod_emod]
    have hnonneg : 0 ≤ (n - ipr) / ipr := Int.ediv_nonneg (by omega) (Int.le_of_lt hipr)
    rw [Int.min_eq_right (by omega), chunks, chunks, hdiv, hmod, Int.toNat_add hnonneg (by omega)]
    rfl

theorem buildLoop_eq_chunks (hipr : 0 < ipr) (fuel : Nat) {n : Int} (hn : 0 ≤ n)
    (hfuel : n.toNat < fuel) : buildLoop ipr fuel n = some (chunks ipr n) := by
  induction fuel generalizing n with
  | zero => omega
  | succ fuel ih =>
    rw [buildLoop]
    split
    next hpos =>
      dsimp only
      rw [if_neg (by omega), ih (by omega) (by omega), chunks_cons hipr hpos]
      rfl
    next hpos =>
      rw [show n = 0 by omega, chunks_zero]

/-- With renderers of at least one instance, `BuildRenderers` ends and builds exactly the
renderers `num_quads` needs, none for a count that is not positive. -/
theorem buildRenderers_eq {c : BaseConfiguration} (hipr : 0 < c.instancesPerRenderer) :
    buildRenderers c = some (chunks c.instancesPerRenderer (max c.numQuads 0)) := by
  by_cases hpos : 0 < c.numQuads
  · rw [Int.max_eq_left (Int.le_of_lt hpos)]
    exact buildLoop_eq_chunks hipr _ (Int.le_of_lt hpos) (Nat.lt_succ_self _)
  · rw [Int.max_eq_right (by omega), chunks_zero, buildRenderers, buildLoop, if_neg hpos]

theorem foldl_add_chunks (hipr : 0 < ipr) {n : Int} (hn : 0 ≤ n) (acc : Int) :
    (chunks ipr n).foldl (· + ·) acc = acc + n := by
  generalize h : n.toNat = m
  induction m using Nat.strongRecOn generalizing n acc with
  | ind m ih =>
    by_cases hpos : 0 < n
    · rw [chunks_cons hipr hpos, List.foldl_cons, ih _ (by omega) (by omega) _ rfl]
      omega
    · rw [show n = 0 by omega, chunks_zero, List.foldl_nil, Int.add_zero]

theorem mem_chunks (hipr : 0 < ipr) {n r : Int} (hr : r ∈ chunks ipr n) : 0 < r ∧ r ≤ ipr := by
  rcases List.mem_append.1 hr with h | h
  · rw [List.eq_of_mem_replicate h]
    exact ⟨hipr, Int.le_refl _⟩
  · split at h
    next hpos =>
      rw [List.mem_singleton.1 h]
      exact ⟨hpos, Int.le_of_lt (Int.emod_lt_of_pos n hipr)⟩
    next => cases h

/-- `chunks` holds `n / ipr` renderers rounded up. -/
theorem length_chunks (hipr : 0 < ipr) {n : Int} (hn : 0 ≤ n) :
    (chunks ipr n).length = ((n + ipr - 1) / ipr).toNat := by
  have hdm := Int.emod_add_ediv n ipr
  have hr := Int.emod_lt_of_pos n hipr
  have hr₀ := Int.emod_nonneg n (Int.ne_of_gt hipr)
  have hq : 0 ≤ n / ipr := Int.ediv_nonneg hn (Int.le_of_lt hipr)
  rw [chunks, List.length_append, List.length_replicate]
  split
  next hpos =>
    have hceil : (n + ipr - 1) / ipr = n / ipr + 1 :=
      ((Int.ediv_emod_unique (r := n % ipr - 1) hipr).2
        ⟨by rw [Int.mul_add]; omega, by omega, by omega⟩).1
    rw [hceil, Int.toNat_add hq (by omega)]
    rfl
  next hzero =>
    have hceil : (n + ipr - 1) / ipr = n / ipr :=
      ((Int.ediv_emod_unique (r := ipr - 1) hipr).2 ⟨by omega, by omega, by omega⟩).1
    rw [hceil]
    rfl

/-- With renderers of at least one instance, `BuildRenderers` ends. Its renderers hold
`num_quads` quads in all, or none when that is not positive; each holds from one to
`instances_per_renderer` of them; and there are `num_quads / instances_per_renderer` renderers,
rounded up. -/
theorem buildRenderers_splits_quads (c : BaseConfiguration) (hipr : 0 < c.instancesPerRenderer) :
    ∃ rs, buildRenderers c = some rs ∧ rs.foldl (· + ·) 0 = max c.numQuads 0 ∧
      (∀ r ∈ rs, 0 < r ∧ r ≤ c.instancesPerRenderer) ∧
      rs.length = ((max c.numQuads 0 + c.instancesPerRenderer - 1) / c.instancesPerRenderer).toNat :=
  ⟨_, buildRenderers_eq hipr, by rw [foldl_add_chunks hipr (Int.le_max_right _ _), Int.zero_add],
    fun _ => mem_chunks hipr, length_chunks hipr (Int.le_max_right _ _)⟩

theorem buildRenderers_splits_quads_scenario :
    0 < ({ numQuads := 100 } : BaseConfiguration).instancesPerRenderer ∧
      ∃ rs, buildRenderers { numQuads := 100 } = some rs ∧ rs.foldl (· + ·) 0 = max (100 : Int) 0 ∧
        (∀ r ∈ rs, 0 < r ∧ r ≤ 64) ∧ rs.length = ((max (100 : Int) 0 + 64 - 1) / 64).toNat :=
  ⟨by decide, buildRenderers_splits_quads { numQuads := 100 } (by decide)⟩

end Chunks

/-- With `instances_per_renderer` zero, each pass of the loop pushes an empty renderer and takes
no quad away. -/
theorem buildLoop_zero_succ (fuel : Nat) {n : Int} (hn : 0 < n) :
    buildLoop 0 (fuel + 1) n = (buildLoop 0 fuel n).map (0 :: ·) := by
  rw [buildLoop, if_pos hn]
  dsimp only
  rw [Int.min_eq_right (Int.le_of_lt hn), if_neg (Int.lt_irrefl 0), Int.sub_zero]

/-- So with quads to place the loop runs out of every number of passes. -/
theorem buildLoop_zero_diverges (fuel : Nat) {n : Int} (hn : 0 < n) : buildLoop 0 fuel n = none := by
  induction fuel with
  | zero => rfl
  | succ fuel ih => rw [buildLoop_zero_succ fuel hn, ih, Option.map_none']

/-- `datum`, with the quads drawn and the time elapsed that `pixels_per_second` divides. -/
structure Datum where
  quadsRendered : Int
  elapsed : Nat
  pixelsPerQuad : Int
  deriving Repr

/-- The state of a `FillRateGLES3Operation`; `reports` lists the data passed to `Report`, oldest
first. -/
structure FillRateGLES3Operation where
  configuration : Configuration
  currentConfiguration : BaseConfiguration
  framesRenderedSinceLastFpsTimestamp : Nat
  quadsRenderedSinceLastFpsTimestamp : Int
  timeSinceConfigurationIncrement : Nat
  renderers : List Int
  reports : List Datum
  deriving Repr

namespace FillRateGLES3Operation

def initial : FillRateGLES3Operation := ⟨{}, {}, 0, 0, 0, [], []⟩

variable (s : FillRateGLES3Operation)

/-- `OnGlContextReady`; `glReady` says whether the EGL context, the texture and the program are
all there, and `FatalError` is called otherwise. -/
def onGlContextReady (configuration : Configuration) (glReady : Bool) :
    Option FillRateGLES3Operation :=
  if glReady then
    (buildRenderers configuration.toBaseConfiguration).map fun renderers =>
      { s with configuration, currentConfiguration := configuration.toBaseConfiguration,
               renderers }
  else none

/-- `Draw`: every renderer draws its quads. -/
def draw : FillRateGLES3Operation :=
  { s with
    quadsRenderedSinceLastFpsTimestamp :=
      s.renderers.foldl (· + ·) s.quadsRenderedSinceLastFpsTimestamp
    framesRenderedSinceLastFpsTimestamp := s.framesRenderedSinceLastFpsTimestamp + 1 }

/-- `IncrementConfiguration`: `none` when `+=` overflows an `int` field. -/
def incrementConfiguration : Option FillRateGLES3Operation :=
  let quadSize := s.currentConfiguration.quadSize + s.configuration.increment.quadSizeIncrement
  let numQuads := s.currentConfiguration.numQuads + s.configuration.increment.numQuadsIncrement
  if InInt quadSize ∧ InInt numQuads then
    (buildRenderers { s.currentConfiguration with quadSize, numQuads }).map fun renderers =>
      { s with currentConfiguration := { s.currentConfiguration with quadSize, numQuads }, renderers }
  else none

/-- The report of `OnHeartbeat` when `GetMode()` is `Mode::DataGatherer`: `none` when the `int`
product `ppq` overflows. -/
def report (elapsed : Nat) (dataGatherer : Bool) : Option FillRateGLES3Operation :=
  if dataGatherer then
    let ppq := s.currentConfiguration.quadSize * s.currentConfiguration.quadSize
    if InInt ppq then
      some { s with reports := s.reports ++ [⟨s.quadsRenderedSinceLastFpsTimestamp, elapsed, ppq⟩] }
    else none
  else some s

/-- `OnHeartbeat`; `dataGatherer` says whether `GetMode()` is `Mode::DataGatherer`. -/
def onHeartbeat (elapsed : Nat) (dataGatherer : Bool) : Option FillRateGLES3Operation :=
  (s.report elapsed dataGatherer).bind fun reported =>
    let timed := { reported with
      timeSinceConfigurationIncrement := s.timeSinceConfigurationIncrement + elapsed }
    let incremented := if 0 < s.configuration.increment.period ∧
        s.configuration.increment.period * 1000000000 ≤ (timed.timeSinceConfigurationIncrement : Int)
      then timed.incrementConfiguration.map fun s => { s with timeSinceConfigurationIncrement := 0 }
      else some timed
    incremented.map fun s =>
      { s with framesRenderedSinceLastFpsTimestamp := 0, quadsRenderedSinceLastFpsTimestamp := 0 }

inductive Call
  | onGlContextReady (configuration : Configuration) (glReady : Bool)
  | draw
  | onHeartbeat (elapsed : Nat) (dataGatherer : Bool)
  deriving Repr

/-- `instances_per_renderer` is taken from the JSON as it is. When it is zero and there are
quads to draw, each pass of the loop of `BuildRenderers` pushes a renderer of no quads and takes
none away, so the loop never ends, whatever the number of passes, and `OnGlContextReady` never
returns. -/
theorem buildRenderers_never_ends (c : Configuration) (hipr : c.instancesPerRenderer = 0)
    (hq : 0 < c.numQuads) :
    (∀ fuel, buildLoop c.instancesPerRenderer (fuel + 1) c.numQuads =
        (buildLoop c.instancesPerRenderer fuel c.numQuads).map (0 :: ·)) ∧
      (∀ fuel, buildLoop c.instancesPerRenderer fuel c.numQuads = none) ∧
      ∀ s : FillRateGLES3Operation, s.onGlContextReady c true = none := by
  rw [hipr]
  refine ⟨fun fuel => buildLoop_zero_succ fuel hq, fun fuel => buildLoop_zero_diverges fuel hq,
    fun s => ?_⟩
  rw [onGlContextReady, if_pos rfl, buildRenderers, hipr, buildLoop_zero_diverges _ hq,
    Option.map_none']

theorem buildRenderers_never_ends_scenario :
    ({ numQuads := 1, instancesPerRenderer := 0 } : Configuration).instancesPerRenderer = 0 ∧
      0 < ({ numQuads := 1, instancesPerRenderer := 0 } : Configuration).numQuads ∧
      (∀ fuel, buildLoop 0 (fuel + 1) 1 = (buildLoop 0 fuel 1).map (0 :: ·)) ∧
      (∀ fuel, buildLoop 0 fuel 1 = none) ∧
      ∀ s : FillRateGLES3Operation,
        s.onGlContextReady { numQuads := 1, instancesPerRenderer := 0 } true = none :=
  ⟨rfl, by decide,
    buildRenderers_never_ends { numQuads := 1, instancesPerRenderer := 0 } rfl (by decide)⟩

def Call.isHeartbeat : Call → Bool
  | .onHeartbeat _ _ => true
  | _ => false

def handle : Call → Option FillRateGLES3Operation
  | .onGlContextReady configuration glReady => s.onGlContextReady configuration glReady
  | .draw => some s.draw
  | .onHeartbeat elapsed dataGatherer => s.onHeartbeat elapsed dataGatherer

def run (s : FillRateGLES3Operation) : List Call → Option FillRateGLES3Operation
  | [] => some s
  | c :: cs => (s.handle c).bind fun s' => s'.run cs

/-- The heartbeats of `elapsed` nanoseconds each that it takes to reach `period` seconds. -/
def heartbeatsPerIncrement (period : Int) (elapsed : Nat) : Nat :=
  ((period * 1000000000).toNat + elapsed - 1) / elapsed

theorem heartbeatsPerIncrement_le_iff {period : Int} {elapsed : Nat} (he : 0 < elapsed) (m : Nat) :
    heartbeatsPerIncrement period elapsed ≤ m ↔ period * 1000000000 ≤ ((m * elapsed : Nat) : Int) := by
  rw [heartbeatsPerIncrement, Nat.div_le_iff_le_mul_add_pred he, Nat.mul_comm m elapsed]
  generalize elapsed * m = x
  omega

/-- The current configuration after `m` increments. -/
def grown (config : Configuration) (m : Nat) : BaseConfiguration :=
  { config.toBaseConfiguration with
    numQuads := config.numQuads + m * config.increment.numQuadsIncrement
    quadSize := config.quadSize + m * config.increment.quadSizeIncrement }

/-- The `int` fields the operation computes with, and `quad_size * quad_size`, are in range. -/
def Fits (c : BaseConfiguration) : Prop :=
  InInt c.numQuads ∧ InInt c.quadSize ∧ InInt (c.quadSize * c.quadSize)

instance : DecidablePred Fits := fun _ => inferInstanceAs (Decidable (_ ∧ _ ∧ _))

/-- The state after `n` heartbeats of `elapsed` nanoseconds each, and any draws: the
configuration has grown once every `heartbeatsPerIncrement` heartbeats, the time since the last
increment counts the heartbeats since then, the renderers are those of the current
configuration, and the quads drawn since the last heartbeat are its quads once per frame. -/
structure OnSchedule (config : Configuration) (elapsed n : Nat) (s : FillRateGLES3Operation) :
    Prop where
  configuration : s.configuration = config
  current : s.currentConfiguration =
    grown config (n / heartbeatsPerIncrement config.increment.period elapsed)
  time : s.timeSinceConfigurationIncrement =
    n % heartbeatsPerIncrement config.increment.period elapsed * elapsed
  renderers : s.renderers = chunks config.instancesPerRenderer (max s.currentConfiguration.numQuads 0)
  quads : s.quadsRenderedSinceLastFpsTimestamp =
    s.framesRenderedSinceLastFpsTimestamp * max s.currentConfiguration.numQuads 0

section Schedule

variable {config : Configuration} {elapsed n : Nat} {s}

theorem OnSchedule.draw (hs : OnSchedule config elapsed n s)
    (hipr : 0 < config.instancesPerRenderer) : OnSchedule config elapsed n s.draw := by
  refine ⟨hs.configuration, hs.current, hs.time, hs.renderers, ?_⟩
  simp only [FillRateGLES3Operation.draw, hs.renderers, hs.quads,
    foldl_add_chunks hipr (Int.le_max_right _ _)]
  push_cast
  rw [Int.add_mul, Int.one_mul]

theorem incrementConfiguration_eq
    (hipr : 0 < s.currentConfiguration.instancesPerRenderer)
    (hfit : InInt (s.currentConfiguration.quadSize + s.configuration.increment.quadSizeIncrement) ∧
      InInt (s.currentConfiguration.numQuads + s.configuration.increment.numQuadsIncrement)) :
    s.incrementConfiguration = some { s with
      currentConfiguration := { s.currentConfiguration with
        quadSize := s.currentConfiguration.quadSize + s.configuration.increment.quadSizeIncrement
        numQuads := s.currentConfiguration.numQuads + s.configuration.increment.numQuadsIncrement }
      renderers := chunks s.currentConfiguration.instancesPerRenderer
        (max (s.currentConfiguration.numQuads + s.configuration.increment.numQuadsIncrement) 0) } := by
  have h := @buildRenderers_eq
    ⟨s.currentConfiguration.numQuads + s.configuration.increment.numQuadsIncrement,
      s.currentConfiguration.quadSize + s.configuration.increment.quadSizeIncrement,
      s.currentConfiguration.instancesPerRenderer⟩ hipr
  simp only [incrementConfiguration, if_pos hfit, h, Option.map_some']

theorem report_of_inInt (s : FillRateGLES3Operation) (elapsed : Nat) (dataGatherer : Bool)
    (h : InInt (s.currentConfiguration.quadSize * s.currentConfiguration.quadSize)) :
    s.report elapsed dataGatherer = some { s with
      reports := if dataGatherer then s.reports ++ [⟨s.quadsRenderedSinceLastFpsTimestamp, elapsed,
        s.currentConfiguration.quadSize * s.currentConfiguration.quadSize⟩] else s.reports } := by
  cases dataGatherer
  · rfl
  · rw [report, if_pos rfl]
    exact if_pos h

@[simp] theorem grown_instancesPerRenderer (config : Configuration) (m : Nat) :
    (grown config m).instancesPerRenderer = config.instancesPerRenderer := rfl

theorem grown_succ (config : Configuration) (m : Nat) :
    grown config (m + 1) = { grown config m with
      quadSize := (grown config m).quadSize + config.increment.quadSizeIncrement
      numQuads := (grown config m).numQuads + config.increment.numQuadsIncrement } := by
  simp only [grown, Int.natCast_add, Int.ofNat_one, Int.add_mul, Int.one_mul, Int.add_assoc]

theorem succ_div_mod_of_last {k n : Nat} (hk : 0 < k) (h : n % k + 1 = k) :
    (n + 1) / k = n / k + 1 ∧ (n + 1) % k = 0 :=
  (Nat.div_mod_unique hk).2 ⟨by have := Nat.mod_add_div n k; rw [Nat.mul_add]; omega, hk⟩

theorem succ_div_mod_of_lt {k n : Nat} (hk : 0 < k) (h : n % k + 1 < k) :
    (n + 1) / k = n / k ∧ (n + 1) % k = n % k + 1 :=
  (Nat.div_mod_unique hk).2 ⟨by have := Nat.mod_add_div n k; omega, h⟩

theorem OnSchedule.onHeartbeat (hs : OnSchedule config elapsed n s)
    (hp : 0 < config.increment.period) (he : 0 < elapsed)
    (hipr : 0 < config.instancesPerRenderer)
    (hfit : ∀ m ≤ (n + 1) / heartbeatsPerIncrement config.increment.period elapsed,
      Fits (grown config m))
    (dataGatherer : Bool) :
    ∃ s', s.onHeartbeat elapsed dataGatherer = some s' ∧ OnSchedule config elapsed (n + 1) s' := by
  have hrep := report_of_inInt s elapsed dataGatherer (by
    rw [hs.current]
    exact (hfit _ (Nat.div_le_div_right n.le_succ)).2.2)
  obtain ⟨cfg, cur, frames, quads, time, rs, reports⟩ := s
  obtain ⟨hc, hcur, htime, hren, -⟩ := hs
  dsimp only at hc hcur htime hren
  subst hc hcur htime hren
  have hiff := @heartbeatsPerIncrement_le_iff cfg.increment.period elapsed he
  have hk : 0 < heartbeatsPerIncrement cfg.increment.period elapsed :=
    Nat.pos_of_ne_zero fun h0 => by
      have := (hiff 0).1 (by omega)
      omega
  have hr := Nat.mod_lt n hk
  by_cases hlast : n % heartbeatsPerIncrement cfg.increment.period elapsed + 1 =
      heartbeatsPerIncrement cfg.increment.period elapsed
  · obtain ⟨hdiv, hmod⟩ := succ_div_mod_of_last hk hlast
    have hcond : 0 < cfg.increment.period ∧ cfg.increment.period * 1000000000 ≤
        ((n % heartbeatsPerIncrement cfg.increment.period elapsed * elapsed + elapsed : Nat) : Int) :=
      ⟨hp, by rw [← Nat.succ_mul]; exact (hiff _).1 hlast.ge⟩
    have hnext := hfit _ hdiv.ge
    simp only [grown_succ, Fits] at hnext
    simp only [onHeartbeat, hrep, Option.some_bind,
      if_pos hcond, incrementConfiguration_eq, grown_instancesPerRenderer, hipr, hnext.1,
      hnext.2.1, and_self, Option.map_some']
    refine ⟨_, rfl, rfl, ?_, ?_, rfl, ?_⟩
    · rw [hdiv, grown_succ]
      rfl
    · rw [hmod, Nat.zero_mul]
    · simp
  · have hlt : n % heartbeatsPerIncrement cfg.increment.period elapsed + 1 <
        heartbeatsPerIncrement cfg.increment.period elapsed := by omega
    obtain ⟨hdiv, hmod⟩ := succ_div_mod_of_lt hk hlt
    have hcond : ¬(0 < cfg.increment.period ∧ cfg.increment.period * 1000000000 ≤
        ((n % heartbeatsPerIncrement cfg.increment.period elapsed * elapsed + elapsed : Nat) : Int)) :=
      fun ⟨_, h⟩ => absurd ((hiff _).2 (by rwa [Nat.succ_mul])) (by omega)
    simp only [onHeartbeat, hrep, Option.some_bind,
      if_neg hcond, Option.map_some']
    refine ⟨_, rfl, rfl, by rw [hdiv], by rw [hmod, Nat.succ_mul], rfl, by simp⟩

theorem OnSchedule.run (hp : 0 < config.increment.period) (he : 0 < elapsed)
    (hipr : 0 < config.instancesPerRenderer) (calls : List Call)
    (hcalls : ∀ c ∈ calls, c = .draw ∨ ∃ g, c = .onHeartbeat elapsed g)
    (hfits : ∀ m ≤ (n + calls.countP Call.isHeartbeat) /
      heartbeatsPerIncrement config.increment.period elapsed, Fits (grown config m))
    (hs : OnSchedule config elapsed n s) :
    ∃ s', s.run calls = some s' ∧
      OnSchedule config elapsed (n + calls.countP Call.isHeartbeat) s' := by
  induction calls generalizing n s with
  | nil => exact ⟨s, rfl, hs⟩
  | cons c calls ih =>
    have hrest := fun c' h => hcalls c' (List.mem_cons_of_mem _ h)
    rcases hcalls c (List.mem_cons_self _ _) with rfl | ⟨g, rfl⟩
    · have hfits' : ∀ m ≤ (n + calls.countP Call.isHeartbeat) /
          heartbeatsPerIncrement config.increment.period elapsed, Fits (grown config m) := by
        simpa [Call.isHeartbeat] using hfits
      obtain ⟨s', hrun, hs'⟩ := ih hrest hfits' (hs.draw hipr)
      exact ⟨s', hrun, by simpa [Call.isHeartbeat] using hs'⟩
    · have hcount : n + (Call.onHeartbeat elapsed g :: calls).countP Call.isHeartbeat =
          n + 1 + calls.countP Call.isHeartbeat := by
        simp [Call.isHeartbeat, Nat.add_assoc, Nat.add_comm 1]
      rw [hcount] at hfits ⊢
      obtain ⟨s₁, h₁, hs₁⟩ := hs.onHeartbeat hp he hipr
        (fun m hm => hfits m (hm.trans (Nat.div_le_div_right (Nat.le_add_right _ _)))) g
      obtain ⟨s', hrun, hs'⟩ := ih hrest hfits hs₁
      exact ⟨s', by simp only [run, handle, h₁, Option.some_bind, hrun], hs'⟩

end Schedule

theorem grown_zero (config : Configuration) : grown config 0 = config.toBaseConfiguration := by
  simp [grown]

/-- Over heartbeats of `elapsed` nanoseconds each, with any draws between them, the operation
never hangs, and after `n` heartbeats its configuration has grown `n / k` times, `k` being the
number of heartbeats that reach the period, as long as every configuration it grows to keeps
its `int` arithmetic in range. The time past the period is dropped at each increment, so when
`elapsed` does not divide the period the configuration grows less often than once a period. -/
theorem heartbeat_increments_on_schedule (config : Configuration)
    (hp : 0 < config.increment.period) (hipr : 0 < config.instancesPerRenderer)
    (elapsed : Nat) (he : 0 < elapsed) (calls : List Call)
    (hcalls : ∀ c ∈ calls, c = .draw ∨ ∃ g, c = .onHeartbeat elapsed g)
    (hfits : ∀ m ≤ calls.countP Call.isHeartbeat /
      heartbeatsPerIncrement config.increment.period elapsed, Fits (grown config m)) :
    ∃ s, initial.run (.onGlContextReady config true :: calls) = some s ∧
      OnSchedule config elapsed (calls.countP Call.isHeartbeat) s := by
  have hready : initial.onGlContextReady config true = some ⟨config, config.toBaseConfiguration,
      0, 0, 0, chunks config.instancesPerRenderer (max config.numQuads 0), []⟩ := by
    simp only [onGlContextReady, if_true, buildRenderers_eq hipr, Option.map_some']
    rfl
  have hs₀ : OnSchedule config elapsed 0 ⟨config, config.toBaseConfiguration, 0, 0, 0,
      chunks config.instancesPerRenderer (max config.numQuads 0), []⟩ :=
    ⟨rfl, by rw [Nat.zero_div, grown_zero], by simp, rfl, by simp⟩
  obtain ⟨s, hrun, hs⟩ := OnSchedule.run hp he hipr calls hcalls (by simpa using hfits) hs₀
  exact ⟨s, by simp only [run, handle, hready, Option.some_bind, hrun], by simpa using hs⟩

theorem heartbeat_increments_on_schedule_scenario :
    0 < ({ numQuads := 100, increment := ⟨1, 10, 2⟩ } : Configuration).increment.period ∧
      0 < ({ numQuads := 100, increment := ⟨1, 10, 2⟩ } : Configuration).instancesPerRenderer ∧
      0 < 1000000000 ∧
      (∀ c ∈ [Call.draw, .onHeartbeat 1000000000 true, .draw],
        c = .draw ∨ ∃ g, c = .onHeartbeat 1000000000 g) ∧
      (∀ m ≤ [Call.draw, .onHeartbeat 1000000000 true, .draw].countP Call.isHeartbeat /
        heartbeatsPerIncrement 1 1000000000,
        Fits (grown { numQuads := 100, increment := ⟨1, 10, 2⟩ } m)) ∧
      ∃ s, initial.run (.onGlContextReady { numQuads := 100, increment := ⟨1, 10, 2⟩ } true ::
          [.draw, .onHeartbeat 1000000000 true, .draw]) = some s ∧
        OnSchedule { numQuads := 100, increment := ⟨1, 10, 2⟩ } 1000000000
          ([Call.draw, .onHeartbeat 1000000000 true, .draw].countP Call.isHeartbeat) s :=
  have hfits : ∀ m ≤ [Call.draw, .onHeartbeat 1000000000 true, .draw].countP Call.isHeartbeat /
      heartbeatsPerIncrement 1 1000000000,
      Fits (grown { numQuads := 100, increment := ⟨1, 10, 2⟩ } m) := by decide
  ⟨by decide, by decide, by decide, by simp, hfits,
    heartbeat_increments_on_schedule _ (by decide) (by decide) _ (by decide) _ (by simp) hfits⟩

end FillRateGLES3Operation

end FillRate
