import Mathlib.Data.List.Nodup

/-!
# The JNI helpers of Tuning Fork

`jni::String` owns a local reference and the UTF characters it takes from it, and `JNIHelper`
keeps the references its calls return in `objs_` until its destructor. Both run over the local
references of one native frame; deleting, reading or releasing what the frame does not hold is a
fault (`none`). What the JVM answers, and whether the compiler elides the copy in
`CallStringMethod`'s `return s;`, are arguments of each call; method ids, names and the values
returned to the caller are left out.
-/

namespace TuningFork.Jni

/-- A local reference; `none` is `NULL`. -/
abbrev Ref := Option Nat

/-- The local references of the native frame and the references whose UTF characters are
held. -/
structure Frame where
  next : Nat
  live : List Nat
  chars : List Nat

namespace Frame

/-- A call that returns a new local reference. -/
def newRef (f : Frame) : Nat × Frame := (f.next, ⟨f.next + 1, f.next :: f.live, f.chars⟩)

/-- A call that returns a new local reference or, when `null`, `NULL`. -/
def answer (f : Frame) (null : Bool) : Ref × Frame :=
  if null then (none, f) else (some f.next, f.newRef.2)

/-- `DeleteLocalRef`; deleting `NULL` does nothing. -/
def deleteLocalRef (f : Frame) : Ref → Option Frame
  | none => some f
  | some r => if r ∈ f.live then some { f with live := f.live.erase r } else none

/-- `GetStringUTFChars`. -/
def getStringUTFChars (f : Frame) : Ref → Option Frame
  | none => none
  | some r => if r ∈ f.live then some { f with chars := r :: f.chars } else none

/-- `ReleaseStringUTFChars`. -/
def releaseStringUTFChars (f : Frame) : Ref → Option Frame
  | none => none
  | some r => if r ∈ f.chars then some { f with chars := f.chars.erase r } else none

/-- Every live reference is below the next fresh one. -/
def Fresh (f : Frame) : Prop := ∀ r ∈ f.live, r < f.next

/-- `f'` is `f` with the fresh references `new` added and the same characters held. -/
structure Adds (f f' : Frame) (new : List Nat) : Prop where
  live : f'.live = new ++ f.live
  chars : f'.chars = f.chars
  nodup : new.Nodup
  next_le : f.next ≤ f'.next
  fresh : ∀ r ∈ new, f.next ≤ r ∧ r < f'.next

theorem Adds.refl (f : Frame) : Adds f f [] :=
  ⟨rfl, rfl, List.nodup_nil, le_rfl, by simp⟩

theorem Adds.trans {f₁ f₂ f₃ : Frame} {new₁ new₂ : List Nat} (h₁ : Adds f₁ f₂ new₁)
    (h₂ : Adds f₂ f₃ new₂) : Adds f₁ f₃ (new₂ ++ new₁) where
  live := by rw [h₂.live, h₁.live, List.append_assoc]
  chars := h₂.chars.trans h₁.chars
  nodup := List.nodup_append.mpr ⟨h₂.nodup, h₁.nodup, fun a ha hb => by
    have := h₂.fresh a ha; have := h₁.fresh a hb; omega⟩
  next_le := h₁.next_le.trans h₂.next_le
  fresh r hr := by
    rcases List.mem_append.mp hr with hr | hr
    · have := h₂.fresh r hr; have := h₁.next_le; omega
    · have := h₁.fresh r hr; have := h₂.next_le; omega

theorem Adds.fresh_of {f f' : Frame} {new : List Nat} (h : Adds f f' new) (hf : Fresh f) :
    Fresh f' := by
  intro r hr
  rw [h.live] at hr
  rcases List.mem_append.mp hr with hr | hr
  · exact (h.fresh r hr).2
  · exact (hf r hr).trans_le h.next_le

theorem adds_newRef (f : Frame) : Adds f f.newRef.2 [f.newRef.1] :=
  ⟨rfl, rfl, List.nodup_singleton _, Nat.le_succ _, by simp [newRef]⟩

theorem adds_answer (f : Frame) (null : Bool) : Adds f (f.answer null).2 (f.answer null).1.toList := by
  unfold answer
  cases null
  · exact adds_newRef f
  · exact Adds.refl f

theorem adds_bump (f : Frame) : Adds f { f with next := f.next + 1 } [] :=
  ⟨rfl, rfl, List.nodup_nil, Nat.le_succ _, by simp⟩

theorem deleteLocalRef_of_mem {f : Frame} {r : Nat} (h : r ∈ f.live) :
    f.deleteLocalRef (some r) = some { f with live := f.live.erase r } := if_pos h

/-- Taking a fresh reference and deleting it again leaves the frame as it was, but for the
next fresh reference. -/
theorem deleteLocalRef_newRef (f : Frame) :
    f.newRef.2.deleteLocalRef (some f.newRef.1) = some { f with next := f.next + 1 } := by
  rw [deleteLocalRef_of_mem (List.mem_cons_self _ _)]
  simp only [newRef, List.erase_cons_head]

/-- Taking the UTF characters of a fresh reference and releasing them again. -/
theorem releaseStringUTFChars_getStringUTFChars_newRef (f : Frame) :
    (f.newRef.2.getStringUTFChars (some f.newRef.1)).bind (·.releaseStringUTFChars (some f.newRef.1)) =
      some f.newRef.2 := by
  simp only [getStringUTFChars, releaseStringUTFChars, newRef, List.mem_cons_self, if_true,
    Option.some_bind, List.erase_cons_head]

end Frame

open Frame

/-- `jni::String`: the `jstring` it owns and whether `c_str_` is set. -/
structure String where
  jStr : Ref
  cStr : Bool

namespace String

/-- `String(JNIEnv*, jstring)`. -/
def new (s : Ref) : String := ⟨s, false⟩

/-- `String(String&&)`: the new string, and `rhs` as it leaves it. -/
def move (rhs : String) : String × String := (⟨rhs.jStr, rhs.cStr⟩, rhs)

/-- `String::C()`: the UTF characters are taken on the first call. -/
def c (s : String) (f : Frame) : Option (String × Frame) :=
  if !s.cStr && s.jStr.isSome then (f.getStringUTFChars s.jStr).map fun f => (⟨s.jStr, true⟩, f)
  else some (s, f)

/-- `~String()`. -/
def destroy (s : String) (f : Frame) : Option Frame :=
  (if s.cStr then f.releaseStringUTFChars s.jStr else some f).bind (·.deleteLocalRef s.jStr)

/-- A temporary: read with `C()` when `useC`, then destroyed. -/
def useTemporary (useC : Bool) (s : String) (f : Frame) : Option Frame :=
  (if useC then s.c f else some (s, f)).bind fun (s, f) => s.destroy f

/-- A string that owns a live reference, read with `C()` or not, gives back the reference and
the characters it took. -/
theorem useTemporary_new {f : Frame} {r : Nat} (hr : r ∈ f.live) (useC : Bool) :
    useTemporary useC (new (some r)) f = f.deleteLocalRef (some r) := by
  cases useC
  · rfl
  · simp only [useTemporary, c, new, destroy, getStringUTFChars, releaseStringUTFChars, if_pos hr,
      Bool.not_false, Option.isSome_some, Bool.and_self, if_true, Option.map_some', Option.some_bind,
      List.mem_cons_self, List.erase_cons_head]

theorem useTemporary_null (useC : Bool) (f : Frame) : useTemporary useC (new none) f = some f := by
  cases useC <;> rfl

end String

/-- The members of `JNIHelper` that hold references. -/
structure JNIHelper where
  objs : List Ref
  activityClassLoader : Ref

/-- What the JVM answers a `FindClass`: whether `env->FindClass` finds the class, and else
whether the activity's class loader does. -/
structure ClassLookup where
  found : Bool
  loaded : Bool

/-- The local reference a successful lookup leaves, which nothing deletes. -/
def ClassLookup.leaks (l : ClassLookup) : Nat := if l.found || l.loaded then 1 else 0

namespace JNIHelper

/-- `JNIHelper(env, activity)`: the activity's class, its class loader (`NULL` when `null`),
and the class `java/lang/ClassLoader`. -/
def new (null : Bool) (f : Frame) : JNIHelper × Frame :=
  let (_activityClazz, f) := f.newRef
  let (loader, f) := f.answer null
  let (_classLoader, f) := f.newRef
  (⟨[], loader⟩, f)

/-- `JNIHelper::FindClass`. -/
def findClass (f : Frame) (l : ClassLookup) : Option (Ref × Frame) :=
  if l.found then let (c, f) := f.newRef; some (some c, f)
  else
    let (classJname, f) := f.newRef
    let (jniClass, f) := f.answer !l.loaded
    (f.deleteLocalRef (some classJname)).map fun f => (jniClass, f)

/-- `JNIHelper::NewObjectV`, and `NewObject`, which passes its arguments on to it. -/
def newObjectV (h : JNIHelper) (l : ClassLookup) (null : Bool) (f : Frame) :
    Option ((Ref × Ref) × JNIHelper × Frame) :=
  (findClass f l).bind fun (clz, f) =>
    if clz.isNone then none
    else
      let (o, f) := f.answer null
      some ((clz, o), { h with objs := h.objs ++ [o] }, f)

/-- `JNIHelper::CallObjectMethod`. -/
def callObjectMethod (h : JNIHelper) (null : Bool) (f : Frame) : Ref × JNIHelper × Frame :=
  let (o, f) := f.answer null
  (o, { h with objs := h.objs ++ [o] }, f)

/-- `JNIHelper::CallStringMethod`: `return s;` builds the result from `s` with the move
constructor and destroys `s`, unless the compiler elides the copy. -/
def callStringMethod (null elided : Bool) (f : Frame) : Option (String × Frame) :=
  let (o, f) := f.answer null
  let s := String.new o
  if elided then some (s, f)
  else
    let (result, s) := s.move
    (s.destroy f).map fun f => (result, f)

/-- `JNIHelper::Cast`: `none` for an empty class name. -/
def cast (clz : Option ClassLookup) (o : Ref) (f : Frame) : Option ((Ref × Ref) × Frame) :=
  match clz with
  | none => let (c, f) := f.newRef; some ((some c, o), f)
  | some l => (findClass f l).map fun (c, f) => ((c, o), f)

/-- `JNIHelper::NewString`. -/
def newString (f : Frame) : String × Frame :=
  let (js, f) := f.newRef
  (String.new (some js), f)

/-- `JNIHelper::CheckForException`, with whether an exception is pending and what the JVM
answers the lookup of `java/lang/Object`; the exception's `toString` is not `NULL`. -/
def checkForException (pending : Bool) (l : ClassLookup) (f : Frame) : Option (Bool × Frame) :=
  if pending then
    let (_exception, f) := f.newRef
    (findClass f l).bind fun (cls, f) =>
      if cls.isNone then none
      else
        let (s, f) := f.newRef
        (((f.getStringUTFChars (some s)).bind (·.releaseStringUTFChars (some s))).bind
          (·.deleteLocalRef (some s))).map fun f => (true, f)
  else some (false, f)

/-- `~JNIHelper()`. -/
def destroy (h : JNIHelper) (f : Frame) : Option Frame :=
  h.objs.foldlM (fun f o => f.deleteLocalRef o) f

/-- The references `objs_` holds. -/
def owned (h : JNIHelper) : List Nat := h.objs.filterMap id

end JNIHelper

/-- One call on the helper. A string it returns is a temporary, read with `C()` when `useC`. -/
inductive Call
  | findClass (l : ClassLookup)
  | newObject (l : ClassLookup) (null : Bool)
  | callObjectMethod (null : Bool)
  | callStringMethod (null elided useC : Bool)
  | cast (clz : Option ClassLookup)
  | callVoidMethod
  | callIntMethod
  | newString (useC : Bool)
  | checkForException (pending : Bool) (l : ClassLookup)

namespace Call

/-- The local references a call leaves live that `objs_` does not hold. -/
def leaks : Call → Nat
  | findClass l => l.leaks
  | newObject l _ => l.leaks
  | cast none => 1
  | cast (some l) => l.leaks
  | checkForException true l => 1 + l.leaks
  | _ => 0

/-- The calls that do not fault: a class the call goes on to use is found, and a string
returned by moving it holds `NULL`. -/
def Safe : Call → Prop
  | newObject l _ => l.found || l.loaded
  | callStringMethod null elided _ => elided || null
  | checkForException true l => l.found || l.loaded
  | _ => True

end Call

namespace JNIHelper

/-- One call; the objects and classes it returns are dropped. -/
def step (h : JNIHelper) (f : Frame) : Call → Option (JNIHelper × Frame)
  | .findClass l => (findClass f l).map fun (_, f) => (h, f)
  | .newObject l null => (h.newObjectV l null f).map fun (_, h, f) => (h, f)
  | .callObjectMethod null => some (h.callObjectMethod null f).2
  | .callStringMethod null elided useC =>
    (callStringMethod null elided f).bind fun (s, f) => (s.useTemporary useC f).map (h, ·)
  | .cast clz => (cast clz none f).map fun (_, f) => (h, f)
  | .callVoidMethod => some (h, f)
  | .callIntMethod => some (h, f)
  | .newString useC => let (s, f) := newString f; (s.useTemporary useC f).map (h, ·)
  | .checkForException pending l => (checkForException pending l f).map fun (_, f) => (h, f)

/-- The calls in order. -/
def run (h : JNIHelper) (f : Frame) : List Call → Option (JNIHelper × Frame)
  | [] => some (h, f)
  | c :: cs => (h.step f c).bind fun (h, f) => run h f cs

theorem owned_push (h : JNIHelper) (o : Ref) :
    ({ h with objs := h.objs ++ [o] } : JNIHelper).owned = h.owned ++ o.toList := by
  cases o <;> simp [owned, List.filterMap_append]

theorem findClass_found (f : Frame) (loaded : Bool) :
    findClass f ⟨true, loaded⟩ = some (some f.next, f.newRef.2) := rfl

theorem findClass_loaded (f : Frame) :
    findClass f ⟨false, true⟩ = some (some (f.next + 1), ⟨f.next + 2, (f.next + 1) :: f.live, f.chars⟩) := by
  simp [findClass, newRef, answer, deleteLocalRef, List.erase_cons_tail]

theorem findClass_not_loaded (f : Frame) :
    findClass f ⟨false, false⟩ = some (none, { f with next := f.next + 1 }) := by
  simp [findClass, newRef, answer, deleteLocalRef]

/-- A lookup adds the class it finds, if any, as a fresh reference; the name it makes for the
activity's class loader is deleted again. -/
theorem findClass_spec (f : Frame) (l : ClassLookup) :
    ∃ c f', findClass f l = some (c, f') ∧ Adds f f' c.toList ∧ c.toList.length = l.leaks := by
  obtain ⟨_ | _, _ | _⟩ := l
  · exact ⟨_, _, findClass_not_loaded f, adds_bump f, rfl⟩
  · exact ⟨_, _, findClass_loaded f, ⟨rfl, rfl, List.nodup_singleton _, Nat.le_add_right _ _, by simp⟩, rfl⟩
  · exact ⟨_, _, findClass_found f false, adds_newRef f, rfl⟩
  · exact ⟨_, _, findClass_found f true, adds_newRef f, rfl⟩

/-- A lookup that a safe call goes on to use finds its class. -/
theorem findClass_spec_of_found (f : Frame) {l : ClassLookup} (hl : (l.found || l.loaded) = true) :
    ∃ c f', findClass f l = some (some c, f') ∧ Adds f f' [c] := by
  obtain ⟨c, f', hfind, hadds, hlen⟩ := findClass_spec f l
  rw [ClassLookup.leaks, if_pos hl] at hlen
  cases c with
  | none => exact absurd hlen (by decide)
  | some c => exact ⟨c, f', hfind, hadds⟩

theorem callStringMethod_elided (f : Frame) :
    callStringMethod false true f = some (String.new (some f.newRef.1), f.newRef.2) := rfl

theorem callStringMethod_null (elided : Bool) (f : Frame) :
    callStringMethod true elided f = some (String.new none, f) := by
  cases elided <;> rfl

/-- A fresh string read with `C()` or not and destroyed leaves the frame as it was. -/
theorem useTemporary_newRef (useC : Bool) (f : Frame) :
    (String.new (some f.newRef.1)).useTemporary useC f.newRef.2 = some { f with next := f.next + 1 } := by
  rw [String.useTemporary_new (List.mem_cons_self f.next f.live), deleteLocalRef_newRef]

/-- With an exception pending, its reference and the class of `java/lang/Object` stay; the
string of its message is read and given back. -/
theorem checkForException_spec (f : Frame) {l : ClassLookup} (hl : (l.found || l.loaded) = true) :
    ∃ c f', checkForException true l f = some (true, { f' with next := f'.next + 1 }) ∧
      Adds f.newRef.2 f' [c] := by
  obtain ⟨c, f', hfind, hadds⟩ := findClass_spec_of_found f.newRef.2 hl
  refine ⟨c, f', ?_, hadds⟩
  simp only [checkForException, if_true, hfind, Option.some_bind, Option.isNone_some, Bool.false_eq_true,
    if_false, releaseStringUTFChars_getStringUTFChars_newRef, deleteLocalRef_newRef, Option.map_some']

/-- What one safe call does: it adds the fresh references `new`, of which `objs_` keeps
`stored`, and leaves `c.leaks` more. -/
theorem step_spec (h : JNIHelper) (f : Frame) {c : Call} (hc : c.Safe) :
    ∃ h' f' new stored, h.step f c = some (h', f') ∧ Adds f f' new ∧
      h'.owned = h.owned ++ stored ∧ List.Sublist stored new ∧ new.length = c.leaks + stored.length := by
  cases c with
  | findClass l =>
    obtain ⟨c, f', hfind, hadds, hlen⟩ := findClass_spec f l
    exact ⟨h, f', _, [], by simp only [step, hfind, Option.map_some'], hadds,
      (List.append_nil _).symm, List.nil_sublist _, hlen⟩
  | newObject l null =>
    have hl : (l.found || l.loaded) = true := hc
    obtain ⟨c, f₁, hfind, hadds⟩ := findClass_spec_of_found f hl
    refine ⟨_, _, _, _, ?_, hadds.trans (adds_answer f₁ null), owned_push h _,
      List.sublist_append_left _ _, ?_⟩
    · simp only [step, newObjectV, hfind, Option.some_bind, Option.isNone_some, Bool.false_eq_true,
        if_false, Option.map_some']
    · rw [List.length_append, Call.leaks, ClassLookup.leaks, if_pos hl, List.length_singleton,
        Nat.add_comm]
  | callObjectMethod null =>
    exact ⟨_, _, _, _, rfl, adds_answer f null, owned_push h _, List.Sublist.refl _, (Nat.zero_add _).symm⟩
  | callStringMethod null elided useC =>
    cases null
    · obtain rfl : elided = true := by simpa [Call.Safe] using hc
      exact ⟨h, _, [], [], by simp only [step, callStringMethod_elided, Option.some_bind,
        useTemporary_newRef, Option.map_some'], adds_bump f, (List.append_nil _).symm,
        List.Sublist.refl _, rfl⟩
    · exact ⟨h, f, [], [], by simp only [step, callStringMethod_null, Option.some_bind,
        String.useTemporary_null, Option.map_some'], Adds.refl f, (List.append_nil _).symm,
        List.Sublist.refl _, rfl⟩
  | cast clz =>
    cases clz with
    | none => exact ⟨h, _, _, [], rfl, adds_newRef f, (List.append_nil _).symm, List.nil_sublist _, rfl⟩
    | some l =>
      obtain ⟨c, f', hfind, hadds, hlen⟩ := findClass_spec f l
      exact ⟨h, f', _, [], by simp only [step, cast, hfind, Option.map_some'], hadds,
        (List.append_nil _).symm, List.nil_sublist _, hlen⟩
  | callVoidMethod =>
    exact ⟨h, f, [], [], rfl, Adds.refl f, (List.append_nil _).symm, List.Sublist.refl _, rfl⟩
  | callIntMethod =>
    exact ⟨h, f, [], [], rfl, Adds.refl f, (List.append_nil _).symm, List.Sublist.refl _, rfl⟩
  | newString useC =>
    exact ⟨h, _, [], [], by simp only [step, newString, useTemporary_newRef, Option.map_some'],
      adds_bump f, (List.append_nil _).symm, List.Sublist.refl _, rfl⟩
  | checkForException pending l =>
    cases pending with
    | false => exact ⟨h, f, [], [], rfl, Adds.refl f, (List.append_nil _).symm, List.Sublist.refl _, rfl⟩
    | true =>
      have hl : (l.found || l.loaded) = true := hc
      obtain ⟨c, f', hexc, hadds⟩ := checkForException_spec f hl
      refine ⟨h, _, _, [], by simp only [step, hexc, Option.map_some'],
        ((adds_newRef f).trans hadds).trans (adds_bump f'), (List.append_nil _).symm,
        List.nil_sublist _, ?_⟩
      rw [Call.leaks, ClassLookup.leaks, if_pos hl]
      rfl

/-- Between calls: the frame's references are distinct and below the next fresh one, no UTF
characters are held, and `objs_` holds distinct live references, none of the caller's `base`. -/
structure Inv (base : List Nat) (h : JNIHelper) (f : Frame) : Prop where
  fresh : Fresh f
  nodup : f.live.Nodup
  chars : f.chars = []
  owned_nodup : h.owned.Nodup
  owned_live : ∀ r ∈ h.owned, r ∈ f.live
  base_live : ∀ r ∈ base, r ∈ f.live
  disjoint : ∀ r ∈ h.owned, r ∉ base

/-- Adding fresh references, some of which `objs_` keeps, preserves `Inv`. -/
theorem Inv.adds {base : List Nat} {h h' : JNIHelper} {f f' : Frame} {new stored : List Nat}
    (hinv : Inv base h f) (hadds : Adds f f' new) (howned : h'.owned = h.owned ++ stored)
    (hsub : List.Sublist stored new) : Inv base h' f' := by
  have hnew : ∀ r ∈ new, r ∉ f.live := fun r hr hl => by
    have := hadds.fresh r hr; have := hinv.fresh r hl; omega
  refine ⟨hadds.fresh_of hinv.fresh, ?_, hadds.chars.trans hinv.chars, ?_, ?_, ?_, ?_⟩
  · rw [hadds.live]
    exact List.nodup_append.mpr ⟨hadds.nodup, hinv.nodup, fun r hr hl => hnew r hr hl⟩
  · rw [howned]
    exact List.nodup_append.mpr ⟨hinv.owned_nodup, hsub.nodup hadds.nodup,
      fun r ho hs => hnew r (hsub.subset hs) (hinv.owned_live r ho)⟩
  · intro r hr
    rw [howned] at hr
    rw [hadds.live]
    rcases List.mem_append.mp hr with ho | hs
    · exact List.mem_append_right _ (hinv.owned_live r ho)
    · exact List.mem_append_left _ (hsub.subset hs)
  · exact fun r hr => hadds.live ▸ List.mem_append_right _ (hinv.base_live r hr)
  · intro r hr hb
    rw [howned] at hr
    rcases List.mem_append.mp hr with ho | hs
    · exact hinv.disjoint r ho hb
    · exact hnew r (hsub.subset hs) (hinv.base_live r hb)

/-- Over any safe calls the helper never faults and keeps `Inv`; the frame gains what the calls
leak and what `objs_` gains. -/
theorem run_spec {base : List Nat} : ∀ {h : JNIHelper} {f : Frame} {calls : List Call},
    Inv base h f → (∀ c ∈ calls, c.Safe) →
    ∃ h' f', h.run f calls = some (h', f') ∧ Inv base h' f' ∧
      f'.live.length + h.owned.length =
        f.live.length + (calls.map Call.leaks).foldr (· + ·) 0 + h'.owned.length
  | h, f, [], hinv, _ => ⟨h, f, rfl, hinv, by simp⟩
  | h, f, c :: cs, hinv, hsafe => by
    obtain ⟨h₁, f₁, new, stored, hstep, hadds, howned, hsub, hlen⟩ :=
      step_spec h f (hsafe c (List.mem_cons_self _ _))
    obtain ⟨h₂, f₂, hrun, hinv₂, hcount⟩ :=
      run_spec (hinv.adds hadds howned hsub) fun c hc => hsafe c (List.mem_cons_of_mem _ hc)
    refine ⟨h₂, f₂, by rw [run, hstep, Option.some_bind]; exact hrun, hinv₂, ?_⟩
    rw [hadds.live, howned, List.length_append, List.length_append] at hcount
    simp only [List.map_cons, List.foldr_cons]
    omega

end JNIHelper

end TuningFork.Jni
