import Mathlib.Data.List.Basic

/-!
# Loading and unloading the native code of GameActivity

`loadNativeCode_native` opens the game's library, makes a `NativeCode`, takes the thread's
`ALooper`, opens the work pipe and watches its read end, and takes two global references;
the destructor run by `unloadNativeCode_native`, or at once on a failure, gives them back but
for the library. The model records the calls that take, use or give back a resource. Reading a
member the constructor leaves as `new` left it has no result.
-/

namespace GameActivity.Loader

/-- A pointer member of `NativeCode`: never written since `new`, null, or a handle. -/
inductive Pointer
  | uninitialized
  | null
  | handle (h : Nat)
  deriving DecidableEq, Repr

inductive GlobalRef
  | javaGameActivity
  | javaAssetManager
  deriving DecidableEq, Repr

/-- A call that takes, uses or gives back a resource. The path's UTF characters are taken by
`GetStringUTFChars`, given back by `ReleaseStringUTFChars` and read by the `dlopen` error log;
`dlopen` is recorded when it returns a handle. -/
inductive Effect
  | getPath
  | dlopen
  | releasePath
  | readPath
  | looperAcquire (looper : Nat)
  | looperRelease (looper : Pointer)
  | pipe (readFd writeFd : Int)
  | addFd (looper : Nat) (fd : Int)
  | removeFd (looper : Nat) (fd : Int)
  | close (fd : Int)
  | newGlobalRef (ref : GlobalRef)
  | deleteGlobalRef (ref : GlobalRef)
  deriving Repr

/-- What the platform answers `loadNativeCode_native`: whether `dlopen` and `dlsym` find the
library and its create function, the looper of the thread, the descriptors `pipe` opens, and
whether `GetJavaVM` succeeds. -/
structure Platform where
  dlopen : Bool
  dlsym : Bool
  looper : Option Nat
  pipe : Option (Nat × Nat)
  getJavaVM : Bool

/-- The members of `NativeCode` that its destructor reads. -/
structure NativeCode where
  env : Bool
  javaGameActivity : Bool
  javaAssetManager : Pointer
  looper : Pointer
  mainWorkRead : Int
  mainWorkWrite : Int
  deriving DecidableEq, Repr

namespace NativeCode

/-- `new NativeCode(handle, createFunc)`. -/
def new : NativeCode := ⟨false, false, .uninitialized, .uninitialized, -1, -1⟩

/-- The global references `~NativeCode` deletes when `env` is set. -/
def deleteRefs (code : NativeCode) : Option (List Effect) :=
  if code.env then
    let activity := if code.javaGameActivity then [Effect.deleteGlobalRef .javaGameActivity]
      else []
    match code.javaAssetManager with
    | .uninitialized => none
    | .null => some activity
    | .handle _ => some (activity ++ [.deleteGlobalRef .javaAssetManager])
  else some []

/-- `if (looper != NULL && mainWorkRead >= 0) ALooper_removeFd(looper, mainWorkRead)`. -/
def removeWatch (code : NativeCode) : Option (List Effect) :=
  match code.looper with
  | .uninitialized => none
  | .null => some []
  | .handle l => some (if 0 ≤ code.mainWorkRead then [.removeFd l code.mainWorkRead] else [])

/-- `~NativeCode()`: the calls it makes, or `none` when it reads a member never written. -/
def destroy (code : NativeCode) : Option (List Effect) :=
  code.deleteRefs.bind fun refs => code.removeWatch.map fun watch =>
    refs ++ watch ++ [.looperRelease code.looper] ++
      (if 0 ≤ code.mainWorkRead then [.close code.mainWorkRead] else []) ++
      (if 0 ≤ code.mainWorkWrite then [.close code.mainWorkWrite] else [])

end NativeCode

/-- `loadNativeCode_native`: the calls it makes and the `NativeCode` it returns, `none` for the
`0` of a failure; `none` overall when the destructor it runs reads a member never written. -/
def loadNativeCodeNative (p : Platform) : Option (List Effect × Option NativeCode) :=
  if !p.dlopen then some ([.getPath, .releasePath, .readPath], none)
  else
    let opened := [Effect.getPath, .dlopen, .releasePath]
    if !p.dlsym then NativeCode.new.destroy.map fun d => (opened ++ d, none)
    else match p.looper with
      | none => { NativeCode.new with looper := .null }.destroy.map fun d => (opened ++ d, none)
      | some l =>
        let code := { NativeCode.new with looper := .handle l }
        let acquired := opened ++ [.looperAcquire l]
        match p.pipe with
        | none => code.destroy.map fun d => (acquired ++ d, none)
        | some (r, w) =>
          let code := { code with mainWorkRead := r, mainWorkWrite := w }
          let registered := acquired ++ [.pipe r w, .addFd l r]
          if !p.getJavaVM then code.destroy.map fun d => (registered ++ d, none)
          else some (registered ++ [.newGlobalRef .javaGameActivity, .newGlobalRef .javaAssetManager],
            some { code with env := true, javaGameActivity := true, javaAssetManager := .handle 0 })

/-- `unloadNativeCode_native` on the handle `loadNativeCode_native` returned. -/
def unloadNativeCodeNative : Option NativeCode → Option (List Effect)
  | none => some []
  | some code => code.destroy

/-- The calls of loading the native code and unloading it again. -/
def loadThenUnload (p : Platform) : Option (List Effect) :=
  (loadNativeCodeNative p).bind fun (effects, code) =>
    (unloadNativeCodeNative code).map (effects ++ ·)

inductive Resource
  | path
  | library
  | looper (looper : Pointer)
  | watch (looper : Nat) (fd : Int)
  | fd (fd : Int)
  | globalRef (ref : GlobalRef)
  deriving DecidableEq, Repr

namespace Effect

def takes : Effect → List Resource
  | getPath => [.path]
  | dlopen => [.library]
  | looperAcquire l => [.looper (.handle l)]
  | pipe r w => [.fd r, .fd w]
  | addFd l fd => [.watch l fd]
  | newGlobalRef ref => [.globalRef ref]
  | _ => []

/-- The resource a call uses or gives back, which has to be held. -/
def needs : Effect → Option Resource
  | releasePath | readPath => some .path
  | looperRelease l => some (.looper l)
  | removeFd l fd => some (.watch l fd)
  | close fd => some (.fd fd)
  | deleteGlobalRef ref => some (.globalRef ref)
  | _ => none

/-- Whether a call gives back the resource it needs; the log only reads it. -/
def givesBack : Effect → Bool
  | readPath => false
  | _ => true

/-- The resources held after one more call, or `none` when it needs one that is not held. -/
def track (held : List Resource) (e : Effect) : Option (List Resource) :=
  let held := e.takes ++ held
  match e.needs with
  | none => some held
  | some r => if r ∈ held then some (if e.givesBack then held.erase r else held) else none

end Effect

/-- The resources held after the calls. -/
def holding (held : List Resource) : List Effect → Option (List Resource)
  | [] => some held
  | e :: es => (e.track held).bind (holding · es)

/-- The calls use and give back only resources that are held, and give back all they take. -/
def Sound (effects : List Effect) : Prop := holding [] effects = some []

instance : DecidablePred Sound := fun _ => inferInstanceAs (Decidable (_ = _))

/-- When `dlopen`, `dlsym` and `ALooper_forThread` succeed, loading and unloading the native
code gives back everything it takes, whatever `pipe` and `GetJavaVM` answer: the looper it
acquired, the descriptor it watches, both ends of the pipe and both global references. Only
the library stays open: the destructor's `dlclose` is commented out. -/
theorem loadThenUnload_keeps_only_library (p : Platform) (hopen : p.dlopen = true)
    (hsym : p.dlsym = true) (hlooper : p.looper.isSome = true) :
    ∃ effects, loadThenUnload p = some effects ∧ holding [] effects = some [.library] := by
  obtain ⟨dlopen, dlsym, looper, pipe, getJavaVM⟩ := p
  obtain ⟨l⟩ | ⟨l⟩ := looper
  · cases hlooper
  dsimp only at hopen hsym
  subst hopen hsym
  rcases pipe with _ | ⟨r, w⟩
  · exact ⟨_, rfl, by simp [holding, Effect.track, Effect.needs, Effect.takes, Effect.givesBack]⟩
  · cases getJavaVM <;> exact ⟨_, rfl, by simp [holding, Effect.track, Effect.needs,
      Effect.takes, Effect.givesBack]⟩

/-- The three failures before the pipe misuse a resource. When `dlopen` fails, the error log
prints the path after `ReleaseStringUTFChars` has given its characters back. When `dlsym` finds
no create function, deleting the new `NativeCode` reads its `looper`, which nothing has
written. When the thread has no looper, the destructor calls `ALooper_release` on the null
looper, which nothing acquired. -/
theorem early_failures_misuse_resources (p : Platform) :
    (p.dlopen = false → loadThenUnload p = some [.getPath, .releasePath, .readPath]) ∧
    (p.dlopen = true → p.dlsym = false → loadThenUnload p = none) ∧
    (p.dlopen = true → p.dlsym = true → p.looper = none →
      loadThenUnload p = some [.getPath, .dlopen, .releasePath, .looperRelease .null]) ∧
    ¬Sound [.getPath, .releasePath, .readPath] ∧
    ¬Sound [.getPath, .dlopen, .releasePath, .looperRelease .null] := by
  obtain ⟨dlopen, dlsym, looper, pipe, getJavaVM⟩ := p
  refine ⟨fun h => ?_, fun h₁ h₂ => ?_, fun h₁ h₂ h₃ => ?_, by decide, by decide⟩
  · dsimp only at h
    subst h
    rfl
  · dsimp only at h₁ h₂
    subst h₁ h₂
    rfl
  · dsimp only at h₁ h₂ h₃
    subst h₁ h₂ h₃
    rfl

end GameActivity.Loader
