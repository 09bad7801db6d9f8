import CameraController.CommandHandler
import Mathlib.Data.List.Count

/-! # Who owns the camera's handle?

`connect()`, `disconnect()` and the destructor of `CameraWrapper`, one call after
the other, with a record of what is passed to `gp_camera_exit` and
`gp_camera_free`.  They are the same code that `cameraStep` cuts at its calls
(`connect_steps`, `disconnect_steps`).

When `gp_camera_init` fails, `connect()` frees the handle and keeps the pointer:
the destructor then exits and frees the handle once more.  When `gp_camera_new`
fails, the pointer is whatever that leaves there.  `owned_iff`: in a run the
pointer, the flag and the library agree, and every handle is freed once, exactly
when no `connect()` fails in one of these ways. -/
namespace CameraController

open StateMachine

/-- A call that gives up a handle. -/
inductive LibraryCall where
  | exit (h : Nat)
  | free (h : Nat)
  deriving DecidableEq, Repr

/-- The handle that is passed. -/
def LibraryCall.handle : LibraryCall → Nat
  | exit h => h
  | free h => h

/-- The object, what it has passed to `gp_camera_exit` and `gp_camera_free`, oldest
first, and whether its destructor has run. -/
structure CameraOwner where
  wrapper : CameraWrapper := {}
  calls : List LibraryCall := []
  destroyed : Bool := false
  deriving DecidableEq, Repr

namespace CameraOwner

/-- `gp_camera_exit(camera, context)`. -/
def exitHandle (s : CameraOwner) (h : Nat) : CameraOwner :=
  { s with wrapper := s.wrapper.release, calls := s.calls ++ [.exit h] }

/-- `gp_camera_free(camera)`, which leaves the pointer as it is. -/
def freeHandle (s : CameraOwner) (h : Nat) : CameraOwner :=
  { s with wrapper := s.wrapper.release, calls := s.calls ++ [.free h] }

/-- `freeCamera()`. -/
def freeCamera (s : CameraOwner) : CameraOwner :=
  match s.wrapper.camera with
  | none => s
  | some h =>
    let s := (s.exitHandle h).freeHandle h
    { s with wrapper := { s.wrapper with camera := none } }

/-- `connect()`, by what `gp_camera_new`, `gp_camera_init` and `getSerialNumber()`
answer. -/
def connect (s : CameraOwner) (new : NewCamera) (initOk : Bool) (serial : String) :
    CameraOwner × Bool :=
  if s.wrapper.connected then (s, true)
  else match new with
    | .failed left => ({ s with wrapper := s.wrapper.newFailed left }, false)
    | .created =>
      let s := { s with wrapper := s.wrapper.newHandle }
      if initOk then
        ({ s with wrapper := { s.wrapper with serial, connected := true } }, true)
      else
        ((s.wrapper.camera.elim s s.freeHandle), false)

/-- `disconnect()`. -/
def disconnect (s : CameraOwner) : CameraOwner :=
  if s.wrapper.connected then
    let s := s.freeCamera
    { s with wrapper := { s.wrapper with connected := false } }
  else s

/-- `~CameraWrapper()`. -/
def destroy (s : CameraOwner) : CameraOwner := { s.freeCamera with destroyed := true }

/-- A call of a member. -/
inductive Call where
  | connect (new : NewCamera) (initOk : Bool) (serial : String)
  | disconnect
  | destroy
  deriving DecidableEq, Repr

/-- A call, which there is none of behind the destructor. -/
def step (s : CameraOwner) (c : Call) : Option CameraOwner :=
  if s.destroyed then none
  else match c with
    | .connect new initOk serial => some (s.connect new initOk serial).1
    | .disconnect => some s.disconnect
    | .destroy => some s.destroy

/-! ## The same code, cut at its calls -/

/-- The handler's steps with the camera, as a machine. -/
def cameraMachine (r : CameraWrapper × HandlerPc) (ans : CameraController.Answer) :
    Option (CameraWrapper × HandlerPc) := cameraStep r.1 r.2 ans

/-- What the steps of `connect()` are answered. -/
def connectAnswers (s : CameraOwner) (new : NewCamera) (initOk : Bool) (serial : String) :
    List Answer :=
  if s.wrapper.connected then [.nothing]
  else match new with
    | .failed left => [.newCamera (.failed left)]
    | .created =>
      .newCamera .created ::
        if initOk then [.result true, .serial serial] else [.result false, .result true]

/-- **`connect()` is what the steps from `HandlerPc.connect` do.** -/
theorem connect_steps (s : CameraOwner) (p : Purpose) (new : NewCamera) (initOk : Bool)
    (serial : String) :
    run cameraMachine (s.wrapper, .connect p) (s.connectAnswers new initOk serial) =
      some ((s.connect new initOk serial).1.wrapper,
        if (s.connect new initOk serial).2 then .connected p else .idle) := by
  by_cases hconnected : s.wrapper.connected = true
  · simp [connectAnswers, run, cameraMachine, cameraStep, connect, hconnected]
  · cases new with
    | failed left => simp [connectAnswers, run, cameraMachine, cameraStep, connect, hconnected]
    | created =>
      cases initOk with
      | true => simp [connectAnswers, run, cameraMachine, cameraStep, connect, hconnected]
      | false =>
        simp [connectAnswers, run, cameraMachine, cameraStep, connect, hconnected,
          CameraWrapper.newHandle, freeHandle]

/-- What the steps of `disconnect()` are answered; what `gp_camera_exit` and
`gp_camera_free` return is not looked at. -/
def disconnectAnswers (s : CameraOwner) (exited freed : Bool) : List Answer :=
  if s.wrapper.connected then
    if s.wrapper.camera.isSome then
      [.nothing, .result exited, .result freed, .nothing, .nothing]
    else [.nothing, .nothing]
  else [.nothing]

/-- **`disconnect()` is what the steps from `HandlerPc.disconnect` do.** -/
theorem disconnect_steps (s : CameraOwner) (exited freed : Bool) :
    run cameraMachine (s.wrapper, .disconnect) (s.disconnectAnswers exited freed) =
      some (s.disconnect.wrapper, .connect .reconnect) := by
  by_cases hconnected : s.wrapper.connected = true
  · cases hcamera : s.wrapper.camera with
    | none =>
      simp [disconnectAnswers, run, cameraMachine, cameraStep, disconnect, freeCamera, hconnected,
        hcamera]
    | some h =>
      simp [disconnectAnswers, run, cameraMachine, cameraStep, disconnect, freeCamera, hconnected,
        hcamera, exitHandle, freeHandle, CameraWrapper.release]
  · simp [disconnectAnswers, run, cameraMachine, cameraStep, disconnect, hconnected]

/-! ## Ownership -/

/-- No handle is exited or freed behind its being freed. -/
def Disciplined (calls : List LibraryCall) : Prop :=
  calls.Pairwise fun c c' => ∀ h, c = .free h → c'.handle ≠ h

/-- The handles created that have not been freed. -/
def Live (s : CameraOwner) (h : Nat) : Prop := h < s.wrapper.created ∧ .free h ∉ s.calls

/-- The pointer, the flag and the library agree. -/
structure Owned (s : CameraOwner) : Prop where
  /-- The pointer is null, or it points to a handle that is there. -/
  pointer : ∀ h, s.wrapper.camera = some h → s.Live h
  connected : s.destroyed = false → s.wrapper.connected = true → s.wrapper.camera.isSome
  /-- Once the destructor has run, every handle was freed once. -/
  freed : s.destroyed = true → ∀ h < s.wrapper.created, s.calls.count (.free h) = 1
  disciplined : Disciplined s.calls

/-- What calls keep that leave no pointer behind a failure: only the handle pointed to
is there, and the flag tells whether there is one. -/
structure Orderly (s : CameraOwner) : Prop where
  numbered : ∀ c ∈ s.calls, c.handle < s.wrapper.created
  pointer : ∀ h, s.wrapper.camera = some h → h < s.wrapper.created
  frees : ∀ h < s.wrapper.created,
    s.calls.count (.free h) = if s.wrapper.camera = some h then 0 else 1
  connected : s.destroyed = false → s.wrapper.connected = s.wrapper.camera.isSome
  gone : s.destroyed = true → s.wrapper.camera = none
  disciplined : Disciplined s.calls

theorem Orderly.owned {s : CameraOwner} (hs : s.Orderly) : s.Owned where
  pointer h hh := by
    have hlt := hs.pointer h hh
    have hcount := hs.frees h hlt
    rw [if_pos hh] at hcount
    exact ⟨hlt, List.count_eq_zero.mp hcount⟩
  connected hd hc := (hs.connected hd).symm.trans hc
  freed hd h hlt := by rw [hs.frees h hlt, hs.gone hd]; rfl
  disciplined := hs.disciplined

theorem init_orderly : ({} : CameraOwner).Orderly where
  numbered := nofun
  pointer := nofun
  frees h hlt := absurd hlt (Nat.not_lt_zero h)
  connected _ := rfl
  gone := nofun
  disciplined := List.Pairwise.nil

/-- A handle that is not freed can be exited and freed. -/
theorem Disciplined.release {calls : List LibraryCall} (h : Disciplined calls) {c : Nat}
    (hlive : .free c ∉ calls) : Disciplined (calls ++ [.exit c, .free c]) := by
  refine List.pairwise_append.mpr ⟨h, by simp, ?_⟩
  rintro a ha b hb d rfl
  have hd : b.handle = c := by
    rcases List.mem_pair.mp hb with rfl | rfl <;> rfl
  rw [hd]
  rintro rfl
  exact hlive ha

/-- **`freeCamera()` frees the handle there is**, whatever becomes of the flags behind
it. -/
theorem freeCamera_orderly {s : CameraOwner} (hs : s.Orderly) {connected destroyed : Bool}
    (hoff : destroyed = false → connected = false) :
    Orderly ⟨{ s.freeCamera.wrapper with connected }, s.freeCamera.calls, destroyed⟩ := by
  cases hcamera : s.wrapper.camera with
  | none =>
    have hnothing : s.freeCamera = s := by simp only [freeCamera, hcamera]
    rw [hnothing]
    exact ⟨hs.numbered, hs.pointer, hs.frees, fun hd => by rw [hoff hd, hcamera]; rfl,
      fun _ => hcamera, hs.disciplined⟩
  | some c =>
    have hlt := hs.pointer c hcamera
    have hcount := hs.frees c hlt
    rw [if_pos hcamera] at hcount
    have hlive := List.count_eq_zero.mp hcount
    have hcalls : s.freeCamera.calls = s.calls ++ [.exit c, .free c] := by
      simp [freeCamera, hcamera, exitHandle, freeHandle]
    have hnull : s.freeCamera.wrapper.camera = none := by simp only [freeCamera, hcamera]
    have hcreated : s.freeCamera.wrapper.created = s.wrapper.created := by
      simp [freeCamera, hcamera, exitHandle, freeHandle, CameraWrapper.release]
    refine ⟨?_, ?_, ?_, fun hd => by rw [hoff hd, hnull]; rfl, fun _ => hnull, ?_⟩
    · rw [hcalls, hcreated]
      refine List.forall_mem_append.mpr ⟨hs.numbered, fun b hb => ?_⟩
      rcases List.mem_pair.mp hb with rfl | rfl <;> exact hlt
    · simp only [hnull]
      nofun
    · simp only [hcreated, hcalls, hnull]
      intro h hh
      have hbefore := hs.frees h hh
      rw [hcamera] at hbefore
      rw [List.count_append, hbefore]
      by_cases hch : c = h
      · simp [hch]
      · simp [hch]
    · rw [hcalls]
      exact hs.disciplined.release hlive

/-- While the camera is not connected, the pointer is null. -/
theorem Orderly.null {s : CameraOwner} (hs : s.Orderly) (hd : s.destroyed = false)
    (hconnected : ¬ s.wrapper.connected = true) : s.wrapper.camera = none := by
  have hflag := hs.connected hd
  rw [Bool.eq_false_iff.mpr hconnected] at hflag
  simpa using hflag.symm

/-- A new handle has not been freed. -/
theorem Orderly.newHandle {s : CameraOwner} (hs : s.Orderly) (hd : s.destroyed = false)
    (hnull : s.wrapper.camera = none) (serial : String) :
    Orderly { s with wrapper := { s.wrapper.newHandle with serial, connected := true } } where
  numbered c hc := Nat.lt_succ_of_lt (hs.numbered c hc)
  pointer h hh := by
    obtain rfl := Option.some.inj hh
    exact Nat.lt_succ_self _
  frees h hh := by
    change s.calls.count (.free h) = if some s.wrapper.created = some h then 0 else 1
    rcases Nat.lt_succ_iff_lt_or_eq.mp hh with hlt | rfl
    · rw [hs.frees h hlt, hnull, if_neg (by simp), if_neg (by simp; omega)]
    · rw [if_pos rfl, List.count_eq_zero]
      intro hmem
      exact Nat.lt_irrefl _ (hs.numbered _ hmem)
  connected _ := rfl
  gone h := by simp [hd] at h
  disciplined := hs.disciplined

/-! ## When the handle is owned -/

/-- This call is not a `connect()`, made while the camera is not connected, in which
`gp_camera_new` fails and leaves a pointer that is not null, or succeeds and
`gp_camera_init` fails. -/
def LeavesNoPointer (s : CameraOwner) (c : Call) : Prop :=
  ∀ new initOk serial, c = .connect new initOk serial → s.wrapper.connected = false →
    new = .failed none ∨ new = .created ∧ initOk = true

theorem step_orderly {s s' : CameraOwner} {c : Call} (hs : s.Orderly) (hc : LeavesNoPointer s c)
    (h : step s c = some s') : s'.Orderly := by
  obtain ⟨hd, h⟩ := Option.ite_none_left_eq_some.mp h
  have hd : s.destroyed = false := by simpa using hd
  cases c with
  | connect new initOk serial =>
    obtain rfl := Option.some.inj h
    by_cases hconnected : s.wrapper.connected = true
    · simpa only [connect, if_pos hconnected] using hs
    · have hnull := hs.null hd hconnected
      rcases hc new initOk serial rfl (by simpa using hconnected) with rfl | ⟨rfl, rfl⟩
      · -- the pointer was null before
        simpa only [connect, if_neg hconnected, CameraWrapper.newFailed, ← hnull] using hs
      · simpa only [connect, if_neg hconnected, if_true] using hs.newHandle hd hnull serial
  | disconnect =>
    obtain rfl := Option.some.inj h
    unfold disconnect
    split
    · exact freeCamera_orderly hs (fun _ => rfl)
    · exact hs
  | destroy =>
    obtain rfl := Option.some.inj h
    exact freeCamera_orderly hs nofun

/-- The pointer that is left points to no handle that is there. -/
theorem not_owned_of_leaves {s s' : CameraOwner} {c : Call} (hs : s.Orderly)
    (hc : ¬ LeavesNoPointer s c) (h : step s c = some s') : ¬ s'.Owned := by
  simp only [LeavesNoPointer, not_forall] at hc
  obtain ⟨new, initOk, serial, rfl, hconnected, hleft⟩ := hc
  obtain ⟨hd, h⟩ := Option.ite_none_left_eq_some.mp h
  have hnull := hs.null (by simpa using hd) (by simp [hconnected])
  intro howned
  cases new with
  | failed left =>
    cases left with
    | none => exact hleft (Or.inl rfl)
    | some c =>
      -- every handle there was has been freed
      simp only [connect, hconnected, Bool.false_eq_true, if_false, CameraWrapper.newFailed,
        Option.some.injEq] at h
      subst h
      obtain ⟨hlt, hlive⟩ := howned.pointer c rfl
      have hcount := hs.frees c hlt
      rw [hnull, if_neg (by simp), List.count_eq_zero.mpr hlive] at hcount
      cases hcount
  | created =>
    obtain rfl : initOk = false := by simpa using hleft
    simp only [connect, hconnected, Bool.false_eq_true, if_false, CameraWrapper.newHandle,
      Option.elim_some, Option.some.injEq] at h
    subst h
    exact (howned.pointer _ rfl).2 (by simp [freeHandle])

/-- **The handle is owned all along a run exactly when no `connect()` of it fails and
leaves a pointer.** -/
theorem owned_iff (calls : List Call) :
    Always step Owned {} calls ↔ EachStep step LeavesNoPointer {} calls :=
  always_iff_eachStep Orderly.owned step_orderly not_owned_of_leaves init_orderly calls

/-- A camera that cannot be initialised is freed twice. -/
theorem not_owned_failedInit : ¬ ∀ calls : List Call, Always step Owned {} calls := by
  intro h
  have hrun : run step {} [.connect .created false "", .destroy] =
      some ⟨⟨none, false, "NOT_A_GOOD_SERIAL", 1, [0, 0, 0]⟩, [.free 0, .exit 0, .free 0], true⟩ :=
    rfl
  have hfreed := ((h _).of_run hrun).freed rfl 0 (by decide)
  exact absurd hfreed (by decide)

end CameraOwner
end CameraController
