import CameraController.CameraConfig
import CameraController.StateMachine
import Mathlib.Logic.Function.Basic

/-! # Who closes the descriptor of a download?

`downloadFile` opens a file, gets the number of its descriptor, and makes a
`CameraFile` of that.  Behind `out` it closes the file, and frees the `CameraFile`,
which closes its descriptor as well.  In between, the number belongs to nobody, or to
another thread that was given it anew.

`closesOnce_iff`: the descriptor is closed once, and no other is, exactly when no
`CameraFile` was made. -/
namespace CameraController

open StateMachine

/-- Who has opened a descriptor. -/
inductive Owner where
  | download
  | other
  deriving DecidableEq, Repr

/-- The call that `downloadFile` makes next. -/
inductive DownloadPc where
  | fopen
  | fileno
  | newFromFd
  | fileGet
  | fclose
  | free
  | returned
  deriving DecidableEq, Repr

/-- `downloadFile`, in a process whose descriptors are `descriptors`.  `f` and `file` are
the numbers that the file and the `CameraFile` have. -/
structure DownloadRun where
  descriptors : Nat → Option Owner
  pc : DownloadPc := .fopen
  f : Option Nat := none
  file : Option Nat := none
  success : Bool := false
  /-- Whose descriptors it has closed, in order. -/
  closed : List (Option Owner) := []
  /-- How often it has called `gp_file_free`. -/
  freed : Nat := 0

/-- What happens: another thread opens or closes a descriptor, or the next call answers. -/
inductive DownloadAction where
  | otherOpens (fd : Nat)
  | otherCloses (fd : Nat)
  | fopen (fd : Option Nat)
  | fileno (ok : Bool)
  | newFromFd (result : Int)
  | fileGet (result : Int)
  | fclose
  | free
  deriving DecidableEq, Repr

namespace DownloadRun

/-- `downloadFile` in a process in which others have opened some descriptors. -/
def start (others : Nat → Bool) : DownloadRun where
  descriptors fd := if others fd then some .other else none

/-- A descriptor is opened. -/
def opens (s : DownloadRun) (fd : Nat) (owner : Owner) : DownloadRun :=
  { s with descriptors := Function.update s.descriptors fd (some owner) }

/-- `downloadFile` closes the descriptor with this number, whosever it is. -/
def close (s : DownloadRun) (fd : Nat) : DownloadRun :=
  { s with
    descriptors := Function.update s.descriptors fd none
    closed := s.closed ++ [s.descriptors fd] }

/-- A new descriptor gets a number that is free. -/
def step (s : DownloadRun) : DownloadAction → Option DownloadRun
  | .otherOpens fd => if s.descriptors fd = none then some (s.opens fd .other) else none
  | .otherCloses fd =>
    if s.descriptors fd = some .other then
      some { s with descriptors := Function.update s.descriptors fd none }
    else none
  | .fopen none => if s.pc = .fopen then some { s with pc := .fclose } else none
  | .fopen (some fd) =>
    if s.pc = .fopen ∧ s.descriptors fd = none then
      some { s.opens fd .download with f := some fd, pc := .fileno }
    else none
  | .fileno ok =>
    if s.pc = .fileno then some { s with pc := if ok then .newFromFd else .fclose } else none
  | .newFromFd result =>
    if s.pc = .newFromFd then
      if result ≠ gpOk then some { s with pc := .fclose }
      else some { s with file := s.f, pc := .fileGet }
    else none
  | .fileGet result =>
    if s.pc = .fileGet then some { s with success := result == gpOk, pc := .fclose } else none
  | .fclose =>
    if s.pc = .fclose then
      some { s.f.elim s s.close with pc := .free }
    else none
  | .free =>
    if s.pc = .free then
      some { s.file.elim s fun fd => { s.close fd with freed := s.freed + 1 } with pc := .returned }
    else none

/-- It has closed the descriptor it opened, once, and no other; the `CameraFile` was freed
if there was one. -/
structure ClosesOnce (s : DownloadRun) : Prop where
  closed : s.closed = s.f.toList.map fun _ => some .download
  freed : s.freed = if s.file.isSome then 1 else 0

/-! ## What it holds on the way -/

/-- What holds before each call. -/
def Holds (s : DownloadRun) : Prop :=
  match s.pc with
  | .fopen => s.f = none ∧ s.file = none ∧ s.closed = [] ∧ s.freed = 0
  | .fileno | .newFromFd => ∃ fd, s.f = some fd ∧ s.descriptors fd = some .download ∧
      s.file = none ∧ s.closed = [] ∧ s.freed = 0
  | .fileGet => ∃ fd, s.f = some fd ∧ s.descriptors fd = some .download ∧
      s.file = some fd ∧ s.closed = [] ∧ s.freed = 0
  | .fclose => (∀ fd ∈ s.f, s.descriptors fd = some .download) ∧ (∀ fd ∈ s.file, s.f = some fd) ∧
      s.closed = [] ∧ s.freed = 0
  | .free => (∀ fd ∈ s.file, s.f = some fd) ∧
      (s.closed = s.f.toList.map fun _ => some .download) ∧ s.freed = 0
  | .returned => s.freed = (if s.file.isSome then 1 else 0) ∧
      if s.file.isSome then s.closed.length = 2
      else s.closed = s.f.toList.map fun _ => some .download

variable {s s' : DownloadRun}

/-- Other threads leave its descriptor alone. -/
theorem holds_others (hs : s.Holds) {descriptors : Nat → Option Owner}
    (h : ∀ fd, s.descriptors fd = some .download → descriptors fd = some .download) :
    Holds { s with descriptors } := by
  unfold Holds at hs ⊢
  cases hpc : s.pc with
  | fopen | free | returned => simpa only [hpc] using hs
  | fileno | newFromFd | fileGet =>
    simp only [hpc] at hs ⊢
    obtain ⟨fd, hf, hfd, hrest⟩ := hs
    exact ⟨fd, hf, h fd hfd, hrest⟩
  | fclose =>
    simp only [hpc] at hs ⊢
    exact ⟨fun fd hf => h fd (hs.1 fd hf), hs.2⟩

/-- **Every step keeps it.** -/
theorem step_holds {a : DownloadAction} (hs : s.Holds) (h : s.step a = some s') : s'.Holds := by
  cases a with
  | otherOpens fd =>
    obtain ⟨hfree, h⟩ := Option.ite_none_right_eq_some.mp h
    cases h
    refine holds_others hs fun n hn => ?_
    rw [Function.update_of_ne (by rintro rfl; simp [hfree] at hn), hn]
  | otherCloses fd =>
    obtain ⟨hother, h⟩ := Option.ite_none_right_eq_some.mp h
    cases h
    refine holds_others hs fun n hn => ?_
    rw [Function.update_of_ne (by rintro rfl; simp [hother] at hn), hn]
  | fopen fd =>
    cases fd with
    | none =>
      obtain ⟨hpc, h⟩ := Option.ite_none_right_eq_some.mp h
      cases h
      simp only [Holds, hpc] at hs ⊢
      simp [hs]
    | some fd =>
      obtain ⟨⟨hpc, -⟩, h⟩ := Option.ite_none_right_eq_some.mp h
      cases h
      simp only [Holds, hpc] at hs ⊢
      exact ⟨fd, rfl, Function.update_self .., hs.2⟩
  | fileno ok =>
    obtain ⟨hpc, h⟩ := Option.ite_none_right_eq_some.mp h
    cases h
    simp only [Holds, hpc] at hs
    obtain ⟨fd, hf, hfd, hfile, hrest⟩ := hs
    cases ok with
    | true => exact ⟨fd, hf, hfd, hfile, hrest⟩
    | false => exact ⟨by simpa [hf] using hfd, by simp [hfile], hrest⟩
  | newFromFd result =>
    obtain ⟨hpc, h⟩ := Option.ite_none_right_eq_some.mp h
    simp only [Holds, hpc] at hs
    obtain ⟨fd, hf, hfd, hfile, hrest⟩ := hs
    split at h <;> cases h
    · exact ⟨by simpa [hf] using hfd, by simp [hfile], hrest⟩
    · exact ⟨fd, hf, hfd, hf, hrest⟩
  | fileGet result =>
    obtain ⟨hpc, h⟩ := Option.ite_none_right_eq_some.mp h
    cases h
    simp only [Holds, hpc] at hs
    obtain ⟨fd, hf, hfd, hfile, hrest⟩ := hs
    exact ⟨by simpa [hf] using hfd, by simp [hf, hfile], hrest⟩
  | fclose =>
    obtain ⟨hpc, h⟩ := Option.ite_none_right_eq_some.mp h
    cases h
    simp only [Holds, hpc] at hs
    obtain ⟨hdownload, hfile, hclosed, hfreed⟩ := hs
    cases hf : s.f with
    | none => exact ⟨hfile, by simp [hf, hclosed], hfreed⟩
    | some fd =>
      have hfd := hdownload fd hf
      exact ⟨hfile, by simp [close, hf, hclosed, hfd], hfreed⟩
  | free =>
    obtain ⟨hpc, h⟩ := Option.ite_none_right_eq_some.mp h
    cases h
    simp only [Holds, hpc] at hs
    obtain ⟨hfile, hclosed, hfreed⟩ := hs
    cases hcreated : s.file with
    | none => simp [Holds, hcreated, hfreed, hclosed]
    | some fd =>
      -- the descriptor is closed a second time
      have hf := hfile fd hcreated
      simp [Holds, close, hcreated, hfreed, hclosed, hf]

theorem start_holds (others : Nat → Bool) : (start others).Holds := ⟨rfl, rfl, rfl, rfl⟩

/-! ## Whether there is a `CameraFile` -/

/-- There is one as soon as one was made. -/
theorem step_file {a : DownloadAction} (hs : s.Holds) (h : s.step a = some s') :
    s'.file.isSome = true ↔ s.file.isSome = true ∨ a = .newFromFd gpOk := by
  cases a with
  | newFromFd result =>
    obtain ⟨hpc, h⟩ := Option.ite_none_right_eq_some.mp h
    simp only [Holds, hpc] at hs
    obtain ⟨fd, hf, -, hfile, -⟩ := hs
    by_cases hresult : result = gpOk
    · rw [if_neg (not_not_intro hresult)] at h
      cases h
      simp [hf, hresult]
    · rw [if_pos hresult] at h
      cases h
      simp [hfile, hresult]
  | fopen fd =>
    cases fd <;> obtain ⟨-, h⟩ := Option.ite_none_right_eq_some.mp h <;> cases h <;> simp [opens]
  | fclose | free =>
    obtain ⟨-, h⟩ := Option.ite_none_right_eq_some.mp h
    cases h
    cases hf : s.f <;> cases hfile : s.file <;> simp [close, hfile]
  | _ =>
    obtain ⟨-, h⟩ := Option.ite_none_right_eq_some.mp h
    cases h
    simp [opens]

theorem run_file {as : List DownloadAction} (hs : s.Holds) (h : run step s as = some s') :
    s'.file.isSome = true ↔ s.file.isSome = true ∨ .newFromFd gpOk ∈ as := by
  induction as generalizing s with
  | nil =>
    obtain rfl := Option.some.inj h
    simp
  | cons a as ih =>
    obtain ⟨t, ht, hrest⟩ := (run_cons_eq_some step).mp h
    rw [ih (step_holds hs ht) hrest, step_file hs ht, List.mem_cons, or_assoc,
      @eq_comm _ a (.newFromFd gpOk)]

/-- **The descriptor is closed once, and no other is, exactly when no `CameraFile` was
made**, whatever other threads open and close. -/
theorem closesOnce_iff {others : Nat → Bool} {as : List DownloadAction}
    (h : run step (start others) as = some s) (hreturned : s.pc = .returned) :
    s.ClosesOnce ↔ .newFromFd gpOk ∉ as := by
  have hfile := run_file (start_holds others) h
  have hholds : s.Holds :=
    run_invariant (fun hs hstep => step_holds hs hstep) (start_holds others) h
  simp only [Holds, hreturned] at hholds
  obtain ⟨hfreed, hclosed⟩ := hholds
  by_cases hcreated : s.file.isSome = true
  · rw [if_pos hcreated] at hclosed
    refine iff_of_false (fun hcloses => ?_)
      (not_not_intro (by simpa [start] using hfile.mp hcreated))
    have hlength := congrArg List.length hcloses.closed
    rw [hclosed, List.length_map] at hlength
    cases hf : s.f <;> simp [hf] at hlength
  · rw [if_neg hcreated] at hclosed
    exact iff_of_true ⟨hclosed, hfreed⟩ fun hmem => hcreated (hfile.mpr (Or.inr hmem))

/-- libgphoto2 makes no `CameraFile`. -/
def noCameraFile : List DownloadAction :=
  [.fopen (some 5), .fileno true, .newFromFd (-1), .fclose, .free]

theorem closesOnce_noCameraFile :
    ∃ s, run step (start fun _ => false) noCameraFile = some s ∧
      (s.ClosesOnce ↔ .newFromFd gpOk ∉ noCameraFile) :=
  ⟨_, rfl, closesOnce_iff (show run step (start fun _ => false) noCameraFile = some _ from rfl) rfl⟩

/-- The file comes down, and another thread opens a descriptor before the `CameraFile` is
freed. -/
def reused : List DownloadAction :=
  [.fopen (some 5), .fileno true, .newFromFd gpOk, .fileGet gpOk, .fclose, .otherOpens 5, .free]

/-- That descriptor is closed. -/
theorem not_closesOnce_reused :
    ∃ s, run step (start fun _ => false) reused = some s ∧ s.pc = .returned ∧
      some .other ∈ s.closed ∧ ¬ s.ClosesOnce := by
  refine ⟨_, rfl, rfl, List.mem_cons_of_mem _ List.mem_cons_self, fun h => ?_⟩
  have hlength := congrArg List.length h.closed
  cases hlength

end DownloadRun
end CameraController
