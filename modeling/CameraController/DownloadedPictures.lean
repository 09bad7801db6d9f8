import CameraController.DownloadFile
import CameraController.SingleCapture
import CameraController.StuckFunctions
import CameraController.WaitForCapture
import Mathlib.Data.List.Nodup

/-! # What captures leave in the download folder

`capture` keeps a path in a variable of its own: the camera fills it in, and behind the
exposure the file of that path is downloaded to a file of its name in `download_folder`,
which is opened for writing first.  What it is called in the camera, and not the folder
it is in there, decides what it is called here.

`Pictures` is the whole program with these paths and the folder.  `folder_law` is about
all its runs: the pictures asked for are those that the camera has reported for captures
with a download, each before the next is reported, and a file holds what the last
download to it left. -/
namespace CameraController

open StateMachine

/-! ## The last write to a place -/

section Writes
variable {κ υ : Type} [DecidableEq κ]

/-- What a place is left with by writes. -/
def lastTo (k : κ) (ws : List (κ × υ)) : Option υ :=
  (ws.filter fun w => w.1 = k).getLast?.map Prod.snd

theorem lastTo_append (k : κ) (ws vs : List (κ × υ)) :
    lastTo k (ws ++ vs) = (lastTo k vs).or (lastTo k ws) := by
  simp only [lastTo, List.filter_append, List.getLast?_append]
  cases (vs.filter fun w => w.1 = k).getLast? <;> rfl

theorem lastTo_singleton (k j : κ) (v : υ) :
    lastTo k [(j, v)] = if j = k then some v else none := by
  unfold lastTo
  split <;> simp_all

/-- A write to a place that is written to once. -/
theorem lastTo_of_nodup {ws : List (κ × υ)} (hnodup : (ws.map Prod.fst).Nodup) {k : κ} {v : υ}
    (h : (k, v) ∈ ws) : lastTo k ws = some v := by
  obtain ⟨before, behind, rfl⟩ := List.append_of_mem h
  have hbehind : behind.filter (fun w => w.1 = k) = [] := by
    rw [List.map_append, List.map_cons, List.nodup_append] at hnodup
    have hk := (List.nodup_cons.mp hnodup.2.1).1
    refine List.filter_eq_nil_iff.mpr fun w hw hwk => hk ?_
    exact List.mem_map.mpr ⟨w, hw, by simpa using hwk⟩
  have hlast : lastTo k behind = none := by rw [lastTo, hbehind]; rfl
  rw [lastTo_append, ← List.singleton_append, lastTo_append, hlast, lastTo_singleton, if_pos rfl]
  rfl

end Writes

/-! ## One download -/

/-- What the calls of `downloadFile` answer, and what `gp_camera_file_get` writes. -/
structure FileCalls where
  fopen : Bool
  fileno : Int
  newFromFd : Int
  fileGet : Int
  written : List UInt8
  deriving DecidableEq, Repr

/-- The files by their paths. -/
abbrev Disk := String → Option (List UInt8)

/-- `downloadFile`, with what it returns. -/
def downloadFile (c : FileCalls) (disk : Disk) (destFilePath : String) : Bool × Disk :=
  if c.fopen = false then (false, disk)
  else
    -- "w" empties the file
    let disk := Function.update disk destFilePath (some [])
    if c.fileno < 0 then (false, disk)
    else if c.newFromFd ≠ gpOk then (false, disk)
    else
      let disk := Function.update disk destFilePath (some c.written)
      if c.fileGet ≠ gpOk then (false, disk) else (true, disk)

/-- `DEFAULT_DOWNLOAD_FOLDER`. -/
def defaultDownloadFolder : String := "/home/pi/CCCaptures/"

/-- `download_folder + string(p.name)`. -/
def destination (path : CameraFilePath) : String := defaultDownloadFolder ++ path.name

namespace FileCalls

variable (c : FileCalls)

/-- What is in the file afterwards, if it was opened. -/
def content : List UInt8 := if c.fileno < 0 ∨ c.newFromFd ≠ gpOk then [] else c.written

def Succeed : Prop := c.fopen = true ∧ 0 ≤ c.fileno ∧ c.newFromFd = gpOk ∧ c.fileGet = gpOk

variable {c} {disk : Disk} {destFilePath : String}

theorem downloadFile_fst : (downloadFile c disk destFilePath).1 = true ↔ c.Succeed := by
  unfold downloadFile Succeed
  rw [← Int.not_lt]
  cases c.fopen <;> by_cases hfd : c.fileno < 0 <;> by_cases hnew : c.newFromFd = gpOk <;>
    by_cases hget : c.fileGet = gpOk <;> simp [hfd, hnew, hget]

/-- **A download writes to one file**, if it opens that. -/
theorem downloadFile_snd : (downloadFile c disk destFilePath).2 =
    if c.fopen = true then Function.update disk destFilePath (some c.content) else disk := by
  unfold downloadFile content
  cases c.fopen <;> by_cases hfd : c.fileno < 0 <;> by_cases hnew : c.newFromFd = gpOk <;>
    by_cases hget : c.fileGet = gpOk <;> simp [hfd, hnew, hget]

theorem Succeed.content_eq (h : c.Succeed) : c.content = c.written := by
  obtain ⟨-, hfd, hnew, -⟩ := h
  simp [content, hnew, Int.not_lt.mpr hfd]

/-- The calls, for a file with this descriptor. -/
def actions (c : FileCalls) (fd : Nat) : List DownloadAction :=
  if c.fopen = false then [.fopen none, .fclose, .free]
  else if c.fileno < 0 then [.fopen (some fd), .fileno false, .fclose, .free]
  else if c.newFromFd ≠ gpOk then
    [.fopen (some fd), .fileno true, .newFromFd c.newFromFd, .fclose, .free]
  else
    [.fopen (some fd), .fileno true, .newFromFd c.newFromFd, .fileGet c.fileGet, .fclose, .free]

/-- **`DownloadRun` makes these calls**, and returns what is returned here. -/
theorem run_actions (others : Nat → Bool) {fd : Nat} (hfree : others fd = false) :
    ∃ s, run DownloadRun.step (.start others) (c.actions fd) = some s ∧ s.pc = .returned ∧
      s.success = (downloadFile c disk destFilePath).1 := by
  unfold actions downloadFile
  cases c.fopen <;> by_cases hfd : c.fileno < 0 <;> by_cases hnew : c.newFromFd = gpOk <;>
    by_cases hget : c.fileGet = gpOk <;>
      simp [run, DownloadRun.step, DownloadRun.start, DownloadRun.opens, DownloadRun.close, hfree,
        hfd, hnew, hget]

end FileCalls

/-! ## One capture -/

/-- What a step of `capture` brings with it: a path the camera fills in, or a download. -/
inductive CaptureData where
  | nothing
  | path (p : CameraFilePath)
  | download (c : FileCalls)
  deriving DecidableEq, Repr

/-- What a step of `capture` does to its path and to the files. -/
def captureData (path : CameraFilePath) (disk : Disk) :
    CapturePc → Answer → CaptureData → Option (CameraFilePath × Disk)
  | .exposureTime, _, .nothing => some (⟨"", ""⟩, disk)
  | .remoteExposureTime, _, .nothing | .trigger, _, .nothing => some (path, disk)
  | .waitForCapture, .event .fileAdded, .path p => some (p, disk)
  | .waitForCapture, .event .fileAdded, _ => none
  | .waitForCapture, _, .nothing => some (path, disk)
  | .wiredCapture, _, .path p => some (p, disk)
  | .downloadFile, .result ok, .download c =>
    let (success, disk) := downloadFile c disk (destination path)
    if success = ok then some (path, disk) else none
  | _, _, _ => none

/-- What there is to tell of a step of `capture`. -/
inductive PictureEvent where
  /-- The camera has a new picture; is it to be downloaded? -/
  | reported (p : CameraFilePath) (download : Bool)
  /-- `downloadFile` was called for it. -/
  | requested (p : CameraFilePath) (c : FileCalls)
  deriving DecidableEq, Repr

def captureEvents (path : CameraFilePath) (download : Bool) :
    CapturePc → Answer → CaptureData → List PictureEvent
  | .waitForCapture, .event .fileAdded, .path p | .wiredCapture, .result true, .path p =>
    [.reported p download]
  | .downloadFile, _, .download c => [.requested path c]
  | _, _, _ => []

namespace PictureEvent

/-- The pictures that are to be downloaded. -/
def wanted : List PictureEvent → List CameraFilePath :=
  List.filterMap fun
    | .reported p true => some p
    | _ => none

/-- The pictures that a download was begun of. -/
def asked : List PictureEvent → List CameraFilePath :=
  List.filterMap fun
    | .requested p _ => some p
    | _ => none

/-- What is written to which file. -/
def writes : List PictureEvent → List (String × List UInt8) :=
  List.filterMap fun
    | .requested p c => if c.fopen = true then some (destination p, c.content) else none
    | _ => none

theorem wanted_append (es es' : List PictureEvent) : wanted (es ++ es') = wanted es ++ wanted es' :=
  List.filterMap_append

theorem asked_append (es es' : List PictureEvent) : asked (es ++ es') = asked es ++ asked es' :=
  List.filterMap_append

theorem writes_append (es es' : List PictureEvent) : writes (es ++ es') = writes es ++ writes es' :=
  List.filterMap_append

/-- Files are written to in the order in which pictures are asked for. -/
theorem writes_sublist (es : List PictureEvent) :
    ((writes es).map Prod.fst).Sublist ((asked es).map destination) := by
  induction es with
  | nil => exact .slnil
  | cons e es ih =>
    cases e with
    | reported p download => exact ih
    | requested p c =>
      cases hopen : c.fopen with
      | true => simpa [writes, asked, hopen] using ih.cons_cons (destination p)
      | false => simpa [writes, asked, hopen] using ih.cons (destination p)

end PictureEvent

open PictureEvent

/-- The picture that a capture is about to ask for. -/
def pendingAt (path : CameraFilePath) : CapturePc → List CameraFilePath
  | .downloadFile => [path]
  | _ => []

/-- What is pending after a step. -/
def CaptureStep.pending (path : CameraFilePath) : CaptureStep → List CameraFilePath
  | .goOn c => pendingAt path c
  | _ => []

/-- Where `capture` goes on, if it does. -/
def CaptureStep.next (download : Bool) : CaptureStep → Option (CapturePc × Bool)
  | .goOn c => some (c, download)
  | _ => none

theorem CaptureStep.pending_eq (r : CaptureStep) (download : Bool) (path : CameraFilePath) :
    r.pending path = match r.next download with
      | some (c, _) => pendingAt path c
      | none => [] := by
  cases r <;> rfl

theorem pendingAt_length (path : CameraFilePath) (c : CapturePc) :
    (pendingAt path c).length ≤ 1 := by
  cases c <;> simp [pendingAt]

/-- A capture does not throw where it is about to ask. -/
theorem pendingAt_of_thrown {download : Bool} {c : CapturePc} {ans : Answer}
    (h : captureStep download c ans = some .thrown) (path : CameraFilePath) :
    pendingAt path c = [] := by
  obtain rfl := captureStep_thrown h
  cases c with
  | downloadFile => cases h
  | _ => rfl

theorem captured_pending (path : CameraFilePath) (download : Bool) :
    (captured download).pending path = wanted [.reported path download] := by
  cases download <;> rfl

/-- Nothing is pending before an exposure. -/
theorem pending_of_before {download : Bool} {c : CapturePc} {ans : Answer} {r : CaptureStep}
    (h : captureStep download c ans = some r)
    (hc : c = .exposureTime ∨ c = .remoteExposureTime ∨ c = .trigger) (path : CameraFilePath) :
    r.pending path = [] := by
  revert h
  fun_cases captureStep download c ans
  case case7 | case9 => simp at hc
  case case2 | case4 =>
    rintro ⟨⟩
    split <;> rfl
  case case11 => exact fun h => by cases h
  all_goals
    rintro ⟨⟩
    rfl

/-- **A step of `capture`**: a picture reported is pending if it is to be downloaded, and
the one that was is asked for. -/
theorem captureData_spec {path path' : CameraFilePath} {disk disk' : Disk} {download : Bool}
    {c : CapturePc} {ans : Answer} {data : CaptureData} {r : CaptureStep}
    (hr : captureStep download c ans = some r)
    (h : captureData path disk c ans data = some (path', disk')) :
    pendingAt path c ++ wanted (captureEvents path download c ans data) =
        asked (captureEvents path download c ans data) ++ r.pending path' ∧
      ∀ file, disk' file =
        (lastTo file (writes (captureEvents path download c ans data))).or (disk file) := by
  have hquiet (file : String) : disk file = (lastTo file (writes [])).or (disk file) := rfl
  cases c with
  | exposureTime | remoteExposureTime | trigger =>
    cases data <;> cases h
    refine ⟨?_, hquiet⟩
    rw [pending_of_before hr (by simp)]
    rfl
  | waitForCapture =>
    cases ans with
    | event e =>
      cases e with
      | fileAdded =>
        cases hr
        cases data <;> cases h
        exact ⟨(captured_pending _ download).symm, fun _ => rfl⟩
      | error | other =>
        cases hr
        cases data <;> cases h
        exact ⟨rfl, hquiet⟩
    | _ => cases hr
  | wiredCapture =>
    cases data <;> cases h
    cases ans with
    | result ok =>
      cases ok <;> cases hr
      · exact ⟨rfl, hquiet⟩
      · exact ⟨(captured_pending _ download).symm, fun _ => rfl⟩
    | _ => cases hr
  | downloadFile =>
    cases ans with
    | result ok =>
      cases hr
      cases data with
      | download calls =>
        simp only [captureData] at h
        obtain ⟨-, h⟩ := Option.ite_none_right_eq_some.mp h
        obtain ⟨rfl, rfl⟩ := Prod.mk.inj (Option.some.inj h)
        refine ⟨rfl, fun file => ?_⟩
        have hwrites : writes (captureEvents path download .downloadFile (.result ok)
            (.download calls)) =
              if calls.fopen = true then [(destination path, calls.content)] else [] := by
          cases hopen : calls.fopen <;> simp [captureEvents, writes, hopen]
        rw [hwrites, FileCalls.downloadFile_snd]
        split
        · rw [lastTo_singleton, Function.update_apply]
          by_cases hfile : file = destination path <;> simp [hfile, eq_comm (b := file)]
        · rfl
      | _ => cases h
    | _ => cases hr

/-! ## The whole program -/

namespace Task

/-- Where it is in `capture`, and whether that is with a download. -/
def captureAt : Task → Option (CapturePc × Bool)
  | run _ (.capture c download) | test (.capture c download) => some (c, download)
  | _ => none

theorem inCapture_of_captureAt {task : Task} {c : CapturePc × Bool} (h : task.captureAt = some c) :
    task.inCapture = true := by
  unfold captureAt at h
  split at h <;> first | rfl | cases h

end Task

/-- What a step of a thread is for the capture it is in. -/
def Task.CapturesTo (ans : Answer) (task task' : Task) : Prop :=
  match task.captureAt with
  | some (c, download) =>
    ∃ r, captureStep download c ans = some r ∧ task'.captureAt = r.next download
  | none => ∀ c download, task'.captureAt = some (c, download) → c = .exposureTime

section Threads
variable {f g : CameraFunction} {ans : Answer}

theorem RunPc.step_capturesTo {shots shots' : Nat} {pc pc' : RunPc}
    (h : pc.step f shots ans = some (.moved g shots' pc')) :
    Task.CapturesTo ans (.run shots pc) (.run shots' pc') := by
  cases RunPc.step_moves h with
  | captures hnext | captured hnext | fails hnext => exact ⟨_, hnext, rfl⟩
  | enters =>
    intro c download hc
    cases hc
    rfl
  | registers | waits | wakes =>
    intro c download hc
    split at hc <;> cases hc
  | _ => exact fun _ _ hc => by cases hc

theorem TestPc.step_capturesTo {pc pc' : TestPc} (h : pc.step f ans = some (g, pc')) :
    Task.CapturesTo ans (.test pc) (.test pc') := by
  cases TestPc.step_moves h with
  | captures hnext | returns hnext | throws hnext => exact ⟨_, hnext, rfl⟩
  | enters =>
    intro c download hc
    cases hc
    rfl
  | _ => exact fun _ _ hc => by cases hc

end Threads

namespace Controller

def captureAt (s : Controller) (k : Nat) : Option (CapturePc × Bool) :=
  s.threads[k]?.bind fun t => t.task.captureAt

variable {s s' : Controller} {k : Nat} {ans : Answer}

theorem captureAt_eq {t : Thread} (h : s.threads[k]? = some t) :
    s.captureAt k = t.task.captureAt := by
  simp [captureAt, h]

/-- At most one thread is in `capture`. -/
theorem captureAt_unique (hinv : Invariant s) {j : Nat} {c d : CapturePc × Bool}
    (hk : s.captureAt k = some c) (hj : s.captureAt j = some d) : k = j := by
  obtain ⟨t, ht, hin⟩ := Option.bind_eq_some_iff.mp hk
  obtain ⟨u, hu, hin'⟩ := Option.bind_eq_some_iff.mp hj
  exact hinv.capture_unique ht hu (Task.inCapture_of_captureAt hin)
    (Task.inCapture_of_captureAt hin')

/-- A thread is in `capture` where its own steps have led it. -/
theorem captureAt_of_ne {a : Action} (h : s.step a = some s') (hk : ∀ ans, a ≠ .thread k ans) :
    s'.captureAt k = s.captureAt k := by
  have happend (t : Thread) (hout : t.task.captureAt = none) :
      ((s.threads ++ [t])[k]?.bind fun t => t.task.captureAt) = s.captureAt k := by
    rw [captureAt]
    rcases Nat.lt_trichotomy k s.threads.length with hlt | rfl | hgt
    · rw [List.getElem?_append_left hlt]
    · simp [hout]
    · rw [List.getElem?_eq_none (by simpa using Nat.succ_le_of_lt hgt),
        List.getElem?_eq_none (Nat.le_of_lt hgt)]
  cases step_change h with
  | started | tested => exact happend _ rfl
  | @ran j ans t f g _ _ _ _ | @testRan j ans t f g _ _ =>
    have hne : j ≠ k := fun heq => hk ans (heq ▸ rfl)
    exact congrArg (Option.bind · fun t : Thread => t.task.captureAt) (List.getElem?_set_ne hne)
  | connecting =>
    obtain ⟨h, heq, -⟩ := s.connectCamera_eq _
    rw [heq]
    rfl
  | _ => rfl

/-- **A step of a thread** takes it on in its capture, unless that throws and the program
ends. -/
theorem captureAt_thread (h : s.step (.thread k ans) = some s') :
    ∃ t, s.threads[k]? = some t ∧ ((∃ task, s'.captureAt k = task.captureAt ∧
        t.task.CapturesTo ans task) ∨
      ∃ c download, t.task.captureAt = some (c, download) ∧ s'.captureAt k = s.captureAt k ∧
        captureStep download c ans = some .thrown) := by
  obtain ⟨-, h⟩ := Option.ite_none_left_eq_some.mp h
  obtain ⟨⟨o, task⟩, ht, h⟩ := Option.bind_eq_some_iff.mp h
  obtain ⟨f, -, h⟩ := Option.bind_eq_some_iff.mp h
  refine ⟨_, ht, ?_⟩
  cases task with
  | run shots pc =>
    obtain ⟨r, hr, h⟩ := Option.bind_eq_some_iff.mp h
    cases r with
    | moved g shots' pc' =>
      cases h
      exact Or.inl ⟨_, captureAt_eq (getElem?_set_self_of_some ht), RunPc.step_capturesTo hr⟩
    | terminated =>
      cases h
      obtain ⟨c, download, rfl, hthrown⟩ := RunPc.step_terminated hr
      exact Or.inr ⟨c, download, rfl, rfl, hthrown⟩
  | test pc =>
    obtain ⟨⟨g, pc'⟩, hr, h⟩ := Option.bind_eq_some_iff.mp h
    cases h
    exact Or.inl ⟨_, captureAt_eq (getElem?_set_self_of_some ht), TestPc.step_capturesTo hr⟩

end Controller

/-- The program, the variable `p` of the `capture` that a thread is in, and the files. -/
structure Pictures where
  controller : Controller := {}
  path : Nat → CameraFilePath := fun _ => ⟨"", ""⟩
  disk : Disk

namespace Pictures

def step (s : Pictures) : Action × CaptureData → Option Pictures
  | (a, data) => do
    let controller ← s.controller.step a
    match a with
    | .thread k ans =>
      match s.controller.captureAt k with
      | some (c, _) => do
        let (path, disk) ← captureData (s.path k) s.disk c ans data
        return { controller, path := Function.update s.path k path, disk }
      | none => if data = .nothing then some { s with controller } else none
    | _ => if data = .nothing then some { s with controller } else none

/-- What there is to tell of a step. -/
def events (s : Pictures) : Action × CaptureData → List PictureEvent
  | (.thread k ans, data) =>
    match s.controller.captureAt k with
    | some (c, download) => captureEvents (s.path k) download c ans data
    | none => []
  | _ => []

/-- What is promised of the folder, when the files were `disk` at first. -/
structure FolderLaw (disk : Disk) (s : Pictures) (es : List PictureEvent) : Prop where
  /-- Every picture that is to be downloaded is asked for, in the order in which the camera
  has reported them; only the last may still be waiting for it, -/
  asked : ∃ waiting, wanted es = asked es ++ waiting ∧ waiting.length ≤ 1
  /-- and only while a capture is under way. -/
  settled : (∀ k, s.controller.captureAt k = none) → PictureEvent.asked es = wanted es
  /-- A file holds what the last download that opened it has left, or what it held. -/
  files : ∀ file, s.disk file = (lastTo file (writes es)).or (disk file)
  /-- Where no two pictures have one name, what was downloaded stays. -/
  kept : ((wanted es).map CameraFilePath.name).Nodup → ∀ p c, .requested p c ∈ es → c.Succeed →
    s.disk (destination p) = some c.written

/-! ### Every step keeps the law -/

/-- What the program keeps of the pictures it was told of. -/
structure Tells (disk : Disk) (s : Pictures) (es : List PictureEvent) : Prop where
  controller : Invariant s.controller
  under : ∀ k c download, s.controller.captureAt k = some (c, download) →
    wanted es = PictureEvent.asked es ++ pendingAt (s.path k) c
  settled : (∀ k, s.controller.captureAt k = none) → PictureEvent.asked es = wanted es
  files : ∀ file, s.disk file = (lastTo file (writes es)).or (disk file)

variable {disk : Disk} {s s' : Pictures} {es : List PictureEvent}

/-- Nothing is told of a step outside `capture`, which may enter it. -/
theorem Tells.quiet (hs : Tells disk s es) {t : Controller} (hinv : Invariant t) {k : Nat}
    (hsame : ∀ j ≠ k, t.captureAt j = s.controller.captureAt j)
    (hout : s.controller.captureAt k = none)
    (hk : ∀ c download, t.captureAt k = some (c, download) → c = .exposureTime) :
    Tells disk { s with controller := t } es where
  controller := hinv
  under j c download hj := by
    by_cases hjk : j = k
    · subst hjk
      obtain rfl := hk c download hj
      have hnone (i : Nat) : s.controller.captureAt i = none := by
        by_cases hij : i = j
        · rw [hij, hout]
        · rw [← hsame i hij]
          by_contra hi
          obtain ⟨d, hd⟩ := Option.ne_none_iff_exists'.mp hi
          exact hij (Controller.captureAt_unique hinv hd hj)
      rw [hs.settled hnone]
      exact (List.append_nil _).symm
    · exact hs.under j c download ((hsame j hjk) ▸ hj)
  settled hnone := by
    refine hs.settled fun j => ?_
    by_cases hjk : j = k
    · rw [hjk, hout]
    · rw [← hsame j hjk, hnone j]
  files := hs.files

/-- A step of a capture tells of a picture, or asks for it. -/
theorem Tells.captures (hs : Tells disk s es) {t : Controller} (hinv : Invariant t) {k : Nat}
    (hsame : ∀ j ≠ k, t.captureAt j = s.controller.captureAt j) {ans : Answer} {data : CaptureData}
    {c : CapturePc} {download : Bool} (hc : s.controller.captureAt k = some (c, download))
    {path : CameraFilePath} {disk' : Disk} {r : CaptureStep}
    (hr : captureStep download c ans = some r)
    (hdata : captureData (s.path k) s.disk c ans data = some (path, disk'))
    (hk : t.captureAt k = r.next download ∨ t.captureAt k = some (c, download) ∧ r = .thrown) :
    Tells disk { controller := t, path := Function.update s.path k path, disk := disk' }
      (es ++ captureEvents (s.path k) download c ans data) := by
  obtain ⟨hasked, hfiles⟩ := captureData_spec hr hdata
  have hwanted : wanted (es ++ captureEvents (s.path k) download c ans data) =
      PictureEvent.asked (es ++ captureEvents (s.path k) download c ans data) ++
        r.pending path := by
    rw [wanted_append, asked_append, hs.under k c download hc, List.append_assoc, hasked,
      List.append_assoc]
  refine ⟨hinv, ?_, ?_, ?_⟩
  · intro j c' download' hj
    by_cases hjk : j = k
    · subst hjk
      rw [hwanted]
      dsimp only
      rw [Function.update_self]
      rcases hk with hk | ⟨hk, rfl⟩
      · rw [CaptureStep.pending_eq _ download, ← hk, hj]
      · obtain ⟨rfl, rfl⟩ := Prod.mk.inj (Option.some.inj (hk.symm.trans hj))
        rw [pendingAt_of_thrown hr]
        rfl
    · -- no other thread is in a capture
      rw [hsame j hjk] at hj
      exact absurd (Controller.captureAt_unique hs.controller hj hc) hjk
  · intro hnone
    rcases hk with hk | ⟨hk, -⟩
    · rw [hwanted, CaptureStep.pending_eq _ download, ← hk, hnone k]
      exact (List.append_nil _).symm
    · cases (hnone k).symm.trans hk
  · intro file
    rw [writes_append, lastTo_append, Option.or_assoc, ← hs.files file]
    exact hfiles file

/-- **Every step** keeps what is told. -/
theorem Tells.step (hs : Tells disk s es) {a : Action × CaptureData} (h : s.step a = some s') :
    Tells disk s' (es ++ s.events a) := by
  obtain ⟨a, data⟩ := a
  obtain ⟨t, ht, h⟩ := Option.bind_eq_some_iff.mp h
  have hinv := hs.controller.step ht
  cases a with
  | command | handler =>
    obtain ⟨-, h⟩ := Option.ite_none_right_eq_some.mp h
    cases h
    have hall (j : Nat) : t.captureAt j = s.controller.captureAt j :=
      Controller.captureAt_of_ne ht fun _ heq => by cases heq
    change Tells disk _ (es ++ [])
    rw [List.append_nil]
    exact ⟨hinv, fun j c download hj => hs.under j c download (hall j ▸ hj),
      fun hnone => hs.settled fun j => hall j ▸ hnone j, hs.files⟩
  | thread k ans =>
    have hsame (j : Nat) (hj : j ≠ k) : t.captureAt j = s.controller.captureAt j :=
      Controller.captureAt_of_ne ht fun _ heq => hj (Action.thread.inj heq).1.symm
    obtain ⟨u, hu, hmove⟩ := Controller.captureAt_thread ht
    have hbefore := Controller.captureAt_eq hu
    cases hc : s.controller.captureAt k with
    | none =>
      simp only [hc] at h
      obtain ⟨-, h⟩ := Option.ite_none_right_eq_some.mp h
      cases h
      simp only [events, hc, List.append_nil]
      rw [hbefore] at hc
      rcases hmove with ⟨task, htask, hmove⟩ | ⟨c, download, hin, -⟩
      · rw [Task.CapturesTo, hc] at hmove
        exact hs.quiet hinv hsame (hbefore.trans hc) (htask ▸ hmove)
      · cases hc.symm.trans hin
    | some at' =>
      obtain ⟨c, download⟩ := at'
      simp only [hc] at h
      obtain ⟨⟨path, disk'⟩, hdata, h⟩ := Option.bind_eq_some_iff.mp h
      cases h
      simp only [events, hc]
      have hin := hbefore.symm.trans hc
      rcases hmove with ⟨task, htask, hmove⟩ | ⟨c', download', hin', hstays, hthrown⟩
      · rw [Task.CapturesTo, hin] at hmove
        obtain ⟨r, hr, hnext⟩ := hmove
        exact hs.captures hinv hsame hc hr hdata (Or.inl (htask.trans hnext))
      · obtain ⟨rfl, rfl⟩ := Prod.mk.inj (Option.some.inj (hin'.symm.trans hin))
        exact hs.captures hinv hsame hc hthrown hdata (Or.inr ⟨hstays.trans hc, rfl⟩)

theorem Tells.exists_waiting (hs : Tells disk s es) :
    ∃ waiting, wanted es = PictureEvent.asked es ++ waiting ∧ waiting.length ≤ 1 := by
  by_cases hnone : ∀ k, s.controller.captureAt k = none
  · exact ⟨[], by rw [hs.settled hnone, List.append_nil], Nat.zero_le 1⟩
  · obtain ⟨k, hk⟩ := not_forall.mp hnone
    obtain ⟨⟨c, download⟩, hc⟩ := Option.ne_none_iff_exists'.mp hk
    exact ⟨_, hs.under k c download hc, pendingAt_length _ c⟩

theorem Tells.folderLaw (hs : Tells disk s es) : FolderLaw disk s es where
  asked := hs.exists_waiting
  settled := hs.settled
  files := hs.files
  kept hnodup p c hmem hsucceed := by
    obtain ⟨waiting, hwanted, -⟩ := hs.exists_waiting
    rw [hwanted, List.map_append] at hnodup
    -- no two pictures that were asked for have one file
    have hfiles : ((PictureEvent.asked es).map destination).Nodup := by
      have hnames := (List.nodup_append.mp hnodup).1
      have hmap := List.Nodup.map (f := (defaultDownloadFolder ++ ·))
        (fun _ _ heq => (String.append_right_inj _).mp heq) hnames
      rwa [List.map_map] at hmap
    have hwrite : (destination p, c.content) ∈ writes es :=
      List.mem_filterMap.mpr ⟨_, hmem, if_pos hsucceed.1⟩
    rw [hs.files, lastTo_of_nodup (hfiles.sublist (writes_sublist es)) hwrite,
      hsucceed.content_eq]
    rfl

/-! ### Every run of the program -/

/-- A step of a capture, whatever it brings. -/
theorem exists_captureData {download : Bool} {c : CapturePc} {ans : Answer} {r : CaptureStep}
    (h : captureStep download c ans = some r) (path : CameraFilePath) (disk : Disk) :
    ∃ data result, captureData path disk c ans data = some result := by
  cases c with
  | exposureTime | remoteExposureTime | trigger => exact ⟨.nothing, _, rfl⟩
  | wiredCapture => exact ⟨.path path, _, rfl⟩
  | waitForCapture =>
    cases ans with
    | event e =>
      cases e with
      | fileAdded => exact ⟨.path path, _, rfl⟩
      | error | other => exact ⟨.nothing, _, rfl⟩
    | _ => cases h
  | downloadFile =>
    cases ans with
    | result ok =>
      cases ok with
      | true => exact ⟨.download ⟨true, 0, gpOk, gpOk, []⟩, _, rfl⟩
      | false => exact ⟨.download ⟨false, 0, gpOk, gpOk, []⟩, _, rfl⟩
    | _ => cases h

/-- **Every run of the program** is one with paths and files. -/
theorem exists_run {t : Controller} {as : List Action}
    (h : run Controller.step s.controller as = some t) :
    ∃ bs s', bs.map Prod.fst = as ∧ run step s bs = some s' ∧ s'.controller = t := by
  induction as generalizing s with
  | nil => exact ⟨[], s, rfl, rfl, Option.some.inj h⟩
  | cons a as ih =>
    obtain ⟨u, hu, hrest⟩ := (run_cons_eq_some _).mp h
    have hone : ∃ data s', s.step (a, data) = some s' ∧ s'.controller = u := by
      cases a with
      | command | handler => exact ⟨.nothing, { s with controller := u }, by simp [step, hu], rfl⟩
      | thread k ans =>
        cases hc : s.controller.captureAt k with
        | none => exact ⟨.nothing, { s with controller := u }, by simp [step, hu, hc], rfl⟩
        | some at' =>
          obtain ⟨c, download⟩ := at'
          have hr : ∃ r, captureStep download c ans = some r := by
            obtain ⟨v, hv, hmove⟩ := Controller.captureAt_thread hu
            have hin := (Controller.captureAt_eq hv).symm.trans hc
            rcases hmove with ⟨task, -, hmove⟩ | ⟨c', download', hin', -, hthrown⟩
            · rw [Task.CapturesTo, hin] at hmove
              exact hmove.imp fun _ => And.left
            · obtain ⟨rfl, rfl⟩ := Prod.mk.inj (Option.some.inj (hin'.symm.trans hin))
              exact ⟨_, hthrown⟩
          obtain ⟨r, hr⟩ := hr
          obtain ⟨data, ⟨path, disk'⟩, hdata⟩ := exists_captureData hr (s.path k) s.disk
          exact ⟨data, ⟨u, Function.update s.path k path, disk'⟩,
            by simp [step, hu, hc, hdata], rfl⟩
    obtain ⟨data, s', hs', rfl⟩ := hone
    obtain ⟨bs, t', hbs, hrun, ht'⟩ := ih hrest
    exact ⟨(a, data) :: bs, t', congrArg (a :: ·) hbs,
      (run_cons_eq_some _).mpr ⟨s', hs', hrun⟩, ht'⟩

/-- **The download folder**, in every run of the program, whatever the commands and however
the threads take turns. -/
theorem folder_law {as : List (Action × CaptureData)}
    (h : run (recording step events) ({ disk }, []) as = some (s, es)) : FolderLaw disk s es := by
  have hinit : Tells disk { disk } [] :=
    ⟨invariant_init, fun _ _ _ h => (by cases h), fun _ => rfl, fun _ => rfl⟩
  exact (run_recording (P := Tells disk) (fun hs hstep => hs.step hstep) hinit h).folderLaw

/-- A wired capture with a download, of the first of three shots. -/
def wiredDownload : List (Action × CaptureData) :=
  [(.command (.sequencerSetup 20 3 100 true), .nothing), (.handler .nothing, .nothing),
    (.command (.command 5), .nothing), (.handler (.newCamera .created), .nothing),
    (.handler (.result true), .nothing), (.handler (.serial "1"), .nothing),
    (.handler .nothing, .nothing), (.thread 0 .nothing, .nothing), (.thread 0 .nothing, .nothing),
    (.thread 0 (.exposureTime (some 100)), .nothing),
    (.thread 0 (.result true), .path ⟨"a.nef", "/store"⟩),
    (.thread 0 (.result true), .download ⟨true, 5, gpOk, gpOk, [1, 2]⟩)]

theorem folder_law_wired :
    ∃ s, FolderLaw (fun _ => none) s [.reported ⟨"a.nef", "/store"⟩ true,
      .requested ⟨"a.nef", "/store"⟩ ⟨true, 5, gpOk, gpOk, [1, 2]⟩] :=
  ⟨_, folder_law (show run _ _ wiredDownload = some _ from rfl)⟩

end Pictures
end CameraController
