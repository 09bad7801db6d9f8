import CameraController.CommandFidelity
import CameraController.CommandHandlerInvariant

/-! # Command objects

The decoders once more, with the objects they make.  A decoder allocates an object
of its class, fills its fields one after the other, and deletes it again when an
exception comes in between; `*cmd` is only assigned behind the `try` block.  Each
of them does with its objects what its namesake in `Commands` says of its results
(`Returns`, `decode_returns`).

The handler casts a command by its number (`castTo`).  `decode_settles` is what a
caller of `decode` can rely on, whatever the JSON value is. -/
namespace CameraController

open Json JsonCommandDecoder

namespace Command

/-! ## Fields -/

def setCmdId (cmdId : UInt8) : Command → Command
  | command _ => command cmdId
  | downloadAfterExposure _ download => downloadAfterExposure cmdId download
  | sequencerSetup _ numExposures expTime download =>
    sequencerSetup cmdId numExposures expTime download
  | intervalometerSetup _ numExposures expTime interval download =>
    intervalometerSetup cmdId numExposures expTime interval download

def setNumExposures (numExposures : Int32) : Command → Command
  | sequencerSetup cmdId _ expTime download => sequencerSetup cmdId numExposures expTime download
  | intervalometerSetup cmdId _ expTime interval download =>
    intervalometerSetup cmdId numExposures expTime interval download
  | c => c

def setExpTime (expTime : Int32) : Command → Command
  | sequencerSetup cmdId numExposures _ download =>
    sequencerSetup cmdId numExposures expTime download
  | intervalometerSetup cmdId numExposures _ interval download =>
    intervalometerSetup cmdId numExposures expTime interval download
  | c => c

def setInterval (interval : Int32) : Command → Command
  | intervalometerSetup cmdId numExposures expTime _ download =>
    intervalometerSetup cmdId numExposures expTime interval download
  | c => c

def setDownload (download : Bool) : Command → Command
  | downloadAfterExposure cmdId _ => downloadAfterExposure cmdId download
  | sequencerSetup cmdId numExposures expTime _ =>
    sequencerSetup cmdId numExposures expTime download
  | intervalometerSetup cmdId numExposures expTime interval _ =>
    intervalometerSetup cmdId numExposures expTime interval download
  | c => c

end Command

/-- The class that `onCommandReceived` casts a command to, by its number. -/
def castTo (cmdId : UInt8) : Option CommandKind :=
  match CommandId.ofCode cmdId with
  | some .sequencerSetup => some .sequencer
  | some .intervalometerSetup => some .intervalometer
  | some .downloadAfterExposure => some .download
  | _ => none

/-- The command objects made, `none` once deleted, where `*cmd` points, and the
lines logged. -/
structure CommandStore where
  objects : List (Option Command)
  cmd : Option Nat
  log : List LogLine
  deriving DecidableEq, Repr

/-- Code that changes a store and may throw. -/
abbrev Decode := EStateM JsonException CommandStore

namespace CommandStore

/-! ## The decoders -/

/-- `new`, with the fields' default values. -/
def newObject (c : Command) : Decode Nat := fun s =>
  .ok s.objects.length { s with objects := s.objects ++ [some c] }

/-- `delete`. -/
def deleteObject (p : Nat) : Decode Unit := fun s =>
  .ok () { s with objects := s.objects.set p none }

/-- A value that is read, or an exception. -/
def readValue {α : Type} (value : Except JsonException α) : Decode α := fun s =>
  match value with
  | .ok v => .ok v s
  | .error e => .error e s

/-- An assignment to a field, whose value is read first. -/
def assign {α : Type} (p : Nat) (set : α → Command → Command)
    (value : Except JsonException α) : Decode Unit := do
  let v ← readValue value
  fun s => .ok () { s with objects := s.objects.modify p (Option.map (set v)) }

/-- `*cmd = c`. -/
def assignCmd (p : Nat) : Decode Unit := fun s => .ok () { s with cmd := some p }

def logLine (line : LogLine) : Decode Unit := fun s => .ok () { s with log := s.log ++ [line] }

/-- The `catch` blocks of the decoders. -/
def discard (p : Nat) (e : JsonException) : Decode Bool := do
  deleteObject p
  logLine (.error, e.what)
  return false

/-- The decoders' common shape: an object is made and filled in a `try` block. -/
def tryFill (empty : Command) (fill : Nat → Decode Unit) : Decode Bool := do
  let c ← newObject empty
  let filled ← tryCatch (do fill c; return true) (discard c)
  if filled then do
    assignCmd c
    return true
  else
    return false

variable (target : Target) (j : Json)

def decodeEmptyCommand : Decode Bool :=
  tryFill (.command 0) fun c =>
    assign c Command.setCmdId (readUInt8 target j keyCmdId)

def decodeSetupSequencer : Decode Bool :=
  tryFill (.sequencerSetup 0 0 0 false) fun c => do
    assign c Command.setCmdId (readUInt8 target j keyCmdId)
    assign c Command.setNumExposures (readInt target j keyNumExposures)
    assign c Command.setExpTime (readInt target j keyExposureTime)
    assign c Command.setDownload (readBool j keyDownload)

def decodeSetupIntervalometer : Decode Bool :=
  tryFill (.intervalometerSetup 0 0 0 0 false) fun c => do
    assign c Command.setCmdId (readUInt8 target j keyCmdId)
    assign c Command.setNumExposures (readInt target j keyNumExposures)
    assign c Command.setExpTime (readInt target j keyExposureTime)
    assign c Command.setInterval (readInt target j keyInterval)
    assign c Command.setDownload (readBool j keyDownload)

def decodeDownloadAfterExposure : Decode Bool :=
  tryFill (.downloadAfterExposure 0 false) fun c => do
    assign c Command.setCmdId (readUInt8 target j keyCmdId)
    assign c Command.setDownload (readBool j keyDownload)

/-- `decoder_map`. -/
def decoderMap : List (UInt8 × Decode Bool) :=
  [(CommandId.shutdown.code, decodeEmptyCommand target j),
    (CommandId.reboot.code, decodeEmptyCommand target j),
    (CommandId.functionStart.code, decodeEmptyCommand target j),
    (CommandId.functionStop.code, decodeEmptyCommand target j),
    (CommandId.cameraTestConnection.code, decodeEmptyCommand target j),
    (CommandId.cameraReconnect.code, decodeEmptyCommand target j),
    (CommandId.functionTestCapture.code, decodeEmptyCommand target j),
    (CommandId.downloadAfterExposure.code, decodeDownloadAfterExposure target j),
    (CommandId.sequencerSetup.code, decodeSetupSequencer target j),
    (CommandId.intervalometerSetup.code, decodeSetupIntervalometer target j)]

/-- `JsonCommandDecoder::decode`. -/
def decode : Decode Bool :=
  tryCatch
    (do
      let cmdId ← readValue (readUInt8 target j keyCmdId)
      match (decoderMap target j).lookup cmdId with
      | some decoder => decoder
      | none => do
        logLine (.warning, "Unrecognized command: " ++ toString cmdId.toNat)
        return false)
    fun e => do
      logLine (.error, e.what)
      return false

/-! ## What they do -/

section Runs
variable {α β : Type} {s s' : CommandStore} {body : Decode α} {e : JsonException} {a : α}

theorem bind_ok {f : α → Decode β} (h : body s = .ok a s') : (body >>= f) s = f a s' := by
  simp only [bind, EStateM.bind, h]

theorem bind_error {f : α → Decode β} (h : body s = .error e s') :
    (body >>= f) s = .error e s' := by
  simp only [bind, EStateM.bind, h]

theorem tryCatch_ok (handler : JsonException → Decode α) (h : body s = .ok a s') :
    tryCatch body handler s = .ok a s' := by
  simp only [tryCatch, tryCatchThe, MonadExceptOf.tryCatch, EStateM.tryCatch, h]

/-- What the body did to the store before it threw stays done. -/
theorem tryCatch_error (handler : JsonException → Decode α) (h : body s = .error e s') :
    tryCatch body handler s = handler e s' := by
  simp only [tryCatch, tryCatchThe, MonadExceptOf.tryCatch, EStateM.tryCatch, h]
  rfl

end Runs

/-- A run of a decoder from `s` returns, and with the objects it does what `d` says
of its result. -/
def Returns (s : CommandStore) (r : EStateM.Result JsonException CommandStore Bool)
    (d : Decoding) : Prop :=
  match d with
  | ⟨true, some c, log⟩ =>
    r = .ok true ⟨s.objects ++ [some c], some s.objects.length, s.log ++ log⟩
  | ⟨true, none, _⟩ => False
  | ⟨false, _, log⟩ => ∃ gone, (∀ o ∈ gone, o = none) ∧
    r = .ok false ⟨s.objects ++ gone, s.cmd, s.log ++ log⟩

/-- `fill` makes of the newest object what `read` makes of its value, and throws
when `read` does. -/
def Fills (fill : Nat → Decode Unit) (read : Command → Except JsonException Command) : Prop :=
  ∀ (objects : List (Option Command)) (cmd : Option Nat) (log : List LogLine) (c : Command),
    (∀ c', read c = .ok c' → fill objects.length ⟨objects ++ [some c], cmd, log⟩ =
      .ok () ⟨objects ++ [some c'], cmd, log⟩) ∧
    ∀ e, read c = .error e → ∃ c', fill objects.length ⟨objects ++ [some c], cmd, log⟩ =
      .error e ⟨objects ++ [some c'], cmd, log⟩

theorem modify_last (objects : List (Option Command)) (c : Command) (f : Command → Command) :
    (objects ++ [some c]).modify objects.length (Option.map f) = objects ++ [some (f c)] := by
  induction objects with
  | nil => rfl
  | cons o objects ih => simpa using ih

theorem fills_assign {α : Type} (set : α → Command → Command) (value : Except JsonException α) :
    Fills (fun p => assign p set value) (fun c => (fun v => set v c) <$> value) := by
  intro objects cmd log c
  cases value with
  | error e => exact ⟨nofun, fun e' h => ⟨c, by cases h; rfl⟩⟩
  | ok v =>
    refine ⟨fun c' h => ?_, nofun⟩
    obtain rfl := Except.ok.inj h
    rw [← modify_last]
    rfl

theorem fills_seq {fill fill' : Nat → Decode Unit}
    {read read' : Command → Except JsonException Command} (h : Fills fill read)
    (h' : Fills fill' read') :
    Fills (fun p => do fill p; fill' p) (fun c => read c >>= read') := by
  intro objects cmd log c
  obtain ⟨hok, herror⟩ := h objects cmd log c
  cases hread : read c with
  | error e =>
    obtain ⟨c', hc'⟩ := herror e hread
    simp only [bind, Except.bind, hread]
    exact ⟨nofun, fun e' h => ⟨c', by cases h; exact bind_error hc'⟩⟩
  | ok c' =>
    have hfirst := hok c' hread
    obtain ⟨hok', herror'⟩ := h' objects cmd log c'
    simp only [bind, Except.bind, hread]
    refine ⟨fun c'' h => ?_, fun e h => ?_⟩
    · exact (bind_ok hfirst).trans (hok' c'' h)
    · obtain ⟨c'', hc''⟩ := herror' e h
      exact ⟨c'', (bind_ok hfirst).trans hc''⟩

/-- **Filling in a `try` block**: the object is stored, or deleted again. -/
theorem tryFill_returns {fill : Nat → Decode Unit}
    {read : Command → Except JsonException Command} (h : Fills fill read) {empty : Command}
    {f : Json → Except JsonException Command} {j : Json} (hf : read empty = f j)
    (s : CommandStore) : Returns s (tryFill empty fill s) (tryDecode f none j) := by
  obtain ⟨hok, herror⟩ := h s.objects s.cmd s.log empty
  have hnew : newObject empty s = .ok s.objects.length ⟨s.objects ++ [some empty], s.cmd, s.log⟩ :=
    rfl
  rw [tryDecode, ← hf, tryFill, bind_ok hnew]
  cases hread : read empty with
  | error e =>
    obtain ⟨c, hc⟩ := herror e hread
    have hcatch := tryCatch_error (discard s.objects.length)
      (bind_error (f := fun _ => pure true) hc)
    have hdiscard : discard s.objects.length e ⟨s.objects ++ [some c], s.cmd, s.log⟩ =
        .ok false ⟨s.objects ++ [none], s.cmd, s.log ++ [(.error, e.what)]⟩ := by
      have hset : (s.objects ++ [some c]).set s.objects.length none = s.objects ++ [none] := by
        simp
      rw [← hset]
      rfl
    exact ⟨[none], by simp, bind_ok (hcatch.trans hdiscard)⟩
  | ok c =>
    have hfill : (do fill s.objects.length; return true : Decode Bool)
        ⟨s.objects ++ [some empty], s.cmd, s.log⟩ =
          .ok true ⟨s.objects ++ [some c], s.cmd, s.log⟩ := bind_ok (hok c hread)
    have hassign := bind_ok (f := fun filled => if filled then do
      assignCmd s.objects.length
      return true
      else return false) (tryCatch_ok (discard s.objects.length) hfill)
    simp only [Returns, List.append_nil]
    exact hassign

/-- The decoder registered for a kind. -/
def decoder (target : Target) (j : Json) : CommandKind → Decode Bool
  | .empty => decodeEmptyCommand target j
  | .download => decodeDownloadAfterExposure target j
  | .sequencer => decodeSetupSequencer target j
  | .intervalometer => decodeSetupIntervalometer target j

/-- **Each decoder** does with its object what its result says. -/
theorem decoder_returns (k : CommandKind) (s : CommandStore) :
    Returns s (decoder target j k s) (k.decoder target none j) := by
  have hid := fills_assign Command.setCmdId (readUInt8 target j keyCmdId)
  have hexposures := fills_assign Command.setNumExposures (readInt target j keyNumExposures)
  have htime := fills_assign Command.setExpTime (readInt target j keyExposureTime)
  have hinterval := fills_assign Command.setInterval (readInt target j keyInterval)
  have hdownload := fills_assign Command.setDownload (readBool j keyDownload)
  cases k <;> simp only [decoder, CommandKind.decoder]
  case empty =>
    rw [decodeEmptyCommand, JsonCommandDecoder.decodeEmptyCommand]
    refine tryFill_returns hid ?_ s
    simp [Command.setCmdId]
  case download =>
    rw [decodeDownloadAfterExposure, JsonCommandDecoder.decodeDownloadAfterExposure]
    refine tryFill_returns (fills_seq hid hdownload) ?_ s
    simp [Command.setCmdId, Command.setDownload]
  case sequencer =>
    rw [decodeSetupSequencer, JsonCommandDecoder.decodeSetupSequencer]
    refine tryFill_returns (fills_seq hid (fills_seq hexposures (fills_seq htime hdownload))) ?_ s
    simp [Command.setCmdId, Command.setNumExposures, Command.setExpTime, Command.setDownload]
  case intervalometer =>
    rw [decodeSetupIntervalometer, JsonCommandDecoder.decodeSetupIntervalometer]
    refine tryFill_returns
      (fills_seq hid (fills_seq hexposures (fills_seq htime (fills_seq hinterval hdownload)))) ?_ s
    simp [Command.setCmdId, Command.setNumExposures, Command.setExpTime, Command.setInterval,
      Command.setDownload]

theorem lookup_decoderMap {b : UInt8} {d : Decode Bool} :
    (decoderMap target j).lookup b = some d ↔
      ∃ id : CommandId, b = id.code ∧ d = decoder target j id.kind :=
  lookup_commandTable (g := decoder target j)

theorem Returns.exists_ok {s : CommandStore} {r : EStateM.Result JsonException CommandStore Bool}
    {d : Decoding} (h : Returns s r d) : ∃ s', r = .ok d.decoded s' := by
  match d, h with
  | ⟨true, some _, _⟩, h => exact ⟨_, h⟩
  | ⟨false, _, _⟩, ⟨_, _, h⟩ => exact ⟨_, h⟩

theorem Returns.of_rejected {s : CommandStore}
    {r : EStateM.Result JsonException CommandStore Bool} {d : Decoding} (h : Returns s r d)
    (hd : d.decoded = false) :
    ∃ gone, (∀ o ∈ gone, o = none) ∧ r = .ok false ⟨s.objects ++ gone, s.cmd, s.log ++ d.log⟩ := by
  match d, h, hd with
  | ⟨false, _, _⟩, h, _ => exact h

/-- **`decode` with its objects refines `decode`.** -/
theorem decode_returns (s : CommandStore) :
    Returns s (decode target j s) (JsonCommandDecoder.decode target none j) := by
  unfold decode JsonCommandDecoder.decode
  cases hread : readUInt8 target j keyCmdId with
  | error e =>
    have hthrow : readValue (.error e : Except JsonException UInt8) s = .error e s := rfl
    refine ⟨[], by simp, ?_⟩
    rw [tryCatch_error _ (bind_error hthrow), List.append_nil]
    rfl
  | ok b =>
    have hvalue : readValue (.ok b : Except JsonException UInt8) s = .ok b s := rfl
    cases hlookup : (decoderMap target j).lookup b with
    | none =>
      have hpure : (JsonCommandDecoder.decoderMap target).lookup b = none := by
        by_contra hsome
        obtain ⟨d, hd⟩ := Option.ne_none_iff_exists'.mp hsome
        obtain ⟨id, hid, -⟩ := (JsonCommandDecoder.lookup_decoderMap target).mp hd
        rw [(lookup_decoderMap target j).mpr ⟨id, hid, rfl⟩] at hlookup
        cases hlookup
      simp only [hpure]
      refine ⟨[], by simp, ?_⟩
      rw [tryCatch_ok _ ((bind_ok hvalue).trans (by simp only [hlookup]; rfl)), List.append_nil]
    | some d =>
      obtain ⟨id, rfl, rfl⟩ := (lookup_decoderMap target j).mp hlookup
      have hpure := (JsonCommandDecoder.lookup_decoderMap target).mpr ⟨id, rfl, rfl⟩
      have hdecoder := decoder_returns target j id.kind s
      obtain ⟨s', hs'⟩ := hdecoder.exists_ok
      rw [tryCatch_ok _ ((bind_ok hvalue).trans (by simp only [hlookup]; exact hs')), ← hs']
      simp only [hpure]
      exact hdecoder

end CommandStore

/-! ## What the handler casts -/

/-- **The handler takes every command whose class is the one it casts it to**, and
only those. -/
theorem onCommandReceived_isSome_iff {s : Controller} (hs : Invariant s) (c : Command) :
    (s.onCommandReceived c).isSome ↔ ∀ k, castTo c.cmdId = some k → c.kind = k := by
  unfold Controller.onCommandReceived castTo
  cases hid : CommandId.ofCode c.cmdId with
  | none => simp
  | some id =>
    cases hactive : s.activeFunction with
    | none => cases id <;> cases c <;> simp [Command.kind, Controller.setup, hactive]
    | some o =>
      obtain ⟨f, hf, -⟩ := hs.active o hactive
      cases id <;> cases c <;>
        simp [Command.kind, Controller.setup, hactive, hf, apply_ite Option.isSome]

/-- A command decoded is of the kind its number is registered for. -/
theorem kind_eq_castTo {c : Command} {id : CommandId} (hcode : c.cmdId = id.code)
    (hkind : c.kind = id.kind) : c.kind = (castTo c.cmdId).getD .empty := by
  rw [castTo, CommandId.ofCode_eq_some_iff.mpr hcode, hkind]
  cases id <;> rfl

/-! ## What a caller relies on -/

/-- An object of a registered command in which everything the command reads is
there and fits; there may be more. -/
structure WellFormed (j : Json) (id : CommandId) : Prop where
  cmdId : j.NumberAt keyCmdId id.code.toNat
  ints : ∀ key ∈ id.kind.intKeys, j.FitsAt .int key
  bools : ∀ key ∈ id.kind.boolKeys, ∃ b, j.BooleanAt key b

/-- `cmd` points to this command. -/
def CommandStore.Points (s : CommandStore) (c : Command) : Prop :=
  ∃ p, s.cmd = some p ∧ s.objects[p]? = some (some c)

/-- The store `s'` that `decode` leaves behind with its answer. -/
structure Settled (j : Json) (s s' : CommandStore) (decoded : Bool) : Prop where
  /-- On failure `*cmd` is as before, and no object is left behind. -/
  unchanged : decoded = false →
    s'.cmd = s.cmd ∧ s'.objects.filterMap id = s.objects.filterMap id
  /-- On success `*cmd` is of the class the handler casts it to, if to any. -/
  cast : decoded = true → ∃ c, s'.Points c ∧ c.kind = (castTo c.cmdId).getD .empty ∧
    ∀ h : Controller, StateMachine.Reachable Controller.step {} h →
      (h.onCommandReceived c).isSome
  /-- A well-formed command is decoded, each field from its own key. -/
  wellFormed : ∀ id, WellFormed j id →
    decoded = true ∧ ∃ c, s'.Points c ∧ c.cmdId = id.code ∧ Exact j c

theorem isArithmetic_of_fits {α : Type} {t : IntegerType α} {j : Json} (h : j.Fits t) :
    j.IsArithmetic := by
  obtain ⟨q, hq, -⟩ := h
  cases j <;> simp_all [number?, IsArithmetic]

theorem wellFormed_readable (target : Target) {j : Json} {id : CommandId} (h : WellFormed j id) :
    j.FitsAt .uint8 keyCmdId ∧ Readable target j id := by
  obtain ⟨value, hvalue, hnumber⟩ := h.cmdId
  have hfits : value.Fits .uint8 := ⟨_, hnumber, id.code, rfl⟩
  obtain ⟨b, hb⟩ := (get_isOk_iff .uint8 target.uint8 value).mpr (isArithmetic_of_fits hfits)
  have hexact := (get_exact_iff .uint8 target.uint8 hb).mpr hfits
  obtain rfl : b = id.code := by
    have hint : IntegerType.uint8.toInt b = id.code.toNat := by
      exact_mod_cast Option.some.inj (hexact.symm.trans hnumber)
    exact UInt8.toNat_inj.mp (Int.ofNat.inj hint)
  refine ⟨⟨value, hvalue, hfits⟩, ⟨value, hvalue, hb⟩, fun key hkey => ?_, h.bools⟩
  obtain ⟨number, hnumber, hint⟩ := h.ints key hkey
  exact ⟨number, hnumber, isArithmetic_of_fits hint⟩

/-- **`decode` settles every JSON value**: it returns, leaves `*cmd` alone on failure,
stores a command the handler can cast on success, and decodes what is well
formed. -/
theorem decode_settles (target : Target) (j : Json) (s : CommandStore) :
    ∃ decoded s', CommandStore.decode target j s = .ok decoded s' ∧ Settled j s s' decoded := by
  have hreturns := CommandStore.decode_returns target j s
  have hwell : ∀ id, WellFormed j id → ∃ c, decode target none j = .accepted c ∧
      c.cmdId = id.code ∧ Exact j c := by
    intro id h
    obtain ⟨hid, hreadable⟩ := wellFormed_readable target h
    obtain ⟨c, hcode, hkind, hreads⟩ := readable_iff.mp hreadable
    exact ⟨c, (decode_accepted_iff target).mpr ⟨id, hcode, hkind, hreads⟩, hcode,
      (exact_iff_fits hreads hcode hkind).mpr ⟨hid, h.ints⟩⟩
  cases hdecoded : (decode target none j).decoded with
  | false =>
    obtain ⟨gone, hgone, hrun⟩ := CommandStore.Returns.of_rejected hreturns hdecoded
    refine ⟨false, _, hrun, fun _ => ⟨rfl, ?_⟩, fun h => by simp at h, fun id hid => ?_⟩
    · have hnone : gone.filterMap id = [] := List.filterMap_eq_nil_iff.mpr hgone
      rw [List.filterMap_append, hnone, List.append_nil]
    · obtain ⟨c, hc, -⟩ := hwell id hid
      simp [hc, Decoding.accepted] at hdecoded
  | true =>
    obtain ⟨c, hc⟩ := decode_decoded target hdecoded
    obtain ⟨id, hcode, hkind, -⟩ := (decode_accepted_iff target).mp hc
    have hcast := kind_eq_castTo hcode hkind
    rw [hc] at hreturns
    have hpoints : CommandStore.Points
        ⟨s.objects ++ [some c], some s.objects.length, s.log ++ []⟩ c :=
      ⟨s.objects.length, rfl, by simp⟩
    refine ⟨true, _, hreturns, fun h => by simp at h, fun _ => ⟨c, hpoints, hcast, fun h hh => ?_⟩,
      fun id hid => ?_⟩
    · refine (onCommandReceived_isSome_iff (invariant_of_reachable hh) c).mpr fun k hk => ?_
      rw [hcast, hk, Option.getD_some]
    · obtain ⟨c', hc', hcode', hexact⟩ := hwell id hid
      obtain rfl : c = c' := by simpa [hc', Decoding.accepted] using hc.symm
      exact ⟨rfl, c, hpoints, hcode', hexact⟩

end CameraController
