import CameraController.CommandService
import CameraController.Framing

/-! # What a client sends is what is done

A client frames the texts of its telecommands, each of which has the fields of one command
under their keys (`Exact`).  `sent_obeyed`: however the bytes come in, and whatever the
program does meanwhile, the commands taken up are those sent, each once and in order. -/
namespace CameraController

open MessageDecoder StateMachine Streaming

/-! ## A text that has a command -/

/-- A number that the type has is read as it is. -/
theorem Json.get_of_number {α : Type} (t : IntegerType α) (outside : Double → α)
    (hinjective : Function.Injective t.toInt) {j : Json} {a : α}
    (h : j.number? = some (t.toInt a : ℚ)) : j.get t outside = .ok a := by
  have hok : ∃ b, j.get t outside = .ok b := by
    cases j with
    | numberUnsigned | numberInteger | numberFloat => exact ⟨_, rfl⟩
    | _ => cases h
  obtain ⟨b, hb⟩ := hok
  have hnumber := (Json.get_exact_iff t outside hb).mpr ⟨_, h, a, rfl⟩
  have hsame : t.toInt b = t.toInt a := by
    exact_mod_cast Option.some.inj (hnumber.symm.trans h)
  rw [hb, hinjective hsame]

/-- What stands under its keys is read. -/
theorem Exact.readsAs (target : Target) {j : Json} {c : Command} (h : Exact j c) :
    JsonCommandDecoder.ReadsAs target j c where
  cmdId := by
    obtain ⟨value, hvalue, hnumber⟩ := h.cmdId
    refine CheckedFold.bind_eq_ok_iff.mpr ⟨value, hvalue, ?_⟩
    exact Json.get_of_number .uint8 target.uint8
      (fun a b hab => UInt8.toNat_inj.mp (Int.ofNat_inj.mp hab)) (by exact_mod_cast hnumber)
  ints := h.ints.imp fun key n ⟨value, hvalue, hnumber⟩ =>
    CheckedFold.bind_eq_ok_iff.mpr ⟨value, hvalue, Json.get_of_number .int target.int
      (fun _ _ => Int32.toInt_inj.mp) hnumber⟩
  bools := h.bools.imp fun key b hb =>
    CheckedFold.bind_eq_ok_iff.mpr ⟨.boolean b, hb, rfl⟩

namespace CommandService

variable (parse : List UInt8 → Except JsonException Json) (target : Target)

/-- A text that fits a frame and has a command. -/
structure Carries (text : List UInt8) (c : Command) : Prop where
  pos : 1 ≤ text.length
  fits : text.length ≤ 0xFFFF
  exact : ∃ j, parse text = .ok j ∧ Exact j c

/-- What a client sends that frames these texts. -/
def sentStream (sent : List (List UInt8 × Command)) : List UInt8 :=
  ((sent.map Prod.fst).map (frame MessageType.telecommand.code)).flatten

variable {parse}

/-- **The message of such a text carries its command.** -/
theorem Carries.commandOf {text : List UInt8} {c : Command} (h : Carries parse text c) :
    commandOf parse target (Message.complete MessageType.telecommand.code text) = some c := by
  obtain ⟨j, hj, hexact⟩ := h.exact
  obtain ⟨id, hcode, hkind⟩ := hexact.registered
  have hdecode : JsonCommandDecoder.decode target none j = .accepted c :=
    (JsonCommandDecoder.decode_accepted_iff target).mpr
      ⟨id, hcode, hkind, hexact.readsAs target⟩
  simp [CommandService.commandOf, handleMessage, Message.complete_type, Message.payload_complete,
    hj, hdecode, Decoding.accepted]

variable (parse)

/-- **The commands framed** in what is sent are those of the texts. -/
theorem framed_sent {sent : List (List UInt8 × Command)}
    (h : ∀ p ∈ sent, Carries parse p.1 p.2) :
    framed parse target (sentStream sent) = sent.map Prod.snd := by
  have hbounds : ∀ text ∈ sent.map Prod.fst, 1 ≤ text.length ∧ text.length ≤ 0xFFFF := by
    intro text htext
    obtain ⟨p, hp, rfl⟩ := List.mem_map.mp htext
    exact ⟨(h p hp).pos, (h p hp).fits⟩
  rw [framed, sentStream,
    (consume_frames (show ({} : MessageDecoder).state = .start from rfl) _ hbounds).2,
    List.map_map, List.filterMap_map, ← List.filterMap_eq_map]
  exact List.filterMap_congr fun p hp => (h p hp).commandOf target

/-- What is framed in the first bytes of a stream comes first. -/
theorem framed_first {bytes stream : List UInt8} (h : bytes <+: stream) :
    framed parse target bytes <+: framed parse target stream := by
  obtain ⟨rest, rfl⟩ := h
  rw [framed, framed, consume_append, List.filterMap_append]
  exact List.prefix_append _ _

variable {s : CommandService}

/-- What has been obeyed of what is sent. -/
theorem sent_of_obeyed {sent : List (List UInt8 × Command)}
    (hsent : ∀ p ∈ sent, Carries parse p.1 p.2) {events : List Event}
    (h : Obeyed parse target s events) (hreceived : received events <+: sentStream sent) :
    commanded events <+: sent.map Prod.snd ∧
      (received events = sentStream sent → s.index = s.data.length →
        commanded events = sent.map Prod.snd) := by
  obtain ⟨hfirst, hall⟩ := commanded_of_obeyed parse target h
  rw [← framed_sent parse target hsent]
  refine ⟨hfirst.trans (framed_first parse target hreceived), fun hwhole hover => ?_⟩
  rw [hall hover, hwhole]

/-- **The commands sent are done**, each once and in order: in every run in which no more
comes in than what is sent, the commands taken up are the first of those sent, and all of
them once everything is received and `decode` is through with it. -/
theorem sent_obeyed {sent : List (List UInt8 × Command)}
    (hsent : ∀ p ∈ sent, Carries parse p.1 p.2) {events : List Event} {actions : List Action}
    (h : run (recording (step parse target) (event parse target)) ({}, []) actions =
      some (s, events))
    (hreceived : received events <+: sentStream sent) :
    commanded events <+: sent.map Prod.snd ∧
      (received events = sentStream sent → s.index = s.data.length →
        commanded events = sent.map Prod.snd) :=
  sent_of_obeyed parse target hsent (obeyed_of_run parse target h) hreceived

theorem carries_start : Carries (fun _ => .ok startJson) startText (.command 5) :=
  ⟨by decide, by decide, startJson, rfl, ⟨_, rfl⟩, ⟨.functionStart, rfl, rfl⟩, ⟨_, rfl, rfl⟩, .nil,
    .nil⟩

theorem sent_obeyed_start :
    let parse : List UInt8 → Except JsonException Json := fun _ => .ok startJson
    let events : List Event := [.received startSent, .commanded (.command 5)]
    Carries parse startText (.command 5) ∧ commanded events <+: [Command.command 5] ∧
      (received events = sentStream [(startText, .command 5)] →
        startSent.length = startSent.length → commanded events = [.command 5]) := by
  intro parse events
  have h : run (recording (step parse ⟨fun _ => 0, fun _ => 0⟩)
      (event parse ⟨fun _ => 0, fun _ => 0⟩)) ({}, [])
      (.received startSent :: List.replicate 6 .turn) =
      some ({
        decoder := ({ tempType := 2, tempSize1 := 12 } : MessageDecoder).finished 2 startText
        data := startSent
        index := startSent.length
        controller := {} }, events) := by
    decide +kernel
  have hsent : ∀ p ∈ [(startText, Command.command 5)], Carries parse p.1 p.2 := by
    intro p hp
    obtain rfl := List.mem_singleton.mp hp
    exact carries_start
  exact ⟨carries_start, sent_obeyed parse ⟨fun _ => 0, fun _ => 0⟩ hsent h (List.prefix_refl _)⟩

end CommandService
end CameraController
