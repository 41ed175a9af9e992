import PqBleHandshake.Foundation.Bytes
import Mathlib

/-!
# Canonical codecs and labels

An encoder into a buffer of a given capacity and a parser that undo each other, for messages of any type.
They are built from one frame function: the encoder writes the frame of a valid message, and the parser
accepts the frames of valid messages.

A field that is written behind its length determines itself and the rest; and sets of messages are disjoint
once each of their messages begins with the label of its set and no label is the beginning of another one.
-/

namespace PqBleHandshake.Foundation

variable {Message : Type}

/-- The encoder and the parser undo each other, and every valid message has an encoding. -/
structure RoundTrip (Valid : Message → Prop) (encode : Message → ℕ → Option Bytes)
    (parse : Bytes → Option Message) : Prop where
  encodes : ∀ {message}, Valid message → ∃ wire, ∀ capacity, wire.length ≤ capacity →
    encode message capacity = some wire
  parse_encode : ∀ {message capacity wire}, encode message capacity = some wire →
    parse wire = some message
  encode_parse : ∀ {message wire}, parse wire = some message → ∀ capacity, wire.length ≤ capacity →
    encode message capacity = some wire

/-- Both functions in terms of one frame. -/
structure Framed (Valid : Message → Prop) (frame : Message → Bytes)
    (encode : Message → ℕ → Option Bytes) (parse : Bytes → Option Message) : Prop where
  encoded : ∀ {message capacity wire}, encode message capacity = some wire →
    Valid message ∧ wire = frame message
  encode_eq : ∀ {message capacity}, Valid message → (frame message).length ≤ capacity →
    encode message capacity = some (frame message)
  parse_iff : ∀ {message wire}, parse wire = some message ↔ Valid message ∧ wire = frame message

namespace Framed

variable {Valid Valid' : Message → Prop} {frame : Message → Bytes}
  {encode encode' : Message → ℕ → Option Bytes} {parse parse' : Bytes → Option Message}

theorem roundTrip (h : Framed Valid frame encode parse) : RoundTrip Valid encode parse where
  encodes hvalid := ⟨_, fun _ ↦ h.encode_eq hvalid⟩
  parse_encode hencode := h.parse_iff.mpr (h.encoded hencode)
  encode_parse hparse capacity hroom := by
    obtain ⟨hvalid, rfl⟩ := h.parse_iff.mp hparse
    exact h.encode_eq hvalid hroom

/-- Two parsers of one frame differ by the messages they call valid. -/
theorem parse_iff_and (h : Framed Valid frame encode parse) (h' : Framed Valid' frame encode' parse')
    {Extra : Message → Prop} (hextra : ∀ message, Valid' message ↔ Valid message ∧ Extra message)
    (message : Message) (wire : Bytes) :
    parse' wire = some message ↔ parse wire = some message ∧ Extra message := by
  rw [h'.parse_iff, h.parse_iff, hextra, and_right_comm]

/-- Two parsers of one frame with the same valid messages are the same function. -/
theorem parse_eq (h : Framed Valid frame encode parse) (h' : Framed Valid frame encode' parse') :
    parse = parse' := by
  funext wire
  apply Option.ext
  intro message
  rw [h.parse_iff, h'.parse_iff]

end Framed

/-! ## Labels in front of messages -/

/-- A two-byte length in front of a short field determines the field and what follows. -/
theorem prefixed_inj {x x' y y' : Bytes} (hx : x.length < 65536) (hx' : x'.length < 65536)
    (h : bigEndian 2 x.length ++ x ++ y = bigEndian 2 x'.length ++ x' ++ y') : x = x' ∧ y = y' := by
  rw [List.append_assoc, List.append_assoc] at h
  obtain ⟨hlength, hrest⟩ := List.append_inj h (by rw [length_bigEndian, length_bigEndian])
  have hsame : x.length = x'.length := by
    have hvalue := congrArg ofBigEndian hlength
    rwa [ofBigEndian_bigEndian (by omega), ofBigEndian_bigEndian (by omega)] at hvalue
  exact List.append_inj hrest hsame

/-- Messages under labels of which none begins another are never the same. -/
theorem pairwise_disjoint_of_labels {κ : Type*} {messages : κ → Set Bytes} (label : κ → Bytes)
    (hlabel : ∀ use, ∀ message ∈ messages use, label use <+: message)
    (hfree : ∀ use use', use ≠ use' → ¬label use <+: label use') :
    Pairwise (Function.onFun Disjoint messages) := by
  intro use use' hne
  refine Set.disjoint_left.mpr fun message hmem hmem' ↦ ?_
  rcases List.prefix_or_prefix_of_prefix (hlabel use message hmem) (hlabel use' message hmem') with h | h
  · exact hfree use use' hne h
  · exact hfree use' use hne.symm h

end PqBleHandshake.Foundation
