import PqBleHandshake.Handshake.Phase5Central

/-!
# Both programs agree on v0.5 and v0.6

The frame codecs are canonical in both programs, both compute one handshake for every input, and the state machine
of the Central lets its calls through in the order of the protocol only.
-/

namespace PqBleHandshake

open Foundation

/-! ## Frames -/

section Frames

variable {magic : Bytes} {version subtype : UInt8} {payload wire : Bytes}

/-- The payloads that the length field can declare. -/
def LegacyMessage (message : UInt8 × Bytes) : Prop := message.2.length ≤ 0xFFFF

theorem exists_magic (hmagic : magic.length = 4) : ∃ m0 m1 m2 m3, magic = [m0, m1, m2, m3] := by
  match magic, hmagic with
  | [m0, m1, m2, m3], _ => exact ⟨m0, m1, m2, m3, rfl⟩

theorem length_legacyFrame (hmagic : magic.length = 4) (message : UInt8 × Bytes) :
    (legacyFrame magic version message).length = 8 + message.2.length := by
  simp only [legacyFrame, List.length_append, List.length_cons, List.length_nil, length_bigEndian, hmagic]

theorem declaredLength_legacyFrame (hmagic : magic.length = 4) {message : UInt8 × Bytes} (h : LegacyMessage message) :
    Resumption.declaredLength (legacyFrame magic version message) = message.2.length := by
  obtain ⟨subtype, payload⟩ := message
  have hlength : payload.length ≤ 0xFFFF := h
  obtain ⟨m0, m1, m2, m3, rfl⟩ := exists_magic hmagic
  have hvalue : ofBigEndian (bigEndian 2 payload.length) = payload.length := ofBigEndian_bigEndian (by omega)
  have hbytes : bigEndian 2 payload.length =
      [(legacyFrame [m0, m1, m2, m3] version (subtype, payload)).getD 6 0,
        (legacyFrame [m0, m1, m2, m3] version (subtype, payload)).getD 7 0] := rfl
  rw [hbytes] at hvalue
  simpa [ofBigEndian, Resumption.declaredLength] using hvalue

theorem legacyParseFrame_eq_ok_iff (hmagic : magic.length = 4) :
    legacyParseFrame magic version wire = .ok (subtype, payload) ↔
      LegacyMessage (subtype, payload) ∧ wire = legacyFrame magic version (subtype, payload) := by
  simp only [legacyParseFrame, except_bind_eq_ok_iff, require_eq_ok_iff, exists_and_left, exists_const]
  constructor
  · rintro ⟨hlength, ⟨htake, hversion⟩, hdeclared, hresult⟩
    cases hresult
    refine ⟨?_, eq_header_append hlength htake hversion hdeclared⟩
    have hhigh := (wire.getD 6 0).toNat_lt
    have hlow := (wire.getD 7 0).toNat_lt
    rw [Resumption.declaredLength] at hdeclared
    rw [LegacyMessage, List.length_drop]
    omega
  · rintro ⟨hvalid, rfl⟩
    have hlength := @length_legacyFrame magic version hmagic (subtype, payload)
    have hdeclared := @declaredLength_legacyFrame magic version hmagic _ hvalid
    have hrest : (legacyFrame magic version (subtype, payload)).take 4 = magic ∧
        (legacyFrame magic version (subtype, payload)).getD 4 0 = version ∧
        (legacyFrame magic version (subtype, payload)).getD 5 0 = subtype ∧
        (legacyFrame magic version (subtype, payload)).drop 8 = payload := by
      obtain ⟨m0, m1, m2, m3, rfl⟩ := exists_magic hmagic
      exact ⟨rfl, rfl, rfl, rfl⟩
    obtain ⟨htake, hversion, hsubtype, hpayload⟩ := hrest
    refine ⟨by omega, ⟨htake, hversion⟩, by rw [hlength, hdeclared], ?_⟩
    rw [hsubtype, hpayload]
    rfl

theorem framed_legacyFrame (hmagic : magic.length = 4) (version : UInt8) :
    Framed LegacyMessage (legacyFrame magic version)
      (fun message capacity ↦ (legacyEncodeFrame magic version message.1 message.2 capacity).toOption)
      (fun raw ↦ (legacyParseFrame magic version raw).toOption) where
  encoded {message capacity wire} h := by
    rw [toOption_eq_some_iff] at h
    simp only [legacyEncodeFrame, except_bind_eq_ok_iff, require_eq_ok_iff, exists_and_left, exists_const] at h
    obtain ⟨hvalid, -, hwire⟩ := h
    exact ⟨hvalid, (Except.ok.inj hwire).symm⟩
  encode_eq {message capacity} hvalid hroom := by
    have hlength : message.2.length ≤ 0xFFFF := hvalid
    rw [length_legacyFrame hmagic] at hroom
    rw [toOption_eq_some_iff, legacyEncodeFrame, require_bind_of hlength, require_bind_of hroom]
    rfl
  parse_iff {message wire} := by
    rw [toOption_eq_some_iff]
    exact legacyParseFrame_eq_ok_iff hmagic

theorem framed_parseLegacyFrame (hmagic : magic.length = 4) (version : UInt8) :
    Framed LegacyMessage (legacyFrame magic version)
      (fun message _ ↦ Python.encodeLegacyFrame magic version message.1.toNat message.2)
      (Python.parseLegacyFrame magic version) where
  encoded {message _ wire} h := by
    simp only [Python.encodeLegacyFrame, Option.bind_eq_bind, Option.bind_eq_some_iff, Option.guard_eq_some',
      exists_and_left, exists_const, Option.pure_def, Option.some.injEq] at h
    obtain ⟨-, hvalid, rfl⟩ := h
    refine ⟨hvalid, ?_⟩
    rw [Int.toNat_natCast, UInt8.ofNat_toNat]
    rfl
  encode_eq {message _} hvalid _ := by
    have hlength : message.2.length ≤ 0xFFFF := hvalid
    have hbyte := message.1.toNat_lt
    rw [Python.encodeLegacyFrame, Option.bind_eq_bind, guard_bind_of (by omega),
      guard_bind_of hlength, Int.toNat_natCast, UInt8.ofNat_toNat]
    rfl
  parse_iff {message wire} := by
    rw [← legacyParseFrame_eq_ok_iff hmagic]
    simp only [Python.parseLegacyFrame, legacyParseFrame, Option.bind_eq_bind, Option.bind_eq_some_iff,
      Option.guard_eq_some', exists_and_left, exists_const, Option.pure_def, except_bind_eq_ok_iff, require_eq_ok_iff,
      and_assoc]
    refine and_congr_right fun hlength ↦ and_congr_right fun _ ↦ and_congr_right fun _ ↦ ?_
    rw [ofBigEndian_slice hlength]
    simp [pure, Except.pure, Resumption.declaredLength]

/-- Both codecs of a phase: each undoes itself, and the parsers are one function. -/
structure LegacyCodec (magic : Bytes) (version : UInt8) (encode : UInt8 → Bytes → ℕ → Except Errno Bytes)
    (parse : Bytes → Except Errno (UInt8 × Bytes)) (pythonEncode : ℤ → Bytes → Option Bytes)
    (pythonParse : Bytes → Option (UInt8 × Bytes)) : Prop where
  firmware : RoundTrip LegacyMessage (fun message capacity ↦ (encode message.1 message.2 capacity).toOption)
    fun raw ↦ (parse raw).toOption
  central : RoundTrip LegacyMessage (fun message _ ↦ pythonEncode message.1.toNat message.2) pythonParse
  agree : ∀ raw, (parse raw).toOption = pythonParse raw
  isSome_iff : ∀ subtype payload, (pythonEncode subtype payload).isSome = true ↔
    (0 ≤ subtype ∧ subtype ≤ 0xFF) ∧ payload.length ≤ 0xFFFF
  frame : ∀ raw message, pythonParse raw = some message → raw = legacyFrame magic version message

theorem legacyCodec (hmagic : magic.length = 4) (version : UInt8) :
    LegacyCodec magic version (legacyEncodeFrame magic version) (legacyParseFrame magic version)
      (Python.encodeLegacyFrame magic version) (Python.parseLegacyFrame magic version) where
  firmware := (framed_legacyFrame hmagic version).roundTrip
  central := (framed_parseLegacyFrame hmagic version).roundTrip
  agree := congrFun ((framed_legacyFrame hmagic version).parse_eq (framed_parseLegacyFrame hmagic version))
  isSome_iff subtype payload := by
    rw [Option.isSome_iff_exists]
    simp only [Python.encodeLegacyFrame, Option.bind_eq_bind, Option.bind_eq_some_iff, Option.guard_eq_some',
      exists_and_left, exists_const, Option.pure_def, Option.some.injEq, exists_eq', and_true]
  frame raw message h := ((framed_parseLegacyFrame hmagic version).parse_iff.mp h).2

end Frames

theorem take_legacyFrame {magic : Bytes} (hmagic : magic.length = 4) (version : UInt8) (message : UInt8 × Bytes) :
    (legacyFrame magic version message).take 4 = magic := by
  rw [legacyFrame, List.append_assoc, List.append_assoc, List.take_left' hmagic]

theorem Format.take_frame (format : Format) (message : UInt8 × Bytes) :
    (format.frame message).take 4 = format.family.magic := by
  obtain ⟨family, version⟩ := format
  cases family <;> rfl

/-- No later parser accepts a frame of another magic. -/
theorem Parser.run_eq_none {onCurve : Bytes → Bool} {raw : Bytes} (parser : Parser)
    (h : ∀ family : Family, raw.take 4 ≠ family.magic) : parser.run onCurve raw = none := by
  refine Option.eq_none_iff_forall_ne_some.mpr fun message hrun ↦ h parser.format.family ?_
  rw [parser.eq_frame hrun, Format.take_frame]

/-- **The codecs of v0.5 and v0.6.**  Either codec undoes itself in both programs, whose parsers are one function.
No string belongs to both, or to a format of a later profile. -/
theorem legacy_codecs :
    LegacyCodec phase5Magic pqV05 pqPhase5EncodeFrame pqPhase5ParseFrame Python.encodePhase5Frame
        Python.parsePhase5Frame ∧
      LegacyCodec phase6Magic pqV06 pqPhase6EncodeFrame pqPhase6ParseFrame Python.encodePhase6Frame
        Python.parsePhase6Frame ∧
      (∀ raw, Python.parsePhase5Frame raw = none ∨ Python.parsePhase6Frame raw = none) ∧
      ∀ raw message, Python.parsePhase5Frame raw = some message ∨ Python.parsePhase6Frame raw = some message →
        ∀ onCurve (parser : Parser), parser.run onCurve raw = none := by
  have hcodec5 := @legacyCodec phase5Magic rfl pqV05
  have hcodec6 := @legacyCodec phase6Magic rfl pqV06
  have htake5 : ∀ raw message, Python.parsePhase5Frame raw = some message → raw.take 4 = phase5Magic := by
    intro raw message h
    rw [hcodec5.frame raw message h, take_legacyFrame rfl]
  have htake6 : ∀ raw message, Python.parsePhase6Frame raw = some message → raw.take 4 = phase6Magic := by
    intro raw message h
    rw [hcodec6.frame raw message h, take_legacyFrame rfl]
  refine ⟨hcodec5, hcodec6, fun raw ↦ ?_, fun raw message h onCurve parser ↦ parser.run_eq_none fun family ↦ ?_⟩
  · cases h5 : Python.parsePhase5Frame raw with
    | none => exact .inl rfl
    | some message =>
      refine .inr (Option.eq_none_iff_forall_ne_some.mpr fun message' h6 ↦ ?_)
      have hmagic := (htake5 raw message h5).symm.trans (htake6 raw message' h6)
      exact absurd hmagic (by decide)
  · rcases h with h | h
    · rw [htake5 raw message h]
      cases family <;> decide
    · rw [htake6 raw message h]
      cases family <;> decide

/-! ## The schedule -/

section Schedule

variable (crypto : Crypto) (inputs : FullInputs)

/-- The canonical transcript of v0.5. -/
def phase5Transcript : Bytes :=
  ([ascii "PQ-BLE-HANDSHAKE-v0.5", [0x01], [0x02], inputs.sid.bytes, inputs.pk.bytes, inputs.ct.bytes].map
    Resumption.putField).flatten

/-- The hash of the transcript. -/
def phase5Hash : Block 32 := crypto.hash (phase5Transcript inputs)

/-- The four keys. -/
def phase5Keys : Phase7Keys :=
  let block := hkdfExpand crypto (crypto.mac (phase5Hash crypto inputs) inputs.ss.bytes)
    (ascii "PQ-BLE-HANDSHAKE-v0.5/key-schedule") 128
  { application := .slice block 0 32
    sas := .slice block 32 32
    finishedC := .slice block 64 32
    finishedP := .slice block 96 32 }

/-- The SAS. -/
def phase5Sas : ℕ :=
  ofBigEndian (crypto.mac (phase5Keys crypto inputs).sas
    (ascii "PQ-BLE-HANDSHAKE-v0.5/SAS" ++ (phase5Hash crypto inputs).bytes)).bytes % 1000000

/-- The FINISHED_C tag. -/
def phase5TagC : Block 32 :=
  crypto.mac (phase5Keys crypto inputs).finishedC
    (ascii "PQ-BLE-HANDSHAKE-v0.5/FINISHED/C" ++ (phase5Hash crypto inputs).bytes)

/-- The FINISHED_P tag. -/
def phase5TagP : Block 32 :=
  crypto.mac (phase5Keys crypto inputs).finishedP
    (ascii "PQ-BLE-HANDSHAKE-v0.5/FINISHED/P" ++ (phase5Hash crypto inputs).bytes)

/-- The keys of the application data. -/
def phase5Directions (phase6 : Bool) : Phase7TrafficKeys :=
  let application := (phase5Keys crypto inputs).application
  if phase6 then phase6TrafficKeys crypto application
  else { centralToPeripheral := application, peripheralToCentral := application }

/-- The outputs of v0.5 and v0.6. -/
def phase5Outputs (phase6 : Bool) : FullOutputs where
  th0 := phase5Hash crypto inputs
  sas := some (phase5Sas crypto inputs)
  finishedC := legacyFrame phase5Magic pqV05 (pqPhase5FinishedC, (phase5TagC crypto inputs).bytes)
  finishedP := legacyFrame phase5Magic pqV05 (pqPhase5FinishedP, (phase5TagP crypto inputs).bytes)
  c2p := (phase5Directions crypto inputs phase6).centralToPeripheral
  p2c := (phase5Directions crypto inputs phase6).peripheralToCentral
  ivC2p := none
  ivP2c := none
  root := none
  rid := none

end Schedule

/-! ## The firmware computes the schedule -/

section Firmware

variable {crypto : Crypto} {faults : Faults} {inputs : FullInputs} {phase6 : Bool}

theorem pqPhase5Hmac_eq_some {key hash output : Block 32} {label : Bytes}
    (h : pqPhase5Hmac crypto faults key label hash = some output) : output = crypto.mac key (label ++ hash.bytes) := by
  unfold pqPhase5Hmac at h
  split_ifs at h
  exact pqCryptoMac_eq_some h

theorem pqPhase5Hmac_ok {label : Bytes} (h : label.length ≤ 32) (key hash : Block 32) :
    pqPhase5Hmac crypto {} key label hash = some (crypto.mac key (label ++ hash.bytes)) := by
  rw [pqPhase5Hmac, if_neg (by omega)]
  rfl

theorem foldl_or_eq_zero (pairs : List (UInt8 × UInt8)) (difference : UInt8) :
    pairs.foldl (fun difference pair ↦ difference ||| (pair.1 ^^^ pair.2)) difference = 0 ↔
      difference = 0 ∧ ∀ pair ∈ pairs, pair.1 = pair.2 := by
  induction pairs generalizing difference with
  | nil => simp
  | cons pair rest ih =>
    rw [List.foldl_cons, ih, List.forall_mem_cons, ← and_assoc]
    refine and_congr_left fun _ ↦ ?_
    rw [UInt8.or_eq_zero_iff, UInt8.xor_eq_zero_iff]

/-- The comparison in constant time is equality. -/
theorem pqPhase5FinishedEqual_iff {expected received : Block 32} :
    pqPhase5FinishedEqual expected received = true ↔ expected = received := by
  rw [pqPhase5FinishedEqual, decide_eq_true_iff, foldl_or_eq_zero]
  constructor
  · rintro ⟨-, h⟩
    have hlength : expected.bytes.length = received.bytes.length := by rw [Block.length_bytes, Block.length_bytes]
    refine Block.ext (List.ext_getElem hlength fun i hi hi' ↦ ?_)
    exact h _ (List.mem_iff_getElem.mpr ⟨i, by simp only [List.length_zip]; omega, List.getElem_zip⟩)
  · rintro rfl
    refine ⟨rfl, fun pair hmem ↦ ?_⟩
    obtain ⟨i, hi, rfl⟩ := List.mem_iff_getElem.mp hmem
    rw [List.getElem_zip]

theorem legacyEncodeFrame_ok {magic : Bytes} {version subtype : UInt8} {payload : Bytes}
    (h : 8 + payload.length ≤ legacyWireSize) :
    legacyEncodeFrame magic version subtype payload legacyWireSize =
      .ok (legacyFrame magic version (subtype, payload)) := by
  have hsize : payload.length ≤ 0xFFFF := by
    rw [legacyWireSize] at h
    omega
  rw [legacyEncodeFrame, require_bind_of hsize, require_bind_of h]
  rfl

theorem encode_ready : pqPhase5EncodeFrame pqPhase5ReadyForSas [] legacyWireSize =
    .ok (legacyFrame phase5Magic pqV05 (pqPhase5ReadyForSas, [])) :=
  legacyEncodeFrame_ok (by decide)

theorem encode_finishedP (tag : Block 32) : pqPhase5EncodeFrame pqPhase5FinishedP tag.bytes legacyWireSize =
    .ok (legacyFrame phase5Magic pqV05 (pqPhase5FinishedP, tag.bytes)) :=
  legacyEncodeFrame_ok (by rw [tag.length_bytes]; decide)

/-- The START job computes the schedule. -/
theorem phase5StartResult_eq_some {capacity : ℕ} {start : Phase5Start}
    (h : phase5StartResult crypto faults inputs.ss inputs.sid inputs.pk inputs.ct capacity = some start) :
    start.hash = phase5Hash crypto inputs ∧ start.keys = phase5Keys crypto inputs ∧
      start.sas = phase5Sas crypto inputs := by
  simp only [phase5StartResult, pqPhase5ComputeSas, Option.bind_eq_bind, Option.bind_eq_some_iff, Option.pure_def,
    Option.some.injEq] at h
  obtain ⟨hash, hhash, keys, hkeys, sas, ⟨mac, hmac, rfl⟩, ready, -, rfl⟩ := h
  have hhash : hash = phase5Hash crypto inputs := pqCryptoHashParts_eq_some hhash
  have hkeys : keys = phase5Keys crypto inputs := by
    unfold pqPhase5DeriveKeys at hkeys
    dsimp only at hkeys
    split_ifs at hkeys
    rw [← Option.some.inj hkeys, hhash]
    rfl
  refine ⟨hhash, hkeys, ?_⟩
  rw [sasRemainder_eq, pqPhase5Hmac_eq_some hmac, hkeys, hhash]
  rfl

theorem phase5StartResult_ok (crypto : Crypto) (inputs : FullInputs) :
    ∃ start, phase5StartResult crypto {} inputs.ss inputs.sid inputs.pk inputs.ct legacyWireSize = some start ∧
      start.ready = legacyFrame phase5Magic pqV05 (pqPhase5ReadyForSas, []) := by
  have hsas : ∀ key hash : Block 32, ∃ sas, pqPhase5ComputeSas crypto {} key hash = some sas := fun key hash ↦ by
    rw [pqPhase5ComputeSas, pqPhase5Hmac_ok (by decide)]
    exact ⟨_, rfl⟩
  obtain ⟨sas, hsas⟩ := hsas (phase5Keys crypto inputs).sas (phase5Hash crypto inputs)
  refine ⟨⟨phase5Hash crypto inputs, phase5Keys crypto inputs, sas, _⟩, ?_, rfl⟩
  have hhash : pqPhase5TranscriptHash crypto {} inputs.sid inputs.pk inputs.ct = some (phase5Hash crypto inputs) := rfl
  have hkeys : pqPhase5DeriveKeys crypto {} inputs.ss (phase5Hash crypto inputs) = some (phase5Keys crypto inputs) :=
    rfl
  simp only [phase5StartResult, hhash, hkeys, hsas, encode_ready, Except.toOption, Option.bind_eq_bind,
    Option.bind_some, Option.pure_def]
  rfl

theorem phase5FinishedResult_eq_some {received : Block 32} {finishedP : Bytes}
    (h : phase5FinishedResult crypto faults (phase5Keys crypto inputs) (phase5Hash crypto inputs) received
      legacyWireSize = some finishedP) :
    received = phase5TagC crypto inputs ∧ finishedP = (phase5Outputs crypto inputs phase6).finishedP := by
  simp only [phase5FinishedResult, Option.bind_eq_bind, Option.bind_eq_some_iff, Option.guard_eq_some',
    exists_and_left, exists_const, pqPhase5FinishedEqual_iff, encode_finishedP, Except.toOption, Option.some.injEq] at h
  obtain ⟨expected, hexpected, rfl, finished, hfinished, rfl⟩ := h
  exact ⟨pqPhase5Hmac_eq_some hexpected, by rw [pqPhase5Hmac_eq_some hfinished]; rfl⟩

theorem phase5FinishedResult_ok (crypto : Crypto) (inputs : FullInputs) (phase6 : Bool) :
    phase5FinishedResult crypto {} (phase5Keys crypto inputs) (phase5Hash crypto inputs) (phase5TagC crypto inputs)
      legacyWireSize = some (phase5Outputs crypto inputs phase6).finishedP := by
  have hequal := pqPhase5FinishedEqual_iff.mpr (Eq.refl (phase5TagC crypto inputs))
  have htagC : pqPhase5ComputeFinishedC crypto {} (phase5Keys crypto inputs).finishedC (phase5Hash crypto inputs) =
      some (phase5TagC crypto inputs) := pqPhase5Hmac_ok (by decide) _ _
  have htagP : pqPhase5ComputeFinishedP crypto {} (phase5Keys crypto inputs).finishedP (phase5Hash crypto inputs) =
      some (phase5TagP crypto inputs) := pqPhase5Hmac_ok (by decide) _ _
  simp only [phase5FinishedResult, htagC, htagP, Option.bind_eq_bind, Option.bind_some, guard_bind_of hequal,
    encode_finishedP, Except.toOption]
  rfl

theorem phase5Traffic_eq_some {keys : Phase7TrafficKeys}
    (h : phase5Traffic crypto faults phase6 (phase5Keys crypto inputs).application = some keys) :
    keys = phase5Directions crypto inputs phase6 := by
  unfold phase5Traffic at h
  unfold phase5Directions
  cases phase6 with
  | false => exact (Option.some.inj h).symm
  | true => exact pqPhase6DeriveTrafficKeys_eq_some h

/-- The firmware answers the expected FINISHED_C only, with the outputs of the schedule. -/
theorem phase5Firmware_answers {ready received : Bytes} {answer : Bytes → Option FullOutputs} {value : FullOutputs}
    (hstart : phase5Firmware crypto phase6 inputs faults = some (ready, answer))
    (hanswer : answer received = some value) :
    received = (phase5Outputs crypto inputs phase6).finishedC ∧ value = phase5Outputs crypto inputs phase6 := by
  simp only [phase5Firmware, Option.bind_eq_bind, Option.bind_eq_some_iff, Option.pure_def, Option.some.injEq,
    Prod.mk.injEq] at hstart
  obtain ⟨start, hstart, rfl, rfl⟩ := hstart
  obtain ⟨hhash, hkeys, hsas⟩ := phase5StartResult_eq_some hstart
  simp only [Option.bind_eq_some_iff, Option.guard_eq_some', Prod.exists, exists_and_left, exists_const,
    Option.some.injEq, hhash, hkeys, hsas] at hanswer
  obtain ⟨subtype, payload, hparse, ⟨rfl, hlength⟩, finishedP, hfinished, traffic, htraffic, rfl⟩ := hanswer
  obtain ⟨-, rfl⟩ := (framed_legacyFrame (rfl : phase5Magic.length = 4) pqV05).parse_iff.mp hparse
  obtain ⟨htag, rfl⟩ := @phase5FinishedResult_eq_some crypto faults inputs phase6 _ _ hfinished
  obtain rfl := phase5Traffic_eq_some htraffic
  have hpayload : payload = (phase5TagC crypto inputs).bytes := by
    rw [← htag, Block.ofBytes_eq_self hlength]
  subst hpayload
  exact ⟨rfl, rfl⟩

/-- With no platform failure the firmware sends READY_FOR_SAS and answers the expected FINISHED_C. -/
theorem phase5Firmware_ok (crypto : Crypto) (phase6 : Bool) (inputs : FullInputs) :
    ∃ answer, phase5Firmware crypto phase6 inputs {} =
        some (legacyFrame phase5Magic pqV05 (pqPhase5ReadyForSas, []), answer) ∧
      answer (phase5Outputs crypto inputs phase6).finishedC = some (phase5Outputs crypto inputs phase6) := by
  obtain ⟨start, hstart, hready⟩ := phase5StartResult_ok crypto inputs
  obtain ⟨hhash, hkeys, hsas⟩ := phase5StartResult_eq_some hstart
  have hparse : (pqPhase5ParseFrame (phase5Outputs crypto inputs phase6).finishedC).toOption =
      some (pqPhase5FinishedC, (phase5TagC crypto inputs).bytes) :=
    (framed_legacyFrame rfl pqV05).parse_iff.mpr ⟨by rw [LegacyMessage, Block.length_bytes]; decide, rfl⟩
  have htraffic : phase5Traffic crypto {} phase6 (phase5Keys crypto inputs).application =
      some (phase5Directions crypto inputs phase6) := by
    cases phase6 <;> rfl
  simp only [phase5Firmware, hstart, Option.bind_eq_bind, Option.bind_some, Option.pure_def, hready]
  refine ⟨_, rfl, ?_⟩
  simp only [hparse, Option.bind_some, hhash, hkeys, hsas, Block.ofBytes_self,
    phase5FinishedResult_ok crypto inputs phase6, htraffic]
  exact Option.bind_eq_some_iff.mpr ⟨(), by simp only [Option.guard_eq_some', Block.length_bytes, and_self], rfl⟩

end Firmware

/-! ## The Central computes the schedule -/

namespace Python

section Central

variable {crypto : Crypto} {inputs : FullInputs} {phase6 : Bool}

theorem computePhase5TranscriptHash_eq (crypto : Crypto) (inputs : FullInputs) :
    computePhase5TranscriptHash crypto inputs.sid.bytes inputs.pk.bytes inputs.ct.bytes =
      some (phase5Hash crypto inputs) := by
  have hfields : [ascii "PQ-BLE-HANDSHAKE-v0.5", [0x01], [0x02], inputs.sid.bytes, inputs.pk.bytes,
      inputs.ct.bytes].mapM lengthPrefixed = some ([ascii "PQ-BLE-HANDSHAKE-v0.5", [0x01], [0x02], inputs.sid.bytes,
        inputs.pk.bytes, inputs.ct.bytes].map Resumption.putField) := by
    have hdomain : (ascii "PQ-BLE-HANDSHAKE-v0.5").length = 21 := by decide
    refine mapM_lengthPrefixed fun field hmem ↦ ?_
    simp only [List.mem_cons, List.not_mem_nil, or_false] at hmem
    rcases hmem with rfl | rfl | rfl | rfl | rfl | rfl <;> simp [hdomain]
  simp only [computePhase5TranscriptHash, buildPhase5Transcript, requireSize_block, hfields, Option.bind_eq_bind,
    Option.bind_some]
  rfl

theorem derivePhase5Keys_eq (crypto : Crypto) (inputs : FullInputs) :
    derivePhase5Keys crypto inputs.ss.bytes (phase5Hash crypto inputs).bytes = some (phase5Keys crypto inputs) := by
  simp only [derivePhase5Keys, requireSize_block, Option.bind_eq_bind, Option.bind_some, Option.pure_def]
  rfl

theorem encodeFinishedC_eq (tag : Block 32) :
    encodePhase5Frame pqPhase5FinishedC.toNat tag.bytes =
      some (legacyFrame phase5Magic pqV05 (pqPhase5FinishedC, tag.bytes)) := by
  have hvalid : LegacyMessage (pqPhase5FinishedC, tag.bytes) := by
    rw [LegacyMessage, Block.length_bytes]
    decide
  exact (framed_parseLegacyFrame (rfl : phase5Magic.length = 4) pqV05).encode_eq hvalid le_rfl

theorem confirmSas_eq (tag : Block 32) :
    Phase5CentralStateMachine.confirmSas tag.bytes .waitSasConfirm =
      (some (legacyFrame phase5Magic pqV05 (pqPhase5FinishedC, tag.bytes)), .waitFinishedP) := by
  rw [← encodeFinishedC_eq, Phase5CentralStateMachine.confirmSas, Phase5Call.requiring, if_pos rfl, requireSize_block]

theorem verifyFinished_iff {tag : Block 32} {received : Bytes} :
    verifyFinished tag.bytes received = true ↔ received = tag.bytes := by
  simp only [verifyFinished, Block.length_bytes, decide_true, Bool.true_and, Bool.and_eq_true, decide_eq_true_eq]
  constructor
  · exact fun h ↦ h.2.symm
  · rintro rfl
    exact ⟨Block.length_bytes _, rfl⟩

theorem receiveFinishedP_eq_some {frame : UInt8 × Bytes} {tag : Block 32} {taken : Unit} :
    (Phase5CentralStateMachine.receiveFinishedP frame tag.bytes .waitFinishedP).1 = some taken ↔
      frame = (pqPhase5FinishedP, tag.bytes) := by
  obtain ⟨subtype, payload⟩ := frame
  simp only [Phase5CentralStateMachine.receiveFinishedP, Phase5Call.requiring, if_true]
  by_cases hfinished : subtype = pqPhase5FinishedP
  · subst hfinished
    rw [if_neg (by decide), if_neg (by decide), Prod.mk.injEq, ← verifyFinished_iff]
    cases verifyFinished tag.bytes payload <;> simp
  · have hother : (subtype, payload) ≠ (pqPhase5FinishedP, tag.bytes) := fun h ↦ hfinished (congrArg Prod.fst h)
    rw [if_pos hfinished, ite_self]
    simp only [hother, reduceCtorEq]

theorem applicationKeys_eq (crypto : Crypto) (phase6 : Bool) (inputs : FullInputs) :
    applicationKeys crypto phase6 (phase5Keys crypto inputs).application =
      some (phase5Directions crypto inputs phase6) := by
  cases phase6 with
  | false => rfl
  | true =>
    simp only [applicationKeys, derivePhase6TrafficKeys, requireSize_block, Option.bind_eq_bind, Option.bind_some,
      if_true]
    rfl

/-- The Central sends the expected FINISHED_C after READY_FOR_SAS only, and accepts the expected FINISHED_P and no
other. -/
theorem phase5Central_eq (crypto : Crypto) (phase6 : Bool) (inputs : FullInputs) (ready : Bytes) :
    ∃ accept, (∀ received value, accept received = some value ↔
        received = (phase5Outputs crypto inputs phase6).finishedP ∧ value = phase5Outputs crypto inputs phase6) ∧
      phase5Central crypto phase6 inputs ready =
        if ready = legacyFrame phase5Magic pqV05 (pqPhase5ReadyForSas, []) then
          some ((phase5Outputs crypto inputs phase6).finishedC, accept)
        else none := by
  have hframed := framed_parseLegacyFrame (rfl : phase5Magic.length = 4) pqV05
  have hsas : computePhase5Sas crypto (phase5Keys crypto inputs).sas.bytes (phase5Hash crypto inputs).bytes =
      some (phase5Sas crypto inputs) := by
    simp only [computePhase5Sas, requireSize_block, Option.bind_eq_bind, Option.bind_some, Option.pure_def]
    rfl
  have htagC : computeFinishedC crypto (phase5Keys crypto inputs).finishedC.bytes (phase5Hash crypto inputs).bytes =
      some (phase5TagC crypto inputs) := by
    simp only [computeFinishedC, computeFinished, requireSize_block, Option.bind_eq_bind, Option.bind_some,
      Option.pure_def]
    rfl
  have htagP : computeFinishedP crypto (phase5Keys crypto inputs).finishedP.bytes (phase5Hash crypto inputs).bytes =
      some (phase5TagP crypto inputs) := by
    simp only [computeFinishedP, computeFinished, requireSize_block, Option.bind_eq_bind, Option.bind_some,
      Option.pure_def]
    rfl
  have hstart : Phase5CentralStateMachine.start inputs.sid.bytes .empty =
      (some (ascii "START5" ++ inputs.sid.bytes), .waitReadyForSas) := by
    rw [Phase5CentralStateMachine.start, Phase5Call.requiring, if_pos rfl, buildStart5, requireSize_block]
    rfl
  refine ⟨fun finishedP ↦ do
    let frame ← parsePhase5Frame finishedP
    (Phase5CentralStateMachine.receiveFinishedP frame (phase5TagP crypto inputs).bytes .waitFinishedP).1
    return { phase5Outputs crypto inputs phase6 with finishedP }, fun received value ↦ ?_, ?_⟩
  · simp only [Option.bind_eq_bind, Option.bind_eq_some_iff, Option.pure_def, Option.some.injEq,
      receiveFinishedP_eq_some]
    constructor
    · rintro ⟨frame, hparse, -, rfl, rfl⟩
      obtain ⟨-, rfl⟩ := hframed.parse_iff.mp hparse
      exact ⟨rfl, rfl⟩
    · rintro ⟨rfl, rfl⟩
      have hvalid : LegacyMessage (pqPhase5FinishedP, (phase5TagP crypto inputs).bytes) := by
        rw [LegacyMessage, Block.length_bytes]
        decide
      exact ⟨_, hframed.parse_iff.mpr ⟨hvalid, rfl⟩, (), rfl, rfl⟩
  · simp only [phase5Central, computePhase5TranscriptHash_eq, derivePhase5Keys_eq, hsas, htagC, htagP, hstart,
      applicationKeys_eq, Option.bind_eq_bind, Option.bind_some, Option.pure_def]
    split_ifs with hready
    · have hparse : parsePhase5Frame ready = some (pqPhase5ReadyForSas, []) :=
        hframed.parse_iff.mpr ⟨Nat.zero_le _, hready⟩
      have htaken : Phase5CentralStateMachine.receiveReadyForSas (pqPhase5ReadyForSas, []) .waitReadyForSas =
          (some (), .waitSasConfirm) := rfl
      simp only [hparse, htaken, Option.bind_some, confirmSas_eq]
      rfl
    · cases hparse : parsePhase5Frame ready with
      | none => rfl
      | some frame =>
        obtain ⟨-, hframe⟩ := hframed.parse_iff.mp hparse
        have htaken : (Phase5CentralStateMachine.receiveReadyForSas frame .waitReadyForSas).1 = none := by
          rw [Phase5CentralStateMachine.receiveReadyForSas, Phase5Call.requiring, if_pos rfl, if_pos]
          by_contra hframe'
          obtain ⟨hsubtype, hpayload⟩ := not_or.mp hframe'
          obtain ⟨subtype, payload⟩ := frame
          obtain rfl := not_not.mp hsubtype
          obtain rfl := not_not.mp hpayload
          exact hready hframe
        simp only [Option.bind_some, htaken, Option.bind_none]

end Central

end Python

/-- **v0.5 and v0.6.**  For every input the two programs complete with each other, and two sides that completed,
whatever they received and whichever platform calls failed, exchanged the expected frames and hold equal hashes,
SAS values and application keys. -/
theorem legacy_interoperate (crypto : Crypto) (phase6 : Bool) (inputs : FullInputs) :
    Interoperate True (phase5Firmware crypto phase6 inputs) (Python.phase5Central crypto phase6 inputs) := by
  refine Interoperate.of_outputs (phase5Outputs crypto inputs phase6) (fun _ ↦ ?_) (fun faults ready answer received
    value hstart hanswer ↦ phase5Firmware_answers hstart hanswer) fun ready finishedC accept h ↦ ⟨trivial, ?_⟩
  · obtain ⟨answer, hfirmware, hanswer⟩ := phase5Firmware_ok crypto phase6 inputs
    obtain ⟨accept, haccept, hcentral⟩ := Python.phase5Central_eq crypto phase6 inputs
      (legacyFrame phase5Magic pqV05 (pqPhase5ReadyForSas, []))
    rw [if_pos rfl] at hcentral
    exact ⟨_, answer, hfirmware, hanswer, accept, hcentral, (haccept _ _).mpr ⟨rfl, rfl⟩⟩
  · obtain ⟨accept', haccept, hcentral⟩ := Python.phase5Central_eq crypto phase6 inputs ready
    rw [h] at hcentral
    split_ifs at hcentral
    cases hcentral
    exact ⟨rfl, fun received value hvalue ↦ (haccept received value).mp hvalue⟩

/-! ## The order of the calls -/

namespace Python

/-- The methods of the state machine with their arguments. -/
inductive Phase5Method
  | start (sid : Bytes)
  | receiveReadyForSas (frame : UInt8 × Bytes)
  | rejectSas
  | confirmSas (finishedC : Bytes)
  | receiveFinishedP (frame : UInt8 × Bytes) (expected : Bytes)
  | requestApplicationData
  | completeApplicationData

/-- A call: what it hands out, `none` if it raises, and the state after it. -/
def Phase5Method.call (method : Phase5Method) : Phase5Call (Option Bytes) := fun state ↦
  match method with
  | .start sid => (Phase5CentralStateMachine.start sid state).map (Option.map some) id
  | .receiveReadyForSas frame =>
    (Phase5CentralStateMachine.receiveReadyForSas frame state).map (Option.map fun _ ↦ none) id
  | .rejectSas => (Phase5CentralStateMachine.rejectSas state).map (Option.map fun _ ↦ none) id
  | .confirmSas finishedC => (Phase5CentralStateMachine.confirmSas finishedC state).map (Option.map some) id
  | .receiveFinishedP frame expected =>
    (Phase5CentralStateMachine.receiveFinishedP frame expected state).map (Option.map fun _ ↦ none) id
  | .requestApplicationData => (Phase5CentralStateMachine.requestApplicationData state).map (Option.map some) id
  | .completeApplicationData =>
    (Phase5CentralStateMachine.completeApplicationData state).map (Option.map fun _ ↦ none) id

/-- A machine with the calls that returned so far. -/
structure Phase5Run where
  state : Phase5CentralState := .empty
  returned : List (Phase5Method × Option Bytes) := []

/-- One more call. -/
def Phase5Run.perform (run : Phase5Run) (method : Phase5Method) : Phase5Run :=
  let (result, state) := method.call run.state
  { state, returned := run.returned ++ (result.map fun out ↦ (method, out)).toList }

/-- What the first `start` returns; for a session identifier of a wrong size it raises. -/
def startReturns (sid : Bytes) : List (Phase5Method × Option Bytes) :=
  if sid.length = 16 then [(.start sid, some (ascii "START5" ++ sid))] else []

/-- What can have returned when the machine is in a state, after what the first `start` returned. -/
inductive Phase5Order (begun : List (Phase5Method × Option Bytes)) : Phase5Run → Prop
  | started : Phase5Order begun ⟨.waitReadyForSas, begun⟩
  | ready {returned} (h : Phase5Order begun ⟨.waitReadyForSas, returned⟩) : Phase5Order begun
    ⟨.waitSasConfirm, returned ++ [(.receiveReadyForSas (pqPhase5ReadyForSas, []), none)]⟩
  | rejected {returned} (h : Phase5Order begun ⟨.waitSasConfirm, returned⟩) : Phase5Order begun
    ⟨.aborted, returned ++ [(.rejectSas, none)]⟩
  | confirmed {returned} (tag : Block 32) (h : Phase5Order begun ⟨.waitSasConfirm, returned⟩) : Phase5Order begun
    ⟨.waitFinishedP, returned ++
      [(.confirmSas tag.bytes, some (legacyFrame phase5Magic pqV05 (pqPhase5FinishedC, tag.bytes)))]⟩
  /-- FINISHED_P did not verify: the call raised. -/
  | failed {returned} (h : Phase5Order begun ⟨.waitFinishedP, returned⟩) : Phase5Order begun ⟨.aborted, returned⟩
  | authenticated {returned} (tag : Block 32) (h : Phase5Order begun ⟨.waitFinishedP, returned⟩) : Phase5Order begun
    ⟨.authenticated, returned ++ [(.receiveFinishedP (pqPhase5FinishedP, tag.bytes) tag.bytes, none)]⟩
  | requested {returned} (h : Phase5Order begun ⟨.authenticated, returned⟩) : Phase5Order begun
    ⟨.waitApplicationData, returned ++
      [(.requestApplicationData, some (legacyFrame phase5Magic pqV05 (pqPhase5DataRequest, [])))]⟩
  | complete {returned} (h : Phase5Order begun ⟨.waitApplicationData, returned⟩) : Phase5Order begun
    ⟨.complete, returned ++ [(.completeApplicationData, none)]⟩

variable {begun : List (Phase5Method × Option Bytes)}

/-- A machine that was started is not empty again. -/
theorem Phase5Order.state_ne {run : Phase5Run} (h : Phase5Order begun run) : run.state ≠ .empty := by
  cases h <;> nofun

/-- The state that a method requires. -/
def Phase5Method.expected : Phase5Method → Phase5CentralState
  | .start _ => .empty
  | .receiveReadyForSas _ => .waitReadyForSas
  | .rejectSas | .confirmSas _ => .waitSasConfirm
  | .receiveFinishedP _ _ => .waitFinishedP
  | .requestApplicationData => .authenticated
  | .completeApplicationData => .waitApplicationData

theorem Phase5Method.call_of_ne {method : Phase5Method} {state : Phase5CentralState} (h : state ≠ method.expected) :
    method.call state = (none, state) := by
  cases method <;> exact congrArg (Prod.map _ id) (if_neg h)

/-- A call that raises and stays. -/
theorem Phase5Run.perform_stays {run : Phase5Run} {method : Phase5Method}
    (hcall : method.call run.state = (none, run.state)) : run.perform method = run := by
  rw [Phase5Run.perform, hcall]
  simp

theorem Phase5Order.stays {run : Phase5Run} (h : Phase5Order begun run) {method : Phase5Method}
    (hcall : method.call run.state = (none, run.state)) : Phase5Order begun (run.perform method) := by
  rw [Phase5Run.perform_stays hcall]
  exact h

/-- The first `start`. -/
theorem Phase5Order.start (sid : Bytes) : Phase5Order (startReturns sid) (Phase5Run.perform {} (.start sid)) := by
  unfold startReturns
  split_ifs with hsid
  · have hcall : (Phase5Method.start sid).call .empty = (some (some (ascii "START5" ++ sid)), .waitReadyForSas) := by
      simp [Phase5Method.call, Phase5CentralStateMachine.start, Phase5Call.requiring, buildStart5, requireSize, hsid]
    rw [Phase5Run.perform, hcall]
    exact .started
  · -- The state has moved on before the size is checked.
    have hcall : (Phase5Method.start sid).call .empty = (none, .waitReadyForSas) := by
      simp [Phase5Method.call, Phase5CentralStateMachine.start, Phase5Call.requiring, buildStart5, requireSize, hsid]
    rw [Phase5Run.perform, hcall]
    exact .started

/-- Every later call keeps the order. -/
theorem Phase5Order.perform {run : Phase5Run} (h : Phase5Order begun run) (method : Phase5Method) :
    Phase5Order begun (run.perform method) := by
  obtain ⟨state, returned⟩ := run
  by_cases hstate : state = method.expected
  swap
  · exact h.stays (Phase5Method.call_of_ne hstate)
  cases method with
  | start sid => exact absurd hstate h.state_ne
  | receiveReadyForSas frame =>
    obtain rfl : state = .waitReadyForSas := hstate
    obtain ⟨subtype, payload⟩ := frame
    by_cases hframe : subtype ≠ pqPhase5ReadyForSas ∨ payload ≠ []
    · refine h.stays ?_
      simp only [Phase5Method.call, Phase5CentralStateMachine.receiveReadyForSas, Phase5Call.requiring, if_true,
        if_pos hframe]
      rfl
    · obtain ⟨hsubtype, hpayload⟩ := not_or.mp hframe
      obtain rfl := not_not.mp hsubtype
      obtain rfl := not_not.mp hpayload
      exact .ready h
  | rejectSas =>
    obtain rfl : state = .waitSasConfirm := hstate
    exact .rejected h
  | confirmSas finishedC =>
    obtain rfl : state = .waitSasConfirm := hstate
    by_cases hsize : finishedC.length = 32
    · obtain ⟨tag, rfl⟩ : ∃ tag : Block 32, finishedC = tag.bytes := ⟨⟨finishedC, hsize⟩, rfl⟩
      rw [Phase5Run.perform, Phase5Method.call, confirmSas_eq]
      exact .confirmed tag h
    · refine h.stays ?_
      simp only [Phase5Method.call, Phase5CentralStateMachine.confirmSas, Phase5Call.requiring, if_true, requireSize,
        dif_neg hsize]
      rfl
  | receiveFinishedP frame expected =>
    obtain rfl : state = .waitFinishedP := hstate
    obtain ⟨subtype, payload⟩ := frame
    by_cases hsubtype : subtype = pqPhase5FinishedP
    · subst hsubtype
      cases hverify : verifyFinished expected payload with
      | false =>
        have hcall : (Phase5Method.receiveFinishedP (pqPhase5FinishedP, payload) expected).call .waitFinishedP =
            (none, .aborted) := by
          simp [Phase5Method.call, Phase5CentralStateMachine.receiveFinishedP, Phase5Call.requiring, hverify,
            pqPhase5FinishedP, pqPhase5Error]
        rw [Phase5Run.perform, hcall]
        simpa using Phase5Order.failed h
      | true =>
        have hcall : (Phase5Method.receiveFinishedP (pqPhase5FinishedP, payload) expected).call .waitFinishedP =
            (some none, .authenticated) := by
          simp [Phase5Method.call, Phase5CentralStateMachine.receiveFinishedP, Phase5Call.requiring, hverify,
            pqPhase5FinishedP, pqPhase5Error]
        obtain ⟨tag, rfl⟩ : ∃ tag : Block 32, expected = tag.bytes := by
          simp only [verifyFinished, Bool.and_eq_true, decide_eq_true_eq] at hverify
          exact ⟨⟨expected, hverify.1.1⟩, rfl⟩
        obtain rfl := verifyFinished_iff.mp hverify
        rw [Phase5Run.perform, hcall]
        exact .authenticated tag h
    · refine h.stays ?_
      simp only [Phase5Method.call, Phase5CentralStateMachine.receiveFinishedP, Phase5Call.requiring,
        if_pos hsubtype, ite_self]
      rfl
  | requestApplicationData =>
    obtain rfl : state = .authenticated := hstate
    exact .requested h
  | completeApplicationData =>
    obtain rfl : state = .waitApplicationData := hstate
    exact .complete h

/-- After a `start` that raised, READY_FOR_SAS is taken all the same. -/
example : ([.start [], .receiveReadyForSas (pqPhase5ReadyForSas, [])].foldl Phase5Run.perform {}).state =
    .waitSasConfirm := rfl

end Python

end PqBleHandshake
