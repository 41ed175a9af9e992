import PqBleHandshake.Resumption.KeySchedule
import PqBleHandshake.V1Frame

/-!
# The ML-KEM handshake of v1.0 and v1.1

`pq_v1_cp3.c`: the transcript over SEC_INFO, the public key, the ciphertext and START_CP3, the
handshake secrets, the chaining of the two FINISHED frames, and the application keys.  v1.1 adds the
resumption root and the full transcript hash.

The `_eq_some` lemmas say that a C function which returns computes the schedule, which is defined once
in the middle of the module and shared with the Central.
-/

namespace PqBleHandshake

open Foundation

/-- `struct pq_v1_cp3_handshake` -/
@[ext]
structure V1Handshake where
  th0 : Block 32
  prk : Block 32
  finishedC : Block 32
  finishedP : Block 32
deriving DecidableEq

/-- Wiped handshake secrets. -/
def V1Handshake.zero : V1Handshake := ⟨.zero 32, .zero 32, .zero 32, .zero 32⟩

/-- `struct pq_v1_cp3_application`; the last two fields exist in v1.1 only. -/
@[ext]
structure V1Application where
  c2p : Block 32
  p2c : Block 32
  resumeRoot : Block 32
  fullTh : Block 32
deriving DecidableEq

/-- Wiped application keys. -/
def V1Application.zero : V1Application := ⟨.zero 32, .zero 32, .zero 32, .zero 32⟩

/-- `struct pq_v1_security_info` without the state that only the log prints. -/
structure V1SecurityInfo where
  level : UInt8
  encKeySize : UInt8
  secureConnections : Bool
  authenticated : Bool
  gateOpen : Bool
deriving DecidableEq

/-- `pq_v1_encode_sec_info` -/
def pqV1EncodeSecInfo (version : UInt8) (info : V1SecurityInfo) : Except Errno Bytes :=
  let flags : UInt8 := (if info.secureConnections then 1 else 0) |||
    (if info.authenticated then 2 else 0) ||| (if info.gateOpen then 4 else 0)
  pqV1EncodeFrame version pqV1SecInfo [info.level, flags, info.encKeySize, version] 12

/-- `strict_sec`: the SEC_INFO frame of an authenticated Level 4 link with a 16-byte key. -/
def strictSec (version : UInt8) : Bytes :=
  v1Magic ++ [version, pqV1SecInfo, 0x00, 0x04, 0x04, 0x07, 0x10, version]

section Functions

variable (crypto : Crypto) (faults : Faults) (version : UInt8)

/-- `pq_v1_cp3_transcript` -/
def pqV1Cp3Transcript (sec pk ct start : Bytes) : Option (Block 32) := do
  guard (pk.length = 1184 ∧ ct.length = 1088)
  let (subtype, payload) ← (pqV1ParseFrame version sec).toOption
  guard (subtype = pqV1SecInfo ∧ payload.getD 1 0 &&& ~~~7 = 0)
  let (subtype, _) ← (pqV1ParseFrame version start).toOption
  guard (subtype = pqV1StartCp3)
  pqCryptoHashParts crypto faults [appDomain version ++ ascii "/CP3-TRANSCRIPT", sec, pk, ct, start]

/-- `pq_v1_cp3_derive` -/
def pqV1Cp3Derive (ss th0 : Block 32) : Option V1Handshake := do
  let prk ← pqCryptoMac crypto faults th0 ss.bytes
  let finishedC ← pqV1Cp3Expand crypto faults prk (appDomain version ++ ascii "/FINISHED-C") th0
  let finishedP ← pqV1Cp3Expand crypto faults prk (appDomain version ++ ascii "/FINISHED-P") th0
  return { th0, prk, finishedC, finishedP }

/-- `pq_v1_cp3_chain` -/
def pqV1Cp3Chain (th : Block 32) (frame : Bytes) : Option (Block 32) := do
  let (subtype, _) ← (pqV1ParseFrame version frame).toOption
  guard (subtype = pqV1FinishedC ∨ subtype = pqV1FinishedP)
  pqCryptoHashParts crypto faults [th.bytes, frame]

/-- `pq_v1_cp3_finish`: FINISHED_P and the application keys. -/
def pqV1Cp3Finish (handshake : V1Handshake) (finishedC : Bytes) : Option (Bytes × V1Application) := do
  let (subtype, payload) ← (pqV1ParseFrame version finishedC).toOption
  guard (subtype = pqV1FinishedC)
  let verify ← pqV1Cp3VerifyData crypto faults handshake.finishedC
    (appDomain version ++ ascii "/VERIFY-C") handshake.th0
  guard (verify = .slice payload 0 32)
  let th1 ← pqV1Cp3Chain crypto faults version handshake.th0 finishedC
  let verify ← pqV1Cp3VerifyData crypto faults handshake.finishedP
    (appDomain version ++ ascii "/VERIFY-P") th1
  let finishedP ← (pqV1EncodeFrame version pqV1FinishedP verify.bytes 40).toOption
  let th2 ← pqV1Cp3Chain crypto faults version th1 finishedP
  let c2p ← pqV1Cp3Expand crypto faults handshake.prk (appDomain version ++ ascii "/APP-C2P") th2
  let p2c ← pqV1Cp3Expand crypto faults handshake.prk (appDomain version ++ ascii "/APP-P2C") th2
  if version = Resumption.pqResumeV11 then do
    let resumeRoot ←
      Resumption.pqResumeRoot crypto faults Resumption.pqResumeV11 handshake.prk th2
    return (finishedP, { c2p, p2c, resumeRoot, fullTh := th2 })
  else return (finishedP, { V1Application.zero with c2p, p2c })

end Functions

/-! ## The schedule -/

section Schedule

variable (crypto : Crypto) (version : UInt8)

/-- The transcript of the handshake. -/
def cp3Transcript (sec pk ct start : Bytes) : Bytes :=
  appDomain version ++ ascii "/CP3-TRANSCRIPT" ++ sec ++ pk ++ ct ++ start

/-- The handshake secrets of a shared secret and a transcript hash. -/
def cp3Handshake (ss th0 : Block 32) : V1Handshake :=
  let prk := crypto.mac th0 ss.bytes
  { th0, prk
    finishedC := expand crypto prk (appDomain version ++ ascii "/FINISHED-C") th0
    finishedP := expand crypto prk (appDomain version ++ ascii "/FINISHED-P") th0 }

/-- The FINISHED_C frame of a handshake. -/
def cp3FinishedC (handshake : V1Handshake) : Bytes :=
  v1Frame version pqV1FinishedC
    (verifyData crypto handshake.finishedC (appDomain version ++ ascii "/VERIFY-C")
      handshake.th0).bytes

/-- The transcript hash after FINISHED_C. -/
def cp3Th1 (handshake : V1Handshake) : Block 32 :=
  crypto.hash (handshake.th0.bytes ++ cp3FinishedC crypto version handshake)

/-- The FINISHED_P frame of a handshake. -/
def cp3FinishedP (handshake : V1Handshake) : Bytes :=
  v1Frame version pqV1FinishedP
    (verifyData crypto handshake.finishedP (appDomain version ++ ascii "/VERIFY-P")
      (cp3Th1 crypto version handshake)).bytes

/-- The transcript hash after FINISHED_P. -/
def cp3Th2 (handshake : V1Handshake) : Block 32 :=
  crypto.hash ((cp3Th1 crypto version handshake).bytes ++ cp3FinishedP crypto version handshake)

/-- The application keys of a handshake; v1.1 adds the resumption root. -/
def cp3Application (handshake : V1Handshake) : V1Application :=
  let th2 := cp3Th2 crypto version handshake
  { c2p := expand crypto handshake.prk (appDomain version ++ ascii "/APP-C2P") th2
    p2c := expand crypto handshake.prk (appDomain version ++ ascii "/APP-P2C") th2
    resumeRoot :=
      if version = Resumption.pqResumeV11 then
        expand crypto handshake.prk (appDomain version ++ ascii "/RESUME-ROOT") th2
      else .zero 32
    fullTh := if version = Resumption.pqResumeV11 then th2 else .zero 32 }

end Schedule

/-! ## The C functions compute the schedule -/

section Success

variable {crypto : Crypto} {faults : Faults} {version : UInt8}

theorem toOption_pqV1ParseFrame_eq_some_iff {wire payload : Bytes} {subtype : UInt8} :
    (pqV1ParseFrame version wire).toOption = some (subtype, payload) ↔
      ValidPayload subtype payload ∧ wire = v1Frame version subtype payload := by
  rw [← pqV1ParseFrame_eq_ok_iff]
  cases pqV1ParseFrame version wire <;> simp [Except.toOption]

theorem pqV1Cp3Transcript_eq_some {sec pk ct start : Bytes} {th0 : Block 32}
    (h : pqV1Cp3Transcript crypto faults version sec pk ct start = some th0) :
    th0 = crypto.hash (cp3Transcript version sec pk ct start) ∧ pk.length = 1184 ∧
      ct.length = 1088 := by
  simp only [pqV1Cp3Transcript, Option.bind_eq_bind, Option.bind_eq_some_iff,
    Option.guard_eq_some', Prod.exists, exists_and_left, exists_const] at h
  obtain ⟨⟨hpk, hct⟩, -, -, -, -, -, -, -, -, hhash⟩ := h
  refine ⟨?_, hpk, hct⟩
  rw [pqCryptoHashParts_eq_some hhash]
  simp only [cp3Transcript, List.flatten_cons, List.flatten_nil, List.append_nil,
    List.append_assoc]

theorem pqV1Cp3Derive_eq_some {ss th0 : Block 32} {handshake : V1Handshake}
    (h : pqV1Cp3Derive crypto faults version ss th0 = some handshake) :
    handshake = cp3Handshake crypto version ss th0 := by
  simp only [pqV1Cp3Derive, Option.bind_eq_bind, Option.bind_eq_some_iff] at h
  obtain ⟨prk, hprk, finishedC, hfinishedC, finishedP, hfinishedP, hresult⟩ := h
  cases hresult
  have hprk := pqCryptoMac_eq_some hprk
  subst hprk
  rw [pqV1Cp3Expand_eq_some hfinishedC, pqV1Cp3Expand_eq_some hfinishedP]
  rfl

theorem pqV1Cp3Chain_eq_some {th output : Block 32} {frame : Bytes}
    (h : pqV1Cp3Chain crypto faults version th frame = some output) :
    output = crypto.hash (th.bytes ++ frame) := by
  simp only [pqV1Cp3Chain, Option.bind_eq_bind, Option.bind_eq_some_iff] at h
  obtain ⟨-, -, -, -, hhash⟩ := h
  rw [pqCryptoHashParts_eq_some hhash]
  simp

/-- **Success of `pq_v1_cp3_finish`**: the frame is the FINISHED_C of the handshake, and the results
are its FINISHED_P and its application keys. -/
theorem pqV1Cp3Finish_eq_some {handshake : V1Handshake} {finishedC finishedP : Bytes}
    {app : V1Application}
    (h : pqV1Cp3Finish crypto faults version handshake finishedC = some (finishedP, app)) :
    finishedC = cp3FinishedC crypto version handshake ∧
      finishedP = cp3FinishedP crypto version handshake ∧
      app = cp3Application crypto version handshake := by
  simp only [pqV1Cp3Finish, Option.bind_eq_bind, Option.bind_eq_some_iff, Option.guard_eq_some',
    Prod.exists, exists_and_left, exists_const, toOption_pqV1ParseFrame_eq_some_iff] at h
  obtain ⟨subtype, payload, ⟨hvalid, rfl⟩, rfl, verify, hverify, htag, th1, hth1, verify', hverify',
    frame, hframe, th2, hth2, c2p, hc2p, p2c, hp2c, hresult⟩ := h
  have hlength : payload.length = 32 :=
    (Option.some.inj ((payloadSizeValid_iff (by decide)).mp hvalid.size)).symm
  have hpayload : payload = verify.bytes := by
    rw [htag]
    exact (Block.ofBytes_eq_self hlength).symm
  have hc : v1Frame version pqV1FinishedC payload = cp3FinishedC crypto version handshake := by
    rw [hpayload, pqV1Cp3VerifyData_eq_some hverify]
    rfl
  have hth1 : th1 = cp3Th1 crypto version handshake := by
    rw [pqV1Cp3Chain_eq_some hth1, hc]
    rfl
  subst hth1
  have hp : frame = cp3FinishedP crypto version handshake := by
    have hok : pqV1EncodeFrame version pqV1FinishedP verify'.bytes 40 = .ok frame := by
      cases hencode : pqV1EncodeFrame version pqV1FinishedP verify'.bytes 40 with
      | error e => simp [hencode, Except.toOption] at hframe
      | ok wire => simpa [hencode, Except.toOption] using hframe
    rw [(pqV1EncodeFrame_eq_ok_iff.mp hok).2.2, pqV1Cp3VerifyData_eq_some hverify']
    rfl
  have hth2 : th2 = cp3Th2 crypto version handshake := by
    rw [pqV1Cp3Chain_eq_some hth2, hp]
    rfl
  subst hth2
  have hc2p := pqV1Cp3Expand_eq_some hc2p
  have hp2c := pqV1Cp3Expand_eq_some hp2c
  split_ifs at hresult with hversion
  · simp only [Resumption.pqResumeRoot, Option.bind_eq_bind, Option.bind_eq_some_iff] at hresult
    obtain ⟨root, ⟨name, hname, hroot⟩, hresult⟩ := hresult
    cases hresult
    have hdomain : name = appDomain version ++ ascii "/RESUME-ROOT" := by
      rw [Resumption.label_eq_some (.inr rfl) (by decide)] at hname
      cases hname
      rw [hversion]
      rfl
    refine ⟨hc, hp, ?_⟩
    rw [cp3Application, if_pos hversion, if_pos hversion, hc2p, hp2c,
      pqV1Cp3Expand_eq_some hroot, hdomain]
  · cases hresult
    refine ⟨hc, hp, ?_⟩
    rw [cp3Application, if_neg hversion, if_neg hversion, hc2p, hp2c]
    rfl

end Success

end PqBleHandshake
