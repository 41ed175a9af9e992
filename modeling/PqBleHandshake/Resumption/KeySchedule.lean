import PqBleHandshake.Foundation.Transition
import PqBleHandshake.Primitives
import PqBleHandshake.Resumption.Wire

/-!
# Resumption transcript, authentication tags and key schedule

`pq_resume_transcript`, `pq_resume_derive` and `authentication` beside the Python `transcript`,
`SessionKeys` and `auth`.  All of them compute the one schedule `resumeKeys` and the two tag
messages `initMessage` and `acceptMessage`, and the transcript determines every field that the two
parties must agree on.
-/

namespace PqBleHandshake.Resumption

open Foundation

/-- `struct pq_resume_keys` -/
structure Keys where
  th : Block 32
  confirmC : Block 32
  confirmP : Block 32
  c2p : Block 32
  p2c : Block 32
  ivC2p : Block 12
  ivP2c : Block 12
deriving DecidableEq

/-- Wiped keys. -/
def Keys.zero : Keys where
  th := .zero 32
  confirmC := .zero 32
  confirmP := .zero 32
  c2p := .zero 32
  p2c := .zero 32
  ivC2p := .zero 12
  ivP2c := .zero 12

/-- The Python `SessionKeys`: the same seven buffers (`app_c2p` and `app_p2c` are `c2p` and `p2c`)
and the profile of their labels. -/
structure SessionKeys extends Keys where
  profile : UInt8
deriving DecidableEq

/-- The transcript length `PQ_RESUME_TRANSCRIPT_SIZE`. -/
def pqResumeTranscriptSize : ℕ := 148

/-- `put_field` and the Python `lp`: a two-byte length and the value. -/
def putField (value : Bytes) : Bytes := bigEndian 2 value.length ++ value

/-- The bytes of the transcript under a given domain string. -/
def transcriptBytes (profile : UInt8) (id sid : Block 16) (nc np : Block 32) : Bytes :=
  putField (domainName profile ++ ascii "/RESUME-TRANSCRIPT") ++ putField [profile] ++
    putField id.bytes ++ putField sid.bytes ++ putField nc.bytes ++ putField np.bytes

/-- `pq_resume_transcript` -/
def pqResumeTranscript (profile : UInt8) (id sid : Block 16) (nc np : Block 32) : Option Bytes :=
  (label profile "/RESUME-TRANSCRIPT").bind fun name ↦
    let output := putField name ++ putField [profile] ++ putField id.bytes ++
      putField sid.bytes ++ putField nc.bytes ++ putField np.bytes
    if output.length = pqResumeTranscriptSize then some output else none

/-- `pq_resume_derive`; the last two outputs keep twelve bytes of their block. -/
def pqResumeDerive (crypto : Crypto) (faults : Faults) (profile : UInt8) (root : Block 32)
    (id sid : Block 16) (nc np : Block 32) : Option Keys := do
  let transcript ← pqResumeTranscript profile id sid nc np
  let th ← pqCryptoHashParts crypto faults [transcript]
  let prk ← pqCryptoMac crypto faults th root.bytes
  let output := fun suffix ↦
    (label profile suffix).bind fun name ↦ pqV1Cp3Expand crypto faults prk name th
  let confirmC ← output "/RESUME-CONFIRM-C"
  let confirmP ← output "/RESUME-CONFIRM-P"
  let c2p ← output "/RESUME-APP-C2P"
  let p2c ← output "/RESUME-APP-P2C"
  let ivC2p ← output "/RESUME-IV-C2P"
  let ivP2c ← output "/RESUME-IV-P2C"
  return { th, confirmC, confirmP, c2p, p2c, ivC2p := .ofBytes 12 ivC2p.bytes,
           ivP2c := .ofBytes 12 ivP2c.bytes }

/-- `authentication`: the tag of an INIT, or with the Peripheral nonce of an ACCEPT. -/
def authentication (crypto : Crypto) (faults : Faults) (profile : UInt8) (root : Block 32)
    (accept : Bool) (context : Block 64) (np : Block 32) : Option (Block 32) := do
  let name ← label profile (if accept then "/RESUME-ACCEPT" else "/RESUME-INIT")
  pqCryptoMac crypto faults root
    (name ++ [profile] ++ context.bytes ++ if accept then np.bytes else [])

/-- `pq_resume_id` -/
def pqResumeId (crypto : Crypto) (faults : Faults) (profile : UInt8) (root th : Block 32) :
    Option (Block 16) := do
  let name ← label profile "/RESUME-ID"
  let mac ← pqV1Cp3VerifyData crypto faults root name th
  return .ofBytes 16 mac.bytes

/-- `pq_resume_root` -/
def pqResumeRoot (crypto : Crypto) (faults : Faults) (profile : UInt8) (prk th : Block 32) :
    Option (Block 32) := do
  let name ← label profile "/RESUME-ROOT"
  pqV1Cp3Expand crypto faults prk name th

/-! ## The Python side -/

/-- The Python `sized`. -/
def sized (n : ℕ) (value : Bytes) : Except Reason (Block n) :=
  if h : value.length = n then .ok ⟨value, h⟩ else .error .malformed

/-- The Python `domain`, which raises for an unknown profile. -/
def domainOf (profile : UInt8) : Except Reason Bytes :=
  match domain profile with
  | some name => .ok name
  | none => .error .profileMismatch

/-- The Python `auth` for `INIT`, with the context of `context(profile, rid, sid, nc)`. -/
def authInit (crypto : Crypto) (profile : UInt8) (root : Block 32) (rid sid nc : Bytes) :
    Except Reason (Block 32) := do
  let name ← domainOf profile
  let rid ← sized 16 rid
  let sid ← sized 16 sid
  let nc ← sized 32 nc
  return crypto.mac root
    (name ++ ascii "/RESUME-INIT" ++ ([profile] ++ rid.bytes ++ sid.bytes ++ nc.bytes))

/-- The Python `auth` for `ACCEPT`, with the context of `context(profile, rid, sid, nc, np)`. -/
def authAccept (crypto : Crypto) (profile : UInt8) (root : Block 32) (rid sid nc np : Bytes) :
    Except Reason (Block 32) := do
  let name ← domainOf profile
  let rid ← sized 16 rid
  let sid ← sized 16 sid
  let nc ← sized 32 nc
  let np ← sized 32 np
  return crypto.mac root
    (name ++ ascii "/RESUME-ACCEPT" ++ ([profile] ++ rid.bytes ++ sid.bytes ++ nc.bytes ++ np.bytes))

/-- The Python `transcript`. -/
def transcript (profile : UInt8) (rid sid nc np : Bytes) : Except Reason Bytes := do
  let name ← domainOf profile
  let rid ← sized 16 rid
  let sid ← sized 16 sid
  let nc ← sized 32 nc
  let np ← sized 32 np
  return putField (name ++ ascii "/RESUME-TRANSCRIPT") ++ putField [profile] ++
    putField rid.bytes ++ putField sid.bytes ++ putField nc.bytes ++ putField np.bytes

/-- The Python constructor `SessionKeys(profile, root, rid, sid, nc, np)`. -/
def sessionKeys (crypto : Crypto) (profile : UInt8) (root : Block 32) (rid sid nc np : Bytes) :
    Except Reason SessionKeys := do
  let input ← transcript profile rid sid nc np
  let name ← domainOf profile
  let th := crypto.hash input
  let prk := crypto.mac th root.bytes
  let output := fun suffix ↦ expand crypto prk (name ++ ascii suffix) th
  return { profile, th
           confirmC := output "/RESUME-CONFIRM-C"
           confirmP := output "/RESUME-CONFIRM-P"
           c2p := output "/RESUME-APP-C2P"
           p2c := output "/RESUME-APP-P2C"
           ivC2p := .ofBytes 12 (output "/RESUME-IV-C2P").bytes
           ivP2c := .ofBytes 12 (output "/RESUME-IV-P2C").bytes }

namespace SessionKeys

/-- The Python `finish(central)`. -/
def finish (crypto : Crypto) (keys : SessionKeys) (central : Bool) : Block 32 :=
  crypto.mac (if central then keys.confirmC else keys.confirmP)
    (domainName keys.profile ++
      ascii (if central then "/RESUME-FINISH-C" else "/RESUME-FINISH-P") ++ keys.th.bytes)

/-- The Python `clear_confirmation`. -/
def clearConfirmation (keys : SessionKeys) : SessionKeys :=
  { keys with confirmC := .zero 32, confirmP := .zero 32, th := .zero 32 }

/-- The Python `clear`. -/
def clear (keys : SessionKeys) : SessionKeys :=
  { Keys.zero with profile := keys.profile }

end SessionKeys

/-! ## The schedule -/

/-- The message an INIT tag authenticates. -/
def initMessage (profile : UInt8) (rid sid : Block 16) (nc : Block 32) : Bytes :=
  domainName profile ++ ascii "/RESUME-INIT" ++ ([profile] ++ rid.bytes ++ sid.bytes ++ nc.bytes)

/-- The message an ACCEPT tag authenticates. -/
def acceptMessage (profile : UInt8) (rid sid : Block 16) (nc np : Block 32) : Bytes :=
  domainName profile ++ ascii "/RESUME-ACCEPT" ++
    ([profile] ++ rid.bytes ++ sid.bytes ++ nc.bytes ++ np.bytes)

/-- The message a FINISH_C or FINISH_P tag authenticates. -/
def finishMessage (profile : UInt8) (central : Bool) (th : Block 32) : Bytes :=
  domainName profile ++ ascii (if central then "/RESUME-FINISH-C" else "/RESUME-FINISH-P") ++
    th.bytes

/-- The FINISH tag of one side. -/
def finishTag (crypto : Crypto) (profile : UInt8) (central : Bool) (keys : Keys) : Block 32 :=
  crypto.mac (if central then keys.confirmC else keys.confirmP)
    (finishMessage profile central keys.th)

/-- HKDF-Extract of the ticket root under the transcript hash. -/
def resumePrk (crypto : Crypto) (root : Block 32) (input : Bytes) : Block 32 :=
  crypto.mac (crypto.hash input) root.bytes

/-- One output of the schedule. -/
def resumeOutput (crypto : Crypto) (profile : UInt8) (root : Block 32) (input : Bytes)
    (suffix : String) : Block 32 :=
  expand crypto (resumePrk crypto root input) (domainName profile ++ ascii suffix)
    (crypto.hash input)

/-- The keys of a transcript under a ticket root: what both parties compute. -/
def resumeKeys (crypto : Crypto) (profile : UInt8) (root : Block 32) (input : Bytes) : Keys where
  th := crypto.hash input
  confirmC := resumeOutput crypto profile root input "/RESUME-CONFIRM-C"
  confirmP := resumeOutput crypto profile root input "/RESUME-CONFIRM-P"
  c2p := resumeOutput crypto profile root input "/RESUME-APP-C2P"
  p2c := resumeOutput crypto profile root input "/RESUME-APP-P2C"
  ivC2p := .ofBytes 12 (resumeOutput crypto profile root input "/RESUME-IV-C2P").bytes
  ivP2c := .ofBytes 12 (resumeOutput crypto profile root input "/RESUME-IV-P2C").bytes

/-- The suffixes of the six schedule outputs, in the order both programs derive them. -/
def outputSuffixes : List String :=
  ["/RESUME-CONFIRM-C", "/RESUME-CONFIRM-P", "/RESUME-APP-C2P", "/RESUME-APP-P2C",
    "/RESUME-IV-C2P", "/RESUME-IV-P2C"]

/-- The MAC evaluations of one run of the schedule. -/
def resumeQueries (crypto : Crypto) (profile : UInt8) (root : Block 32) (input : Bytes) :
    List MacQuery :=
  (crypto.hash input, root.bytes) :: outputSuffixes.map fun suffix ↦
    (resumePrk crypto root input,
      expandMessage (domainName profile ++ ascii suffix) (crypto.hash input))

/-- The INIT frame of a Central that holds the root. -/
def initFrame (crypto : Crypto) (profile : UInt8) (root : Block 32) (rid sid : Block 16)
    (nc : Block 32) : Bytes :=
  frame profile subtypeInit
    (rid.bytes ++ (sid.bytes ++ (nc.bytes ++ (crypto.mac root (initMessage profile rid sid nc)).bytes)))

/-- The ACCEPT frame that answers it. -/
def acceptFrame (crypto : Crypto) (profile : UInt8) (root : Block 32) (rid sid : Block 16)
    (nc np : Block 32) : Bytes :=
  frame profile subtypeAccept
    (np.bytes ++ (crypto.mac root (acceptMessage profile rid sid nc np)).bytes)

/-- The FINISH_C frame of a schedule. -/
def finishCFrame (crypto : Crypto) (profile : UInt8) (keys : Keys) : Bytes :=
  frame profile subtypeFinishC (finishTag crypto profile true keys).bytes

/-- The FINISH_P frame of a schedule. -/
def finishPFrame (crypto : Crypto) (profile : UInt8) (keys : Keys) : Bytes :=
  frame profile subtypeFinishP (finishTag crypto profile false keys).bytes

/-- The payload of an INIT: ticket id, session id, Central nonce and tag. -/
theorem exists_initPayload {payload : Bytes} (h : payload.length = 96) :
    ∃ (rid sid : Block 16) (nc tag : Block 32),
      payload = rid.bytes ++ (sid.bytes ++ (nc.bytes ++ tag.bytes)) := by
  obtain ⟨rid, rest, rfl, hrest⟩ := Block.exists_eq_append (n := 16) payload (by omega)
  obtain ⟨sid, rest, rfl, hrest'⟩ := Block.exists_eq_append (n := 16) rest (by omega)
  obtain ⟨nc, rest, rfl, hrest''⟩ := Block.exists_eq_append (n := 32) rest (by omega)
  exact ⟨rid, sid, nc, ⟨rest, by omega⟩, rfl⟩

/-- The payload of an ACCEPT: Peripheral nonce and tag. -/
theorem exists_acceptPayload {payload : Bytes} (h : payload.length = 64) :
    ∃ np tag : Block 32, payload = np.bytes ++ tag.bytes := by
  obtain ⟨np, rest, rfl, hrest⟩ := Block.exists_eq_append (n := 32) payload (by omega)
  exact ⟨np, ⟨rest, by omega⟩, rfl⟩

/-- The four fields of an INIT payload, where the code reads them. -/
theorem initPayload_fields (rid sid : Block 16) (nc tag : Block 32) :
    let payload := rid.bytes ++ (sid.bytes ++ (nc.bytes ++ tag.bytes))
    Block.slice payload 0 16 = rid ∧ Block.slice payload 16 16 = sid ∧
      Block.slice payload 32 32 = nc ∧ Block.slice payload 64 32 = tag := by
  refine ⟨by simp, ?_, ?_, ?_⟩
  · rw [Block.slice_append_of_le (by omega), Block.slice_zero_append]
  · rw [Block.slice_append_of_le (by omega), Block.slice_append_of_le (by omega),
      Block.slice_zero_append]
  · rw [Block.slice_append_of_le (by omega), Block.slice_append_of_le (by omega),
      Block.slice_append_of_le (by omega), Block.slice_zero_self]

/-- The first 64 bytes of an INIT payload, which its tag and the ACCEPT tag cover. -/
theorem initPayload_context (rid sid : Block 16) (nc tag : Block 32) :
    (Block.slice (rid.bytes ++ (sid.bytes ++ (nc.bytes ++ tag.bytes))) 0 64).bytes =
      rid.bytes ++ sid.bytes ++ nc.bytes := by
  have hsplit : rid.bytes ++ (sid.bytes ++ (nc.bytes ++ tag.bytes)) =
      (⟨rid.bytes ++ sid.bytes ++ nc.bytes, by simp⟩ : Block 64).bytes ++ tag.bytes := by
    simp only [List.append_assoc]
  rw [hsplit, Block.slice_zero_append]

theorem length_transcriptBytes {profile : UInt8} (h : KnownProfile profile) (id sid : Block 16)
    (nc np : Block 32) : (transcriptBytes profile id sid nc np).length = 148 := by
  have hname : (ascii "/RESUME-TRANSCRIPT").length = 18 := by decide
  simp only [transcriptBytes, putField, List.length_append, length_bigEndian, List.length_cons,
    List.length_nil, Block.length_bytes, length_domainName h, hname]

/-- **The transcript is injective**: it fixes the profile, the ticket id, the session id and both
nonces. -/
theorem transcriptBytes_inj {profile profile' : UInt8} (h : KnownProfile profile)
    (h' : KnownProfile profile') {id id' sid sid' : Block 16} {nc nc' np np' : Block 32} :
    transcriptBytes profile id sid nc np = transcriptBytes profile' id' sid' nc' np' ↔
      profile = profile' ∧ id = id' ∧ sid = sid' ∧ nc = nc' ∧ np = np' := by
  constructor
  · intro heq
    simp only [transcriptBytes, putField, List.append_assoc] at heq
    have hfield : ∀ {n : ℕ} {x x' : Block n} {y y' : Bytes},
        bigEndian 2 x.bytes.length ++ (x.bytes ++ y) =
          bigEndian 2 x'.bytes.length ++ (x'.bytes ++ y') → x = x' ∧ y = y' := by
      intro n x x' y y' hxy
      exact block_append_inj.mp (List.append_inj hxy (by simp)).2
    have hnames := (List.append_inj heq (by simp)).2
    obtain ⟨-, hrest⟩ := List.append_inj hnames (by rw [length_domainName h, length_domainName h'])
    have hrest := List.append_cancel_left hrest
    simp only [List.length_cons, List.length_nil, List.append_cancel_left_eq, List.cons_append,
      List.nil_append, List.cons.injEq] at hrest
    obtain ⟨hprofile, hrest⟩ := hrest
    obtain ⟨hid, hrest⟩ := hfield hrest
    obtain ⟨hsid, hrest⟩ := hfield hrest
    obtain ⟨hnc, hrest⟩ := hfield hrest
    have hnp := (List.append_inj hrest (by simp)).2
    exact ⟨hprofile, hid, hsid, hnc, Block.bytes_injective hnp⟩
  · rintro ⟨rfl, rfl, rfl, rfl, rfl⟩
    rfl

/-! ## The C functions compute the schedule -/

section CFunctions

variable {crypto : Crypto} {faults : Faults} {profile : UInt8}

theorem pqResumeTranscript_eq (h : KnownProfile profile) (id sid : Block 16) (nc np : Block 32) :
    pqResumeTranscript profile id sid nc np = some (transcriptBytes profile id sid nc np) := by
  rw [pqResumeTranscript, label_eq_some h (by decide), Option.bind_some]
  exact if_pos (length_transcriptBytes h id sid nc np)

/-- What `pq_resume_derive` returns is the schedule of its transcript. -/
theorem pqResumeDerive_eq_some {root : Block 32} {id sid : Block 16} {nc np : Block 32}
    {keys : Keys} (h : KnownProfile profile)
    (hderive : pqResumeDerive crypto faults profile root id sid nc np = some keys) :
    keys = resumeKeys crypto profile root (transcriptBytes profile id sid nc np) := by
  simp only [pqResumeDerive, pqResumeTranscript_eq h, Option.bind_eq_bind, Option.bind_some,
    Option.bind_eq_some_iff, Option.pure_def, Option.some.injEq, label_eq_some h,
    show (ascii "/RESUME-CONFIRM-C").length < 43 by decide,
    show (ascii "/RESUME-CONFIRM-P").length < 43 by decide,
    show (ascii "/RESUME-APP-C2P").length < 43 by decide,
    show (ascii "/RESUME-APP-P2C").length < 43 by decide,
    show (ascii "/RESUME-IV-C2P").length < 43 by decide,
    show (ascii "/RESUME-IV-P2C").length < 43 by decide] at hderive
  obtain ⟨th, hth, prk, hprk, cc, hcc, cp, hcp, c2p, hc2p, p2c, hp2c, ic, hic, ip, hip, rfl⟩ :=
    hderive
  have hth := pqCryptoHashParts_eq_some hth
  simp only [List.flatten_cons, List.flatten_nil, List.append_nil] at hth
  subst hth
  cases pqCryptoMac_eq_some hprk
  cases pqV1Cp3Expand_eq_some hcc
  cases pqV1Cp3Expand_eq_some hcp
  cases pqV1Cp3Expand_eq_some hc2p
  cases pqV1Cp3Expand_eq_some hp2c
  cases pqV1Cp3Expand_eq_some hic
  cases pqV1Cp3Expand_eq_some hip
  rfl

/-- Without a platform failure `pq_resume_derive` returns the schedule. -/
theorem pqResumeDerive_ok (h : KnownProfile profile) (root : Block 32) (id sid : Block 16)
    (nc np : Block 32) :
    pqResumeDerive crypto {} profile root id sid nc np =
      some (resumeKeys crypto profile root (transcriptBytes profile id sid nc np)) := by
  have hlength := length_domainName h
  have houtput : ∀ suffix, (ascii suffix).length < 43 → ∀ prk th,
      ((label profile suffix).bind fun name ↦ pqV1Cp3Expand crypto {} prk name th) =
        some (expand crypto prk (domainName profile ++ ascii suffix) th) := by
    intro suffix hsuffix prk th
    rw [label_eq_some h hsuffix, Option.bind_some,
      pqV1Cp3Expand_ok (by rw [List.length_append]; omega)]
  simp only [pqResumeDerive, pqResumeTranscript_eq h, Option.bind_eq_bind, Option.bind_some,
    pqCryptoHashParts_ok, pqCryptoMac_ok, List.flatten_cons, List.flatten_nil, List.append_nil]
  rw [houtput _ (by decide), houtput _ (by decide), houtput _ (by decide), houtput _ (by decide),
    houtput _ (by decide), houtput _ (by decide)]
  rfl

/-- The context of a tag, as the C code copies it from the payload. -/
theorem authentication_init_eq_some {root tag : Block 32} {rid sid : Block 16} {nc np : Block 32}
    {context : Block 64} (h : KnownProfile profile)
    (hcontext : context.bytes = rid.bytes ++ sid.bytes ++ nc.bytes)
    (htag : authentication crypto faults profile root false context np = some tag) :
    tag = crypto.mac root (initMessage profile rid sid nc) := by
  simp only [authentication, Bool.false_eq_true, if_false, label_eq_some h
    (show (ascii "/RESUME-INIT").length < 43 by decide), Option.bind_eq_bind,
    Option.bind_some] at htag
  rw [pqCryptoMac_eq_some htag, hcontext, initMessage]
  simp only [List.append_assoc, List.append_nil]

theorem authentication_accept_eq_some {root tag : Block 32} {rid sid : Block 16}
    {nc np : Block 32} {context : Block 64} (h : KnownProfile profile)
    (hcontext : context.bytes = rid.bytes ++ sid.bytes ++ nc.bytes)
    (htag : authentication crypto faults profile root true context np = some tag) :
    tag = crypto.mac root (acceptMessage profile rid sid nc np) := by
  simp only [authentication, if_true, label_eq_some h
    (show (ascii "/RESUME-ACCEPT").length < 43 by decide), Option.bind_eq_bind,
    Option.bind_some] at htag
  rw [pqCryptoMac_eq_some htag, hcontext, acceptMessage]
  simp only [List.append_assoc]

/-- Without a platform failure both FINISH tags are computed. -/
theorem finishTag_ok (crypto : Crypto) (h : KnownProfile profile) (keys : Keys) :
    (label profile "/RESUME-FINISH-C" >>= fun name ↦
        pqV1Cp3VerifyData crypto {} keys.confirmC name keys.th) =
        some (finishTag crypto profile true keys) ∧
      (label profile "/RESUME-FINISH-P" >>= fun name ↦
        pqV1Cp3VerifyData crypto {} keys.confirmP name keys.th) =
        some (finishTag crypto profile false keys) := by
  have hlength := length_domainName h
  have hcentral : (ascii "/RESUME-FINISH-C").length = 16 := by decide
  have hperipheral : (ascii "/RESUME-FINISH-P").length = 16 := by decide
  constructor
  · rw [label_eq_some h (by omega), Option.bind_eq_bind, Option.bind_some,
      pqV1Cp3VerifyData_ok (by rw [List.length_append]; omega)]
    rfl
  · rw [label_eq_some h (by omega), Option.bind_eq_bind, Option.bind_some,
      pqV1Cp3VerifyData_ok (by rw [List.length_append]; omega)]
    rfl

theorem authentication_ok (crypto : Crypto) (h : KnownProfile profile) (root : Block 32) (accept : Bool)
    (context : Block 64) (np : Block 32) :
    ∃ tag, authentication crypto {} profile root accept context np = some tag := by
  cases accept
  · simp [authentication, label_eq_some h (show (ascii "/RESUME-INIT").length < 43 by decide)]
  · simp [authentication, label_eq_some h (show (ascii "/RESUME-ACCEPT").length < 43 by decide)]

end CFunctions

/-! ## The Python functions compute the schedule -/

section PythonFunctions

variable {crypto : Crypto} {profile : UInt8}

@[simp]
theorem sized_block {n : ℕ} (block : Block n) : sized n block.bytes = .ok block := by
  simp [sized]

theorem sized_eq_ok_iff {n : ℕ} {value : Bytes} {block : Block n} :
    sized n value = .ok block ↔ value = block.bytes := by
  unfold sized
  constructor
  · intro h
    split at h
    · cases h
      rfl
    · cases h
  · rintro rfl
    simp

theorem domainOf_eq (h : KnownProfile profile) : domainOf profile = .ok (domainName profile) := by
  rw [domainOf, domain_eq_domainName h]

theorem authInit_eq (h : KnownProfile profile) (root : Block 32) (rid sid : Block 16)
    (nc : Block 32) : authInit crypto profile root rid.bytes sid.bytes nc.bytes =
      .ok (crypto.mac root (initMessage profile rid sid nc)) := by
  simp only [authInit, domainOf_eq h, sized_block]
  rfl

theorem domainOf_eq_ok_iff {name : Bytes} :
    domainOf profile = .ok name ↔ KnownProfile profile ∧ name = domainName profile := by
  by_cases h : KnownProfile profile
  · rw [domainOf_eq h]
    simp [h, eq_comm]
  · rw [domainOf, domain_eq_none_iff.mpr h]
    simp [h]

/-- `auth` for an INIT returns only for a known profile and fields of the right sizes. -/
theorem authInit_eq_ok {root tag : Block 32} {rid sid nc : Bytes}
    (h : authInit crypto profile root rid sid nc = .ok tag) :
    KnownProfile profile ∧ ∃ (rid' sid' : Block 16) (nc' : Block 32),
      rid = rid'.bytes ∧ sid = sid'.bytes ∧ nc = nc'.bytes ∧
        tag = crypto.mac root (initMessage profile rid' sid' nc') := by
  simp only [authInit, except_bind_eq_ok_iff, domainOf_eq_ok_iff, sized_eq_ok_iff] at h
  obtain ⟨_, ⟨hknown, rfl⟩, rid', rfl, sid', rfl, nc', rfl, htag⟩ := h
  exact ⟨hknown, rid', sid', nc', rfl, rfl, rfl, (Except.ok.inj htag).symm⟩

/-- `auth` for an ACCEPT returns only for a known profile and fields of the right sizes. -/
theorem authAccept_eq_ok {root tag : Block 32} {rid sid nc np : Bytes}
    (h : authAccept crypto profile root rid sid nc np = .ok tag) :
    KnownProfile profile ∧ ∃ (rid' sid' : Block 16) (nc' np' : Block 32),
      rid = rid'.bytes ∧ sid = sid'.bytes ∧ nc = nc'.bytes ∧ np = np'.bytes ∧
        tag = crypto.mac root (acceptMessage profile rid' sid' nc' np') := by
  simp only [authAccept, except_bind_eq_ok_iff, domainOf_eq_ok_iff, sized_eq_ok_iff] at h
  obtain ⟨_, ⟨hknown, rfl⟩, rid', rfl, sid', rfl, nc', rfl, np', rfl, htag⟩ := h
  exact ⟨hknown, rid', sid', nc', np', rfl, rfl, rfl, rfl, (Except.ok.inj htag).symm⟩

theorem authAccept_eq (h : KnownProfile profile) (root : Block 32) (rid sid : Block 16)
    (nc np : Block 32) : authAccept crypto profile root rid.bytes sid.bytes nc.bytes np.bytes =
      .ok (crypto.mac root (acceptMessage profile rid sid nc np)) := by
  simp only [authAccept, domainOf_eq h, sized_block]
  rfl

theorem sessionKeys_eq (h : KnownProfile profile) (root : Block 32) (rid sid : Block 16)
    (nc np : Block 32) : sessionKeys crypto profile root rid.bytes sid.bytes nc.bytes np.bytes =
      .ok { resumeKeys crypto profile root (transcriptBytes profile rid sid nc np) with profile } := by
  simp only [sessionKeys, transcript, domainOf_eq h, sized_block]
  rfl

end PythonFunctions

/-! ## What the schedule binds -/

theorem mem_resumeQueries (crypto : Crypto) (profile : UInt8) (root : Block 32) (input : Bytes)
    {suffix : String} (h : suffix ∈ outputSuffixes) :
    (resumePrk crypto root input,
      expandMessage (domainName profile ++ ascii suffix) (crypto.hash input)) ∈
      resumeQueries crypto profile root input :=
  List.mem_cons_of_mem _ (List.mem_map_of_mem h)

/-- What one run of the schedule adds to the log. -/
structure Logged (crypto : Crypto) (log : CryptoLog) (profile : UInt8) (root : Block 32)
    (input : Bytes) : Prop where
  hashed : input ∈ log.hashed
  derived : resumeQueries crypto profile root input ⊆ log.derived

theorem Logged.mono {crypto : Crypto} {log log' : CryptoLog} {profile : UInt8} {root : Block 32}
    {input : Bytes} (h : Logged crypto log profile root input) (hext : log.Extends log') :
    Logged crypto log' profile root input :=
  ⟨hext.hashed h.hashed, List.Subset.trans h.derived hext.derived⟩

/-- **A derived key fixes its transcript and root.**  Two schedules of an ideal run that agree on one
output agree on the transcript and on the ticket root. -/
theorem resumeOutput_binding {crypto : Crypto} {log : CryptoLog} {profile profile' : UInt8}
    {root root' : Block 32} {input input' : Bytes} {suffix : String} (hideal : log.Ideal crypto)
    (hprofile : KnownProfile profile) (hprofile' : KnownProfile profile')
    (hsuffix : suffix ∈ outputSuffixes) (hlogged : Logged crypto log profile root input)
    (hlogged' : Logged crypto log profile' root' input')
    (heq : resumeOutput crypto profile root input suffix =
      resumeOutput crypto profile' root' input' suffix) :
    input = input' ∧ root = root' := by
  have hquery := hideal.mac_inj _
    (hlogged.derived (mem_resumeQueries crypto profile root input hsuffix)) _
    (hlogged'.derived (mem_resumeQueries crypto profile' root' input' hsuffix)) heq
  obtain ⟨hprk, hmessage⟩ := Prod.mk.inj hquery
  have hlength : (domainName profile ++ ascii suffix).length =
      (domainName profile' ++ ascii suffix).length := by
    simp only [List.length_append, length_domainName hprofile, length_domainName hprofile']
  have hth := ((expandMessage_inj hlength).mp hmessage).2
  have hsame := hideal.hash_inj _ hlogged.hashed _ hlogged'.hashed hth
  have hextract := hideal.mac_inj _ (hlogged.derived List.mem_cons_self) _
    (hlogged'.derived List.mem_cons_self) hprk
  exact ⟨hsame, Block.bytes_injective (Prod.mk.inj hextract).2⟩

/-! ## Separation of the tag messages -/

theorem length_initMessage {profile : UInt8} (h : KnownProfile profile) (rid sid : Block 16)
    (nc : Block 32) : (initMessage profile rid sid nc).length = 98 := by
  have hlabel : (ascii "/RESUME-INIT").length = 12 := by decide
  simp [initMessage, length_domainName h, hlabel]

theorem length_acceptMessage {profile : UInt8} (h : KnownProfile profile) (rid sid : Block 16)
    (nc np : Block 32) : (acceptMessage profile rid sid nc np).length = 132 := by
  have hlabel : (ascii "/RESUME-ACCEPT").length = 14 := by decide
  simp [acceptMessage, length_domainName h, hlabel]

theorem length_finishMessage {profile : UInt8} (h : KnownProfile profile) (central : Bool)
    (th : Block 32) : (finishMessage profile central th).length = 69 := by
  have hcentral : (ascii "/RESUME-FINISH-C").length = 16 := by decide
  have hperipheral : (ascii "/RESUME-FINISH-P").length = 16 := by decide
  cases central <;> simp [finishMessage, length_domainName h, hcentral, hperipheral]

/-- A FINISH message determines the profile, the side and the transcript hash. -/
theorem finishMessage_inj {profile profile' : UInt8} (h : KnownProfile profile)
    (h' : KnownProfile profile') {central central' : Bool} {th th' : Block 32} :
    finishMessage profile central th = finishMessage profile' central' th' ↔
      profile = profile' ∧ central = central' ∧ th = th' := by
  constructor
  · intro heq
    have hsuffix : (ascii (if central then "/RESUME-FINISH-C" else "/RESUME-FINISH-P")).length =
        (ascii (if central' then "/RESUME-FINISH-C" else "/RESUME-FINISH-P")).length := by
      cases central <;> cases central' <;> decide
    simp only [finishMessage, List.append_assoc] at heq
    obtain ⟨hname, hrest⟩ :=
      List.append_inj heq (by rw [length_domainName h, length_domainName h'])
    obtain ⟨hside, hth⟩ := List.append_inj hrest hsuffix
    refine ⟨domainName_injective h h' hname, ?_, Block.bytes_injective hth⟩
    revert hside
    cases central <;> cases central' <;> decide
  · rintro ⟨rfl, rfl, rfl⟩
    rfl

end PqBleHandshake.Resumption
