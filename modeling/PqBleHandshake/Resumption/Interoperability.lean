import PqBleHandshake.Resumption.Peripheral

/-!
# Both resumption programs compute the same values

For every input of both profiles the C functions of `pq_resume.c` and the Python functions of
`resumption.py` compute the same root, ticket id, transcript, tags and session keys, and every buffer
of the C functions is large enough for what they copy into it.
-/

namespace PqBleHandshake.Resumption

open Foundation

/-- The Python `derive_root`. -/
def deriveRoot (crypto : Crypto) (profile : UInt8) (fullPrk fullTh : Bytes) :
    Except Reason (Block 32) := do
  let prk ← sized 32 fullPrk
  let name ← domainOf profile
  let th ← sized 32 fullTh
  return expand crypto prk (name ++ ascii "/RESUME-ROOT") th

/-- The Python `resume_id`. -/
def resumeId (crypto : Crypto) (profile : UInt8) (root fullTh : Bytes) :
    Except Reason (Block 16) := do
  let root ← sized 32 root
  let name ← domainOf profile
  let th ← sized 32 fullTh
  return .ofBytes 16 (crypto.mac root (name ++ ascii "/RESUME-ID" ++ th.bytes)).bytes

/-- The tag that `pq_resume_finish` computes for one side. -/
def pqResumeFinishTag (crypto : Crypto) (faults : Faults) (profile : UInt8) (central : Bool)
    (keys : Keys) : Option (Block 32) := do
  let name ← label profile (if central then "/RESUME-FINISH-C" else "/RESUME-FINISH-P")
  pqV1Cp3VerifyData crypto faults (if central then keys.confirmC else keys.confirmP) name keys.th

/-! ## Buffers -/

/-- Copy parts into a buffer one after the other; `none` is a write past its end. -/
def copyParts (capacity : ℕ) : List Bytes → Option Bytes
  | [] => some []
  | part :: parts =>
    if capacity < part.length then none
    else (copyParts (capacity - part.length) parts).map (part ++ ·)

/-- Parts that fit in total are all copied. -/
theorem copyParts_eq_some {capacity : ℕ} {parts : List Bytes}
    (h : parts.flatten.length ≤ capacity) : copyParts capacity parts = some parts.flatten := by
  induction parts generalizing capacity with
  | nil => rfl
  | cons part parts ih =>
    rw [List.flatten_cons, List.length_append] at h
    have hrest : parts.flatten.length ≤ capacity - part.length := by omega
    rw [copyParts, if_neg (by omega), ih hrest, Option.map_some, List.flatten_cons]

/-- The suffixes of all labels that the firmware builds in a `name[64]`. -/
def labelSuffixes : List String :=
  outputSuffixes ++ ["/RESUME-ROOT", "/RESUME-ID", "/RESUME-FINISH-C", "/RESUME-FINISH-P",
    "/RESUME-INIT", "/RESUME-ACCEPT", "/RESUME-TRANSCRIPT"]

/-- The suffixes of the labels that `labeled_mac` copies into its `data[96]`. -/
def macSuffixes : List String :=
  outputSuffixes ++ ["/RESUME-ROOT", "/RESUME-ID", "/RESUME-FINISH-C", "/RESUME-FINISH-P"]

/-- Every fixed-size buffer of the key schedule with the parts that are copied into it: the labels,
the data of `labeled_mac`, the data of `authentication`, and the transcript. -/
def scheduleBuffers (profile : UInt8) (id sid : Block 16) (nc np th : Block 32) (context : Block 64) :
    List (ℕ × List Bytes) :=
  (labelSuffixes.map fun suffix ↦ (64, [domainName profile, ascii suffix, [0]])) ++
    (macSuffixes.map fun suffix ↦ (96, [domainName profile ++ ascii suffix, th.bytes, [1]])) ++
    [(160, [domainName profile ++ ascii "/RESUME-INIT", [profile], context.bytes]),
      (160, [domainName profile ++ ascii "/RESUME-ACCEPT", [profile], context.bytes, np.bytes]),
      (pqResumeTranscriptSize, [putField (domainName profile ++ ascii "/RESUME-TRANSCRIPT"),
        putField [profile], putField id.bytes, putField sid.bytes, putField nc.bytes,
        putField np.bytes])]

/-- The suffixes are short. -/
theorem length_suffix_le {suffix : String} (h : suffix ∈ labelSuffixes) :
    (ascii suffix).length ≤ 18 := by
  have hall : ∀ suffix ∈ labelSuffixes, (ascii suffix).length ≤ 18 := by decide
  exact hall suffix h

theorem macSuffixes_subset : macSuffixes ⊆ labelSuffixes := by
  decide

/-- No buffer of the key schedule overflows. -/
theorem copyParts_scheduleBuffers {profile : UInt8} (h : KnownProfile profile) (id sid : Block 16)
    (nc np th : Block 32) (context : Block 64) {buffer : ℕ × List Bytes}
    (hbuffer : buffer ∈ scheduleBuffers profile id sid nc np th context) :
    copyParts buffer.1 buffer.2 = some buffer.2.flatten := by
  have hname := length_domainName h
  have hinit : (ascii "/RESUME-INIT").length = 12 := by decide
  have haccept : (ascii "/RESUME-ACCEPT").length = 14 := by decide
  apply copyParts_eq_some
  simp only [scheduleBuffers, List.mem_append, List.mem_map, List.mem_cons, List.not_mem_nil,
    or_false] at hbuffer
  rcases hbuffer with (⟨suffix, hsuffix, rfl⟩ | ⟨suffix, hsuffix, rfl⟩) | rfl | rfl | rfl
  · have hle := length_suffix_le hsuffix
    simp only [List.flatten_cons, List.flatten_nil, List.length_append, List.length_cons,
      List.length_nil, hname]
    omega
  · have hle := length_suffix_le (macSuffixes_subset hsuffix)
    simp only [List.flatten_cons, List.flatten_nil, List.length_append, List.length_cons,
      List.length_nil, Block.length_bytes, hname]
    omega
  · simp only [List.flatten_cons, List.flatten_nil, List.length_append, List.length_cons,
      List.length_nil, Block.length_bytes, hname, hinit]
    omega
  · simp only [List.flatten_cons, List.flatten_nil, List.length_append, List.length_cons,
      List.length_nil, Block.length_bytes, hname, haccept]
    omega
  · have hlength := length_transcriptBytes h id sid nc np
    simp only [transcriptBytes, List.append_assoc] at hlength
    simp only [List.flatten_cons, List.flatten_nil, List.append_nil, pqResumeTranscriptSize]
    exact hlength.le

/-! ## Interoperability -/

/-- The firmware and the Python program agree on the whole key schedule of a profile. -/
structure ScheduleAgreement (crypto : Crypto) (profile : UInt8) : Prop where
  root : ∀ prk th : Block 32, SameResult (fun faults ↦ pqResumeRoot crypto faults profile prk th)
    (deriveRoot crypto profile prk.bytes th.bytes)
  id : ∀ root th : Block 32, SameResult (fun faults ↦ pqResumeId crypto faults profile root th)
    (resumeId crypto profile root.bytes th.bytes)
  transcript : ∀ (rid sid : Block 16) (nc np : Block 32),
    SameResult (fun _ ↦ pqResumeTranscript profile rid sid nc np)
      (transcript profile rid.bytes sid.bytes nc.bytes np.bytes)
  keys : ∀ (root : Block 32) (rid sid : Block 16) (nc np : Block 32),
    SameResult (fun faults ↦ (pqResumeDerive crypto faults profile root rid sid nc np).map
        fun keys ↦ ({ keys with profile } : SessionKeys))
      (sessionKeys crypto profile root rid.bytes sid.bytes nc.bytes np.bytes)
  init : ∀ (root : Block 32) (rid sid : Block 16) (nc np : Block 32) (context : Block 64),
    context.bytes = rid.bytes ++ sid.bytes ++ nc.bytes →
      SameResult (fun faults ↦ authentication crypto faults profile root false context np)
        (authInit crypto profile root rid.bytes sid.bytes nc.bytes)
  accept : ∀ (root : Block 32) (rid sid : Block 16) (nc np : Block 32) (context : Block 64),
    context.bytes = rid.bytes ++ sid.bytes ++ nc.bytes →
      SameResult (fun faults ↦ authentication crypto faults profile root true context np)
        (authAccept crypto profile root rid.bytes sid.bytes nc.bytes np.bytes)
  finish : ∀ (keys : Keys) (central : Bool),
    SameResult (ε := Reason) (fun faults ↦ pqResumeFinishTag crypto faults profile central keys)
      (.ok (SessionKeys.finish crypto { keys with profile } central))
  finished : ∀ (faults : Faults) (core : Core) (seen : Observation) (finish : Bytes),
    seen.profile = profile → (pqResumeFinish crypto faults core seen finish).1.reason = .ok →
      finish = frame profile subtypeFinishC
        (SessionKeys.finish crypto { core.session.keys with profile } true).bytes ∧
      (pqResumeFinish crypto faults core seen finish).1.wire = frame profile subtypeFinishP
        (SessionKeys.finish crypto { core.session.keys with profile } false).bytes
  buffers : ∀ (rid sid : Block 16) (nc np th : Block 32) (context : Block 64),
    ∀ buffer ∈ scheduleBuffers profile rid sid nc np th context,
      copyParts buffer.1 buffer.2 = some buffer.2.flatten

section Agreement

variable {crypto : Crypto} {profile : UInt8}

theorem deriveRoot_eq (h : KnownProfile profile) (prk th : Block 32) :
    deriveRoot crypto profile prk.bytes th.bytes =
      .ok (expand crypto prk (domainName profile ++ ascii "/RESUME-ROOT") th) := by
  simp only [deriveRoot, sized_block, domainOf_eq h]
  rfl

theorem resumeId_eq (h : KnownProfile profile) (root th : Block 32) :
    resumeId crypto profile root.bytes th.bytes =
      .ok (.ofBytes 16 (verifyData crypto root (domainName profile ++ ascii "/RESUME-ID") th).bytes) := by
  simp only [resumeId, sized_block, domainOf_eq h]
  rfl

theorem agrees_root (h : KnownProfile profile) (prk th : Block 32) :
    SameResult (fun faults ↦ pqResumeRoot crypto faults profile prk th)
      (deriveRoot crypto profile prk.bytes th.bytes) := by
  have hlabel := label_eq_some h (show (ascii "/RESUME-ROOT").length < 43 by decide)
  have hsize : (domainName profile ++ ascii "/RESUME-ROOT").length ≤ 63 := by
    rw [List.length_append, length_domainName h]
    decide
  apply SameResult.of_ok (deriveRoot_eq h prk th)
  · simp only [pqResumeRoot, hlabel, Option.bind_eq_bind, Option.bind_some]
    exact pqV1Cp3Expand_ok hsize prk th
  · intro faults value hvalue
    simp only [pqResumeRoot, hlabel, Option.bind_eq_bind, Option.bind_some] at hvalue
    exact pqV1Cp3Expand_eq_some hvalue

theorem agrees_id (h : KnownProfile profile) (root th : Block 32) :
    SameResult (fun faults ↦ pqResumeId crypto faults profile root th)
      (resumeId crypto profile root.bytes th.bytes) := by
  have hlabel := label_eq_some h (show (ascii "/RESUME-ID").length < 43 by decide)
  have hsize : (domainName profile ++ ascii "/RESUME-ID").length ≤ 63 := by
    rw [List.length_append, length_domainName h]
    decide
  apply SameResult.of_ok (resumeId_eq h root th)
  · simp only [pqResumeId, hlabel, Option.bind_eq_bind, Option.bind_some,
      pqV1Cp3VerifyData_ok hsize, Option.pure_def]
  · intro faults value hvalue
    simp only [pqResumeId, hlabel, Option.bind_eq_bind, Option.bind_some, Option.bind_eq_some_iff,
      Option.pure_def, Option.some.injEq] at hvalue
    obtain ⟨mac, hmac, rfl⟩ := hvalue
    rw [pqV1Cp3VerifyData_eq_some hmac]

theorem agrees_transcript (h : KnownProfile profile) (rid sid : Block 16) (nc np : Block 32) :
    SameResult (fun _ ↦ pqResumeTranscript profile rid sid nc np)
      (transcript profile rid.bytes sid.bytes nc.bytes np.bytes) := by
  have hpython : transcript profile rid.bytes sid.bytes nc.bytes np.bytes =
      .ok (transcriptBytes profile rid sid nc np) := by
    simp only [transcript, sized_block, domainOf_eq h]
    rfl
  apply SameResult.of_ok hpython (pqResumeTranscript_eq h rid sid nc np)
  intro faults value hvalue
  rw [pqResumeTranscript_eq h, Option.some.injEq] at hvalue
  exact hvalue.symm

theorem agrees_keys (h : KnownProfile profile) (root : Block 32) (rid sid : Block 16)
    (nc np : Block 32) :
    SameResult (fun faults ↦ (pqResumeDerive crypto faults profile root rid sid nc np).map
        fun keys ↦ ({ keys with profile } : SessionKeys))
      (sessionKeys crypto profile root rid.bytes sid.bytes nc.bytes np.bytes) := by
  apply SameResult.of_ok (sessionKeys_eq h root rid sid nc np)
  · rw [pqResumeDerive_ok h, Option.map_some]
  · intro faults value hvalue
    obtain ⟨keys, hkeys, rfl⟩ := Option.map_eq_some_iff.mp hvalue
    rw [pqResumeDerive_eq_some h hkeys]

theorem agrees_init (h : KnownProfile profile) (root : Block 32) (rid sid : Block 16)
    (nc np : Block 32) {context : Block 64}
    (hcontext : context.bytes = rid.bytes ++ sid.bytes ++ nc.bytes) :
    SameResult (fun faults ↦ authentication crypto faults profile root false context np)
      (authInit crypto profile root rid.bytes sid.bytes nc.bytes) := by
  obtain ⟨tag, htag⟩ := authentication_ok crypto h root false context np
  apply SameResult.of_ok (authInit_eq h root rid sid nc)
  · rw [htag, authentication_init_eq_some h hcontext htag]
  · intro faults value hvalue
    exact authentication_init_eq_some h hcontext hvalue

theorem agrees_accept (h : KnownProfile profile) (root : Block 32) (rid sid : Block 16)
    (nc np : Block 32) {context : Block 64}
    (hcontext : context.bytes = rid.bytes ++ sid.bytes ++ nc.bytes) :
    SameResult (fun faults ↦ authentication crypto faults profile root true context np)
      (authAccept crypto profile root rid.bytes sid.bytes nc.bytes np.bytes) := by
  obtain ⟨tag, htag⟩ := authentication_ok crypto h root true context np
  apply SameResult.of_ok (authAccept_eq h root rid sid nc np)
  · rw [htag, authentication_accept_eq_some h hcontext htag]
  · intro faults value hvalue
    exact authentication_accept_eq_some h hcontext hvalue

theorem agrees_finish (h : KnownProfile profile) (keys : Keys) (central : Bool) :
    SameResult (ε := Reason) (fun faults ↦ pqResumeFinishTag crypto faults profile central keys)
      (.ok (SessionKeys.finish crypto { keys with profile } central)) := by
  have hlabel : label profile (if central then "/RESUME-FINISH-C" else "/RESUME-FINISH-P") =
      some (domainName profile ++
        ascii (if central then "/RESUME-FINISH-C" else "/RESUME-FINISH-P")) :=
    label_eq_some h (by cases central <;> decide)
  apply SameResult.of_ok rfl
  · obtain ⟨hc, hp⟩ := finishTag_ok crypto h keys
    cases central
    · exact hp
    · exact hc
  · intro faults value hvalue
    simp only [pqResumeFinishTag, hlabel, Option.bind_eq_bind, Option.bind_some] at hvalue
    rw [pqV1Cp3VerifyData_eq_some hvalue]
    rfl

/-- **Interoperability of the resumption key schedule**, for both profiles and all inputs. -/
theorem schedule_agreement (crypto : Crypto) (h : KnownProfile profile) :
    ScheduleAgreement crypto profile where
  root := agrees_root h
  id := agrees_id h
  transcript := agrees_transcript h
  keys := agrees_keys h
  init root rid sid nc np _ hcontext := agrees_init h root rid sid nc np hcontext
  accept root rid sid nc np _ hcontext := agrees_accept h root rid sid nc np hcontext
  finish := agrees_finish h
  finished faults core seen finish hprofile hok := by
    obtain ⟨⟨answer, core'⟩, hresult⟩ :
        ∃ result, pqResumeFinish crypto faults core seen finish = result := ⟨_, rfl⟩
    rw [hresult] at hok ⊢
    subst hprofile
    rcases pqResumeFinish_cases hresult with ⟨-, hfinished⟩ | ⟨hfailed, -⟩
    · exact ⟨hfinished.finish_eq, hfinished.wire_eq⟩
    · exact absurd hok hfailed.reason_ne
  buffers rid sid nc np th context _ hbuffer :=
    copyParts_scheduleBuffers h rid sid nc np th context hbuffer

/-- Both profiles that the firmware builds. -/
theorem schedule_agreement_profiles :
    ScheduleAgreement polynomialCrypto pqResumeV08 ∧ ScheduleAgreement polynomialCrypto pqResumeV11 :=
  ⟨schedule_agreement polynomialCrypto (.inl rfl), schedule_agreement polynomialCrypto (.inr rfl)⟩

end Agreement

end PqBleHandshake.Resumption
