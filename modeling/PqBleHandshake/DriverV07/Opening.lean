import PqBleHandshake.DriverV07.Trails
import PqBleHandshake.Handshake.DomainSeparation
import PqBleHandshake.WireCodecs

/-!
# The handshake of v0.7 up to the SAS

What each coroutine does to the trace, the buffers and the channels.  Awaiting changes none of them, so every
coroutine is specified from one view to the next.
-/

namespace PqBleHandshake.Python.V07

open Foundation Effect

/-- What the coroutines are specified by. -/
structure View where
  trace : List Event := []
  buffers : Buffers := {}
  c2p : Option SecureChannel := none
  p2c : Option SecureChannel := none

/-- The view of a state. -/
def World.view (w : World) : View where
  trace := w.trace
  buffers := w.buffers
  c2p := w.c2p
  p2c := w.p2c

/-- One more event. -/
def View.record (v : View) (event : Event) : View := { v with trace := event :: v.trace }

/-- How a body may raise. -/
def Ends (crypto : Crypto) (onCurve : Bytes → Bool) (aead : Aead) (mode : Option NegativeTest) (e : Exn)
    (trace : List Event) : Prop :=
  if e = .negativePassed then ∃ test, mode = some test ∧ Passed crypto onCurve aead test trace
  else Stopped crypto onCurve aead mode trace

section Rules

variable {crypto : Crypto} {onCurve : Bytes → Bool} {aead : Aead} {mode : Option NegativeTest} {env : ℕ → Answer}
variable {α β : Type} {P : View → Prop} {v : View}

/-! ## Waiting -/

/-- A coroutine that leaves the view; what it raises is no passed test. -/
abbrev Waits (P : View → Prop) (x : Run α) (Q : α → Prop) : Prop :=
  Triple (fun w : World ↦ P w.view) x (fun a w ↦ Q a ∧ P w.view) fun e w ↦ e ≠ .negativePassed ∧ P w.view

theorem Waits.bind {x : Run α} {f : α → Run β} {Q : α → Prop} {R : β → Prop} (hx : Waits P x Q)
    (hf : ∀ a, Q a → Waits P (f a) R) : Waits P (x >>= f) R :=
  Triple.bind hx fun a ↦ Triple.fact fun ha ↦ hf a ha

theorem waits_fail {e : Exn} (he : e ≠ .negativePassed) {Q : α → Prop} : Waits P (fail e : Run α) Q :=
  Triple.fail fun _ h ↦ ⟨he, h⟩

theorem waits_ask : Waits P (ask env) fun _ ↦ True := fun _ h ↦ ⟨trivial, h⟩

theorem waits_wait : Waits P (wait env) fun _ ↦ True := fun _ h ↦ ⟨trivial, h⟩

theorem Fault.exn_ne (fault : Fault) : fault.exn ≠ .negativePassed := by
  cases fault <;> nofun

theorem waits_await : Waits P (await env) fun _ ↦ True := by
  refine waits_wait.bind fun answer _ ↦ ?_
  split
  · exact waits_fail (Fault.exn_ne _)
  · exact Triple.pure fun _ h ↦ ⟨trivial, h⟩

theorem waits_require {condition : Prop} [Decidable condition] {e : Exn} (he : e ≠ .negativePassed) :
    Waits P (onlyIf condition (fail e)) fun _ ↦ ¬condition :=
  Triple.require fun _ h ↦ ⟨he, h⟩

theorem waits_orRaise (value : Option α) : Waits P (orRaise value) fun a ↦ value = some a := by
  cases value with
  | none => exact waits_fail (by decide)
  | some a => exact Triple.pure fun _ h ↦ ⟨rfl, h⟩

theorem waits_orAuthError (value : Option α) : Waits P (orAuthError value) fun a ↦ value = some a := by
  cases value with
  | none => exact waits_fail (by decide)
  | some a => exact Triple.pure fun _ h ↦ ⟨rfl, h⟩

theorem waits_requireConnected : Waits P (requireConnected env) fun _ ↦ True :=
  waits_ask.bind fun _ _ ↦ (waits_require (by decide)).bind fun _ _ ↦ Triple.pure fun _ h ↦ ⟨trivial, h⟩

theorem waits_writeFragments (fragments : List Bytes) : Waits P (writeFragments env fragments) fun _ ↦ True := by
  induction fragments with
  | nil => exact Triple.pure fun _ h ↦ ⟨trivial, h⟩
  | cons _ _ ih => exact waits_await.bind fun _ _ ↦ ih

theorem waits_getNotification : Waits P (getNotification env) fun _ ↦ True := by
  refine waits_await.bind fun _ _ ↦ ?_
  refine Triple.bind Triple.peek fun notifications ↦ ?_
  split
  · exact waits_fail (by decide)
  · exact Triple.bind (Triple.update fun _ h ↦ h) fun _ ↦ Triple.pure fun _ h ↦ ⟨trivial, h⟩

theorem waits_receive : Waits P (receive env) fun _ ↦ True := by
  refine Triple.onError waits_getNotification fun e ↦ Triple.fact fun he ↦ waits_fail ?_
  split_ifs
  · nofun
  · exact he

theorem waits_checkErrorFrame (raw : Bytes) : Waits P (checkErrorFrame onCurve raw) fun _ ↦ True := by
  unfold checkErrorFrame onlyIf
  split_ifs
  · refine (waits_orAuthError _).bind fun frame _ ↦ ?_
    split_ifs
    · exact waits_fail (by decide)
    · exact Triple.pure fun _ h ↦ ⟨trivial, h⟩
  · exact Triple.pure fun _ h ↦ ⟨trivial, h⟩

/-! ## Progress -/

/-- From a view with `P`, a return satisfies `Q`, and an exception ends a run as it may. -/
abbrev Leads (crypto : Crypto) (onCurve : Bytes → Bool) (aead : Aead) (mode : Option NegativeTest)
    (P : View → Prop) (x : Run α) (Q : α → View → Prop) : Prop :=
  Triple (fun w : World ↦ P w.view) x (fun a w ↦ Q a w.view) fun e w ↦ Ends crypto onCurve aead mode e w.view.trace

theorem ends_of_ne {e : Exn} (he : e ≠ .negativePassed) (hstopped : Stopped crypto onCurve aead mode v.trace)
    {v' : View} (h : v' = v) : Ends crypto onCurve aead mode e v'.trace := by
  rwa [Ends, if_neg he, h]

theorem Waits.leads {x : Run α} {Q : α → Prop} (h : Waits (· = v) x Q)
    (hstopped : Stopped crypto onCurve aead mode v.trace) :
    Leads crypto onCurve aead mode (· = v) x fun a v' ↦ Q a ∧ v' = v :=
  h.conseq (fun _ h ↦ h) (fun _ _ h ↦ h) fun _ _ h ↦ ends_of_ne h.1 hstopped h.2

theorem leads_emit (event : Event) :
    Leads crypto onCurve aead mode (· = v) (emit event) fun _ v' ↦ v' = v.record event :=
  Triple.update fun _ hw ↦ by
    subst hw
    rfl

theorem leads_setBuffers (f : Buffers → Buffers) :
    Leads crypto onCurve aead mode (· = v) (setBuffers f) fun _ v' ↦ v' = { v with buffers := f v.buffers } :=
  Triple.update fun _ hw ↦ by
    subst hw
    rfl

theorem leads_setC2p (channel : SecureChannel) :
    Leads crypto onCurve aead mode (· = v) (update fun w ↦ { w with c2p := some channel }) fun _ v' ↦
      v' = { v with c2p := some channel } :=
  Triple.update fun _ hw ↦ by
    subst hw
    rfl

theorem leads_setP2c (channel : SecureChannel) :
    Leads crypto onCurve aead mode (· = v) (update fun w ↦ { w with p2c := some channel }) fun _ v' ↦
      v' = { v with p2c := some channel } :=
  Triple.update fun _ hw ↦ by
    subst hw
    rfl

theorem leads_buffers :
    Leads crypto onCurve aead mode (· = v) (look World.buffers) fun buffers v' ↦ buffers = v.buffers ∧ v' = v :=
  Triple.look fun _ hw ↦ ⟨congrArg View.buffers hw, hw⟩

/-- A value that is there. -/
theorem leads_orRaise {value : Option α} {a : α} (hvalue : value = some a) :
    Leads crypto onCurve aead mode (· = v) (orRaise value) fun b v' ↦ b = a ∧ v' = v := by
  rw [hvalue]
  exact Triple.pure fun _ h ↦ ⟨rfl, h⟩

/-- A write whose event the trace allows. -/
theorem leads_sendControl {wire : Bytes} (hbefore : Stopped crypto onCurve aead mode v.trace)
    (hafter : Stopped crypto onCurve aead mode (.sent wire :: v.trace)) :
    Leads crypto onCurve aead mode (· = v) (sendControl env wire) fun _ v' ↦ v' = v.record (.sent wire) := by
  refine Triple.bind (waits_requireConnected.leads hbefore) fun _ ↦ Triple.fact fun _ ↦ ?_
  refine Triple.bind (leads_emit (.sent wire)) fun _ ↦ ?_
  exact Triple.bind (waits_await.leads hafter) fun _ ↦ Triple.pure fun _ h ↦ h.2

theorem leads_writeSecureData {wire : Bytes} (hbefore : Stopped crypto onCurve aead mode v.trace)
    (hafter : Stopped crypto onCurve aead mode (.wrote wire :: v.trace)) :
    Leads crypto onCurve aead mode (· = v) (writeSecureData env wire) fun _ v' ↦ v' = v.record (.wrote wire) := by
  refine Triple.bind (waits_requireConnected.leads hbefore) fun _ ↦ Triple.fact fun _ ↦ ?_
  refine Triple.bind (leads_emit (.wrote wire)) fun _ ↦ ?_
  exact Triple.bind (waits_await.leads hafter) fun _ ↦ Triple.pure fun _ h ↦ h.2

/-- Several events more, the latest first. -/
def View.extend (v : View) (events : List Event) : View := { v with trace := events ++ v.trace }

@[simp]
theorem View.extend_trace (v : View) (events : List Event) : (v.extend events).trace = events ++ v.trace := rfl

theorem leads_requireQuiet (hstopped : ∀ events, Quieting events → Stopped crypto onCurve aead mode (events ++ v.trace)) :
    Leads crypto onCurve aead mode (· = v) (requireQuiet env) fun _ v' ↦ v' = v.extend quiet := by
  refine Triple.bind (Q := fun _ w ↦ w.view = v) ?_ fun heard ↦ ?_
  · refine Triple.onError (F := fun e w ↦ e ≠ .negativePassed ∧ w.view = v)
      (Triple.bind (waits_getNotification (P := (· = v))) fun _ ↦ Triple.pure fun _ h ↦ h.2) fun e ↦ ?_
    refine Triple.fact fun he ↦ ?_
    split_ifs
    · exact Triple.pure fun _ h ↦ h
    · exact Triple.fail fun _ h ↦ ends_of_ne he (hstopped _ .start) h
  · refine Triple.bind (leads_emit (.listened heard)) fun _ ↦ ?_
    have hlistened := hstopped _ (.listened heard)
    refine Triple.bind ((waits_require (by decide)).leads hlistened) fun _ ↦ Triple.fact fun hnone ↦ ?_
    obtain rfl := not_not.mp hnone
    refine Triple.bind (waits_ask.leads hlistened) fun link ↦ Triple.fact fun _ ↦ ?_
    refine Triple.bind (leads_emit (.linked link.connected)) fun _ ↦ ?_
    refine ((waits_require (by decide)).leads (hstopped _ (.linked link.connected))).weaken fun _ w hw ↦ ?_
    obtain ⟨hconnected, hview⟩ := hw
    have hup : link.connected = true := by simpa using hconnected
    rw [hview, hup]
    rfl

/-- A denied write. -/
theorem leads_requirePreauthRejection {wire : Bytes} (hbefore : Stopped crypto onCurve aead mode v.trace)
    (htest : ∀ events, Denying wire events → Stopped crypto onCurve aead mode (events ++ v.trace)) :
    Leads crypto onCurve aead mode (· = v) (requirePreauthRejection env wire) fun _ v' ↦
      ∃ answer : Answer, answer.Denies ∧ v' = v.extend (denial wire answer) := by
  refine Triple.bind (waits_requireConnected.leads hbefore) fun _ ↦ Triple.fact fun _ ↦ ?_
  refine Triple.bind (leads_emit (.wrote wire)) fun _ ↦ ?_
  refine Triple.bind (waits_wait.leads (htest _ .wrote)) fun answer ↦ Triple.fact fun _ ↦ ?_
  refine Triple.bind (leads_emit (.outcome answer)) fun _ ↦ ?_
  have houtcome := htest _ (.outcome answer)
  split
  · exact Triple.fail fun _ h ↦ ends_of_ne (by decide) houtcome h
  · exact Triple.fail fun _ h ↦ ends_of_ne (by decide) houtcome h
  · next fault hcancelled hfault =>
    refine Triple.bind ((waits_require (by decide)).leads houtcome) fun _ ↦ Triple.fact fun hraised ↦ ?_
    refine Triple.bind ((waits_require (by decide)).leads houtcome) fun _ ↦ Triple.fact fun hdenied ↦ ?_
    simp only [not_or, Bool.not_eq_false] at hraised hdenied
    have hdenies : answer.Denies := by
      refine ⟨?_, hraised, hdenied.1, hdenied.2.2⟩
      cases fault with
      | timeout => exact absurd rfl hdenied.2.1
      | cancelled => exact absurd rfl hcancelled
      | other => exact hfault
    refine (leads_requireQuiet fun events hquieting ↦ ?_).weaken fun _ w hw ↦ ⟨answer, hdenies, ?_⟩
    · have hstopped := htest _ (.quieting answer hdenies hquieting)
      rwa [List.append_assoc] at hstopped
    · rw [hw]
      simp [View.extend, View.record, denial]

/-- An ERROR frame of the expected status. -/
theorem leads_requireErrorStatus {raw : Bytes} {status : UInt8}
    (hbefore : Stopped crypto onCurve aead mode v.trace) :
    Leads crypto onCurve aead mode (· = v) (requireErrorStatus onCurve raw status) fun _ v' ↦
      v' = v.record (.accepted (errorFrame status)) := by
  refine Triple.bind ((waits_orAuthError _).leads hbefore) fun frame ↦ Triple.fact fun hframe ↦ ?_
  refine Triple.bind ((waits_require (by decide)).leads hbefore) fun _ ↦ Triple.fact fun hstatus ↦ ?_
  obtain ⟨hsubtype, hpayload⟩ := not_or.mp hstatus
  have hraw : raw = errorFrame status := by
    rw [(parsePhase7Frame_eq_some hframe).2, not_not.mp hsubtype, not_not.mp hpayload]
    rfl
  rw [hraw]
  exact leads_emit _

end Rules

/-! ## The key schedule -/

section Schedule

variable (crypto : Crypto) (inputs : FullInputs)

theorem computePhase7TranscriptHash_eq :
    computePhase7TranscriptHash crypto inputs.sid.bytes inputs.pk.bytes inputs.ct.bytes inputs.centralKey.bytes
      inputs.peripheralKey.bytes = some (hybridStart crypto pqV07 inputs).hash := by
  rw [computePhase7TranscriptHash, buildPhase7Transcript_eq]
  rfl

theorem derivePhase7Keys_eq :
    derivePhase7Keys crypto inputs.ss.bytes inputs.ssEcdh.bytes (hybridStart crypto pqV07 inputs).hash.bytes =
      some (hybridStart crypto pqV07 inputs).keys := by
  simp only [derivePhase7Keys, requireSize_block, buildHybridIkm_eq, Option.bind_eq_bind, Option.bind_some,
    Option.pure_def]
  rfl

theorem computePhase7FinishedC_eq :
    computePhase7FinishedC crypto (hybridStart crypto pqV07 inputs).keys.finishedC.bytes
      (hybridStart crypto pqV07 inputs).hash.bytes = some (hybridTagC crypto pqV07 inputs) := by
  simp only [computePhase7FinishedC, computeFinished, requireSize_block, Option.bind_eq_bind, Option.bind_some,
    Option.pure_def]
  rfl

theorem computePhase7FinishedP_eq :
    computePhase7FinishedP crypto (hybridStart crypto pqV07 inputs).keys.finishedP.bytes
      (hybridStart crypto pqV07 inputs).hash.bytes = some (hybridTagP crypto pqV07 inputs) := by
  simp only [computePhase7FinishedP, computeFinished, requireSize_block, Option.bind_eq_bind, Option.bind_some,
    Option.pure_def]
  rfl

theorem computePhase7Sas_eq :
    computePhase7Sas crypto (hybridStart crypto pqV07 inputs).keys.sas.bytes
      (hybridStart crypto pqV07 inputs).hash.bytes = some (hybridStart crypto pqV07 inputs).sas := by
  simp only [computePhase7Sas, requireSize_block, Option.bind_eq_bind, Option.bind_some, Option.pure_def]
  rfl

theorem derivePhase7TrafficKeys_eq :
    derivePhase7TrafficKeys crypto (hybridStart crypto pqV07 inputs).keys.application.bytes =
      some (hybridTraffic crypto pqV07 inputs) := by
  simp only [derivePhase7TrafficKeys, requireSize_block, Option.bind_eq_bind, Option.bind_some, Option.pure_def]
  rfl

end Schedule

/-- The buffers once the schedule is derived. -/
def Opening.derived (crypto : Crypto) (o : Opening) : Buffers where
  ssMlkem := (Block.zero 32).bytes
  ssEcdh := (Block.zero 32).bytes
  applicationKey := (o.schedule crypto).keys.application.bytes
  finishedC := (hybridTagC crypto pqV07 o.inputs).bytes
  expectedFinishedP := (hybridTagP crypto pqV07 o.inputs).bytes

theorem zeroed_block (block : Block 32) : zeroed block.bytes = (Block.zero 32).bytes := by
  rw [zeroed, block.length_bytes]
  rfl

/-! ## The handshake up to the SAS -/

section Handshake

variable {crypto : Crypto} {onCurve : Bytes → Bool} {aead : Aead} {mode : Option NegativeTest} {env : ℕ → Answer}

/-- Before the transfer nothing needs to be valid. -/
theorem stopped_early (o : Opening) {n : ℕ} (hn : 4 ≤ n) : Stopped crypto onCurve aead mode (o.trace.drop n) := by
  have hfew : ∀ event ∈ o.trace.drop n, event = .encapsulated o.inputs.ct.bytes o.inputs.ss.bytes ∨
      event = .read o.inputs.pk.bytes := by
    intro event hevent
    have hmem := (List.drop_suffix_drop_left o.trace hn).subset hevent
    simpa [Opening.trace] using hmem
  refine .opening o ⟨List.drop_suffix n o.trace, fun h ↦ ?_, fun h ↦ ?_, fun h ↦ ?_⟩
  · simpa using hfew _ h
  · simpa using hfew _ h
  · simpa using hfew _ h

/-- Before READY7_AUTH the key of the Peripheral is not known. -/
theorem stopped_transferred (o : Opening) (hcentral : onCurve o.inputs.centralKey.bytes = true)
    (hfragments : ∃ mtu, writeFragmentedCiphertext o.inputs.ct.bytes mtu = some o.fragments) {n : ℕ} (hn : 2 ≤ n) :
    Stopped crypto onCurve aead mode (o.trace.drop n) := by
  refine .opening o ⟨List.drop_suffix n o.trace, fun _ ↦ hcentral, fun _ ↦ hfragments, fun h ↦ ?_⟩
  have hmem := (List.drop_suffix_drop_left o.trace hn).subset h
  simp [Opening.trace] at hmem

theorem Opening.Valid.stopped_drop {o : Opening} (h : o.Valid onCurve) (n : ℕ) :
    Stopped crypto onCurve aead mode (o.trace.drop n) :=
  .opening o ⟨List.drop_suffix n o.trace, fun _ ↦ h.central, fun _ ↦ h.fragments, fun _ ↦ h.peripheral⟩

/-- An opening of which not everything has happened yet. -/
def partialOpening (pk : Block 1184) (ct : Block 1088) (ss : Block 32) (sid : Block 16)
    (centralKey peripheralKey : P256Key) (fragments : List Bytes) : Opening where
  fragments := fragments
  inputs := { pk, ct, ss, ssEcdh := .zero 32, sid, centralKey, peripheralKey, sec := [] }
  probeIv := .zero 12

theorem stopped_nil : Stopped crypto onCurve aead mode [] :=
  stopped_early (partialOpening (.zero 1184) (.zero 1088) (.zero 32) (.zero 16) ⟨.zero 64⟩ ⟨.zero 64⟩ []) (n := 6)
    (by decide)

/-- The view after the encapsulation. -/
def encapsulatedView (pk : Block 1184) (ct : Block 1088) (ss : Block 32) : View where
  trace := [.encapsulated ct.bytes ss.bytes, .read pk.bytes]
  buffers := { ssMlkem := ss.bytes }

theorem leads_establishSecret :
    Leads crypto onCurve aead mode (· = {}) (establishSecret env) fun out v ↦
      ∃ (pk : Block 1184) (key : P256Key) (ct : Block 1088) (ss : Block 32),
        out = (pk.bytes, key.bytes, ct.bytes) ∧ v = encapsulatedView pk ct ss := by
  let blank := partialOpening (.zero 1184) (.zero 1088) (.zero 32) (.zero 16) ⟨.zero 64⟩ ⟨.zero 64⟩ []
  have hnone : Stopped crypto onCurve aead mode [] := stopped_nil
  refine Triple.bind (waits_requireConnected.leads hnone) fun _ ↦ Triple.fact fun _ ↦ ?_
  refine Triple.bind (waits_await.leads hnone) fun answer ↦ Triple.fact fun _ ↦ ?_
  refine Triple.bind ((waits_require (by decide)).leads hnone) fun _ ↦ Triple.fact fun hpk ↦ ?_
  obtain ⟨pk, hpk⟩ : ∃ pk : Block 1184, answer.bytes = pk.bytes := ⟨⟨_, not_not.mp hpk⟩, rfl⟩
  rw [hpk]
  have hread : Stopped crypto onCurve aead mode [.read pk.bytes] :=
    stopped_early { blank with inputs := { blank.inputs with pk } } (n := 5) (by decide)
  refine Triple.bind (leads_emit _) fun _ ↦ ?_
  refine Triple.bind (waits_ask.leads hread) fun generated ↦ Triple.fact fun _ ↦ ?_
  refine Triple.bind (waits_ask.leads hread) fun encapsulated ↦ Triple.fact fun _ ↦ ?_
  refine Triple.bind ((waits_require (by decide)).leads hread) fun _ ↦ Triple.fact fun _ ↦ ?_
  refine Triple.bind (leads_setBuffers _) fun _ ↦ ?_
  refine Triple.bind ((waits_require (by decide)).leads hread) fun _ ↦ Triple.fact fun hct ↦ ?_
  refine Triple.bind ((waits_require (by decide)).leads hread) fun _ ↦ Triple.fact fun hss ↦ ?_
  refine Triple.bind (leads_emit _) fun _ ↦ Triple.pure fun w hw ↦ ?_
  exact ⟨pk, ⟨.ofBytes 64 generated.bytes⟩, ⟨_, not_not.mp hct⟩, ⟨_, not_not.mp hss⟩, rfl, hw⟩

/-- START7_AUTH of a key on the curve. -/
theorem encodeStart7Auth_eq_some {sid : Block 16} {key : P256Key} {wire : Bytes}
    (h : encodeStart7Auth onCurve sid.bytes key.bytes = some wire) :
    onCurve key.bytes = true ∧ wire = phase7Frame pqV07 pqPhase7Start7Auth (sid.bytes ++ key.bytes) := by
  have hkey : requireSize 65 key.bytes = some ⟨key.bytes, by simp [P256Key.bytes]⟩ := dif_pos _
  simp only [encodeStart7Auth, requireSize_block, hkey, Option.bind_eq_bind, Option.bind_some,
    Option.bind_eq_some_iff, Option.guard_eq_some', exists_and_left, exists_const] at h
  obtain ⟨hcurve, hwire⟩ := h
  refine ⟨?_, (encodePhase7Frame_eq_some_iff.mp hwire).2⟩
  simp only [loadsP256PublicKey, Bool.and_eq_true] at hcurve
  exact hcurve.2

/-- READY7_AUTH of a key on the curve. -/
theorem parseReady7Auth_eq_some {raw payload : Bytes} (h : parseReady7Auth onCurve raw = some payload) :
    ∃ key : P256Key, payload = key.bytes ∧ onCurve key.bytes = true ∧
      raw = phase7Frame pqV07 pqPhase7Ready7Auth key.bytes := by
  simp only [parseReady7Auth, Option.bind_eq_bind, Option.bind_eq_some_iff, Prod.exists, Option.guard_eq_some',
    exists_and_left, exists_const, Option.pure_def, Option.some.injEq] at h
  obtain ⟨subtype, payload', hparse, rfl, rfl⟩ := h
  obtain ⟨⟨hvalid, hcurve⟩, rfl⟩ := parsePhase7Frame_eq_some_iff.mp hparse
  obtain ⟨hlength, hshape⟩ : payload'.length = 65 ∧ validSec1PublicKeyShape payload' = true := by
    simpa [validPhase7Payload, pqPhase7Ready7Auth, pqPhase7Start7, pqPhase7Start7Auth, pqPhase7Ready7Cp2] using hvalid
  obtain ⟨key, rfl⟩ := exists_p256Key hshape
  exact ⟨key, rfl, hcurve _ (by simp [embeddedPoint, pqPhase7Ready7Auth, pqPhase7Start7, pqPhase7Start7Auth,
    List.take_of_length_le hlength.le]), rfl⟩

theorem leads_sendCiphertext {v : View} {ct : Bytes} (hbefore : Stopped crypto onCurve aead mode v.trace) :
    Leads crypto onCurve aead mode (· = v) (sendCiphertext env ct) fun _ v' ↦ ∃ fragments,
      (∃ mtu, writeFragmentedCiphertext ct mtu = some fragments) ∧ v' = v.record (.transferred fragments) := by
  refine Triple.bind (waits_requireConnected.leads hbefore) fun answer ↦ Triple.fact fun _ ↦ ?_
  refine Triple.bind ((waits_orRaise _).leads hbefore) fun fragments ↦ Triple.fact fun hfragments ↦ ?_
  refine Triple.bind ((waits_writeFragments fragments).leads hbefore) fun _ ↦ Triple.fact fun _ ↦ ?_
  exact (leads_emit _).weaken fun _ _ h ↦ ⟨fragments, ⟨_, hfragments⟩, h⟩

/-- The view after READY7_AUTH. -/
def readyView (o : Opening) : View where
  trace := o.trace.drop 1
  buffers := { ssMlkem := o.inputs.ss.bytes }

theorem leads_start (pk : Block 1184) (key : P256Key) (ct : Block 1088) (ss : Block 32) :
    Leads crypto onCurve aead mode (· = encapsulatedView pk ct ss) (start env onCurve key.bytes ct.bytes) fun out v ↦
      ∃ o : Opening, o.Valid onCurve ∧ o.inputs.pk = pk ∧ o.inputs.ct = ct ∧ o.inputs.centralKey = key ∧
        out = (o.inputs.sid.bytes, o.inputs.peripheralKey.bytes) ∧ v = readyView o := by
  have hencapsulated : Stopped crypto onCurve aead mode (encapsulatedView pk ct ss).trace :=
    stopped_early (partialOpening pk ct ss (.zero 16) key key []) (n := 4) (by decide)
  refine Triple.bind (waits_ask.leads hencapsulated) fun drawn ↦ Triple.fact fun _ ↦ ?_
  refine Triple.bind ((waits_orRaise _).leads hencapsulated) fun start7 ↦ Triple.fact fun hstart ↦ ?_
  obtain ⟨hcentral, rfl⟩ := encodeStart7Auth_eq_some hstart
  refine Triple.bind (leads_sendCiphertext hencapsulated) fun _ ↦ Triple.exists_pre fun fragments ↦ ?_
  refine Triple.fact fun hfragments ↦ ?_
  let o := partialOpening pk ct ss (.ofBytes 16 drawn.bytes) key key fragments
  have hsent : Stopped crypto onCurve aead mode (o.trace.drop 2) := stopped_transferred o hcentral hfragments (n := 2) (by decide)
  refine Triple.bind (leads_sendControl (stopped_transferred o hcentral hfragments (n := 3) (by decide)) hsent) fun _ ↦ ?_
  refine Triple.bind (waits_receive.leads hsent) fun raw ↦ Triple.fact fun _ ↦ ?_
  refine Triple.bind ((waits_checkErrorFrame raw).leads hsent) fun _ ↦ Triple.fact fun _ ↦ ?_
  refine Triple.bind ((waits_orAuthError _).leads hsent) fun payload ↦ Triple.fact fun hready ↦ ?_
  obtain ⟨peripheralKey, rfl, hperipheral, rfl⟩ := parseReady7Auth_eq_some hready
  refine Triple.bind (leads_emit _) fun _ ↦ Triple.pure fun w hw ↦ ?_
  exact ⟨partialOpening pk ct ss (.ofBytes 16 drawn.bytes) key peripheralKey fragments,
    ⟨hcentral, hperipheral, hfragments⟩, rfl, rfl, rfl, rfl, hw⟩

/-- The handshake stands before the SAS. -/
structure Negotiated (crypto : Crypto) (onCurve : Bytes → Bool) (sid : Bytes) (sas : ℕ) (o : Opening) : Prop where
  valid : o.Valid onCurve
  sid_eq : sid = o.inputs.sid.bytes
  sas_eq : sas = (o.schedule crypto).sas

/-- The view of the handshake at a trace. -/
def Opening.at (crypto : Crypto) (o : Opening) (trace : List Event) : View where
  trace := trace
  buffers := o.derived crypto

theorem leads_deriveSecrets {o : Opening} (hvalid : o.Valid onCurve) :
    Leads crypto onCurve aead mode (· = readyView o)
      (deriveSecrets env crypto o.inputs.sid.bytes o.inputs.pk.bytes o.inputs.ct.bytes o.inputs.centralKey.bytes
        o.inputs.peripheralKey.bytes) fun sas v ↦
      ∃ o' : Opening, Negotiated crypto onCurve o.inputs.sid.bytes sas o' ∧ v = o'.at crypto o'.trace := by
  have hready : Stopped crypto onCurve aead mode (readyView o).trace := hvalid.stopped_drop 1
  refine Triple.bind (waits_ask.leads hready) fun agreed ↦ Triple.fact fun _ ↦ ?_
  refine Triple.bind ((waits_require (by decide)).leads hready) fun _ ↦ Triple.fact fun _ ↦ ?_
  refine Triple.bind ((waits_orRaise _).leads hready) fun ssEcdh ↦ Triple.fact fun _ ↦ ?_
  let o' : Opening := { o with inputs := { o.inputs with ssEcdh } }
  refine Triple.bind (leads_setBuffers _) fun _ ↦ Triple.bind (leads_emit _) fun _ ↦ ?_
  refine Triple.bind (leads_orRaise (computePhase7TranscriptHash_eq crypto o'.inputs)) fun hash ↦ ?_
  refine Triple.fact fun hhash ↦ ?_
  refine Triple.bind leads_buffers fun buffers ↦ Triple.fact fun hbuffers ↦ ?_
  subst hhash hbuffers
  refine Triple.bind (leads_orRaise (derivePhase7Keys_eq crypto o'.inputs)) fun keys ↦ Triple.fact fun hkeys ↦ ?_
  subst hkeys
  refine Triple.bind (leads_setBuffers _) fun _ ↦ Triple.bind (leads_setBuffers _) fun _ ↦ ?_
  refine Triple.bind (leads_orRaise (computePhase7FinishedC_eq crypto o'.inputs)) fun tagC ↦ Triple.fact fun htagC ↦ ?_
  refine Triple.bind (leads_setBuffers _) fun _ ↦ ?_
  refine Triple.bind (leads_orRaise (computePhase7FinishedP_eq crypto o'.inputs)) fun tagP ↦ Triple.fact fun htagP ↦ ?_
  refine Triple.bind (leads_setBuffers _) fun _ ↦ ?_
  subst htagC htagP
  refine (leads_orRaise (computePhase7Sas_eq crypto o'.inputs)).weaken fun sas w hw ↦ ⟨o', ?_⟩
  refine ⟨⟨⟨hvalid.central, hvalid.peripheral, hvalid.fragments⟩, rfl, hw.1⟩, hw.2.trans ?_⟩
  simp only [Opening.at, Opening.derived, View.record, readyView, zeroed_block]
  rfl

theorem leads_negotiate :
    Leads crypto onCurve aead mode (· = {}) (negotiate env crypto onCurve) fun out v ↦
      ∃ o : Opening, Negotiated crypto onCurve out.1 out.2 o ∧ v = o.at crypto o.trace := by
  refine Triple.bind leads_establishSecret fun out ↦ Triple.exists_pre fun pk ↦ Triple.exists_pre fun key ↦ ?_
  refine Triple.exists_pre fun ct ↦ Triple.exists_pre fun ss ↦ Triple.fact fun hout ↦ ?_
  subst hout
  refine Triple.bind (leads_start pk key ct ss) fun out ↦ Triple.exists_pre fun o ↦ Triple.fact fun hvalid ↦ ?_
  refine Triple.fact fun hpk ↦ Triple.fact fun hct ↦ Triple.fact fun hkey ↦ Triple.fact fun hout ↦ ?_
  subst hpk hct hkey hout
  exact Triple.bind (leads_deriveSecrets hvalid) fun sas ↦ Triple.pure fun _ h ↦ h

end Handshake

end PqBleHandshake.Python.V07
