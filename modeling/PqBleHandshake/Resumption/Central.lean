import PqBleHandshake.Resumption.PeripheralModel

/-!
# The Python Central

`CentralResume` of `resumption.py`.  The ticket is an object that several Centrals may share, so
each method takes it as an argument and returns it.  A method that raises returns the reason and the
state the exception leaves: `accept` and `finish` clear the session first, `begin` only when it is
called twice.
-/

namespace PqBleHandshake.Resumption.Python

open Foundation

/-- The states of `CentralResume`. -/
inductive CentralState
  | new | waitAccept | waitFinishP | appSecure | closed
deriving DecidableEq, Repr

/-- `CentralResume`, without the ticket object it refers to. -/
structure CentralResume where
  profile : UInt8
  state : CentralState
  sessionId : Bytes
  nc : Bytes
  keys : Option SessionKeys
deriving DecidableEq

namespace CentralResume

/-- The constructor; `sid` and `nc` are the two random draws. -/
def create (ticket : Ticket) (now : ℚ) (sid : Block 16) (nc : Block 32) :
    Except (Reason × Ticket) CentralResume := do
  ticket.check ticket.profile ticket.peer now
  return { profile := ticket.profile, state := .new, sessionId := sid.bytes, nc := nc.bytes,
           keys := none }

/-- `clear`; a key object stays behind with wiped buffers. -/
def clear (central : CentralResume) : CentralResume :=
  { central with
    keys := central.keys.map SessionKeys.clear, sessionId := [], nc := [], state := .closed }

/-- `begin`: the INIT frame. -/
def begin (crypto : Crypto) (central : CentralResume) (t : Ticket) :
    Except Reason Bytes × CentralResume :=
  if central.state ≠ .new then (.error .malformed, central.clear)
  else
    let wire := do
      let mac ← authInit crypto central.profile t.root t.rid central.sessionId central.nc
      encode central.profile subtypeInit (t.rid ++ central.sessionId ++ central.nc ++ mac.bytes)
    (wire, { central with state := .waitAccept })

/-- The body of `accept`: the FINISH_C frame and the new keys. -/
def acceptBody (crypto : Crypto) (central : CentralResume) (t : Ticket) (raw : Bytes) :
    Except Reason (Bytes × SessionKeys) := do
  require (central.state = .waitAccept) .malformed
  let payload ← parse raw central.profile subtypeAccept
  let np := payload.take 32
  let expected ←
    authAccept crypto central.profile t.root t.rid central.sessionId central.nc np
  require (expected.bytes = payload.drop 32) .badAuth
  let keys ← sessionKeys crypto central.profile t.root t.rid central.sessionId central.nc np
  let wire ← encode central.profile subtypeFinishC (keys.finish crypto true).bytes
  return (wire, keys)

/-- `accept` -/
def accept (crypto : Crypto) (central : CentralResume) (t : Ticket) (raw : Bytes) :
    Except Reason Bytes × CentralResume :=
  match acceptBody crypto central t raw with
  | .ok (wire, keys) => (.ok wire, { central with keys := some keys, state := .waitFinishP })
  | .error reason => (.error reason, central.clear)

/-- The body of `finish`: the keys without the confirmation secrets. -/
def finishBody (crypto : Crypto) (central : CentralResume) (raw : Bytes) :
    Except Reason SessionKeys := do
  require (central.state = .waitFinishP) .malformed
  let payload ← parse raw central.profile subtypeFinishP
  let keys ← orFail .internalError central.keys
  require ((keys.finish crypto false).bytes = payload) .badAuth
  return keys.clearConfirmation

/-- `finish`; success counts one use of the ticket. -/
def finish (crypto : Crypto) (central : CentralResume) (t : Ticket) (raw : Bytes) :
    Except Reason Unit × CentralResume × Ticket :=
  match finishBody crypto central raw with
  | .ok keys => (.ok (), { central with keys := some keys, state := .appSecure }, t.used)
  | .error reason => (.error reason, central.clear, t)

/-! ## What a successful method did -/

variable {crypto : Crypto} {central central' : CentralResume} {t t' : Ticket} {raw wire : Bytes}

/-- **Success of `begin`.** -/
theorem begin_eq_ok (h : central.begin crypto t = (.ok wire, central')) :
    central.state = .new ∧ central' = { central with state := .waitAccept } ∧
      KnownProfile central.profile ∧ ∃ (rid sid : Block 16) (nc : Block 32),
        t.rid = rid.bytes ∧ central.sessionId = sid.bytes ∧ central.nc = nc.bytes ∧
          wire = initFrame crypto central.profile t.root rid sid nc := by
  unfold begin at h
  split at h
  · cases h
  · next hnew =>
    simp only [ne_eq, not_not] at hnew
    obtain ⟨hwire, rfl⟩ := Prod.mk.inj h
    rw [except_bind_eq_ok_iff] at hwire
    obtain ⟨tag, htag, hencode⟩ := hwire
    obtain ⟨hknown, rid, sid, nc, hrid, hsid, hnc, rfl⟩ := authInit_eq_ok htag
    refine ⟨hnew, rfl, hknown, rid, sid, nc, hrid, hsid, hnc, ?_⟩
    rw [encode_eq_ok hknown (by rw [hrid, hsid, hnc]; simp; rfl), hrid, hsid, hnc] at hencode
    rw [← Except.ok.inj hencode, initFrame]
    simp only [List.append_assoc]

/-- A `begin` that raised either cleared the session, or left it waiting without an INIT because the
profile is unknown or the ticket id has the wrong size. -/
theorem begin_eq_error {reason : Reason} {sid : Block 16} {nc : Block 32}
    (hsid : central.state = .new → central.sessionId = sid.bytes ∧ central.nc = nc.bytes)
    (h : central.begin crypto t = (.error reason, central')) :
    central' = central.clear ∨
      central.state = .new ∧ central' = { central with state := .waitAccept } ∧
        ¬(KnownProfile central.profile ∧ ∃ rid : Block 16, t.rid = rid.bytes) := by
  unfold begin at h
  split at h
  · exact .inl (Prod.mk.inj h).2.symm
  · next hnew =>
    simp only [ne_eq, not_not] at hnew
    obtain ⟨hwire, rfl⟩ := Prod.mk.inj h
    refine .inr ⟨hnew, rfl, ?_⟩
    rintro ⟨hknown, rid, hrid⟩
    obtain ⟨hsid, hnc⟩ := hsid hnew
    rw [hrid, hsid, hnc, authInit_eq hknown, ok_bind rfl, encode_eq_ok hknown (by simp; rfl)] at hwire
    cases hwire

/-- **Success of `accept`.** -/
theorem accept_eq_ok (h : central.accept crypto t raw = (.ok wire, central')) :
    central.state = .waitAccept ∧ KnownProfile central.profile ∧
      ∃ (rid sid : Block 16) (nc np : Block 32),
        t.rid = rid.bytes ∧ central.sessionId = sid.bytes ∧ central.nc = nc.bytes ∧
          raw = acceptFrame crypto central.profile t.root rid sid nc np ∧
          let keys := resumeKeys crypto central.profile t.root
            (transcriptBytes central.profile rid sid nc np)
          wire = finishCFrame crypto central.profile keys ∧
            central' = { central with
              keys := some { keys with profile := central.profile }, state := .waitFinishP } := by
  unfold accept at h
  split at h
  · next wire' keys hbody =>
    obtain ⟨hwire, rfl⟩ := Prod.mk.inj h
    cases hwire
    simp only [acceptBody, except_bind_eq_ok_iff, require_eq_ok_iff, parse_eq_ok_iff,
      exists_and_left, exists_const] at hbody
    obtain ⟨hstate, payload, hparse, tag, htag, hequal, keys', hkeys, wire', hwire, hresult⟩ := hbody
    obtain ⟨hknown, hsize, rfl⟩ := pqResumeParse_eq_some_iff.mp hparse
    obtain ⟨np, tag', rfl⟩ := exists_acceptPayload (Option.some.inj hsize).symm
    obtain ⟨-, rid, sid, nc, np', hrid, hsid, hnc, hnp, rfl⟩ := authAccept_eq_ok htag
    rw [List.take_left' np.length_bytes] at hnp hkeys
    rw [List.drop_left' np.length_bytes, Block.bytes_inj] at hequal
    obtain rfl := Block.bytes_injective hnp
    rw [hrid, hsid, hnc, sessionKeys_eq hknown] at hkeys
    cases hkeys
    rw [encode_eq_ok hknown (by simp; rfl)] at hwire
    cases hwire
    obtain ⟨rfl, rfl⟩ := Prod.mk.inj (Except.ok.inj hresult)
    exact ⟨hstate, hknown, rid, sid, nc, np, hrid, hsid, hnc, by rw [acceptFrame, hequal], rfl, rfl⟩
  · cases h

/-- A failing `accept` closes the session. -/
theorem accept_eq_error {reason : Reason}
    (h : central.accept crypto t raw = (.error reason, central')) : central' = central.clear := by
  unfold accept at h
  split at h
  · cases h
  · exact (Prod.mk.inj h).2.symm

/-- **Success of `finish`.** -/
theorem finish_eq_ok (h : central.finish crypto t raw = (.ok (), central', t')) :
    central.state = .waitFinishP ∧ KnownProfile central.profile ∧ t' = t.used ∧
      ∃ keys, central.keys = some keys ∧
        raw = frame central.profile subtypeFinishP (keys.finish crypto false).bytes ∧
        central' = { central with keys := some keys.clearConfirmation, state := .appSecure } := by
  unfold finish at h
  split at h
  · next keys hbody =>
    obtain ⟨-, hrest⟩ := Prod.mk.inj h
    obtain ⟨rfl, rfl⟩ := Prod.mk.inj hrest
    simp only [finishBody, except_bind_eq_ok_iff, require_eq_ok_iff, parse_eq_ok_iff,
      orFail_eq_ok_iff, exists_and_left, exists_const] at hbody
    obtain ⟨hstate, payload, hparse, keys', hkeys, rfl, hresult⟩ := hbody
    obtain ⟨hknown, -, rfl⟩ := pqResumeParse_eq_some_iff.mp hparse
    cases hresult
    exact ⟨hstate, hknown, rfl, keys', hkeys, rfl, rfl⟩
  · cases (Prod.mk.inj h).1

/-- A failing `finish` closes the session and leaves the ticket alone. -/
theorem finish_eq_error {reason : Reason}
    (h : central.finish crypto t raw = (.error reason, central', t')) :
    central' = central.clear ∧ t' = t := by
  unfold finish at h
  split at h
  · cases (Prod.mk.inj h).1
  · obtain ⟨-, hrest⟩ := Prod.mk.inj h
    obtain ⟨rfl, rfl⟩ := Prod.mk.inj hrest
    exact ⟨rfl, rfl⟩

end CentralResume

end PqBleHandshake.Resumption.Python
