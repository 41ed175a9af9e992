import PqBleHandshake.Foundation.Double
import PqBleHandshake.Foundation.Transition
import PqBleHandshake.Resumption.KeySchedule

/-!
# The Python ticket and Peripheral

`Ticket` and `PeripheralResume` of `resumption.py`.  A method that raises returns the reason and the
state the exception leaves; a raising method of the Peripheral disconnects first.  Clock readings
are doubles, in seconds, and so are the age of a ticket and a deadline, which are rounded as the
subtraction and the addition round them.  A method sees one reading.  The random nonce of `init` is
an argument.
-/

namespace PqBleHandshake.Resumption.Python

open Foundation

/-- `TTL` in seconds. -/
def ttl : ℚ := 24 * 60 * 60
/-- `MAX_RESUMES` -/
def maxResumes : ℕ := 100
/-- `REPLAY_CAPACITY` -/
def replayCapacity : ℕ := 128

/-- The Python `Ticket`.  A peer is only ever compared, so the bytes of the resolved identity stand
for the string. -/
structure Ticket where
  profile : UInt8
  peer : Block 7
  rid : Bytes
  root : Block 32
  createdAt : ℚ
  successfulResumes : ℕ
  replay : List (Block 32 × Block 16)
  valid : Bool
deriving DecidableEq

namespace Ticket

/-- `clear` -/
def clear (ticket : Ticket) : Ticket :=
  { ticket with root := .zero 32, rid := [], replay := [], valid := false }

/-- `check`: raises, after clearing an expired or used-up ticket. -/
def check (ticket : Ticket) (profile : UInt8) (peer : Block 7) (now : ℚ) :
    Except (Reason × Ticket) Unit :=
  if ticket.valid = false then .error (.noTicket, ticket)
  else if now < ticket.createdAt ∨ ttl ≤ roundDouble (now - ticket.createdAt) then
    .error (.expired, ticket.clear)
  else if maxResumes ≤ ticket.successfulResumes then .error (.maxed, ticket.clear)
  else if ticket.profile ≠ profile ∨ ticket.peer ≠ peer then .error (.profileMismatch, ticket)
  else .ok ()

/-- `used` -/
def used (ticket : Ticket) : Ticket :=
  let counted := { ticket with successfulResumes := ticket.successfulResumes + 1 }
  if maxResumes ≤ counted.successfulResumes then counted.clear else counted

end Ticket

/-- The states of `PeripheralResume`. -/
inductive PeripheralState
  | idle | waitFinishC | pendingSend | appSecure
deriving DecidableEq, Repr

/-- `PeripheralResume` -/
structure PeripheralResume where
  profile : UInt8
  ticket : Option Ticket
  keys : Option SessionKeys
  state : PeripheralState
  sessionId : Bytes
  deadline : ℚ
deriving DecidableEq

namespace PeripheralResume

/-- `disconnect`; the key object is wiped and dropped. -/
def disconnect (peripheral : PeripheralResume) : PeripheralResume :=
  { peripheral with keys := none, sessionId := [], state := .idle, deadline := 0 }

/-- Give a failing check of the ticket the rest of the object's state. -/
def raising (peripheral : PeripheralResume) {α : Type} :
    Except (Reason × Ticket) α → Except (Reason × PeripheralResume) α
  | .ok value => .ok value
  | .error (reason, ticket) => .error (reason, { peripheral with ticket := some ticket })

/-- Give a failing pure function the object's state. -/
def lift (peripheral : PeripheralResume) {α : Type} :
    Except Reason α → Except (Reason × PeripheralResume) α
  | .ok value => .ok value
  | .error reason => .error (reason, peripheral)

theorem lift_ok_bind (peripheral : PeripheralResume) {α β : Type} (value : α)
    (next : α → Except (Reason × PeripheralResume) β) :
    (peripheral.lift (.ok value) >>= next) = next value := rfl

theorem raising_ok_bind (peripheral : PeripheralResume) {α β : Type} (value : α)
    (next : α → Except (Reason × PeripheralResume) β) :
    (peripheral.raising (.ok value) >>= next) = next value := rfl

theorem raising_error_bind (peripheral : PeripheralResume) {α β : Type} (reason : Reason)
    (ticket : Ticket) (next : α → Except (Reason × PeripheralResume) β) :
    (peripheral.raising (.error (reason, ticket)) >>= next) =
      .error (reason, { peripheral with ticket := some ticket }) := rfl

/-- The body of `init`. -/
def initBody (crypto : Crypto) (self : PeripheralResume) (raw : Bytes) (peer : Block 7)
    (l4 bonded : Bool) (clock : ℚ) (np : Block 32) :
    Except (Reason × PeripheralResume) (Bytes × PeripheralResume) := do
  require (self.state = .idle) (.replay, self)
  let payload ← self.lift (parse raw self.profile subtypeInit)
  require (self.profile = pqResumeV11 → l4 = true ∧ bonded = true) (.l4Required, self)
  let t ← orFail (.noTicket, self) self.ticket
  self.raising (t.check self.profile peer clock)
  let rid := payload.take 16
  let sid : Block 16 := .slice payload 16 16
  let nc : Block 32 := .slice payload 32 32
  let tag := payload.drop 64
  let expected ← self.lift (authInit crypto self.profile t.root rid sid.bytes nc.bytes)
  require (rid = t.rid ∧ tag = expected.bytes) (.badAuth, self)
  require (∀ old ∈ t.replay, ¬(nc = old.1 ∨ sid = old.2)) (.replay, self)
  require (t.replay.length < replayCapacity) (.replayCacheFull, self)
  let self := { self with ticket := some { t with replay := t.replay ++ [(nc, sid)] } }
  let keys ← self.lift (sessionKeys crypto self.profile t.root rid sid.bytes nc.bytes np.bytes)
  let self := { self with keys := some keys, sessionId := sid.bytes,
                          deadline := roundDouble (clock + 30), state := .waitFinishC }
  let tag ← self.lift (authAccept crypto self.profile t.root rid sid.bytes nc.bytes np.bytes)
  let wire ← self.lift (encode self.profile subtypeAccept (np.bytes ++ tag.bytes))
  return (wire, self)

/-- The body of `finish`. -/
def finishBody (crypto : Crypto) (self : PeripheralResume) (raw : Bytes) (l4 bonded : Bool)
    (clock : ℚ) : Except (Reason × PeripheralResume) (Bytes × PeripheralResume) := do
  require (self.profile = pqResumeV11 → l4 = true ∧ bonded = true) (.l4Required, self)
  require (self.state = .waitFinishC ∧ clock < self.deadline) (.malformed, self)
  let t ← orFail (.internalError, self) self.ticket
  self.raising (t.check self.profile t.peer clock)
  let payload ← self.lift (parse raw self.profile subtypeFinishC)
  let keys ← orFail (.internalError, self) self.keys
  require (payload = (keys.finish crypto true).bytes) (.badAuth, self)
  let result ← self.lift (encode self.profile subtypeFinishP (keys.finish crypto false).bytes)
  return (result, { self with state := .pendingSend })

/-- `except BaseException: self.disconnect(); raise` -/
def guarded : Except (Reason × PeripheralResume) (Bytes × PeripheralResume) →
    Except Reason Bytes × PeripheralResume
  | .ok (wire, self) => (.ok wire, self)
  | .error (reason, self) => (.error reason, self.disconnect)

/-- Whatever its outcome, a body leaves the object in a state with the property. -/
def Ends (P : PeripheralResume → Prop) :
    Except (Reason × PeripheralResume) (Bytes × PeripheralResume) → Prop
  | .ok result => P result.2
  | .error failure => P failure.2

section Ends

variable {P : PeripheralResume → Prop} {self : PeripheralResume} {α : Type}

theorem Ends.bind {first : Except (Reason × PeripheralResume) α}
    {next : α → Except (Reason × PeripheralResume) (Bytes × PeripheralResume)}
    (hfails : FailsIn self first) (hself : P self) (hnext : ∀ value, Ends P (next value)) :
    Ends P (first >>= next) := by
  cases first with
  | ok value => exact hnext value
  | error failure =>
    change P failure.2
    rw [hfails failure.1 failure.2 rfl]
    exact hself

theorem failsIn_lift {result : Except Reason α} : FailsIn self (self.lift result) := by
  intro reason next h
  cases result with
  | ok value => cases h
  | error error =>
    cases h
    rfl

/-- An `init` whose ticket passes its check leaves that ticket, with whatever it remembers by then. -/
theorem initBody_ends (crypto : Crypto) (raw : Bytes) {peer : Block 7} (l4 bonded : Bool) {clock : ℚ}
    (np : Block 32) {t : Ticket} (hticket : self.ticket = some t)
    (hcheck : t.check self.profile peer clock = .ok ()) :
    Ends (fun self ↦ ∃ replay, self.ticket = some { t with replay })
      (initBody crypto self raw peer l4 bonded clock np) := by
  have hself : ∃ replay, self.ticket = some { t with replay } := ⟨t.replay, hticket⟩
  unfold initBody
  apply Ends.bind .require hself
  intro _
  apply Ends.bind failsIn_lift hself
  intro payload
  apply Ends.bind .require hself
  intro _
  rw [hticket, orFail_some_bind, hcheck, raising_ok_bind]
  dsimp only
  apply Ends.bind failsIn_lift hself
  intro expected
  apply Ends.bind .require hself
  intro _
  apply Ends.bind .require hself
  intro _
  apply Ends.bind .require hself
  intro _
  apply Ends.bind failsIn_lift ⟨_, rfl⟩
  intro keys
  apply Ends.bind failsIn_lift ⟨_, rfl⟩
  intro tag
  apply Ends.bind failsIn_lift ⟨_, rfl⟩
  intro wire
  exact ⟨_, rfl⟩

end Ends

/-- `init` -/
def init (crypto : Crypto) (self : PeripheralResume) (raw : Bytes) (peer : Block 7)
    (l4 bonded : Bool) (clock : ℚ) (np : Block 32) : Except Reason Bytes × PeripheralResume :=
  guarded (initBody crypto self raw peer l4 bonded clock np)

/-- `finish` -/
def finish (crypto : Crypto) (self : PeripheralResume) (raw : Bytes) (l4 bonded : Bool)
    (clock : ℚ) : Except Reason Bytes × PeripheralResume :=
  guarded (finishBody crypto self raw l4 bonded clock)

/-- `commit`: it checks the state and the deadline and nothing else. -/
def commit (self : PeripheralResume) (clock : ℚ) : Except Reason Bytes × PeripheralResume :=
  if self.state = .pendingSend ∧ clock < self.deadline then
    match self.keys, self.ticket with
    | some keys, some t =>
      (.ok [], { self with keys := some keys.clearConfirmation, ticket := some t.used,
                           state := .appSecure })
    | _, _ => (.error .internalError, self)
  else (.error .malformed, self.disconnect)

end PeripheralResume

end PqBleHandshake.Resumption.Python
