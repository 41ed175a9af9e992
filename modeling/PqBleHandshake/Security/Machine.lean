import PqBleHandshake.Foundation.Transition
import PqBleHandshake.Link

/-!
# The Secure Connections ceremony

`pq_v1_security.c`: the mutex-protected record of the SMP ceremony and the callbacks that change it.  A
section under `state_lock` is one step.  Three threads interleave: the Bluetooth host thread, which runs
one callback at a time, the button scan, and the timeout work.

The generations are counted without wrapping; the code compares them as `uint32_t`, which is `SameU32`.
The passkey is only logged and left out.
-/

namespace PqBleHandshake.Security

open Foundation

/-- `enum pq_v1_security_state` -/
inductive SecurityState
  | disconnected | connectedUnsecured | smpPairing | numericComparison | l4Secured | failed
deriving DecidableEq, Repr

/-- The fields under `state_lock`. -/
structure Record where
  trackedConn : Option Conn
  authConn : Option Conn
  secState : SecurityState
  connectionGeneration : ℕ
  authGeneration : ℕ
  securedGeneration : ℕ
  ncDeadline : ℤ
  pairingAttempted : Bool
  ncAccepted : Bool
  buttonsArmed : Bool
deriving DecidableEq

/-- The record at boot. -/
def Record.boot : Record where
  trackedConn := none
  authConn := none
  secState := .disconnected
  connectionGeneration := 0
  authGeneration := 0
  securedGeneration := 0
  ncDeadline := 0
  pairingAttempted := false
  ncAccepted := false
  buttonsArmed := false

namespace Record

/-- `take_auth_conn` -/
def takeAuthConn (record : Record) (generation : ℕ) (accept : Bool) (now : ℤ) :
    Option (Conn × Record) :=
  match record.authConn with
  | none => none
  | some conn =>
    if record.trackedConn = some conn ∧ SameU32 generation record.connectionGeneration ∧
        SameU32 record.authGeneration generation ∧ record.secState = .numericComparison ∧
        (accept = true → now < record.ncDeadline) then
      some (conn, { record with
        authConn := none
        buttonsArmed := false
        ncAccepted := accept
        secState := if accept then record.secState else .failed })
    else none

/-- `clear_pending_locked` -/
def clearPending (record : Record) (conn : Conn) : Record :=
  if record.authConn = some conn then { record with authConn := none, buttonsArmed := false }
  else record

/-- A section that fails the ceremony of a connection. -/
def fail (record : Record) (conn : Conn) : Record :=
  if record.trackedConn = some conn then { record with secState := .failed } else record

/-- `pq_v1_security_conn_is_l4`; `live` is what `live_link_is_l4` returns. -/
def connIsL4 (record : Record) (conn : Option Conn) (live : Bool) : Bool :=
  conn.isSome && conn = record.trackedConn && record.secState = .l4Secured &&
    SameU32 record.securedGeneration record.connectionGeneration && live

/-- The section of `pq_v1_security_on_connected`; a second connection is refused. -/
def onConnected (record : Record) (conn : Conn) : Option Record :=
  if record.trackedConn.isSome then none
  else some { record with
    trackedConn := some conn
    connectionGeneration := record.connectionGeneration + 1
    securedGeneration := 0
    pairingAttempted := false
    ncAccepted := false
    buttonsArmed := false
    secState := .connectedUnsecured }

/-- The last section of `pq_v1_security_on_connected`, after `bt_conn_set_security` returned. -/
def securityRequested (record : Record) (conn : Conn) (err : Bool) : Record :=
  if err then record.fail conn
  else if record.trackedConn = some conn ∧ record.secState = .connectedUnsecured then
    { record with secState := .smpPairing }
  else record

/-- `pq_v1_security_on_disconnected` -/
def onDisconnected (record : Record) (conn : Conn) : Record :=
  let record := record.clearPending conn
  if record.trackedConn = some conn then
    { record with
      trackedConn := none
      connectionGeneration := record.connectionGeneration + 1
      securedGeneration := 0
      buttonsArmed := false
      ncAccepted := false
      secState := .disconnected }
  else record

/-- `pairing_accept`: the success of the callback and the record. -/
def pairingAccept (record : Record) (conn : Conn) : Bool × Record :=
  if record.trackedConn = some conn ∧ record.pairingAttempted = false ∧
      (record.secState = .connectedUnsecured ∨ record.secState = .smpPairing) then
    (true, { record with pairingAttempted := true, secState := .smpPairing })
  else (false, record)

/-- `auth_passkey_confirm`; `none` cancels a stale or duplicate comparison. -/
def passkeyConfirm (record : Record) (conn : Conn) (deadline : ℤ) : Option Record :=
  if record.trackedConn ≠ some conn ∨ record.secState = .failed ∨ record.secState = .l4Secured ∨
      record.authConn.isSome ∨ record.ncAccepted then none
  else some { record with
    authConn := some conn
    authGeneration := record.connectionGeneration
    ncDeadline := deadline
    buttonsArmed := false
    secState := .numericComparison }

/-- `auth_cancel` -/
def authCancel (record : Record) (conn : Conn) : Record :=
  let record := record.clearPending conn
  if record.secState ≠ .l4Secured then record.fail conn else record

/-- `pairing_failed`, and `security_changed` with an error. -/
def pairingFailed (record : Record) (conn : Conn) : Record :=
  (record.clearPending conn).fail conn

/-- The section of `security_changed`: the level must be 4 on a live L4 link, with the comparison of a
pairing accepted.  The second component is a pending comparison that it cancels. -/
def securityChanged (record : Record) (conn : Conn) (level4 live : Bool) : Option Conn × Record :=
  if record.trackedConn = some conn ∧ record.secState ≠ .failed then
    if live ∧ level4 ∧ (record.pairingAttempted = false ∨ record.ncAccepted) then
      (none, { record with
        securedGeneration := record.connectionGeneration
        secState := .l4Secured })
    else
      (if record.authConn = some conn then some conn else none,
        { record.clearPending conn with secState := .failed })
  else (none, record)

end Record

/-! ## Bookkeeping -/

/-- A Numeric Comparison that the stack asked for. -/
structure Comparison where
  conn : Conn
  generation : ℕ
  deadline : ℤ
deriving DecidableEq

/-- Where a reply comes from: a button edge that was armed for a comparison, the timeout, a lost
security level, or the refusal of a duplicate. -/
inductive Source
  | edge (armedFor : ℕ)
  | timer
  | downgrade
  | duplicate
deriving DecidableEq

/-- A reply to a comparison. -/
structure Reply where
  comparison : ℕ
  accept : Bool
  source : Source
  time : ℤ
deriving DecidableEq

/-! ## Threads -/

/-- The Bluetooth host thread: between callbacks, or between two sections of one. -/
inductive HostThread
  | idle
  | connecting (conn : Conn)
  | changed (conn : Conn) (level4 live : Bool)
deriving DecidableEq

/-- The button scan: `armedFor` is the comparison that was pending when the edge was read. -/
inductive ButtonThread
  | idle
  | replying (accept : Bool) (generation : ℕ) (armedFor : ℕ)
  | answered (accept : Bool) (generation : ℕ) (conn : Conn)
  | failing (generation : ℕ) (conn : Conn)
deriving DecidableEq

/-- The timeout work. -/
inductive TimerThread
  | idle
  | timedOut (conn : Conn)
deriving DecidableEq

/-- The connection that a thread holds a reference to. -/
def ButtonThread.conn : ButtonThread → Option Conn
  | .answered _ _ conn | .failing _ conn => some conn
  | _ => none

/-- The connection that a thread holds a reference to. -/
def TimerThread.conn : TimerThread → Option Conn
  | .timedOut conn => some conn
  | .idle => none

/-- The record and the threads.  The comparisons (oldest first, a comparison is named by its position),
the pending one, the replies (newest first), the generation of the last accepted pairing and the one in
which live L4 was last observed are bookkeeping. -/
structure State where
  record : Record
  host : HostThread
  button : ButtonThread
  timer : TimerThread
  comparisons : List Comparison
  pending : ℕ
  replies : List Reply
  pairedIn : Option ℕ
  observedIn : Option ℕ
deriving DecidableEq

/-- The ceremony at boot. -/
def State.boot : State where
  record := .boot
  host := .idle
  button := .idle
  timer := .idle
  comparisons := []
  pending := 0
  replies := []
  pairedIn := none
  observedIn := none

/-- The accept and the reject button in a mask. -/
structure Buttons where
  accept : Bool
  reject : Bool
deriving DecidableEq

/-- A callback, a button edge, the arming work, the timeout, or the next section of a thread. -/
inductive Action
  | connected (conn : Conn) (bonded : Bool)
  | securityRequested (err : Bool)
  | disconnected (conn : Conn)
  | pairingAccept (conn : Conn)
  | passkeyDisplay (conn : Conn)
  | passkeyConfirm (conn : Conn) (now : ℤ)
  | authCancel (conn : Conn)
  | pairingComplete (conn : Conn)
  | pairingFailed (conn : Conn)
  | securityError (conn : Conn)
  | securityChanged (conn : Conn) (level4 live : Bool)
  | securityApplied (now : ℤ)
  | buttonChanged (down changed : Buttons)
  | buttonReply (now : ℤ)
  | buttonAnswered (err : Bool)
  | buttonFailing
  | arm (down : Buttons)
  | timeout (now : ℤ)
  | timeoutFailing
deriving DecidableEq

namespace State

/-- A connection object that the application holds a reference to. -/
def Referenced (state : State) (conn : Conn) : Prop :=
  state.record.trackedConn = some conn ∨ state.record.authConn = some conn ∨
    state.button.conn = some conn ∨ state.timer.conn = some conn

instance (state : State) (conn : Conn) : Decidable (state.Referenced conn) :=
  inferInstanceAs (Decidable (_ ∨ _))

/-- Record a reply to the pending comparison. -/
def reply (state : State) (accept : Bool) (source : Source) (time : ℤ) : List Reply :=
  ⟨state.pending, accept, source, time⟩ :: state.replies

/-- `pq_v1_security_on_connected` up to the security request of a bonded link. -/
def onConnected (state : State) (conn : Conn) (bonded : Bool) : State :=
  match state.record.onConnected conn with
  | none => state
  | some record => { state with record, host := if bonded then .connecting conn else .idle }

/-- `auth_passkey_confirm` -/
def onPasskeyConfirm (timeoutMs : ℤ) (state : State) (conn : Conn) (now : ℤ) : State :=
  let deadline := now + timeoutMs
  let comparisons :=
    state.comparisons ++ [⟨conn, state.record.connectionGeneration, deadline⟩]
  match state.record.passkeyConfirm conn deadline with
  | some record => { state with record, comparisons, pending := state.comparisons.length }
  | none => { state with
      comparisons
      replies := ⟨state.comparisons.length, false, .duplicate, now⟩ :: state.replies }

/-- The first section of `button_changed`. -/
def onButtonChanged (state : State) (down changed : Buttons) : State :=
  let record := state.record
  let button : ButtonThread :=
    if record.buttonsArmed ∧ down.reject ∧ changed.reject then
      .replying false record.authGeneration state.pending
    else if record.buttonsArmed ∧ down.accept ∧ changed.accept then
      .replying true record.authGeneration state.pending
    else .idle
  let released := down.accept = false ∧ down.reject = false
  { state with
    record := { record with
      buttonsArmed := record.buttonsArmed || (decide released && record.authConn.isSome) }
    button }

/-- `numeric_comparison_reply` up to its answer to the stack. -/
def onButtonReply (state : State) (accept : Bool) (generation armedFor : ℕ) (now : ℤ) : State :=
  match state.record.takeAuthConn generation accept now with
  | none => { state with button := .idle }
  | some (conn, record) => { state with
      record
      button := .answered accept generation conn
      replies := state.reply accept (.edge armedFor) now }

/-- The first section of `nc_timeout_handler`. -/
def onTimeout (state : State) (now : ℤ) : State :=
  if state.record.authConn = none ∨ now < state.record.ncDeadline then state
  else match state.record.takeAuthConn state.record.authGeneration false now with
  | none => state
  | some (conn, record) => { state with
      record, timer := .timedOut conn, replies := state.reply false .timer now }

/-- One step; `none` when it is not enabled.  The environment assumption is in three guards: host
callbacks run one at a time, a referenced connection object is not reused for a new connection, and a
comparison is asked for only after `pairing_accept` returned success on the same connection. -/
def step (timeoutMs : ℤ) (state : State) : Action → Option State
  | .connected conn bonded => do
    guard (state.host = .idle ∧ ¬state.Referenced conn)
    return state.onConnected conn bonded
  | .securityRequested err =>
    match state.host with
    | .connecting conn =>
      some { state with record := state.record.securityRequested conn err, host := .idle }
    | _ => none
  | .disconnected conn => do
    guard (state.host = .idle)
    return { state with record := state.record.onDisconnected conn }
  | .pairingAccept conn => do
    guard (state.host = .idle)
    let (accepted, record) := state.record.pairingAccept conn
    return { state with
      record
      pairedIn := if accepted then some record.connectionGeneration else state.pairedIn }
  | .passkeyDisplay conn => do
    guard (state.host = .idle)
    return { state with record := state.record.fail conn }
  | .passkeyConfirm conn now => do
    guard (state.host = .idle ∧ state.record.trackedConn = some conn ∧
      state.pairedIn = some state.record.connectionGeneration)
    return state.onPasskeyConfirm timeoutMs conn now
  | .authCancel conn => do
    guard (state.host = .idle)
    return { state with record := state.record.authCancel conn }
  | .pairingComplete conn => do
    guard (state.host = .idle)
    return { state with record := state.record.clearPending conn }
  | .pairingFailed conn => do
    guard (state.host = .idle)
    return { state with record := state.record.pairingFailed conn }
  | .securityError conn => do
    guard (state.host = .idle)
    return { state with record := state.record.pairingFailed conn }
  | .securityChanged conn level4 live => do
    guard (state.host = .idle)
    return { state with
      host := .changed conn level4 live
      observedIn := if live ∧ state.record.trackedConn = some conn then
          some state.record.connectionGeneration
        else state.observedIn }
  | .securityApplied now =>
    match state.host with
    | .changed conn level4 live =>
      let (cancelled, record) := state.record.securityChanged conn level4 live
      some { state with
        record
        host := .idle
        replies := if cancelled.isSome then state.reply false .downgrade now else state.replies }
    | _ => none
  | .buttonChanged down changed => do
    guard (state.button = .idle)
    return state.onButtonChanged down changed
  | .buttonReply now =>
    match state.button with
    | .replying accept generation armedFor =>
      some (state.onButtonReply accept generation armedFor now)
    | _ => none
  | .buttonAnswered err =>
    match state.button with
    | .answered accept generation conn =>
      some { state with
        record := if accept then state.record else state.record.fail conn
        button := if err then .failing generation conn else .idle }
    | _ => none
  | .buttonFailing =>
    match state.button with
    | .failing generation conn =>
      some { state with
        record := if SameU32 generation state.record.connectionGeneration then
            state.record.fail conn
          else state.record
        button := .idle }
    | _ => none
  | .arm down =>
    let released := down.accept = false ∧ down.reject = false
    some { state with record := { state.record with
      buttonsArmed := if state.record.authConn.isSome then decide released
        else state.record.buttonsArmed } }
  | .timeout now => do
    guard (state.timer = .idle)
    return state.onTimeout now
  | .timeoutFailing =>
    match state.timer with
    | .timedOut conn =>
      some { state with record := state.record.fail conn, timer := .idle }
    | .idle => none

end State

end PqBleHandshake.Security
