import PqBleHandshake.Foundation.RefCount
import PqBleHandshake.Foundation.Transition
import PqBleHandshake.Link

/-!
# The connection references of the firmware

What `main.c`, `pq_v1_security.c` and `pq_resume_service.c` do with `bt_conn` pointers, in every profile.  A section
under a lock is one step; a callback that goes on after it is a frame with its program point and the references it
holds, and any number of callbacks may be in progress.  The tests of a section that look at no stored pointer are
inputs, and so is whether `bt_conn_ref` finds the object alive.

The argument of a callback of the stack is kept alive by the stack, so that calls with it are left out.
-/

namespace PqBleHandshake.References

open Foundation

/-- The protocol profile. -/
inductive Profile
  | v07
  | v08
  | v10
  | v11
deriving DecidableEq

/-- The profiles with `pq_v1_security.c` and the v1 handlers. -/
def Profile.smp : Profile → Bool
  | .v07 | .v08 => false
  | .v10 | .v11 => true

/-- `CONFIG_PQ_RESUMPTION` -/
def Profile.resumption : Profile → Bool
  | .v07 | .v10 => false
  | .v08 | .v11 => true

/-- The stored connection pointers: `current_conn`, `crypto_job_conn` and `v1_cp3_conn` of `main.c`, `tracked_conn` and
`auth_conn` of `pq_v1_security.c`, and `owner` of `pq_resume_service.c`. -/
inductive Slot
  | currentConn
  | cryptoJobConn
  | v1Cp3Conn
  | trackedConn
  | authConn
  | owner
deriving DecidableEq

instance : Fintype Slot where
  elems := {.currentConn, .cryptoJobConn, .v1Cp3Conn, .trackedConn, .authConn, .owner}
  complete slot := by cases slot <;> decide

/-- The pointers with their references, and whether `v1_cp3_state` is `V1_CP3_IDLE`. -/
structure Memory where
  refs : Counted Slot Conn
  v1Cp3Idle : Bool

namespace Memory

def boot : Memory where
  refs := .init
  v1Cp3Idle := true

/-- A stored pointer. -/
def stored (m : Memory) (slot : Slot) : Option Conn := m.refs.stored slot

/-- `bt_conn_ref`, which returns `NULL` for an object that is not alive. -/
def ref (m : Memory) (conn : Conn) (live : Bool) : Option Conn × Memory :=
  if live then (some conn, { m with refs := m.refs.acquire conn }) else (none, m)

/-- `bt_conn_unref` -/
def unref (m : Memory) (conn : Conn) : Memory := { m with refs := m.refs.release conn }

/-- Any other function of the stack. -/
def call (m : Memory) (conn : Conn) : Memory := { m with refs := m.refs.touch conn }

/-- Write a stored pointer. -/
def store (m : Memory) (slot : Slot) (conn : Option Conn) : Memory := { m with refs := m.refs.put slot conn }

/-- `slot = bt_conn_ref(conn)` -/
def storeRef (m : Memory) (slot : Slot) (conn : Conn) (live : Bool) : Memory :=
  let (reference, m) := m.ref conn live
  m.store slot reference

/-- `if (slot == conn) { reference = slot; slot = NULL; }` -/
def take (m : Memory) (slot : Slot) (conn : Conn) : Option Conn × Memory :=
  if m.stored slot = some conn then (some conn, m.store slot none) else (none, m)

/-! ### main.c -/

/-- `invalidate_v1_cp3_locked` -/
def invalidateV1Cp3Locked (m : Memory) : Memory :=
  match m.stored .v1Cp3Conn with
  | some conn => (m.unref conn).store .v1Cp3Conn none
  | none => m

/-- `invalidate_v1_cp3_locked(); v1_cp3_state = V1_CP3_IDLE;` -/
def retireV1Cp3 (m : Memory) : Memory := { m.invalidateV1Cp3Locked with v1Cp3Idle := true }

/-- `pq_resume_service_connected` -/
def resumeServiceConnected (m : Memory) (conn : Conn) (live : Bool) : Memory :=
  let m := match m.stored .owner with
    | some owner => m.unref owner
    | none => m
  m.storeRef .owner conn live

/-- `pq_resume_service_disconnected` -/
def resumeServiceDisconnected (m : Memory) (conn : Conn) : Memory :=
  if m.stored .owner = some conn then (m.unref conn).store .owner none else m

/-- The section of `connected`, with `new_current` and the outcome of the service's `bt_conn_ref`. -/
def connectedLocked (profile : Profile) (m : Memory) (conn newCurrent : Conn) (live : Bool) : Memory :=
  let m := m.store .currentConn (some newCurrent)
  let m := if profile.resumption then m.resumeServiceConnected conn live else m
  if profile.smp then m.retireV1Cp3 else m

/-- What `disconnected` does for the current connection, up to the pointer. -/
def currentGone (profile : Profile) (m : Memory) (conn : Conn) : Memory :=
  let m := if profile.resumption then m.resumeServiceDisconnected conn else m
  if profile.smp then m.retireV1Cp3 else m

/-- The section of `disconnected`, with `job_ref` and `current_ref`. -/
def disconnectedLocked (profile : Profile) (m : Memory) (conn : Conn) : List Conn × Memory :=
  let m := if m.stored .currentConn = some conn then m.currentGone profile conn else m
  let (currentRef, m) := m.take .currentConn conn
  let (jobRef, m) := m.take .cryptoJobConn conn
  (jobRef.toList ++ currentRef.toList, m)

/-! ### pq_v1_security.c -/

/-- `pq_v1_security_on_connected` -/
def securityOnConnected (m : Memory) (conn : Conn) (live : Bool) : Memory :=
  if m.stored .trackedConn = none then m.storeRef .trackedConn conn live else m

/-- The section of `pq_v1_security_on_disconnected`, with `pending` and `tracked`. -/
def securityOnDisconnected (m : Memory) (conn : Conn) : List Conn × Memory :=
  let (pending, m) := m.take .authConn conn
  let (tracked, m) := m.take .trackedConn conn
  (pending.toList ++ tracked.toList, m)

/-- `take_auth_conn`; `due` is every test but those of the pointers. -/
def takeAuthConn (m : Memory) (due : Bool) : Option Conn × Memory :=
  match m.stored .authConn with
  | some conn => if due ∧ m.stored .trackedConn = some conn then (some conn, m.store .authConn none) else (none, m)
  | none => (none, m)

end Memory

/-- A callback between two of its sections, with the local references it holds.

`connected`, `replaced` and `tracking` are the points of `connected` before its section, after it and before
`pq_v1_security_on_connected`; `untracked` and `disconnected` are those of `disconnected` after
`pq_v1_security_on_disconnected` and before its section.  `v1Result` is a delivery of CP3 or CP4 between its first and
last sections, `inUse` a reference whose holder calls the stack, and `releasing` what is left to give back. -/
inductive Frame
  | connected (conn newCurrent : Conn)
  | replaced (conn : Conn) (owned : List Conn)
  | tracking (conn : Conn)
  | untracked (conn : Conn) (owned : List Conn)
  | disconnected (conn : Conn)
  | v1Result (conn : Option Conn)
  | inUse (conn : Conn)
  | releasing (owned : List Conn)
deriving DecidableEq

namespace Frame

/-- The local references of a callback. -/
def locals : Frame → Multiset Conn
  | .connected _ newCurrent => {newCurrent}
  | .replaced _ owned | .untracked _ owned | .releasing owned => ↑owned
  | .tracking _ | .disconnected _ => 0
  | .v1Result conn => optionRefs conn
  | .inUse conn => {conn}

/-- A callback calls the stack with its reference, or goes on to its next section: `flag` is the outcome of a
`bt_conn_ref` there, or says that a delivery failed. -/
inductive Move
  | call
  | next (flag : Bool)

/-- The end of a callback, or its next point. -/
def step (profile : Profile) (m : Memory) : Frame → Move → Option (Memory × Option Frame)
  | .inUse conn, .call => some (m.call conn, some (.inUse conn))
  | .v1Result (some conn), .call => some (m.call conn, some (.v1Result (some conn)))
  | _, .call => none
  | .connected conn newCurrent, .next live =>
    some (m.connectedLocked profile conn newCurrent live,
      some (.replaced conn (m.stored .currentConn).toList))
  | .replaced conn (old :: owned), .next _ => some (m.unref old, some (.replaced conn owned))
  | .replaced conn [], .next _ => some (m, if profile.smp then some (.tracking conn) else none)
  | .tracking conn, .next live => some (m.securityOnConnected conn live, none)
  | .untracked conn (old :: owned), .next _ => some (m.unref old, some (.untracked conn owned))
  | .untracked conn [], .next _ => some (m, some (.disconnected conn))
  | .disconnected conn, .next _ =>
    let (owned, m) := m.disconnectedLocked profile conn
    some (m, some (.releasing owned))
  | .v1Result conn, .next failed =>
    some (if failed then m.invalidateV1Cp3Locked else m, some (.releasing conn.toList))
  | .inUse conn, .next _ => some (m, some (.releasing [conn]))
  | .releasing (old :: owned), .next _ => some (m.unref old, some (.releasing owned))
  | .releasing [], .next _ => some (m, none)

end Frame

/-- The handlers and callbacks that take, store or drop a pointer; an input stands for the tests that look at no
pointer.

* `submit`: the Phase 2 to 7 submits (`handle_start`, `handle_phase5_worker_command`, `handle_phase7_finished_c` and the
  secure data write) and, `v1Cp2`, `handle_v1_cp2_start`;
* `jobResult`: `mlkem_result_ready` and `v1_cp2_result_ready`;
* `takeAuth`: `nc_timeout_handler` and `numeric_comparison_reply`;
* `pairingEnds`: `auth_cancel`, `pairing_complete` and `pairing_failed`;
* `storedCall`: a section that passes a stored pointer to the stack. -/
inductive Action
  | connected (conn : Conn) (failed live : Bool)
  | disconnected (conn : Conn)
  | submit (conn : Conn) (v1Cp2 refused live accepted : Bool)
  | jobResult
  | v1Cp3Start (conn : Conn) (refused live accepted : Bool)
  | v1Cp3FinishedC (conn : Conn) (waits live accepted : Bool)
  | v1Cp4 (accepted : Bool)
  | v1Cp4JobLive (live : Bool)
  | v1Cp3Timeout (expired : Bool)
  | v1SecurityChanged (conn : Conn) (below : Bool)
  | v1Cp3Result (deliver live : Bool)
  | v1Cp4Result (deliver live : Bool)
  | passkeyConfirm (conn : Conn) (refused live : Bool)
  | takeAuth (due : Bool)
  | pairingEnds (conn : Conn)
  | securityChanged (conn : Conn) (failed downgraded : Bool)
  | storedCall (slot : Slot)
  | resume (i : ℕ) (move : Frame.Move)

namespace Memory

/-- A submit: the job takes a reference of its own, and a refused job gives it back. -/
def submit (m : Memory) (conn : Conn) (v1Cp2 refused live accepted : Bool) : Memory × Option Frame :=
  if m.stored .currentConn ≠ some conn ∨ m.stored .cryptoJobConn ≠ none ∨ refused then (m, none)
  else
    match m.ref conn live with
    | (none, m) => (m, none)
    | (some jobRef, m) =>
      let m := m.store .cryptoJobConn (some jobRef)
      if accepted then (m, none)
      else if v1Cp2 then ((m.store .cryptoJobConn none).unref jobRef, none)
      else (m.store .cryptoJobConn none, some (.releasing [jobRef]))

/-- The first section of `mlkem_result_ready` and of `v1_cp2_result_ready`. -/
def jobResult (m : Memory) : Memory × Option Frame :=
  (m.store .cryptoJobConn none, (m.stored .cryptoJobConn).map .inUse)

/-- `handle_v1_cp3_start` -/
def v1Cp3Start (m : Memory) (conn : Conn) (refused live accepted : Bool) : Memory :=
  if m.stored .currentConn ≠ some conn ∨ m.v1Cp3Idle = false ∨ m.stored .cryptoJobConn ≠ none ∨ refused then m
  else
    let m := m.storeRef .v1Cp3Conn conn live
    match m.stored .v1Cp3Conn with
    | none => m
    | some started =>
      if accepted then { m with v1Cp3Idle := false } else (m.unref started).store .v1Cp3Conn none

/-- `handle_v1_cp3_finished_c` -/
def v1Cp3FinishedC (m : Memory) (conn : Conn) (waits live accepted : Bool) : Memory :=
  if waits = false then m
  else if live = false then if m.stored .v1Cp3Conn = some conn then m.invalidateV1Cp3Locked else m
  else if accepted then m
  else m.invalidateV1Cp3Locked

/-- `v1_cp2_security_changed` -/
def v1SecurityChanged (m : Memory) (conn : Conn) (below : Bool) : Memory :=
  if below ∧ m.stored .currentConn = some conn then m.invalidateV1Cp3Locked else m

/-- `conn = bt_conn_ref(v1_cp3_conn)` when the result is delivered. -/
def refV1Cp3Conn (m : Memory) (deliver live : Bool) : Option Conn × Memory :=
  match m.stored .v1Cp3Conn with
  | some conn => if deliver then m.ref conn live else (none, m)
  | none => (none, m)

/-- The first section of `v1_cp3_result_ready`. -/
def v1Cp3Result (m : Memory) (deliver live : Bool) : Memory × Option Frame :=
  let (conn, m) := m.refV1Cp3Conn deliver live
  (m, some (.v1Result conn))

/-- The first section of `v1_cp4_result_ready`. -/
def v1Cp4Result (m : Memory) (deliver live : Bool) : Memory × Option Frame :=
  if deliver ∧ m.stored .v1Cp3Conn ≠ none then m.v1Cp3Result true live
  else (m.invalidateV1Cp3Locked, some (.v1Result none))

/-- `auth_passkey_confirm` -/
def passkeyConfirm (m : Memory) (conn : Conn) (refused live : Bool) : Memory :=
  if m.stored .trackedConn ≠ some conn ∨ m.stored .authConn ≠ none ∨ refused then m
  else m.storeRef .authConn conn live

/-- `nc_timeout_handler` and `numeric_comparison_reply` -/
def takeAuth (m : Memory) (due : Bool) : Memory × Option Frame :=
  let (conn, m) := m.takeAuthConn due
  (m, conn.map .inUse)

/-- The callbacks around `clear_pending_locked`. -/
def pairingEnds (m : Memory) (conn : Conn) : Memory × Option Frame :=
  let (pending, m) := m.take .authConn conn
  (m, some (.releasing pending.toList))

/-- `security_changed`: a failed change drops the pending comparison, a downgrade cancels it as well. -/
def securityChanged (m : Memory) (conn : Conn) (failed downgraded : Bool) : Memory × Option Frame :=
  if failed then m.pairingEnds conn
  else if m.stored .trackedConn = some conn ∧ downgraded then
    let (pending, m) := m.take .authConn conn
    (m, pending.map .inUse)
  else (m, none)

/-- A locked section passes a stored pointer to the stack. -/
def storedCall (m : Memory) (slot : Slot) : Memory :=
  match m.stored slot with
  | some conn => m.call conn
  | none => m

end Memory

/-- The firmware with its callbacks in progress. -/
structure Firmware where
  memory : Memory
  frames : List Frame

namespace Firmware

def boot : Firmware where
  memory := .boot
  frames := []

/-- The first section of a handler or callback; the v1 ones are not part of v0.7 and v0.8. -/
def enter (profile : Profile) (m : Memory) : Action → Option (Memory × Option Frame)
  | .connected conn failed live =>
    if failed then some (m, none)
    else
      let (newCurrent, m) := m.ref conn live
      some (m, newCurrent.map (.connected conn))
  | .disconnected conn =>
    if profile.smp then
      let (owned, m) := m.securityOnDisconnected conn
      some (m, some (.untracked conn owned))
    else some (m, some (.disconnected conn))
  | .submit conn v1Cp2 refused live accepted => do
    guard (v1Cp2 = true → profile.smp = true)
    return m.submit conn v1Cp2 refused live accepted
  | .jobResult => some m.jobResult
  | .storedCall slot => some (m.storedCall slot, none)
  | .resume _ _ => none
  | action => do
    guard (profile.smp = true)
    match action with
    | .v1Cp3Start conn refused live accepted => return (m.v1Cp3Start conn refused live accepted, none)
    | .v1Cp3FinishedC conn waits live accepted => return (m.v1Cp3FinishedC conn waits live accepted, none)
    | .v1Cp4 true | .v1Cp4JobLive true | .v1Cp3Timeout false => return (m, none)
    | .v1Cp4 false | .v1Cp4JobLive false | .v1Cp3Timeout true => return (m.invalidateV1Cp3Locked, none)
    | .v1SecurityChanged conn below => return (m.v1SecurityChanged conn below, none)
    | .v1Cp3Result deliver live => return m.v1Cp3Result deliver live
    | .v1Cp4Result deliver live => return m.v1Cp4Result deliver live
    | .passkeyConfirm conn refused live => return (m.passkeyConfirm conn refused live, none)
    | .takeAuth due => return m.takeAuth due
    | .pairingEnds conn => return m.pairingEnds conn
    | .securityChanged conn failed downgraded => return m.securityChanged conn failed downgraded
    | _ => none

/-- One step. -/
def step (profile : Profile) (firmware : Firmware) : Action → Option Firmware
  | .resume i move => do
    let frame ← firmware.frames[i]?
    let (memory, next) ← frame.step profile firmware.memory move
    return ⟨memory, next.toList ++ firmware.frames.eraseIdx i⟩
  | action => do
    let (memory, next) ← enter profile firmware.memory action
    return ⟨memory, next.toList ++ firmware.frames⟩

/-- The local references of the callbacks in progress. -/
def locals (firmware : Firmware) : Multiset Conn := (firmware.frames.map Frame.locals).sum

end Firmware

/-! ## One operation -/

namespace Memory

/-- The references are balanced, and CP3 holds none while it is idle. -/
structure Sound (m : Memory) (held : Multiset Conn) : Prop where
  balanced : m.refs.Balanced held
  idle : m.v1Cp3Idle = true → m.stored .v1Cp3Conn = none

variable {m : Memory} {held : Multiset Conn}

theorem sound_boot : boot.Sound 0 where
  balanced := Counted.balanced_init
  idle _ := rfl

@[simp]
theorem stored_store_self (m : Memory) (slot : Slot) (conn : Option Conn) : (m.store slot conn).stored slot = conn :=
  Counted.put_stored_self _ _ _

theorem stored_store_of_ne (m : Memory) {slot other : Slot} (conn : Option Conn) (h : other ≠ slot) :
    (m.store slot conn).stored other = m.stored other := Counted.put_stored_of_ne _ _ h

@[simp]
theorem stored_unref (m : Memory) (conn : Conn) (slot : Slot) : (m.unref conn).stored slot = m.stored slot := rfl

theorem Sound.ref (h : m.Sound held) (conn : Conn) (live : Bool) :
    (m.ref conn live).2.Sound (optionRefs (m.ref conn live).1 + held) := by
  cases live with
  | false => exact ⟨by simpa [Memory.ref] using h.balanced, h.idle⟩
  | true => exact ⟨by simpa [Memory.ref] using h.balanced.acquire conn, h.idle⟩

theorem stored_ref (m : Memory) (conn : Conn) (live : Bool) (slot : Slot) :
    (m.ref conn live).2.stored slot = m.stored slot := by
  cases live <;> rfl

theorem Sound.unref {conn : Conn} (h : m.Sound (conn ::ₘ held)) : (m.unref conn).Sound held :=
  ⟨h.balanced.release, h.idle⟩

theorem Sound.call {conn : Conn} (h : m.Sound held) (hmem : conn ∈ held) : (m.call conn).Sound held :=
  ⟨h.balanced.touch (h.balanced.mem_outstanding hmem), h.idle⟩

/-- CP3 stays without a reference while it is idle, whatever else is written. -/
theorem stored_store_v1Cp3Conn {slot : Slot} {conn : Option Conn} (h : m.stored .v1Cp3Conn = none)
    (hslot : slot = .v1Cp3Conn → conn = none) : (m.store slot conn).stored .v1Cp3Conn = none := by
  by_cases hv1 : slot = .v1Cp3Conn
  · rw [hslot hv1, hv1]
    exact stored_store_self _ _ _
  · rwa [stored_store_of_ne _ _ (Ne.symm hv1)]

/-- A local reference goes into a pointer, and what was there becomes local. -/
theorem Sound.fill {conn : Conn} (h : m.Sound (conn ::ₘ held)) {slot : Slot} (hslot : slot ≠ .v1Cp3Conn) :
    (m.store slot (some conn)).Sound (optionRefs (m.stored slot) + held) where
  balanced := Counted.Balanced.put (by simpa using h.balanced) slot
  idle hnow := stored_store_v1Cp3Conn (h.idle hnow) fun hv1 ↦ absurd hv1 hslot

/-- A pointer is cleared, and its reference becomes local. -/
theorem Sound.clear (h : m.Sound held) (slot : Slot) :
    (m.store slot none).Sound (optionRefs (m.stored slot) + held) where
  balanced := Counted.Balanced.put (by simpa using h.balanced) slot
  idle hnow := stored_store_v1Cp3Conn (h.idle hnow) fun _ ↦ rfl

/-- A pointer is cleared after its reference was given back. -/
theorem Sound.drop {slot : Slot} {conn : Conn} (h : m.Sound held) (hstored : m.stored slot = some conn) :
    ((m.unref conn).store slot none).Sound held where
  balanced := h.balanced.drop hstored
  idle hnow := stored_store_v1Cp3Conn (h.idle hnow) fun _ ↦ rfl

/-- A pointer that was `NULL` takes a reference of its own. -/
theorem balanced_storeRef {slot : Slot} (h : m.refs.Balanced held) (hnone : m.stored slot = none) (conn : Conn)
    (live : Bool) : (m.storeRef slot conn live).refs.Balanced held := by
  have hput {r : Counted Slot Conn} {reference : Option Conn} (hslot : r.stored slot = none)
      (hr : r.Balanced (optionRefs reference + held)) : (r.put slot reference).Balanced held := by
    have hexchanged := hr.put slot
    rwa [hslot, optionRefs_none, zero_add] at hexchanged
  cases live with
  | false => exact hput hnone (by simpa using h)
  | true => exact hput hnone (by simpa using h.acquire conn)

theorem Sound.storeRef {slot : Slot} (h : m.Sound held) (hnone : m.stored slot = none)
    (hslot : slot ≠ .v1Cp3Conn) (conn : Conn) (live : Bool) : (m.storeRef slot conn live).Sound held where
  balanced := balanced_storeRef h.balanced hnone conn live
  idle hnow := by
    cases live <;> exact (stored_store_of_ne _ _ (Ne.symm hslot)).trans (h.idle hnow)

/-- A pointer is cleared and its reference handed over. -/
theorem Sound.take (h : m.Sound held) (slot : Slot) (conn : Conn) :
    (m.take slot conn).2.Sound (optionRefs (m.take slot conn).1 + held) := by
  unfold Memory.take
  split
  · next hstored =>
    rw [← hstored]
    exact h.clear slot
  · simpa using h

theorem Sound.invalidateV1Cp3Locked (h : m.Sound held) : m.invalidateV1Cp3Locked.Sound held := by
  unfold Memory.invalidateV1Cp3Locked
  split
  · next hstored => exact h.drop hstored
  · exact h

theorem stored_invalidateV1Cp3Locked (m : Memory) : m.invalidateV1Cp3Locked.stored .v1Cp3Conn = none := by
  unfold Memory.invalidateV1Cp3Locked
  split
  · exact stored_store_self _ _ _
  · assumption

theorem Sound.retireV1Cp3 (h : m.Sound held) : m.retireV1Cp3.Sound held :=
  ⟨h.invalidateV1Cp3Locked.balanced, fun _ ↦ m.stored_invalidateV1Cp3Locked⟩

theorem Sound.resumeServiceConnected (h : m.Sound held) (conn : Conn) (live : Bool) :
    (m.resumeServiceConnected conn live).Sound held := by
  unfold Memory.resumeServiceConnected
  split
  · next owner howner =>
    -- The pointer is overwritten only after its reference was given back.
    have hdropped := (h.drop howner).storeRef (stored_store_self _ _ _) (by decide) conn live
    have heq : ((m.unref owner).store .owner none).storeRef .owner conn live =
        (m.unref owner).storeRef .owner conn live := by
      cases live <;> simp [Memory.storeRef, Memory.ref, Memory.store, Counted.acquire, Counted.put]
    rwa [heq] at hdropped
  · next hnone => exact h.storeRef hnone (by decide) conn live

theorem Sound.resumeServiceDisconnected (h : m.Sound held) (conn : Conn) :
    (m.resumeServiceDisconnected conn).Sound held := by
  unfold Memory.resumeServiceDisconnected
  split
  · next hstored => exact h.drop hstored
  · exact h

/-! ## One section -/

theorem Sound.connectedLocked {newCurrent : Conn} (profile : Profile) (h : m.Sound (newCurrent ::ₘ held)) (conn : Conn)
    (live : Bool) :
    (m.connectedLocked profile conn newCurrent live).Sound (optionRefs (m.stored .currentConn) + held) := by
  have hstore := h.fill (show Slot.currentConn ≠ .v1Cp3Conn by decide)
  unfold Memory.connectedLocked
  dsimp only
  split_ifs
  · exact (hstore.resumeServiceConnected conn live).retireV1Cp3
  · exact hstore.retireV1Cp3
  · exact hstore.resumeServiceConnected conn live
  · exact hstore

theorem Sound.currentGone (profile : Profile) (h : m.Sound held) (conn : Conn) :
    (m.currentGone profile conn).Sound held := by
  unfold Memory.currentGone
  dsimp only
  split_ifs
  · exact (h.resumeServiceDisconnected conn).retireV1Cp3
  · exact h.retireV1Cp3
  · exact h.resumeServiceDisconnected conn
  · exact h

/-- Two pointers are cleared one after the other. -/
theorem Sound.take_take (h : m.Sound held) (first second : Slot) (conn : Conn) :
    ((m.take first conn).2.take second conn).2.Sound
      (↑(((m.take first conn).2.take second conn).1.toList ++ (m.take first conn).1.toList) + held) := by
  have htaken := (h.take first conn).take second conn
  rw [← add_assoc] at htaken
  rwa [← Multiset.coe_add]

theorem Sound.disconnectedLocked (profile : Profile) (h : m.Sound held) (conn : Conn) :
    (m.disconnectedLocked profile conn).2.Sound (↑(m.disconnectedLocked profile conn).1 + held) := by
  unfold Memory.disconnectedLocked
  dsimp only
  split_ifs
  · exact (h.currentGone profile conn).take_take .currentConn .cryptoJobConn conn
  · exact h.take_take .currentConn .cryptoJobConn conn

theorem Sound.securityOnConnected (h : m.Sound held) (conn : Conn) (live : Bool) :
    (m.securityOnConnected conn live).Sound held := by
  unfold Memory.securityOnConnected
  split
  · next hnone => exact h.storeRef hnone (by decide) conn live
  · exact h

theorem Sound.securityOnDisconnected (h : m.Sound held) (conn : Conn) :
    (m.securityOnDisconnected conn).2.Sound (↑(m.securityOnDisconnected conn).1 + held) := by
  have htaken := h.take_take .authConn .trackedConn conn
  rw [← Multiset.coe_add, add_comm (Multiset.ofList _) (Multiset.ofList _), Multiset.coe_add] at htaken
  exact htaken

/-- What a section leaves to the callback that goes on. -/
def nextLocals (next : Option Frame) : Multiset Conn := (next.map Frame.locals).getD 0

@[simp]
theorem nextLocals_none : nextLocals none = 0 := rfl

@[simp]
theorem nextLocals_some (frame : Frame) : nextLocals (some frame) = frame.locals := rfl

/-- A callback goes on when it has a reference. -/
@[simp]
theorem nextLocals_map_inUse (conn : Option Conn) : nextLocals (conn.map .inUse) = optionRefs conn := by
  cases conn <;> rfl

/-- The first of the references that are left is given back. -/
theorem Sound.unref_cons {conn : Conn} {owned : List Conn} (h : m.Sound (↑(conn :: owned) + held)) :
    (m.unref conn).Sound (↑owned + held) :=
  Sound.unref (by rwa [← Multiset.cons_add, Multiset.cons_coe])

theorem Sound.submit (h : m.Sound held) (conn : Conn) (v1Cp2 refused live accepted : Bool) :
    (m.submit conn v1Cp2 refused live accepted).1.Sound
      (nextLocals (m.submit conn v1Cp2 refused live accepted).2 + held) := by
  unfold Memory.submit
  split
  · simpa using h
  · next hfree =>
    push Not at hfree
    have hnone : (m.ref conn live).2.stored .cryptoJobConn = none := by
      rw [stored_ref]
      exact hfree.2.1
    have hreference := h.ref conn live
    generalize m.ref conn live = result at hreference hnone ⊢
    obtain ⟨reference, m'⟩ := result
    cases reference with
    | none => simpa using hreference
    | some jobRef =>
      have hstored := Sound.fill hreference (show Slot.cryptoJobConn ≠ .v1Cp3Conn by decide)
      rw [hnone, optionRefs_none, zero_add] at hstored
      -- The job owns the reference; a refused submit takes it out of the slot again.
      have htaken := hstored.clear .cryptoJobConn
      rw [stored_store_self, optionRefs_some, Multiset.singleton_add] at htaken
      dsimp only
      split_ifs
      · simpa using hstored
      · simpa using htaken.unref
      · simpa [Frame.locals] using htaken

theorem Sound.jobResult (h : m.Sound held) : m.jobResult.1.Sound (nextLocals m.jobResult.2 + held) := by
  rw [Memory.jobResult, nextLocals_map_inUse]
  exact h.clear .cryptoJobConn

theorem Sound.v1Cp3Start (h : m.Sound held) (conn : Conn) (refused live accepted : Bool) :
    (m.v1Cp3Start conn refused live accepted).Sound held := by
  unfold Memory.v1Cp3Start
  split
  · exact h
  · next hfree =>
    push Not at hfree
    have hnone := h.idle (Bool.eq_true_of_not_eq_false hfree.2.1)
    have hbalanced := balanced_storeRef h.balanced hnone conn live
    dsimp only
    split
    · next hnull => exact ⟨hbalanced, fun _ ↦ hnull⟩
    · next started hstarted =>
      split
      · exact ⟨hbalanced, fun hnow ↦ by cases hnow⟩
      · exact ⟨hbalanced.drop hstarted, fun _ ↦ stored_store_self _ _ _⟩

theorem Sound.v1Cp3FinishedC (h : m.Sound held) (conn : Conn) (waits live accepted : Bool) :
    (m.v1Cp3FinishedC conn waits live accepted).Sound held := by
  unfold Memory.v1Cp3FinishedC
  split_ifs
  · exact h
  · exact h.invalidateV1Cp3Locked
  · exact h
  · exact h
  · exact h.invalidateV1Cp3Locked

theorem Sound.v1SecurityChanged (h : m.Sound held) (conn : Conn) (below : Bool) :
    (m.v1SecurityChanged conn below).Sound held := by
  unfold Memory.v1SecurityChanged
  split
  · exact h.invalidateV1Cp3Locked
  · exact h

theorem Sound.refV1Cp3Conn (h : m.Sound held) (deliver live : Bool) :
    (m.refV1Cp3Conn deliver live).2.Sound (optionRefs (m.refV1Cp3Conn deliver live).1 + held) := by
  unfold Memory.refV1Cp3Conn
  split
  · next conn _ =>
    split
    · exact h.ref conn live
    · simpa using h
  · simpa using h

theorem Sound.v1Cp3Result (h : m.Sound held) (deliver live : Bool) :
    (m.v1Cp3Result deliver live).1.Sound (nextLocals (m.v1Cp3Result deliver live).2 + held) :=
  h.refV1Cp3Conn deliver live

theorem Sound.v1Cp4Result (h : m.Sound held) (deliver live : Bool) :
    (m.v1Cp4Result deliver live).1.Sound (nextLocals (m.v1Cp4Result deliver live).2 + held) := by
  unfold Memory.v1Cp4Result
  split
  · exact h.v1Cp3Result true live
  · simpa [Frame.locals] using h.invalidateV1Cp3Locked

theorem Sound.passkeyConfirm (h : m.Sound held) (conn : Conn) (refused live : Bool) :
    (m.passkeyConfirm conn refused live).Sound held := by
  unfold Memory.passkeyConfirm
  split
  · exact h
  · next hfree =>
    push Not at hfree
    exact h.storeRef hfree.2.1 (by decide) conn live

theorem Sound.takeAuthConn (h : m.Sound held) (due : Bool) :
    (m.takeAuthConn due).2.Sound (optionRefs (m.takeAuthConn due).1 + held) := by
  unfold Memory.takeAuthConn
  split
  · next conn hauth =>
    split_ifs
    · rw [← hauth]
      exact h.clear .authConn
    · simpa using h
  · simpa using h

theorem Sound.takeAuth (h : m.Sound held) (due : Bool) :
    (m.takeAuth due).1.Sound (nextLocals (m.takeAuth due).2 + held) := by
  rw [Memory.takeAuth, nextLocals_map_inUse]
  exact h.takeAuthConn due

theorem Sound.pairingEnds (h : m.Sound held) (conn : Conn) :
    (m.pairingEnds conn).1.Sound (nextLocals (m.pairingEnds conn).2 + held) := h.take .authConn conn

theorem Sound.securityChanged (h : m.Sound held) (conn : Conn) (failed downgraded : Bool) :
    (m.securityChanged conn failed downgraded).1.Sound
      (nextLocals (m.securityChanged conn failed downgraded).2 + held) := by
  unfold Memory.securityChanged
  split_ifs
  · exact h.pairingEnds conn
  · dsimp only
    rw [nextLocals_map_inUse]
    exact h.take .authConn conn
  · simpa using h

theorem Sound.storedCall (h : m.Sound held) (slot : Slot) : (m.storedCall slot).Sound held := by
  unfold Memory.storedCall
  split
  · next hstored => exact ⟨h.balanced.touch (h.balanced.mem_outstanding_of_stored hstored), h.idle⟩
  · exact h

end Memory

/-! ## Runs -/

/-- A section of a callback in progress keeps the balance. -/
theorem Frame.sound_step {profile : Profile} {m m' : Memory} {held : Multiset Conn} {frame : Frame}
    {next : Option Frame} (h : m.Sound (frame.locals + held)) (move : Frame.Move)
    (hstep : frame.step profile m move = some (m', next)) : m'.Sound (Memory.nextLocals next + held) := by
  cases move with
  | call =>
    cases frame with
    | inUse conn =>
      cases hstep
      exact h.call (Multiset.mem_add.mpr (.inl (Multiset.mem_singleton_self conn)))
    | v1Result conn =>
      cases conn with
      | none => cases hstep
      | some conn =>
        cases hstep
        exact h.call (Multiset.mem_add.mpr (.inl (Multiset.mem_singleton_self conn)))
    | connected | replaced | tracking | untracked | disconnected | releasing => cases hstep
  | next flag =>
    cases frame with
    | connected conn newCurrent =>
      cases hstep
      exact Memory.Sound.connectedLocked profile (by simpa [Frame.locals] using h) conn flag
    | replaced conn owned =>
      cases owned with
      | nil =>
        cases hstep
        split <;> simpa [Frame.locals] using h
      | cons old owned =>
        cases hstep
        exact Memory.Sound.unref_cons h
    | tracking conn =>
      cases hstep
      simpa [Frame.locals] using h.securityOnConnected conn flag
    | untracked conn owned =>
      cases owned with
      | nil =>
        cases hstep
        simpa [Frame.locals] using h
      | cons old owned =>
        cases hstep
        exact Memory.Sound.unref_cons h
    | disconnected conn =>
      cases hstep
      exact Memory.Sound.disconnectedLocked profile (by simpa [Frame.locals] using h) conn
    | v1Result conn =>
      have hnext : m'.Sound (optionRefs conn + held) ∧ next = some (.releasing conn.toList) := by
        cases conn <;> cases hstep <;> refine ⟨?_, rfl⟩ <;> split
        · exact h.invalidateV1Cp3Locked
        · exact h
        · exact h.invalidateV1Cp3Locked
        · exact h
      rw [hnext.2]
      exact hnext.1
    | inUse conn =>
      cases hstep
      exact h
    | releasing owned =>
      cases owned with
      | nil =>
        cases hstep
        simpa [Frame.locals] using h
      | cons old owned =>
        cases hstep
        exact Memory.Sound.unref_cons h

namespace Firmware

/-- The first section of a callback keeps the balance. -/
theorem sound_enter {profile : Profile} {m m' : Memory} {held : Multiset Conn} {action : Action}
    {next : Option Frame} (h : m.Sound held) (hstep : enter profile m action = some (m', next)) :
    m'.Sound (Memory.nextLocals next + held) := by
  have hquiet {m'' : Memory} (hsound : m''.Sound held) : m''.Sound (Memory.nextLocals none + held) := by
    simpa using hsound
  cases action with
  | connected conn failed live =>
    simp only [enter] at hstep
    split at hstep
    · cases hstep
      exact hquiet h
    · cases hstep
      have href := h.ref conn live
      cases live <;> exact href
  | disconnected conn =>
    simp only [enter] at hstep
    split at hstep <;> cases hstep
    · exact h.securityOnDisconnected conn
    · exact hquiet h
  | submit conn v1Cp2 refused live accepted =>
    obtain ⟨-, -, hnext⟩ := Option.bind_eq_some_iff.mp hstep
    obtain ⟨rfl, rfl⟩ := Prod.mk.inj (Option.some.inj hnext)
    exact h.submit conn v1Cp2 refused live accepted
  | jobResult =>
    cases hstep
    exact h.jobResult
  | storedCall slot =>
    cases hstep
    exact hquiet (h.storedCall slot)
  | resume i move => cases hstep
  | v1Cp3Start conn refused live accepted =>
    obtain ⟨-, -, hnext⟩ := Option.bind_eq_some_iff.mp hstep
    cases hnext
    exact hquiet (h.v1Cp3Start conn refused live accepted)
  | v1Cp3FinishedC conn waits live accepted =>
    obtain ⟨-, -, hnext⟩ := Option.bind_eq_some_iff.mp hstep
    cases hnext
    exact hquiet (h.v1Cp3FinishedC conn waits live accepted)
  | v1Cp4 flag | v1Cp4JobLive flag | v1Cp3Timeout flag =>
    obtain ⟨-, -, hnext⟩ := Option.bind_eq_some_iff.mp hstep
    cases flag <;> cases hnext
    all_goals first
      | exact hquiet h
      | exact hquiet h.invalidateV1Cp3Locked
  | v1SecurityChanged conn below =>
    obtain ⟨-, -, hnext⟩ := Option.bind_eq_some_iff.mp hstep
    cases hnext
    exact hquiet (h.v1SecurityChanged conn below)
  | v1Cp3Result deliver live =>
    obtain ⟨-, -, hnext⟩ := Option.bind_eq_some_iff.mp hstep
    cases hnext
    exact h.v1Cp3Result deliver live
  | v1Cp4Result deliver live =>
    obtain ⟨-, -, hnext⟩ := Option.bind_eq_some_iff.mp hstep
    obtain ⟨rfl, rfl⟩ := Prod.mk.inj (Option.some.inj hnext)
    exact h.v1Cp4Result deliver live
  | passkeyConfirm conn refused live =>
    obtain ⟨-, -, hnext⟩ := Option.bind_eq_some_iff.mp hstep
    cases hnext
    exact hquiet (h.passkeyConfirm conn refused live)
  | takeAuth due =>
    obtain ⟨-, -, hnext⟩ := Option.bind_eq_some_iff.mp hstep
    cases hnext
    exact h.takeAuth due
  | pairingEnds conn =>
    obtain ⟨-, -, hnext⟩ := Option.bind_eq_some_iff.mp hstep
    cases hnext
    exact h.pairingEnds conn
  | securityChanged conn failed downgraded =>
    obtain ⟨-, -, hnext⟩ := Option.bind_eq_some_iff.mp hstep
    obtain ⟨rfl, rfl⟩ := Prod.mk.inj (Option.some.inj hnext)
    exact h.securityChanged conn failed downgraded

/-- What holds in every state of the firmware. -/
def Sound (firmware : Firmware) : Prop := firmware.memory.Sound firmware.locals

/-- A callback that goes on joins the others. -/
theorem sum_locals_next (next : Option Frame) (frames : List Frame) :
    ((next.toList ++ frames).map Frame.locals).sum = Memory.nextLocals next + (frames.map Frame.locals).sum := by
  cases next <;> simp

theorem sound_boot : boot.Sound := Memory.sound_boot

theorem Sound.step {profile : Profile} {firmware after : Firmware} (h : firmware.Sound) (action : Action)
    (hstep : firmware.step profile action = some after) : after.Sound := by
  unfold Firmware.step at hstep
  split at hstep
  · next i move =>
    obtain ⟨frame, hframe, hrest⟩ := Option.bind_eq_some_iff.mp hstep
    obtain ⟨⟨memory, next⟩, hnext, hafter⟩ := Option.bind_eq_some_iff.mp hrest
    obtain rfl := Option.some.inj hafter
    have hsound : firmware.memory.Sound
        (frame.locals + ((firmware.frames.eraseIdx i).map Frame.locals).sum) := by
      rw [← sum_locals_eraseIdx Frame.locals hframe]
      exact h
    have hmoved := Frame.sound_step hsound move hnext
    rwa [← sum_locals_next] at hmoved
  · obtain ⟨⟨memory, next⟩, hnext, hafter⟩ := Option.bind_eq_some_iff.mp hstep
    obtain rfl := Option.some.inj hafter
    have hentered := sound_enter h hnext
    rw [locals, ← sum_locals_next] at hentered
    exact hentered

end Firmware

/-- **The firmware holds exactly the references of its pointers and of its callbacks in progress**, and it neither
releases nor uses one that it does not hold. -/
theorem connection_reference_balance (profile : Profile) {actions : List Action} {firmware : Firmware}
    (hrun : run (Firmware.step profile) .boot actions = some firmware) :
    firmware.memory.refs.faulty = false ∧
    firmware.memory.refs.outstanding.card =
      (Finset.univ.filter fun slot ↦ (firmware.memory.stored slot).isSome).card + firmware.locals.card ∧
    ∀ conn, firmware.memory.refs.outstanding.count conn =
      (Finset.univ.filter fun slot ↦ firmware.memory.stored slot = some conn).card + firmware.locals.count conn := by
  have h : firmware.Sound :=
    run_invariant (fun _ action _ hs hstep ↦ Firmware.Sound.step hs action hstep) Firmware.sound_boot hrun
  have houtstanding := h.balanced.outstanding
  refine ⟨h.balanced.sound, ?_, fun conn ↦ ?_⟩
  · rw [houtstanding, Multiset.card_add, Counted.card_inSlots]
    rfl
  · rw [houtstanding, Multiset.count_add, Counted.count_inSlots]
    rfl

/-- The peer disconnects while its READY_CP3 is being delivered. -/
def deliveryActions : List Action :=
  [.connected 1 false true, .resume 0 (.next true), .resume 0 (.next true), .resume 0 (.next true),
    .v1Cp3Start 1 false true true, .v1Cp3Result true true, .resume 0 .call, .disconnected 1,
    .resume 0 (.next true), .resume 0 (.next true), .resume 0 (.next true), .resume 0 (.next true),
    .resume 0 (.next true)]

/-- The delivery still holds its own reference, and nobody else holds one. -/
theorem connection_reference_balance_delivery : ∃ firmware,
    run (Firmware.step .v11) .boot deliveryActions = some firmware ∧
    firmware.memory.refs.outstanding.card = 1 ∧ firmware.locals.card = 1 := by
  refine ⟨_, rfl, ?_, rfl⟩
  have h := @connection_reference_balance .v11 deliveryActions _ rfl
  exact h.2.1.trans rfl

end PqBleHandshake.References
