import PqBleHandshake.StradaA.StoreLimits

/-!
# Resuming a legacy session

One connection between `CentralHandshake.run` and `PeripheralHandshake.run` whose stores hold sessions: the
Central offers its sessions in turn, and the Peripheral answers from its own store.  Messages arrive.  Every
reading of the time is an input, and so is the moment at which the Peripheral's `run` finds its resume event set,
which may be before the next request or after the last one.

The Peripheral counts a use when it accepts a request and another one when `run` takes the key, so that a session
that was resumed has been used twice.
-/

namespace PqBleHandshake.StradaA

open Foundation

/-! ## Messages -/

/-- `RESUME_MAGIC` -/
def resumeMagic : Bytes := [0x50, 0x51, 0x42, 0x4c]

/-- `RESUME_REQ` -/
def resumeReq : UInt8 := 1

/-- `generate_session_id` of sixteen random bytes. -/
def generateSessionId (random : Block 16) : Bytes := random.bytes

/-- `build_resume_request` -/
def buildResumeRequest (sessionId : Bytes) : Except StoreError Bytes := do
  require (sessionId.length = sessionIdSize) .valueError
  return resumeMagic ++ [resumeReq] ++ sessionId

/-- `parse_control_message` -/
inductive ControlMessage
  | sasConfirm
  | resumeRequest (sessionId : Bytes)
  | unknown (raw : Bytes)

/-- `parse_control_message` -/
def parseControlMessage (data : Bytes) : ControlMessage :=
  if data = [0x4f, 0x4b] then .sasConfirm
  else if data.length = 5 + sessionIdSize ∧ data.take 4 = resumeMagic ∧ (data.drop 4).take 1 = [resumeReq] then
    .resumeRequest (data.drop 5)
  else .unknown data

/-- `RESUME_OK_NOTIFY` and `RESUME_FAIL_NOTIFY`. -/
inductive ResumeNotify
  | ok
  | fail
deriving DecidableEq

/-! ## The Peripheral -/

/-- The Peripheral in `run`: its store, `_resume_session_id` once the event is set, whether it still waits, and the
session that the resume branch returned. -/
structure PeripheralRun where
  store : SessionStore
  resumeSessionId : Option Bytes
  waiting : Bool
  resumed : Option (Bytes × Bytes)

/-- `run` up to `_wait_for_either_or`. -/
def PeripheralRun.start (store : SessionStore) : PeripheralRun := ⟨store, none, true, none⟩

/-- The clock readings of one offered session, and whether the Peripheral's `run` wakes before the next one. -/
structure OfferInput where
  loadClock : ℚ
  hasClock : ℚ
  acceptClock₁ : ℚ
  acceptClock₂ : ℚ
  wakes : Bool
  wakeClock₁ : ℚ
  wakeClock₂ : ℚ
  markClock : ℚ

namespace PeripheralRun

/-- `_handle_resume_request`; the result of `load` is not looked at. -/
def handleResumeRequest (peripheral : PeripheralRun) (sessionId : Bytes) (input : OfferInput) :
    ResumeNotify × PeripheralRun :=
  let (found, store) := peripheral.store.has sessionId input.hasClock
  if found then
    let (_, store) := store.load sessionId true input.acceptClock₁ input.acceptClock₂
    (.ok, { peripheral with store, resumeSessionId := some sessionId })
  else (.fail, { peripheral with store })

/-- `_on_control_received`; only a resume request is answered. -/
def onControlReceived (peripheral : PeripheralRun) (data : Bytes) (input : OfferInput) :
    Option ResumeNotify × PeripheralRun :=
  match parseControlMessage data with
  | .resumeRequest sessionId =>
    let (answer, peripheral) := peripheral.handleResumeRequest sessionId input
    (some answer, peripheral)
  | .sasConfirm => (none, peripheral)
  | .unknown _ => (none, peripheral)

/-- The resume branch of `run`, once it finds the event set. -/
def wake (peripheral : PeripheralRun) (clock₁ clock₂ : ℚ) : PeripheralRun :=
  if peripheral.waiting then
    match peripheral.resumeSessionId with
    | some sessionId =>
      let (key, store) := peripheral.store.load sessionId true clock₁ clock₂
      { peripheral with store, waiting := false, resumed := key.map fun key ↦ (sessionId, key) }
    | none => peripheral
  else peripheral

end PeripheralRun

/-! ## The Central -/

/-- The session id and the key of a resumed session, or an exception. -/
abbrev CentralResult := Except StoreError (Option (Bytes × Bytes))

/-- The loop of `_attempt_resume` over the listed ids. -/
def attemptResume (inputs : Str → OfferInput) :
    List Str → SessionStore → PeripheralRun → CentralResult × SessionStore × PeripheralRun
  | [], central, peripheral => (.ok none, central, peripheral)
  | name :: rest, central, peripheral =>
    match fromHex name with
    | none => (.error .valueError, central, peripheral)
    | some sessionId =>
      let input := inputs name
      match central.load sessionId false input.loadClock input.loadClock with
      | (none, central) => attemptResume inputs rest central peripheral
      | (some sessionKey, central) =>
        match buildResumeRequest sessionId with
        | .error error => (.error error, central, peripheral)
        | .ok message =>
          let (answer, peripheral) := peripheral.onControlReceived message input
          let peripheral :=
            if input.wakes then peripheral.wake input.wakeClock₁ input.wakeClock₂ else peripheral
          match answer with
          | some .ok =>
            match central.markUsed sessionId input.markClock with
            | (true, central) => (.ok (some (sessionId, sessionKey)), central, peripheral)
            | (false, central) => attemptResume inputs rest central peripheral
          | some .fail => attemptResume inputs rest (central.delete sessionId) peripheral
          | none => attemptResume inputs rest central peripheral

/-- The inputs of one connection. -/
structure ConnectionInput where
  countClock : ℚ
  listClock : ℚ
  offers : Str → OfferInput
  lastWake₁ : ℚ
  lastWake₂ : ℚ

/-- The resume part of one connection: `store.count` and `_attempt_resume` in the Central's `run`, and the
Peripheral's `run`, which at last finds its event if it is set. -/
def connect (central peripheral : SessionStore) (input : ConnectionInput) :
    CentralResult × SessionStore × PeripheralRun :=
  let central := central.expireInvalid input.countClock
  if central.sessions.entries.length = 0 then (.ok none, central, .start peripheral)
  else
    let (listed, central) := central.listIds input.listClock
    let (result, central, peripheral) :=
      attemptResume input.offers (listed.map fun entry ↦ entry.1) central (.start peripheral)
    (result, central, peripheral.wake input.lastWake₁ input.lastWake₂)

/-- The last step of a full handshake on either side. -/
def SessionStore.persistSession (store : SessionStore) (random : Block 16) (sessionKey : Bytes) (clock : ℚ) :
    SessionStore := (store.save (generateSessionId random) sessionKey clock).2

/-! ## Counting uses -/

/-- The store that a counting `load` leaves. -/
theorem SessionStore.load_snd (store : SessionStore) (sessionId : Bytes) (clock₁ clock₂ : ℚ) :
    (store.load sessionId true clock₁ clock₂).2 =
      match (store.expireInvalid clock₁).sessions.get? (hex sessionId) with
      | none => store.expireInvalid clock₁
      | some _ => ((store.expireInvalid clock₁).markUsed sessionId clock₂).2 := by
  unfold load
  dsimp only
  cases (store.expireInvalid clock₁).sessions.get? (hex sessionId) with
  | none => rfl
  | some entry =>
    generalize (store.expireInvalid clock₁).markUsed sessionId clock₂ = marked
    rfl

/-- The entry after a number of uses. -/
def SessionEntry.counted (entry : SessionEntry) (uses : ℕ) : SessionEntry :=
  { entry with usageCount := Number.succ^[uses] entry.usageCount }

theorem SessionEntry.counted_counted (entry : SessionEntry) (first second : ℕ) :
    (entry.counted first).counted second = entry.counted (first + second) := by
  simp only [counted, ← Function.iterate_add_apply, add_comm]

theorem succ_iterate_int (uses : ℕ) (count : ℤ) : Number.succ^[uses] (.int count) = .int (count + uses) := by
  induction uses generalizing count with
  | zero => simp
  | succ uses ih =>
    rw [Function.iterate_succ_apply, Number.succ, ih]
    push_cast
    congr 1
    ring

/-- What is left of a session has been used at least so many times since. -/
def Used (sessionId : Bytes) (uses : ℕ) (store store' : SessionStore) : Prop :=
  store'.maxUses = store.maxUses ∧
    ∀ entry', store'.sessions.get? (hex sessionId) = some entry' → ∃ entry total, uses ≤ total ∧
      store.sessions.get? (hex sessionId) = some entry ∧ entry' = entry.counted total

namespace Used

variable {sessionId : Bytes} {store store' store'' : SessionStore} {first second : ℕ}

theorem refl (sessionId : Bytes) (store : SessionStore) : Used sessionId 0 store store :=
  ⟨rfl, fun entry h ↦ ⟨entry, 0, le_rfl, h, rfl⟩⟩

theorem trans (h : Used sessionId first store store') (h' : Used sessionId second store' store'') :
    Used sessionId (first + second) store store'' := by
  refine ⟨h'.1.trans h.1, fun entry'' hentry'' ↦ ?_⟩
  obtain ⟨entry', total', hle', hentry', rfl⟩ := h'.2 entry'' hentry''
  obtain ⟨entry, total, hle, hentry, rfl⟩ := h.2 entry' hentry'
  exact ⟨entry, total + total', add_le_add hle hle', hentry, entry.counted_counted total total'⟩

theorem mono (h : Used sessionId second store store') (hle : first ≤ second) : Used sessionId first store store' :=
  ⟨h.1, fun entry' hentry' ↦ by
    obtain ⟨entry, total, htotal, hrest⟩ := h.2 entry' hentry'
    exact ⟨entry, total, hle.trans htotal, hrest⟩⟩

theorem of_none (hmax : store'.maxUses = store.maxUses) (h : store'.sessions.get? (hex sessionId) = none) :
    Used sessionId first store store' :=
  ⟨hmax, fun entry' hentry' ↦ by rw [h] at hentry'; cases hentry'⟩

theorem retain (sessionId : Bytes) (store : SessionStore) (keep : SessionEntry → Bool) :
    Used sessionId 0 store (store.retain keep).2 := by
  obtain ⟨file, heq, -⟩ := SessionStore.retain_eq store keep
  rw [heq]
  refine ⟨rfl, fun entry hentry ↦ ⟨entry, 0, le_rfl, ?_, rfl⟩⟩
  change (store.sessions.filter keep).get? _ = _ at hentry
  rw [Dict.get?_filter, Option.filter_eq_some_iff] at hentry
  exact hentry.1

theorem expireInvalid (sessionId : Bytes) (store : SessionStore) (clock : ℚ) :
    Used sessionId 0 store (store.expireInvalid clock) := by
  rw [SessionStore.expireInvalid_eq_retain]
  exact (retain sessionId store _).trans (retain sessionId _ _)

/-- Counting a use of any session uses this one at least not less; its own count is a use. -/
theorem markUsed (sessionId used : Bytes) (store : SessionStore) (clock : ℚ) :
    Used sessionId (if used = sessionId then 1 else 0) store (store.markUsed used clock).2 := by
  have hexpired := expireInvalid sessionId store clock
  rcases store.markUsed_eq used clock with ⟨heq, hnone⟩ | ⟨old, sessions, hold, heq, hothers, hself⟩
  · rw [heq]
    split_ifs with hsame
    · exact of_none hexpired.1 (hsame ▸ hnone)
    · exact hexpired
  · rw [heq, ← Nat.zero_add (ite _ _ _)]
    refine hexpired.trans ⟨rfl, fun entry' hentry' ↦ ?_⟩
    change sessions.get? (hex sessionId) = some entry' at hentry'
    split_ifs with hsame
    · subst hsame
      rw [hself] at hentry'
      split_ifs at hentry'
      exact ⟨old, 1, le_rfl, hold, (Option.some.inj hentry').symm⟩
    · rw [hothers _ fun h ↦ hsame (hex_injective h).symm] at hentry'
      exact ⟨entry', 0, le_rfl, hentry', rfl⟩

theorem load (sessionId loaded : Bytes) (store : SessionStore) (clock₁ clock₂ : ℚ) :
    Used sessionId (if loaded = sessionId then 1 else 0) store (store.load loaded true clock₁ clock₂).2 := by
  have hexpired := expireInvalid sessionId store clock₁
  rw [SessionStore.load_snd]
  cases hentry : (store.expireInvalid clock₁).sessions.get? (hex loaded) with
  | none =>
    by_cases hsame : loaded = sessionId
    · rw [if_pos hsame]
      exact of_none hexpired.1 (hsame ▸ hentry)
    · rw [if_neg hsame]
      exact hexpired
  | some entry =>
    rw [← Nat.zero_add (ite _ _ _)]
    exact hexpired.trans (markUsed sessionId loaded _ clock₂)

theorem load_zero (sessionId loaded : Bytes) (store : SessionStore) (clock₁ clock₂ : ℚ) :
    Used sessionId 0 store (store.load loaded true clock₁ clock₂).2 :=
  (load sessionId loaded store clock₁ clock₂).mono (Nat.zero_le _)

theorem load_self (sessionId : Bytes) (store : SessionStore) (clock₁ clock₂ : ℚ) :
    Used sessionId 1 store (store.load sessionId true clock₁ clock₂).2 := by
  simpa using load sessionId sessionId store clock₁ clock₂

end Used

/-- A session whose key `load` returns has uses left. -/
theorem unspent_of_load {store : SessionStore} {sessionId key : Bytes} {clock₁ clock₂ : ℚ}
    (h : (store.load sessionId true clock₁ clock₂).1 = some key) : ∃ entry,
      store.sessions.get? (hex sessionId) = some entry ∧
        (Number.int store.maxUses).le entry.usageCount = false := by
  have hexpired := Used.expireInvalid sessionId store clock₁
  cases hentry : (store.expireInvalid clock₁).sessions.get? (hex sessionId) with
  | none => simp [SessionStore.load, hentry] at h
  | some entry =>
    obtain ⟨old, total, -, hold, -⟩ := hexpired.2 entry hentry
    rw [SessionStore.expireInvalid_eq_retain] at hentry
    obtain ⟨file, hyoung, -⟩ := SessionStore.retain_eq store (store.young clock₁)
    obtain ⟨file', hunspent, -⟩ := SessionStore.retain_eq (store.retain (store.young clock₁)).2 store.unspent
    rw [hunspent, hyoung] at hentry
    change ((store.sessions.filter _).filter store.unspent).get? _ = _ at hentry
    rw [Dict.get?_filter, Option.filter_eq_some_iff, Dict.get?_filter, Option.filter_eq_some_iff] at hentry
    exact ⟨entry, hentry.1.1, by simpa [SessionStore.unspent] using hentry.2⟩

/-! ## The Peripheral counts twice -/

/-- A session that was used twice, with a use left between the two. -/
def Spent (sessionId : Bytes) (start store : SessionStore) : Prop :=
  Used sessionId 2 start store ∧ ∃ entry total, 1 ≤ total ∧ start.sessions.get? (hex sessionId) = some entry ∧
    (Number.int start.maxUses).le (entry.counted total).usageCount = false

/-- The invariant of the Peripheral in a connection. -/
structure PeripheralRun.Inv (start : SessionStore) (peripheral : PeripheralRun) : Prop where
  used : ∀ sessionId, Used sessionId 0 start peripheral.store
  requested : ∀ sessionId, peripheral.resumeSessionId = some sessionId → Used sessionId 1 start peripheral.store
  resumed : ∀ sessionId key, peripheral.resumed = some (sessionId, key) → Spent sessionId start peripheral.store

namespace PeripheralRun

variable {start : SessionStore} {peripheral : PeripheralRun}

theorem Inv.initial (store : SessionStore) : Inv store (.start store) :=
  ⟨fun sessionId ↦ Used.refl sessionId store, nofun, nofun⟩

/-- What only uses sessions keeps the invariant. -/
theorem Inv.store (h : Inv start peripheral) {store : SessionStore}
    (hused : ∀ sessionId, Used sessionId 0 peripheral.store store) : Inv start { peripheral with store } :=
  ⟨fun sessionId ↦ (h.used sessionId).trans (hused sessionId),
    fun sessionId hrequested ↦ (h.requested sessionId hrequested).trans (hused sessionId),
    fun sessionId key hresumed ↦
      ⟨(h.resumed sessionId key hresumed).1.trans (hused sessionId), (h.resumed sessionId key hresumed).2⟩⟩

theorem Inv.handleResumeRequest (h : Inv start peripheral) (sessionId : Bytes) (input : OfferInput) :
    Inv start (peripheral.handleResumeRequest sessionId input).2 := by
  have hhas := h.store fun other ↦ Used.expireInvalid other peripheral.store input.hasClock
  unfold PeripheralRun.handleResumeRequest SessionStore.has
  dsimp only
  split_ifs
  · have hload := hhas.store fun other ↦ Used.load_zero other sessionId
      (peripheral.store.expireInvalid input.hasClock) input.acceptClock₁ input.acceptClock₂
    refine ⟨hload.used, fun other hrequested ↦ ?_, hload.resumed⟩
    cases hrequested
    have hself := Used.load_self sessionId (peripheral.store.expireInvalid input.hasClock) input.acceptClock₁
      input.acceptClock₂
    simpa using (hhas.used sessionId).trans hself
  · exact hhas

theorem Inv.onControlReceived (h : Inv start peripheral) (data : Bytes) (input : OfferInput) :
    Inv start (peripheral.onControlReceived data input).2 := by
  unfold PeripheralRun.onControlReceived
  cases parseControlMessage data with
  | resumeRequest sessionId => exact h.handleResumeRequest sessionId input
  | sasConfirm => exact h
  | unknown raw => exact h

/-- Taking the key is the second use. -/
theorem Inv.wake (h : Inv start peripheral) (clock₁ clock₂ : ℚ) : Inv start (peripheral.wake clock₁ clock₂) := by
  unfold PeripheralRun.wake
  split_ifs with hwaiting
  · cases hrequested : peripheral.resumeSessionId with
    | none => exact h
    | some sessionId =>
      have hload := h.store fun other ↦ Used.load_zero other sessionId peripheral.store clock₁ clock₂
      have hfirst := h.requested sessionId hrequested
      have hself := Used.load_self sessionId peripheral.store clock₁ clock₂
      refine ⟨hload.used, fun other hother ↦ hload.requested other (hrequested.trans hother), ?_⟩
      intro other key hresumed
      obtain ⟨key', hkey, hpair⟩ := Option.map_eq_some_iff.mp hresumed
      cases hpair
      obtain ⟨entry, hentry, hunspent⟩ := unspent_of_load hkey
      obtain ⟨old, total, htotal, hold, rfl⟩ := hfirst.2 entry hentry
      exact ⟨hfirst.trans hself, old, total, htotal, hold, hfirst.1 ▸ hunspent⟩
  · exact h

end PeripheralRun

/-- **Run lemma.**  Offering sessions in turn keeps the invariant of the Peripheral. -/
theorem attemptResume_inv {start : SessionStore} (inputs : Str → OfferInput) (names : List Str)
    (central : SessionStore) {peripheral : PeripheralRun} (h : peripheral.Inv start) :
    (attemptResume inputs names central peripheral).2.2.Inv start := by
  induction names generalizing central peripheral with
  | nil => exact h
  | cons name rest ih =>
    unfold attemptResume
    cases fromHex name with
    | none => exact h
    | some sessionId =>
      dsimp only
      rcases central.load sessionId false (inputs name).loadClock (inputs name).loadClock with ⟨_ | key, central'⟩
      · exact ih central' h
      · dsimp only
        cases buildResumeRequest sessionId with
        | error error => exact h
        | ok message =>
          have hcontrol := h.onControlReceived message (inputs name)
          dsimp only
          generalize peripheral.onControlReceived message (inputs name) = received at hcontrol ⊢
          obtain ⟨answer, answered⟩ := received
          have hwoken : PeripheralRun.Inv start (if (inputs name).wakes then
              answered.wake (inputs name).wakeClock₁ (inputs name).wakeClock₂ else answered) := by
            split_ifs
            · exact hcontrol.wake _ _
            · exact hcontrol
          dsimp only
          rcases answer with _ | _ | _
          · exact ih _ hwoken
          · dsimp only
            rcases central'.markUsed sessionId (inputs name).markClock with ⟨_ | _, central''⟩
            · exact ih _ hwoken
            · exact hwoken
          · exact ih _ hwoken

theorem connect_inv (central peripheral : SessionStore) (input : ConnectionInput) :
    (connect central peripheral input).2.2.Inv peripheral := by
  unfold connect SessionStore.listIds
  dsimp only
  split_ifs
  · exact .initial peripheral
  · generalize hattempted : attemptResume input.offers _ _ _ = attempted
    have h : attempted.2.2.Inv peripheral := hattempted ▸ attemptResume_inv input.offers _ _ (.initial peripheral)
    obtain ⟨result, central', peripheral'⟩ := attempted
    dsimp only at h ⊢
    exact h.wake input.lastWake₁ input.lastWake₂

/-! ## Agreement -/

/-- A session was counted exactly once: one use more, or gone with its last one. -/
def CountedOnce (sessionId : Bytes) (before after : SessionStore) : Prop :=
  ∃ key created uses, before.sessions.get? (hex sessionId) = some ⟨key, created, .int uses⟩ ∧
    after.sessions.get? (hex sessionId) =
      if before.maxUses ≤ uses + 1 then none else some ⟨key, created, .int (uses + 1)⟩

/-- Both sides return the same stored key, and each counts one use of the session it resumed. -/
def Resumes (central peripheral : SessionStore) (outcome : CentralResult × SessionStore × PeripheralRun) : Prop :=
  ∃ sessionId sessionId' key, outcome.1 = .ok (some (sessionId, key)) ∧
    outcome.2.2.resumed = some (sessionId', key) ∧ CountedOnce sessionId central outcome.2.1 ∧
      CountedOnce sessionId' peripheral outcome.2.2.store

/-- Two uses are not one. -/
theorem Spent.not_countedOnce {sessionId : Bytes} {start store : SessionStore} (h : Spent sessionId start store) :
    ¬CountedOnce sessionId start store := by
  rintro ⟨key, created, uses, hbefore, hafter⟩
  obtain ⟨hused, entry, total, htotal, hentry, hunspent⟩ := h
  rw [hbefore, Option.some.injEq] at hentry
  subst hentry
  simp only [SessionEntry.counted, succ_iterate_int, Number.le_int, decide_eq_false_iff_not, not_le] at hunspent
  rw [if_neg (by omega)] at hafter
  obtain ⟨entry', total', htotal', hentry', heq⟩ := hused.2 _ hafter
  rw [hbefore, Option.some.injEq] at hentry'
  subst hentry'
  have hcount := congrArg SessionEntry.usageCount heq
  simp only [SessionEntry.counted, succ_iterate_int, Number.int.injEq] at hcount
  omega

theorem not_resumes_connect (central peripheral : SessionStore) (input : ConnectionInput) :
    ¬Resumes central peripheral (connect central peripheral input) := by
  rintro ⟨_, sessionId, key, -, hresumed, -, hcounted⟩
  exact ((connect_inv central peripheral input).resumed sessionId key hresumed).not_countedOnce hcounted

/-- After no full handshake does the next connection resume as it should, whatever the stores, the session ids and
the readings of the time. -/
theorem resumption_never_agrees (central peripheral : SessionStore) (centralRandom peripheralRandom : Block 16)
    (sessionKey : Bytes) (centralSaved peripheralSaved : ℚ) (input : ConnectionInput) :
    ¬Resumes (central.persistSession centralRandom sessionKey centralSaved)
      (peripheral.persistSession peripheralRandom sessionKey peripheralSaved)
      (connect (central.persistSession centralRandom sessionKey centralSaved)
        (peripheral.persistSession peripheralRandom sessionKey peripheralSaved) input) :=
  not_resumes_connect _ _ input

/-- A new store. -/
def newStore (maxUses : ℤ) : SessionStore := ⟨24, maxUses, .empty, .missing⟩

/-- A connection in which no time passes. -/
def instant : ConnectionInput := ⟨0, 0, fun _ ↦ ⟨0, 0, 0, 0, false, 0, 0, 0⟩, 0, 0⟩

/-- The block of sixteen equal bytes. -/
def sameBytes (byte : UInt8) : Block 16 := ⟨List.replicate 16 byte, List.length_replicate⟩

/-- The ids that the two sides draw differ, and the Peripheral refuses; with equal ids and one permitted use, the
Central resumes a session that the Peripheral does not. -/
theorem resumption_disagrees :
    (connect ((newStore 100).persistSession (sameBytes 1) [9] 0)
        ((newStore 100).persistSession (sameBytes 2) [9] 0) instant).1 = .ok none ∧
      ((connect ((newStore 1).persistSession (sameBytes 1) [9] 0)
          ((newStore 1).persistSession (sameBytes 1) [9] 0) instant).1 =
            .ok (some ((sameBytes 1).bytes, [9])) ∧
        (connect ((newStore 1).persistSession (sameBytes 1) [9] 0)
          ((newStore 1).persistSession (sameBytes 1) [9] 0) instant).2.2.resumed = none) := by
  refine ⟨by decide +kernel, by decide +kernel, by decide +kernel⟩

end PqBleHandshake.StradaA
