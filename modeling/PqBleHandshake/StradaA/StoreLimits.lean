import PqBleHandshake.StradaA.SessionStore

/-!
# The limits of the session store

Runs of the store: every operation with its clock readings, which never go back, and reopening the same file with
the same limits.  The history says what the limits are about: which operation saved, deleted or counted a use of
a session.  The store keeps two promises, one to the history and one to the file: an entry stands for its last
save and the uses counted since, and the file holds the entries that are still valid.
-/

namespace PqBleHandshake.StradaA

open Foundation

namespace SessionStore

/-- An entry within the limits at a clock reading, as `_load_from_disk` checks it. -/
def valid (store : SessionStore) (clock : ℚ) (entry : SessionEntry) : Bool :=
  (Number.float (clock - store.maxAgeHours * 3600)).le entry.createdAt &&
    entry.usageCount.lt (.int store.maxUses)

end SessionStore

/-! ## Entries of the store itself -/

/-- The types that the store itself writes. -/
def SessionEntry.Clean (entry : SessionEntry) : Prop :=
  ∃ (created : ℚ) (uses : ℤ), entry.createdAt = .float created ∧ entry.usageCount = .int uses

theorem fromDict_toDict (entry : SessionEntry) (clock : ℚ) :
    fromDict entry.toDict clock =
      .ok ⟨entry.sessionKey, .number entry.createdAt, .number entry.usageCount⟩ := by
  have hkey : (Json.string (hex entry.sessionKey)).bytes = .ok entry.sessionKey := by
    rw [Json.bytes, fromHex_hex]
    rfl
  calc
    fromDict entry.toDict clock = (do
        let sessionKey ← (Json.string (hex entry.sessionKey)).bytes
        return { sessionKey, createdAt := .number entry.createdAt, usageCount := .number entry.usageCount }) := rfl
    _ = .ok ⟨entry.sessionKey, .number entry.createdAt, .number entry.usageCount⟩ := ok_bind hkey _

namespace SessionStore

variable {store : SessionStore} {clock : ℚ}

/-- What reading back an entry comes to. -/
theorem readItem_toDict (entry : SessionEntry) (clock' : ℚ) :
    readItem store.maxUses (clock - store.maxAgeHours * 3600) entry.toDict clock' =
      .ok (if store.valid clock entry then some entry else none) := by
  rw [readItem, ok_bind (fromDict_toDict entry clock')]
  change (if (Number.float (clock - store.maxAgeHours * 3600)).le entry.createdAt then
    (Except.ok (if entry.usageCount.lt (.int store.maxUses) then some entry else none) :
      Except StoreError (Option SessionEntry)) else .ok none) = _
  unfold valid
  cases (Number.float (clock - store.maxAgeHours * 3600)).le entry.createdAt <;> simp

theorem loadItems_dumped (store : SessionStore) (clock : ℚ) (clocks : Str → ℚ) (rest : List (Str × SessionEntry)) (start : Dict Str SessionEntry)
    (hnodup : ((start.entries ++ rest).map Prod.fst).Nodup) :
    ∃ loaded, loadItems store.maxUses (clock - store.maxAgeHours * 3600) clocks
        (rest.map fun entry ↦ (entry.1, entry.2.toDict)) start = .ok loaded ∧
      loaded.entries = start.entries ++ rest.filter fun entry ↦ store.valid clock entry.2 := by
  induction rest generalizing start with
  | nil => exact ⟨start, rfl, by simp⟩
  | cons entry rest ih =>
    rw [List.map_cons, loadItems, ok_bind (readItem_toDict entry.2 _)]
    have hfresh : start.get? entry.1 = none := by
      rw [Dict.get?_eq_none_iff]
      intro hmem
      rw [List.map_append, List.nodup_append] at hnodup
      exact hnodup.2.2 _ hmem _ (List.mem_map_of_mem List.mem_cons_self) rfl
    cases hvalid : store.valid clock entry.2 with
    | true =>
      have hentries : (start.set entry.1 entry.2).entries = start.entries ++ [entry] :=
        Dict.entries_set_of_get?_none hfresh
      obtain ⟨loaded, hloaded, heq⟩ := ih (start.set entry.1 entry.2) (by rw [hentries]; simpa using hnodup)
      refine ⟨loaded, hloaded, ?_⟩
      rw [heq, hentries, List.filter_cons_of_pos (by exact hvalid), List.append_assoc]
      rfl
    | false =>
      have hsub : (start.entries ++ rest).Sublist (start.entries ++ entry :: rest) :=
        (List.sublist_cons_self entry rest).append_left start.entries
      obtain ⟨loaded, hloaded, heq⟩ := ih start (hnodup.sublist (hsub.map _))
      refine ⟨loaded, hloaded, ?_⟩
      rw [heq, List.filter_cons_of_neg (by simp [hvalid])]

/-- **Round trip.**  A written file is read back up to the entries outside the limits. -/
theorem loadFromDisk_dumped (disk : Dict Str SessionEntry) (clocks : Str → ℚ) :
    loadFromDisk store.maxAgeHours store.maxUses (dumped disk) clock clocks =
      .ok (disk.filter (store.valid clock)) := by
  let pairs := disk.entries.map fun entry ↦ (entry.1, entry.2.toDict)
  have hkeys : (pairs.map Prod.fst).Nodup := by
    rw [List.map_map]
    exact disk.nodup
  have hpairs : (Dict.ofList pairs).entries = pairs := congrArg Dict.entries (Dict.ofList_entries ⟨pairs, hkeys⟩)
  obtain ⟨loaded, hloaded, heq⟩ :=
    loadItems_dumped store clock clocks disk.entries .empty disk.nodup
  change loadItems _ _ clocks (Dict.ofList pairs).entries .empty = _
  rw [hpairs, hloaded]
  exact congrArg Except.ok (Dict.ext heq)

/-! ## Expiry -/

/-- The entries of the store are of its own making. -/
def Clean (store : SessionStore) : Prop := ∀ entry ∈ store.sessions.entries, entry.2.Clean

/-- What retaining entries changes. -/
theorem retain_eq (store : SessionStore) (keep : SessionEntry → Bool) :
    ∃ file, (store.retain keep).2 = { store with sessions := store.sessions.filter keep, file } ∧
      (file = store.file ∨ file = dumped (store.sessions.filter keep)) := by
  unfold retain
  dsimp only
  split_ifs
  · exact ⟨store.file, rfl, .inl rfl⟩
  · exact ⟨dumped (store.sessions.filter keep), rfl, .inr rfl⟩

/-- The two conditions of `_expire_invalid`. -/
def young (store : SessionStore) (clock : ℚ) (entry : SessionEntry) : Bool :=
  !entry.createdAt.lt (.float (clock - store.maxAgeHours * 3600))

/-- The uses are not spent. -/
def unspent (store : SessionStore) (entry : SessionEntry) : Bool :=
  !(Number.int store.maxUses).le entry.usageCount

theorem valid_eq_of_clean {entry : SessionEntry} (hclean : entry.Clean) :
    store.valid clock entry = (store.young clock entry && store.unspent entry) := by
  obtain ⟨created, uses, hcreated, huses⟩ := hclean
  simp only [valid, young, unspent, hcreated, huses, Number.lt_float, Number.le_float, Number.lt_int,
    Number.le_int]
  by_cases hage : created < clock - store.maxAgeHours * 3600 <;> by_cases huse : uses < store.maxUses <;>
    simp [hage, huse, not_le.mpr, not_lt.mp]

theorem expireInvalid_eq_retain (store : SessionStore) (clock : ℚ) :
    store.expireInvalid clock = ((store.retain (store.young clock)).2.retain store.unspent).2 := by
  obtain ⟨file, heq, -⟩ := retain_eq store (store.young clock)
  have hyoung : store.expireOlderThan (some store.maxAgeHours) clock = store.retain (store.young clock) := by
    unfold expireOlderThan young
    dsimp only
    rw [ite_self]
  rw [expireInvalid, hyoung, expireExhausted, heq]
  rfl

/-- What `_expire_invalid` changes. -/
theorem expireInvalid_eq (hclean : store.Clean) (clock : ℚ) : ∃ file,
    store.expireInvalid clock = { store with sessions := store.sessions.filter (store.valid clock), file } := by
  obtain ⟨file, heq, -⟩ := retain_eq store (store.young clock)
  obtain ⟨file', heq', -⟩ := retain_eq (store.retain (store.young clock)).2 store.unspent
  refine ⟨file', ?_⟩
  rw [expireInvalid_eq_retain, heq', heq]
  dsimp only
  rw [Dict.filter_filter, Dict.filter_congr fun entry hmem ↦ (valid_eq_of_clean (hclean entry hmem)).symm]

theorem maxUses_expireInvalid (hclean : store.Clean) : (store.expireInvalid clock).maxUses = store.maxUses := by
  obtain ⟨file, heq⟩ := expireInvalid_eq hclean clock
  rw [heq]

theorem valid_expireInvalid (hclean : store.Clean) : (store.expireInvalid clock).valid = store.valid := by
  obtain ⟨file, heq⟩ := expireInvalid_eq hclean clock
  rw [heq]
  rfl

/-- The entries that `_expire_invalid` keeps. -/
theorem sessions_expireInvalid (hclean : store.Clean) :
    (store.expireInvalid clock).sessions = store.sessions.filter (store.valid clock) := by
  obtain ⟨file, heq⟩ := expireInvalid_eq hclean clock
  rw [heq]

theorem Clean.expireInvalid (hclean : store.Clean) : (store.expireInvalid clock).Clean := fun entry hmem ↦
  hclean entry (Dict.mem_filter.mp (sessions_expireInvalid hclean ▸ hmem)).1

/-! ## The file -/

/-- The file holds, of the entries still valid from a time on, those of the store. -/
def Agrees (store : SessionStore) (now : ℚ) : Prop :=
  ∃ disk : Dict Str SessionEntry, (store.file = dumped disk ∨ store.file = .missing ∧ disk = .empty) ∧
    (∀ entry ∈ disk.entries, entry.2.Clean) ∧
    ∀ later, now ≤ later → disk.filter (store.valid later) = store.sessions.filter (store.valid later)

theorem Agrees.mono {now later : ℚ} (h : store.Agrees now) (hle : now ≤ later) : store.Agrees later := by
  obtain ⟨disk, hfile, hclean, hfilter⟩ := h
  exact ⟨disk, hfile, hclean, fun time htime ↦ hfilter time (hle.trans htime)⟩

theorem agrees_persist (hclean : store.Clean) (now : ℚ) : store.persist.Agrees now :=
  ⟨store.sessions, .inl rfl, hclean, fun _ _ ↦ rfl⟩

/-- Validity only ever ends: an entry that is valid later is valid now. -/
theorem valid_mono {later : ℚ} (hle : clock ≤ later) {entry : SessionEntry} (hclean : entry.Clean)
    (h : store.valid later entry = true) : store.valid clock entry = true := by
  obtain ⟨created, uses, hcreated, huses⟩ := hclean
  simp only [valid, hcreated, huses, Number.le_float, Bool.and_eq_true, decide_eq_true_eq] at h ⊢
  exact ⟨by linarith [h.1], h.2⟩

/-- What is valid later is untouched by expiry now. -/
theorem filter_expireInvalid (hclean : store.Clean) {later : ℚ} (hle : clock ≤ later) :
    (store.expireInvalid clock).sessions.filter (store.valid later) = store.sessions.filter (store.valid later) := by
  rw [sessions_expireInvalid hclean, Dict.filter_filter]
  refine Dict.filter_congr fun entry hmem ↦ ?_
  cases hvalid : store.valid later entry.2 with
  | false => simp
  | true => simp [valid_mono hle (hclean entry hmem) hvalid]

/-- Dropping entries that no later time would readItem keeps the agreement, whether or not the file is written. -/
theorem Agrees.filtered {store' : SessionStore} {now : ℚ} {keep : SessionEntry → Bool} (h : store.Agrees now)
    (hclean : store.Clean) (hvalid : store'.valid = store.valid)
    (hsessions : store'.sessions = store.sessions.filter keep)
    (hkeep : ∀ later, now ≤ later → ∀ entry : SessionEntry, entry.Clean → store.valid later entry = true →
      keep entry = true)
    (hfile : store'.file = store.file ∨ store'.file = dumped store'.sessions) : store'.Agrees now := by
  have hsame : ∀ later, now ≤ later →
      store'.sessions.filter (store'.valid later) = store.sessions.filter (store.valid later) := by
    intro later hlater
    rw [hsessions, hvalid, Dict.filter_filter]
    refine Dict.filter_congr fun entry hmem ↦ ?_
    cases hentry : store.valid later entry.2 with
    | false => simp
    | true => simp [hkeep later hlater entry.2 (hclean entry hmem) hentry]
  rcases hfile with hfile | hfile
  · obtain ⟨disk, hdisk, hdiskClean, hfilter⟩ := h
    refine ⟨disk, hfile ▸ hdisk, hdiskClean, fun later hlater ↦ ?_⟩
    rw [hsame later hlater, hvalid]
    exact hfilter later hlater
  · exact ⟨store'.sessions, .inl hfile, fun entry hmem ↦ hclean entry
      (Dict.mem_filter.mp (hsessions ▸ hmem)).1, fun _ _ ↦ rfl⟩

theorem Agrees.retain {now : ℚ} (h : store.Agrees now) (hclean : store.Clean) (keep : SessionEntry → Bool)
    (hkeep : ∀ later, now ≤ later → ∀ entry : SessionEntry, entry.Clean → store.valid later entry = true →
      keep entry = true) : (store.retain keep).2.Agrees now ∧ (store.retain keep).2.Clean := by
  obtain ⟨file, heq, hfile⟩ := retain_eq store keep
  rw [heq]
  exact ⟨h.filtered hclean rfl rfl hkeep hfile, fun entry hmem ↦ hclean entry (Dict.mem_filter.mp hmem).1⟩

theorem Agrees.expireInvalid (h : store.Agrees clock) (hclean : store.Clean) :
    (store.expireInvalid clock).Agrees clock := by
  have hfirst := h.retain hclean (store.young clock) fun later hlater entry hentry hvalid ↦ by
    have hnow := valid_mono hlater hentry hvalid
    rw [valid_eq_of_clean hentry, Bool.and_eq_true] at hnow
    exact hnow.1
  rw [expireInvalid_eq_retain]
  refine (hfirst.1.retain hfirst.2 store.unspent fun later hlater entry hentry hvalid ↦ ?_).1
  obtain ⟨file, heq, -⟩ := retain_eq store (store.young clock)
  rw [heq] at hvalid
  change store.valid later entry = true at hvalid
  rw [valid_eq_of_clean hentry, Bool.and_eq_true] at hvalid
  exact hvalid.2

/-- **Reopening.**  The store that the file opens to has the entries that the store has after expiry. -/
theorem Agrees.reopened (h : store.Agrees clock) (hclean : store.Clean) (hpositive : 0 < store.maxUses)
    (clocks : Str → ℚ) : ∃ reopened,
      init store.file store.maxAgeHours store.maxUses clock clocks = .ok reopened ∧
        reopened.sessions = (store.expireInvalid clock).sessions ∧ reopened.Agrees clock ∧ reopened.Clean ∧
          reopened.valid = store.valid ∧ reopened.maxUses = store.maxUses := by
  obtain ⟨disk, hfile, hdiskClean, hfilter⟩ := h
  have hload : loadFromDisk store.maxAgeHours store.maxUses store.file clock clocks =
      .ok (disk.filter (store.valid clock)) := by
    rcases hfile with hfile | ⟨hfile, rfl⟩
    · rw [hfile, loadFromDisk_dumped]
    · rw [hfile]
      rfl
  refine ⟨⟨store.maxAgeHours, store.maxUses, disk.filter (store.valid clock), store.file⟩, ?_, ?_, ?_, ?_, rfl, rfl⟩
  · rw [init, require_bind_of hpositive, ok_bind hload]
    rfl
  · rw [sessions_expireInvalid hclean]
    exact hfilter clock le_rfl
  · refine ⟨disk, hfile, hdiskClean, fun later hlater ↦ ?_⟩
    change disk.filter (store.valid later) = (disk.filter (store.valid clock)).filter (store.valid later)
    rw [Dict.filter_filter]
    refine Dict.filter_congr fun entry hmem ↦ ?_
    cases hvalid : store.valid later entry.2 with
    | false => simp
    | true => simp [valid_mono hlater (hdiskClean entry hmem) hvalid]
  · exact fun entry hmem ↦ hdiskClean entry (Dict.mem_filter.mp hmem).1

/-! ## Counting a use -/

/-- What `mark_used` leaves, by the entry it finds. -/
theorem markUsed_eq (store : SessionStore) (sessionId : Bytes) (clock : ℚ) :
    (store.markUsed sessionId clock = (false, store.expireInvalid clock) ∧
      (store.expireInvalid clock).sessions.get? (hex sessionId) = none) ∨
    ∃ (entry : SessionEntry) (sessions : Dict Str SessionEntry),
      (store.expireInvalid clock).sessions.get? (hex sessionId) = some entry ∧
      store.markUsed sessionId clock = (true, { store.expireInvalid clock with sessions }.persist) ∧
      (∀ key, key ≠ hex sessionId → sessions.get? key = (store.expireInvalid clock).sessions.get? key) ∧
      sessions.get? (hex sessionId) =
        if (Number.int (store.expireInvalid clock).maxUses).le entry.usageCount.succ then none
        else some { entry with usageCount := entry.usageCount.succ } := by
  unfold markUsed
  dsimp only
  cases hentry : (store.expireInvalid clock).sessions.get? (hex sessionId) with
  | none => exact .inl ⟨rfl, rfl⟩
  | some entry =>
    refine .inr ⟨entry, _, rfl, rfl, fun key hkey ↦ ?_, ?_⟩
    · split_ifs
      · rw [Dict.get?_erase, if_neg (Ne.symm hkey)]
      · rw [Dict.get?_set, if_neg (Ne.symm hkey)]
    · split_ifs
      · rw [Dict.get?_erase, if_pos rfl]
      · rw [Dict.get?_set, if_pos rfl]

end SessionStore

/-! ## Runs -/

/-- An operation with its clock readings. -/
inductive StoreCall
  | save (sessionId sessionKey : Bytes) (clock : ℚ)
  | load (sessionId : Bytes) (incrementUsage : Bool) (clock₁ clock₂ : ℚ)
  | markUsed (sessionId : Bytes) (clock : ℚ)
  | delete (sessionId : Bytes)
  | has (sessionId : Bytes) (clock : ℚ)
  | listIds (clock : ℚ)
  | reopen (clock : ℚ) (clocks : Str → ℚ)
  | advance (now : ℚ)

/-- What an operation answers. -/
inductive StoreAnswer
  | done
  | raised (error : StoreError)
  | key (found : Option Bytes)
  | flag (value : Bool)
  | ids (entries : List (Str × Number × Number))

/-- The clock readings of an operation, in order. -/
def StoreCall.readings : StoreCall → List ℚ
  | .save _ _ clock | .markUsed _ clock | .has _ clock | .listIds clock | .reopen clock _ | .advance clock => [clock]
  | .load _ _ clock₁ clock₂ => [clock₁, clock₂]
  | .delete _ => []

/-- One operation; reopening takes the limits of the store. -/
def SessionStore.perform (store : SessionStore) : StoreCall → StoreAnswer × SessionStore
  | .save sessionId sessionKey clock =>
    match store.save sessionId sessionKey clock with
    | (.ok _, store) => (.done, store)
    | (.error error, store) => (.raised error, store)
  | .load sessionId incrementUsage clock₁ clock₂ =>
    let (found, store) := store.load sessionId incrementUsage clock₁ clock₂
    (.key found, store)
  | .markUsed sessionId clock =>
    let (used, store) := store.markUsed sessionId clock
    (.flag used, store)
  | .delete sessionId => (.done, store.delete sessionId)
  | .has sessionId clock =>
    let (found, store) := store.has sessionId clock
    (.flag found, store)
  | .listIds clock =>
    let (entries, store) := store.listIds clock
    (.ids entries, store)
  | .reopen clock clocks =>
    match SessionStore.init store.file store.maxAgeHours store.maxUses clock clocks with
    | .ok store => (.done, store)
    | .error error => (.raised error, store)
  | .advance _ => (.done, store)

/-- An operation of the past and its answer. -/
abbrev StoreEvent := StoreCall × StoreAnswer

/-- An operation that saved the session. -/
def saves (sessionId : Bytes) : StoreEvent → Bool
  | (.save saved _ _, .done) => saved = sessionId
  | _ => false

/-- An operation that deleted the session. -/
def deletes (sessionId : Bytes) : StoreEvent → Bool
  | (.delete deleted, _) => deleted = sessionId
  | _ => false

/-- An operation that counted a use of the session: `mark_used`, or `load` on its own. -/
def counts (sessionId : Bytes) : StoreEvent → Bool
  | (.markUsed used _, .flag true) => used = sessionId
  | (.load used true _ _, .key (some _)) => used = sessionId
  | _ => false

/-- A store, the time and the past. -/
structure StoreRun where
  store : SessionStore
  now : ℚ
  history : List StoreEvent

namespace StoreRun

/-- A store opened where no file is. -/
def start (maxAgeHours : ℚ) (maxUses : ℤ) (now : ℚ) : StoreRun where
  store := ⟨maxAgeHours, maxUses, .empty, .missing⟩
  now := now
  history := []

/-- One operation, whose clock readings do not go back. -/
def step (run : StoreRun) (call : StoreCall) : Option StoreRun := do
  guard (List.IsChain (· ≤ ·) (run.now :: call.readings))
  let (answer, store) := run.store.perform call
  return { store, now := call.readings.getLastD run.now, history := run.history ++ [(call, answer)] }

end StoreRun

/-- An entry stands for the last save of its session, which no deletion has followed, and for the uses counted
since. -/
def Stands (history : List StoreEvent) (sessionId : Bytes) (entry : SessionEntry) : Prop :=
  ∃ key created before after, entry = ⟨key, .float created, .int (after.countP (counts sessionId) : ℕ)⟩ ∧
    history = before ++ (.save sessionId key created, .done) :: after ∧
    ∀ event ∈ after, saves sessionId event = false ∧ deletes sessionId event = false

theorem Stands.clean {history : List StoreEvent} {sessionId : Bytes} {entry : SessionEntry}
    (h : Stands history sessionId entry) : entry.Clean := by
  obtain ⟨key, created, before, after, rfl, -, -⟩ := h
  exact ⟨created, _, rfl, rfl⟩

/-- An operation that neither saves nor deletes the session extends the past; it adds its use. -/
theorem Stands.append {history : List StoreEvent} {sessionId : Bytes} {entry : SessionEntry} {event : StoreEvent}
    (h : Stands history sessionId entry) (hsaves : saves sessionId event = false)
    (hdeletes : deletes sessionId event = false) :
    Stands (history ++ [event]) sessionId
      (if counts sessionId event then { entry with usageCount := entry.usageCount.succ } else entry) := by
  obtain ⟨key, created, before, after, rfl, rfl, hafter⟩ := h
  refine ⟨key, created, before, after ++ [event], ?_, by simp, ?_⟩
  · cases hcounts : counts sessionId event with
    | true => simp [Number.succ, List.countP_append, hcounts]
    | false => simp [List.countP_append, hcounts]
  · intro other hmem
    rcases List.mem_append.mp hmem with hmem | hmem
    · exact hafter other hmem
    · rw [List.mem_singleton.mp hmem]
      exact ⟨hsaves, hdeletes⟩

/-- What an operation does to one entry of the next store: it kept it, counted a use of it, or saved it. -/
def Becomes (store : SessionStore) (event : StoreEvent) (sessionId : Bytes) (entry : SessionEntry) : Prop :=
  (store.sessions.get? (hex sessionId) = some entry ∧ saves sessionId event = false ∧
      deletes sessionId event = false ∧ counts sessionId event = false) ∨
    (∃ old, store.sessions.get? (hex sessionId) = some old ∧ saves sessionId event = false ∧
      deletes sessionId event = false ∧ counts sessionId event = true ∧
        entry = { old with usageCount := old.usageCount.succ } ∧
          (Number.int store.maxUses).le entry.usageCount = false) ∨
    ∃ key created, event = (.save sessionId key created, .done) ∧ entry = ⟨key, .float created, .int 0⟩

/-! ## What one operation does -/

section Operations

variable {store : SessionStore} {event : StoreEvent} {sessionId : Bytes} {entry : SessionEntry} {clock : ℚ}

theorem get?_expireInvalid (hclean : store.Clean) {name : Str} :
    (store.expireInvalid clock).sessions.get? name = some entry ↔
      store.sessions.get? name = some entry ∧ store.valid clock entry = true := by
  rw [SessionStore.sessions_expireInvalid hclean, Dict.get?_filter, Option.filter_eq_some_iff]

/-- What becomes of an entry after expiry becomes of it. -/
theorem Becomes.of_expireInvalid (hclean : store.Clean)
    (h : Becomes (store.expireInvalid clock) event sessionId entry) : Becomes store event sessionId entry := by
  rcases h with ⟨hentry, hquiet⟩ | ⟨old, hentry, hsaves, hdeletes, hcounts, heq, hmax⟩ | hsaved
  · exact .inl ⟨((get?_expireInvalid hclean).mp hentry).1, hquiet⟩
  · rw [SessionStore.maxUses_expireInvalid hclean] at hmax
    exact .inr (.inl ⟨old, ((get?_expireInvalid hclean).mp hentry).1, hsaves, hdeletes, hcounts, heq, hmax⟩)
  · exact .inr (.inr hsaved)

theorem becomes_markUsed (hclean : store.Clean) {used : Bytes}
    (hsaves : ∀ sessionId, saves sessionId event = false) (hdeletes : ∀ sessionId, deletes sessionId event = false)
    (hcounts : ∀ sessionId, counts sessionId event = ((store.markUsed used clock).1 && decide (used = sessionId)))
    (hentry : (store.markUsed used clock).2.sessions.get? (hex sessionId) = some entry) :
    Becomes store event sessionId entry := by
  refine (?_ : Becomes (store.expireInvalid clock) event sessionId entry).of_expireInvalid hclean
  rcases store.markUsed_eq used clock with ⟨heq, -⟩ | ⟨old, sessions, hold, heq, hothers, hself⟩
  · rw [heq] at hentry hcounts
    exact .inl ⟨hentry, hsaves _, hdeletes _, by simpa using hcounts sessionId⟩
  · rw [heq] at hentry hcounts
    change sessions.get? (hex sessionId) = some entry at hentry
    by_cases hsame : used = sessionId
    · subst hsame
      rw [hself] at hentry
      split_ifs at hentry with hmax
      refine .inr (.inl ⟨old, hold, hsaves _, hdeletes _, by simpa using hcounts used,
        (Option.some.inj hentry).symm, ?_⟩)
      rw [← Option.some.inj hentry]
      simpa using hmax
    · rw [hothers _ fun h ↦ hsame (hex_injective h).symm] at hentry
      exact .inl ⟨hentry, hsaves _, hdeletes _, by simpa [hsame] using hcounts sessionId⟩

theorem markUsed_isSome (hclean : store.Clean) {used : Bytes} (h : (store.markUsed used clock).1 = true) :
    ∃ old, store.sessions.get? (hex used) = some old ∧ store.valid clock old = true := by
  rcases store.markUsed_eq used clock with ⟨heq, -⟩ | ⟨old, sessions, hold, -⟩
  · rw [heq] at h
    cases h
  · exact ⟨old, (get?_expireInvalid hclean).mp hold⟩

theorem Clean.succ (h : entry.Clean) : SessionEntry.Clean { entry with usageCount := entry.usageCount.succ } := by
  obtain ⟨created, uses, hcreated, huses⟩ := h
  exact ⟨created, uses + 1, hcreated, by simp [huses, Number.succ]⟩

/-- `mark_used` keeps the limits, the types and the agreement with the file. -/
theorem markUsed_keeps (hclean : store.Clean) (hagrees : store.Agrees clock) (used : Bytes) :
    (store.markUsed used clock).2.maxUses = store.maxUses ∧
      (store.markUsed used clock).2.maxAgeHours = store.maxAgeHours ∧
        (store.markUsed used clock).2.Clean ∧ (store.markUsed used clock).2.Agrees clock := by
  obtain ⟨file, hexpired⟩ := SessionStore.expireInvalid_eq hclean clock
  have hmax : (store.expireInvalid clock).maxUses = store.maxUses := by rw [hexpired]
  have hage : (store.expireInvalid clock).maxAgeHours = store.maxAgeHours := by rw [hexpired]
  rcases store.markUsed_eq used clock with ⟨heq, -⟩ | ⟨old, sessions, hold, heq, hothers, hself⟩
  · rw [heq]
    exact ⟨hmax, hage, hclean.expireInvalid, hagrees.expireInvalid hclean⟩
  · have hsessions : SessionStore.Clean { store.expireInvalid clock with sessions } := by
      rintro ⟨name, entry⟩ hmem
      have hget := Dict.mem_iff_get?.mp hmem
      by_cases hname : name = hex used
      · rw [hname, hself] at hget
        split_ifs at hget
        rw [← Option.some.inj hget]
        exact Clean.succ (hclean.expireInvalid (hex used, old) (Dict.mem_iff_get?.mpr hold))
      · rw [hothers name hname] at hget
        exact hclean.expireInvalid (name, entry) (Dict.mem_iff_get?.mpr hget)
    rw [heq]
    exact ⟨hmax, hage, hsessions, SessionStore.agrees_persist hsessions clock⟩

/-- What an operation does to the store, as its limits see it. -/
structure Effect (store : SessionStore) (event : StoreEvent) (store' : SessionStore) (now : ℚ) : Prop where
  entry : ∀ sessionId entry, store'.sessions.get? (hex sessionId) = some entry →
    Becomes store event sessionId entry
  counted : ∀ sessionId, counts sessionId event = true → ∃ old, store.sessions.get? (hex sessionId) = some old
  returned : ∀ sessionId incrementUsage clock₁ clock₂ key,
    event = (.load sessionId incrementUsage clock₁ clock₂, .key (some key)) →
      ∃ old, store.sessions.get? (hex sessionId) = some old ∧ old.sessionKey = key ∧
        store.valid clock₁ old = true ∧ (incrementUsage = true → store.valid clock₂ old = true)
  maxUses_eq : store'.maxUses = store.maxUses
  maxAgeHours_eq : store'.maxAgeHours = store.maxAgeHours
  clean : store'.Clean
  agrees : store'.Agrees now

/-- An operation that only expires entries, and of which nothing else is told. -/
theorem effect_expireInvalid (hclean : store.Clean) (hagrees : store.Agrees clock)
    (hsaves : ∀ sessionId, saves sessionId event = false) (hdeletes : ∀ sessionId, deletes sessionId event = false)
    (hcounts : ∀ sessionId, counts sessionId event = false)
    (hreturned : ∀ sessionId incrementUsage clock₁ clock₂ key,
      event = (.load sessionId incrementUsage clock₁ clock₂, .key (some key)) →
        ∃ old, store.sessions.get? (hex sessionId) = some old ∧ old.sessionKey = key ∧
          store.valid clock₁ old = true ∧ (incrementUsage = true → store.valid clock₂ old = true)) :
    Effect store event (store.expireInvalid clock) clock := by
  obtain ⟨file, hexpired⟩ := SessionStore.expireInvalid_eq hclean clock
  refine ⟨fun sessionId entry hentry ↦ ?_, fun sessionId h ↦ ?_, hreturned, by rw [hexpired], by rw [hexpired],
    hclean.expireInvalid, hagrees.expireInvalid hclean⟩
  · exact .inl ⟨((get?_expireInvalid hclean).mp hentry).1, hsaves _, hdeletes _, hcounts _⟩
  · rw [hcounts] at h
    cases h

theorem effect_save {now : ℚ} (hclean : store.Clean) (hagrees : store.Agrees now) (saved sessionKey : Bytes) :
    Effect store (.save saved sessionKey clock, (store.perform (.save saved sessionKey clock)).1)
      (store.perform (.save saved sessionKey clock)).2 now := by
  simp only [SessionStore.perform, SessionStore.save]
  by_cases hsize : saved.length = sessionIdSize
  · rw [if_neg (not_not.mpr hsize)]
    have hsessions : SessionStore.Clean
        { store with sessions := store.sessions.set (hex saved) ⟨sessionKey, .float clock, .int 0⟩ } := by
      intro entry hmem
      rcases Dict.mem_set hmem with rfl | hold
      · exact ⟨clock, 0, rfl, rfl⟩
      · exact hclean entry hold
    refine ⟨fun sessionId entry hentry ↦ ?_, by rintro _ ⟨⟩, by rintro _ _ _ _ _ ⟨⟩, rfl, rfl, hsessions,
      SessionStore.agrees_persist hsessions now⟩
    change (store.sessions.set (hex saved) _).get? (hex sessionId) = some entry at hentry
    rw [Dict.get?_set] at hentry
    split_ifs at hentry with hsame
    · rw [hex_inj] at hsame
      subst hsame
      exact .inr (.inr ⟨sessionKey, clock, rfl, (Option.some.inj hentry).symm⟩)
    · rw [hex_inj] at hsame
      exact .inl ⟨hentry, by simp [saves, hsame], rfl, rfl⟩
  · rw [if_pos hsize]
    exact ⟨fun sessionId entry hentry ↦ .inl ⟨hentry, rfl, rfl, rfl⟩, by rintro _ ⟨⟩, by rintro _ _ _ _ _ ⟨⟩,
      rfl, rfl, hclean, hagrees⟩

theorem effect_markUsed (hclean : store.Clean) (hagrees : store.Agrees clock) (used : Bytes) :
    Effect store (.markUsed used clock, (store.perform (.markUsed used clock)).1)
      (store.perform (.markUsed used clock)).2 clock := by
  obtain ⟨hmax, hage, hclean', hagrees'⟩ := markUsed_keeps hclean hagrees used
  have hcounts : ∀ sessionId, counts sessionId (.markUsed used clock, .flag (store.markUsed used clock).1) =
      ((store.markUsed used clock).1 && decide (used = sessionId)) := by
    intro sessionId
    cases (store.markUsed used clock).1 <;> rfl
  refine ⟨fun sessionId entry hentry ↦ ?_, fun sessionId hcounted ↦ ?_, nofun, hmax, hage, hclean', hagrees'⟩
  · exact becomes_markUsed hclean (fun _ ↦ rfl) (fun _ ↦ rfl) hcounts hentry
  · have h := (hcounts sessionId).symm.trans hcounted
    rw [Bool.and_eq_true, decide_eq_true_eq] at h
    obtain ⟨old, hold, -⟩ := markUsed_isSome hclean h.1
    exact ⟨old, h.2 ▸ hold⟩

theorem effect_load {clock₁ clock₂ : ℚ} (hclean : store.Clean) (hagrees : store.Agrees clock₁)
    (hle : clock₁ ≤ clock₂) (loaded : Bytes) (incrementUsage : Bool) :
    Effect store
      (.load loaded incrementUsage clock₁ clock₂, (store.perform (.load loaded incrementUsage clock₁ clock₂)).1)
      (store.perform (.load loaded incrementUsage clock₁ clock₂)).2 clock₂ := by
  have hexpired := hagrees.expireInvalid hclean
  simp only [SessionStore.perform, SessionStore.load]
  cases hentry : (store.expireInvalid clock₁).sessions.get? (hex loaded) with
  | none =>
    have h : Effect store (.load loaded incrementUsage clock₁ clock₂, .key none) (store.expireInvalid clock₁)
        clock₁ :=
      effect_expireInvalid hclean hagrees (fun _ ↦ rfl) (fun _ ↦ rfl)
        (fun _ ↦ by cases incrementUsage <;> rfl) (by rintro _ _ _ _ _ ⟨⟩)
    exact { h with agrees := h.agrees.mono hle }
  | some entry =>
    obtain ⟨hold, hvalid⟩ := (get?_expireInvalid hclean).mp hentry
    cases incrementUsage with
    | false =>
      have h : Effect store (.load loaded false clock₁ clock₂, .key (some entry.sessionKey))
          (store.expireInvalid clock₁) clock₁ :=
        effect_expireInvalid hclean hagrees (fun _ ↦ rfl) (fun _ ↦ rfl) (fun _ ↦ rfl)
          fun sessionId inc c₁ c₂ key heq ↦ by
            cases heq
            exact ⟨entry, hold, rfl, hvalid, by rintro ⟨⟩⟩
      exact { h with agrees := h.agrees.mono hle }
    | true =>
      have hkeeps := markUsed_keeps hclean.expireInvalid (hexpired.mono hle) loaded
      have hbecomes := fun event sessionId entry ↦
        @becomes_markUsed (store.expireInvalid clock₁) event sessionId entry clock₂ hclean.expireInvalid loaded
      have hsome := @markUsed_isSome (store.expireInvalid clock₁) clock₂ hclean.expireInvalid loaded
      generalize (store.expireInvalid clock₁).markUsed loaded clock₂ = result at hkeeps hbecomes hsome ⊢
      obtain ⟨used, marked⟩ := result
      obtain ⟨file, hfile⟩ := SessionStore.expireInvalid_eq hclean clock₁
      have hage : (store.expireInvalid clock₁).maxAgeHours = store.maxAgeHours := by rw [hfile]
      obtain ⟨hmax, hage', hclean', hagrees'⟩ := hkeeps
      have hcounts : ∀ sessionId, counts sessionId (.load loaded true clock₁ clock₂,
          .key (if used then some entry.sessionKey else none)) = (used && decide (loaded = sessionId)) := by
        intro sessionId
        cases used <;> rfl
      simp only [if_true]
      refine ⟨fun sessionId other hother ↦ ?_, fun sessionId hcounted ↦ ?_, fun sessionId inc c₁ c₂ key heq ↦ ?_,
        hmax.trans (SessionStore.maxUses_expireInvalid hclean), hage'.trans hage, hclean', hagrees'⟩
      · exact (hbecomes _ _ _ (fun _ ↦ rfl) (fun _ ↦ rfl) hcounts hother).of_expireInvalid hclean
      · have h := (hcounts sessionId).symm.trans hcounted
        rw [Bool.and_eq_true, decide_eq_true_eq] at h
        exact ⟨entry, h.2 ▸ hold⟩
      · cases used with
        | false => cases heq
        | true =>
          cases heq
          obtain ⟨old, hold', hvalid'⟩ := hsome rfl
          rw [hentry, Option.some.injEq] at hold'
          rw [SessionStore.valid_expireInvalid hclean, ← hold'] at hvalid'
          exact ⟨entry, hold, rfl, hvalid, fun _ ↦ hvalid'⟩

theorem effect_delete {now : ℚ} (hclean : store.Clean) (deleted : Bytes) :
    Effect store (.delete deleted, .done) (store.delete deleted) now := by
  have hsub : ∀ name entry, (store.sessions.erase (hex deleted)).get? name = some entry →
      name ≠ hex deleted ∧ store.sessions.get? name = some entry := by
    intro name entry h
    rw [Dict.get?_erase] at h
    split_ifs at h with hname
    exact ⟨Ne.symm hname, h⟩
  have hsessions : SessionStore.Clean { store with sessions := store.sessions.erase (hex deleted) } :=
    fun item hmem ↦ hclean item (Dict.mem_iff_get?.mpr (hsub item.1 item.2 (Dict.mem_iff_get?.mp hmem)).2)
  refine ⟨fun sessionId entry hentry ↦ ?_, by rintro _ ⟨⟩, by rintro _ _ _ _ _ ⟨⟩, rfl, rfl, hsessions,
    SessionStore.agrees_persist hsessions now⟩
  obtain ⟨hne, hold⟩ := hsub (hex sessionId) entry hentry
  refine .inl ⟨hold, rfl, ?_, rfl⟩
  simpa [deletes] using fun h ↦ hne (congrArg hex h.symm)

theorem effect_reopen (hclean : store.Clean) (hagrees : store.Agrees clock) (hpositive : 0 < store.maxUses)
    (clocks : Str → ℚ) :
    Effect store (.reopen clock clocks, (store.perform (.reopen clock clocks)).1)
      (store.perform (.reopen clock clocks)).2 clock := by
  obtain ⟨reopened, hinit, hsessions, hagrees', hclean', -, hmax⟩ :=
    hagrees.reopened hclean hpositive clocks
  have hage : reopened.maxAgeHours = store.maxAgeHours := by
    rw [SessionStore.init, require_bind_of hpositive, except_bind_eq_ok_iff] at hinit
    obtain ⟨sessions, -, hresult⟩ := hinit
    rw [← Except.ok.inj hresult]
  simp only [SessionStore.perform, hinit]
  refine ⟨fun sessionId entry hentry ↦ ?_, nofun, nofun, hmax, hage, hclean', hagrees'⟩
  rw [hsessions] at hentry
  exact .inl ⟨((get?_expireInvalid hclean).mp hentry).1, rfl, rfl, rfl⟩

/-- **Spec lemma.**  Every operation has an effect that the limits allow. -/
theorem perform_effect {now : ℚ} (hclean : store.Clean) (hagrees : store.Agrees now)
    (hpositive : 0 < store.maxUses) (call : StoreCall) (hchain : List.IsChain (· ≤ ·) (now :: call.readings)) :
    Effect store (call, (store.perform call).1) (store.perform call).2 (call.readings.getLastD now) := by
  cases call with
  | save saved sessionKey clock =>
    have hle : now ≤ clock := by simpa [StoreCall.readings] using hchain
    exact effect_save hclean (hagrees.mono hle) saved sessionKey
  | load loaded incrementUsage clock₁ clock₂ =>
    have hle : now ≤ clock₁ ∧ clock₁ ≤ clock₂ := by simpa [StoreCall.readings] using hchain
    exact effect_load hclean (hagrees.mono hle.1) hle.2 loaded incrementUsage
  | markUsed used clock =>
    have hle : now ≤ clock := by simpa [StoreCall.readings] using hchain
    exact effect_markUsed hclean (hagrees.mono hle) used
  | delete deleted => exact effect_delete hclean deleted
  | has asked clock =>
    have hle : now ≤ clock := by simpa [StoreCall.readings] using hchain
    exact effect_expireInvalid hclean (hagrees.mono hle) (fun _ ↦ rfl) (fun _ ↦ rfl) (fun _ ↦ rfl) nofun
  | listIds clock =>
    have hle : now ≤ clock := by simpa [StoreCall.readings] using hchain
    exact effect_expireInvalid hclean (hagrees.mono hle) (fun _ ↦ rfl) (fun _ ↦ rfl) (fun _ ↦ rfl) nofun
  | reopen clock clocks =>
    have hle : now ≤ clock := by simpa [StoreCall.readings] using hchain
    exact effect_reopen hclean (hagrees.mono hle) hpositive clocks
  | advance later =>
    have hle : now ≤ later := by simpa [StoreCall.readings] using hchain
    exact ⟨fun sessionId entry hentry ↦ .inl ⟨hentry, rfl, rfl, rfl⟩, nofun, nofun, rfl, rfl, hclean,
      hagrees.mono hle⟩

end Operations

/-! ## The invariant -/

/-- What licenses a key that `load` returned: the last save of the session, with no deletion since, recent enough
and with fewer than the permitted uses counted since. -/
def Licensed (maxAgeHours : ℚ) (maxUses : ℤ) (past : List StoreEvent) (sessionId key : Bytes)
    (incrementUsage : Bool) (clock₁ clock₂ : ℚ) : Prop :=
  ∃ created before after, past = before ++ (.save sessionId key created, .done) :: after ∧
    (∀ event ∈ after, saves sessionId event = false ∧ deletes sessionId event = false) ∧
      clock₁ - created ≤ maxAgeHours * 3600 ∧
        (incrementUsage = true → clock₂ - created ≤ maxAgeHours * 3600) ∧
          (after.countP (counts sessionId) : ℤ) < maxUses

/-- The invariant of a run. -/
structure StoreRun.Sound (maxAgeHours : ℚ) (maxUses : ℤ) (run : StoreRun) : Prop where
  maxAgeHours_eq : run.store.maxAgeHours = maxAgeHours
  maxUses_eq : run.store.maxUses = maxUses
  clean : run.store.Clean
  agrees : run.store.Agrees run.now
  stands : ∀ sessionId entry, run.store.sessions.get? (hex sessionId) = some entry →
    Stands run.history sessionId entry ∧ (Number.int maxUses).le entry.usageCount = false
  /-- Since the last save no more uses were counted than the entry says, or than are permitted. -/
  counted : ∀ sessionId before after, run.history = before ++ after →
    (∀ event ∈ after, saves sessionId event = false) →
      (∀ entry uses, run.store.sessions.get? (hex sessionId) = some entry → entry.usageCount = .int uses →
        (after.countP (counts sessionId) : ℤ) ≤ uses) ∧
      (after.countP (counts sessionId) : ℤ) ≤ maxUses
  limited : ∀ sessionId before middle after, run.history = before ++ middle ++ after →
    (∀ event ∈ middle, saves sessionId event = false) → (middle.countP (counts sessionId) : ℤ) ≤ maxUses
  licensed : ∀ past sessionId incrementUsage clock₁ clock₂ key after,
    run.history = past ++ (.load sessionId incrementUsage clock₁ clock₂, .key (some key)) :: after →
      Licensed maxAgeHours maxUses past sessionId key incrementUsage clock₁ clock₂

section Invariant

variable {maxAgeHours : ℚ} {maxUses : ℤ} {run run' : StoreRun}

theorem StoreRun.Sound.start (hpositive : 0 < maxUses) (now : ℚ) :
    StoreRun.Sound maxAgeHours maxUses (StoreRun.start maxAgeHours maxUses now) where
  maxAgeHours_eq := rfl
  maxUses_eq := rfl
  clean := nofun
  agrees := ⟨.empty, .inr ⟨rfl, rfl⟩, nofun, fun _ _ ↦ rfl⟩
  stands := nofun
  counted sessionId before after h _ := by
    obtain ⟨rfl, rfl⟩ := List.append_eq_nil_iff.mp h.symm
    exact ⟨nofun, by simpa using hpositive.le⟩
  limited sessionId before middle after h _ := by
    obtain ⟨hleft, rfl⟩ := List.append_eq_nil_iff.mp h.symm
    obtain ⟨rfl, rfl⟩ := List.append_eq_nil_iff.mp hleft
    simpa using hpositive.le
  licensed past _ _ _ _ _ after h :=
    absurd h.symm (List.append_ne_nil_of_right_ne_nil past (List.cons_ne_nil _ after))

/-- A history with one more event splits where the old one does, or before the new event. -/
theorem append_singleton_split {α : Type} {past before after : List α} {event : α}
    (h : past ++ [event] = before ++ after) :
    (after = [] ∧ before = past ++ [event]) ∨ ∃ rest, after = rest ++ [event] ∧ past = before ++ rest := by
  rcases List.eq_nil_or_concat after with rfl | ⟨rest, last, rfl⟩
  · exact .inl ⟨rfl, by simpa using h.symm⟩
  · rw [List.concat_eq_append, ← List.append_assoc] at h
    obtain ⟨hpast, hlast⟩ := List.append_inj' h rfl
    rw [List.singleton_inj] at hlast
    exact .inr ⟨rest, by rw [List.concat_eq_append, hlast], hpast⟩

/-- What the entries of the next store stand for. -/
theorem Becomes.stands (hsound : run.Sound maxAgeHours maxUses) (hpositive : 0 < maxUses) {event : StoreEvent}
    {sessionId : Bytes} {entry : SessionEntry} (h : Becomes run.store event sessionId entry) :
    Stands (run.history ++ [event]) sessionId entry ∧ (Number.int maxUses).le entry.usageCount = false := by
  rcases h with ⟨hold, hsaves, hdeletes, hcounts⟩ | ⟨old, hold, hsaves, hdeletes, hcounts, rfl, hmax⟩ |
    ⟨key, created, rfl, rfl⟩
  · obtain ⟨hstands, hmax⟩ := hsound.stands sessionId entry hold
    have h := hstands.append hsaves hdeletes
    rw [hcounts] at h
    exact ⟨h, hmax⟩
  · have h := (hsound.stands sessionId old hold).1.append hsaves hdeletes
    rw [hcounts] at h
    rw [hsound.maxUses_eq] at hmax
    exact ⟨h, hmax⟩
  · refine ⟨⟨key, created, run.history, [], rfl, rfl, nofun⟩, ?_⟩
    simpa using hpositive

/-- A counted use was one of the permitted. -/
theorem StoreRun.Sound.counted_step (hsound : run.Sound maxAgeHours maxUses) {event : StoreEvent}
    {store' : SessionStore} {now : ℚ} (heffect : Effect run.store event store' now) {sessionId : Bytes}
    {before after : List StoreEvent} (hsplit : run.history = before ++ after)
    (hafter : ∀ other ∈ after ++ [event], saves sessionId other = false) :
    (∀ entry uses, store'.sessions.get? (hex sessionId) = some entry → entry.usageCount = .int uses →
      ((after ++ [event]).countP (counts sessionId) : ℤ) ≤ uses) ∧
    ((after ++ [event]).countP (counts sessionId) : ℤ) ≤ maxUses := by
  obtain ⟨hentry, hmax⟩ := hsound.counted sessionId before after hsplit fun other hmem ↦
    hafter other (List.mem_append_left _ hmem)
  have hcount : ((after ++ [event]).countP (counts sessionId) : ℤ) =
      after.countP (counts sessionId) + if counts sessionId event then 1 else 0 := by
    rw [List.countP_append, Nat.cast_add]
    cases hcounts : counts sessionId event <;> simp [hcounts]
  rw [hcount]
  constructor
  · intro entry uses hnew huses
    rcases heffect.entry sessionId entry hnew with ⟨hold, -, -, hcounts⟩ | ⟨old, hold, -, -, hcounts, rfl, -⟩ |
      ⟨key, created, rfl, -⟩
    · simpa [hcounts] using hentry entry uses hold huses
    · obtain ⟨_, oldUses, -, holdUses⟩ := (hsound.stands sessionId old hold).1.clean
      have hle := hentry old oldUses hold holdUses
      simp only [holdUses, Number.succ, Number.int.injEq] at huses
      simp only [hcounts, if_true]
      omega
    · have h := hafter (.save sessionId key created, .done) (List.mem_append_right _ List.mem_cons_self)
      simp [saves] at h
  · cases hcounts : counts sessionId event with
    | false => simpa using hmax
    | true =>
      obtain ⟨old, hold⟩ := heffect.counted sessionId hcounts
      obtain ⟨hstands, hunspent⟩ := hsound.stands sessionId old hold
      obtain ⟨_, oldUses, -, holdUses⟩ := hstands.clean
      have hle := hentry old oldUses hold holdUses
      rw [holdUses, Number.le_int, decide_eq_false_iff_not] at hunspent
      simp only [if_true]
      omega

/-- A returned key has its licence. -/
theorem StoreRun.Sound.licensed_step (hsound : run.Sound maxAgeHours maxUses) {store' : SessionStore} {now : ℚ}
    {sessionId key : Bytes} {incrementUsage : Bool} {clock₁ clock₂ : ℚ}
    (heffect : Effect run.store (.load sessionId incrementUsage clock₁ clock₂, .key (some key)) store' now) :
    Licensed maxAgeHours maxUses run.history sessionId key incrementUsage clock₁ clock₂ := by
  obtain ⟨old, hold, hkey, hvalid₁, hvalid₂⟩ := heffect.returned sessionId incrementUsage clock₁ clock₂ key rfl
  obtain ⟨⟨key', created, before, after, rfl, hhistory, hafter⟩, hunspent⟩ := hsound.stands sessionId old hold
  cases hkey
  refine ⟨created, before, after, hhistory, hafter, ?_, fun hincrement ↦ ?_, ?_⟩
  · simp only [SessionStore.valid, Number.le_float, Bool.and_eq_true, decide_eq_true_eq,
      hsound.maxAgeHours_eq] at hvalid₁
    linarith [hvalid₁.1]
  · have hvalid := hvalid₂ hincrement
    simp only [SessionStore.valid, Number.le_float, Bool.and_eq_true, decide_eq_true_eq,
      hsound.maxAgeHours_eq] at hvalid
    linarith [hvalid.1]
  · rw [Number.le_int, decide_eq_false_iff_not, not_le] at hunspent
    exact hunspent

/-- **Step lemma.** -/
theorem StoreRun.Sound.step (hpositive : 0 < maxUses) (hsound : run.Sound maxAgeHours maxUses)
    {call : StoreCall} (hstep : run.step call = some run') : run'.Sound maxAgeHours maxUses := by
  simp only [StoreRun.step, Option.bind_eq_bind, Option.bind_eq_some_iff, Option.guard_eq_some', Option.pure_def,
    Option.some.injEq, exists_const] at hstep
  obtain ⟨hchain, rfl⟩ := hstep
  have heffect := perform_effect hsound.clean hsound.agrees (hsound.maxUses_eq ▸ hpositive) call hchain
  constructor
  · exact heffect.maxAgeHours_eq.trans hsound.maxAgeHours_eq
  · exact heffect.maxUses_eq.trans hsound.maxUses_eq
  · exact heffect.clean
  · exact heffect.agrees
  · exact fun sessionId entry hentry ↦ (heffect.entry sessionId entry hentry).stands hsound hpositive
  · intro sessionId before after hsplit hafter
    rcases append_singleton_split hsplit with ⟨rfl, -⟩ | ⟨rest, rfl, hpast⟩
    · refine ⟨fun entry uses hentry huses ↦ ?_, by simpa using hpositive.le⟩
      obtain ⟨⟨key, created, _, later, rfl, -, -⟩, -⟩ :=
        (heffect.entry sessionId entry hentry).stands hsound hpositive
      rw [← Number.int.inj huses]
      simp
    · exact hsound.counted_step heffect hpast hafter
  · intro sessionId before middle after hsplit hmiddle
    rcases append_singleton_split hsplit with ⟨-, hsplit⟩ | ⟨rest, -, hpast⟩
    · rcases append_singleton_split hsplit.symm with ⟨rfl, -⟩ | ⟨rest, rfl, hpast⟩
      · simpa using hpositive.le
      · exact (hsound.counted_step heffect hpast hmiddle).2
    · exact hsound.limited sessionId before middle rest hpast hmiddle
  · intro past sessionId incrementUsage clock₁ clock₂ key after hsplit
    rcases append_singleton_split hsplit with ⟨habsurd, -⟩ | ⟨rest, hafter, hpast⟩
    · cases habsurd
    · cases rest with
      | nil =>
        rw [List.nil_append, List.cons.injEq] at hafter
        rw [List.append_nil] at hpast
        rw [← hafter.1] at heffect
        exact hpast ▸ hsound.licensed_step heffect
      | cons first rest =>
        rw [List.cons_append, List.cons.injEq] at hafter
        rw [← hafter.1] at hpast
        exact hsound.licensed past sessionId incrementUsage clock₁ clock₂ key rest hpast

end Invariant

/-- The limits of the session store, over every run of operations on a new file: a key that `load` returns was
saved for its session, not deleted since, is no older than the maximum age and had fewer than the permitted uses
counted; between two saves of a session no more than the permitted uses are counted; and reopening the file at any
time gives a store that has the same entries then and from then on. -/
theorem session_store_limits (maxAgeHours : ℚ) (maxUses : ℤ) (hpositive : 0 < maxUses) (opened : ℚ)
    (calls : List StoreCall) (state : StoreRun)
    (hrun : run StoreRun.step (StoreRun.start maxAgeHours maxUses opened) calls = some state) :
    (∀ past sessionId incrementUsage clock₁ clock₂ key after,
      state.history = past ++ (.load sessionId incrementUsage clock₁ clock₂, .key (some key)) :: after →
        Licensed maxAgeHours maxUses past sessionId key incrementUsage clock₁ clock₂) ∧
    (∀ sessionId before middle after, state.history = before ++ middle ++ after →
      (∀ event ∈ middle, saves sessionId event = false) →
        (middle.countP (counts sessionId) : ℤ) ≤ maxUses) ∧
    ∀ clock, state.now ≤ clock → ∀ clocks, ∃ reopened,
      SessionStore.init state.store.file maxAgeHours maxUses clock clocks = .ok reopened ∧
        ∀ later, clock ≤ later →
          (reopened.expireInvalid later).sessions = (state.store.expireInvalid later).sessions ∧
            (reopened.listIds later).1 = (state.store.listIds later).1 := by
  have hsound : state.Sound maxAgeHours maxUses :=
    run_invariant (fun _ _ _ h hstep ↦ h.step hpositive hstep) (StoreRun.Sound.start hpositive opened) hrun
  refine ⟨hsound.licensed, hsound.limited, fun clock hclock clocks ↦ ?_⟩
  have hpositive' : 0 < state.store.maxUses := hsound.maxUses_eq ▸ hpositive
  obtain ⟨reopened, hinit, hsessions, -, hclean, hvalid, -⟩ :=
    (hsound.agrees.mono hclock).reopened hsound.clean hpositive' clocks
  rw [hsound.maxAgeHours_eq, hsound.maxUses_eq] at hinit
  refine ⟨reopened, hinit, fun later hlater ↦ ?_⟩
  have hsame : (reopened.expireInvalid later).sessions = (state.store.expireInvalid later).sessions := by
    rw [SessionStore.sessions_expireInvalid hclean, SessionStore.sessions_expireInvalid hsound.clean, hsessions,
      hvalid, SessionStore.filter_expireInvalid hsound.clean hlater]
  refine ⟨hsame, ?_⟩
  simp only [SessionStore.listIds, hsame]

/-- A session of two uses, loaded three times; the store is reopened in between. -/
def exhaustingCalls : List StoreCall :=
  let sid := List.replicate 16 7
  [.save sid [1, 2] 0, .load sid true 1 1, .reopen 2 fun _ ↦ 2, .load sid true 3 3, .load sid true 4 4]

/-- Two of these loads return the key, with their licences, and the store reopens with the same entries. -/
theorem session_store_limits_exhausted : ∃ state,
    run StoreRun.step (StoreRun.start 24 2 0) exhaustingCalls = some state ∧
      state.history.map (counts (List.replicate 16 7)) = [false, true, false, true, false] ∧
      (∀ past sessionId incrementUsage clock₁ clock₂ key after,
        state.history = past ++ (.load sessionId incrementUsage clock₁ clock₂, .key (some key)) :: after →
          Licensed 24 2 past sessionId key incrementUsage clock₁ clock₂) ∧
      ∃ reopened, SessionStore.init state.store.file 24 2 5 (fun _ ↦ 5) = .ok reopened ∧
        (reopened.listIds 6).1 = (state.store.listIds 6).1 := by
  have hrun : ((run StoreRun.step (StoreRun.start 24 2 0) exhaustingCalls).any fun state ↦
      state.now ≤ 5 ∧ state.history.map (counts (List.replicate 16 7)) = [false, true, false, true, false]) := by
    decide +kernel
  obtain ⟨state, hstate, hcheck⟩ := (Option.any_eq_true _ _).mp hrun
  obtain ⟨hnow, hcounts⟩ := of_decide_eq_true hcheck
  obtain ⟨hlicensed, -, hreopens⟩ := session_store_limits 24 2 (by decide) 0 _ state hstate
  obtain ⟨reopened, hinit, hsame⟩ := hreopens 5 hnow fun _ ↦ 5
  exact ⟨state, hstate, hcounts, hlicensed, reopened, hinit, (hsame 6 (by norm_num)).2⟩

end PqBleHandshake.StradaA
