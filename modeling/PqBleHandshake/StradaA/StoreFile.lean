import PqBleHandshake.StradaA.SessionStore

/-!
# Damaged store files

What `SessionStore` makes of any file.  Only a file that cannot be read or parsed is passed over; every item of a
parsed file is converted, so that one item of another shape stops the constructor.
-/

namespace PqBleHandshake.StradaA

open Foundation

/-- A field of a JSON object. -/
def Json.field? (value : Json) (name : String) : Option Json :=
  match value with
  | .object pairs => (Dict.ofList pairs).get? name.toList
  | _ => none

/-- The items of a parsed file. -/
def StoreFile.items : StoreFile → List (Str × Json)
  | .value (.object pairs) => (Dict.ofList pairs).entries
  | _ => []

/-- A well-formed entry of a file: a hexadecimal key, a number as the time and an integer as the use count, of which
the last two may be left out. -/
structure WellFormed (value : Json) (clock : ℚ) (entry : SessionEntry) : Prop where
  session_key : ∃ text, value.field? "session_key" = some (.string text) ∧ fromHex text = some entry.sessionKey
  created_at : value.field? "created_at" = none ∧ entry.createdAt = .float clock ∨
    value.field? "created_at" = some (.number entry.createdAt) ∧ ∀ flag, entry.createdAt ≠ .bool flag
  usage_count : value.field? "usage_count" = none ∧ entry.usageCount = .int 0 ∨
    value.field? "usage_count" = some (.number entry.usageCount) ∧ ∃ uses, entry.usageCount = .int uses

/-- An entry within the age and use limits. -/
def Within (maxUses : ℤ) (cutoff : ℚ) (entry : SessionEntry) : Prop :=
  (Number.float cutoff).le entry.createdAt = true ∧ entry.usageCount.lt (.int maxUses) = true

/-- An item that the loop of `_load_from_disk` gets past without taking a malformed entry. -/
structure Passable (wellNamed : Str → Prop) (maxUses : ℤ) (cutoff clock : ℚ) (name : Str) (value : Json) : Prop where
  session_key : ∃ text bytes, value.field? "session_key" = some (.string text) ∧ fromHex text = some bytes
  fields : ∃ created, (value.field? "created_at").getD (.number (.float clock)) = .number created ∧
    ((Number.float cutoff).le created = true →
      ∃ uses, (value.field? "usage_count").getD (.number (.int 0)) = .number uses ∧
        (uses.lt (.int maxUses) = true →
          wellNamed name ∧ (∀ flag, created ≠ .bool flag) ∧ ∃ count, uses = .int count))

/-- A file that the constructor takes as it should: none, one that it passes over, or an object of passable
items. -/
def Tolerated (wellNamed : Str → Prop) (maxUses : ℤ) (cutoff : ℚ) (clocks : Str → ℚ) : StoreFile → Prop
  | .missing => True
  | .unreadable => True
  | .raises => False
  | .value (.object pairs) => ∀ item ∈ (Dict.ofList pairs).entries,
      Passable wellNamed maxUses cutoff (clocks item.1) item.1 item.2
  | .value _ => False

section Items

variable {value : Json} {clock cutoff : ℚ} {maxUses : ℤ} {raw : RawEntry} {entry : SessionEntry}

theorem bytes_eq_ok_iff {json : Json} {bytes : Bytes} :
    json.bytes = .ok bytes ↔ ∃ text, json = .string text ∧ fromHex text = some bytes := by
  cases json <;> simp [Json.bytes]

theorem operand_eq_ok_iff {json : Json} {number : Number} : json.operand = .ok number ↔ json = .number number := by
  cases json <;> simp [Json.operand]

theorem fromDict_eq_ok_iff : fromDict value clock = .ok raw ↔
    (∃ text, value.field? "session_key" = some (.string text) ∧ fromHex text = some raw.sessionKey) ∧
      raw.createdAt = (value.field? "created_at").getD (.number (.float clock)) ∧
        raw.usageCount = (value.field? "usage_count").getD (.number (.int 0)) := by
  cases value with
  | object pairs =>
    simp only [fromDict, Json.field?, except_bind_eq_ok_iff, orFail_eq_ok_iff, bytes_eq_ok_iff]
    constructor
    · rintro ⟨_, htext, bytes, ⟨text, rfl, hbytes⟩, hresult⟩
      cases hresult
      exact ⟨⟨text, htext, hbytes⟩, rfl, rfl⟩
    · rintro ⟨⟨text, htext, hbytes⟩, hcreated, huses⟩
      refine ⟨_, htext, raw.sessionKey, ⟨text, rfl, hbytes⟩, ?_⟩
      rw [← hcreated, ← huses]
      rfl
  | _ => simp [fromDict, Json.field?]

/-- When the loop gets past an item, and with what. -/
theorem readItem_eq_ok_iff {admitted : Option SessionEntry} :
    SessionStore.readItem maxUses cutoff value clock = .ok admitted ↔
      ∃ raw created, fromDict value clock = .ok raw ∧ raw.createdAt = .number created ∧
        ((Number.float cutoff).le created = false ∧ admitted = none ∨
          (Number.float cutoff).le created = true ∧ ∃ uses, raw.usageCount = .number uses ∧
            admitted = if uses.lt (.int maxUses) then some ⟨raw.sessionKey, created, uses⟩ else none) := by
  simp only [SessionStore.readItem, except_bind_eq_ok_iff, operand_eq_ok_iff]
  constructor
  · rintro ⟨raw, hraw, created, hcreated, h⟩
    refine ⟨raw, created, hraw, hcreated, ?_⟩
    split_ifs at h with hyoung
    · rw [except_bind_eq_ok_iff] at h
      obtain ⟨uses, huses, hresult⟩ := h
      exact .inr ⟨hyoung, uses, operand_eq_ok_iff.mp huses, (Except.ok.inj hresult).symm⟩
    · exact .inl ⟨by simpa using hyoung, (Except.ok.inj h).symm⟩
  · rintro ⟨raw, created, hraw, hcreated, ⟨hold, rfl⟩ | ⟨hyoung, uses, huses, rfl⟩⟩
    · refine ⟨raw, hraw, created, hcreated, ?_⟩
      rw [if_neg (by simp [hold])]
      rfl
    · refine ⟨raw, hraw, created, hcreated, ?_⟩
      rw [if_pos hyoung, except_bind_eq_ok_iff]
      exact ⟨uses, operand_eq_ok_iff.mpr huses, rfl⟩

/-- Taking an item leaves the other names alone. -/
theorem get?_admitted {start : Dict Str SessionEntry} {first name : Str} (admitted : Option SessionEntry)
    (hne : name ≠ first) :
    (match admitted with
      | some entry => start.set first entry
      | none => start).get? name = start.get? name := by
  cases admitted with
  | none => rfl
  | some taken => exact (Dict.get?_set _ _ _ _).trans (if_neg hne.symm)

/-- **Spec lemma.**  The loop ends exactly when it gets past every item, and then it has taken what it admitted. -/
theorem loadItems_eq_ok_iff (maxUses : ℤ) (cutoff : ℚ) (clocks : Str → ℚ) {items : List (Str × Json)}
    {start : Dict Str SessionEntry} (hnodup : (items.map Prod.fst).Nodup) (hfresh : ∀ item ∈ items, start.get? item.1 = none) :
    ((∃ loaded, SessionStore.loadItems maxUses cutoff clocks items start = .ok loaded) ↔
      ∀ item ∈ items, ∃ admitted, SessionStore.readItem maxUses cutoff item.2 (clocks item.1) = .ok admitted) ∧
    ∀ loaded, SessionStore.loadItems maxUses cutoff clocks items start = .ok loaded → ∀ name entry,
      loaded.get? name = some entry ↔ start.get? name = some entry ∨ ∃ value, (name, value) ∈ items ∧
        SessionStore.readItem maxUses cutoff value (clocks name) = .ok (some entry) := by
  induction items generalizing start with
  | nil =>
    refine ⟨⟨fun _ ↦ by rintro _ ⟨⟩, fun _ ↦ ⟨start, rfl⟩⟩, fun loaded hloaded name entry ↦ ?_⟩
    cases hloaded
    simp
  | cons item rest ih =>
    obtain ⟨first, value⟩ := item
    obtain ⟨hnotMem, hnodup⟩ := List.nodup_cons.mp hnodup
    obtain ⟨hitem, hrest⟩ := List.forall_mem_cons.mp hfresh
    have hother : ∀ other ∈ rest, other.1 ≠ first := fun other hmem heq ↦
      hnotMem (heq ▸ (List.mem_map_of_mem hmem : other.1 ∈ rest.map Prod.fst))
    rw [SessionStore.loadItems]
    cases hread : SessionStore.readItem maxUses cutoff value (clocks first) with
    | error error =>
      refine ⟨iff_of_false (by rintro ⟨_, ⟨⟩⟩) fun h ↦ ?_, by rintro _ ⟨⟩⟩
      obtain ⟨admitted, hok⟩ := h (first, value) List.mem_cons_self
      exact absurd (hread.symm.trans hok) (by rintro ⟨⟩)
    | ok admitted =>
      obtain ⟨hiff, hloaded⟩ := ih hnodup fun other hmem ↦
        (get?_admitted admitted (hother other hmem)).trans (hrest other hmem)
      refine ⟨?_, fun loaded hresult name entry ↦ ?_⟩
      · rw [List.forall_mem_cons]
        exact hiff.trans ⟨fun h ↦ ⟨⟨admitted, hread⟩, h⟩, fun h ↦ h.2⟩
      · rw [hloaded loaded hresult name entry]
        by_cases hname : name = first
        · subst hname
          have hnone : ∀ value', (name, value') ∉ rest := fun value' hmem ↦ hother _ hmem rfl
          simp only [List.mem_cons, hnone, or_false, false_and, exists_false, Prod.mk.injEq, true_and,
            exists_eq_left, hread, Except.ok.injEq]
          cases admitted with
          | none => simp [hitem]
          | some taken => simp [Dict.get?_set, hitem]
        · have hmem : ∀ value', (name, value') ∈ (first, value) :: rest ↔ (name, value') ∈ rest := fun value' ↦ by
            rw [List.mem_cons]
            exact or_iff_right fun heq ↦ hname (congrArg Prod.fst heq)
          simp only [get?_admitted admitted hname, hmem]

/-- A number in a field that may be left out. -/
theorem getD_eq_number_iff {field : Option Json} {default number : Number} :
    field.getD (.number default) = .number number ↔
      field = none ∧ number = default ∨ field = some (.number number) := by
  cases field with
  | none => simp [eq_comm]
  | some json => simp

theorem wellFormed_iff : WellFormed value clock entry ↔
    (∃ text, value.field? "session_key" = some (.string text) ∧ fromHex text = some entry.sessionKey) ∧
      ((value.field? "created_at").getD (.number (.float clock)) = .number entry.createdAt ∧
        ∀ flag, entry.createdAt ≠ .bool flag) ∧
      (value.field? "usage_count").getD (.number (.int 0)) = .number entry.usageCount ∧
        ∃ uses, entry.usageCount = .int uses := by
  rw [getD_eq_number_iff, getD_eq_number_iff]
  constructor
  · rintro ⟨hkey, hcreated, huses⟩
    refine ⟨hkey, ?_, ?_⟩
    · rcases hcreated with ⟨hnone, heq⟩ | ⟨hsome, hnot⟩
      · exact ⟨.inl ⟨hnone, heq⟩, fun flag ↦ by rw [heq]; exact nofun⟩
      · exact ⟨.inr hsome, hnot⟩
    · rcases huses with ⟨hnone, heq⟩ | ⟨hsome, hint⟩
      · exact ⟨.inl ⟨hnone, heq⟩, 0, heq⟩
      · exact ⟨.inr hsome, hint⟩
  · rintro ⟨hkey, ⟨hcreated, hnot⟩, huses, hint⟩
    exact ⟨hkey, hcreated.imp_right fun hsome ↦ ⟨hsome, hnot⟩, huses.imp_right fun hsome ↦ ⟨hsome, hint⟩⟩

/-- An item whose entry is within the limits is admitted when it is well-formed. -/
theorem readItem_of_wellFormed (h : WellFormed value clock entry) (hwithin : Within maxUses cutoff entry) :
    SessionStore.readItem maxUses cutoff value clock = .ok (some entry) := by
  obtain ⟨hkey, ⟨hcreated, -⟩, huses, -⟩ := wellFormed_iff.mp h
  rw [readItem_eq_ok_iff]
  refine ⟨⟨entry.sessionKey, _, _⟩, entry.createdAt, fromDict_eq_ok_iff.mpr ⟨hkey, rfl, rfl⟩, hcreated,
    .inr ⟨hwithin.1, entry.usageCount, huses, ?_⟩⟩
  rw [if_pos hwithin.2]

/-- An admitted entry is within the limits, with the fields of its item. -/
theorem readItem_eq_some {entry : SessionEntry}
    (h : SessionStore.readItem maxUses cutoff value clock = .ok (some entry)) :
    (∃ text, value.field? "session_key" = some (.string text) ∧ fromHex text = some entry.sessionKey) ∧
      (value.field? "created_at").getD (.number (.float clock)) = .number entry.createdAt ∧
        (value.field? "usage_count").getD (.number (.int 0)) = .number entry.usageCount ∧
          Within maxUses cutoff entry := by
  obtain ⟨raw, created, hraw, hcreated, ⟨-, habsurd⟩ | ⟨hyoung, uses, huses, hentry⟩⟩ := readItem_eq_ok_iff.mp h
  · cases habsurd
  · obtain ⟨hkey, hrawCreated, hrawUses⟩ := fromDict_eq_ok_iff.mp hraw
    split_ifs at hentry with hunspent
    cases Option.some.inj hentry
    exact ⟨hkey, hrawCreated.symm.trans hcreated, hrawUses.symm.trans huses, hyoung, hunspent⟩

/-- A passable item is one that the loop gets past, and what it admits is well-formed. -/
theorem passable_iff {wellNamed : Str → Prop} {name : Str} :
    Passable wellNamed maxUses cutoff clock name value ↔
      (∃ admitted, SessionStore.readItem maxUses cutoff value clock = .ok admitted) ∧
        ∀ entry, SessionStore.readItem maxUses cutoff value clock = .ok (some entry) →
          wellNamed name ∧ WellFormed value clock entry := by
  constructor
  · rintro ⟨⟨text, bytes, htext, hbytes⟩, created, hcreated, hfields⟩
    constructor
    · have hraw : fromDict value clock = .ok ⟨bytes, _, _⟩ :=
        fromDict_eq_ok_iff.mpr ⟨⟨text, htext, hbytes⟩, rfl, rfl⟩
      cases hyoung : (Number.float cutoff).le created with
      | false => exact ⟨none, readItem_eq_ok_iff.mpr ⟨_, created, hraw, hcreated, .inl ⟨hyoung, rfl⟩⟩⟩
      | true =>
        obtain ⟨uses, huses, -⟩ := hfields hyoung
        exact ⟨_, readItem_eq_ok_iff.mpr ⟨_, created, hraw, hcreated, .inr ⟨hyoung, uses, huses, rfl⟩⟩⟩
    · intro entry hread
      obtain ⟨hkey, hcreated', huses', hyoung, hunspent⟩ := readItem_eq_some hread
      cases Json.number.inj (hcreated.symm.trans hcreated')
      obtain ⟨uses, huses, hwell⟩ := hfields hyoung
      cases Json.number.inj (huses.symm.trans huses')
      obtain ⟨hname, hnot, hint⟩ := hwell hunspent
      exact ⟨hname, wellFormed_iff.mpr ⟨hkey, ⟨hcreated', hnot⟩, huses', hint⟩⟩
  · rintro ⟨⟨admitted, hread⟩, hwell⟩
    obtain ⟨raw, created, hraw, hcreated, hrest⟩ := readItem_eq_ok_iff.mp hread
    obtain ⟨⟨text, htext, hbytes⟩, hrawCreated, hrawUses⟩ := fromDict_eq_ok_iff.mp hraw
    refine ⟨⟨text, raw.sessionKey, htext, hbytes⟩, created, hrawCreated.symm.trans hcreated, fun hyoung ↦ ?_⟩
    rcases hrest with ⟨hold, -⟩ | ⟨-, uses, huses, -⟩
    · exact absurd (hold.symm.trans hyoung) Bool.false_ne_true
    · refine ⟨uses, hrawUses.symm.trans huses, fun hunspent ↦ ?_⟩
      have hentry : SessionStore.readItem maxUses cutoff value clock = .ok (some ⟨raw.sessionKey, created, uses⟩) :=
        readItem_eq_ok_iff.mpr ⟨raw, created, hraw, hcreated, .inr ⟨hyoung, uses, huses, by rw [if_pos hunspent]⟩⟩
      obtain ⟨hname, hformed⟩ := hwell _ hentry
      obtain ⟨-, ⟨-, hnot⟩, -, hint⟩ := wellFormed_iff.mp hformed
      exact ⟨hname, hnot, hint⟩

end Items

/-! ## The constructor -/

/-- Constructing the store does not raise, and its sessions are exactly the well-formed and well-named entries of
the file that are within the limits. -/
def LoadsExactly (wellNamed : Str → Prop) (file : StoreFile) (maxAgeHours : ℚ) (maxUses : ℤ) (clock : ℚ)
    (clocks : Str → ℚ) : Prop :=
  ∃ store, SessionStore.init file maxAgeHours maxUses clock clocks = .ok store ∧
    ∀ name entry, store.sessions.get? name = some entry ↔ wellNamed name ∧
      (∃ value, (name, value) ∈ file.items ∧ WellFormed value (clocks name) entry) ∧
        Within maxUses (clock - maxAgeHours * 3600) entry

section Files

variable {wellNamed : Str → Prop} {file : StoreFile} {maxAgeHours clock : ℚ} {maxUses : ℤ} {clocks : Str → ℚ}

theorem init_eq_ok_iff (hpositive : 0 < maxUses) {store : SessionStore} :
    SessionStore.init file maxAgeHours maxUses clock clocks = .ok store ↔ ∃ sessions,
      SessionStore.loadFromDisk maxAgeHours maxUses file clock clocks = .ok sessions ∧
        store = ⟨maxAgeHours, maxUses, sessions, file⟩ := by
  rw [SessionStore.init, require_bind_of hpositive, except_bind_eq_ok_iff]
  refine exists_congr fun sessions ↦ and_congr_right fun _ ↦ ⟨fun h ↦ (Except.ok.inj h).symm, ?_⟩
  rintro rfl
  rfl

/-- A file that is passed over has no entries, and none are loaded. -/
theorem loadsExactly_of_empty (hpositive : 0 < maxUses) (hitems : file.items = [])
    (hload : SessionStore.loadFromDisk maxAgeHours maxUses file clock clocks = .ok .empty) :
    LoadsExactly wellNamed file maxAgeHours maxUses clock clocks := by
  refine ⟨_, (init_eq_ok_iff hpositive).mpr ⟨_, hload, rfl⟩, fun name entry ↦ ?_⟩
  rw [hitems]
  simp

theorem not_loadsExactly_of_error (hpositive : 0 < maxUses) {error : StoreError}
    (hload : SessionStore.loadFromDisk maxAgeHours maxUses file clock clocks = .error error) :
    ¬LoadsExactly wellNamed file maxAgeHours maxUses clock clocks := by
  rintro ⟨store, hinit, -⟩
  obtain ⟨sessions, hsessions, -⟩ := (init_eq_ok_iff hpositive).mp hinit
  rw [hload] at hsessions
  cases hsessions

/-- A parsed object loads as it should exactly when its items are passable. -/
theorem loadsExactly_object_iff (hpositive : 0 < maxUses) (pairs : List (Str × Json)) :
    LoadsExactly wellNamed (.value (.object pairs)) maxAgeHours maxUses clock clocks ↔
      ∀ item ∈ (Dict.ofList pairs).entries,
        Passable wellNamed maxUses (clock - maxAgeHours * 3600) (clocks item.1) item.1 item.2 := by
  obtain ⟨hends, htaken⟩ := loadItems_eq_ok_iff maxUses (clock - maxAgeHours * 3600) clocks
    (Dict.ofList pairs).nodup fun item _ ↦ (Dict.get?_empty : Dict.empty.get? item.1 = none)
  have hunique : ∀ {name value value'}, (name, value) ∈ (Dict.ofList pairs).entries →
      (name, value') ∈ (Dict.ofList pairs).entries → value = value' := fun h h' ↦
    Option.some.inj ((Dict.mem_iff_get?.mp h).symm.trans (Dict.mem_iff_get?.mp h'))
  simp only [Dict.get?_empty, reduceCtorEq, false_or] at htaken
  constructor
  · rintro ⟨store, hinit, hexact⟩ ⟨name, value⟩ hmem
    obtain ⟨sessions, hsessions, rfl⟩ := (init_eq_ok_iff hpositive).mp hinit
    refine passable_iff.mpr ⟨hends.mp ⟨sessions, hsessions⟩ (name, value) hmem, fun entry hread ↦ ?_⟩
    obtain ⟨hname, ⟨value', hmem', hformed⟩, -⟩ :=
      (hexact name entry).mp ((htaken sessions hsessions name entry).mpr ⟨value, hmem, hread⟩)
    rw [hunique hmem hmem']
    exact ⟨hname, hformed⟩
  · intro hpassable
    obtain ⟨sessions, hsessions⟩ := hends.mpr fun item hmem ↦ (passable_iff.mp (hpassable item hmem)).1
    refine ⟨_, (init_eq_ok_iff hpositive).mpr ⟨sessions, hsessions, rfl⟩, fun name entry ↦ ?_⟩
    change sessions.get? name = some entry ↔ _
    rw [htaken sessions hsessions name entry]
    constructor
    · rintro ⟨value, hmem, hread⟩
      obtain ⟨hname, hformed⟩ := (passable_iff.mp (hpassable (name, value) hmem)).2 entry hread
      exact ⟨hname, ⟨value, hmem, hformed⟩, (readItem_eq_some hread).2.2.2⟩
    · rintro ⟨-, ⟨value, hmem, hformed⟩, hwithin⟩
      exact ⟨value, hmem, readItem_of_wellFormed hformed hwithin⟩

end Files

/-- The constructor takes a file as it should exactly when there is none, it passes over it, or it is an object whose
items are all passable, whatever a well-formed session id is. -/
theorem damaged_store_file (wellNamed : Str → Prop) (file : StoreFile) (maxAgeHours : ℚ) (maxUses : ℤ)
    (hpositive : 0 < maxUses) (clock : ℚ) (clocks : Str → ℚ) :
    LoadsExactly wellNamed file maxAgeHours maxUses clock clocks ↔
      Tolerated wellNamed maxUses (clock - maxAgeHours * 3600) clocks file := by
  cases file with
  | missing => exact iff_of_true (loadsExactly_of_empty hpositive rfl rfl) trivial
  | unreadable => exact iff_of_true (loadsExactly_of_empty hpositive rfl rfl) trivial
  | raises => exact iff_of_false (not_loadsExactly_of_error hpositive rfl) id
  | value json =>
    cases json with
    | object pairs => exact loadsExactly_object_iff hpositive pairs
    | _ => exact iff_of_false (not_loadsExactly_of_error hpositive rfl) id

/-- The file of one entry that the store wrote. -/
theorem damaged_store_file_written :
    LoadsExactly (fun _ ↦ True) (.value (.object [("07".toList, SessionEntry.toDict ⟨[1], .float 0, .int 0⟩)])) 24 100
        0 (fun _ ↦ 0) ↔
      Tolerated (fun _ ↦ True) 100 (0 - 24 * 3600) (fun _ ↦ 0)
        (.value (.object [("07".toList, SessionEntry.toDict ⟨[1], .float 0, .int 0⟩)])) :=
  damaged_store_file (fun _ ↦ True) _ 24 100 (by decide) 0 fun _ ↦ 0

/-- A file that holds a JSON list stops the constructor. -/
theorem list_file_raises :
    SessionStore.init (.value (.array [])) 24 100 0 (fun _ ↦ 0) = .error .attributeError ∧
      ¬LoadsExactly (fun _ ↦ True) (.value (.array [])) 24 100 0 fun _ ↦ 0 :=
  ⟨rfl, not_loadsExactly_of_error (by decide) rfl⟩

end PqBleHandshake.StradaA
