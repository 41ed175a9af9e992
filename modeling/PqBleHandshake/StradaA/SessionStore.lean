import PqBleHandshake.Foundation.Bytes
import PqBleHandshake.Foundation.Dict
import PqBleHandshake.Foundation.Transition

/-!
# The session store

`session_store.py`: a dictionary from hexadecimal session ids to entries, written to one JSON file after every
change.  A clock reading is a rational, and every call of `time.time()` is an argument of its own.  The file is
what opening it and `json.load` make of it, so that a damaged file is a case of `StoreFile`; a JSON value is the
Python value that the parser returns, where the later of two equal keys wins.
-/

namespace PqBleHandshake.StradaA

open Foundation

/-- A Python string. -/
abbrev Str := List Char

/-! ## Numbers and JSON values -/

/-- A Python number as JSON gives it: a Boolean is an integer, and a float may be infinite or no number. -/
inductive Number
  | bool (value : Bool)
  | int (value : ℤ)
  | float (value : ℚ)
  | infinity (negative : Bool)
  | nan
deriving DecidableEq

namespace Number

/-- The place of a number among all numbers; `nan` has none. -/
def position? : Number → Option (ℤ × ℚ)
  | .bool value => some (0, if value then 1 else 0)
  | .int value => some (0, value)
  | .float value => some (0, value)
  | .infinity negative => some (if negative then -1 else 1, 0)
  | .nan => none

/-- `<` -/
def lt (x y : Number) : Bool :=
  match x.position?, y.position? with
  | some (xs, xv), some (ys, yv) => xs < ys || xs = ys && xv < yv
  | _, _ => false

/-- `<=` -/
def le (x y : Number) : Bool :=
  match x.position?, y.position? with
  | some (xs, xv), some (ys, yv) => xs < ys || xs = ys && xv ≤ yv
  | _, _ => false

/-- `+= 1` -/
def succ : Number → Number
  | .bool value => .int (if value then 2 else 1)
  | .int value => .int (value + 1)
  | .float value => .float (value + 1)
  | number => number

@[simp]
theorem lt_float (x y : ℚ) : (Number.float x).lt (.float y) = decide (x < y) := by
  simp [lt, position?]

@[simp]
theorem le_float (x y : ℚ) : (Number.float x).le (.float y) = decide (x ≤ y) := by
  simp [le, position?]

@[simp]
theorem lt_int (x y : ℤ) : (Number.int x).lt (.int y) = decide (x < y) := by
  simp [lt, position?]

@[simp]
theorem le_int (x y : ℤ) : (Number.int x).le (.int y) = decide (x ≤ y) := by
  simp [le, position?]

end Number

/-- What `json.load` returns. -/
inductive Json
  | null
  | number (value : Number)
  | string (text : Str)
  | array (items : List Json)
  | object (pairs : List (Str × Json))

/-! ## Hexadecimal text -/

/-- The digit of a value below sixteen. -/
def hexDigit (value : ℕ) : Char := "0123456789abcdef".toList.getD value '0'

/-- `bytes.hex` -/
def hex (bytes : Bytes) : Str :=
  bytes.flatMap fun byte ↦ [hexDigit (byte.toNat / 16), hexDigit (byte.toNat % 16)]

/-- The value of a digit, upper or lower case. -/
def digitValue? (digit : Char) : Option ℕ :=
  if '0' ≤ digit ∧ digit ≤ '9' then some (digit.toNat - '0'.toNat)
  else if 'a' ≤ digit ∧ digit ≤ 'f' then some (digit.toNat - 'a'.toNat + 10)
  else if 'A' ≤ digit ∧ digit ≤ 'F' then some (digit.toNat - 'A'.toNat + 10)
  else none

/-- The white space that `bytes.fromhex` skips. -/
def isSpace (char : Char) : Bool := char = ' ' || ('\t' ≤ char && char ≤ '\r')

/-- `bytes.fromhex`: white space may stand between the bytes, not inside one. -/
def fromHex : Str → Option Bytes
  | [] => some []
  | [last] => if isSpace last then some [] else none
  | first :: second :: rest =>
    if isSpace first then fromHex (second :: rest)
    else do
      let high ← digitValue? first
      let low ← digitValue? second
      let bytes ← fromHex rest
      return UInt8.ofNat (high * 16 + low) :: bytes

theorem digitValue?_hexDigit : ∀ value < 16, digitValue? (hexDigit value) = some value := by
  decide

theorem isSpace_hexDigit : ∀ value < 16, isSpace (hexDigit value) = false := by
  decide

/-- Hexadecimal text is read back. -/
@[simp]
theorem fromHex_hex (bytes : Bytes) : fromHex (hex bytes) = some bytes := by
  induction bytes with
  | nil => rfl
  | cons byte rest ih =>
    have hhigh : byte.toNat / 16 < 16 := by
      have := byte.toNat_lt
      omega
    have hlow : byte.toNat % 16 < 16 := Nat.mod_lt _ (by decide)
    change fromHex (hexDigit (byte.toNat / 16) :: hexDigit (byte.toNat % 16) :: hex rest) = some (byte :: rest)
    rw [fromHex, if_neg (by simp [isSpace_hexDigit _ hhigh]), digitValue?_hexDigit _ hhigh,
      digitValue?_hexDigit _ hlow, ih]
    have hbyte : byte.toNat / 16 * 16 + byte.toNat % 16 = byte.toNat := by omega
    change some (UInt8.ofNat (byte.toNat / 16 * 16 + byte.toNat % 16) :: rest) = some (byte :: rest)
    rw [hbyte, UInt8.ofNat_toNat]

theorem hex_injective : Function.Injective hex := fun x y h ↦ by
  have := congrArg fromHex h
  rwa [fromHex_hex, fromHex_hex, Option.some.injEq] at this

@[simp]
theorem hex_inj {x y : Bytes} : hex x = hex y ↔ x = y := hex_injective.eq_iff

/-! ## Entries -/

/-- `SESSION_ID_SIZE` -/
def sessionIdSize : ℕ := 16

/-- The exceptions of the store: those of reading it, and `save` and `__init__` on a bad argument. -/
inductive StoreError
  | typeError
  | keyError
  | attributeError
  | valueError
  | other
deriving DecidableEq

/-- `SessionEntry` -/
structure SessionEntry where
  sessionKey : Bytes
  createdAt : Number
  usageCount : Number
deriving DecidableEq

/-- `to_dict` -/
def SessionEntry.toDict (entry : SessionEntry) : Json :=
  .object [("session_key".toList, .string (hex entry.sessionKey)), ("created_at".toList, .number entry.createdAt),
    ("usage_count".toList, .number entry.usageCount)]

/-- What `from_dict` returns: the types of the last two fields are not checked. -/
structure RawEntry where
  sessionKey : Bytes
  createdAt : Json
  usageCount : Json

/-- `bytes.fromhex` of a JSON value. -/
def Json.bytes : Json → Except StoreError Bytes
  | .string text => orFail .valueError (fromHex text)
  | _ => .error .typeError

/-- An operand of `<` and `>=` next to a number. -/
def Json.operand : Json → Except StoreError Number
  | .number value => .ok value
  | _ => .error .typeError

/-- `from_dict`; `clock` is its reading of the time. -/
def fromDict (value : Json) (clock : ℚ) : Except StoreError RawEntry :=
  match value with
  | .object pairs => do
    let fields := Dict.ofList pairs
    let text ← orFail .keyError (fields.get? "session_key".toList)
    let sessionKey ← text.bytes
    return { sessionKey
             createdAt := (fields.get? "created_at".toList).getD (.number (.float clock))
             usageCount := (fields.get? "usage_count".toList).getD (.number (.int 0)) }
  | _ => .error .typeError

/-! ## The store -/

/-- What opening the file at the path and `json.load` come to: `unreadable` is a `JSONDecodeError` or an `IOError`,
`raises` any other exception. -/
inductive StoreFile
  | missing
  | unreadable
  | raises
  | value (json : Json)

/-- `SessionStore`, with the file at its path. -/
structure SessionStore where
  maxAgeHours : ℚ
  maxUses : ℤ
  sessions : Dict Str SessionEntry
  file : StoreFile

/-- The text of `_persist`. -/
def dumped (sessions : Dict Str SessionEntry) : StoreFile :=
  .value (.object (sessions.entries.map fun entry ↦ (entry.1, entry.2.toDict)))

namespace SessionStore

/-- `_persist` -/
def persist (store : SessionStore) : SessionStore := { store with file := dumped store.sessions }

/-- The common end of the two expiries: keep some entries, count the others, and write if there are any. -/
def retain (store : SessionStore) (keep : SessionEntry → Bool) : ℕ × SessionStore :=
  let kept := store.sessions.filter keep
  let removed := store.sessions.entries.length - kept.entries.length
  let retained := { store with sessions := kept }
  (removed, if removed = 0 then retained else retained.persist)

/-- `expire_older_than` -/
def expireOlderThan (store : SessionStore) (maxAgeHours : Option ℚ) (clock : ℚ) : ℕ × SessionStore :=
  let threshold := match maxAgeHours with
    | some hours => if hours = 0 then store.maxAgeHours else hours
    | none => store.maxAgeHours
  let cutoff := Number.float (clock - threshold * 3600)
  store.retain fun entry ↦ !entry.createdAt.lt cutoff

/-- `expire_exhausted` -/
def expireExhausted (store : SessionStore) : ℕ × SessionStore :=
  store.retain fun entry ↦ !(Number.int store.maxUses).le entry.usageCount

/-- `_expire_invalid` -/
def expireInvalid (store : SessionStore) (clock : ℚ) : SessionStore :=
  (store.expireOlderThan (some store.maxAgeHours) clock).2.expireExhausted.2

/-- The loop of `_load_from_disk` over one item. -/
def readItem (maxUses : ℤ) (cutoff : ℚ) (value : Json) (clock : ℚ) : Except StoreError (Option SessionEntry) := do
  let entry ← fromDict value clock
  let createdAt ← entry.createdAt.operand
  if (Number.float cutoff).le createdAt then do
    let usageCount ← entry.usageCount.operand
    return if usageCount.lt (.int maxUses) then some ⟨entry.sessionKey, createdAt, usageCount⟩ else none
  else return none

/-- The loop of `_load_from_disk`; `clocks` are the readings of `from_dict`. -/
def loadItems (maxUses : ℤ) (cutoff : ℚ) (clocks : Str → ℚ) :
    List (Str × Json) → Dict Str SessionEntry → Except StoreError (Dict Str SessionEntry)
  | [], sessions => .ok sessions
  | item :: rest, sessions => do
    let admitted ← readItem maxUses cutoff item.2 (clocks item.1)
    loadItems maxUses cutoff clocks rest (match admitted with
      | some entry => sessions.set item.1 entry
      | none => sessions)

/-- `_load_from_disk` -/
def loadFromDisk (maxAgeHours : ℚ) (maxUses : ℤ) (file : StoreFile) (clock : ℚ) (clocks : Str → ℚ) :
    Except StoreError (Dict Str SessionEntry) :=
  match file with
  | .missing => .ok .empty
  | .unreadable => .ok .empty
  | .raises => .error .other
  | .value (.object pairs) =>
    loadItems maxUses (clock - maxAgeHours * 3600) clocks (Dict.ofList pairs).entries .empty
  | .value _ => .error .attributeError

/-- `__init__` -/
def init (file : StoreFile) (maxAgeHours : ℚ) (maxUses : ℤ) (clock : ℚ) (clocks : Str → ℚ) :
    Except StoreError SessionStore := do
  require (0 < maxUses) .valueError
  let sessions ← loadFromDisk maxAgeHours maxUses file clock clocks
  return { maxAgeHours, maxUses, sessions, file }

/-- `save` -/
def save (store : SessionStore) (sessionId sessionKey : Bytes) (clock : ℚ) : Except StoreError Unit × SessionStore :=
  if sessionId.length ≠ sessionIdSize then (.error .valueError, store)
  else
    let entry : SessionEntry := ⟨sessionKey, .float clock, .int 0⟩
    (.ok (), { store with sessions := store.sessions.set (hex sessionId) entry }.persist)

/-- `mark_used` -/
def markUsed (store : SessionStore) (sessionId : Bytes) (clock : ℚ) : Bool × SessionStore :=
  let store := store.expireInvalid clock
  match store.sessions.get? (hex sessionId) with
  | none => (false, store)
  | some entry =>
    let entry := { entry with usageCount := entry.usageCount.succ }
    let sessions :=
      if (Number.int store.maxUses).le entry.usageCount then store.sessions.erase (hex sessionId)
      else store.sessions.set (hex sessionId) entry
    (true, { store with sessions }.persist)

/-- `load`; the second clock is the one of `mark_used`. -/
def load (store : SessionStore) (sessionId : Bytes) (incrementUsage : Bool) (clock₁ clock₂ : ℚ) :
    Option Bytes × SessionStore :=
  let store := store.expireInvalid clock₁
  match store.sessions.get? (hex sessionId) with
  | none => (none, store)
  | some entry =>
    if incrementUsage then
      let (used, store) := store.markUsed sessionId clock₂
      (if used then some entry.sessionKey else none, store)
    else (some entry.sessionKey, store)

/-- `delete` -/
def delete (store : SessionStore) (sessionId : Bytes) : SessionStore :=
  { store with sessions := store.sessions.erase (hex sessionId) }.persist

/-- `has` -/
def has (store : SessionStore) (sessionId : Bytes) (clock : ℚ) : Bool × SessionStore :=
  let store := store.expireInvalid clock
  ((store.sessions.get? (hex sessionId)).isSome, store)

/-- `list_ids` -/
def listIds (store : SessionStore) (clock : ℚ) : List (Str × Number × Number) × SessionStore :=
  let store := store.expireInvalid clock
  (store.sessions.entries.map fun entry ↦ (entry.1, entry.2.createdAt, entry.2.usageCount), store)

end SessionStore

end PqBleHandshake.StradaA
