import Mathlib.Data.List.Nodup
import Mathlib.Tactic

/-!
# Insertion-ordered dictionaries

A dictionary is a list of entries without a repeated key, as Python keeps one: assigning to a key that is there
leaves its place, a new key goes to the end.  Everything is read off `get?`, except that filtering and the order
of the entries are also equations between dictionaries.
-/

namespace PqBleHandshake.Foundation

/-- A dictionary. -/
@[ext]
structure Dict (κ ν : Type) where
  entries : List (κ × ν)
  nodup : (entries.map Prod.fst).Nodup
deriving DecidableEq

namespace Dict

variable {κ ν : Type}

/-- The dictionary without entries. -/
def empty : Dict κ ν := ⟨[], List.nodup_nil⟩

/-- The entries whose value meets a condition, in order. -/
def filter (dict : Dict κ ν) (keep : ν → Bool) : Dict κ ν where
  entries := dict.entries.filter fun entry ↦ keep entry.2
  nodup := dict.nodup.sublist (List.filter_sublist.map _)

theorem filter_filter (dict : Dict κ ν) (first second : ν → Bool) :
    (dict.filter first).filter second = dict.filter fun value ↦ first value && second value := by
  apply Dict.ext
  simp only [filter, List.filter_filter, Bool.and_comm]

theorem filter_congr {dict : Dict κ ν} {first second : ν → Bool}
    (h : ∀ entry ∈ dict.entries, first entry.2 = second entry.2) : dict.filter first = dict.filter second :=
  Dict.ext (List.filter_congr fun entry hmem ↦ h entry hmem)

theorem mem_filter {dict : Dict κ ν} {keep : ν → Bool} {entry : κ × ν} :
    entry ∈ (dict.filter keep).entries ↔ entry ∈ dict.entries ∧ keep entry.2 = true :=
  List.mem_filter

variable [DecidableEq κ]

/-- `dict.get(key)` -/
def get? (dict : Dict κ ν) (key : κ) : Option ν :=
  (dict.entries.find? fun entry ↦ entry.1 = key).map Prod.snd

/-- Assignment in a list of entries. -/
def assign : List (κ × ν) → κ → ν → List (κ × ν)
  | [], key, value => [(key, value)]
  | entry :: rest, key, value =>
    if entry.1 = key then (key, value) :: rest else entry :: assign rest key value

theorem keys_assign (entries : List (κ × ν)) (key : κ) (value : ν) :
    (assign entries key value).map Prod.fst =
      if key ∈ entries.map Prod.fst then entries.map Prod.fst else entries.map Prod.fst ++ [key] := by
  induction entries with
  | nil => rfl
  | cons entry rest ih =>
    by_cases h : entry.1 = key
    · simp [assign, h]
    · rw [assign, if_neg h, List.map_cons, ih]
      split_ifs with hrest hall hall
      · rfl
      · exact absurd (List.mem_cons_of_mem _ hrest) hall
      · exact absurd ((List.mem_cons.mp hall).resolve_left fun heq ↦ h heq.symm) hrest
      · rfl

/-- `dict[key] = value` -/
def set (dict : Dict κ ν) (key : κ) (value : ν) : Dict κ ν where
  entries := assign dict.entries key value
  nodup := by
    rw [keys_assign]
    split_ifs with h
    · exact dict.nodup
    · exact List.nodup_append.mpr ⟨dict.nodup, List.nodup_singleton _, fun _ hmem _ hlast heq ↦
        h (List.mem_singleton.mp hlast ▸ heq ▸ hmem)⟩

/-- `dict.pop(key, None)` -/
def erase (dict : Dict κ ν) (key : κ) : Dict κ ν where
  entries := dict.entries.filter fun entry ↦ entry.1 ≠ key
  nodup := dict.nodup.sublist (List.filter_sublist.map _)

/-- The dictionary of a list of pairs, where a later pair wins. -/
def ofList (pairs : List (κ × ν)) : Dict κ ν :=
  pairs.foldl (fun dict pair ↦ dict.set pair.1 pair.2) empty

variable {dict : Dict κ ν} {key key' : κ} {value : ν}

@[simp]
theorem get?_empty : (empty : Dict κ ν).get? key = none := rfl

theorem mem_iff_get? : (key, value) ∈ dict.entries ↔ dict.get? key = some value := by
  unfold get?
  constructor
  · intro hmem
    cases hfind : dict.entries.find? fun entry ↦ entry.1 = key with
    | none => simpa using List.find?_eq_none.mp hfind _ hmem
    | some entry =>
      have hkey : entry.1 = key := by simpa using List.find?_some hfind
      have heq := List.inj_on_of_nodup_map dict.nodup (List.mem_of_find?_eq_some hfind) hmem hkey
      rw [heq]
      rfl
  · intro h
    obtain ⟨entry, hfind, rfl⟩ := Option.map_eq_some_iff.mp h
    have hkey : entry.1 = key := by simpa using List.find?_some hfind
    rw [← hkey]
    exact List.mem_of_find?_eq_some hfind

theorem get?_eq_none_iff : dict.get? key = none ↔ key ∉ dict.entries.map Prod.fst := by
  unfold get?
  simp only [Option.map_eq_none_iff, List.find?_eq_none, decide_eq_true_eq, List.mem_map, not_exists, not_and]

theorem get?_set (dict : Dict κ ν) (key key' : κ) (value : ν) :
    (dict.set key value).get? key' = if key = key' then some value else dict.get? key' := by
  unfold get? set
  dsimp only
  induction dict.entries with
  | nil => by_cases h : key = key' <;> simp [assign, h]
  | cons entry rest ih =>
    by_cases hentry : entry.1 = key
    · by_cases h : key = key' <;> simp [assign, hentry, h]
    · by_cases h : entry.1 = key'
      · have hne : key ≠ key' := fun heq ↦ hentry (h.trans heq.symm)
        rw [assign, if_neg hentry]
        simp [h, hne]
      · simpa [assign, hentry, h] using ih

theorem get?_erase (dict : Dict κ ν) (key key' : κ) :
    (dict.erase key).get? key' = if key = key' then none else dict.get? key' := by
  split_ifs with h
  · rw [get?_eq_none_iff, erase, h]
    simp
  · unfold get? erase
    rw [List.find?_filter]
    congr 2
    funext entry
    by_cases hentry : entry.1 = key'
    · simp [hentry, Ne.symm h]
    · simp [hentry]

theorem get?_filter (dict : Dict κ ν) (keep : ν → Bool) (key : κ) :
    (dict.filter keep).get? key = (dict.get? key).filter keep := by
  ext value
  rw [← mem_iff_get?, mem_filter, mem_iff_get?, Option.filter_eq_some_iff]

theorem mem_set {entry : κ × ν} (h : entry ∈ (dict.set key value).entries) :
    entry = (key, value) ∨ entry ∈ dict.entries := by
  rw [mem_iff_get?, get?_set] at h
  split_ifs at h with hkey
  · exact .inl (Prod.ext hkey.symm (Option.some.inj h).symm)
  · exact .inr (mem_iff_get?.mpr h)

theorem entries_set_of_get?_none (h : dict.get? key = none) :
    (dict.set key value).entries = dict.entries ++ [(key, value)] := by
  rw [get?_eq_none_iff] at h
  unfold set
  dsimp only
  generalize dict.entries = entries at h
  induction entries with
  | nil => rfl
  | cons entry rest ih =>
    rw [List.map_cons, List.mem_cons, not_or] at h
    rw [assign, if_neg (Ne.symm h.1), ih h.2]
    rfl

/-- A list of pairs without a repeated key is its own dictionary. -/
theorem ofList_entries (dict : Dict κ ν) : ofList dict.entries = dict := by
  have hstep : ∀ (rest : List (κ × ν)) (start : Dict κ ν),
      ((start.entries ++ rest).map Prod.fst).Nodup →
        (rest.foldl (fun dict pair ↦ dict.set pair.1 pair.2) start).entries = start.entries ++ rest := by
    intro rest
    induction rest with
    | nil => intro start _; simp
    | cons pair rest ih =>
      intro start hnodup
      have hfresh : start.get? pair.1 = none := by
        rw [get?_eq_none_iff]
        intro hmem
        rw [List.map_append, List.nodup_append] at hnodup
        exact hnodup.2.2 _ hmem _ (List.mem_map_of_mem List.mem_cons_self) rfl
      have hentries : (start.set pair.1 pair.2).entries = start.entries ++ [pair] :=
        entries_set_of_get?_none hfresh
      rw [List.foldl_cons, ih _ (by rw [hentries]; simpa using hnodup), hentries, List.append_assoc]
      rfl
  exact Dict.ext (by simpa [ofList, empty] using hstep dict.entries empty (by simpa [empty] using dict.nodup))

end Dict

end PqBleHandshake.Foundation
