import PqBleHandshake.CiphertextTransfer

/-!
# Reassembly over whole sequences of writes

The transfer under any sequence of ciphertext writes of one connection.  Beside it stands a history: the
fragments accepted since the last accepted fragment zero, which is what the assembled ciphertext is about.
-/

namespace PqBleHandshake

open Foundation

/-- A ciphertext write; `refusal` is the answer of the checks on the link and on the protocol states. -/
structure CiphertextWrite where
  refusal : Option AttError
  data : Bytes
  offset : ℕ
deriving DecidableEq

/-- `write_ciphertext` on the current connection. -/
def Transfer.writeBytes (transfer : Transfer) (write : CiphertextWrite) :
    Except AttError Unit × Transfer :=
  match write.refusal with
  | some error => (.error error, transfer)
  | none =>
    match parseFragment write.data write.offset with
    | .error error => (.error error, transfer)
    | .ok fragment => transfer.write fragment

/-- A transfer with the fragments accepted since the last accepted fragment zero. -/
structure Upload where
  transfer : Transfer
  accepted : List Fragment
deriving DecidableEq

namespace Upload

/-- What a new connection finds: `connected` resets the transfer unless a job holds it. -/
def opened (transfer : Transfer) : Upload where
  transfer := if transfer.state ≠ .cryptoBusy then transfer.reset else transfer
  accepted := []

/-- The history after a fragment was accepted. -/
def note (accepted : List Fragment) (fragment : Fragment) : List Fragment :=
  if fragment.idx = 0 then [fragment] else fragment :: accepted

/-- One write with its history. -/
def write (upload : Upload) (write : CiphertextWrite) : Except AttError Unit × Upload :=
  let (answer, transfer) := upload.transfer.writeBytes write
  (answer, {
    transfer
    accepted := match answer, parseFragment write.data write.offset with
      | .ok _, .ok fragment => note upload.accepted fragment
      | _, _ => upload.accepted })

/-- The writes of one connection. -/
def machine : Machine Upload CiphertextWrite (Except AttError Unit) where
  step := write

/-- The ciphertext is the payloads of the accepted fragments, one for each index below the total. -/
def Assembled (upload : Upload) : Prop :=
  ∃ payloads : List Bytes, payloads.length = upload.transfer.total ∧
    (∀ fragment ∈ upload.accepted, fragment.total = upload.transfer.total) ∧
    (∀ index payload, payloads[index]? = some payload ↔
      ∃ fragment ∈ upload.accepted, fragment.idx = index ∧ fragment.payload = payload) ∧
    upload.transfer.ciphertext = payloads.flatten ∧
    upload.transfer.ciphertext.length = mlkemCiphertextSize

end Upload

/-! ## The slots of a transfer -/

/-- The slots hold exactly the accepted fragments. -/
structure Holds (transfer : Transfer) (accepted : List Fragment) : Prop where
  size : transfer.slots.length = maxFragments
  total : transfer.total ≤ maxFragments
  slot : ∀ index payload, transfer.slots.getD index none = some payload ↔
    ∃ fragment ∈ accepted, fragment.idx = index ∧ fragment.payload = payload
  same : ∀ fragment ∈ accepted, fragment.total = transfer.total ∧ fragment.idx < fragment.total

section Slots

variable {transfer : Transfer} {accepted : List Fragment} {fragment : Fragment}

theorem holds_beginTransfer (h : fragment.total ≤ maxFragments) :
    Holds (transfer.beginTransfer fragment.total) [] := by
  refine ⟨List.length_replicate .., h, fun index payload ↦ ?_, by rintro _ ⟨⟩⟩
  have hempty : (transfer.beginTransfer fragment.total).slots.getD index none = none := by
    simp only [Transfer.beginTransfer, Transfer.clearStorage, List.getD_eq_getElem?_getD,
      List.getElem?_replicate]
    split <;> rfl
  rw [hempty]
  exact iff_of_false (by rintro ⟨⟩) fun hexists ↦ absurd hexists.choose_spec.1 List.not_mem_nil

/-- A fragment goes into a free slot. -/
theorem Holds.set (h : Holds transfer accepted)
    (hfree : transfer.slots.getD fragment.idx none = none) (htotal : fragment.total = transfer.total)
    (hidx : fragment.idx < fragment.total) :
    Holds { transfer with slots := transfer.slots.set fragment.idx (some fragment.payload) }
      (fragment :: accepted) := by
  have hsize := h.size
  have hroom : fragment.idx < transfer.slots.length := by
    have := h.total
    omega
  refine ⟨by rw [List.length_set, hsize], h.total, fun index payload ↦ ?_, ?_⟩
  · by_cases hindex : fragment.idx = index
    · subst hindex
      have hset : (transfer.slots.set fragment.idx (some fragment.payload)).getD fragment.idx none =
          some fragment.payload := by
        rw [List.getD_eq_getElem?_getD, List.getElem?_set_self hroom, Option.getD_some]
      rw [hset, Option.some.injEq]
      constructor
      · exact fun hpayload ↦ ⟨fragment, List.mem_cons_self, rfl, hpayload⟩
      · rintro ⟨other, hother, hsame, hpayload⟩
        rcases List.mem_cons.mp hother with rfl | hother
        · exact hpayload
        · have hheld := (h.slot fragment.idx payload).mpr ⟨other, hother, hsame, hpayload⟩
          exact nomatch hfree.symm.trans hheld
    · have hset : (transfer.slots.set fragment.idx (some fragment.payload)).getD index none =
          transfer.slots.getD index none := by
        rw [List.getD_eq_getElem?_getD, List.getElem?_set_ne hindex, List.getD_eq_getElem?_getD]
      rw [hset, h.slot index payload]
      constructor
      · exact fun ⟨other, hother, hrest⟩ ↦ ⟨other, List.mem_cons_of_mem _ hother, hrest⟩
      · rintro ⟨other, hother, hsame, hpayload⟩
        rcases List.mem_cons.mp hother with rfl | hother
        · exact absurd hsame hindex
        · exact ⟨other, hother, hsame, hpayload⟩
  · rintro other hother
    rcases List.mem_cons.mp hother with rfl | hother
    · exact ⟨htotal, hidx⟩
    · exact h.same other hother

/-- What becomes of a fragment that is stored. -/
theorem Transfer.storeFragment_cases (transfer : Transfer) (fragment : Fragment) :
    (∃ error, transfer.storeFragment fragment = (.error error, Transfer.zero)) ∨
      ∃ next, transfer.storeFragment fragment = (.ok (), next) ∧ next.total = transfer.total ∧
        next.slots = transfer.slots.set fragment.idx (some fragment.payload) ∧
        (next.state = transfer.state ∨ next.state = .ready ∧
          (next.slots.take next.total).all Option.isSome = true ∧
          next.ciphertext = ((next.slots.take next.total).map fun slot ↦ slot.getD []).flatten ∧
          next.ciphertext.length = mlkemCiphertextSize) := by
  unfold storeFragment
  dsimp only
  split_ifs with hlong hall hsize
  · exact .inl ⟨_, rfl⟩
  · exact .inl ⟨_, rfl⟩
  · exact .inr ⟨_, rfl, rfl, rfl, .inr ⟨rfl, hall, rfl, not_not.mp hsize⟩⟩
  · exact .inr ⟨_, rfl, rfl, rfl, .inl rfl⟩

/-- A parsed fragment has room in the slots. -/
theorem parseFragment_eq_ok {data : Bytes} {offset : ℕ} (h : parseFragment data offset = .ok fragment) :
    fragment.idx < fragment.total ∧ fragment.total ≤ maxFragments := by
  simp only [parseFragment, except_bind_eq_ok_iff, require_eq_ok_iff, exists_and_left, exists_const] at h
  obtain ⟨-, -, ⟨-, htotal, hidx⟩, -, hresult⟩ := h
  obtain rfl := Except.ok.inj hresult
  exact ⟨hidx, htotal⟩

end Slots

/-! ## Sequences of writes -/

/-- What holds between any two writes of a connection. -/
structure Upload.Sound (upload : Upload) : Prop where
  holds : upload.transfer.state = .receiving ∨ upload.transfer.state = .ready →
    Holds upload.transfer upload.accepted
  zero : upload.transfer.state = .receiving → (upload.transfer.slots.getD 0 none).isSome = true
  ready : upload.transfer.state = .ready →
    (upload.transfer.slots.take upload.transfer.total).all Option.isSome = true ∧
      upload.transfer.ciphertext =
        ((upload.transfer.slots.take upload.transfer.total).map fun slot ↦ slot.getD []).flatten ∧
      upload.transfer.ciphertext.length = mlkemCiphertextSize

section Sound

variable {transfer : Transfer} {accepted : List Fragment} {fragment : Fragment} {upload : Upload}

theorem sound_of_empty (h : transfer.state = .empty ∨ transfer.state = .cryptoBusy) :
    Upload.Sound ⟨transfer, accepted⟩ := by
  constructor <;> intro hstate <;> rcases h with h | h <;> rw [h] at hstate <;>
    exact absurd hstate nofun

theorem sound_opened (transfer : Transfer) : Upload.Sound (.opened transfer) := by
  unfold Upload.opened
  split_ifs with hbusy
  · exact sound_of_empty (.inl rfl)
  · exact sound_of_empty (.inr (not_not.mp hbusy))

/-- A stored fragment joins the history, or the transfer is given up. -/
theorem Holds.storeFragment (h : Holds transfer accepted) (hstate : transfer.state = .receiving)
    (hfree : transfer.slots.getD fragment.idx none = none) (htotal : fragment.total = transfer.total)
    (hidx : fragment.idx < fragment.total)
    (hzero : fragment.idx ≠ 0 → (transfer.slots.getD 0 none).isSome = true) :
    (∃ error, transfer.storeFragment fragment = (.error error, Transfer.zero)) ∨
      ∃ next, transfer.storeFragment fragment = (.ok (), next) ∧
        Upload.Sound ⟨next, fragment :: accepted⟩ := by
  obtain hfailed | ⟨next, hnext, hnextTotal, hslots, hready⟩ := transfer.storeFragment_cases fragment
  · exact .inl hfailed
  refine .inr ⟨next, hnext, fun _ ↦ ?_, fun _ ↦ ?_, fun hnextState ↦ ?_⟩
  · obtain ⟨hsize, hle, hslot, hsame⟩ := h.set hfree htotal hidx
    exact ⟨by rw [hslots]; exact hsize, by rw [hnextTotal]; exact hle, by rw [hslots]; exact hslot,
      by rw [hnextTotal]; exact hsame⟩
  · have hroom : fragment.idx < transfer.slots.length := by
      have := h.size
      have := h.total
      omega
    dsimp only
    rw [hslots, List.getD_eq_getElem?_getD]
    by_cases hindex : fragment.idx = 0
    · rw [hindex] at hroom ⊢
      rw [List.getElem?_set_self hroom]
      rfl
    · rw [List.getElem?_set_ne hindex, ← List.getD_eq_getElem?_getD]
      exact hzero hindex
  · obtain hsame | ⟨-, hall, hciphertext, hlength⟩ := hready
    · exact absurd (hsame.symm.trans hnextState) (by rw [hstate]; exact nofun)
    · exact ⟨hall, hciphertext, hlength⟩

/-- A fragment zero opens a transfer of its own. -/
theorem storeFragment_beginTransfer (hzero : fragment.idx = 0) (hidx : fragment.idx < fragment.total)
    (htotal : fragment.total ≤ maxFragments) :
    (∃ error, (transfer.beginTransfer fragment.total).storeFragment fragment =
        (.error error, Transfer.zero)) ∨
      ∃ next, (transfer.beginTransfer fragment.total).storeFragment fragment = (.ok (), next) ∧
        Upload.Sound ⟨next, [fragment]⟩ := by
  refine Holds.storeFragment (holds_beginTransfer htotal) rfl ?_ rfl hidx (absurd hzero)
  rw [hzero]
  rfl

/-- A write of a fragment keeps what it refuses, or gives the transfer up, or adds to the history. -/
theorem Upload.Sound.writeFragment (h : upload.Sound) (hidx : fragment.idx < fragment.total)
    (htotal : fragment.total ≤ maxFragments) :
    (∃ error next, upload.transfer.write fragment = (.error error, next) ∧
        (next = upload.transfer ∨ next = Transfer.zero)) ∨
      ∃ next, upload.transfer.write fragment = (.ok (), next) ∧
        Upload.Sound ⟨next, Upload.note upload.accepted fragment⟩ := by
  have hopens : ∀ {answer : Except AttError Unit × Transfer}, fragment.idx = 0 →
      (upload.transfer.beginTransfer fragment.total).storeFragment fragment = answer →
      (∃ error next, answer = (.error error, next) ∧ (next = upload.transfer ∨ next = Transfer.zero)) ∨
        ∃ next, answer = (.ok (), next) ∧
          Upload.Sound ⟨next, Upload.note upload.accepted fragment⟩ := by
    rintro answer hzero rfl
    rw [Upload.note, if_pos hzero]
    exact (@storeFragment_beginTransfer upload.transfer fragment hzero hidx htotal).imp
      (fun ⟨error, hfailed⟩ ↦ ⟨error, _, hfailed, .inr rfl⟩) id
  unfold Transfer.write
  cases hstate : upload.transfer.state with
  | cryptoBusy => exact .inl ⟨_, _, rfl, .inl rfl⟩
  | empty | ready =>
    dsimp only
    split_ifs with hzero
    · exact .inl ⟨_, _, rfl, .inl rfl⟩
    · exact hopens (not_not.mp hzero) rfl
  | receiving =>
    have hheld := h.holds (.inl hstate)
    dsimp only
    by_cases hmixed : fragment.total ≠ upload.transfer.total
    · rw [if_pos hmixed]
      refine .inl ⟨_, _, rfl, ?_⟩
      split_ifs
      · exact .inr rfl
      · exact .inl rfl
    rw [if_neg hmixed]
    cases hslot : upload.transfer.slots.getD fragment.idx none with
    | none =>
      have hne : fragment.idx ≠ 0 := by
        intro hzero
        have hfirst := h.zero hstate
        rw [← hzero, hslot] at hfirst
        exact Bool.noConfusion hfirst
      rw [Upload.note, if_neg hne]
      exact (hheld.storeFragment hstate hslot (not_not.mp hmixed) hidx fun _ ↦ h.zero hstate).imp
        (fun ⟨error, hfailed⟩ ↦ ⟨error, _, hfailed, .inr rfl⟩) id
    | some stored =>
      dsimp only
      split_ifs with hzero hsame
      · exact hopens hzero rfl
      · refine .inr ⟨_, rfl, ?_⟩
        rw [Upload.note, if_neg hzero]
        obtain ⟨other, hother, hotherIdx, hotherPayload⟩ := (hheld.slot _ _).mp hslot
        have hmember : fragment ∈ upload.accepted := by
          have hotherTotal := (hheld.same other hother).1
          have hequal : other = fragment := by
            cases other
            cases fragment
            simp_all
          exact hequal ▸ hother
        refine ⟨fun _ ↦ ⟨hheld.size, hheld.total, fun index payload ↦ ?_, ?_⟩, h.zero, h.ready⟩
        · rw [hheld.slot index payload]
          constructor
          · exact fun ⟨other, hother, hrest⟩ ↦ ⟨other, List.mem_cons_of_mem _ hother, hrest⟩
          · rintro ⟨other, hother, hrest⟩
            rcases List.mem_cons.mp hother with rfl | hother
            · exact ⟨other, hmember, hrest⟩
            · exact ⟨other, hother, hrest⟩
        · rintro other hother
          rcases List.mem_cons.mp hother with rfl | hother
          · exact hheld.same other hmember
          · exact hheld.same other hother
      · exact .inl ⟨_, _, rfl, .inl rfl⟩

/-- A refused write keeps the transfer or empties it. -/
theorem Upload.Sound.refused (h : upload.Sound) {write : CiphertextWrite} {error : AttError}
    (hrefused : (upload.transfer.writeBytes write).1 = .error error) :
    (upload.transfer.writeBytes write).2 = upload.transfer ∨
      (upload.transfer.writeBytes write).2 = Transfer.zero := by
  unfold Transfer.writeBytes at hrefused ⊢
  split
  · exact .inl rfl
  split
  · exact .inl rfl
  rename_i fragment hparse
  obtain ⟨hidx, htotal⟩ := parseFragment_eq_ok hparse
  simp only [*] at hrefused
  obtain ⟨error', next, hwrite, hnext⟩ | ⟨next, hwrite, -⟩ := h.writeFragment hidx htotal
  · rw [hwrite]
    exact hnext
  · rw [hwrite] at hrefused
    exact nomatch hrefused

/-- **Every write keeps the invariant.** -/
theorem Upload.Sound.write (h : upload.Sound) (write : CiphertextWrite) :
    (upload.write write).2.Sound := by
  unfold Upload.write Transfer.writeBytes
  cases write.refusal with
  | some error => exact h
  | none =>
    dsimp only
    cases hparse : parseFragment write.data write.offset with
    | error error => exact h
    | ok fragment =>
      obtain ⟨hidx, htotal⟩ := parseFragment_eq_ok hparse
      obtain ⟨error, next, hwrite, rfl | rfl⟩ | ⟨next, hwrite, hsound⟩ := h.writeFragment hidx htotal
      · simp only [hwrite]
        exact h
      · simp only [hwrite]
        exact sound_of_empty (.inl rfl)
      · simp only [hwrite]
        exact hsound

/-- A full transfer is the payloads of its history. -/
theorem Upload.Sound.assembled (h : upload.Sound) (hready : upload.transfer.state = .ready) :
    upload.Assembled := by
  obtain ⟨hall, hciphertext, hlength⟩ := h.ready hready
  obtain ⟨hsize, hle, hslot, hsame⟩ := h.holds (.inr hready)
  refine ⟨(upload.transfer.slots.take upload.transfer.total).map fun slot ↦ slot.getD [], ?_,
    fun fragment hmem ↦ (hsame fragment hmem).1, fun index payload ↦ ?_, hciphertext, hlength⟩
  · rw [List.length_map, List.length_take, hsize, Nat.min_eq_left hle]
  rw [← hslot index payload, List.getElem?_map, List.getD_eq_getElem?_getD]
  by_cases hindex : index < upload.transfer.total
  · have hroom : index < upload.transfer.slots.length := by omega
    have hsome : (upload.transfer.slots[index]).isSome = true := by
      refine List.all_eq_true.mp hall _ (List.mem_take_iff_getElem.mpr ⟨index, ?_, rfl⟩)
      omega
    obtain ⟨stored, hstored⟩ := Option.isSome_iff_exists.mp hsome
    rw [List.getElem?_take_of_lt hindex, List.getElem?_eq_getElem hroom, hstored]
    rfl
  · have hout : (upload.transfer.slots.take upload.transfer.total)[index]? = none :=
      List.getElem?_eq_none (by rw [List.length_take]; omega)
    rw [hout]
    refine iff_of_false nofun fun hheld ↦ ?_
    rw [← List.getD_eq_getElem?_getD] at hheld
    obtain ⟨fragment, hmem, hidx, -⟩ := (hslot index payload).mp hheld
    have := hsame fragment hmem
    omega

end Sound

/-- **Reassembly.**  Over every sequence of writes of a connection: a ready transfer holds the concatenated
payloads of the transfer that the last accepted fragment zero opened; an accepted fragment can be repeated;
and a refused write keeps the transfer or leaves it empty and zeroed. -/
theorem ciphertext_reassembly (transfer : Transfer) (writes : List CiphertextWrite) :
    let upload := Upload.machine.run (.opened transfer) writes
    (upload.transfer.state = .ready → upload.Assembled) ∧
      (∀ write fragment, upload.transfer.state = .receiving → write.refusal = none →
        parseFragment write.data write.offset = .ok fragment → fragment ∈ upload.accepted →
        fragment.idx ≠ 0 → upload.transfer.writeBytes write = (.ok (), upload.transfer)) ∧
      ∀ write error, (upload.transfer.writeBytes write).1 = .error error →
        (upload.transfer.writeBytes write).2 = upload.transfer ∨
          (upload.transfer.writeBytes write).2 = Transfer.zero := by
  intro upload
  have hsound : upload.Sound := Upload.machine.run_invariant
    (fun upload write h ↦ h.write write) (sound_opened transfer) writes
  refine ⟨hsound.assembled, ?_, fun write error ↦ hsound.refused⟩
  intro write fragment hstate hrefusal hparse hmember hne
  have hheld := hsound.holds (.inl hstate)
  have hslot := (hheld.slot fragment.idx fragment.payload).mpr ⟨fragment, hmember, rfl, rfl⟩
  have htotal := (hheld.same fragment hmember).1
  simp only [Transfer.writeBytes, hrefusal, hparse, Transfer.write, hstate, htotal, ne_eq,
    not_true_eq_false, if_false, hslot, hne, if_true]

end PqBleHandshake
