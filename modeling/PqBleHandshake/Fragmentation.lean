import PqBleHandshake.Reassembly

/-!
# The fragments of the Central

`fragment_data` and `write_fragmented_ciphertext` against `write_ciphertext`.  The Central takes its fragment
size from the MTU; the firmware has eight slots, so a small MTU makes a transfer it refuses.
-/

namespace PqBleHandshake

open Foundation

namespace Python

/-- `BLE_MTU` -/
def bleMtu : ℕ := 512

/-- `HEADER_SIZE` -/
def headerSize : ℕ := 4

/-- `Fragment.encode`; `struct.pack` raises on a value that does not fit. -/
def encodeFragment (fragment : Fragment) : Option Bytes := do
  guard (fragment.idx < 256 ∧ fragment.total < 256 ∧ fragment.payload.length < 65536)
  return [UInt8.ofNat fragment.idx, UInt8.ofNat fragment.total] ++
    bigEndian 2 fragment.payload.length ++ fragment.payload

/-- The number of fragments of `fragment_data`. -/
def fragmentTotal (length maxPayload : ℕ) : ℕ :=
  if length = 0 then 1 else (length + maxPayload - 1) / maxPayload

/-- `data[start:end]` of `fragment_data`. -/
def chunk (data : Bytes) (maxPayload index : ℕ) : Bytes := (data.drop (index * maxPayload)).take maxPayload

/-- `fragment_data` -/
def fragmentData (data : Bytes) (mtu : ℕ) : Option (List Bytes) :=
  let maxPayload := mtu - headerSize
  let total := fragmentTotal data.length maxPayload
  (List.range total).mapM fun index ↦ encodeFragment ⟨index, total, chunk data maxPayload index⟩

/-- The `mtu` of `write_fragmented_ciphertext`. -/
def logicalMtu (negotiatedMtu : ℕ) : ℕ := if 23 < negotiatedMtu then min negotiatedMtu bleMtu else bleMtu

/-- The writes of `write_fragmented_ciphertext`. -/
def writeFragmentedCiphertext (data : Bytes) (negotiatedMtu : ℕ) : Option (List Bytes) :=
  fragmentData data (logicalMtu negotiatedMtu)

end Python

/-- The writes of one connection, without their history. -/
def Transfer.machine : Machine Transfer CiphertextWrite (Except AttError Unit) where
  step := writeBytes

/-- The transfer takes this write. -/
def Transfer.Takes (transfer : Transfer) (write : CiphertextWrite) : Prop :=
  (transfer.writeBytes write).1 = .ok ()

/-- A write request on a link that no other check refuses. -/
def CiphertextWrite.plain (data : Bytes) : CiphertextWrite := ⟨none, data, 0⟩

/-- The Central's fragments are taken one by one, and the transfer is ready with the ciphertext. -/
def Delivers (negotiatedMtu : ℕ) (ciphertext : Bytes) (transfer : Transfer) : Prop :=
  ∃ frames, Python.writeFragmentedCiphertext ciphertext negotiatedMtu = some frames ∧
    Transfer.machine.Along Transfer.Takes transfer (frames.map .plain) ∧
    (Transfer.machine.run transfer (frames.map .plain)).state = .ready ∧
    (Transfer.machine.run transfer (frames.map .plain)).ciphertext = ciphertext

/-! ## Fragments on the wire -/

section Wire

variable {fragment : Fragment} {data : Bytes} {maxPayload total : ℕ}

theorem mapM_eq_some_map {α β : Type} {f : α → Option β} {g : α → β} {values : List α}
    (h : ∀ value ∈ values, f value = some (g value)) : values.mapM f = some (values.map g) := by
  induction values with
  | nil => rfl
  | cons value rest ih =>
    rw [List.mapM_cons, h value List.mem_cons_self, ih fun other hmem ↦ h other (List.mem_cons_of_mem _ hmem)]
    rfl

/-- The bytes of a fragment. -/
def fragmentBytes (fragment : Fragment) : Bytes :=
  [UInt8.ofNat fragment.idx, UInt8.ofNat fragment.total] ++ bigEndian 2 fragment.payload.length ++
    fragment.payload

theorem encodeFragment_eq (hidx : fragment.idx < 256) (htotal : fragment.total < 256)
    (hpayload : fragment.payload.length < 65536) :
    Python.encodeFragment fragment = some (fragmentBytes fragment) := by
  simp [Python.encodeFragment, fragmentBytes, hidx, htotal, hpayload]

/-- The header of a fragment, as the firmware reads it. -/
theorem parseFragment_fragmentBytes (hidx : fragment.idx < 256) (htotal : fragment.total < 256)
    (hpayload : fragment.payload.length < 65536) {parsed : Fragment} :
    parseFragment (fragmentBytes fragment) 0 = .ok parsed ↔
      (fragment.total ≠ 0 ∧ fragment.total ≤ maxFragments ∧ fragment.idx < fragment.total) ∧
        (fragment.payload.length ≠ 0 ∧ fragment.payload.length ≤ maxFragPayload) ∧ parsed = fragment := by
  have hhigh : fragment.payload.length / 256 % 256 = fragment.payload.length / 256 :=
    Nat.mod_eq_of_lt (by omega)
  have hlength : fragment.payload.length / 256 * 256 + fragment.payload.length % 256 =
      fragment.payload.length := by
    omega
  have hbytes : fragmentBytes fragment = UInt8.ofNat fragment.idx :: UInt8.ofNat fragment.total ::
      UInt8.ofNat (fragment.payload.length / 256 % 256) ::
      UInt8.ofNat (fragment.payload.length % 256) :: fragment.payload := rfl
  simp only [parseFragment, hbytes, except_bind_eq_ok_iff, require_eq_ok_iff, exists_and_left, exists_const,
    List.getD_cons_zero, List.getD_cons_succ, List.length_cons, List.drop_succ_cons, List.drop_zero,
    UInt8.toNat_ofNat', Nat.mod_eq_of_lt hidx, Nat.mod_eq_of_lt htotal, Nat.mod_mod, hhigh, hlength]
  constructor
  · rintro ⟨-, -, htotals, ⟨hne, hle, -⟩, hresult⟩
    refine ⟨htotals, ⟨hne, hle⟩, ?_⟩
    rw [← Except.ok.inj hresult]
  · rintro ⟨htotals, ⟨hne, hle⟩, rfl⟩
    exact ⟨trivial, by omega, htotals, ⟨hne, hle, by omega⟩, rfl⟩

end Wire

/-! ## The chunks of a ciphertext -/

section Chunks

variable {data : Bytes} {maxPayload total count : ℕ}

/-- The first chunks are the beginning of the data. -/
theorem flatten_chunks (data : Bytes) (maxPayload count : ℕ) :
    ((List.range count).map (Python.chunk data maxPayload)).flatten = data.take (count * maxPayload) := by
  induction count with
  | zero => simp
  | succ count ih =>
    rw [List.range_succ, List.map_append, List.flatten_append, ih, Nat.succ_mul, List.take_add]
    simp [Python.chunk]

/-- The slots after the first fragments. -/
def filled (data : Bytes) (maxPayload count : ℕ) : List (Option Bytes) :=
  (List.range maxFragments).map fun index ↦
    if index < count then some (Python.chunk data maxPayload index) else none

theorem filled_zero : filled data maxPayload 0 = List.replicate maxFragments none := rfl

theorem filled_set (hcount : count < maxFragments) :
    (filled data maxPayload count).set count (some (Python.chunk data maxPayload count)) =
      filled data maxPayload (count + 1) := by
  apply List.ext_getElem
  · simp [filled]
  intro index hleft hright
  have hindex : index < maxFragments := by simpa [filled] using hright
  simp only [filled, List.getElem_set, List.getElem_map, List.getElem_range]
  split_ifs <;> first | rfl | omega | (subst_vars; rfl)

theorem getD_filled (hcount : count < maxFragments) : (filled data maxPayload count).getD count none = none := by
  simp [filled, hcount]

/-- What the firmware assembles from the slots. -/
theorem assembled_filled (hcount : count ≤ total) (htotal : total ≤ maxFragments) :
    (((filled data maxPayload count).take total).map fun slot ↦ slot.getD []).flatten =
      data.take (count * maxPayload) := by
  rw [filled, ← List.map_take, List.take_range, Nat.min_eq_left htotal, List.map_map, ← flatten_chunks]
  obtain ⟨rest, rfl⟩ := Nat.exists_eq_add_of_le hcount
  rw [List.range_add, List.map_append, List.flatten_append]
  have hfirst : (List.range count).map ((fun slot ↦ slot.getD []) ∘ fun index ↦
      if index < count then some (Python.chunk data maxPayload index) else none) =
      (List.range count).map (Python.chunk data maxPayload) := by
    refine List.map_congr_left fun index hindex ↦ ?_
    rw [Function.comp_apply, if_pos (List.mem_range.mp hindex)]
    rfl
  have hlast : ∀ chunk ∈ ((List.range rest).map (count + ·)).map ((fun slot ↦ slot.getD []) ∘ fun index ↦
      if index < count then some (Python.chunk data maxPayload index) else none), chunk = [] := by
    intro chunk hchunk
    obtain ⟨index, hindex, rfl⟩ := List.mem_map.mp hchunk
    obtain ⟨offset, -, rfl⟩ := List.mem_map.mp hindex
    rw [Function.comp_apply, if_neg (by omega)]
    rfl
  rw [hfirst, List.flatten_eq_nil_iff.mpr hlast, List.append_nil]

theorem all_filled (hcount : count ≤ total) (htotal : total ≤ maxFragments) :
    ((filled data maxPayload count).take total).all Option.isSome = decide (count = total) := by
  rw [filled, ← List.map_take, List.take_range, Nat.min_eq_left htotal, List.all_map]
  by_cases hfull : count = total
  · subst hfull
    rw [decide_eq_true rfl, List.all_eq_true]
    intro index hindex
    rw [Function.comp_apply, if_pos (List.mem_range.mp hindex)]
    rfl
  · rw [decide_eq_false hfull, List.all_eq_false]
    refine ⟨count, List.mem_range.mpr (by omega), ?_⟩
    rw [Function.comp_apply, if_neg (lt_irrefl count)]
    exact Bool.false_ne_true

end Chunks

/-! ## The transfer of a whole ciphertext -/

/-- The transfer after the first fragments of a ciphertext. -/
structure Filling (data : Bytes) (maxPayload total count : ℕ) (transfer : Transfer) : Prop where
  slots : transfer.slots = filled data maxPayload count
  counted : transfer.total = total
  receiving : count < total → transfer.state = .receiving
  ready : count = total → transfer.state = .ready ∧ transfer.ciphertext = data

section Transfers

variable {data : Bytes} {maxPayload total count : ℕ} {transfer : Transfer}

/-- The fragment at an index of the ciphertext. -/
def fragmentAt (data : Bytes) (maxPayload total index : ℕ) : Fragment :=
  ⟨index, total, Python.chunk data maxPayload index⟩

/-- The next fragment fills the next slot. -/
theorem storeFragment_filled (hdata : data.length = mlkemCiphertextSize) (htotal : total ≤ maxFragments)
    (hcover : data.length ≤ total * maxPayload) (hcount : count < total)
    (hslots : transfer.slots = filled data maxPayload count) (htransfer : transfer.total = total)
    (hstate : transfer.state = .receiving) :
    (transfer.storeFragment (fragmentAt data maxPayload total count)).1 = .ok () ∧
      Filling data maxPayload total (count + 1)
        (transfer.storeFragment (fragmentAt data maxPayload total count)).2 := by
  have hset : transfer.slots.set count (some (Python.chunk data maxPayload count)) =
      filled data maxPayload (count + 1) := by
    rw [hslots, filled_set (by omega)]
  have hassembled := @assembled_filled data maxPayload total (count + 1) hcount htotal
  have hall := @all_filled data maxPayload total (count + 1) hcount htotal
  have hlength : (data.take ((count + 1) * maxPayload)).length ≤ mlkemCiphertextSize := by
    rw [List.length_take, hdata]
    exact Nat.min_le_right _ _
  unfold Transfer.storeFragment fragmentAt
  simp only [hset, htransfer, hassembled, hall, not_lt.mpr hlength, if_false, decide_eq_true_eq]
  by_cases hlast : count + 1 = total
  · have hwhole : data.take ((count + 1) * maxPayload) = data := by
      rw [hlast]
      exact List.take_of_length_le hcover
    rw [if_pos hlast, hwhole, if_neg (not_not.mpr hdata)]
    exact ⟨rfl, rfl, rfl, fun hless ↦ absurd hlast (by omega), fun _ ↦ ⟨rfl, rfl⟩⟩
  · rw [if_neg hlast]
    exact ⟨rfl, rfl, rfl, fun _ ↦ hstate, fun hfull ↦ absurd hfull hlast⟩

/-- The firmware takes the next fragment. -/
theorem Filling.write (h : Filling data maxPayload total count transfer)
    (hdata : data.length = mlkemCiphertextSize) (htotal : total ≤ maxFragments)
    (hcover : data.length ≤ total * maxPayload) (hcount : count < total) :
    (transfer.write (fragmentAt data maxPayload total count)).1 = .ok () ∧
      Filling data maxPayload total (count + 1)
        (transfer.write (fragmentAt data maxPayload total count)).2 := by
  have hfree : transfer.slots.getD (fragmentAt data maxPayload total count).idx none = none := by
    rw [h.slots]
    exact getD_filled (by omega)
  have hwrite : transfer.write (fragmentAt data maxPayload total count) =
      transfer.storeFragment (fragmentAt data maxPayload total count) := by
    have hsame : (fragmentAt data maxPayload total count).total = transfer.total := h.counted.symm
    simp only [Transfer.write, h.receiving hcount, hsame, ne_eq, not_true_eq_false, if_false, hfree]
  rw [hwrite]
  exact storeFragment_filled hdata htotal hcover hcount h.slots h.counted (h.receiving hcount)

/-- Fragment zero starts a transfer on an idle link. -/
theorem filling_one (hidle : transfer.state = .empty ∨ transfer.state = .ready)
    (hdata : data.length = mlkemCiphertextSize) (htotal : total ≤ maxFragments)
    (hcover : data.length ≤ total * maxPayload) (hpositive : 0 < total) :
    (transfer.write (fragmentAt data maxPayload total 0)).1 = .ok () ∧
      Filling data maxPayload total 1 (transfer.write (fragmentAt data maxPayload total 0)).2 := by
  have hwrite : transfer.write (fragmentAt data maxPayload total 0) =
      (transfer.beginTransfer total).storeFragment (fragmentAt data maxPayload total 0) := by
    rcases hidle with hstate | hstate <;>
      simp only [Transfer.write, hstate, fragmentAt, ne_eq, not_true_eq_false, if_false]
  rw [hwrite]
  exact storeFragment_filled hdata htotal hcover hpositive filled_zero.symm rfl rfl

/-- The first fragments of a ciphertext, one after the other. -/
theorem filling_run (hidle : transfer.state = .empty ∨ transfer.state = .ready)
    (hdata : data.length = mlkemCiphertextSize) (htotal : total ≤ maxFragments)
    (hcover : data.length ≤ total * maxPayload) (hpositive : 0 < total)
    (hparse : ∀ index < total, parseFragment (fragmentBytes (fragmentAt data maxPayload total index)) 0 =
      .ok (fragmentAt data maxPayload total index)) (hcount : count < total) :
    let writes := ((List.range (count + 1)).map fun index ↦
      fragmentBytes (fragmentAt data maxPayload total index)).map CiphertextWrite.plain
    Transfer.machine.Along Transfer.Takes transfer writes ∧
      Filling data maxPayload total (count + 1) (Transfer.machine.run transfer writes) := by
  have hbytes : ∀ (transfer : Transfer) (index : ℕ), index < total →
      transfer.writeBytes (.plain (fragmentBytes (fragmentAt data maxPayload total index))) =
        transfer.write (fragmentAt data maxPayload total index) := by
    intro transfer index hindex
    simp only [Transfer.writeBytes, CiphertextWrite.plain, hparse index hindex]
  induction count with
  | zero =>
    obtain ⟨htaken, hfilling⟩ := @filling_one data maxPayload total transfer hidle hdata htotal hcover hpositive
    rw [← hbytes transfer 0 hpositive] at htaken hfilling
    exact ⟨⟨htaken, trivial⟩, hfilling⟩
  | succ count ih =>
    obtain ⟨halong, hfilling⟩ := ih (by omega)
    obtain ⟨htaken, hnext⟩ := hfilling.write hdata htotal hcover hcount
    rw [← hbytes _ (count + 1) hcount] at htaken hnext
    rw [List.range_succ, List.map_append, List.map_append]
    refine ⟨Transfer.machine.along_append.mpr ⟨halong, htaken, trivial⟩, ?_⟩
    rw [Transfer.machine.run_append]
    exact hnext

end Transfers

/-! ## Every MTU -/

section Mtu

variable {negotiatedMtu : ℕ} {data : Bytes} {transfer : Transfer}

theorem fragmentTotal_lt {mtu : ℕ} (hmtu : 24 ≤ mtu) : Python.fragmentTotal 1088 (mtu - 4) < 256 := by
  rw [Python.fragmentTotal, if_neg (by decide), Nat.div_lt_iff_lt_mul (by omega)]
  omega

/-- Every fragment of the Central can be packed. -/
theorem fragmentData_eq {mtu : ℕ} (hmtu : 24 ≤ mtu ∧ mtu ≤ 512) (hdata : data.length = 1088) :
    Python.fragmentData data mtu = some ((List.range (Python.fragmentTotal 1088 (mtu - 4))).map fun index ↦
      fragmentBytes (fragmentAt data (mtu - 4) (Python.fragmentTotal 1088 (mtu - 4)) index)) := by
  have htotal := fragmentTotal_lt hmtu.1
  unfold Python.fragmentData
  rw [hdata]
  refine mapM_eq_some_map fun index hindex ↦ encodeFragment_eq ?_ htotal ?_
  · exact lt_trans (List.mem_range.mp hindex) htotal
  · dsimp only [Python.chunk]
    rw [List.length_take, List.length_drop]
    omega

/-- Every chunk has at least one byte and at most the payload size. -/
theorem length_chunk {maxPayload total index : ℕ} (hpositive : 0 < maxPayload) (hdata : data.length = 1088)
    (hlast : (total - 1) * maxPayload < 1088) (hindex : index < total) :
    0 < (Python.chunk data maxPayload index).length ∧
      (Python.chunk data maxPayload index).length ≤ maxPayload := by
  have hstart : index * maxPayload ≤ (total - 1) * maxPayload := Nat.mul_le_mul_right _ (by omega)
  rw [Python.chunk, List.length_take, List.length_drop, hdata]
  omega

/-- The firmware has room for the fragments exactly from this payload on. -/
theorem fragmentTotal_le_iff {maxPayload : ℕ} (hpositive : 0 < maxPayload) :
    Python.fragmentTotal 1088 maxPayload ≤ maxFragments ↔ 136 ≤ maxPayload := by
  rw [Python.fragmentTotal, if_neg (by decide), maxFragments, ← Nat.lt_succ_iff,
    Nat.div_lt_iff_lt_mul hpositive]
  omega

theorem fragmentTotal_cover {maxPayload : ℕ} (hpositive : 0 < maxPayload) :
    1088 ≤ Python.fragmentTotal 1088 maxPayload * maxPayload ∧
      (Python.fragmentTotal 1088 maxPayload - 1) * maxPayload < 1088 := by
  rw [Python.fragmentTotal, if_neg (by decide)]
  have hdivision := Nat.div_add_mod (1088 + maxPayload - 1) maxPayload
  have hremainder := Nat.mod_lt (1088 + maxPayload - 1) hpositive
  have hquotient : 0 < (1088 + maxPayload - 1) / maxPayload := Nat.div_pos (by omega) hpositive
  generalize (1088 + maxPayload - 1) / maxPayload = total at hdivision hquotient ⊢
  obtain ⟨count, rfl⟩ := Nat.exists_eq_succ_of_ne_zero hquotient.ne'
  rw [Nat.succ_sub_one, Nat.succ_mul, mul_comm count]
  rw [Nat.mul_succ] at hdivision
  constructor <;> omega

/-- The logical frame of a negotiated MTU. -/
theorem logicalMtu_cases (hmtu : 23 ≤ negotiatedMtu) :
    (24 ≤ Python.logicalMtu negotiatedMtu ∧ Python.logicalMtu negotiatedMtu ≤ 512) ∧
      (140 ≤ Python.logicalMtu negotiatedMtu ↔ negotiatedMtu = 23 ∨ 140 ≤ negotiatedMtu) := by
  unfold Python.logicalMtu Python.bleMtu
  split_ifs <;> omega

/-- A transfer whose first fragment is taken has a slot for each of its fragments. -/
theorem fits_of_along {maxPayload total : ℕ} (hpositive : 0 < maxPayload) (hdata : data.length = 1088)
    (hlast : (total - 1) * maxPayload < 1088) (hbyte : total < 256) (htotal : 0 < total)
    (hpayload : maxPayload < 65536)
    (h : Transfer.machine.Along Transfer.Takes transfer (((List.range total).map fun index ↦
      fragmentBytes (fragmentAt data maxPayload total index)).map .plain)) : total ≤ maxFragments := by
  obtain ⟨rest, hrest⟩ : ∃ rest, List.range total = 0 :: rest := by
    obtain ⟨count, rfl⟩ := Nat.exists_eq_succ_of_ne_zero htotal.ne'
    exact ⟨_, List.range_succ_eq_map⟩
  rw [hrest] at h
  obtain ⟨htaken, -⟩ := h
  have hlength := length_chunk hpositive hdata hlast htotal
  unfold Transfer.Takes Transfer.writeBytes CiphertextWrite.plain at htaken
  dsimp only at htaken
  cases hparse : parseFragment (fragmentBytes (fragmentAt data maxPayload total 0)) 0 with
  | error error =>
    rw [hparse] at htaken
    exact nomatch htaken
  | ok parsed =>
    exact ((parseFragment_fragmentBytes (by exact Nat.zero_lt_succ _) hbyte
      (lt_of_le_of_lt hlength.2 hpayload)).mp hparse).1.2.1

/-- **Fragmentation.**  On an idle link the fragments of a ciphertext are taken one by one and leave it in a
ready transfer, exactly for the default MTU and for the MTUs from 140 on. -/
theorem fragmentation_interoperability (negotiatedMtu : ℕ) (hmin : 23 ≤ negotiatedMtu)
    (ciphertext : Block 1088) (transfer : Transfer)
    (hidle : transfer.state = .empty ∨ transfer.state = .ready) :
    Delivers negotiatedMtu ciphertext.bytes transfer ↔ negotiatedMtu = 23 ∨ 140 ≤ negotiatedMtu := by
  obtain ⟨hbounds, hlogical⟩ := logicalMtu_cases hmin
  rw [← hlogical]
  have hframes := fragmentData_eq hbounds ciphertext.length_bytes
  unfold Delivers Python.writeFragmentedCiphertext
  generalize Python.logicalMtu negotiatedMtu = mtu at hbounds hframes ⊢
  rw [hframes]
  have hpositive : 0 < mtu - 4 := by omega
  obtain ⟨hcover, hlast⟩ := fragmentTotal_cover hpositive
  have hroom := fragmentTotal_le_iff hpositive
  have hbyte := fragmentTotal_lt hbounds.1
  generalize Python.fragmentTotal 1088 (mtu - 4) = total at hcover hlast hroom hbyte ⊢
  have htotal : 0 < total := Nat.pos_of_ne_zero fun hzero ↦ by simp [hzero] at hcover
  constructor
  · rintro ⟨frames, hsame, halong, -, -⟩
    rw [← Option.some.inj hsame] at halong
    have := hroom.mp (fits_of_along hpositive ciphertext.length_bytes hlast hbyte htotal (by omega) halong)
    omega
  · intro hlarge
    have hfits : total ≤ maxFragments := hroom.mpr (by omega)
    have hparse : ∀ index < total,
        parseFragment (fragmentBytes (fragmentAt ciphertext.bytes (mtu - 4) total index)) 0 =
          .ok (fragmentAt ciphertext.bytes (mtu - 4) total index) := by
      intro index hindex
      have hlength := length_chunk hpositive ciphertext.length_bytes hlast hindex
      refine (parseFragment_fragmentBytes (lt_trans hindex hbyte) hbyte
        (lt_of_le_of_lt hlength.2 (by omega))).mpr ⟨⟨htotal.ne', hfits, hindex⟩, ⟨?_, ?_⟩, rfl⟩
      · exact hlength.1.ne'
      · exact hlength.2.trans (by rw [maxFragPayload]; omega)
    have hdata : ciphertext.bytes.length = mlkemCiphertextSize := ciphertext.length_bytes
    obtain ⟨count, rfl⟩ := Nat.exists_eq_succ_of_ne_zero htotal.ne'
    obtain ⟨halong, hfilling⟩ := filling_run hidle hdata hfits (by rw [hdata]; exact hcover) htotal hparse
      (Nat.lt_succ_self count)
    obtain ⟨hready, hwhole⟩ := hfilling.ready rfl
    exact ⟨_, rfl, halong, hready, hwhole⟩

end Mtu

/-- The largest MTU, on a new link. -/
theorem fragmentation_interoperability_largest :
    Delivers 517 (Block.zero 1088).bytes Transfer.zero :=
  (fragmentation_interoperability 517 (by decide) (Block.zero 1088) Transfer.zero (.inl rfl)).mpr (by decide)

/-- With an MTU of 100 the ciphertext makes twelve fragments, and the first one is refused. -/
theorem small_mtu_refused : ¬Delivers 100 (Block.zero 1088).bytes Transfer.zero := by
  rintro ⟨frames, hframes, halong, -, -⟩
  have hlogical : Python.logicalMtu 100 = 100 := by decide
  rw [Python.writeFragmentedCiphertext, hlogical, fragmentData_eq (by decide) (Block.zero 1088).length_bytes]
    at hframes
  rw [← Option.some.inj hframes] at halong
  exact absurd (fits_of_along (by decide) (Block.zero 1088).length_bytes (by decide) (by decide) (by decide)
    (by decide) halong) (by decide)

end PqBleHandshake
