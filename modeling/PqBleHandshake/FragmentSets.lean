import PqBleHandshake.Fragmentation

/-!
# Reassembly in the Central

`Fragment.decode` and `reassemble_data`, the way back from `fragment_data`.  The fragments may come in any order.
The headers alone decide whether a set is taken: the spec lemma `reassembleData_eq_ok_iff` says what is checked,
and both results are read off it.
-/

namespace PqBleHandshake

open Foundation

namespace Python

/-- The `ValueError`s of a reassembly, with the values that their texts show. -/
inductive FragmentError
  | noFragments
  | tooShort (length : ℕ)
  | inconsistent (expected got : ℕ)
  | duplicate (indices : List ℕ)
  | missing (indices : List ℕ) (got total : ℕ)
deriving DecidableEq

/-- The index in a header. -/
def headerIndex (data : Bytes) : ℕ := (data.getD 0 0).toNat

/-- The number of fragments in a header. -/
def headerTotal (data : Bytes) : ℕ := (data.getD 1 0).toNat

/-- The payload length that a header declares. -/
def headerLength (data : Bytes) : ℕ := (data.getD 2 0).toNat * 256 + (data.getD 3 0).toNat

/-- The fragment that `Fragment.decode` returns. -/
def decoded (data : Bytes) : Fragment where
  idx := headerIndex data
  total := headerTotal data
  payload := (data.drop headerSize).take (headerLength data)

/-- `Fragment.decode` -/
def decodeFragment (data : Bytes) : Except FragmentError Fragment := do
  require (headerSize ≤ data.length) (.tooShort data.length)
  return decoded data

/-- The check of the totals against the first one. -/
def checkTotals (totalFrags : ℕ) (fragments : List Fragment) : Except FragmentError Unit :=
  match fragments.find? (·.total ≠ totalFrags) with
  | some fragment => .error (.inconsistent totalFrags fragment.total)
  | none => .ok ()

/-- `reassemble_data` -/
def reassembleData (fragments : List Bytes) : Except FragmentError Bytes := do
  require (fragments ≠ []) .noFragments
  let decoded ← fragments.mapM decodeFragment
  let totalFrags := (decoded.headD ⟨0, 0, []⟩).total
  checkTotals totalFrags decoded
  let indices := decoded.map Fragment.idx
  require (indices.length = indices.dedup.length) (.duplicate indices)
  require (decoded.length = totalFrags)
    (.missing ((List.range totalFrags).filter (· ∉ indices)) decoded.length totalFrags)
  return ((decoded.insertionSort fun x y ↦ x.idx ≤ y.idx).map Fragment.payload).flatten

end Python

open Python

/-! ## What is checked -/

section Checks

variable {fragments : List Bytes} {data : Bytes}

/-- What `reassemble_data` checks: every header is there, all totals are the number of fragments, and no index
comes twice. -/
structure Consistent (fragments : List Bytes) : Prop where
  nonempty : fragments ≠ []
  header : ∀ fragment ∈ fragments, headerSize ≤ fragment.length
  total_eq : ∀ fragment ∈ fragments, headerTotal fragment = fragments.length
  nodup : (fragments.map headerIndex).Nodup

/-- The payloads in the order of their indices. -/
def joined (fragments : List Bytes) : Bytes :=
  (((fragments.map decoded).insertionSort fun x y ↦ x.idx ≤ y.idx).map Fragment.payload).flatten

theorem mapM_decodeFragment_eq_ok_iff {result : List Fragment} :
    fragments.mapM decodeFragment = .ok result ↔
      (∀ fragment ∈ fragments, headerSize ≤ fragment.length) ∧ result = fragments.map decoded := by
  induction fragments generalizing result with
  | nil => simp [pure, Except.pure, eq_comm]
  | cons fragment rest ih =>
    simp only [List.mapM_cons, except_bind_eq_ok_iff, decodeFragment, require_eq_ok_iff, List.forall_mem_cons,
      List.map_cons]
    constructor
    · rintro ⟨_, ⟨-, hheader, hfirst⟩, others, hrest, hresult⟩
      cases hfirst
      cases hresult
      obtain ⟨hheaders, rfl⟩ := ih.mp hrest
      exact ⟨⟨hheader, hheaders⟩, rfl⟩
    · rintro ⟨⟨hheader, hheaders⟩, rfl⟩
      exact ⟨_, ⟨(), hheader, rfl⟩, _, ih.mpr ⟨hheaders, rfl⟩, rfl⟩

theorem checkTotals_eq_ok_iff {totalFrags : ℕ} {decoded : List Fragment} {result : Unit} :
    checkTotals totalFrags decoded = .ok result ↔ ∀ fragment ∈ decoded, fragment.total = totalFrags := by
  unfold checkTotals
  cases hfind : decoded.find? (·.total ≠ totalFrags) with
  | none =>
    have hall := List.find?_eq_none.mp hfind
    exact iff_of_true rfl fun fragment hmem ↦ by simpa using hall fragment hmem
  | some fragment =>
    have hne := List.find?_some hfind
    refine iff_of_false nofun fun h ↦ ?_
    simp [h fragment (List.mem_of_find?_eq_some hfind)] at hne

theorem length_eq_length_dedup_iff {indices : List ℕ} :
    indices.length = indices.dedup.length ↔ indices.Nodup := by
  rw [← List.dedup_eq_self]
  exact ⟨fun h ↦ (List.dedup_sublist indices).eq_of_length h.symm, fun h ↦ congrArg _ h.symm⟩

/-- **Spec lemma.**  A set is taken exactly when its headers pass the checks. -/
theorem reassembleData_eq_ok_iff :
    reassembleData fragments = .ok data ↔ Consistent fragments ∧ data = joined fragments := by
  simp only [reassembleData, except_bind_eq_ok_iff, require_eq_ok_iff, mapM_decodeFragment_eq_ok_iff,
    checkTotals_eq_ok_iff, length_eq_length_dedup_iff, exists_const]
  constructor
  · rintro ⟨hne, _, ⟨hheader, rfl⟩, htotals, hnodup, hcount, hdata⟩
    rw [List.map_map] at hnodup
    rw [List.length_map] at hcount
    refine ⟨⟨hne, hheader, fun fragment hmem ↦ ?_, hnodup⟩, (Except.ok.inj hdata).symm⟩
    rw [hcount]
    exact htotals _ (List.mem_map_of_mem hmem)
  · rintro ⟨h, rfl⟩
    obtain ⟨first, rest, rfl⟩ := List.exists_cons_of_ne_nil h.nonempty
    have hfirst := h.total_eq first List.mem_cons_self
    refine ⟨h.nonempty, _, ⟨h.header, rfl⟩, ?_, ?_, ?_, rfl⟩
    · rintro _ hmem
      obtain ⟨fragment, hfragment, rfl⟩ := List.mem_map.mp hmem
      exact (h.total_eq fragment hfragment).trans hfirst.symm
    · rw [List.map_map]
      exact h.nodup
    · rw [List.length_map]
      exact hfirst.symm

end Checks

/-! ## Malformed sets -/

/-- A whole and undamaged set: one total, every index below it exactly once, and every payload as long as its
header declares. -/
structure Intact (fragments : List Bytes) : Prop where
  header : ∀ fragment ∈ fragments, headerSize ≤ fragment.length
  complete : ∃ total, (∀ fragment ∈ fragments, headerTotal fragment = total) ∧
    (fragments.map headerIndex).Perm (List.range total)
  payload : ∀ fragment ∈ fragments, fragment.length - headerSize = headerLength fragment

/-- As many distinct indices below a total as it counts are all of them. -/
theorem perm_range_of_nodup {indices : List ℕ} (hnodup : indices.Nodup)
    (hlt : ∀ index ∈ indices, index < indices.length) : indices.Perm (List.range indices.length) := by
  have hsub : indices ⊆ List.range indices.length := fun index hmem ↦ List.mem_range.mpr (hlt index hmem)
  exact (List.subperm_of_subset hnodup hsub).perm_of_length_le (by simp)

/-- `reassemble_data` takes only whole and undamaged sets, exactly on the inputs where the sets that pass its
header checks have no index out of range and no payload whose length is not the declared one. -/
theorem reassembly_rejects_malformed (fragments : List Bytes) :
    ((∃ data, reassembleData fragments = .ok data) → Intact fragments) ↔
      (Consistent fragments → ∀ fragment ∈ fragments, headerIndex fragment < headerTotal fragment ∧
        fragment.length = headerSize + headerLength fragment) := by
  constructor
  · intro h hconsistent fragment hmem
    obtain ⟨hheader, ⟨total, htotal, hperm⟩, hpayload⟩ :=
      h ⟨_, reassembleData_eq_ok_iff.mpr ⟨hconsistent, rfl⟩⟩
    have hindex : headerIndex fragment ∈ List.range total := hperm.subset (List.mem_map_of_mem hmem)
    have hlong := hheader fragment hmem
    have hlength := hpayload fragment hmem
    rw [htotal fragment hmem]
    exact ⟨List.mem_range.mp hindex, by omega⟩
  · rintro h ⟨data, hdata⟩
    obtain ⟨hconsistent, -⟩ := reassembleData_eq_ok_iff.mp hdata
    have hsound := h hconsistent
    refine ⟨hconsistent.header, ⟨fragments.length, hconsistent.total_eq, ?_⟩, fun fragment hmem ↦ ?_⟩
    · have hperm := perm_range_of_nodup hconsistent.nodup fun index hindex ↦ by
        obtain ⟨fragment, hmem, rfl⟩ := List.mem_map.mp hindex
        rw [List.length_map, ← hconsistent.total_eq fragment hmem]
        exact (hsound fragment hmem).1
      rwa [List.length_map] at hperm
    · have hlength := (hsound fragment hmem).2
      omega

/-- A fragment that was cut short is taken. -/
theorem malformed_sets_taken :
    ¬∀ fragments : List Bytes, (∃ data, reassembleData fragments = .ok data) → Intact fragments := by
  intro h
  obtain ⟨-, -, hpayload⟩ := h [[0, 1, 0, 5, 97, 98]] ⟨[97, 98], by decide⟩
  exact absurd (hpayload [0, 1, 0, 5, 97, 98] List.mem_cons_self) (by decide)

/-! ## The round trip -/

section FragmentRoundTrip

variable {fragment : Fragment} {data : Bytes} {maxPayload mtu : ℕ}

/-- What `Fragment.decode` reads back. -/
theorem decoded_fragmentBytes (hidx : fragment.idx < 256) (htotal : fragment.total < 256)
    (hpayload : fragment.payload.length < 65536) : decoded (fragmentBytes fragment) = fragment := by
  have hlength : fragment.payload.length / 256 % 256 * 256 + fragment.payload.length % 256 =
      fragment.payload.length := by
    omega
  have hbytes : fragmentBytes fragment = UInt8.ofNat fragment.idx :: UInt8.ofNat fragment.total ::
      UInt8.ofNat (fragment.payload.length / 256 % 256) ::
      UInt8.ofNat (fragment.payload.length % 256) :: fragment.payload := rfl
  simp only [decoded, headerIndex, headerTotal, headerLength, headerSize, hbytes, List.getD_cons_zero,
    List.getD_cons_succ, List.drop_succ_cons, List.drop_zero, UInt8.toNat_ofNat', Nat.mod_eq_of_lt hidx,
    Nat.mod_eq_of_lt htotal, Nat.mod_mod, hlength, List.take_length]

/-- The chunks cover the data, and there is at least one. -/
theorem fragmentTotal_covers (hpositive : 0 < maxPayload) (length : ℕ) :
    0 < fragmentTotal length maxPayload ∧ length ≤ fragmentTotal length maxPayload * maxPayload := by
  unfold fragmentTotal
  split_ifs with hempty
  · simp [hempty]
  · have hdivision := Nat.div_add_mod (length + maxPayload - 1) maxPayload
    have hremainder := Nat.mod_lt (length + maxPayload - 1) hpositive
    rw [mul_comm] at hdivision
    exact ⟨Nat.div_pos (by omega) hpositive, by omega⟩

theorem length_chunk_le (data : Bytes) (maxPayload index : ℕ) :
    (chunk data maxPayload index).length ≤ min data.length maxPayload := by
  rw [chunk, List.length_take, List.length_drop]
  omega

/-- The fragments of `fragment_data`. -/
def fragmentsOf (data : Bytes) (maxPayload : ℕ) : List Fragment :=
  (List.range (fragmentTotal data.length maxPayload)).map
    (fragmentAt data maxPayload (fragmentTotal data.length maxPayload))

theorem mem_fragmentsOf (hmem : fragment ∈ fragmentsOf data maxPayload) :
    fragment.idx < fragmentTotal data.length maxPayload ∧
      fragment.total = fragmentTotal data.length maxPayload ∧
      fragment.payload.length ≤ min data.length maxPayload := by
  obtain ⟨index, hindex, rfl⟩ := List.mem_map.mp hmem
  exact ⟨List.mem_range.mp hindex, rfl, length_chunk_le data maxPayload index⟩

theorem fragmentData_eq_some (hcount : fragmentTotal data.length (mtu - headerSize) ≤ 255)
    (hfits : min data.length (mtu - headerSize) ≤ 65535) :
    fragmentData data mtu = some ((fragmentsOf data (mtu - headerSize)).map fragmentBytes) := by
  rw [fragmentsOf, List.map_map]
  refine mapM_eq_some_map fun index hindex ↦ encodeFragment_eq ?_ ?_ ?_
  · exact lt_of_lt_of_le (List.mem_range.mp hindex) (by omega)
  · exact Nat.lt_succ_of_le hcount
  · exact Nat.lt_succ_of_le ((length_chunk_le data _ index).trans hfits)

/-- The first chunk decides whether every payload length can be packed. -/
theorem fragmentData_eq_none (hmtu : headerSize < mtu) (hlong : 65535 < min data.length (mtu - headerSize)) :
    fragmentData data mtu = none := by
  have hpositive := (fragmentTotal_covers (Nat.sub_pos_of_lt hmtu) data.length).1
  obtain ⟨count, hcount⟩ := Nat.exists_eq_succ_of_ne_zero hpositive.ne'
  have hfirst : encodeFragment ⟨0, count + 1, chunk data (mtu - headerSize) 0⟩ = none := by
    have hlength : (chunk data (mtu - headerSize) 0).length = min (mtu - headerSize) data.length := by
      simp [chunk]
    rw [encodeFragment, guard, if_neg]
    · rfl
    · rw [hlength]
      omega
  unfold fragmentData
  dsimp only
  rw [hcount, List.range_succ_eq_map, List.mapM_cons, hfirst]
  rfl

theorem flatten_fragmentsOf (hpositive : 0 < maxPayload) :
    ((fragmentsOf data maxPayload).map Fragment.payload).flatten = data := by
  rw [fragmentsOf, List.map_map]
  change ((List.range (fragmentTotal data.length maxPayload)).map (chunk data maxPayload)).flatten = data
  rw [flatten_chunks]
  exact List.take_of_length_le (fragmentTotal_covers hpositive data.length).2

/-- Sorting brings any order of the fragments back. -/
theorem insertionSort_fragmentsOf {received : List Fragment}
    (hperm : received.Perm (fragmentsOf data maxPayload)) :
    received.insertionSort (fun x y ↦ x.idx ≤ y.idx) = fragmentsOf data maxPayload := by
  have : IsTrans Fragment fun x y ↦ x.idx ≤ y.idx := ⟨fun _ _ _ ↦ le_trans⟩
  have : Std.Total fun x y : Fragment ↦ x.idx ≤ y.idx := ⟨fun x y ↦ le_total x.idx y.idx⟩
  have hordered : (fragmentsOf data maxPayload).Pairwise fun x y ↦ x.idx ≤ y.idx := by
    rw [fragmentsOf, List.pairwise_map]
    exact List.pairwise_lt_range.imp le_of_lt
  have hsorted := (List.perm_insertionSort (fun x y : Fragment ↦ x.idx ≤ y.idx) received).trans hperm
  refine List.Perm.eq_of_pairwise (fun x y hx hy hxy hyx ↦ ?_)
    (List.pairwise_insertionSort (fun x y : Fragment ↦ x.idx ≤ y.idx) received) hordered hsorted
  obtain ⟨i, -, rfl⟩ := List.mem_map.mp (hsorted.subset hx)
  obtain ⟨j, -, rfl⟩ := List.mem_map.mp hy
  rw [show i = j from le_antisymm hxy hyx]

/-- The fragments come back to the data in any order. -/
theorem reassembleData_of_perm (hpositive : 0 < maxPayload)
    (hcount : fragmentTotal data.length maxPayload ≤ 255) (hfits : min data.length maxPayload ≤ 65535)
    {received : List Bytes} (hperm : received.Perm ((fragmentsOf data maxPayload).map fragmentBytes)) :
    reassembleData received = .ok data := by
  have hdecode : ∀ fragment ∈ fragmentsOf data maxPayload, decoded (fragmentBytes fragment) = fragment := by
    intro fragment hmem
    obtain ⟨hidx, htotal, hpayload⟩ := mem_fragmentsOf hmem
    exact decoded_fragmentBytes (by omega) (by omega) (by omega)
  have hback : ((fragmentsOf data maxPayload).map fragmentBytes).map decoded = fragmentsOf data maxPayload := by
    rw [List.map_map]
    exact (List.map_congr_left hdecode).trans (List.map_id _)
  have hdecoded : (received.map decoded).Perm (fragmentsOf data maxPayload) := hback ▸ hperm.map decoded
  have hlength : received.length = fragmentTotal data.length maxPayload := by
    simpa [fragmentsOf] using hperm.length_eq
  refine reassembleData_eq_ok_iff.mpr ⟨⟨?_, fun fragment hmem ↦ ?_, fun fragment hmem ↦ ?_, ?_⟩, ?_⟩
  · rintro rfl
    exact absurd hlength.symm (fragmentTotal_covers hpositive data.length).1.ne'
  · obtain ⟨fragment, -, rfl⟩ := List.mem_map.mp (hperm.subset hmem)
    simp [fragmentBytes, headerSize, bigEndian]
  · rw [hlength]
    exact (mem_fragmentsOf (hdecoded.subset (List.mem_map_of_mem hmem))).2.1
  · have hindices : ((received.map decoded).map Fragment.idx).Nodup := by
      refine (hdecoded.map Fragment.idx).nodup_iff.mpr ?_
      rw [fragmentsOf, List.map_map]
      exact (List.map_id _).symm ▸ List.nodup_range
    rwa [List.map_map] at hindices
  · rw [joined, insertionSort_fragmentsOf hdecoded, flatten_fragmentsOf hpositive]

/-- What the fragments of a piece of data must be. -/
structure FragmentRoundTrip (data : Bytes) (mtu : ℕ) (fragments : List Bytes) : Prop where
  length_le : ∀ fragment ∈ fragments, fragment.length ≤ mtu
  pieces : fragments.map (·.drop headerSize) =
    (List.range (fragmentTotal data.length (mtu - headerSize))).map fun index ↦
      (data.drop (index * (mtu - headerSize))).take (mtu - headerSize)
  flatten_eq : (fragments.map (·.drop headerSize)).flatten = data
  reassembled : ∀ received : List Bytes, received.Perm fragments → reassembleData received = .ok data

/-- Data that needs at most 255 fragments makes the round trip, unless a payload is longer than its 16-bit length
field can say. -/
theorem fragmentation_round_trip (data : Bytes) (mtu : ℕ) (hmtu : headerSize < mtu)
    (hcount : fragmentTotal data.length (mtu - headerSize) ≤ 255) :
    (∃ fragments, fragmentData data mtu = some fragments ∧ FragmentRoundTrip data mtu fragments) ↔
      min data.length (mtu - headerSize) ≤ 65535 := by
  have hpositive : 0 < mtu - headerSize := Nat.sub_pos_of_lt hmtu
  constructor
  · rintro ⟨fragments, hfragments, -⟩
    by_contra hlong
    rw [fragmentData_eq_none hmtu (not_le.mp hlong)] at hfragments
    cases hfragments
  · intro hfits
    refine ⟨_, fragmentData_eq_some hcount hfits, ?_⟩
    have hpieces : ((fragmentsOf data (mtu - headerSize)).map fragmentBytes).map (·.drop headerSize) =
        (fragmentsOf data (mtu - headerSize)).map Fragment.payload := by
      rw [List.map_map]
      exact List.map_congr_left fun fragment _ ↦ rfl
    refine ⟨fun bytes hmem ↦ ?_, ?_, ?_, fun received hperm ↦
      reassembleData_of_perm hpositive hcount hfits hperm⟩
    · obtain ⟨fragment, hfragment, rfl⟩ := List.mem_map.mp hmem
      have hpayload := (mem_fragmentsOf hfragment).2.2
      have hlength : (fragmentBytes fragment).length = headerSize + fragment.payload.length := by
        simp only [fragmentBytes, headerSize, bigEndian, List.length_append, List.length_cons, List.length_nil]
      omega
    · rw [hpieces, fragmentsOf, List.map_map]
      rfl
    · rw [hpieces, flatten_fragmentsOf hpositive]

/-- The default frame. -/
theorem fragmentation_round_trip_default :
    (∃ fragments, fragmentData (List.replicate 1088 7) 512 = some fragments ∧
      FragmentRoundTrip (List.replicate 1088 7) 512 fragments) ↔
        min (List.replicate 1088 (7 : UInt8)).length (512 - headerSize) ≤ 65535 :=
  fragmentation_round_trip (List.replicate 1088 7) 512 (by decide)
    (by rw [List.length_replicate]; decide)

/-- One fragment is needed, and it cannot be packed. -/
theorem payload_too_long :
    headerSize < 65540 ∧ fragmentTotal (List.replicate 65536 (0 : UInt8)).length (65540 - headerSize) ≤ 255 ∧
      fragmentData (List.replicate 65536 0) 65540 = none := by
  refine ⟨by decide, ?_, fragmentData_eq_none (by decide) ?_⟩
  · rw [List.length_replicate]
    decide
  · rw [List.length_replicate]
    decide

end FragmentRoundTrip

end PqBleHandshake
