-- SUMMARY: What a plan covers and costs, and the chunks it becomes.
import Roost.Cell.ChunkAssembler

/-!
# Plans

A plan is a partition of the frame's rows, in part order, into non-empty runs, each
of which was charged what its part encodes to. For a validated frame the rows the
entries name are the retained history as it stands and the viewport by index.
-/

namespace Roost.Cell

open Except (bind_eq_ok mapM_eq_ok ok)
open UInt32 (ofNat size toNat_inj toNat_ofNat_of_lt')

open List

variable {entry : SnapshotEntry} {row : PbCellRow} {parts : List PlannedSnapshotPart}
  {snapshotId : String} {frame : PbCellGridFrame}

theorem SnapshotEntry.row_eq_ok : entry.row frame = .ok row ↔ entry.found frame = some row := by
  unfold SnapshotEntry.row
  cases entry.found frame <;> simp

def foundRows (frame : PbCellGridFrame) (history : Bool) (entries : List SnapshotEntry) :
    List PbCellRow :=
  (entries.filter fun entry => entry.history == history).filterMap (SnapshotEntry.found frame)

theorem foundRows_append (frame : PbCellGridFrame) (history : Bool)
    (entries entries' : List SnapshotEntry) : foundRows frame history (entries ++ entries') =
      foundRows frame history entries ++ foundRows frame history entries' := by
  simp [foundRows]

/-- What a part with these entries encodes to, beyond the scalars. -/
def entriesBytes (sizes : Sizes) (frame : PbCellGridFrame) (entries : List SnapshotEntry) : Nat :=
  ((foundRows frame false entries).map sizes.rowEntryBytes).sum +
    ((foundRows frame true entries).map sizes.rowEntryBytes).sum

variable {entries : List SnapshotEntry}

theorem entriesBytes_concat {sizes : Sizes}
    (h : entry.found frame = some row) : entriesBytes sizes frame (entries ++ [entry]) =
      entriesBytes sizes frame entries + sizes.rowEntryBytes row := by
  unfold entriesBytes
  rw [foundRows_append, foundRows_append]
  cases hfamily : entry.history with
  | false =>
    have hfalse : foundRows frame false [entry] = [row] := by simp [foundRows, hfamily, h]
    have htrue : foundRows frame true [entry] = [] := by simp [foundRows, hfamily]
    rw [hfalse, htrue]
    simp
    omega
  | true =>
    have hfalse : foundRows frame false [entry] = [] := by simp [foundRows, hfamily]
    have htrue : foundRows frame true [entry] = [row] := by simp [foundRows, hfamily, h]
    rw [hfalse, htrue]
    simp
    omega

/-! ## The planner -/

/-- A planned part: some entries, each with its row, charged what they take. -/
structure Charges (sizes : Sizes) (frame : PbCellGridFrame) (entries : List SnapshotEntry)
    (encodedPartBytes : Nat) : Prop where
  found : ∀ entry ∈ entries, ∃ row, entry.found frame = some row
  bytes : encodedPartBytes =
    sizes.frameLen (createCellGridFramePart frame [] []) + entriesBytes sizes frame entries

structure PlannedFor (sizes : Sizes) (frame : PbCellGridFrame) (part : PlannedSnapshotPart) :
    Prop where
  nonempty : part.entries ≠ []
  charges : Charges sizes frame part.entries part.encodedPartBytes

structure Placed (sizes : Sizes) (frame : PbCellGridFrame) (entries : List SnapshotEntry)
    (state : PlanState) : Prop where
  order : state.parts.flatMap PlannedSnapshotPart.entries ++ state.entries = entries
  closed : ∀ part ∈ state.parts, PlannedFor sizes frame part
  filling : Charges sizes frame state.entries state.encodedPartBytes

variable {sizes : Sizes} {frame : PbCellGridFrame}

theorem Charges.concat {bytes : Nat} (h : Charges sizes frame entries bytes) (hrow : entry.found frame = some row) :
    Charges sizes frame (entries ++ [entry]) (bytes + sizes.rowEntryBytes row) := by
  refine ⟨?_, ?_⟩
  · intro other hmem
    rcases mem_append.mp hmem with hmem | hmem
    · exact h.found other hmem
    · exact ⟨row, mem_singleton.mp hmem ▸ hrow⟩
  · rw [entriesBytes_concat hrow, h.bytes, Nat.add_assoc]

theorem charges_nil :
    Charges sizes frame [] (sizes.frameLen (createCellGridFramePart frame [] [])) :=
  ⟨by simp, by simp [entriesBytes, foundRows]⟩

/-- One planned row goes to the open part or opens the next. -/
theorem Placed.step (entries : List SnapshotEntry) (state : PlanState) (entry : SnapshotEntry)
    (state' : PlanState) (h : Placed sizes frame entries state)
    (hok : planEntry sizes frame (planBudget sizes frame) state entry = .ok state') :
    Placed sizes frame (entries ++ [entry]) state' := by
  simp only [planEntry, bind_eq_ok, SnapshotEntry.row_eq_ok] at hok
  obtain ⟨_, hrow, hok⟩ := hok
  split at hok
  · cases hok
    refine ⟨?_, h.closed, h.filling.concat hrow⟩
    rw [← append_assoc, h.order]
  simp only [ite_reject_eq_ok, ok.injEq] at hok
  obtain ⟨hnon, -, rfl⟩ := hok
  refine ⟨?_, ?_, charges_nil.concat hrow⟩
  · simp [← h.order]
  intro part hmem
  rcases mem_append.mp hmem with hmem | hmem
  · exact h.closed part hmem
  · obtain rfl := mem_singleton.mp hmem
    exact ⟨by simpa using hnon, h.filling⟩

theorem planSnapshotParts_eq_ok (h : planSnapshotParts sizes frame = .ok parts) :
    parts.flatMap PlannedSnapshotPart.entries = snapshotEntries frame ∧
      (∀ part ∈ parts, PlannedFor sizes frame part) ∧ parts ≠ [] ∧
      parts.length ≤ cellGridSnapshotMaxChunks.toNat ∧
      planTotalBytes sizes (planBudget sizes frame) parts ≤ cellGridSnapshotMaxBytes := by
  simp only [planSnapshotParts, bind_eq_ok, ite_reject_eq_ok, ok.injEq, not_or,
    Nat.not_lt, List.isEmpty_iff] at h
  obtain ⟨state, hstate, ⟨hnon, hcount⟩, htotal, rfl⟩ := h
  have hplaced : Placed sizes frame (snapshotEntries frame) state :=
    Except.foldlM_keeps Placed.step ⟨rfl, by simp, charges_nil⟩ hstate
  refine ⟨?_, ?_, hnon, hcount, htotal⟩
  · unfold PlanState.close
    split
    · rename_i hempty
      have horder := hplaced.order
      rw [List.isEmpty_iff.mp hempty, List.append_nil] at horder
      exact horder
    · simpa using hplaced.order
  intro part hmem
  unfold PlanState.close at hmem
  split at hmem
  · exact hplaced.closed part hmem
  rename_i hopen
  rcases List.mem_append.mp hmem with hmem | hmem
  · exact hplaced.closed part hmem
  · obtain rfl := List.mem_singleton.mp hmem
    exact ⟨by simpa using hopen, hplaced.filling⟩

/-! ## The chunks -/

/-- The chunk number `index` of a plan. -/
def plannedChunk (frame : PbCellGridFrame) (snapshotId : String) (count : Nat)
    (part : PlannedSnapshotPart) (index : Nat) : PbCellGridChunk where
  snapshotId := snapshotId
  chunkIndex := ofNat index
  chunkCount := ofNat count
  part := some (createCellGridFramePart frame (foundRows frame false part.entries)
    (foundRows frame true part.entries))

variable {part : PlannedSnapshotPart}

theorem familyRows_of_rows {rows : List (Bool × PbCellRow)}
    (h : part.rows frame = .ok rows) (history : Bool) :
    familyRows history rows = foundRows frame history part.entries := by
  unfold PlannedSnapshotPart.rows at h
  generalize part.entries = entries at h ⊢
  induction mapM_eq_ok.mp h with
  | nil => rfl
  | @cons entry row entries rows hrow _ ih =>
    simp only [bind_eq_ok, SnapshotEntry.row_eq_ok, ok.injEq] at hrow
    obtain ⟨found, hfound, rfl⟩ := hrow
    have hrest := ih (mapM_eq_ok.mpr ‹_›)
    unfold familyRows foundRows at hrest ⊢
    cases hfamily : entry.history == history <;> simp [hfamily, hfound, hrest]

theorem materialize_eq_ok {index : Nat}
    {result : CellGridSnapshotPart} (hcount : parts.length ≤ cellGridSnapshotMaxChunks.toNat)
    (hindex : index < parts.length) (h : CellGridSnapshotCursor.materialize sizes
      { source := { frame, parts := some parts }, snapshotId
        partCount := ofNat parts.length } (ofNat index) = .ok result) :
    ∃ part, parts[index]? = some part ∧
      result = .chunk (plannedChunk frame snapshotId parts.length part index) ∧
      sizes.chunkLen (plannedChunk frame snapshotId parts.length part index) ≤
        cellGridPartMaxBytes := by
  have hsmall : index < 2 ^ 32 := by
    have : cellGridSnapshotMaxChunks.toNat = 256 := rfl
    omega
  have hget : parts[index]? = some parts[index] := getElem?_eq_getElem hindex
  refine ⟨parts[index], hget, ?_⟩
  simp only [CellGridSnapshotCursor.materialize, ite_reject_eq_ok, bind_eq_ok,
    toNat_ofNat_of_lt' hsmall, hget, Option.getD_some] at h
  obtain ⟨-, _, hrows, hbytes, hres⟩ := h
  rw [familyRows_of_rows hrows, familyRows_of_rows hrows] at hbytes hres
  exact ⟨(ok.inj hres).symm, Nat.not_lt.mp hbytes⟩

theorem chunkCellGridFrame_eq_ok {chunks : List PbCellGridChunk}
    (h : chunkCellGridFrame sizes frame snapshotId = .ok chunks) :
    ValidSnapshot frame ∧ isTerminalUuid snapshotId = true ∧
      ∃ parts, planSnapshotParts sizes frame = .ok parts ∧ chunks.length = parts.length ∧
        ∀ (i : Nat) (chunk : PbCellGridChunk), chunks[i]? = some chunk →
          ∃ part, parts[i]? = some part ∧
            chunk = plannedChunk frame snapshotId parts.length part i ∧
            sizes.chunkLen chunk ≤ cellGridPartMaxBytes := by
  simp only [chunkCellGridFrame, createCellGridSnapshotSource, bind_eq_ok, Bool.not_true,
    Bool.false_and, Bool.false_eq_true, if_false, ok.injEq] at h
  obtain ⟨_, ⟨stats, hvalid, parts, hplan, rfl⟩, cursor, hcursor, hchunks⟩ := h
  obtain ⟨-, -, -, hcount, -⟩ := planSnapshotParts_eq_ok hplan
  have hmax : cellGridSnapshotMaxChunks.toNat = 256 := rfl
  have hpartCount : min parts.length (2 ^ 32 - 1) = parts.length := by omega
  simp only [CellGridSnapshotSource.createCursor, CellGridSnapshotSource.partCount,
    ite_reject_eq_ok, ok.injEq, hpartCount] at hcursor
  obtain ⟨huuid, rfl⟩ := hcursor
  have hrange : (ofNat parts.length).toNat = parts.length :=
    toNat_ofNat_of_lt' (by rw [size]; omega)
  rw [hrange, mapM_eq_ok] at hchunks
  have hlen : chunks.length = parts.length := by simpa using hchunks.length_eq.symm
  refine ⟨assertCellGridSnapshot_iff.mp ⟨stats, hvalid⟩, by simpa using huuid, parts, hplan, hlen,
    ?_⟩
  intro i chunk hchunk
  obtain ⟨hi, rfl⟩ := List.getElem?_eq_some_iff.mp hchunk
  have hstep := hchunks.get (by rw [List.length_range, ← hlen]; exact hi) hi
  simp only [List.get_eq_getElem, List.getElem_range, bind_eq_ok] at hstep
  obtain ⟨_, hres, hstep⟩ := hstep
  obtain ⟨part, hpart, rfl, hbytes⟩ := materialize_eq_ok hcount (hlen ▸ hi) hres
  have heq := ok.inj hstep
  exact ⟨part, hpart, heq.symm, heq ▸ hbytes⟩

/-! ## The bytes -/

theorem utf8ByteSize_of_isTerminalUuid {id : String} (h : isTerminalUuid id = true) :
    id.utf8ByteSize = planningSnapshotId.utf8ByteSize := by
  have hlen := hasUuidShape_length (isTerminalUuid_shape h)
  have hplanned : planningSnapshotId.utf8ByteSize = uuidLen := by decide +kernel
  simpa [utf8Bytes, hplanned] using hlen

theorem frameLen_part (hsizes : sizes.Additive) (rows scrollbackRows : List PbCellRow) :
    sizes.frameLen (createCellGridFramePart frame rows scrollbackRows) =
      sizes.frameLen (createCellGridFramePart frame [] []) +
        ((rows.map sizes.rowEntryBytes).sum + (scrollbackRows.map sizes.rowEntryBytes).sum) := by
  rw [hsizes.frame, ← Nat.add_assoc]
  rfl

theorem planBudget_tagBytes {tag : Nat}
    (htag : ∀ (chunk : PbCellGridChunk) (part : PbCellGridFrame), chunk.part = some part →
      sizes.chunkLen chunk =
        sizes.chunkLen { chunk with part := none } + tag +
          sizes.varintLen (sizes.frameLen part) + sizes.frameLen part) :
    (planBudget sizes frame).tagBytes = tag := by
  have hmeas := htag
    { snapshotId := planningSnapshotId
      chunkIndex := cellGridSnapshotMaxChunks - 1
      chunkCount := cellGridSnapshotMaxChunks
      part := some (createCellGridFramePart frame [] []) } _ rfl
  simp only [planBudget, Sizes.partFieldTagBytes, Sizes.chunkHeaderBytes, hmeas]
  omega

theorem plannedChunk_bytes (hsizes : sizes.Additive) (hid : isTerminalUuid snapshotId = true)
    (hpart : PlannedFor sizes frame part) (count index : Nat) :
    sizes.chunkLen (plannedChunk frame snapshotId count part index) = sizes.encodedChunkBytes
        (sizes.chunkHeaderBytes planningSnapshotId (ofNat index) (ofNat count))
        (planBudget sizes frame).tagBytes part.encodedPartBytes := by
  obtain ⟨_, htag⟩ := hsizes.chunk
  have hheader : sizes.chunkLen
      { plannedChunk frame snapshotId count part index with part := none } =
        sizes.chunkHeaderBytes planningSnapshotId (ofNat index) (ofNat count) :=
    hsizes.snapshotId
      { snapshotId := planningSnapshotId, chunkIndex := ofNat index
        chunkCount := ofNat count } snapshotId (utf8ByteSize_of_isTerminalUuid hid)
  rw [htag _ _ rfl, hheader, planBudget_tagBytes htag, frameLen_part hsizes, hpart.charges.bytes]
  rfl

theorem planTotalBytes_eq (hsizes : sizes.Additive) (hid : isTerminalUuid snapshotId = true)
    (hparts : ∀ part ∈ parts, PlannedFor sizes frame part) :
    planTotalBytes sizes (planBudget sizes frame) parts = ((parts.zipIdx.map fun (part, index) =>
        plannedChunk frame snapshotId parts.length part index).map sizes.chunkLen).sum := by
  unfold planTotalBytes
  rw [map_map]
  refine congrArg sum (map_congr_left ?_)
  intro (part, index) hmem
  exact (plannedChunk_bytes hsizes hid (hparts part (fst_mem_of_mem_zipIdx hmem)) _ _).symm

/-! ## The rows of a validated frame -/

def viewportByIndex (frame : PbCellGridFrame) : List PbCellRow :=
  Slots.collect rowSlot frame.rows.toNat frame.viewportRows

variable {rows : List PbCellRow}

theorem find?_index (hnd : (rows.map rowSlot).Nodup)
    (hmem : row ∈ rows) : (rows.find? fun other => other.index == row.index) = some row := by
  have hat : Slots.at? rowSlot rows (rowSlot row) = some row :=
    (Slots.at?_eq_some_iff hnd).mpr ⟨hmem, rfl⟩
  rw [← hat]
  unfold Slots.at? rowSlot
  congr 1
  funext other
  simp [← toNat_inj, Bool.beq_eq_decide_eq]

theorem HistoryFits.slot_nodup {nextIndex : Nat}
    (h : HistoryFits frame nextIndex rows) : (rows.map rowSlot).Nodup := by
  unfold rowSlot
  rw [h.index]
  exact nodup_range'

theorem historyEntries_eq (h : ValidSnapshot frame) :
    ((range frame.scrollbackRows.length).map fun offset =>
        ({ history := true
           index := ofNat (min (frame.sbBase.toNat + offset) (2 ^ 32 - 1)) } :
          SnapshotEntry)) =
      frame.scrollbackRows.map fun row => { history := true, index := row.index } := by
  apply ext_getElem?
  intro i
  rw [getElem?_map, getElem?_map]
  rcases Nat.lt_or_ge i frame.scrollbackRows.length with hi | hi
  · have hindex := congrArg (fun list => list[i]?) h.history.index
    simp only [getElem?_map, getElem?_eq_getElem hi, Option.map_some,
      getElem?_range' hi, Option.some.injEq, Nat.one_mul] at hindex
    have hlt := (frame.scrollbackRows[i]).index.toNat_lt
    rw [getElem?_range hi, getElem?_eq_getElem hi, Option.map_some, Option.map_some,
      Nat.min_eq_left (by omega), ← hindex, UInt32.ofNat_toNat]
  · rw [getElem?_eq_none (by simpa using hi), getElem?_eq_none hi]
    rfl

theorem foundRows_history (h : ValidSnapshot frame) :
    foundRows frame true (snapshotEntries frame) = frame.scrollbackRows := by
  unfold foundRows snapshotEntries
  rw [historyEntries_eq h, filter_append, filter_eq_self.mpr (by simp),
    filter_eq_nil_iff.mpr (by simp), append_nil, filterMap_map]
  have hfound : ∀ row ∈ frame.scrollbackRows,
      (SnapshotEntry.found frame ∘ fun row => { history := true, index := row.index }) row =
        some row := by
    intro row hmem
    exact find?_index h.history.slot_nodup hmem
  rw [filterMap_congr hfound, filterMap_some]

theorem foundRows_viewport (frame : PbCellGridFrame) :
    foundRows frame false (snapshotEntries frame) = viewportByIndex frame := by
  unfold foundRows snapshotEntries
  rw [filter_append, filter_eq_nil_iff.mpr (by simp), nil_append,
    filter_eq_self.mpr (by simp), filterMap_map]
  have hrows := frame.rows.toNat_lt
  apply filterMap_congr
  intro i hi
  have hlt : i < 2 ^ 32 := Nat.lt_trans (mem_range.mp hi) hrows
  unfold SnapshotEntry.found Slots.at?
  simp only [Function.comp_apply, Bool.false_eq_true, if_false]
  congr 1
  funext row
  rw [Bool.eq_iff_iff, beq_iff_eq, decide_eq_true_iff, ← toNat_inj, toNat_ofNat_of_lt' hlt]
  rfl

end Roost.Cell
