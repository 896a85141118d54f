-- SUMMARY: Soundness and consistency of assembly, over every run.
import Roost.Cell.ChunkAssembler
import Roost.Cell.WireSize

/-!
# Assembly over runs

The snapshot in flight is determined by the chunks it was made from. `Assembled`
says how: their rows, in the order the parts came; their spans and links, charged;
their bytes, added. One admitted part extends the list by one. What a completed
frame is, and that it is valid, is read off the list.
-/

namespace Roost.Cell

open Except (bind_eq_ok ok)

open List

open PbCellGridFrame Slots

def viewportOf (chunks : List PbCellGridChunk) : List PbCellRow :=
  chunks.flatMap fun chunk => (chunk.part.map viewportRows).getD []

def historyOf (chunks : List PbCellGridChunk) : List PbCellRow :=
  chunks.flatMap fun chunk => (chunk.part.map scrollbackRows).getD []

structure PartOf (snapshot : PartialSnapshot) (index : Nat) (chunk : PbCellGridChunk) : Prop where
  id : chunk.snapshotId = snapshot.snapshotId
  index : chunk.chunkIndex.toNat = index
  count : chunk.chunkCount = snapshot.chunkCount
  metadata : ∃ part, chunk.part = some part ∧ hasSameSnapshotMetadata snapshot.metadata part = true

structure Assembled (sizes : Sizes) (snapshot : PartialSnapshot) (chunks : List PbCellGridChunk) :
    Prop where
  scalars : assertSnapshotScalars snapshot.metadata = .ok ()
  bare : createCellGridFramePart snapshot.metadata [] [] = snapshot.metadata
  next : snapshot.nextChunkIndex = chunks.length
  parts : ∀ (i : Nat) (chunk : PbCellGridChunk), chunks[i]? = some chunk → PartOf snapshot i chunk
  bytes : snapshot.totalBytes = (chunks.map sizes.chunkLen).sum
  bytesCap : snapshot.totalBytes ≤ cellGridSnapshotMaxBytes
  viewport : ViewportFits snapshot.metadata ∅ (viewportOf chunks)
  seen : snapshot.seenRows = ((viewportOf chunks).map PbCellRow.index).toFinset
  rows : snapshot.rows = fill rowSlot some
    (replicate snapshot.metadata.rows.toNat none) (viewportOf chunks)
  history : HistoryFits snapshot.metadata snapshot.metadata.sbBase.toNat (historyOf chunks)
  historyRows : snapshot.historyRows = historyOf chunks
  nextHistory : snapshot.nextHistoryIndex =
    snapshot.metadata.sbBase.toNat + (historyOf chunks).length
  account : snapshot.account.Charged (historyOf chunks ++ viewportOf chunks)

/-! ## Metadata -/

/-- Every field of a frame but its rows and its unknown fields. -/
def scalarsOf (frame : PbCellGridFrame) : PbCellGridFrame := createCellGridFramePart frame [] []

variable {a b : PbCellGridFrame} {rows : List PbCellRow}

theorem scalarsOf_eq_iff : scalarsOf a = scalarsOf b ↔
      hasSameSnapshotMetadata a b = true ∧ a.kittyKeyboardFlags = b.kittyKeyboardFlags := by
  simp only [scalarsOf, createCellGridFramePart, hasSameSnapshotMetadata, mk.injEq,
    Bool.and_eq_true, beq_iff_eq]
  tauto

theorem hasSame_fields (h : hasSameSnapshotMetadata a b = true) :
    a.rows = b.rows ∧ a.cols = b.cols ∧ a.scrollbackTotal = b.scrollbackTotal := by
  simp only [hasSameSnapshotMetadata, Bool.and_eq_true, beq_iff_eq] at h
  tauto

theorem hasSame_self (frame : PbCellGridFrame) :
    hasSameSnapshotMetadata (scalarsOf frame) frame = true := by
  simp [hasSameSnapshotMetadata, scalarsOf, createCellGridFramePart]

theorem ViewportFits.congr {seenRows : Finset UInt32} (hrows : a.rows = b.rows) (hcols : a.cols = b.cols)
    (h : ViewportFits a seenRows rows) : ViewportFits b seenRows rows :=
  ⟨hrows ▸ h.index, hcols ▸ h.spans, h.nodup, h.fresh⟩

theorem HistoryFits.congr {nextIndex : Nat} (htotal : a.scrollbackTotal = b.scrollbackTotal)
    (h : HistoryFits a nextIndex rows) : HistoryFits b nextIndex rows :=
  ⟨h.index, htotal ▸ h.total, h.spans⟩

variable {frame : PbCellGridFrame} {rows' : List PbCellRow}

theorem viewportFits_append :
    ViewportFits frame ∅ (rows ++ rows') ↔ ViewportFits frame ∅ rows ∧
        ViewportFits frame (rows.map PbCellRow.index).toFinset rows' := by
  simp only [viewportFits_iff, mem_append, or_imp, forall_and, map_append,
    nodup_append, mem_toFinset]
  grind

theorem historyFits_append {nextIndex : Nat} :
    HistoryFits frame nextIndex (rows ++ rows') ↔ HistoryFits frame nextIndex rows ∧
        HistoryFits frame (nextIndex + rows.length) rows' := by
  simp only [historyFits_iff, mem_append, or_imp, forall_and, map_append, length_append]
  rw [← range'_append_1]
  constructor
  · rintro ⟨hindex, htotal, hspans⟩
    obtain ⟨hleft, hright⟩ := append_inj hindex (by simp)
    exact ⟨⟨hleft, htotal.1, hspans.1⟩, hright, htotal.2, hspans.2⟩
  · rintro ⟨⟨hleft, htotal, hspans⟩, hright, htotal', hspans'⟩
    exact ⟨by rw [hleft, hright], ⟨htotal, htotal'⟩, hspans, hspans'⟩

theorem viewportOf_append (chunks chunks' : List PbCellGridChunk) :
    viewportOf (chunks ++ chunks') = viewportOf chunks ++ viewportOf chunks' :=
  flatMap_append

theorem historyOf_append (chunks chunks' : List PbCellGridChunk) :
    historyOf (chunks ++ chunks') = historyOf chunks ++ historyOf chunks' :=
  flatMap_append

variable {chunks : List PbCellGridChunk} {chunk : PbCellGridChunk} {part : PbCellGridFrame}

theorem viewportOf_concat
    (h : chunk.part = some part) :
    viewportOf (chunks ++ [chunk]) = viewportOf chunks ++ part.viewportRows := by
  simp [viewportOf, h]

theorem historyOf_concat
    (h : chunk.part = some part) :
    historyOf (chunks ++ [chunk]) = historyOf chunks ++ part.scrollbackRows := by
  simp [historyOf, h]

/-! ## Admitting one part -/

/-- What is left of an admission once the rows are in: more parts are owed, or the frame
is complete. -/
def Outcome (snapshot : PartialSnapshot) (assembly : CellGridChunkAssembly) : Prop :=
  (snapshot.nextChunkIndex < snapshot.chunkCount.toNat ∧
      assembly = .pending snapshot.snapshotId snapshot.nextChunkIndex) ∨
    (¬snapshot.nextChunkIndex < snapshot.chunkCount.toNat ∧
      ∃ frame, completedFrame snapshot = .ok frame ∧ assembly = .complete snapshot.snapshotId frame)

theorem batches_perm (a b c d : List PbCellRow) :
    (a ++ b ++ c ++ d).Perm ((a ++ c) ++ (b ++ d)) := by
  simp only [append_assoc]
  exact (perm_append_comm_assoc b c d).append_left a

section Admission

variable {sizes : Sizes} {snp snapshot' : PartialSnapshot} {chunks : List PbCellGridChunk}
  {chunk : PbCellGridChunk} {part : PbCellGridFrame} {nowMs : Nat}
  {assembly : CellGridChunkAssembly}

variable {frame : PbCellGridFrame} {seenRows : Finset UInt32} {rows : List PbCellRow}

theorem assertSnapshotScalars_part
    (h : assertSnapshotScalars frame = .ok ()) (rows scrollbackRows : List PbCellRow) :
    assertSnapshotScalars (createCellGridFramePart frame rows scrollbackRows) = .ok () := by
  simp only [assertSnapshotScalars, ite_reject_eq_ok] at h ⊢
  obtain ⟨hfull, hstr, hepoch, hgeom, hseq, -, hbase, -⟩ := h
  exact ⟨hfull, hstr, hepoch, hgeom, hseq, by simp [createCellGridFramePart], hbase,
    trivial⟩

theorem assembled_new (hscalar : assertSnapshotScalars part = .ok ()) :
    Assembled sizes (PartialSnapshot.new chunk part nowMs) [] := by
  exact ⟨assertSnapshotScalars_part hscalar [] [], rfl, rfl, by simp, rfl, Nat.zero_le _,
    viewportFits_nil, rfl, rfl, historyFits_nil, rfl, rfl, Account.charged_nil⟩

theorem Assembled.parts_concat (h : Assembled sizes snp chunks)
    (hnew : PartOf snp snp.nextChunkIndex chunk) (i : Nat) (c : PbCellGridChunk)
    (hc : (chunks ++ [chunk])[i]? = some c) : PartOf snp i c := by
  rcases Nat.lt_trichotomy i chunks.length with hi | hi | hi
  · rw [getElem?_append_left hi] at hc
    exact h.parts i c hc
  · rw [hi, getElem?_concat_length] at hc
    cases hc
    rw [hi, ← h.next]
    exact hnew
  rw [getElem?_eq_none] at hc
  · cases hc
  · rw [length_append]
    exact hi

theorem Assembled.withPart {nextHistoryIndex : Nat}
    {account account' : Account} (nowMs : Nat) (h : Assembled sizes snp chunks)
    (hid : chunk.snapshotId = snp.snapshotId) (hcount : chunk.chunkCount = snp.chunkCount)
    (hpart : chunk.part = some part) (hmeta : hasSameSnapshotMetadata snp.metadata part = true)
    (hindex : chunk.chunkIndex.toNat = snp.nextChunkIndex)
    (hbytes : snp.totalBytes + sizes.chunkLen chunk ≤ cellGridSnapshotMaxBytes)
    (hhistory : addSnapshotHistoryRows part part.scrollbackRows snp.nextHistoryIndex
      snp.account = .ok (nextHistoryIndex, account'))
    (hport : addSnapshotRows part part.viewportRows snp.seenRows account' =
      .ok (seenRows, account)) : Assembled sizes
      (snp.withPart part nextHistoryIndex seenRows account (sizes.chunkLen chunk) nowMs)
      (chunks ++ [chunk]) := by
  obtain ⟨hsameRows, hsameCols, hsam⟩ := hasSame_fields hmeta
  obtain ⟨hhistoryFits, hnext, hcharge⟩ := addSnapshotHistoryRows_keeps h.account hhistory
  obtain ⟨hviewport, hseen, hcharge'⟩ := addSnapshotRows_keeps hcharge hport
  refine ⟨h.scalars, h.bare, ?_, ?_, ?_, hbytes, ?_, ?_, ?_, ?_, ?_, ?_, ?_⟩
  · simp [PartialSnapshot.withPart, h.next]
  · intro i c hc
    obtain ⟨hid, hindex, hcount, hmeta⟩ :=
      h.parts_concat ⟨hid, hindex, hcount, part, hpart, hmeta⟩ i c hc
    exact ⟨hid, hindex, hcount, hmeta⟩
  · simp [PartialSnapshot.withPart, h.bytes]
  · rw [viewportOf_concat hpart]
    refine viewportFits_append.mpr ⟨h.viewport, ?_⟩
    exact h.seen ▸ hviewport.congr hsameRows.symm hsameCols.symm
  · rw [viewportOf_concat hpart, map_append, toFinset_append, ← h.seen]
    exact hseen
  · rw [viewportOf_concat hpart, fill_append]
    exact congrArg (fun rows => fill rowSlot some rows part.viewportRows) h.rows
  · rw [historyOf_concat hpart]
    refine historyFits_append.mpr ⟨h.history, ?_⟩
    exact h.nextHistory ▸ hhistoryFits.congr hsam.symm
  · rw [historyOf_concat hpart, ← h.historyRows]
    rfl
  · rw [historyOf_concat hpart, length_append, ← Nat.add_assoc]
    exact hnext.trans (congrArg (· + _) h.nextHistory)
  · rw [historyOf_concat hpart, viewportOf_concat hpart]
    exact hcharge'.perm (batches_perm _ _ _ _)

theorem Assembled.admitPart (h : Assembled sizes snp chunks)
    (hid : chunk.snapshotId = snp.snapshotId) (hpart : chunk.part = some part)
    (hok : admitPart snp chunk part (sizes.chunkLen chunk) nowMs = .ok (snapshot', assembly)) :
    Assembled sizes snapshot' (chunks ++ [chunk]) ∧ Outcome snapshot' assembly ∧
      snapshot'.snapshotId = snp.snapshotId ∧ snapshot'.chunkCount = snp.chunkCount ∧
      snapshot'.metadata = snp.metadata ∧ hasSameSnapshotMetadata snp.metadata part = true := by
  simp only [Cell.admitPart, ite_reject_eq_ok, bind_eq_ok, Prod.exists, not_not] at hok
  obtain ⟨hcount, hmeta, hindex, hbytes, nextHistoryIndex, account', hhistory, seenRows,
    account, hport, hout⟩ := hok
  have hmeta : hasSameSnapshotMetadata snp.metadata part = true := by
    simpa using hmeta
  have hgrown := h.withPart nowMs hid hcount hpart hmeta hindex (Nat.not_lt.mp hbytes) hhistory hport
  split at hout
  · rename_i hmore
    cases hout
    exact ⟨hgrown, Or.inl ⟨hmore, rfl⟩, rfl, rfl, rfl, hmeta⟩
  rename_i hlast
  rw [bind_eq_ok] at hout
  obtain ⟨frame, hframe, hout⟩ := hout
  cases hout
  exact ⟨hgrown, Or.inr ⟨hlast, frame, hframe, rfl⟩, rfl, rfl, rfl, hmeta⟩

/-! ## The completed frame -/

theorem requireRows_map_some (index : Nat) (rows : List PbCellRow) :
    requireRows index (rows.map some) = .ok rows := by
  induction rows generalizing index with
  | nil => rfl
  | cons row rows ih =>
    simp only [map_cons, requireRows, ih]
    rfl

section

variable (h : ViewportFits frame seenRows rows)
include h

theorem ViewportFits.slot_lt : ∀ row ∈ rows, rowSlot row < frame.rows.toNat := by
  intro row hmem
  exact UInt32.lt_iff_toNat_lt.mp (h.index row hmem)

theorem ViewportFits.slot_nodup : (rows.map rowSlot).Nodup := by
  have hslot : rows.map rowSlot = (rows.map PbCellRow.index).map UInt32.toNat := by
    simp [rowSlot]
  rw [hslot]
  exact h.nodup.map fun _ _ => UInt32.toNat_inj.mp

theorem ViewportFits.perm {rows' : List PbCellRow}
    (hperm : rows'.Perm rows) : ViewportFits frame seenRows rows' :=
  ⟨fun row hmem => h.index row (hperm.subset hmem), fun row hmem => h.spans row (hperm.subset hmem),
    (hperm.map _).nodup_iff.mpr h.nodup, fun row hmem => h.fresh row (hperm.subset hmem)⟩

end

/-- When all rows are there the parts make up the frame. -/
theorem Assembled.completedFrame (h : Assembled sizes snp chunks) : completedFrame snp = .ok frame ↔
      (viewportOf chunks).length = snp.metadata.rows.toNat ∧
        snp.metadata.sbBase.toNat + (historyOf chunks).length = snp.metadata.scrollbackTotal.toNat ∧
        createCellGridFramePart snp.metadata
          (collect rowSlot snp.metadata.rows.toNat (viewportOf chunks))
          (historyOf chunks) = frame := by
  have hcard : snp.seenRows.card = (viewportOf chunks).length := by
    rw [h.seen, toFinset_card_of_nodup h.viewport.nodup, length_map]
  have hslots : snp.rows.length = snp.metadata.rows.toNat := by simp [h.rows]
  simp only [Cell.completedFrame, ite_reject_eq_ok, not_not, hcard, hslots, h.nextHistory,
    bind_eq_ok, ok.injEq, h.historyRows]
  constructor
  · rintro ⟨hcount, hend, rows, hrows, hframe⟩
    rw [h.rows, fill_full h.viewport.slot_lt h.viewport.slot_nodup hcount,
      requireRows_map_some, ok.injEq] at hrows
    exact ⟨hcount, hend, hrows ▸ hframe⟩
  · rintro ⟨hcount, hend, hframe⟩
    refine ⟨hcount, hend, _, ?_, hframe⟩
    rw [h.rows, fill_full h.viewport.slot_lt h.viewport.slot_nodup hcount, requireRows_map_some]

/-- What the parts make up is a valid snapshot. -/
theorem Assembled.valid (h : Assembled sizes snp chunks)
    (hframe : Cell.completedFrame snp = .ok frame) : ValidSnapshot frame := by
  obtain ⟨hcount, hend, rfl⟩ := h.completedFrame.mp hframe
  have hlt := h.viewport.slot_lt
  have hnd := h.viewport.slot_nodup
  have hperm := collect_perm hlt hnd hcount
  have hscalar := h.scalars
  rw [← h.bare] at hscalar
  have hport := h.viewport.perm hperm
  refine ⟨hscalar, ⟨hport.index, hport.spans, hport.nodup, hport.fresh⟩, ?_,
    ⟨h.history.index, h.history.total, h.history.spans⟩, hend, ?_⟩
  · exact collect_length hlt hnd hcount
  · -- The account of the parts is the account of the frame: only the order differs.
    refine (h.account.perm ?_).accountable
    exact perm_append_comm.trans (hperm.symm.append_right _)

end Admission

/-! ## Pushes -/

namespace CellGridChunkAssembler

variable {sizes : Sizes} {asm assembler' : CellGridChunkAssembler} {chunk : PbCellGridChunk}
  {part : PbCellGridFrame} {nowMs : Nat} {assembly : CellGridChunkAssembly}

theorem checkPart_eq_ok : checkPart sizes chunk = .ok part ↔
      isTerminalUuid chunk.snapshotId = true ∧
        (1 ≤ chunk.chunkCount ∧ chunk.chunkCount ≤ cellGridSnapshotMaxChunks) ∧
        chunk.chunkIndex < chunk.chunkCount ∧ chunk.part = some part ∧
        assertSnapshotScalars part = .ok () ∧ ¬(part.viewportRows = [] ∧ part.scrollbackRows = []) ∧
        sizes.chunkLen chunk ≤ cellGridPartMaxBytes := by
  unfold checkPart
  simp only [ite_reject_eq_ok, not_or, UInt32.not_lt, gt_iff_lt, ge_iff_le, UInt32.not_le,
    Bool.not_eq_true', Bool.not_eq_false]
  cases hpart : chunk.part with
  | none => simp
  | some =>
    simp only [bind_eq_ok, ite_reject_eq_ok, Bool.and_eq_true, List.isEmpty_iff,
      ok.injEq, Option.some.injEq, Nat.not_lt]
    constructor
    · rintro ⟨hid, hcount, hindex, _, hscalar, hrows, hbytes, heq⟩
      subst heq
      exact ⟨hid, hcount, hindex, rfl, hscalar, hrows, hbytes⟩
    · rintro ⟨hid, hcount, hindex, heq, hscalar, hrows, hbytes⟩
      subst heq
      exact ⟨hid, hcount, hindex, (), hscalar, hrows, hbytes, rfl⟩

theorem target_eq_ok {snp : PartialSnapshot} (h : target asm chunk part nowMs = .ok snp) :
    (asm.inFlight = some snp ∧ snp.snapshotId = chunk.snapshotId) ∨
      (chunk.chunkIndex = 0 ∧ snp = PartialSnapshot.new chunk part nowMs ∧
        ∀ held, asm.inFlight = some held → held.snapshotId ≠ chunk.snapshotId) := by
  unfold target at h
  cases hfly : asm.inFlight with
  | none =>
    simp only [hfly, ite_reject_eq_ok, not_not, ok.injEq] at h
    exact Or.inr ⟨h.1, h.2.symm, by simp⟩
  | some held =>
    simp only [hfly, ite_reject_eq_ok] at h
    obtain ⟨-, h⟩ := h
    split at h
    · rename_i hother
      simp only [ite_reject_eq_ok, not_not, ok.injEq] at h
      refine Or.inr ⟨h.1, h.2.2.2.symm, ?_⟩
      intro other heq
      cases heq
      exact hother
    · rename_i hsame
      cases h
      exact Or.inl ⟨rfl, not_not.mp hsame⟩

theorem pushChecked_eq_ok (h : pushChecked sizes asm chunk nowMs = .ok (assembler', assembly)) :
    ∃ part snapshot snapshot', checkPart sizes chunk = .ok part ∧
        target asm chunk part nowMs = .ok snapshot ∧
        admitPart snapshot chunk part (sizes.chunkLen chunk) nowMs = .ok (snapshot', assembly) ∧
        assembler'.inFlight = match assembly with
          | .complete .. => none
          | .pending .. => some snapshot' := by
  simp only [pushChecked, bind_eq_ok, Prod.exists] at h
  obtain ⟨part, hpart, snapshot, htarget, snapshot', assembly', hadmits, hout⟩ := h
  refine ⟨part, snapshot, snapshot', hpart, htarget, ?_⟩
  cases assembly' with
  | complete | pending =>
    cases hout
    exact ⟨hadmits, rfl⟩

/-! ## What a run leaves in flight -/

def accepted? : Op × Reply → Option PbCellGridChunk
  | (.push chunk _, .pushed (.ok _)) => some chunk
  | _ => none

/-- An operation that leaves a snapshot in flight: an accepted push, or an expiry that
dropped nothing. -/
def Kept : Op × Reply → Prop
  | (.push _ _, .pushed (.ok _)) => True
  | (.expire _, .expired false) => True
  | _ => False

/-- The trace ends in a contiguous run of accepted pushes of exactly these chunks. -/
def EndsWith (past : List (Op × Reply)) (chunks : List PbCellGridChunk) : Prop :=
  ∃ segment, segment <:+ past ∧ (∀ event ∈ segment, Kept event) ∧
    segment.filterMap accepted? = chunks

theorem endsWith_nil (past : List (Op × Reply)) : EndsWith past [] :=
  ⟨[], nil_suffix, by simp, rfl⟩

variable {chunks : List PbCellGridChunk}

theorem EndsWith.concat {past : List (Op × Reply)}
    (h : EndsWith past chunks) (event : Op × Reply) (hkept : Kept event) :
    EndsWith (past ++ [event]) (chunks ++ (accepted? event).toList) := by
  obtain ⟨segment, hsuffix, hall, rfl⟩ := h
  refine ⟨segment ++ [event], suffix_append_self_iff.mpr hsuffix, ?_, ?_⟩
  · intro other hmem
    rcases mem_append.mp hmem with hmem | hmem
    · exact hall other hmem
    · exact mem_singleton.mp hmem ▸ hkept
  · cases hevent : accepted? event <;> simp [hevent]

/-- What is in flight after a trace: nothing, or a snapshot made of the chunks the trace
ends with, with more owed. `U` is a further property of the chunks and the first
part's scalars. -/
def Tracks (sizes : Sizes) (U : PbCellGridFrame → List PbCellGridChunk → Prop)
    (past : List (Op × Reply)) (assembler : CellGridChunkAssembler) : Prop :=
  ∀ snapshot, assembler.inFlight = some snapshot →
    ∃ chunks, Assembled sizes snapshot chunks ∧ chunks.length < snapshot.chunkCount.toNat ∧
      EndsWith past chunks ∧ U snapshot.metadata chunks

variable {U : PbCellGridFrame → List PbCellGridChunk → Prop} {past : List (Op × Reply)}

theorem Tracks.pushChecked (h : Tracks sizes U past asm)
    (hstart : ∀ part, chunk.part = some part → U (scalarsOf part) [chunk])
    (hextend : ∀ held part chunks, asm.inFlight = some held →
      held.snapshotId = chunk.snapshotId → chunk.part = some part → U held.metadata chunks →
      U held.metadata (chunks ++ [chunk]))
    (hok : pushChecked sizes asm chunk nowMs = .ok (assembler', assembly)) :
    ∃ snapshot chunks, Assembled sizes snapshot chunks ∧ Outcome snapshot assembly ∧
        chunks.length ≤ snapshot.chunkCount.toNat ∧ snapshot.chunkCount = chunk.chunkCount ∧
        EndsWith (past ++ [(.push chunk nowMs, .pushed (.ok assembly))]) chunks ∧
        U snapshot.metadata chunks ∧ assembler'.inFlight = match assembly with
          | .complete .. => none
          | .pending .. => some snapshot := by
  obtain ⟨part, snapshot, snapshot', hcheck, htarget, hadmits, hfly⟩ := pushChecked_eq_ok hok
  obtain ⟨-, -, hindex, hpart, hscalar, -, -⟩ := checkPart_eq_ok.mp hcheck
  have hbelow := UInt32.lt_iff_toNat_lt.mp hindex
  -- The chunks before this one, and what is known of them.
  obtain ⟨chunks, hass, hid, hends, hU⟩ : ∃ chunks, Assembled sizes snapshot chunks ∧
      chunk.snapshotId = snapshot.snapshotId ∧ EndsWith past chunks ∧
      U snapshot.metadata (chunks ++ [chunk]) := by
    rcases target_eq_ok htarget with ⟨hheld, hid⟩ | ⟨-, rfl, -⟩
    · obtain ⟨chunks, hass, -, hends, hU⟩ := h snapshot hheld
      exact ⟨chunks, hass, hid.symm, hends, hextend snapshot part chunks hheld hid hpart hU⟩
    · exact ⟨[], assembled_new hscalar, rfl, endsWith_nil past, hstart part hpart⟩
  obtain ⟨hgrown, houtcome, -, _, hmeta, -⟩ := hass.admitPart hid hpart hadmits
  obtain ⟨-, hlast, hlastCount, -⟩ := hgrown.parts chunks.length chunk (by simp)
  refine ⟨snapshot', chunks ++ [chunk], hgrown, houtcome, ?_, hlastCount.symm, hends.concat _ trivial,
    hmeta ▸ hU, hfly⟩
  rw [length_append, length_singleton, ← hlastCount, ← hlast]
  exact hbelow

theorem push_eq_ok (h : push sizes asm chunk nowMs = (assembler', .ok assembly)) :
    CellGridChunkAssembler.pushChecked sizes asm chunk nowMs = .ok (assembler', assembly) := by
  unfold push at h
  split at h
  · cases h
    assumption
  · cases h

/-- A rejected part drops what is in flight. -/
theorem push_eq_error {error : CellGridChunkError}
    (h : push sizes asm chunk nowMs = (assembler', .error error)) : assembler'.inFlight = none := by
  unfold push at h
  split at h
  · cases h
  · cases h
    rfl

theorem push_pending {snap : String} {nextChunkIndex : Nat} (h : push sizes asm chunk nowMs =
      (assembler', .ok (.pending snap nextChunkIndex))) : assembler'.inFlight.isSome = true := by
  obtain ⟨_, _, _, -, -, -, hfly⟩ := pushChecked_eq_ok (push_eq_ok h)
  rw [hfly]
  rfl

variable {part frame : PbCellGridFrame}

theorem push_complete_streamId {snap : String}
    (h : push sizes asm chunk nowMs = (assembler', .ok (.complete snap frame)))
    (hpart : chunk.part = some part) : frame.streamId = part.streamId := by
  obtain ⟨part', snapshot, snapshot', hcheck, -, hadmits, -⟩ := pushChecked_eq_ok (push_eq_ok h)
  obtain ⟨-, -, -, hpart', -⟩ := checkPart_eq_ok.mp hcheck
  cases hpart.symm.trans hpart'
  simp only [admitPart, ite_reject_eq_ok, bind_eq_ok, Prod.exists, not_not] at hadmits
  obtain ⟨-, hmeta, -, -, _, _, -, _, _, -, hout⟩ := hadmits
  split at hout
  · cases hout
  rw [bind_eq_ok] at hout
  obtain ⟨completed, hcomplete, hout⟩ := hout
  cases hout
  simp only [completedFrame, ite_reject_eq_ok, bind_eq_ok, ok.injEq] at hcomplete
  obtain ⟨-, -, _, -, rfl⟩ := hcomplete
  simp only [Bool.not_eq_true', Bool.not_eq_false, hasSameSnapshotMetadata, Bool.and_eq_true,
    beq_iff_eq] at hmeta
  simp only [createCellGridFramePart, PartialSnapshot.withPart]
  tauto

variable {result : ChunkResult CellGridChunkAssembly}

theorem Tracks.pushed (h : Tracks sizes U past asm)
    (hstart : ∀ part, chunk.part = some part → U (scalarsOf part) [chunk])
    (hextend : ∀ held part chunks, asm.inFlight = some held →
      held.snapshotId = chunk.snapshotId → chunk.part = some part → U held.metadata chunks →
      U held.metadata (chunks ++ [chunk]))
    (hpush : push sizes asm chunk nowMs = (assembler', result)) :
    Tracks sizes U (past ++ [(.push chunk nowMs, .pushed result)]) assembler' := by
  intro snapshot hsnapshot
  cases result with
  | error =>
    rw [push_eq_error hpush] at hsnapshot
    cases hsnapshot
  | ok =>
    obtain ⟨grown, chunks, hass, houtcome, -, -, hends, hU, hfly⟩ :=
      h.pushChecked hstart hextend (push_eq_ok hpush)
    rcases houtcome with ⟨hmore, rfl⟩ | ⟨-, frame, -, rfl⟩
    · obtain rfl : grown = snapshot := Option.some.inj (hfly.symm.trans hsnapshot)
      exact ⟨chunks, hass, hass.next ▸ hmore, hends, hU⟩
    · rw [hfly] at hsnapshot
      cases hsnapshot

theorem Tracks.expired (h : Tracks sizes U past asm) (nowMs : Nat) :
    Tracks sizes U (past ++ [(.expire nowMs, .expired (asm.expire nowMs).2)])
      (asm.expire nowMs).1 := by
  intro snp hsnapshot
  unfold expire at hsnapshot ⊢
  cases hfly : asm.inFlight with
  | none =>
    simp only [hfly] at hsnapshot
    cases hsnapshot
  | some held =>
    simp only [hfly] at hsnapshot ⊢
    by_cases hstall : stalled held nowMs
    · simp only [if_pos hstall] at hsnapshot
      cases hsnapshot
    simp only [if_neg hstall, hfly, Option.some.injEq] at hsnapshot ⊢
    subst hsnapshot
    obtain ⟨chunks, hass, hmore, hends, hU⟩ := h held hfly
    have hends' := hends.concat (.expire nowMs, .expired false) trivial
    exact ⟨chunks, hass, hmore, by simpa [accepted?] using hends', hU⟩

/-- One operation keeps what the snapshot in flight is made from. -/
theorem Tracks.next {op : Op} (h : Tracks sizes U past asm)
    (hstart : ∀ chunk nowMs part, op = .push chunk nowMs → chunk.part = some part →
      U (scalarsOf part) [chunk])
    (hextend : ∀ chunk nowMs held part chunks, op = .push chunk nowMs →
      asm.inFlight = some held → held.snapshotId = chunk.snapshotId →
      chunk.part = some part → U held.metadata chunks → U held.metadata (chunks ++ [chunk])) :
    Tracks sizes U (past ++ [(op, (machine sizes).answer asm op)])
      ((machine sizes).next asm op) := by
  cases op with
  | push chunk nowMs =>
    apply h.pushed
    · intro part hpart
      exact hstart chunk nowMs part rfl hpart
    · intro held part chunks
      exact hextend chunk nowMs held part chunks rfl
    · rfl
  | reset =>
    intro snp hsnapshot
    cases hsnapshot
  | expire nowMs => exact h.expired nowMs

theorem push_of_answer
    (h : (machine sizes).answer asm (.push chunk nowMs) = .pushed result) :
    push sizes asm chunk nowMs = ((machine sizes).next asm (.push chunk nowMs), result) := by
  simp only [Transducer.answer, Transducer.next, machine, Reply.pushed.injEq] at h ⊢
  exact Prod.ext rfl h

theorem tracks_new : Tracks sizes U [] new := by
  intro snp h
  cases h

/-! ## Soundness -/

/-- The snapshot in flight is made from the chunks of the run. -/
theorem tracks_run (sizes : Sizes) (ops : List Op) :
    Tracks sizes (fun _ _ => True) ((machine sizes).trace new ops) ((machine sizes).run new ops) := by
  refine (Transducer.along_true new ops).traced tracks_new ?_
  intro past asm op h _
  exact h.next (fun _ _ _ _ _ => trivial) (fun _ _ _ _ _ _ _ _ _ _ => trivial)

/-- What the snapshot in flight never exceeds, and how its link map reads the rows it
holds: one URI for a key, the one every row with that key carries. -/
structure Bounded (snapshot : PartialSnapshot) : Prop where
  bytes : snapshot.totalBytes ≤ cellGridSnapshotMaxBytes
  spans : snapshot.spans ≤ cellGridSnapshotMaxSpans
  links : snapshot.links.keys.length ≤ cellGridSnapshotMaxLinkMappings
  keys : ∀ key mapping, snapshot.links.lookup key = some mapping → mapping.key = key
  uris : ∀ row ∈ snapshot.historyRows ++ snapshot.rows.filterMap id, ∀ span ∈ row.spans,
    ∀ key uri, span.linkKey = some key → span.linkUri = some uri →
      snapshot.links.lookup key = some { key, uri }

theorem bounded_of_assembled {snapshot : PartialSnapshot}
    (h : Assembled sizes snapshot chunks) : Bounded snapshot := by
  refine ⟨h.bytesCap, h.account.spanCap, h.account.linkCap, ?_, ?_⟩
  · intro key mapping hlook
    exact rowLinks_key ((h.account.links key mapping).mp hlook)
  intro row hrow span hspan key uri hkey huri
  refine (h.account.links key { key, uri }).mpr (mem_rowLinks.mpr ⟨row, ?_, ?_⟩)
  · rcases mem_append.mp hrow with hhistory | hport
    · exact mem_append.mpr (Or.inl (h.historyRows ▸ hhistory))
    obtain ⟨_, hslot, heq⟩ := mem_filterMap.mp hport
    rw [id_eq] at heq
    rw [heq, h.rows] at hslot
    rcases mem_fill hslot with hnone | ⟨held, hheld, hsome⟩
    · cases (mem_replicate.mp hnone).2
    · exact mem_append.mpr (Or.inr (Option.some.inj hsome ▸ hheld))
  · exact mem_filterMap.mpr ⟨span, hspan, by simp [spanLink?, hkey, huri]⟩

/-- Whatever operations an assembler has seen: a frame it completes is accepted by the
snapshot validator, a part it rejects leaves nothing in flight, and what is in flight
is within its bounds. -/
theorem assembly_sound (sizes : Sizes) (ops : List Op) :
    let assembler := (machine sizes).run new ops
    (∀ chunk nowMs id frame,
        (machine sizes).answer assembler (.push chunk nowMs) = .pushed (.ok (.complete id frame)) →
        ∃ stats, assertCellGridSnapshot frame = .ok stats) ∧
      (∀ chunk nowMs error,
        (machine sizes).answer assembler (.push chunk nowMs) = .pushed (.error error) →
        ((machine sizes).next assembler (.push chunk nowMs)).inFlight = none) ∧
      ∀ snapshot, assembler.inFlight = some snapshot → Bounded snapshot := by
  intro assembler
  have htracks := tracks_run sizes ops
  refine ⟨?_, ?_, ?_⟩
  · intro chunk nowMs id frame hanswer
    obtain ⟨_, _, hass, houtcome, -⟩ :=
      htracks.pushChecked (fun _ _ => trivial) (fun _ _ _ _ _ _ _ => trivial)
        (push_eq_ok (push_of_answer hanswer))
    rcases houtcome with ⟨-, hpend⟩ | ⟨-, completed, hcomplete, heq⟩
    · cases hpend
    · cases heq
      exact assertCellGridSnapshot_iff.mpr (hass.valid hcomplete)
  · intro chunk nowMs error hanswer
    exact push_eq_error (push_of_answer hanswer)
  · intro snapshot hfly
    obtain ⟨_, hass, -⟩ := htracks snapshot hfly
    exact bounded_of_assembled hass

/-! ## Consistency -/

/-- A part pushed into the snapshot in flight carries the keyboard flags of its first
part. The comparison of parts leaves this field out. -/
def KeyboardAgrees (assembler : CellGridChunkAssembler) : Op → Prop
  | .push chunk _ => ∀ held part, assembler.inFlight = some held →
      held.snapshotId = chunk.snapshotId → chunk.part = some part →
      part.kittyKeyboardFlags = held.metadata.kittyKeyboardFlags
  | _ => True

/-- All chunks carry the keyboard flags of the first part. -/
def SameKeyboard (metadata : PbCellGridFrame) (chunks : List PbCellGridChunk) : Prop :=
  ∀ chunk ∈ chunks, ∀ part, chunk.part = some part →
    part.kittyKeyboardFlags = metadata.kittyKeyboardFlags

theorem sameKeyboard_start (h : chunk.part = some part) :
    SameKeyboard (scalarsOf part) [chunk] := by
  intro other hmem part' hpart'
  obtain rfl := mem_singleton.mp hmem
  cases h.symm.trans hpart'
  rfl

theorem SameKeyboard.extend {held : PartialSnapshot}
    (hagrees : KeyboardAgrees asm (.push chunk nowMs))
    (hheld : asm.inFlight = some held) (hid : held.snapshotId = chunk.snapshotId)
    (h : SameKeyboard held.metadata chunks) :
    SameKeyboard held.metadata (chunks ++ [chunk]) := by
  intro other hmem part' hpart'
  rcases mem_append.mp hmem with hmem | hmem
  · exact h other hmem part' hpart'
  · obtain rfl := mem_singleton.mp hmem
    exact hagrees held part' hheld hid hpart'

theorem tracks_keyboard {sizes : Sizes} {ops : List Op}
    (h : (machine sizes).Along KeyboardAgrees new ops) :
    Tracks sizes SameKeyboard ((machine sizes).trace new ops) ((machine sizes).run new ops) := by
  refine h.traced tracks_new ?_
  intro past asm op htracks hagrees
  refine htracks.next ?_ ?_
  · intro chunk nowMs part _ hpart
    exact sameKeyboard_start hpart
  · intro chunk nowMs held part chunks hop hheld hid _ hsame
    exact hsame.extend (hop ▸ hagrees) hheld hid

/-- In a run whose pushes agree on the keyboard flags, a completed frame is made from one
contiguous run of accepted parts of one snapshot, numbered from 0 to the last, and every
scalar field of each part is the completed frame's. -/
theorem complete_consistent {sizes : Sizes} {ops : List Op} {chunk : PbCellGridChunk} {nowMs : Nat}
    {id : String}
    (hkeyboard : (machine sizes).Along KeyboardAgrees new (ops ++ [.push chunk nowMs]))
    (hanswer : (machine sizes).answer ((machine sizes).run new ops) (.push chunk nowMs) =
      .pushed (.ok (.complete id frame))) :
    ∃ chunks, EndsWith ((machine sizes).trace new (ops ++ [.push chunk nowMs])) chunks ∧
      chunks.length = chunk.chunkCount.toNat ∧
      (∀ (i : Nat) (c : PbCellGridChunk), chunks[i]? = some c →
        c.snapshotId = id ∧ c.chunkIndex.toNat = i ∧ c.chunkCount = chunk.chunkCount ∧
          ∃ part, c.part = some part ∧ scalarsOf part = scalarsOf frame) ∧
      frame.scrollbackRows = historyOf chunks ∧
      frame.viewportRows.Perm (viewportOf chunks) := by
  rw [Transducer.along_concat] at hkeyboard
  obtain ⟨_, chunks, hassembled, houtcome, hle, hcount, hends, hsame, -⟩ :=
    (tracks_keyboard hkeyboard.1).pushChecked (fun _ => sameKeyboard_start)
      (fun _ _ _ hheld hid _ hsame => hsame.extend hkeyboard.2 hheld hid)
      (push_eq_ok (push_of_answer hanswer))
  rcases houtcome with ⟨-, hpending⟩ | ⟨hdone, completed, hcompleted, heq⟩
  · cases hpending
  cases heq
  obtain ⟨hrows, _, rfl⟩ := hassembled.completedFrame.mp hcompleted
  rw [Transducer.trace_concat, hanswer]
  refine ⟨chunks, hends, ?_, ?_, rfl, ?_⟩
  · rw [← hcount]
    exact Nat.le_antisymm hle (hassembled.next ▸ Nat.not_lt.mp hdone)
  · intro i c hc
    obtain ⟨hid, hindex, hchunkCount, part, hpart, hmetadata⟩ := hassembled.parts i c hc
    have hflags := hsame c (mem_of_getElem? hc) part hpart
    refine ⟨hid, hindex, hchunkCount.trans hcount, part, hpart, ?_⟩
    exact (scalarsOf_eq_iff.mpr ⟨hmetadata, hflags.symm⟩).symm
  · exact collect_perm hassembled.viewport.slot_lt hassembled.viewport.slot_nodup hrows

/-- One of the two parts of a two-row snapshot, with keyboard flags of its own. -/
def halfChunk (index flags : UInt32) : PbCellGridChunk where
  snapshotId := "00000000-0000-4000-8000-000000000002"
  chunkIndex := index
  chunkCount := 2
  part := some
    { streamId := "00000000-0000-4000-8000-000000000001"
      gridEpoch := "epoch"
      cols := 1
      rows := 2
      full := true
      seq := 1
      kittyKeyboardFlags := flags
      viewportRows := [{ index }] }

/-- What the two halves complete to: the first half's flags and both rows. -/
def twoHalves (flags : UInt32) : PbCellGridFrame where
  streamId := "00000000-0000-4000-8000-000000000001"
  gridEpoch := "epoch"
  cols := 1
  rows := 2
  full := true
  seq := 1
  kittyKeyboardFlags := flags
  viewportRows := [{ index := 0 }, { index := 1 }]

theorem complete_consistent_twoHalves : ∃ chunks, EndsWith
        ((machine wireSizes).trace new ([.push (halfChunk 0 1) 0] ++ [.push (halfChunk 1 1) 5]))
        chunks ∧
      chunks.length = (halfChunk 1 1).chunkCount.toNat ∧
      (∀ (i : Nat) (c : PbCellGridChunk), chunks[i]? = some c →
        c.snapshotId = "00000000-0000-4000-8000-000000000002" ∧ c.chunkIndex.toNat = i ∧
          c.chunkCount = (halfChunk 1 1).chunkCount ∧
          ∃ part, c.part = some part ∧ scalarsOf part = scalarsOf (twoHalves 1)) ∧
      (twoHalves 1).scrollbackRows = historyOf chunks ∧
      (twoHalves 1).viewportRows.Perm (viewportOf chunks) := by
  refine complete_consistent ⟨?_, ?_, trivial⟩ (by decide +kernel)
  · intro held part hheld
    cases hheld
  intro held part hheld _ hpart
  have hflags : ((machine wireSizes).next new (.push (halfChunk 0 1) 0)).inFlight.map
      (fun held => held.metadata.kittyKeyboardFlags) = some 1 := by decide +kernel
  rw [hheld, Option.map_some, Option.some.injEq] at hflags
  rw [hflags]
  cases hpart
  rfl

/-- Two parts that differ in their keyboard flags complete to a frame all the same, with
the flags of the first, which are not those of both parts the frame is made from. -/
theorem complete_inconsistent_keyboard :
    (machine wireSizes).answer ((machine wireSizes).run new [.push (halfChunk 0 0) 0])
        (.push (halfChunk 1 1) 0) =
      .pushed (.ok (.complete "00000000-0000-4000-8000-000000000002" (twoHalves 0))) ∧
    ¬∃ chunks, EndsWith
        ((machine wireSizes).trace new [.push (halfChunk 0 0) 0, .push (halfChunk 1 1) 0])
        chunks ∧
      chunks.length = (halfChunk 1 1).chunkCount.toNat ∧
      ∀ (i : Nat) (c : PbCellGridChunk), chunks[i]? = some c →
        ∃ part, c.part = some part ∧ scalarsOf part = scalarsOf (twoHalves 0) := by
  refine ⟨by decide +kernel, ?_⟩
  rintro ⟨chunks, ⟨segment, hsuffix, _, hsegm⟩, hlen, hparts⟩
  have hacc : ((machine wireSizes).trace new
      [.push (halfChunk 0 0) 0, .push (halfChunk 1 1) 0]).filterMap accepted? =
        [halfChunk 0 0, halfChunk 1 1] := by decide +kernel
  have hall := hsuffix.filterMap accepted?
  rw [hacc, hsegm] at hall
  obtain rfl := hall.eq_of_length hlen
  obtain ⟨part, hpart, hscalar⟩ := hparts 1 (halfChunk 1 1) rfl
  cases hpart
  exact absurd (scalarsOf_eq_iff.mp hscalar).2 (by decide)

end CellGridChunkAssembler

end Roost.Cell
