-- SUMMARY: The chunks of a frame, pushed in order, complete to the frame.
import Roost.Cell.ChunkAssembly
import Roost.Cell.ChunkPlan

/-!
# The chunk round trip

The two halves meet at `Cuts`, a description of a list of chunks that carries a frame:
its rows, each once, under its scalars, within the limits. The first half shows that
chunking makes such a list. The second shows that an assembler takes every such list
of a valid frame, one chunk after another, and completes on the last.
-/

namespace Roost.Cell

open UInt32 (ofNat size toNat_ofNat_of_lt')

open List

open Transducer

/-- The chunks carry the frame. -/
structure Cuts (sizes : Sizes) (frame : PbCellGridFrame) (snapshotId : String)
    (chunks : List PbCellGridChunk) : Prop where
  nonempty : chunks ≠ []
  count : chunks.length ≤ cellGridSnapshotMaxChunks.toNat
  parts : ∀ (i : Nat) (chunk : PbCellGridChunk), chunks[i]? = some chunk →
    ∃ rows scrollbackRows, ¬(rows = [] ∧ scrollbackRows = []) ∧
      chunk =
        { snapshotId
          chunkIndex := ofNat i
          chunkCount := ofNat chunks.length
          part := some (createCellGridFramePart frame rows scrollbackRows) } ∧
      sizes.chunkLen chunk ≤ cellGridPartMaxBytes
  bytes : (chunks.map sizes.chunkLen).sum ≤ cellGridSnapshotMaxBytes
  viewport : (viewportOf chunks).Perm frame.viewportRows
  history : historyOf chunks = frame.scrollbackRows

variable {sizes : Sizes} {frame : PbCellGridFrame} {snap : String}
  {chunks : List PbCellGridChunk}

/-! ## Chunking cuts -/

theorem PlannedFor.rows_nonempty {part : PlannedSnapshotPart} (h : PlannedFor sizes frame part) :
    ¬(foundRows frame false part.entries = [] ∧ foundRows frame true part.entries = []) := by
  rintro ⟨hport, hhistory⟩
  obtain ⟨entry, hentry⟩ := exists_mem_of_ne_nil _ h.nonempty
  obtain ⟨row, hrow⟩ := h.charges.found entry hentry
  have hmem : row ∈ foundRows frame entry.history part.entries :=
    mem_filterMap.mpr ⟨entry, mem_filter.mpr ⟨hentry, by simp⟩, hrow⟩
  cases hfamily : entry.history with
  | false => simp [hfamily, hport] at hmem
  | true => simp [hfamily, hhistory] at hmem

theorem plannedRows (frame : PbCellGridFrame) (snap : String) (parts : List PlannedSnapshotPart)
    (count start : Nat) : viewportOf ((parts.zipIdx start).map fun (part, index) =>
        plannedChunk frame snap count part index) =
        foundRows frame false (parts.flatMap PlannedSnapshotPart.entries) ∧
      historyOf ((parts.zipIdx start).map fun (part, index) =>
        plannedChunk frame snap count part index) =
        foundRows frame true (parts.flatMap PlannedSnapshotPart.entries) := by
  induction parts generalizing start with
  | nil => exact ⟨rfl, rfl⟩
  | cons part parts ih =>
    obtain ⟨hport, hhistory⟩ := ih (start + 1)
    rw [flatMap_cons, foundRows_append, foundRows_append, ← hport, ← hhistory]
    exact ⟨rfl, rfl⟩

/-- The chunks of a plan, in order. -/
def plannedChunks (frame : PbCellGridFrame) (snapshotId : String)
    (parts : List PlannedSnapshotPart) : List PbCellGridChunk :=
  parts.zipIdx.map fun (part, index) => plannedChunk frame snapshotId parts.length part index

variable {parts : List PlannedSnapshotPart}

theorem plannedChunks_getElem? (i : Nat) :
    (plannedChunks frame snap parts)[i]? =
      parts[i]?.map fun part => plannedChunk frame snap parts.length part i := by
  rw [plannedChunks, getElem?_map, getElem?_zipIdx, Nat.zero_add, Option.map_map]
  rfl

theorem cuts_of_plan (hsizes : sizes.Additive) (hvalid : ValidSnapshot frame)
    (hid : isTerminalUuid snap = true)
    (hplan : planSnapshotParts sizes frame = .ok parts)
    (hbytes : ∀ chunk ∈ plannedChunks frame snap parts,
      sizes.chunkLen chunk ≤ cellGridPartMaxBytes) :
    Cuts sizes frame snap (plannedChunks frame snap parts) := by
  obtain ⟨horder, hparts, hnon, hcount, htotal⟩ := planSnapshotParts_eq_ok hplan
  have hlen : (plannedChunks frame snap parts).length = parts.length := by
    simp [plannedChunks]
  obtain ⟨hport, hhistory⟩ := plannedRows frame snap parts parts.length 0
  rw [horder] at hport hhistory
  refine ⟨?_, hlen ▸ hcount, ?_, ?_, ?_, ?_⟩
  · intro hnil
    rw [hnil] at hlen
    exact hnon (length_eq_zero_iff.mp hlen.symm)
  · intro i chunk hchunk
    have hmem := mem_of_getElem? hchunk
    rw [plannedChunks_getElem?, Option.map_eq_some_iff] at hchunk
    obtain ⟨part, hpart, rfl⟩ := hchunk
    have hplanned := hparts part (mem_of_getElem? hpart)
    exact ⟨_, _, hplanned.rows_nonempty, hlen ▸ rfl, hbytes _ hmem⟩
  · rw [plannedChunks, ← planTotalBytes_eq hsizes hid hparts]
    exact htotal
  · rw [plannedChunks, hport, foundRows_viewport]
    exact Slots.collect_perm hvalid.viewport.slot_lt hvalid.viewport.slot_nodup hvalid.rowCount
  · rw [plannedChunks, hhistory, foundRows_history hvalid]

/-- Chunking cuts the frame. -/
theorem cuts_of_chunkCellGridFrame (hsizes : sizes.Additive)
    (h : chunkCellGridFrame sizes frame snap = .ok chunks) : Cuts sizes frame snap chunks := by
  obtain ⟨hvalid, hid, parts, hplan, hlen, hchunks⟩ := chunkCellGridFrame_eq_ok h
  have hmap : chunks = plannedChunks frame snap parts := by
    apply ext_getElem?
    intro i
    rw [plannedChunks_getElem?]
    cases hchunk : chunks[i]? with
    | none =>
      have hnone : parts[i]? = none := by simpa [hlen] using hchunk
      rw [hnone]
      rfl
    | some chunk =>
      obtain ⟨_, hpart, rfl, -⟩ := hchunks i chunk hchunk
      rw [hpart]
      rfl
  subst hmap
  refine cuts_of_plan hsizes hvalid hid hplan ?_
  intro chunk hmem
  obtain ⟨i, hi⟩ := mem_iff_getElem?.mp hmem
  obtain ⟨-, -, -, hbytes⟩ := hchunks i chunk hi
  exact hbytes

/-! ## A part that follows -/

structure Follows (sizes : Sizes) (snapshot : PartialSnapshot) (done : List PbCellGridChunk)
    (chunk : PbCellGridChunk) (part : PbCellGridFrame) : Prop where
  id : chunk.snapshotId = snapshot.snapshotId
  count : chunk.chunkCount = snapshot.chunkCount
  carries : chunk.part = some part
  metadata : hasSameSnapshotMetadata snapshot.metadata part = true
  index : chunk.chunkIndex.toNat = done.length
  bytes : ((done ++ [chunk]).map sizes.chunkLen).sum ≤ cellGridSnapshotMaxBytes
  viewport : ViewportFits snapshot.metadata ∅ (viewportOf (done ++ [chunk]))
  history : HistoryFits snapshot.metadata snapshot.metadata.sbBase.toNat
    (historyOf (done ++ [chunk]))
  account : Accountable (historyOf (done ++ [chunk]) ++ viewportOf (done ++ [chunk]))

variable {snp : PartialSnapshot} {chunk : PbCellGridChunk}

theorem Follows.admitPart {done : List PbCellGridChunk}
    {part : PbCellGridFrame} (h : Follows sizes snp done chunk part)
    (hass : Assembled sizes snp done) (nowMs : Nat) :
    ∃ snapshot', Assembled sizes snapshot' (done ++ [chunk]) ∧
      snapshot'.snapshotId = snp.snapshotId ∧ snapshot'.chunkCount = snp.chunkCount ∧
      snapshot'.metadata = snp.metadata ∧ snapshot'.lastChunkAtMs = nowMs ∧
      ∀ assembly, Outcome snapshot' assembly →
        admitPart snp chunk part (sizes.chunkLen chunk) nowMs = .ok (snapshot', assembly) := by
  obtain ⟨hsameRows, hsameCols, hsameTot⟩ := hasSame_fields h.metadata
  have hport := h.viewport
  have hhistory := h.history
  have hacc := h.account
  rw [viewportOf_concat h.carries] at hport hacc
  rw [historyOf_concat h.carries] at hhistory hacc
  have hacc : Accountable (historyOf done ++ viewportOf done ++ part.scrollbackRows ++
      part.viewportRows) := hacc.mono (batches_perm _ _ _ _).subperm
  -- History first, then the viewport, each beside the rows already held.
  obtain ⟨⟨nextHistoryIndex, account'⟩, hadd⟩ := addSnapshotHistoryRows_accepts
    hass.account ((historyFits_append.mp hhistory).2.congr hsameTot)
    (hacc.mono (sublist_append_left _ _).subperm)
  obtain ⟨-, -, hcharge⟩ := addSnapshotHistoryRows_keeps hass.account hadd
  obtain ⟨⟨seenRows, account⟩, haddViewp⟩ := addSnapshotRows_accepts hcharge
    ((viewportFits_append.mp hport).2.congr hsameRows hsameCols) hacc
  rw [← hass.nextHistory] at hadd
  rw [← hass.seen] at haddViewp
  have hindex : chunk.chunkIndex.toNat = snp.nextChunkIndex :=
    h.index.trans hass.next.symm
  have hbytes : snp.totalBytes + sizes.chunkLen chunk ≤ cellGridSnapshotMaxBytes := by
    simpa [hass.bytes] using h.bytes
  refine ⟨snp.withPart part nextHistoryIndex seenRows account (sizes.chunkLen chunk) nowMs,
    hass.withPart nowMs h.id h.count h.carries h.metadata hindex hbytes hadd haddViewp,
    rfl, rfl, rfl, rfl, ?_⟩
  intro assembly houtcome
  simp only [Cell.admitPart, ite_reject_eq_ok, Except.bind_eq_ok, Prod.exists, not_not]
  refine ⟨h.count, by simp [h.metadata], hindex, Nat.not_lt.mpr hbytes, nextHistoryIndex, account',
    hadd, seenRows, account, haddViewp, ?_⟩
  rcases houtcome with ⟨hmore, rfl⟩ | ⟨hlast, completed, hcomplete, rfl⟩
  · rw [if_pos hmore]
  · rw [if_neg hlast, hcomplete]
    rfl

theorem Cuts.follows {done rest : List PbCellGridChunk}
    (h : Cuts sizes frame snap (done ++ chunk :: rest))
    (hvalid : ValidSnapshot frame) (hid : snp.snapshotId = snap)
    (hcount : snp.chunkCount = chunk.chunkCount)
    (hmeta : snp.metadata = scalarsOf frame) {rows scrollbackRows : List PbCellRow}
    (hchunk : chunk.snapshotId = snap ∧ chunk.chunkIndex.toNat = done.length ∧
      chunk.part = some (createCellGridFramePart frame rows scrollbackRows)) :
    Follows sizes snp done chunk (createCellGridFramePart frame rows scrollbackRows) := by
  have hsplit : done ++ chunk :: rest = (done ++ [chunk]) ++ rest := by simp
  have hport := h.viewport
  have hhistory := h.history
  have hbytes := h.bytes
  rw [hsplit] at hport hhistory hbytes
  rw [viewportOf_append] at hport
  rw [historyOf_append] at hhistory
  rw [map_append, sum_append] at hbytes
  refine ⟨hchunk.1.trans hid.symm, hcount.symm, hchunk.2.2, ?_, hchunk.2.1,
    Nat.le_trans (Nat.le_add_right _ _) hbytes, ?_, ?_, ?_⟩
  · rw [hmeta]
    exact hasSame_self (createCellGridFramePart frame rows scrollbackRows)
  · rw [hmeta]
    exact ViewportFits.congr (a := frame) rfl rfl (hvalid.viewport.perm hport).left
  · have hall := hvalid.history
    rw [← hhistory] at hall
    rw [hmeta]
    exact HistoryFits.congr (a := frame) rfl hall.left
  apply hvalid.account.mono
  refine (List.Subperm.append ?_ ?_).trans perm_append_comm.subperm
  · rw [← hhistory]
    exact (sublist_append_left _ _).subperm
  · exact ((sublist_append_left _ _).subperm).trans hport.subperm

/-! ## Pushing the chunks of a cut -/

/-- The frame as the assembler hands it back: viewport rows by index, no unknown fields. -/
def receivedFrame (frame : PbCellGridFrame) : PbCellGridFrame :=
  { frame with
    viewportRows := frame.viewportRows.mergeSort fun a b =>
      decide (a.index.toNat ≤ b.index.toNat)
    unknownFields := [] }

theorem Cuts.completedFrame (h : Cuts sizes frame snap chunks)
    (hvalid : ValidSnapshot frame) (hass : Assembled sizes snp chunks)
    (hmeta : snp.metadata = scalarsOf frame) : completedFrame snp = .ok (receivedFrame frame) := by
  have hlt := hvalid.viewport.slot_lt
  have hnd := hvalid.viewport.slot_nodup
  refine hass.completedFrame.mpr ⟨?_, ?_, ?_⟩
  · rw [h.viewport.length_eq, hmeta]
    exact hvalid.rowCount
  · rw [h.history, hmeta]
    exact hvalid.historyEnd
  have hrows : Slots.collect rowSlot frame.rows.toNat (viewportOf chunks) =
      frame.viewportRows.mergeSort fun a b => decide (rowSlot a ≤ rowSlot b) :=
    (Slots.collect_congr hlt hnd hvalid.rowCount h.viewport).trans
      (Slots.collect_eq_mergeSort hlt hnd hvalid.rowCount)
  have happend : frame.scrollbackAppend = [] := by
    have hscalar := hvalid.scalars
    simp only [assertSnapshotScalars, ite_reject_eq_ok] at hscalar
    simpa using hscalar.2.2.2.2.2.1
  rw [hmeta, h.history]
  change createCellGridFramePart frame
    (Slots.collect rowSlot frame.rows.toNat (viewportOf chunks)) frame.scrollbackRows = _
  rw [hrows]
  unfold createCellGridFramePart receivedFrame
  rw [happend]
  rfl

namespace CellGridChunkAssembler

/-- An assembler that has taken `done` of the chunks of a cut, the last of them at `lastMs`. -/
def Taken (sizes : Sizes) (frame : PbCellGridFrame) (snapshotId : String) (count : UInt32)
    (done : List PbCellGridChunk) (lastMs : Nat) (assembler : CellGridChunkAssembler) : Prop :=
  (done = [] ∧ assembler.inFlight = none) ∨
    ∃ snapshot, assembler.inFlight = some snapshot ∧ Assembled sizes snapshot done ∧
      snapshot.snapshotId = snapshotId ∧ snapshot.chunkCount = count ∧
      snapshot.metadata = scalarsOf frame ∧ snapshot.lastChunkAtMs = lastMs

variable {chunk : PbCellGridChunk} {asm : CellGridChunkAssembler} {done : List PbCellGridChunk}

theorem Taken.target {lastMs nowMs : Nat}
    (part : PbCellGridFrame)
    (h : Taken sizes frame snap chunk.chunkCount done lastMs asm)
    (hgap : nowMs - lastMs < cellGridChunkStallMs) (hid : chunk.snapshotId = snap)
    (hindex : chunk.chunkIndex.toNat = done.length) (hpart : scalarsOf part = scalarsOf frame)
    (hscalar : assertSnapshotScalars part = .ok ()) :
    ∃ snp, CellGridChunkAssembler.target asm chunk part nowMs = .ok snp ∧
      Assembled sizes snp done ∧ snp.snapshotId = snap ∧
      snp.chunkCount = chunk.chunkCount ∧ snp.metadata = scalarsOf frame := by
  rcases h with ⟨rfl, hnone⟩ | ⟨snp, hsome, hass, hsame, hcount, hmeta, hlast⟩
  · have hzero : chunk.chunkIndex = 0 := UInt32.toNat_inj.mp hindex
    refine ⟨PartialSnapshot.new chunk part nowMs, ?_, assembled_new hscalar, hid, rfl, hpart⟩
    simp [CellGridChunkAssembler.target, hnone, hzero]
  refine ⟨snp, ?_, hass, hsame, hcount, hmeta⟩
  have hfresh : ¬stalled snp nowMs := by
    unfold stalled
    rw [hlast]
    exact Nat.not_le.mpr hgap
  simp [CellGridChunkAssembler.target, hsome, hfresh, hsame, hid]

theorem cuts_chunk {rest : List PbCellGridChunk}
    (h : Cuts sizes frame snap (done ++ chunk :: rest)) (hvalid : ValidSnapshot frame)
    (hid : isTerminalUuid snap = true) : ∃ rows scrollbackRows,
      checkPart sizes chunk = .ok (createCellGridFramePart frame rows scrollbackRows) ∧
        chunk.snapshotId = snap ∧ chunk.chunkIndex.toNat = done.length ∧
        chunk.chunkCount = ofNat (done ++ chunk :: rest).length ∧
        chunk.part = some (createCellGridFramePart frame rows scrollbackRows) := by
  obtain ⟨rows, scrollbackRows, hrows, heq, hbytes⟩ := h.parts done.length chunk (by simp)
  have hcount := h.count
  have hmax : cellGridSnapshotMaxChunks.toNat = 256 := rfl
  generalize hn : (done ++ chunk :: rest).length = n at heq hcount ⊢
  have hlt : done.length < n := by
    rw [← hn]
    simp
  have hsize : (256 : Nat) < size := by decide
  have hcountNat : (ofNat n).toNat = n := toNat_ofNat_of_lt' (by omega)
  have hind : (ofNat done.length).toNat = done.length :=
    toNat_ofNat_of_lt' (by omega)
  subst heq
  refine ⟨rows, scrollbackRows, checkPart_eq_ok.mpr ⟨hid, ?_, ?_, rfl,
    assertSnapshotScalars_part hvalid.scalars _ _, hrows, hbytes⟩, rfl, hind, rfl, rfl⟩
  · simp only [UInt32.le_iff_toNat_le, hcountNat, hmax]
    exact ⟨Nat.one_le_of_lt hlt, hcount⟩
  · simp only [UInt32.lt_iff_toNat_lt, hcountNat, hind]
    exact hlt

theorem Taken.pushChecked {rest : List PbCellGridChunk}
    {lastMs nowMs : Nat}
    (hcuts : Cuts sizes frame snap (done ++ chunk :: rest)) (hvalid : ValidSnapshot frame)
    (hid : isTerminalUuid snap = true)
    (h : Taken sizes frame snap (ofNat (done ++ chunk :: rest).length) done lastMs asm)
    (hgap : nowMs - lastMs < cellGridChunkStallMs) :
    ∃ snp, Assembled sizes snp (done ++ [chunk]) ∧ snp.snapshotId = snap ∧
      snp.chunkCount = ofNat (done ++ chunk :: rest).length ∧
      snp.metadata = scalarsOf frame ∧ snp.lastChunkAtMs = nowMs ∧
      ∀ assembly, Outcome snp assembly → CellGridChunkAssembler.pushChecked sizes asm chunk nowMs =
          match assembly with
          | .complete .. => .ok ({ inFlight := none }, assembly)
          | .pending .. => .ok ({ inFlight := some snp }, assembly) := by
  obtain ⟨rows, scrollbackRows, hcheck, hchunkId, hindex, hcount, hpart⟩ :=
    cuts_chunk hcuts hvalid hid
  rw [← hcount] at h ⊢
  obtain ⟨held, htarget, hass, hheldId, hheld, hmeta⟩ :=
    h.target (createCellGridFramePart frame rows scrollbackRows) hgap hchunkId hindex rfl
      (assertSnapshotScalars_part hvalid.scalars rows scrollbackRows)
  obtain ⟨snp, hgrown, hsameId, hsameCount, hsam, hlast, hadmits⟩ :=
    (hcuts.follows hvalid hheldId hheld hmeta ⟨hchunkId, hindex, hpart⟩).admitPart hass nowMs
  refine ⟨snp, hgrown, hsameId.trans hheldId, hsameCount.trans hheld, hsam.trans hmeta, hlast, ?_⟩
  intro assembly houtcome
  have hadmit := hadmits assembly houtcome
  unfold CellGridChunkAssembler.pushChecked
  cases assembly <;> simp only [hcheck, htarget, hadmit, bind, Except.bind]

section Run

variable {done rest : List PbCellGridChunk} {chunk : PbCellGridChunk} {lastMs nowMs : Nat}
  {asm : CellGridChunkAssembler} (hvalid : ValidSnapshot frame)
  (hid : isTerminalUuid snap = true) (hgap : nowMs - lastMs < cellGridChunkStallMs)
include hvalid hid hgap

theorem Taken.push_pending (hcuts : Cuts sizes frame snap (done ++ chunk :: rest))
    (h : Taken sizes frame snap (ofNat (done ++ chunk :: rest).length) done lastMs asm)
    (hrest : rest ≠ []) : ∃ assembler', push sizes asm chunk nowMs =
        (assembler', .ok (.pending snap (done.length + 1))) ∧
      Taken sizes frame snap (ofNat (done ++ chunk :: rest).length)
        (done ++ [chunk]) nowMs assembler' := by
  obtain ⟨snp, hass, hsame, hcount, hmeta, hlast, hpush⟩ :=
    h.pushChecked hcuts hvalid hid hgap
  have hnext : snp.nextChunkIndex = done.length + 1 := by simpa using hass.next
  have houtcome : Outcome snp (.pending snap (done.length + 1)) := by
    refine Or.inl ⟨?_, by rw [hsame, hnext]⟩
    have hmax : cellGridSnapshotMaxChunks.toNat = 256 := rfl
    have hsize : (256 : Nat) < size := by decide
    have hle := hcuts.count
    have hpos := length_pos_iff.mpr hrest
    rw [hcount, hnext, toNat_ofNat_of_lt' (by omega)]
    simpa using hpos
  refine ⟨{ inFlight := some snp }, ?_, ?_⟩
  · simp only [push, hpush _ houtcome]
  · exact Or.inr ⟨snp, rfl, hass, hsame, hcount, hmeta, hlast⟩

theorem Taken.push_complete (hcuts : Cuts sizes frame snap (done ++ [chunk]))
    (h : Taken sizes frame snap (ofNat (done ++ [chunk]).length) done lastMs asm) :
    push sizes asm chunk nowMs = (new, .ok (.complete snap (receivedFrame frame))) := by
  obtain ⟨snp, hass, hsame, hcount, hmeta, -, hpush⟩ :=
    h.pushChecked hcuts hvalid hid hgap
  have houtcome : Outcome snp (.complete snap (receivedFrame frame)) := by
    refine Or.inr ⟨?_, receivedFrame frame, hcuts.completedFrame hvalid hass hmeta, by rw [hsame]⟩
    have hmax : cellGridSnapshotMaxChunks.toNat = 256 := rfl
    have hsize : (256 : Nat) < size := by decide
    have hle := hcuts.count
    rw [hcount, hass.next, toNat_ofNat_of_lt' (by omega)]
    exact Nat.lt_irrefl _
  simp only [push, hpush _ houtcome]
  rfl

end Run

def completing (frame : PbCellGridFrame) (snapshotId : String) (start count : Nat) : List Reply :=
  (range' start count).map (fun index => .pushed (.ok (.pending snapshotId (index + 1)))) ++
    [.pushed (.ok (.complete snapshotId (receivedFrame frame)))]

variable {clocks : List Nat}

theorem Taken.answers (hvalid : ValidSnapshot frame) (hid : isTerminalUuid snap = true)
    {rest : List PbCellGridChunk} {lastMs nowMs : Nat}
    (hcuts : Cuts sizes frame snap (done ++ chunk :: rest))
    (h : Taken sizes frame snap (ofNat (done ++ chunk :: rest).length) done lastMs asm)
    (hlen : clocks.length = rest.length)
    (hgaps : (lastMs :: nowMs :: clocks).IsChain fun a b => b - a < cellGridChunkStallMs) :
    (machine sizes).answers asm (zipWith Op.push (chunk :: rest) (nowMs :: clocks)) =
        completing frame snap done.length rest.length ∧
      (machine sizes).run asm (zipWith Op.push (chunk :: rest) (nowMs :: clocks)) = new := by
  rw [isChain_cons_cons] at hgaps
  obtain ⟨hgap, hgaps⟩ := hgaps
  induction rest generalizing done chunk lastMs nowMs clocks asm with
  | nil =>
    have hpush := Taken.push_complete hvalid hid hgap hcuts h
    simp [answer, Transducer.next, machine, completing, hpush]
  | cons second rest ih =>
    cases clocks with
    | nil => cases hlen
    | cons =>
      obtain ⟨assembler', hpush, htaken⟩ := h.push_pending hvalid hid hgap hcuts (by simp)
      rw [isChain_cons_cons] at hgaps
      have hsplit : done ++ chunk :: second :: rest = (done ++ [chunk]) ++ second :: rest := by simp
      rw [hsplit] at hcuts htaken
      obtain ⟨hanswer, hrun⟩ := ih hcuts htaken (by simpa using hlen) hgaps.1 hgaps.2
      have hstep : (machine sizes).step asm (.push chunk nowMs) =
          (assembler', .pushed (.ok (.pending snap (done.length + 1)))) := by
        simp [machine, hpush]
      rw [zipWith_cons_cons, answers_cons, run_cons]
      simp only [answer, Transducer.next, hstep]
      rw [hanswer, hrun]
      simp [completing, range'_succ]

/-- An assembler takes every cut of a valid frame. -/
theorem completes_of_cuts (hcuts : Cuts sizes frame snap chunks) (hvalid : ValidSnapshot frame)
    (hid : isTerminalUuid snap = true) (hlen : clocks.length = chunks.length)
    (hgaps : clocks.IsChain fun a b => b - a < cellGridChunkStallMs) :
    (machine sizes).answers new (zipWith Op.push chunks clocks) = (range (chunks.length - 1)).map
            (fun index => .pushed (.ok (.pending snap (index + 1)))) ++
          [.pushed (.ok (.complete snap (receivedFrame frame)))] ∧
      ((machine sizes).run new (zipWith Op.push chunks clocks)).inFlight = none := by
  cases chunks with
  | nil => exact absurd rfl hcuts.nonempty
  | cons chunk rest =>
    cases clocks with
    | nil => cases hlen
    | cons nowMs clocks =>
      have hstart : (nowMs :: nowMs :: clocks).IsChain fun a b => b - a < cellGridChunkStallMs :=
        isChain_cons_cons.mpr ⟨by rw [Nat.sub_self]; decide, hgaps⟩
      have htaken : Taken sizes frame snap (ofNat (chunk :: rest).length) [] nowMs
          new := Or.inl ⟨rfl, rfl⟩
      obtain ⟨hanswer, hrun⟩ :=
        Taken.answers hvalid hid hcuts htaken (by simpa using hlen) hstart
      refine ⟨?_, by rw [hrun]; rfl⟩
      rw [hanswer]
      simp [completing, range_eq_range']

/-- The chunks of a frame, pushed in order into a fresh assembler with no gap at the stall
boundary, are all taken: every chunk before the last is pending and the last completes to
the frame, its viewport rows by index and its unknown fields dropped. -/
theorem chunk_roundTrip {sizes : Sizes} (hsizes : sizes.Additive) {frame : PbCellGridFrame}
    {snapshotId : String} {chunks : List PbCellGridChunk}
    (hchunks : chunkCellGridFrame sizes frame snapshotId = .ok chunks)
    (hlen : clocks.length = chunks.length)
    (hgaps : clocks.IsChain fun a b => b - a < cellGridChunkStallMs) :
    (machine sizes).answers new (zipWith Op.push chunks clocks) =
        (range (chunks.length - 1)).map
            (fun index => .pushed (.ok (.pending snapshotId (index + 1)))) ++
          [.pushed (.ok (.complete snapshotId (receivedFrame frame)))] ∧
      ((machine sizes).run new (zipWith Op.push chunks clocks)).inFlight = none := by
  obtain ⟨hvalid, hid, -⟩ := chunkCellGridFrame_eq_ok hchunks
  exact completes_of_cuts (cuts_of_chunkCellGridFrame hsizes hchunks) hvalid hid hlen hgaps

/-- A two-row frame whose rows come last first, with an unknown field. -/
def swappedFrame : PbCellGridFrame where
  streamId := "00000000-0000-4000-8000-000000000001"
  gridEpoch := "epoch"
  cols := 1
  rows := 2
  full := true
  seq := 1
  kittyKeyboardFlags := 1
  viewportRows := [{ index := 1 }, { index := 0 }]
  unknownFields := [248, 7, 1]

/-- Lengths under which a part has room for one row. -/
def bulkySizes : Sizes where
  rowLen _ := 700000
  varintLen _ := 3
  frameLen frame := (frame.viewportRows.length + frame.scrollbackRows.length) * 700004
  chunkLen chunk := (chunk.part.map fun part =>
    4 + (part.viewportRows.length + part.scrollbackRows.length) * 700004).getD 0

theorem bulkySizes_additive : bulkySizes.Additive where
  frame frame := by simp [bulkySizes, Nat.add_mul]
  chunk := ⟨1, fun _ _ hpart => by simp [bulkySizes, hpart]⟩
  snapshotId _ _ _ := rfl

/-- The two rows go out in two chunks and come back in the order of their indices. -/
theorem chunk_roundTrip_swapped :
    (machine bulkySizes).answers new (zipWith Op.push [halfChunk 0 1, halfChunk 1 1] [7, 9]) =
        [.pushed (.ok (.pending "00000000-0000-4000-8000-000000000002" 1)),
          .pushed (.ok (.complete "00000000-0000-4000-8000-000000000002"
            (receivedFrame swappedFrame)))] ∧
      ((machine bulkySizes).run new
        (zipWith Op.push [halfChunk 0 1, halfChunk 1 1] [7, 9])).inFlight = none :=
  chunk_roundTrip bulkySizes_additive
    (show chunkCellGridFrame bulkySizes swappedFrame "00000000-0000-4000-8000-000000000002" =
      .ok [halfChunk 0 1, halfChunk 1 1] by decide +kernel)
    rfl (by decide)

end CellGridChunkAssembler

end Roost.Cell
