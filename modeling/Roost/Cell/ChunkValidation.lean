-- SUMMARY: Snapshot-part limits, refusals, and the whole-snapshot validator.
import Roost.Base.Intern
import Roost.Cell.Proto

/-!
# Snapshot validation

Both sides of the chunk protocol hold rows to the rules of this file: the
assembler part by part and history first, the validator of a whole snapshot
viewport first. Rows are charged against a span cap and the hyperlink runs they
introduce are interned. What can be charged depends on the rows and not on the
order they come in, so the two walks accept the same snapshots.
-/

namespace Roost.Cell

open Except (bind_eq_ok foldlM_accepts foldlM_keeps)

open List

/-- Maximum canonical encoding of one snapshot chunk. -/
def cellGridPartMaxBytes : Nat := 1048576

/-- Maximum sum of encoded chunks accepted for one snapshot. -/
def cellGridSnapshotMaxBytes : Nat := 67108864

/-- Maximum parts one snapshot may be split into. -/
def cellGridSnapshotMaxChunks : UInt32 := 256

def cellGridSnapshotMaxRows : UInt32 := terminalMaxRows

/-- Room a fan-out stamp may take in an encoded frame. -/
def cellGridCoordFanoutStampMaxEncodedBytes : Nat := 12

/-- Maximum spans one snapshot may carry across both row families. -/
def cellGridSnapshotMaxSpans : Nat := 65536

/-- Maximum distinct hyperlink runs one snapshot may intern. -/
def cellGridSnapshotMaxLinkMappings : Nat := 1024

/-- How long a partial snapshot waits for its next part before it is stalled. -/
def cellGridChunkStallMs : Nat := 10000

/-- Why a snapshot part was refused. -/
inductive CellGridChunkErrorCode where
  | invalidSnapshotId | invalidStreamId | missingPart | invalidFull | invalidGeometry
  | invalidSequence | chunkCount | chunkIndex | chunkOrder | chunkSize | snapshotSize
  | snapshotStalled | metadataMismatch | rowIndex | duplicateRow | missingRow | spanLimit
  | linkLimit | linkConflict | singleRowOversize
  deriving DecidableEq

def CellGridChunkErrorCode.wireName : CellGridChunkErrorCode → String
  | invalidSnapshotId => "invalid-snapshot-id"
  | invalidStreamId => "invalid-stream-id"
  | missingPart => "missing-part"
  | invalidFull => "invalid-full"
  | invalidGeometry => "invalid-geometry"
  | invalidSequence => "invalid-sequence"
  | chunkCount => "chunk-count"
  | chunkIndex => "chunk-index"
  | chunkOrder => "chunk-order"
  | chunkSize => "chunk-size"
  | snapshotSize => "snapshot-size"
  | snapshotStalled => "snapshot-stalled"
  | metadataMismatch => "metadata-mismatch"
  | rowIndex => "row-index"
  | duplicateRow => "duplicate-row"
  | missingRow => "missing-row"
  | spanLimit => "span-limit"
  | linkLimit => "link-limit"
  | linkConflict => "link-conflict"
  | singleRowOversize => "single-row-oversize"

/-- A refused snapshot part. -/
structure CellGridChunkError where
  code : CellGridChunkErrorCode
  reason : String
  deriving DecidableEq

abbrev ChunkResult (α : Type) := Except CellGridChunkError α

def reject {α : Type} (code : CellGridChunkErrorCode) (reason : String) : ChunkResult α :=
  .error { code, reason }

variable {code : CellGridChunkErrorCode}

@[simp] theorem reject_ne_ok {α : Type} {reason : String} {a : α} :
    reject code reason ≠ .ok a := by
  intro h
  cases h

@[simp] theorem ite_reject_eq_ok {α : Type} {c : Prop} [Decidable c]
    {reason : String} {x : ChunkResult α} {a : α} :
    (if c then reject code reason else x) = .ok a ↔ ¬c ∧ x = .ok a :=
  Except.ite_error_eq_ok

variable (frame : PbCellGridFrame)

/-- Validate the scalar half of one part. -/
def assertSnapshotScalars : ChunkResult Unit :=
  if !frame.full || frame.baseSeq != 0 then
    reject .invalidFull "snapshot part must be a full frame with base_seq=0"
  else if !isTerminalUuid frame.streamId then
    reject .invalidStreamId ("snapshot stream_id is not a UUID: " ++ quoted frame.streamId)
  else if frame.gridEpoch.isEmpty then
    reject .invalidFull "snapshot grid_epoch is empty"
  else if !isTerminalGeometry { cols := frame.cols, rows := frame.rows } then
    reject .invalidGeometry
      ("snapshot geometry " ++ toString frame.cols ++ "x" ++ toString frame.rows ++
        " is outside 1.." ++ toString terminalMaxCols ++ "x1.." ++ toString terminalMaxRows)
  else if frame.seq < 1 then
    reject .invalidSequence ("snapshot seq must be positive, got " ++ toString frame.seq)
  else if !frame.scrollbackAppend.isEmpty then
    reject .invalidFull "authoritative snapshot parts cannot carry scrollback append"
  else if frame.sbBase > frame.scrollbackTotal then
    reject .invalidFull "authoritative snapshot sb_base is outside its history"
  else .ok ()

/-! ## Charging one row -/

/-- One interned hyperlink run. -/
structure CellGridLinkMapping where
  key : String
  uri : String

/-- The interned runs of a snapshot, by run key. -/
abbrev LinkMap := AList fun _ : String => CellGridLinkMapping

/-- What the rows walked so far were charged. -/
structure Account where
  spans : Nat
  links : LinkMap

def assertPartRowSpans (row : PbCellRow) (maxColumns : UInt32) : ChunkResult Unit :=
  match cellRowFromProtoBounded row maxColumns with
  | .ok _ => .ok ()
  | .error error => reject .spanLimit error.reason

/-- Charge one row's spans against the snapshot cap. The counter saturates. -/
def accountSpans (spans : Nat) (row : PbCellRow) : ChunkResult Nat :=
  let spans := min (spans + min row.spans.length (2 ^ 32 - 1)) (2 ^ 32 - 1)
  if spans > cellGridSnapshotMaxSpans then
    reject .spanLimit ("snapshot has more than " ++ toString cellGridSnapshotMaxSpans ++ " spans")
  else .ok spans

/-- Intern the hyperlink run of one span. A key already seen must point at the same
URI. -/
def recordSpanLink (links : LinkMap) (span : PbCellSpan) : ChunkResult LinkMap :=
  match span.linkKey, span.linkUri with
  | some key, some uri =>
    match links.lookup key with
    | some prior =>
      if prior.uri ≠ uri then
        reject .linkConflict ("link_key " ++ quoted key ++ " maps to conflicting URIs")
      else .ok links
    | none =>
      if links.keys.length ≥ cellGridSnapshotMaxLinkMappings then
        reject .linkLimit
          ("snapshot has more than " ++ toString cellGridSnapshotMaxLinkMappings ++
            " link mappings")
      else .ok (links.insert key { key, uri })
  | _, _ => .ok links

/-- Intern the hyperlink runs a row introduces. -/
def recordSpanLinks (links : LinkMap) (row : PbCellRow) : ChunkResult LinkMap :=
  row.spans.foldlM recordSpanLink links

/-- What both row families do with a row whose index is right. -/
def chargeRow (account : Account) (row : PbCellRow) (maxColumns : UInt32) :
    ChunkResult Account := do
  assertPartRowSpans row maxColumns
  let spans ← accountSpans account.spans row
  let links ← recordSpanLinks account.links row
  .ok { spans, links }

/-! ## The two row families and the whole snapshot -/

/-- Add one viewport row: each index once across the snapshot, each row bounded by the
grid width. -/
def addSnapshotRow (state : Finset UInt32 × Account) (row : PbCellRow) :
    ChunkResult (Finset UInt32 × Account) :=
  if row.index ≥ frame.rows then
    reject .rowIndex
      ("viewport row " ++ toString row.index ++ " is outside 0.." ++ toString (frame.rows - 1))
  else if row.index ∈ state.1 then
    reject .duplicateRow ("viewport row " ++ toString row.index ++ " occurs more than once")
  else do
    let account ← chargeRow state.2 row frame.cols
    .ok (insert row.index state.1, account)

def addSnapshotRows (rows : List PbCellRow) (seenRows : Finset UInt32)
    (account : Account) : ChunkResult (Finset UInt32 × Account) :=
  rows.foldlM (addSnapshotRow frame) (seenRows, account)

/-- Add one retained history row: it continues at `next` and sits below the total. A
retained line keeps its write-time width, so the grid does not bound it. -/
def addSnapshotHistoryRow (state : Nat × Account) (row : PbCellRow) :
    ChunkResult (Nat × Account) :=
  if row.index.toNat ≠ state.1 ∨ row.index.toNat ≥ frame.scrollbackTotal.toNat then
    reject .rowIndex
      ("history row " ++ toString row.index ++ " does not continue at " ++ toString state.1)
  else do
    let account ← chargeRow state.2 row 0
    .ok (state.1 + 1, account)

def addSnapshotHistoryRows (rows : List PbCellRow) (nextIndex : Nat)
    (account : Account) : ChunkResult (Nat × Account) :=
  rows.foldlM (addSnapshotHistoryRow frame) (nextIndex, account)

/-- What one complete snapshot proved about its own cost. -/
structure CellGridSnapshotStats where
  spans : Nat
  linkMappings : Nat

/-- Validate one complete authoritative snapshot, whole or assembled. -/
def assertCellGridSnapshot : ChunkResult CellGridSnapshotStats := do
  assertSnapshotScalars frame
  if frame.rows > cellGridSnapshotMaxRows then
    reject .invalidGeometry
      ("snapshot has more than " ++ toString cellGridSnapshotMaxRows ++ " rows")
  else do
    let (seenRows, account) ← addSnapshotRows frame frame.viewportRows ∅ { spans := 0, links := ∅ }
    let (nextIndex, account) ←
      addSnapshotHistoryRows frame frame.scrollbackRows frame.sbBase.toNat account
    if nextIndex ≠ frame.scrollbackTotal.toNat then
      reject .missingRow "snapshot history does not reach scrollback_total"
    else if seenRows.card ≠ frame.rows.toNat then
      reject .missingRow
        ("snapshot has " ++ toString seenRows.card ++ " of " ++ toString frame.rows ++
          " required viewport rows")
    else .ok { spans := account.spans, linkMappings := account.links.keys.length }

/-- Whether two parts describe the same grid at the same point in the stream, field by
field as the source compares them. -/
def hasSameSnapshotMetadata (a b : PbCellGridFrame) : Bool :=
  a.sessionId == b.sessionId && a.streamId == b.streamId && a.gridEpoch == b.gridEpoch &&
    a.cols == b.cols && a.rows == b.rows && a.cursorRow == b.cursorRow &&
    a.cursorCol == b.cursorCol && a.cursorVisible == b.cursorVisible &&
    a.altScreen == b.altScreen && a.full == b.full && a.scrollbackTotal == b.scrollbackTotal &&
    a.seq == b.seq && a.sbBase == b.sbBase && a.baseSeq == b.baseSeq &&
    a.cursorKeysApp == b.cursorKeysApp && a.bracketedPaste == b.bracketedPaste &&
    a.mouseTracking == b.mouseTracking && a.mouseSgr == b.mouseSgr &&
    a.focusEvents == b.focusEvents && a.ptyOutMs == b.ptyOutMs &&
    a.workerEmitMs == b.workerEmitMs && a.coordRecvMs == b.coordRecvMs &&
    a.coordFanoutMs == b.coordFanoutMs && a.imagePlacementsPresent == b.imagePlacementsPresent &&
    a.imagePlacements == b.imagePlacements

/-! ## What can be charged -/

/-- A row that keeps the span contract. -/
def RowOk (row : PbCellRow) (maxColumns : UInt32) : Prop :=
  ∃ value, cellRowFromProtoBounded row maxColumns = .ok value

def spanLink? (span : PbCellSpan) : Option (String × CellGridLinkMapping) :=
  match span.linkKey, span.linkUri with
  | some key, some uri => some (key, { key, uri })
  | _, _ => none

def rowLinks (rows : List PbCellRow) : List (String × CellGridLinkMapping) :=
  rows.flatMap fun row => row.spans.filterMap spanLink?

def spanTotal (rows : List PbCellRow) : Nat := (rows.map fun row => row.spans.length).sum

/-- The rows stay within the span cap and intern to one URI per key, within the cap. -/
structure Accountable (rows : List PbCellRow) : Prop where
  spans : spanTotal rows ≤ cellGridSnapshotMaxSpans
  links : Intern.Fits cellGridSnapshotMaxLinkMappings (rowLinks rows)

structure Account.Charged (account : Account) (rows : List PbCellRow) : Prop where
  spans : account.spans = spanTotal rows
  spanCap : account.spans ≤ cellGridSnapshotMaxSpans
  links : Intern.Holds account.links (rowLinks rows)
  linkCap : account.links.keys.length ≤ cellGridSnapshotMaxLinkMappings

theorem spanTotal_append (rows rows' : List PbCellRow) :
    spanTotal (rows ++ rows') = spanTotal rows + spanTotal rows' := by
  simp [spanTotal]

variable {rows rows' : List PbCellRow}

theorem spanTotal_perm (h : rows.Perm rows') :
    spanTotal rows = spanTotal rows' := (h.map _).sum_nat

variable {p : String × CellGridLinkMapping}

theorem mem_rowLinks :
    p ∈ rowLinks rows ↔ ∃ row ∈ rows, p ∈ row.spans.filterMap spanLink? := by
  simp [rowLinks]

theorem rowLinks_key (h : p ∈ rowLinks rows) : p.2.key = p.1 := by
  obtain ⟨_, -, hp⟩ := mem_rowLinks.mp h
  obtain ⟨_, -, hspan⟩ := mem_filterMap.mp hp
  unfold spanLink? at hspan
  split at hspan
  · cases hspan
    rfl
  · cases hspan

theorem Accountable.mono (h : Accountable rows)
    (hsub : rows'.Subperm rows) : Accountable rows' := by
  refine ⟨?_, ?_⟩
  · obtain ⟨_, hperm, hsublist⟩ := hsub
    obtain ⟨_, hrest⟩ := hsublist.exists_perm_append
    have htotal := h.spans
    rw [spanTotal_perm hrest, spanTotal_append, spanTotal_perm hperm] at htotal
    exact Nat.le_trans (Nat.le_add_right _ _) htotal
  · apply h.links.mono
    intro p hp
    obtain ⟨row, hrow, hlink⟩ := mem_rowLinks.mp hp
    exact mem_rowLinks.mpr ⟨row, hsub.subset hrow, hlink⟩

namespace Account

theorem charged_nil : Charged { spans := 0, links := ∅ } [] :=
  ⟨rfl, Nat.zero_le _, Intern.holds_nil, Nat.zero_le _⟩

theorem Charged.accountable {account : Account} {rows : List PbCellRow}
    (h : account.Charged rows) : Accountable rows :=
  ⟨h.spans ▸ h.spanCap, h.links.fits h.linkCap⟩

theorem Charged.perm {account : Account} {rows rows' : List PbCellRow} (h : account.Charged rows)
    (hperm : rows.Perm rows') : account.Charged rows' := by
  refine ⟨h.spans.trans (spanTotal_perm hperm), h.spanCap, ?_, h.linkCap⟩
  apply h.links.congr
  intro p
  simp only [mem_rowLinks, hperm.mem_iff]

end Account

/-! ## Charging, inverted -/

theorem assertPartRowSpans_eq_ok {row : PbCellRow} {maxColumns : UInt32} :
    assertPartRowSpans row maxColumns = .ok () ↔ RowOk row maxColumns := by
  unfold assertPartRowSpans RowOk
  cases cellRowFromProtoBounded row maxColumns with
  | ok | error => simp

theorem accountSpans_eq_ok {spans out : Nat} {row : PbCellRow} : accountSpans spans row = .ok out ↔
      spans + row.spans.length ≤ cellGridSnapshotMaxSpans ∧ out = spans + row.spans.length := by
  unfold accountSpans
  rw [ite_reject_eq_ok, Except.ok.injEq, cellGridSnapshotMaxSpans]
  omega

section Links

variable {links out : LinkMap} {pairs : List (String × CellGridLinkMapping)} {span : PbCellSpan}

theorem recordSpanLink_accepts (hholds : Intern.Holds links pairs)
    (hfits : Intern.Fits cellGridSnapshotMaxLinkMappings (pairs ++ (spanLink? span).toList)) :
    ∃ out, recordSpanLink links span = .ok out := by
  unfold recordSpanLink
  split
  · rename_i key uri hkey huri
    have hlink : spanLink? span = some (key, { key, uri }) := by simp [spanLink?, hkey, huri]
    rw [hlink, Option.toList_some] at hfits
    split
    · rename_i prior hprior
      have hmem := (hholds key prior).mp hprior
      have heq := hfits.single key prior { key, uri } (by simp [hmem]) (by simp)
      exact ⟨links, by simp [heq]⟩
    rename_i hnone
    have hcount := hfits.capped
    rw [← (hholds.concat_new hnone { key, uri }).keys_length,
      Intern.keys_length_insert_new hnone] at hcount
    exact ⟨_, if_neg (Nat.not_le.mpr hcount)⟩
  · exact ⟨links, rfl⟩

theorem recordSpanLink_holds (hholds : Intern.Holds links pairs)
    (hkeys : ∀ p ∈ pairs, p.2.key = p.1)
    (hcap : links.keys.length ≤ cellGridSnapshotMaxLinkMappings)
    (h : recordSpanLink links span = .ok out) :
    Intern.Holds out (pairs ++ (spanLink? span).toList) ∧
      out.keys.length ≤ cellGridSnapshotMaxLinkMappings := by
  unfold recordSpanLink at h
  split at h
  · rename_i key uri hkey huri
    have hlink : spanLink? span = some (key, { key, uri }) := by simp [spanLink?, hkey, huri]
    rw [hlink, Option.toList_some]
    split at h
    · rename_i prior hprior
      rw [ite_reject_eq_ok, not_not, Except.ok.injEq] at h
      obtain ⟨hsame, rfl⟩ := h
      have hpriorKey : prior.key = key := hkeys (key, prior) ((hholds key prior).mp hprior)
      have hknown : links.lookup key = some { key, uri } := by
        rw [hprior, ← hpriorKey, ← hsame]
      exact ⟨hholds.concat_known hknown, hcap⟩
    · rename_i hnone
      rw [ite_reject_eq_ok, Except.ok.injEq] at h
      obtain ⟨hroom, rfl⟩ := h
      refine ⟨hholds.concat_new hnone _, ?_⟩
      rw [Intern.keys_length_insert_new hnone]
      exact Nat.lt_of_not_le hroom
  · rename_i hlink
    have hnone : spanLink? span = none := by
      unfold spanLink?
      split
      · rename_i key uri hkey huri
        exact absurd huri (hlink key uri hkey)
      · rfl
    cases h
    rw [hnone]
    exact ⟨by simpa using hholds, hcap⟩

end Links

theorem filterMap_concat_spanLink? (spans : List PbCellSpan) (span : PbCellSpan) :
    (spans ++ [span]).filterMap spanLink? =
      spans.filterMap spanLink? ++ (spanLink? span).toList := by
  cases h : spanLink? span <;> simp [h]

theorem rowLinks_concat (rows : List PbCellRow) (row : PbCellRow) :
    rowLinks (rows ++ [row]) = rowLinks rows ++ row.spans.filterMap spanLink? := by
  simp [rowLinks]

theorem spanLink?_key {span : PbCellSpan} (h : spanLink? span = some p) : p.2.key = p.1 := by
  unfold spanLink? at h
  split at h
  · cases h
    rfl
  · cases h

namespace Account

variable {account account' : Account} {rows : List PbCellRow} {row : PbCellRow}
  {maxColumns : UInt32}

private def LinksHeld (rows : List PbCellRow) (spans : List PbCellSpan) (links : LinkMap) : Prop :=
  Intern.Holds links (rowLinks rows ++ spans.filterMap spanLink?) ∧
    links.keys.length ≤ cellGridSnapshotMaxLinkMappings

private theorem LinksHeld.step (spans : List PbCellSpan) (links : LinkMap) (span : PbCellSpan)
    (out : LinkMap) (h : LinksHeld rows spans links) (hok : recordSpanLink links span = .ok out) :
    LinksHeld rows (spans ++ [span]) out := by
  unfold LinksHeld
  rw [filterMap_concat_spanLink?, ← append_assoc]
  refine recordSpanLink_holds h.1 ?_ h.2 hok
  intro p hp
  rcases mem_append.mp hp with hp | hp
  · exact rowLinks_key hp
  · obtain ⟨_, -, hspan⟩ := mem_filterMap.mp hp
    exact spanLink?_key hspan

private theorem Charged.linksHeld (h : account.Charged rows) : LinksHeld rows [] account.links :=
  ⟨by simpa using h.links, h.linkCap⟩

theorem Charged.chargeRow_keeps (h : account.Charged rows)
    (hok : chargeRow account row maxColumns = .ok account') :
    RowOk row maxColumns ∧ account'.Charged (rows ++ [row]) := by
  simp only [chargeRow, bind_eq_ok, accountSpans_eq_ok, Except.ok.injEq] at hok
  obtain ⟨_, hrow, spans, ⟨hcap, rfl⟩, _, hlinks, rfl⟩ := hok
  have htotal : account.spans + row.spans.length = spanTotal (rows ++ [row]) := by
    rw [spanTotal_append, h.spans]
    simp [spanTotal]
  have hholds := foldlM_keeps LinksHeld.step h.linksHeld hlinks
  unfold LinksHeld at hholds
  rw [← rowLinks_concat] at hholds
  exact ⟨assertPartRowSpans_eq_ok.mp hrow, htotal, hcap, hholds.1, hholds.2⟩

theorem Charged.chargeRow_accepts (h : account.Charged rows) (hrow : RowOk row maxColumns)
    (hacc : Accountable (rows ++ [row])) :
    ∃ account', chargeRow account row maxColumns = .ok account' := by
  have hspans : account.spans + row.spans.length ≤ cellGridSnapshotMaxSpans := by
    have := hacc.spans
    rw [spanTotal_append, ← h.spans] at this
    simpa [spanTotal] using this
  have hfits := hacc.links
  rw [rowLinks_concat] at hfits
  obtain ⟨links, hlinks⟩ : ∃ links, recordSpanLinks account.links row = .ok links := by
    refine foldlM_accepts
      (Q := fun spans => Intern.Fits cellGridSnapshotMaxLinkMappings
        (rowLinks rows ++ spans.filterMap spanLink?))
      LinksHeld.step ?_ ?_ h.linksHeld hfits
    · intro spans links span hheld hfits
      rw [filterMap_concat_spanLink?, ← append_assoc] at hfits
      exact recordSpanLink_accepts hheld.1 hfits
    intro spans rest hfits
    apply hfits.mono
    rw [filterMap_append, ← append_assoc]
    exact subset_append_left _ _
  refine ⟨{ spans := account.spans + row.spans.length, links }, ?_⟩
  simp only [chargeRow, bind_eq_ok, accountSpans_eq_ok]
  exact ⟨(), assertPartRowSpans_eq_ok.mpr hrow, _, ⟨hspans, rfl⟩, links, hlinks, rfl⟩

end Account

/-! ## The row families, inverted -/

/-- Viewport rows a grid takes beside the indices already seen. -/
@[mk_iff]
structure ViewportFits (frame : PbCellGridFrame) (seenRows : Finset UInt32)
    (rows : List PbCellRow) : Prop where
  index : ∀ row ∈ rows, row.index < frame.rows
  spans : ∀ row ∈ rows, RowOk row frame.cols
  nodup : (rows.map PbCellRow.index).Nodup
  fresh : ∀ row ∈ rows, row.index ∉ seenRows

/-- History rows that continue at `nextIndex`. -/
@[mk_iff]
structure HistoryFits (frame : PbCellGridFrame) (nextIndex : Nat) (rows : List PbCellRow) :
    Prop where
  index : rows.map (fun row => row.index.toNat) = range' nextIndex rows.length
  total : ∀ row ∈ rows, row.index.toNat < frame.scrollbackTotal.toNat
  spans : ∀ row ∈ rows, RowOk row 0

section Families

variable {frame : PbCellGridFrame} {seenRows : Finset UInt32} {nextIndex : Nat} {account : Account}
  {before rows rows' : List PbCellRow} {row : PbCellRow}

theorem viewportFits_nil : ViewportFits frame seenRows [] :=
  ⟨by simp, by simp, by simp, by simp⟩

theorem viewportFits_concat : ViewportFits frame seenRows (rows ++ [row]) ↔
      ViewportFits frame seenRows rows ∧ row.index < frame.rows ∧ RowOk row frame.cols ∧
        row.index ∉ seenRows ∧ row.index ∉ rows.map PbCellRow.index := by
  simp only [viewportFits_iff, map_append, map_singleton, nodup_append,
    mem_append, mem_singleton, or_imp, forall_and, forall_eq, nodup_singleton]
  grind

theorem ViewportFits.left (h : ViewportFits frame seenRows (rows ++ rows')) :
    ViewportFits frame seenRows rows := by
  induction rows' using reverseRecOn with
  | nil => simpa using h
  | append_singleton rows' row ih =>
    rw [← append_assoc, viewportFits_concat] at h
    exact ih h.1

theorem historyFits_nil : HistoryFits frame nextIndex [] :=
  ⟨rfl, by simp, by simp⟩

theorem historyFits_concat : HistoryFits frame nextIndex (rows ++ [row]) ↔
      HistoryFits frame nextIndex rows ∧ row.index.toNat = nextIndex + rows.length ∧
        row.index.toNat < frame.scrollbackTotal.toNat ∧ RowOk row 0 := by
  simp only [historyFits_iff, map_append, map_singleton, length_append,
    length_singleton, range'_concat, append_singleton_inj, mem_append, mem_singleton, or_imp,
    forall_and, forall_eq, Nat.one_mul]
  grind

theorem HistoryFits.left (h : HistoryFits frame nextIndex (rows ++ rows')) :
    HistoryFits frame nextIndex rows := by
  induction rows' using reverseRecOn with
  | nil => simpa using h
  | append_singleton rows' row ih =>
    rw [← append_assoc, historyFits_concat] at h
    exact ih h.1

/-- What adding viewport rows keeps: the rows fit, their indices are seen, and the
account is of the rows before and of these. -/
private def ViewportAdded (frame : PbCellGridFrame) (seenRows : Finset UInt32)
    (before rows : List PbCellRow) (state : Finset UInt32 × Account) : Prop :=
  ViewportFits frame seenRows rows ∧ state.1 = seenRows ∪ (rows.map PbCellRow.index).toFinset ∧
    state.2.Charged (before ++ rows)

/-- One more viewport row is charged. -/
private theorem ViewportAdded.step (rows : List PbCellRow) (state : Finset UInt32 × Account)
    (row : PbCellRow) (out : Finset UInt32 × Account)
    (h : ViewportAdded frame seenRows before rows state)
    (hok : addSnapshotRow frame state row = .ok out) :
    ViewportAdded frame seenRows before (rows ++ [row]) out := by
  obtain ⟨hfits, hseen, hcharged⟩ := h
  simp only [addSnapshotRow, ite_reject_eq_ok, bind_eq_ok, Except.ok.injEq] at hok
  obtain ⟨hindex, hnew, account, hcharge, rfl⟩ := hok
  obtain ⟨hrow, hcharged'⟩ := hcharged.chargeRow_keeps hcharge
  rw [hseen, Finset.mem_union, not_or, mem_toFinset] at hnew
  refine ⟨viewportFits_concat.mpr ⟨hfits, UInt32.not_le.mp hindex, hrow, hnew⟩, ?_, ?_⟩
  · ext index
    simp only [hseen, Finset.mem_insert, Finset.mem_union, mem_toFinset, map_append,
      mem_append, map_singleton, mem_singleton]
    tauto
  · simpa using hcharged'

theorem addSnapshotRows_keeps {out : Finset UInt32 × Account} (hcharge : account.Charged before)
    (hok : addSnapshotRows frame rows seenRows account = .ok out) :
    ViewportFits frame seenRows rows ∧ out.1 = seenRows ∪ (rows.map PbCellRow.index).toFinset ∧
      out.2.Charged (before ++ rows) := by
  have hstart : ViewportAdded frame seenRows before [] (seenRows, account) :=
    ⟨viewportFits_nil, by simp, by simpa using hcharge⟩
  exact foldlM_keeps ViewportAdded.step hstart hok

theorem addSnapshotRows_accepts (hcharged : account.Charged before)
    (hfits : ViewportFits frame seenRows rows) (hacc : Accountable (before ++ rows)) :
    ∃ out, addSnapshotRows frame rows seenRows account = .ok out := by
  have hstart : ViewportAdded frame seenRows before [] (seenRows, account) :=
    ⟨viewportFits_nil, by simp, by simpa using hcharged⟩
  refine foldlM_accepts
    (Q := fun rows => ViewportFits frame seenRows rows ∧ Accountable (before ++ rows))
    ViewportAdded.step ?_ ?_ hstart ⟨hfits, hacc⟩
  · rintro rows state row ⟨hfits, hseen, hcharged⟩ ⟨hfits', hacc⟩
    obtain ⟨-, hindex, hrow, hnew, hnot⟩ := viewportFits_concat.mp hfits'
    rw [← append_assoc] at hacc
    obtain ⟨account, hcharge⟩ := hcharged.chargeRow_accepts hrow hacc
    refine ⟨(insert row.index state.1, account), ?_⟩
    simp only [addSnapshotRow, ite_reject_eq_ok, bind_eq_ok]
    refine ⟨UInt32.not_le.mpr hindex, ?_, account, hcharge, rfl⟩
    rw [hseen, Finset.mem_union, not_or, mem_toFinset]
    exact ⟨hnew, hnot⟩
  · rintro rows rest ⟨hfits, hacc⟩
    refine ⟨hfits.left, hacc.mono ?_⟩
    rw [← append_assoc]
    exact (sublist_append_left _ _).subperm

private def HistoryAdded (frame : PbCellGridFrame) (nextIndex : Nat)
    (before rows : List PbCellRow) (state : Nat × Account) : Prop :=
  HistoryFits frame nextIndex rows ∧ state.1 = nextIndex + rows.length ∧
    state.2.Charged (before ++ rows)

/-- One more history row is charged, at the next index. -/
private theorem HistoryAdded.step (rows : List PbCellRow) (state : Nat × Account)
    (row : PbCellRow) (out : Nat × Account) (h : HistoryAdded frame nextIndex before rows state)
    (hok : addSnapshotHistoryRow frame state row = .ok out) :
    HistoryAdded frame nextIndex before (rows ++ [row]) out := by
  obtain ⟨hfits, hnext, hcharged⟩ := h
  simp only [addSnapshotHistoryRow, ite_reject_eq_ok, bind_eq_ok, Except.ok.injEq, not_or,
    not_not] at hok
  obtain ⟨⟨hindex, htotal⟩, _, hcharge, rfl⟩ := hok
  obtain ⟨hrow, hcharged'⟩ := hcharged.chargeRow_keeps hcharge
  refine ⟨historyFits_concat.mpr ⟨hfits, hindex.trans hnext, Nat.not_le.mp htotal, hrow⟩, ?_, ?_⟩
  · simp [hnext, Nat.add_assoc]
  · simpa using hcharged'

theorem addSnapshotHistoryRows_keeps {out : Nat × Account} (hcharge : account.Charged before)
    (hok : addSnapshotHistoryRows frame rows nextIndex account = .ok out) :
    HistoryFits frame nextIndex rows ∧ out.1 = nextIndex + rows.length ∧
      out.2.Charged (before ++ rows) := by
  have hstart : HistoryAdded frame nextIndex before [] (nextIndex, account) :=
    ⟨historyFits_nil, rfl, by simpa using hcharge⟩
  exact foldlM_keeps HistoryAdded.step hstart hok

theorem addSnapshotHistoryRows_accepts (hcharged : account.Charged before)
    (hfits : HistoryFits frame nextIndex rows) (hacc : Accountable (before ++ rows)) :
    ∃ out, addSnapshotHistoryRows frame rows nextIndex account = .ok out := by
  have hstart : HistoryAdded frame nextIndex before [] (nextIndex, account) :=
    ⟨historyFits_nil, rfl, by simpa using hcharged⟩
  refine foldlM_accepts
    (Q := fun rows => HistoryFits frame nextIndex rows ∧ Accountable (before ++ rows))
    HistoryAdded.step ?_ ?_ hstart ⟨hfits, hacc⟩
  · rintro rows state row ⟨hfits, hnext, hcharged⟩ ⟨hfits', hacc⟩
    obtain ⟨-, hindex, htotal, hrow⟩ := historyFits_concat.mp hfits'
    rw [← append_assoc] at hacc
    obtain ⟨account, hcharge⟩ := hcharged.chargeRow_accepts hrow hacc
    refine ⟨(state.1 + 1, account), ?_⟩
    simp only [addSnapshotHistoryRow, ite_reject_eq_ok, bind_eq_ok, not_or, not_not]
    exact ⟨⟨hindex.trans hnext.symm, Nat.not_le.mpr htotal⟩, account, hcharge, rfl⟩
  · rintro rows rest ⟨hfits, hacc⟩
    refine ⟨hfits.left, hacc.mono ?_⟩
    rw [← append_assoc]
    exact (sublist_append_left _ _).subperm

end Families

/-! ## The whole snapshot -/

structure ValidSnapshot (frame : PbCellGridFrame) : Prop where
  scalars : assertSnapshotScalars frame = .ok ()
  viewport : ViewportFits frame ∅ frame.viewportRows
  rowCount : frame.viewportRows.length = frame.rows.toNat
  history : HistoryFits frame frame.sbBase.toNat frame.scrollbackRows
  historyEnd : frame.sbBase.toNat + frame.scrollbackRows.length = frame.scrollbackTotal.toNat
  account : Accountable (frame.viewportRows ++ frame.scrollbackRows)

variable {frame : PbCellGridFrame}

theorem assertSnapshotScalars_geometry
    (h : assertSnapshotScalars frame = .ok ()) :
    isTerminalGeometry { cols := frame.cols, rows := frame.rows } = true := by
  simp only [assertSnapshotScalars, ite_reject_eq_ok] at h
  simpa using h.2.2.2.1

theorem seenRows_card (h : (rows.map PbCellRow.index).Nodup) :
    (∅ ∪ (rows.map PbCellRow.index).toFinset).card = rows.length := by
  rw [Finset.empty_union, toFinset_card_of_nodup h, length_map]

/-- The validator accepts exactly the valid snapshots. -/
theorem assertCellGridSnapshot_iff :
    (∃ stats, assertCellGridSnapshot frame = .ok stats) ↔ ValidSnapshot frame := by
  constructor
  · rintro ⟨stats, h⟩
    simp only [assertCellGridSnapshot, bind_eq_ok, ite_reject_eq_ok, Prod.exists, not_not] at h
    obtain ⟨_, hscalar, -, seenRows, account, hport, nextIndex, account', hhistory, hnext,
      hcount, -⟩ := h
    obtain ⟨hvfits, hseen, hcharge⟩ := addSnapshotRows_keeps Account.charged_nil hport
    obtain ⟨hhfits, hnextEq, hcharge'⟩ := addSnapshotHistoryRows_keeps hcharge hhistory
    refine ⟨hscalar, hvfits, ?_, hhfits, hnextEq.symm.trans hnext, hcharge'.accountable⟩
    rw [← hcount, show seenRows = _ from hseen, seenRows_card hvfits.nodup]
  intro h
  have hgeom := isTerminalGeometry_iff.mp (assertSnapshotScalars_geometry h.scalars)
  have hviewport : Accountable ([] ++ frame.viewportRows) :=
    h.account.mono (sublist_append_left _ _).subperm
  obtain ⟨⟨seenRows, account⟩, hport⟩ :=
    addSnapshotRows_accepts Account.charged_nil h.viewport hviewport
  obtain ⟨-, hseen, hcharge⟩ := addSnapshotRows_keeps Account.charged_nil hport
  obtain ⟨⟨nextIndex, account'⟩, hhistory⟩ :=
    addSnapshotHistoryRows_accepts hcharge h.history h.account
  obtain ⟨-, hnext, -⟩ := addSnapshotHistoryRows_keeps hcharge hhistory
  refine ⟨{ spans := account'.spans, linkMappings := account'.links.keys.length }, ?_⟩
  simp only [assertCellGridSnapshot, bind_eq_ok, ite_reject_eq_ok, Prod.exists, not_not]
  refine ⟨(), h.scalars, ?_, seenRows, account, hport, nextIndex, account', hhistory,
    hnext.trans h.historyEnd, ?_, rfl⟩
  · rw [gt_iff_lt, UInt32.not_lt, UInt32.le_iff_toNat_le]
    exact hgeom.2.2
  · rw [show seenRows = _ from hseen, seenRows_card h.viewport.nodup, h.rowCount]

end Roost.Cell
