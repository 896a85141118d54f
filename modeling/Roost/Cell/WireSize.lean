-- SUMMARY: The encoded length of the cell messages by the rules of the wire format.
import Roost.Cell.FrameChunks

/-!
# Encoded lengths

A scalar field with its default value is absent; any other field is its tag and its
payload. Field numbers up to 15 have a one-byte tag, the others of these messages a
two-byte one. Unknown fields are written back as they came.
-/

namespace Roost.Cell

namespace WireSize

/-- Seven bits to a byte. -/
def varint (value : Nat) : Nat := value.log2 / 7 + 1

def uint (tag value : Nat) : Nat := if value = 0 then 0 else tag + varint value

def bool (tag : Nat) (value : Bool) : Nat := if value then tag + 1 else 0

def delimited (tag length : Nat) : Nat := tag + varint length + length

def string (tag : Nat) (value : String) : Nat :=
  if value.utf8ByteSize = 0 then 0 else delimited tag value.utf8ByteSize

def optional {α : Type} (value : Option α) (length : α → Nat) : Nat := (value.map length).getD 0

/-- A signed value, interleaved around zero. -/
def zigzag (value : Int32) : Nat :=
  let n := value.toInt
  if n < 0 then (-2 * n - 1).toNat else (2 * n).toNat

def span (span : PbCellSpan) : Nat :=
  string 1 span.text + uint 1 span.fg.toNat + uint 1 span.bg.toNat + uint 1 span.flags.toNat +
    optional span.fgRgb (fun value => 1 + varint value.toNat) +
    optional span.bgRgb (fun value => 1 + varint value.toNat) + uint 1 span.columns.toNat +
    optional span.linkUri (fun value => delimited 1 value.utf8ByteSize) +
    optional span.linkKey (fun value => delimited 1 value.utf8ByteSize) +
    span.unknownFields.length

def row (row : PbCellRow) : Nat :=
  uint 1 row.index.toNat + (row.spans.map fun s => delimited 1 (span s)).sum +
    uint 1 row.mark.toNat + row.unknownFields.length

def placement (p : PbImagePlacement) : Nat :=
  uint 1 p.imageKey.toNat + uint 1 p.row.toNat + uint 1 p.col.toNat + uint 1 p.columns.toNat +
    uint 1 p.rows.toNat + uint 1 p.sourceX.toNat + uint 1 p.sourceY.toNat +
    uint 1 p.sourceWidth.toNat + uint 1 p.sourceHeight.toNat + uint 1 p.imageWidth.toNat +
    uint 1 p.imageHeight.toNat + uint 1 p.offsetXPx.toNat + uint 1 p.offsetYPx.toNat +
    uint 1 (zigzag p.zIndex) + p.unknownFields.length

/-- The rows of one family, each with its one-byte tag. -/
def rows (list : List PbCellRow) : Nat := (list.map fun r => delimited 1 (row r)).sum

/-- Everything of a frame but the viewport and history rows. -/
def frameRest (frame : PbCellGridFrame) : Nat :=
  string 1 frame.sessionId + uint 1 frame.cols.toNat + uint 1 frame.rows.toNat +
    uint 1 frame.cursorRow.toNat + uint 1 frame.cursorCol.toNat + bool 1 frame.cursorVisible +
    bool 1 frame.altScreen + bool 1 frame.full + rows frame.scrollbackAppend +
    uint 1 frame.scrollbackTotal.toNat + uint 1 frame.seq.toNat + uint 1 frame.sbBase.toNat +
    bool 1 frame.cursorKeysApp + bool 2 frame.bracketedPaste + uint 2 frame.ptyOutMs.toNat +
    uint 2 frame.workerEmitMs.toNat + uint 2 frame.coordRecvMs.toNat +
    uint 2 frame.coordFanoutMs.toNat + string 2 frame.gridEpoch +
    uint 2 frame.mouseTracking.toNat + bool 2 frame.mouseSgr + bool 2 frame.focusEvents +
    string 2 frame.streamId + uint 2 frame.baseSeq.toNat + uint 2 frame.kittyKeyboardFlags.toNat +
    (frame.imagePlacements.map fun p => delimited 2 (placement p)).sum +
    bool 2 frame.imagePlacementsPresent + frame.unknownFields.length

def frame (frame : PbCellGridFrame) : Nat :=
  frameRest frame + rows frame.viewportRows + rows frame.scrollbackRows

def chunk (chunk : PbCellGridChunk) : Nat :=
  string 1 chunk.snapshotId + uint 1 chunk.chunkIndex.toNat + uint 1 chunk.chunkCount.toNat +
    optional chunk.part (fun part => delimited 1 (frame part)) + chunk.unknownFields.length

end WireSize

/-- The lengths the wire format gives. -/
def wireSizes : Sizes where
  frameLen := WireSize.frame
  rowLen := WireSize.row
  chunkLen := WireSize.chunk
  varintLen := WireSize.varint

theorem wireSizes_additive : wireSizes.Additive where
  frame frame := by
    simp [wireSizes, WireSize.frame, WireSize.frameRest, WireSize.rows, WireSize.delimited]
  chunk := by
    refine ⟨1, ?_⟩
    intro chunk part hpart
    simp only [wireSizes, WireSize.chunk, WireSize.optional, WireSize.delimited, hpart,
      Option.map_some, Option.getD_some, Option.map_none, Option.getD_none]
    omega
  snapshotId chunk id hlen := by
    simp only [wireSizes, WireSize.chunk, WireSize.string, hlen]

theorem WireSize.varint_mono {a b : Nat} (h : a ≤ b) : varint a ≤ varint b := by
  have hlog : a.log2 ≤ b.log2 := by
    rcases Nat.eq_zero_or_pos a with rfl | hpos
    · rw [Nat.log2_zero]
      exact Nat.zero_le _
    · have ha : a ≠ 0 := Nat.ne_of_gt hpos
      have hb : b ≠ 0 := by omega
      exact (Nat.le_log2 hb).mpr (Nat.le_trans (Nat.log2_self_le ha) h)
  unfold varint
  exact Nat.succ_le_succ (Nat.div_le_div_right hlog)

theorem WireSize.uint_mono (tag : Nat) {a b : Nat} (h : a ≤ b) : uint tag a ≤ uint tag b := by
  unfold uint
  split
  · exact Nat.zero_le _
  · rename_i hne
    rw [if_neg (by omega)]
    exact Nat.add_le_add_left (varint_mono h) tag

theorem wireSizes_grows : wireSizes.Grows where
  varintLen h := WireSize.varint_mono h
  coordFanoutMs frame a b h := by
    have hstamp := WireSize.uint_mono 2 (UInt64.le_iff_toNat_le.mp h)
    simp only [wireSizes, WireSize.frame, WireSize.frameRest]
    omega
  fanoutStamp frame stamp := by
    have hwidth : WireSize.uint 2 stamp.toNat ≤ cellGridCoordFanoutStampMaxEncodedBytes :=
      (WireSize.uint_mono 2 (Nat.le_sub_one_of_lt stamp.toNat_lt)).trans (by decide)
    simp only [wireSizes, WireSize.frame, WireSize.frameRest]
    omega
  header snapshotId i j m n hindex hcount := by
    have hi := WireSize.uint_mono 1 (UInt32.le_iff_toNat_le.mp hindex)
    have hn := WireSize.uint_mono 1 (UInt32.le_iff_toNat_le.mp hcount)
    simp only [wireSizes, WireSize.chunk]
    omega

end Roost.Cell
