-- SUMMARY: One channel's retained history replays as its stream.
import Roost.Base.Transducer
import Roost.Keeper.History

/-!
# Channel history

A channel keeps the newest bytes of its raw output, the head (every byte it ever
emitted) and the resize markers that fall into the retained window. Two budgets
evict independently: the ring drops its oldest bytes and folds the markers at or
below the new tail into the base geometry, and a full marker budget drops the
whole window.

What the component is for is said by `replay`: a record list together with a
geometry to start from assigns a geometry to every byte. The retained records
assign to each retained byte what the full record of the channel assigns to it.
-/

namespace Roost.Keeper

open List

/-- The raw output a channel retains. -/
def keeperRingCapBytes : Nat := 1024 * 1024

/-- Columns and rows. -/
abbrev Geometry := UInt16 × UInt16

/-- A geometry change at a raw-output offset. -/
structure ResizeMarker where
  /-- The raw-output sequence at which the new geometry became effective. -/
  headSeq : Nat
  seq : Nat
  cols : UInt16
  rows : UInt16

/-- A channel's history, bounded by retained bytes and by marker count. -/
structure ChannelHistory where
  ring : List UInt8
  ringCap : Nat
  headSeq : Nat
  baseCols : UInt16
  baseRows : UInt16
  currentCols : UInt16
  currentRows : UInt16
  resizes : List ResizeMarker
  maxResizes : Nat

namespace ChannelHistory

def withLimits (cols rows : UInt16) (ringCap maxResizes : Nat) : ChannelHistory where
  ring := []
  ringCap := ringCap
  headSeq := 0
  baseCols := cols
  baseRows := rows
  currentCols := cols
  currentRows := rows
  resizes := []
  maxResizes := maxResizes

/-- A channel spawned at `cols` by `rows`: that geometry is the base until a marker
is evicted over it. -/
def new (cols rows : UInt16) : ChannelHistory :=
  withLimits cols rows keeperRingCapBytes keeperMaxHistoryResizeRecords

variable (history : ChannelHistory)

/-- How many raw bytes are retained right now. -/
def retainedBytes : Nat := history.ring.length

/-- The sequence of the oldest retained byte. -/
def retainedTail : Nat := history.headSeq - history.ring.length

/-- The loop of `trimEvicted`: markers at or below the tail leave, the newest of
them is the base. -/
def trimLoop (retainedTail : Nat) : UInt16 × UInt16 → List ResizeMarker →
    (UInt16 × UInt16) × List ResizeMarker
  | base, [] => (base, [])
  | base, evicted :: resizes =>
    if evicted.headSeq > retainedTail then (base, evicted :: resizes)
    else trimLoop retainedTail (evicted.cols, evicted.rows) resizes

def trimEvicted : ChannelHistory :=
  let (base, resizes) :=
    trimLoop history.retainedTail (history.baseCols, history.baseRows) history.resizes
  { history with baseCols := base.1, baseRows := base.2, resizes }

/-- Record one emitted chunk. -/
def recordOutput (bytes : List UInt8) : ChannelHistory :=
  if bytes.isEmpty then history
  else
    let keep := min bytes.length history.ringCap
    let ring := history.ring ++ bytes.drop (bytes.length - keep)
    let excess := ring.length - history.ringCap
    trimEvicted
      { history with headSeq := history.headSeq + bytes.length, ring := ring.drop excess }

/-- What a full marker budget does: bytes under an unknowable geometry are not kept. -/
def discardWindow : ChannelHistory :=
  { history with
    ring := []
    resizes := []
    baseCols := history.currentCols
    baseRows := history.currentRows }

/-- Record a geometry change at the current head. -/
def recordResize (seq : Nat) (cols rows : UInt16) : ChannelHistory :=
  let history :=
    if history.resizes.length ≥ history.maxResizes then history.discardWindow else history
  { history with
    resizes := history.resizes ++ [{ headSeq := history.headSeq, seq, cols, rows }]
    currentCols := cols
    currentRows := rows }

/-- The loop of `ordered`: the retained bytes cut at each marker. -/
def cut (retained : List UInt8) (retainedTail headSeq : Nat) :
    Nat → List ResizeMarker → List HistoryRecord
  | rawSeq, [] =>
    if rawSeq < headSeq then [.output (retained.drop (rawSeq - retainedTail))] else []
  | rawSeq, marker :: resizes =>
    if marker.headSeq < retainedTail ∨ marker.headSeq > headSeq then
      cut retained retainedTail headSeq rawSeq resizes
    else if marker.headSeq > rawSeq then
      .output ((retained.take (marker.headSeq - retainedTail)).drop (rawSeq - retainedTail)) ::
        .resize marker.seq marker.cols marker.rows ::
        cut retained retainedTail headSeq marker.headSeq resizes
    else
      .resize marker.seq marker.cols marker.rows :: cut retained retainedTail headSeq rawSeq resizes

def ordered : HistoryRecords where
  headSeq := history.headSeq
  baseCols := history.baseCols
  baseRows := history.baseRows
  records := cut history.ring history.retainedTail history.headSeq history.retainedTail
    history.resizes

def record : HistoryRecord → ChannelHistory
  | .output bytes => history.recordOutput bytes
  | .resize seq cols rows => history.recordResize seq cols rows

def recorder : Transducer ChannelHistory HistoryRecord Unit where
  step history event := (history.record event, ())

end ChannelHistory

/-! ## What a list of records replays -/

namespace HistoryRecord

def geometry (before : Geometry) : HistoryRecord → Geometry
  | output _ => before
  | resize _ cols rows => (cols, rows)

def resize? : HistoryRecord → Option (Nat × Geometry)
  | output _ => none
  | resize seq cols rows => some (seq, cols, rows)

end HistoryRecord

def recordedBytes (records : List HistoryRecord) : List UInt8 :=
  records.flatMap HistoryRecord.bytes

def recordedResizes (records : List HistoryRecord) : List (Nat × Geometry) :=
  records.filterMap HistoryRecord.resize?

def finalGeometry (start : Geometry) (records : List HistoryRecord) : Geometry :=
  records.foldl HistoryRecord.geometry start

def replay : Geometry → List HistoryRecord → List (UInt8 × Geometry)
  | _, [] => []
  | geometry, record :: records =>
    record.bytes.map (·, geometry) ++ replay (record.geometry geometry) records

@[simp] theorem finalGeometry_nil (start : Geometry) : finalGeometry start [] = start := rfl

@[simp] theorem finalGeometry_cons (start : Geometry) (record : HistoryRecord)
    (records : List HistoryRecord) :
    finalGeometry start (record :: records) = finalGeometry (record.geometry start) records := rfl

theorem finalGeometry_concat (start : Geometry) (records : List HistoryRecord)
    (record : HistoryRecord) :
    finalGeometry start (records ++ [record]) = record.geometry (finalGeometry start records) := by
  simp [finalGeometry]

theorem recordedBytes_concat (records : List HistoryRecord) (record : HistoryRecord) :
    recordedBytes (records ++ [record]) = recordedBytes records ++ record.bytes := by
  simp [recordedBytes]

theorem recordedResizes_concat (records : List HistoryRecord) (record : HistoryRecord) :
    recordedResizes (records ++ [record]) = recordedResizes records ++ record.resize?.toList := by
  cases hresize : record.resize? <;> simp [recordedResizes, hresize]

theorem replay_concat (start : Geometry) (records : List HistoryRecord) (record : HistoryRecord) :
    replay start (records ++ [record]) =
      replay start records ++ record.bytes.map (·, finalGeometry start records) := by
  induction records generalizing start with
  | nil => simp [replay]
  | cons first records ih => simp [replay, ih]

theorem replay_map_fst (start : Geometry) (records : List HistoryRecord) :
    (replay start records).map Prod.fst = recordedBytes records := by
  induction records generalizing start with
  | nil => rfl
  | cons record records ih => simp [replay, recordedBytes, ih, Function.comp_def]

/-! ## Bytes under markers -/

namespace ResizeMarker

def geometry (marker : ResizeMarker) : Geometry := (marker.cols, marker.rows)

def last (base : Geometry) (markers : List ResizeMarker) : Geometry :=
  markers.foldl (fun _ marker => marker.geometry) base

/-- The markers stand in order between two sequences. -/
def Within (head : Nat) : Nat → List ResizeMarker → Prop
  | seq, [] => seq ≤ head
  | seq, marker :: markers =>
    seq ≤ marker.headSeq ∧ marker.headSeq ≤ head ∧ Within head marker.headSeq markers

/-- The geometry the markers give to each byte of `bytes`, the first of which has
sequence `seq`. -/
def stamp : Geometry → Nat → List UInt8 → List ResizeMarker → List (UInt8 × Geometry)
  | base, _, bytes, [] => bytes.map (·, base)
  | base, seq, bytes, marker :: markers =>
    (bytes.take (marker.headSeq - seq)).map (·, base) ++
      stamp marker.geometry marker.headSeq (bytes.drop (marker.headSeq - seq)) markers

variable {base : Geometry} {seq head : Nat} {bytes : List UInt8} {markers : List ResizeMarker}

theorem Within.mono {seq' head' : Nat} (h : Within head seq markers) (hseq : seq' ≤ seq)
    (hhead : head ≤ head') : Within head' seq' markers := by
  induction markers generalizing seq seq' with
  | nil => exact Nat.le_trans hseq (Nat.le_trans h hhead)
  | cons marker markers ih =>
    exact ⟨Nat.le_trans hseq h.1, Nat.le_trans h.2.1 hhead, ih h.2.2 (Nat.le_refl _)⟩

variable {marker : ResizeMarker}

theorem Within.concat (h : Within head seq markers)
    (hmarker : marker.headSeq = head) : Within head seq (markers ++ [marker]) := by
  induction markers generalizing seq with
  | nil => exact ⟨hmarker ▸ h, Nat.le_of_eq hmarker, Nat.le_of_eq hmarker⟩
  | cons first markers ih => exact ⟨h.1, h.2.1, ih h.2.2⟩

@[simp] theorem last_concat (marker : ResizeMarker) :
    last base (markers ++ [marker]) = marker.geometry := by
  simp [last]

@[simp] theorem stamp_length (base : Geometry) (seq : Nat) (bytes : List UInt8)
    (markers : List ResizeMarker) : (stamp base seq bytes markers).length = bytes.length := by
  induction markers generalizing base seq bytes with
  | nil => simp [stamp]
  | cons marker markers ih =>
    simp only [stamp, length_append, length_map, length_take, ih, length_drop]
    omega

theorem stamp_append (h : Within (seq + bytes.length) seq markers) (new : List UInt8) :
    stamp base seq (bytes ++ new) markers =
      stamp base seq bytes markers ++ new.map (·, last base markers) := by
  induction markers generalizing base seq bytes with
  | nil => simp [stamp, last]
  | cons marker markers ih =>
    obtain ⟨hlow, hhigh, hrest⟩ := h
    have hfits : marker.headSeq - seq ≤ bytes.length := by omega
    have hend : marker.headSeq + (bytes.drop (marker.headSeq - seq)).length = seq + bytes.length := by
      rw [length_drop]
      omega
    rw [← hend] at hrest
    simp only [stamp, take_append_of_le_length hfits, drop_append_of_le_length hfits,
      ih hrest, append_assoc]
    rfl

theorem stamp_concat (base : Geometry) (h : Within (seq + bytes.length) seq markers)
    (hmarker : marker.headSeq = seq + bytes.length) :
    stamp base seq bytes (markers ++ [marker]) = stamp base seq bytes markers := by
  induction markers generalizing base seq bytes with
  | nil =>
    have hall : marker.headSeq - seq = bytes.length := by omega
    simp [stamp, hall]
  | cons first markers ih =>
    obtain ⟨hlow, hhigh, hrest⟩ := h
    have hend : first.headSeq + (bytes.drop (first.headSeq - seq)).length = seq + bytes.length := by
      rw [length_drop]
      omega
    simp only [cons_append, stamp]
    rw [ih _ (hend ▸ hrest) (by rw [hend, hmarker])]

end ResizeMarker

namespace ChannelHistory

open ResizeMarker

section Cutting

variable {base : Geometry} {seq head tail : Nat} {bytes : List UInt8}
  {markers : List ResizeMarker}

theorem stamp_trimLoop (base : Geometry) (evicted : Nat) (h : Within (seq + bytes.length) seq markers) :
    stamp (trimLoop (seq + evicted) base markers).1 (seq + evicted) (bytes.drop evicted)
        (trimLoop (seq + evicted) base markers).2 =
      (stamp base seq bytes markers).drop evicted := by
  induction markers generalizing base seq bytes evicted with
  | nil => simp [trimLoop, stamp]
  | cons marker markers ih =>
    obtain ⟨hlow, hhigh, hrest⟩ := h
    obtain ⟨gap, hgap⟩ := Nat.exists_eq_add_of_le hlow
    have hwidth : marker.headSeq - seq = gap := by omega
    have htake : (bytes.take gap).length = gap := by
      rw [length_take]
      omega
    simp only [trimLoop, stamp, hwidth]
    split
    · -- The first marker lies above the tail: only bytes before it leave.
      have hlt : evicted < gap := by omega
      have hleft : marker.headSeq - (seq + evicted) = gap - evicted := by omega
      have hle : evicted ≤ ((bytes.take gap).map (·, base)).length := by
        rw [length_map, htake]
        omega
      simp only [stamp, hleft, drop_append_of_le_length hle, drop_drop, ← map_drop,
        drop_take, Nat.add_sub_cancel' hlt.le]
    -- The marker leaves: every byte before it leaves too, and it is the new base.
    obtain ⟨more, rfl⟩ := Nat.exists_eq_add_of_le (by omega : gap ≤ evicted)
    have hend : marker.headSeq + (bytes.drop gap).length = seq + bytes.length := by
      rw [length_drop]
      omega
    have hseq : seq + (gap + more) = marker.headSeq + more := by omega
    have hskip : ((bytes.take gap).map (·, base)).length = gap := by rw [length_map, htake]
    rw [hseq, ← drop_drop, ih _ _ (hend ▸ hrest), ← drop_drop (i := more) (j := gap)]
    rw [drop_left' hskip]
    rfl

theorem last_trimLoop (tail : Nat) :
    last (trimLoop tail base markers).1 (trimLoop tail base markers).2 = last base markers := by
  induction markers generalizing base with
  | nil => rfl
  | cons marker markers ih =>
    simp only [trimLoop]
    split
    · rfl
    · exact ih

theorem trimLoop_suffix (tail : Nat) : (trimLoop tail base markers).2 <:+ markers := by
  induction markers generalizing base with
  | nil => exact suffix_rfl
  | cons marker markers ih =>
    simp only [trimLoop]
    split
    · exact suffix_rfl
    · exact ih.trans (suffix_cons _ _)

theorem within_trimLoop (h : Within head seq markers) (htail : tail ≤ head) :
    Within head tail (trimLoop tail base markers).2 := by
  induction markers generalizing base seq with
  | nil => exact htail
  | cons marker markers ih =>
    simp only [trimLoop]
    split
    · rename_i habove
      exact ⟨Nat.le_of_lt habove, h.2⟩
    · exact ih h.2.2

variable {rawSeq : Nat} {retained : List UInt8}

theorem replay_cut (base : Geometry) (htail : tail ≤ rawSeq)
    (hlen : tail + retained.length = head) (h : Within head rawSeq markers) :
    replay base (cut retained tail head rawSeq markers) =
      stamp base rawSeq (retained.drop (rawSeq - tail)) markers := by
  induction markers generalizing base rawSeq with
  | nil =>
    simp only [cut, stamp]
    split
    · simp [replay, HistoryRecord.bytes]
    · have hempty : retained.drop (rawSeq - tail) = [] := drop_eq_nil_of_le (by omega)
      simp [replay, hempty]
  | cons marker markers ih =>
    obtain ⟨hlow, hhigh, hrest⟩ := h
    have hin : ¬(marker.headSeq < tail ∨ marker.headSeq > head) := by omega
    have hdrop : rawSeq - tail + (marker.headSeq - rawSeq) = marker.headSeq - tail := by omega
    have htake : marker.headSeq - tail - (rawSeq - tail) = marker.headSeq - rawSeq := by omega
    simp only [cut, if_neg hin, stamp]
    split
    · simp only [replay, HistoryRecord.bytes, HistoryRecord.geometry, map_nil,
        nil_append, ih _ (Nat.le_trans htail hlow) hrest, drop_take, drop_drop, hdrop,
        htake]
      rfl
    have heq : marker.headSeq = rawSeq := by omega
    rw [heq] at hrest
    simp only [replay, HistoryRecord.bytes, HistoryRecord.geometry, map_nil,
      nil_append, ih _ htail hrest, heq, Nat.sub_self, take_zero, drop_zero]
    rfl

theorem finalGeometry_cut (htail : tail ≤ rawSeq)
    (h : Within head rawSeq markers) :
    finalGeometry base (cut retained tail head rawSeq markers) = last base markers := by
  induction markers generalizing base rawSeq with
  | nil =>
    simp only [cut]
    split <;> rfl
  | cons marker markers ih =>
    obtain ⟨hlow, hhigh, hrest⟩ := h
    have hin : ¬(marker.headSeq < tail ∨ marker.headSeq > head) := by omega
    simp only [cut, if_neg hin]
    split
    · exact ih (Nat.le_trans htail hlow) hrest
    · exact ih htail (hrest.mono (by omega) (Nat.le_refl _))

theorem recordedResizes_cut (retained : List UInt8) (htail : tail ≤ rawSeq)
    (h : Within head rawSeq markers) : recordedResizes (cut retained tail head rawSeq markers) =
      markers.map fun marker => (marker.seq, marker.geometry) := by
  induction markers generalizing rawSeq with
  | nil =>
    simp only [cut]
    split <;> rfl
  | cons marker markers ih =>
    obtain ⟨hlow, hhigh, hrest⟩ := h
    have hin : ¬(marker.headSeq < tail ∨ marker.headSeq > head) := by omega
    simp only [cut, if_neg hin]
    split
    · exact congrArg _ (ih (Nat.le_trans htail hlow) hrest)
    · exact congrArg _ (ih htail (hrest.mono (by omega) (Nat.le_refl _)))

end Cutting

/-! ## The invariant -/

def base (history : ChannelHistory) : Geometry := (history.baseCols, history.baseRows)

def current (history : ChannelHistory) : Geometry := (history.currentCols, history.currentRows)

/-- The geometry of each retained byte. -/
def stamps (history : ChannelHistory) : List (UInt8 × Geometry) :=
  stamp history.base history.retainedTail history.ring history.resizes

structure Reflects (start : Geometry) (events : List HistoryRecord) (history : ChannelHistory) :
    Prop where
  head : history.headSeq = (recordedBytes events).length
  fits : history.ring.length ≤ history.headSeq
  cap : history.ring.length ≤ history.ringCap
  within : Within history.headSeq history.retainedTail history.resizes
  stamps : history.stamps <:+ replay start events
  last : last history.base history.resizes = history.current
  current : history.current = finalGeometry start events
  resizes : (history.resizes.map fun marker => (marker.seq, marker.geometry)) <:+
    recordedResizes events

variable {start : Geometry} {events : List HistoryRecord} {history : ChannelHistory}

theorem Reflects.tail_add (h : Reflects start events history) :
    history.retainedTail + history.ring.length = history.headSeq := by
  have := h.fits
  simp only [retainedTail]
  omega

theorem ring_append_eq (ring bytes : List UInt8) (ringCap : Nat) :
    (ring ++ bytes.drop (bytes.length - min bytes.length ringCap)).drop
        ((ring ++ bytes.drop (bytes.length - min bytes.length ringCap)).length - ringCap) =
      (ring ++ bytes).drop (ring.length + bytes.length - ringCap) := by
  rcases Nat.le_total bytes.length ringCap with hle | hge
  · simp [Nat.min_eq_left hle]
  -- The chunk alone fills the ring, so the old ring leaves whole.
  have hexcess : ring.length + bytes.length - ringCap = ring.length + (bytes.length - ringCap) := by
    omega
  have hlen : ring.length + (bytes.length - (bytes.length - ringCap)) - ringCap = ring.length := by
    omega
  simp [Nat.min_eq_right hge, hexcess, hlen, drop_append]

theorem reflects_withLimits (cols rows : UInt16) (ringCap maxResizes : Nat) :
    Reflects (cols, rows) [] (withLimits cols rows ringCap maxResizes) where
  head := rfl
  fits := Nat.le_refl _
  cap := Nat.zero_le _
  within := Nat.le_refl _
  stamps := suffix_rfl
  last := rfl
  current := rfl
  resizes := suffix_rfl

theorem Reflects.recordOutput (h : Reflects start events history) (bytes : List UInt8) :
    Reflects start (events ++ [.output bytes]) (history.recordOutput bytes) := by
  have htail := h.tail_add
  have hgeom : finalGeometry start (events ++ [.output bytes]) = finalGeometry start events :=
    finalGeometry_concat ..
  have hres : recordedResizes (events ++ [.output bytes]) = recordedResizes events := by
    simp [recordedResizes_concat, HistoryRecord.resize?]
  unfold ChannelHistory.recordOutput
  split
  · rename_i hempty
    obtain rfl := isEmpty_iff.mp hempty
    refine ⟨?_, h.fits, h.cap, h.within, ?_, h.last, hgeom ▸ h.current, hres ▸ h.resizes⟩
    · simpa [recordedBytes_concat, HistoryRecord.bytes] using h.head
    · simpa [replay_concat, HistoryRecord.bytes] using h.stamps
  simp only [ring_append_eq]
  generalize hevict : history.ring.length + bytes.length - history.ringCap = evicted
  have hnew : history.headSeq + bytes.length - ((history.ring ++ bytes).drop evicted).length =
      history.retainedTail + evicted := by
    simp only [length_drop, length_append]
    omega
  have hwithin : Within (history.retainedTail + history.ring.length) history.retainedTail
      history.resizes := htail ▸ h.within
  have hgrown : Within (history.retainedTail + (history.ring ++ bytes).length)
      history.retainedTail history.resizes :=
    hwithin.mono (Nat.le_refl _) (by simp)
  refine ⟨?_, ?_, ?_, ?_, ?_, ?_, ?_, ?_⟩
  · simp [trimEvicted, recordedBytes_concat, HistoryRecord.bytes, h.head]
  · simp only [trimEvicted, length_drop, length_append]
    omega
  · simp only [trimEvicted, length_drop, length_append]
    omega
  · refine within_trimLoop (h.within.mono (Nat.le_refl _) (Nat.le_add_right _ _)) ?_
    simp only [retainedTail]
    omega
  · have hstamp : stamp history.base history.retainedTail (history.ring ++ bytes)
        history.resizes <:+ replay start (events ++ [.output bytes]) := by
      rw [stamp_append hwithin, replay_concat, h.last, h.current]
      exact suffix_append_self_iff.mpr h.stamps
    simp only [ChannelHistory.stamps, trimEvicted, ChannelHistory.base, retainedTail]
    rw [hnew]
    refine List.IsSuffix.trans ?_ hstamp
    have := stamp_trimLoop history.base evicted hgrown
    exact this ▸ drop_suffix _ _
  · exact (last_trimLoop _).trans h.last
  · exact h.current.trans hgeom.symm
  · exact hres ▸ ((trimLoop_suffix _).map _).trans h.resizes

theorem Reflects.discardWindow (h : Reflects start events history) :
    Reflects start events history.discardWindow where
  head := h.head
  fits := Nat.zero_le _
  cap := Nat.zero_le _
  within := Nat.sub_le _ _
  stamps := nil_suffix
  last := rfl
  current := h.current
  resizes := nil_suffix

theorem Reflects.recordResize (h : Reflects start events history) (seq : Nat) (cols rows : UInt16) :
    Reflects start (events ++ [.resize seq cols rows]) (history.recordResize seq cols rows) := by
  have hroom : Reflects start events
      (if history.resizes.length ≥ history.maxResizes then history.discardWindow else history) := by
    split
    · exact h.discardWindow
    · exact h
  unfold ChannelHistory.recordResize
  generalize (if history.resizes.length ≥ history.maxResizes then history.discardWindow
    else history) = room at hroom
  have htail := hroom.tail_add
  refine ⟨?_, hroom.fits, hroom.cap, hroom.within.concat rfl, ?_, last_concat _, ?_, ?_⟩
  · simpa [recordedBytes_concat, HistoryRecord.bytes] using hroom.head
  · let marker : ResizeMarker := ⟨room.headSeq, seq, cols, rows⟩
    have hmarker : marker.headSeq = room.retainedTail + room.ring.length := htail.symm
    have hstamp := stamp_concat room.base (htail ▸ hroom.within) hmarker
    have hreplay : replay start (events ++ [.resize seq cols rows]) = replay start events := by
      simp [replay_concat, HistoryRecord.bytes]
    rw [hreplay]
    exact (congrArg (· <:+ _) hstamp).mpr hroom.stamps
  · rw [finalGeometry_concat]
    rfl
  · rw [recordedResizes_concat]
    simpa [HistoryRecord.resize?, geometry, suffix_append_self_iff] using hroom.resizes

/-- What is retained replays as the full record does. -/
theorem reflects_run (cols rows : UInt16) (ringCap maxResizes : Nat) (events : List HistoryRecord) :
    Reflects (cols, rows) events (recorder.run (withLimits cols rows ringCap maxResizes) events) := by
  refine Transducer.history (reflects_withLimits cols rows ringCap maxResizes) ?_ events
  intro events history event h
  cases event with
  | output bytes => exact h.recordOutput bytes
  | resize seq cols rows => exact h.recordResize seq cols rows

theorem ringCap_record (history : ChannelHistory) (event : HistoryRecord) :
    (history.record event).ringCap = history.ringCap := by
  cases event with
  | output =>
    simp only [record, recordOutput]
    split <;> rfl
  | resize =>
    simp only [record, recordResize]
    split <;> rfl

/-- The stored records replay to the recorded stamps. -/
theorem Reflects.ordered (h : Reflects start events history) :
    replay history.base history.ordered.records = history.stamps ∧
      finalGeometry history.base history.ordered.records = history.current ∧
      recordedResizes history.ordered.records <:+ recordedResizes events := by
  refine ⟨?_, ?_, ?_⟩
  · have := replay_cut history.base (Nat.le_refl history.retainedTail) h.tail_add h.within
    simpa [ChannelHistory.ordered, ChannelHistory.stamps] using this
  · exact (finalGeometry_cut (Nat.le_refl _) h.within).trans h.last
  · have := recordedResizes_cut history.ring (Nat.le_refl _) h.within
    exact this ▸ h.resizes

/-- Whatever a channel recorded, its ordered history is a truthful window of the
stream: the head counts every byte, the output is the newest bytes within the
cap, every retained byte is replayed at the geometry it was recorded at, and the
resizes keep their order and end at the current geometry. -/
theorem ordered_replays (cols rows : UInt16) (events : List HistoryRecord) :
    let history := recorder.run (new cols rows) events
    let answer := history.ordered
    let start := (answer.baseCols, answer.baseRows)
    answer.headSeq = (recordedBytes events).length ∧ answer.window <:+ recordedBytes events ∧
      answer.window.length = history.retainedBytes ∧
      history.retainedBytes ≤ keeperRingCapBytes ∧
      replay start answer.records <:+ replay (cols, rows) events ∧
      finalGeometry start answer.records = (history.currentCols, history.currentRows) ∧
      finalGeometry start answer.records = finalGeometry (cols, rows) events ∧
      recordedResizes answer.records <:+ recordedResizes events := by
  intro history answer start
  have h : Reflects (cols, rows) events history := reflects_run cols rows _ _ events
  have hring : history.ringCap = keeperRingCapBytes :=
    Transducer.invariant (P := fun history => history.ringCap = keeperRingCapBytes) rfl
      (fun history event hcap => (ringCap_record history event).trans hcap) events
  obtain ⟨hreplay, hfinal, hres⟩ := h.ordered
  have hstamps : replay start answer.records <:+ replay (cols, rows) events :=
    (congrArg (· <:+ _) hreplay).mpr h.stamps
  have hwindow : answer.window = (replay start answer.records).map Prod.fst :=
    (replay_map_fst start answer.records).symm
  refine ⟨h.head, ?_, ?_, hring ▸ h.cap, hstamps, hfinal, hfinal.trans h.current, hres⟩
  · rw [hwindow, ← replay_map_fst (cols, rows) events]
    exact hstamps.map _
  · rw [hwindow, show replay start answer.records = history.stamps from hreplay, length_map]
    exact stamp_length ..

end ChannelHistory

end Roost.Keeper
