-- SUMMARY: Ordered history served from every reachable keeper.
import Roost.Keeper.Dispatch

/-!
# Serving history

A retained window is always small enough to travel: the ring and the marker budget
bound it well below the payload bound. What recording does not bound are the
counters. A resize sequence past the largest exact counter is applied, recorded and
acknowledged like any other, and from then on the window cannot be encoded until
its marker is evicted.
-/

namespace Roost.Keeper

open HistoryRecord ResizeRequest

/-! ## The size of a window -/

structure FitsWindow (records : List HistoryRecord) (markers bytes : Nat) : Prop where
  count : records.length ≤ 2 * markers + 1
  layout : (records.flatMap layout).length ≤ 22 * markers + 5 + bytes
  output : HistoryRecords.outputLen records ≤ bytes
  wf : ∀ record ∈ records, record.Wf

/-- A marker that may travel. -/
def ResizeMarker.Wf (marker : ResizeMarker) : Prop :=
  marker.seq ≤ maxSafeInteger ∧ marker.cols ≠ 0 ∧ marker.rows ≠ 0

theorem layout_output_length (bytes : List UInt8) :
    (output bytes).layout.length = 5 + bytes.length := by
  simp [layout]
  omega

theorem layout_resize_length (seq : Nat) (cols rows : UInt16) :
    (resize seq cols rows).layout.length = 17 := by
  simp [layout]

namespace FitsWindow

variable {records : List HistoryRecord} {markers bytes : Nat} {marker : ResizeMarker}

theorem resize (h : FitsWindow records markers bytes) (hmarker : marker.Wf) :
    FitsWindow (.resize marker.seq marker.cols marker.rows :: records) (markers + 1) bytes := by
  obtain ⟨hcount, hlayout, houtput, hwf⟩ := h
  refine ⟨?_, ?_, ?_, List.forall_mem_cons.mpr ⟨hmarker, hwf⟩⟩
  · rw [List.length_cons]
    omega
  · rw [List.flatMap_cons, List.length_append, layout_resize_length]
    omega
  · simpa using houtput

theorem outputThenResize (h : FitsWindow records markers bytes)
    (hmarker : marker.Wf) {run : List UInt8} (hrun : run ≠ []) :
    FitsWindow (.output run :: .resize marker.seq marker.cols marker.rows :: records) (markers + 1)
      (run.length + bytes) := by
  obtain ⟨hcount, hlayout, houtput, hwf⟩ := h
  refine ⟨?_, ?_, ?_, List.forall_mem_cons.mpr ⟨hrun, List.forall_mem_cons.mpr ⟨hmarker, hwf⟩⟩⟩
  · rw [List.length_cons, List.length_cons]
    omega
  · rw [List.flatMap_cons, List.flatMap_cons, List.length_append, List.length_append,
      layout_resize_length, layout_output_length]
    omega
  · simpa using houtput

end FitsWindow

open ResizeMarker in
theorem fitsWindow_cut {retained : List UInt8} {tail head rawSeq : Nat}
    {markers : List ResizeMarker} (htail : tail ≤ rawSeq) (hlen : tail + retained.length = head)
    (hwithin : Within head rawSeq markers) (hmark : ∀ marker ∈ markers, marker.Wf) :
    FitsWindow (ChannelHistory.cut retained tail head rawSeq markers) markers.length
      (head - rawSeq) := by
  induction markers generalizing rawSeq with
  | nil =>
    unfold ChannelHistory.cut
    split
    · rename_i hleft
      have hrun : (retained.drop (rawSeq - tail)).length = head - rawSeq := by
        rw [List.length_drop]
        omega
      have hne : retained.drop (rawSeq - tail) ≠ [] := by
        intro hempty
        rw [hempty, List.length_nil] at hrun
        omega
      refine ⟨by simp, ?_, ?_, List.forall_mem_singleton.mpr hne⟩
      · simp only [List.flatMap_cons, List.flatMap_nil, List.append_nil, layout_output_length, hrun]
        omega
      · simp [hrun]
    · exact ⟨by simp, by simp, by simp, by simp⟩
  | cons marker markers ih =>
    obtain ⟨hlow, hhigh, hrest⟩ := hwithin
    rw [List.forall_mem_cons] at hmark
    have hin : ¬(marker.headSeq < tail ∨ marker.headSeq > head) := by omega
    simp only [ChannelHistory.cut, if_neg hin, List.length_cons]
    split
    · rename_i hleft
      have hrun : ((retained.take (marker.headSeq - tail)).drop (rawSeq - tail)).length =
          marker.headSeq - rawSeq := by
        rw [List.length_drop, List.length_take]
        omega
      have hne : (retained.take (marker.headSeq - tail)).drop (rawSeq - tail) ≠ [] := by
        intro hempty
        rw [hempty, List.length_nil] at hrun
        omega
      have hfits := (ih (Nat.le_trans htail hlow) hrest hmark.2).outputThenResize hmark.1 hne
      rwa [hrun, show marker.headSeq - rawSeq + (head - marker.headSeq) = head - rawSeq by omega]
        at hfits
    · exact (ih htail (hrest.mono (by omega) (Nat.le_refl _)) hmark.2).resize hmark.1

/-! ## Histories that can be served -/

namespace ChannelHistory

/-- A channel's history that can be encoded now: its counters are exact and its
geometries are geometries. -/
structure Servable (history : ChannelHistory) : Prop where
  ringCap : history.ringCap = keeperRingCapBytes
  maxResizes : history.maxResizes = keeperMaxHistoryResizeRecords
  reflects : ∃ start events, Reflects start events history
  head : history.headSeq ≤ maxSafeInteger
  base : history.baseCols ≠ 0 ∧ history.baseRows ≠ 0
  current : history.currentCols ≠ 0 ∧ history.currentRows ≠ 0
  markers : ∀ marker ∈ history.resizes, marker.Wf
  count : history.resizes.length ≤ history.maxResizes

variable {hist : ChannelHistory}

theorem Servable.encodable (h : hist.Servable) : hist.ordered.Encodable := by
  obtain ⟨start, events, hrefl⟩ := h.reflects
  have hfits := fitsWindow_cut (Nat.le_refl hist.retainedTail) hrefl.tail_add hrefl.within h.markers
  have hbytes : hist.headSeq - hist.retainedTail = hist.ring.length := by
    have := hrefl.tail_add
    omega
  have hcap := hrefl.cap
  have hcount := h.count
  rw [h.ringCap] at hcap
  rw [h.maxResizes] at hcount
  rw [hbytes] at hfits
  refine ⟨h.head, h.base.1, h.base.2, ?_, hfits.wf, ?_, Nat.le_trans hfits.output hrefl.fits⟩
  · refine Nat.le_trans hfits.count ?_
    simp only [maxHistoryRecords]
    omega
  rw [HistoryRecords.layout_length]
  have hlayout := hfits.layout
  simp only [keeperRingCapBytes] at hcap
  simp only [keeperMaxHistoryResizeRecords] at hcount
  simp only [historyHeaderBytes, maxHistoryPayloadBytes, ChannelHistory.ordered]
  omega

theorem servable_new {cols rows : UInt16} (hcols : cols ≠ 0) (hrows : rows ≠ 0) :
    (ChannelHistory.new cols rows).Servable where
  ringCap := rfl
  maxResizes := rfl
  reflects := ⟨_, _, reflects_withLimits cols rows _ _⟩
  head := Nat.zero_le _
  base := ⟨hcols, hrows⟩
  current := ⟨hcols, hrows⟩
  markers := by
    intro marker hmem
    cases hmem
  count := Nat.zero_le _

theorem trimLoop_base {tail : Nat} {base : UInt16 × UInt16} {markers : List ResizeMarker}
    (hbase : base.1 ≠ 0 ∧ base.2 ≠ 0) (hmark : ∀ marker ∈ markers, marker.Wf) :
    (trimLoop tail base markers).1.1 ≠ 0 ∧ (trimLoop tail base markers).1.2 ≠ 0 := by
  induction markers generalizing base with
  | nil => exact hbase
  | cons marker markers ih =>
    rw [List.forall_mem_cons] at hmark
    unfold trimLoop
    split
    · exact hbase
    · exact ih hmark.1.2 hmark.2

theorem recordOutput_headSeq (hist : ChannelHistory) (bytes : List UInt8) :
    (hist.recordOutput bytes).headSeq = hist.headSeq + bytes.length := by
  unfold recordOutput
  split
  · rename_i hempty
    rw [List.isEmpty_iff.mp hempty]
    rfl
  · rfl

theorem Servable.recordOutput (h : hist.Servable) {bytes : List UInt8}
    (hhead : hist.headSeq + bytes.length ≤ maxSafeInteger) :
    (hist.recordOutput bytes).Servable := by
  obtain ⟨_, _, hrefl⟩ := h.reflects
  have hafter := hrefl.recordOutput bytes
  unfold ChannelHistory.recordOutput at hafter ⊢
  split at hafter
  · rename_i hempty
    rw [if_pos hempty]
    exact h
  rename_i hsome
  rw [if_neg hsome]
  have hsuffix : ∀ tail, (trimLoop tail (hist.baseCols, hist.baseRows) hist.resizes).2
      <:+ hist.resizes := fun tail => trimLoop_suffix tail
  refine ⟨h.ringCap, h.maxResizes, ⟨_, _, hafter⟩, hhead, trimLoop_base h.base h.markers,
    h.current, ?_, ?_⟩
  · intro marker hmem
    exact h.markers marker ((hsuffix _).subset hmem)
  · exact Nat.le_trans (hsuffix _).length_le h.count

theorem Servable.room (h : hist.Servable) (seq : Nat) (cols rows : UInt16) :
    ∃ room : ChannelHistory, room.Servable ∧ room.resizes.length < room.maxResizes ∧
      hist.recordResize seq cols rows = { room with
          resizes := room.resizes ++ [⟨room.headSeq, seq, cols, rows⟩]
          currentCols := cols
          currentRows := rows } := by
  obtain ⟨start, events, hrefl⟩ := h.reflects
  unfold ChannelHistory.recordResize
  by_cases hfull : hist.resizes.length ≥ hist.maxResizes
  · refine ⟨hist.discardWindow, ?_, ?_, by rw [if_pos hfull]⟩
    · exact ⟨h.ringCap, h.maxResizes, ⟨_, _, hrefl.discardWindow⟩, h.head, h.current,
        h.current, List.forall_mem_nil _, Nat.zero_le _⟩
    · change 0 < hist.maxResizes
      rw [h.maxResizes]
      decide
  · exact ⟨hist, h, Nat.not_le.mp hfull, by rw [if_neg hfull]⟩

theorem Servable.recordResize (h : hist.Servable) {seq : Nat} {cols rows : UInt16}
    (hseq : seq ≤ maxSafeInteger) (hcols : cols ≠ 0) (hrows : rows ≠ 0) :
    (hist.recordResize seq cols rows).Servable := by
  obtain ⟨_, _, hrefl⟩ := h.reflects
  have hafter := hrefl.recordResize seq cols rows
  obtain ⟨room, hserves, hspace, heq⟩ := h.room seq cols rows
  rw [heq] at hafter ⊢
  refine ⟨hserves.ringCap, hserves.maxResizes, ⟨_, _, hafter⟩, hserves.head,
    hserves.base, ⟨hcols, hrows⟩, ?_, ?_⟩
  · intro marker hmem
    rcases List.mem_append.mp hmem with hold | hnew
    · exact hserves.markers marker hold
    · rw [List.mem_singleton] at hnew
      subst hnew
      exact ⟨hseq, hcols, hrows⟩
  · rw [List.length_append]
    exact hspace

end ChannelHistory

/-! ## A keeper over time -/

/-- What happens to a keeper: a frame arrives, output is drained, exited children are
reaped. -/
inductive KeeperOp where
  | frame (host : Host) (frame : MuxFrame)
  | drain (ready : List (UInt16 × List UInt8))
  | reap (finished : List (UInt16 × Option Int32))

namespace KeeperState

def machine (codec : JsonCodec) : Transducer KeeperState KeeperOp (Except CodecError (List MuxFrame)) where
  step keeper
    | .frame host frame =>
      let (keeper, replies) := keeper.handle codec host frame
      (keeper, .ok replies)
    | .drain ready => keeper.drainOutput ready
    | .reap finished => keeper.reapExited codec finished

/-- A request for a channel's ordered history is answered once, with a payload that
decodes to that history. -/
def ServesHistory (keeper : KeeperState) (codec : JsonCodec) : Prop :=
  ∀ (host : Host) (channelId : UInt16) (payload : List UInt8), channelId ≠ 0 → ∃ response,
      (keeper.handle codec host ⟨.getHistoryRecords, channelId, payload⟩).2 =
          [⟨.getHistoryRecordsResp, channelId, response⟩] ∧
        HistoryRecords.decode response = .ok (keeper.orderedHistory channelId)

def drained (ready : List (UInt16 × List UInt8)) (channelId : UInt16) : Nat :=
  ((ready.filter fun chunk => chunk.1 = channelId).map fun chunk => chunk.2.length).sum

/-- The operations that keep counters exact: a sequenced resize that takes effect, and
output, never pass the largest exact counter. -/
def Exact (keeper : KeeperState) : KeeperOp → Prop
  | .frame host frame =>
    frame.frameType = .resizeRequest →
      ∀ request channel, decode frame.payload "ResizeRequest" = .ok request →
        keeper.channels.lookup frame.channelId = some channel →
        channel.pty.appliedSeq < request.seq → host.resized = .ok () →
        request.seq ≤ maxSafeInteger
  | .drain ready =>
    ∀ channelId channel, keeper.channels.lookup channelId = some channel →
      channel.history.headSeq + drained ready channelId ≤ maxSafeInteger
  | .reap _ => True

/-- Every channel's history can be encoded. -/
def AllServable (keeper : KeeperState) : Prop :=
  ∀ channelId channel, keeper.channels.lookup channelId = some channel → channel.history.Servable

theorem drained_cons_self (channelId : UInt16) (bytes : List UInt8)
    (ready : List (UInt16 × List UInt8)) :
    drained ((channelId, bytes) :: ready) channelId = bytes.length + drained ready channelId := by
  simp [drained]

theorem drained_le_cons (chunk : UInt16 × List UInt8) (ready : List (UInt16 × List UInt8))
    (channelId : UInt16) : drained ready channelId ≤ drained (chunk :: ready) channelId := by
  unfold drained
  rw [List.filter_cons]
  split
  · simp
  · exact Nat.le_refl _

variable {host : Host}

theorem spawned_geometry {chan cols rows : UInt16} {pty : PtyChannel}
    (h : PtyChannel.spawn host chan cols rows = .ok pty) : cols ≠ 0 ∧ rows ≠ 0 := by
  unfold PtyChannel.spawn at h
  dsimp only at h
  split at h
  · cases h
  split at h
  · cases h
  rename_i hcols
  split at h
  · cases h
  · rename_i hrows
    exact ⟨fun hzero => hcols (.inl hzero), fun hzero => hrows (.inl hzero)⟩

theorem resized_geometry {pty pty' : PtyChannel} {cols rows : UInt16}
    (h : pty.resizeMaster host cols rows = .ok pty') :
    cols ≠ 0 ∧ rows ≠ 0 ∧ host.resized = .ok () := by
  unfold PtyChannel.resizeMaster at h
  split at h
  · cases h
  rename_i hzero
  split at h
  · cases h
  · rename_i hres
    exact ⟨fun hcols => hzero (.inl hcols), fun hrows => hzero (.inr hrows), hres⟩

theorem applied_resize {pty pty' : PtyChannel} {seq : Nat} {hseq : seq < 256 ^ 8}
    {cols rows : UInt16} (h : pty.applyResize host seq hseq cols rows = .ok pty')
    (hnew : seq > pty.appliedSeq) : host.resized = .ok () := by
  unfold PtyChannel.applyResize at h
  rw [if_neg (Nat.not_le.mpr hnew)] at h
  split at h
  · cases h
  · rename_i hmoved
    exact (resized_geometry hmoved).2.2

namespace AllServable

variable {keeper : KeeperState} {channel : Channel}

theorem withChannel (h : keeper.AllServable) (hchannel : channel.history.Servable)
    (chan : UInt16) : (keeper.withChannel chan channel).AllServable := by
  intro other held hheld
  simp only [KeeperState.withChannel, Table.lookup_insert] at hheld
  split at hheld
  · cases hheld
    exact hchannel
  · exact h other held hheld

theorem withPty (h : keeper.AllServable) {chan : UInt16}
    (hchannel : keeper.channels.lookup chan = some channel) (pty : PtyChannel) :
    (keeper.withChannel chan { channel with pty }).AllServable := by
  have hserves : Channel.history { channel with pty } |>.Servable := h chan channel hchannel
  exact h.withChannel hserves chan

theorem dropChannel (h : keeper.AllServable) (chan : UInt16) :
    (keeper.dropChannel chan).AllServable := by
  intro other held hheld
  simp only [KeeperState.dropChannel, Table.lookup_erase] at hheld
  split at hheld
  · cases hheld
  · exact h other held hheld

variable {codec : JsonCodec} {host : Host} {frame : MuxFrame}

section

variable (h : keeper.AllServable)
include h

theorem spawn : (keeper.spawn codec host frame).1.AllServable := by
  unfold KeeperState.spawn
  split
  · exact h
  split
  · rename_i hspawn
    obtain ⟨hcols, hrows⟩ := spawned_geometry hspawn
    exact (h.dropChannel _).withChannel (ChannelHistory.servable_new hcols hrows) _
  · exact h.dropChannel _

theorem legacyInput : (keeper.legacyInput host frame).1.AllServable := by
  unfold KeeperState.legacyInput
  split
  · exact h
  split
  · exact h
  · rename_i hchannel
    exact h.withPty hchannel _

theorem sequencedInput : (keeper.sequencedInput host frame).1.AllServable := by
  unfold KeeperState.sequencedInput
  split
  · exact h
  dsimp only
  split
  · exact h
  · rename_i channel hchannel
    split <;> exact h.withPty hchannel _

theorem legacyResize : (keeper.legacyResize codec host frame).1.AllServable := by
  unfold KeeperState.legacyResize
  split
  · exact h
  split
  · exact h
  rename_i channel hchannel
  split
  · exact h
  · rename_i hres
    obtain ⟨hcols, hrows, -⟩ := resized_geometry hres
    exact h.withChannel ((h _ channel hchannel).recordResize (Nat.zero_le _) hcols hrows) _

theorem sequencedResize (htype : frame.frameType = .resizeRequest)
    (hexact : keeper.Exact (.frame host frame)) :
    (keeper.sequencedResize host frame).1.AllServable := by
  cases hdecode : decode frame.payload "ResizeRequest" with
  | error =>
    rw [sequencedResize_error hdecode]
    exact h
  | ok req =>
    rw [sequencedResize_ok hdecode]
    unfold resizeChannel
    split
    · exact h
    rename_i channel hchannel
    split
    · rename_i pty happly
      refine h.withChannel ?_ _
      have hserves := h _ channel hchannel
      unfold resizedHistory
      dsimp only
      split
      · rename_i hnew
        have hres := applied_resize happly hnew.1
        exact hserves.recordResize (hexact htype req channel hdecode hchannel hnew.1 hres)
          pty.cols_ne pty.rows_ne
      · exact hserves
    · exact h

theorem killChild : (keeper.killChild host frame).AllServable := by
  unfold KeeperState.killChild
  split
  · exact h
  · rename_i hchannel
    exact h.withPty hchannel _

theorem handle (hexact : keeper.Exact (.frame host frame)) :
    (keeper.handle codec host frame).1.AllServable := by
  have howed : ∀ handled : Handled, (owed frame handled).1 = handled.1 := by
    intro handled
    obtain ⟨after, frames | err⟩ := handled <;> rfl
  rw [KeeperState.handle, howed]
  by_cases hlane : frame.channelId = 0
  all_goals
    cases htype : frame.frameType with
    | spawn => simp [dispatch, htype, hlane, h, h.spawn]
    | ptyIn => simp [dispatch, htype, hlane, h, h.legacyInput]
    | ptyInRequest => simp [dispatch, htype, hlane, h, h.sequencedInput]
    | resize => simp [dispatch, htype, hlane, h, h.legacyResize]
    | resizeRequest => simp [dispatch, htype, hlane, h, h.sequencedResize htype hexact]
    | killChild => simp [dispatch, htype, hlane, h, h.killChild]
    | _ => simp [dispatch, htype, hlane, h]

theorem drainOutput {ready : List (UInt16 × List UInt8)}
    (hexact : keeper.Exact (.drain ready)) : (keeper.drainOutput ready).1.AllServable := by
  induction ready generalizing keeper with
  | nil => exact h
  | cons chunk ready ih =>
    obtain ⟨channelId, bytes⟩ := chunk
    unfold KeeperState.drainOutput
    split
    · refine ih h ?_
      intro other held hheld
      exact Nat.le_trans (Nat.add_le_add_left (drained_le_cons _ _ _) _) (hexact other held hheld)
    rename_i channel hchannel
    have hhead := hexact channelId channel hchannel
    rw [drained_cons_self] at hhead
    have hroom : channel.history.headSeq + bytes.length ≤ maxSafeInteger := by omega
    have hserves := (h _ channel hchannel).recordOutput hroom
    have hafter : (keeper.withChannel channelId
        ⟨channel.pty, channel.history.recordOutput bytes⟩).AllServable :=
      h.withChannel hserves channelId
    split
    · exact hafter
    refine ih hafter ?_
    intro other held hheld
    simp only [KeeperState.withChannel, Table.lookup_insert] at hheld
    split at hheld
    · cases hheld
      rename_i hother
      subst hother
      simp only [ChannelHistory.recordOutput_headSeq]
      omega
    · exact Nat.le_trans (Nat.add_le_add_left (drained_le_cons _ _ _) _) (hexact other held hheld)

theorem reapExited (finished : List (UInt16 × Option Int32)) :
    (keeper.reapExited codec finished).1.AllServable := by
  induction finished generalizing keeper with
  | nil => exact h
  | cons exit finished ih =>
    unfold KeeperState.reapExited
    split
    · exact h.dropChannel _
    · exact ih (h.dropChannel _)

/-- An exact operation keeps every history servable. -/
theorem next {op : KeeperOp} (hexact : keeper.Exact op) :
    ((machine codec).next keeper op).AllServable := by
  cases op with
  | frame => exact h.handle hexact
  | drain => exact h.drainOutput hexact
  | reap finished => exact h.reapExited finished

end

theorem encodable_unknownChannel : HistoryRecords.unknownChannel.Encodable :=
  (HistoryRecords.encode_eq_ok.mp (by rfl)).1

/-- A servable keeper serves its history. -/
theorem servesHistory (h : keeper.AllServable) : keeper.ServesHistory codec := by
  intro host chan payload hlane
  have henc : (keeper.orderedHistory chan).Encodable := by
    unfold orderedHistory
    split
    · exact encodable_unknownChannel
    · rename_i channel hchannel
      exact (h chan channel hchannel).encodable
  have hencode := HistoryRecords.encode_eq_ok.mpr ⟨henc, rfl⟩
  have hsmall : ¬(keeper.orderedHistory chan).layout.length > keeperMaxMuxFrameBytes :=
    Nat.not_lt.mpr (Nat.le_trans henc.payload (by decide))
  have hframed : MuxFrame.new .getHistoryRecordsResp chan
      (keeper.orderedHistory chan).layout = .ok ⟨_, _, _⟩ := if_neg hsmall
  refine ⟨(keeper.orderedHistory chan).layout, ?_, ?_⟩
  · simp only [KeeperState.handle, dispatch, ne_eq, hlane, not_false_eq_true, if_true,
      historyRecords, hencode, bind, Except.bind, hframed, one, Except.map, owed]
  · exact (HistoryRecords.encode_eq_ok_iff_decode _ _).mp hencode

end AllServable

theorem allServable_new (contract : KeeperContractV1) (processEpoch : Option String)
    (processId : UInt32) : (KeeperState.new contract processEpoch processId).AllServable := by
  intro chan channel hheld
  cases hheld

/-- A keeper whose frames and drains have kept its counters exact serves the ordered
history of every channel, held or not. -/
theorem run_servesHistory (codec : JsonCodec) (contract : KeeperContractV1)
    (processEpoch : Option String) (processId : UInt32) (ops : List KeeperOp)
    (h : (machine codec).Along Exact (.new contract processEpoch processId) ops) :
    ((machine codec).run (.new contract processEpoch processId) ops).ServesHistory codec := by
  have hserves := h.invariant (allServable_new contract processEpoch processId)
    fun _ _ hkeeper hexact => hkeeper.next hexact
  exact hserves.servesHistory

/-- A request to move channel 1 to 100 by 30, under a sequence. -/
def wideResize (seq : Nat) : MuxFrame where
  frameType := .resizeRequest
  channelId := 1
  payload := beBytes 8 seq ++ beBytes 4 100 ++ beBytes 4 30

/-- A shell, moved under sequence 7. -/
theorem run_servesHistory_shell : ((machine shellCodec).run (.new shellContract none 1)
      [.frame calmHost shellSpawn, .frame calmHost (wideResize 7)]).ServesHistory shellCodec := by
  apply run_servesHistory
  refine ⟨(fun htype => by cases htype), ?_, trivial⟩
  intro _ request channel hdecode _ _ _
  have hread : decode (wideResize 7).payload "ResizeRequest" = .ok ⟨7, 100, 30⟩ := by
    decide
  cases hdecode
  decide

/-- A shell, moved under the first sequence that is not an exact counter: the resize is
acknowledged, and the channel's history is not answered any more. -/
theorem unserved_shell : (machine shellCodec).answers (.new shellContract none 1)
        [.frame calmHost shellSpawn, .frame calmHost (wideResize (2 ^ 53)),
          .frame calmHost ⟨.getHistoryRecords, 1, []⟩] =
      [.ok [⟨.spawnAck, 1, text "\x7b\"channel_id\":1,\"pid\":4242\x7d"⟩],
        .ok [⟨.resizeAck, 1, beBytes 8 (2 ^ 53) ++ beBytes 4 100 ++ beBytes 4 30⟩],
        .ok []] ∧
      ¬((machine shellCodec).run (.new shellContract none 1)
        [.frame calmHost shellSpawn, .frame calmHost (wideResize (2 ^ 53))]).ServesHistory
          shellCodec := by
  have hanswer : (machine shellCodec).answers (.new shellContract none 1)
      [.frame calmHost shellSpawn, .frame calmHost (wideResize (2 ^ 53)),
        .frame calmHost ⟨.getHistoryRecords, 1, []⟩] =
      [.ok [⟨.spawnAck, 1, text "\x7b\"channel_id\":1,\"pid\":4242\x7d"⟩],
        .ok [⟨.resizeAck, 1, beBytes 8 (2 ^ 53) ++ beBytes 4 100 ++ beBytes 4 30⟩],
        .ok []] := by
    decide +kernel
  refine ⟨hanswer, ?_⟩
  intro hserves
  obtain ⟨response, hreply, -⟩ := hserves calmHost 1 [] (by decide)
  simp only [Transducer.answers_cons, Transducer.answers_nil, List.cons.injEq] at hanswer
  have hnone : (Except.ok [] : Except CodecError (List MuxFrame)) =
      .ok [⟨.getHistoryRecordsResp, 1, response⟩] :=
    hanswer.2.2.1.symm.trans (congrArg Except.ok hreply)
  cases hnone

end KeeperState

end Roost.Keeper
