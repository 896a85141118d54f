-- SUMMARY: Which sequenced requests the keeper answers under their own sequence.
import Roost.Keeper.Dispatch

/-!
# Sequenced answers

A worker that sent a sequenced request waits for an answer that names its
sequence. Answers come from three layers: the handler, the payload decoder's
fault, and the fallback for a fault.
-/

namespace Roost.Keeper

open ResizeRequest

theorem PtyChannel.enqueueInput_cases (pty : PtyChannel) (host : Host) (bytes : List UInt8)
    (reply : InputReply) :
    (∃ pty' reason, pty.enqueueInput host bytes reply = (pty', .error reason)) ∨
      ∃ pty', pty.enqueueInput host bytes reply = (pty', .ok ()) ∧
        pty'.input.queue = pty.input.queue ++ [⟨bytes, reply⟩] := by
  unfold enqueueInput
  cases hexited : host.childExited with
  | true => exact .inl ⟨_, _, rfl⟩
  | false =>
    have hlane : (pty.exited host).input = pty.input := by simp [exited, hexited]
    cases hqueue : (pty.exited host).input.enqueue bytes reply with
    | none => exact .inl ⟨pty.exited host, .queueFull, by simp [hqueue]⟩
    | some =>
      obtain ⟨-, -, rfl⟩ := InputLane.enqueue_eq_some.mp hqueue
      refine .inr ⟨_, by simp only [hqueue]; rfl, ?_⟩
      simp only [hlane]
      rfl

namespace KeeperState

/-- When its lane settles it, a batch yields one result for `seq`, as long as the
connection that queued it is still attached. -/
def OwesResult (batch : Batch) (seq : Nat) : Prop :=
  ∀ (lane : InputLane) (route : InputRoute) (pty : Descriptor) (generation : UInt64),
    batch.reply = .acknowledged seq (some generation) → route.current = some generation →
    ∃ frame, (settleBatch lane route pty batch).delivered = some (generation, frame) ∧
      frame.channelId = lane.channelId ∧ frame.answerSeq = some seq

/-- The request's input went into its channel's lane, as the last batch. -/
def Queued (keeper after : KeeperState) (channelId : UInt16) (seq : Nat) : Prop :=
  ∃ channel channel' batch, keeper.channels.lookup channelId = some channel ∧
    after.channels.lookup channelId = some channel' ∧
    channel'.pty.input.queue = channel.pty.input.queue ++ [batch] ∧
    batch.reply = .acknowledged seq keeper.inputRoute.current ∧ OwesResult batch seq

/-- What the one answer to a sequenced request has to say. -/
structure Answers (keeper after : KeeperState) (channelId : UInt16) (seq : Nat)
    (answer : MuxFrame) : Prop where
  ack : answer.frameType = .resizeAck → ∃ channel, after.channels.lookup channelId = some channel ∧
      answer.answerSeq = some channel.pty.appliedSeq
  own : answer.frameType ≠ .resizeAck → answer.answerSeq = some seq
  missing : answer.frameType = .resizeReject →
    answer.payload[8]? = some ResizeRejectReason.channelMissing.code →
    keeper.channels.lookup channelId = none

/-- Handling the frame queues its input, or yields exactly one answer under `seq`. -/
def AnsweredUnder (keeper : KeeperState) (codec : JsonCodec) (host : Host) (frame : MuxFrame)
    (seq : Nat) : Prop :=
  ((keeper.handle codec host frame).2 = [] ∧
      Queued keeper (keeper.handle codec host frame).1 frame.channelId seq) ∨
    ∃ answer, (keeper.handle codec host frame).2 = [answer] ∧
      Answers keeper (keeper.handle codec host frame).1 frame.channelId seq answer

/-- The requests the keeper answers so: input within the bound or under sequence zero,
and readable geometry the terminal does not refuse. -/
def Answerable (keeper : KeeperState) (host : Host) (frame : MuxFrame) (seq : Nat) : Prop :=
  match frame.frameType with
  | .ptyInRequest => frame.payload.length ≤ 8 + keeperMaxInputBytes ∨ seq = 0
  | .resizeRequest =>
    (∃ request, decode frame.payload "ResizeRequest" = .ok request) ∧
      ∀ channel, keeper.channels.lookup frame.channelId = some channel →
        channel.pty.appliedSeq < seq → host.resized = .ok ()
  | _ => True

/-! ## Input -/

theorem owesResult (bytes : List UInt8) {seq : Nat} (hseq : seq < 256 ^ 8)
    (gen : Option UInt64) : OwesResult ⟨bytes, .acknowledged seq gen⟩ seq := by
  intro lane route pty owner hreply hcur
  cases hreply
  have hstays : Batch.departed ⟨bytes, .acknowledged seq (some owner)⟩ route = false := by
    simp [Batch.departed, hcur]
  have hdel : ∀ frame, route.deliver owner frame = some (owner, frame) := by
    intro frame
    exact if_pos hcur
  refine ⟨⟨(acknowledgedResult seq (lane.attempt pty bytes).1).1, lane.channelId,
    (acknowledgedResult seq (lane.attempt pty bytes).1).2.encode⟩, ?_, rfl, ?_⟩
  · simp only [settleBatch, hstays, Bool.false_eq_true, if_false, deliverResult, resultFrame_eq,
      hdel]
  have hread := PtyInResult.readSequence_encode
    (acknowledgedResult seq (lane.attempt pty bytes).1).2
    (by rw [acknowledgedResult_inputSeq]; exact hseq)
  rw [acknowledgedResult_inputSeq] at hread
  exact hread

theorem answers_ptyInReject (keeper after : KeeperState) (chan : UInt16) {seq : Nat}
    (hseq : seq < 256 ^ 8) (reason : PtyInRejectReason) : Answers keeper after chan seq
      ⟨.ptyInReject, chan, (PtyInResult.reject seq reason).encode⟩ where
  ack := fun h => by cases h
  own := fun _ => PtyInResult.readSequence_encode (.reject seq reason) hseq
  missing := fun h => by cases h

variable {keeper : KeeperState} {codec : JsonCodec} {frame : MuxFrame} {host : Host}

theorem dispatch_ptyInRequest
    (hlane : frame.channelId ≠ 0) (htype : frame.frameType = .ptyInRequest) :
    keeper.dispatch codec host frame = keeper.sequencedInput host frame := by
  simp only [dispatch, htype, ne_eq, hlane, not_false_eq_true, if_true]

section Input

variable {keeper : KeeperState} {codec : JsonCodec} {host : Host} {frame : MuxFrame} {seq : Nat}
  (hlane : frame.channelId ≠ 0) (htype : frame.frameType = .ptyInRequest)
  (hseq : readSequence frame.payload 0 = some seq)
include hlane htype hseq

theorem handle_oversized (hbig : ¬frame.payload.length ≤ 8 + keeperMaxInputBytes) :
    keeper.handle codec host frame =
      (keeper, [⟨.ptyInReject, frame.channelId, (PtyInResult.reject 0 .noSuchChannel).encode⟩]) := by
  have hlong : (frame.payload.drop 8).length > keeperMaxInputBytes := by
    rw [List.length_drop]
    omega
  rw [handle, dispatch_ptyInRequest hlane htype]
  simp only [sequencedInput, PtyInRequest.decode, hseq, hlong, if_true, owed, reject, htype,
    resultFrame_eq]

theorem answeredUnder_oversized (hbig : ¬frame.payload.length ≤ 8 + keeperMaxInputBytes) :
    keeper.AnsweredUnder codec host frame seq ↔ seq = 0 := by
  unfold AnsweredUnder
  rw [handle_oversized hlane htype hseq hbig]
  constructor
  · rintro (⟨hnone, -⟩ | ⟨answer, hanswers, hanswer⟩)
    · cases hnone
    cases hanswers
    have hown := hanswer.own (by simp)
    have hzero := PtyInResult.readSequence_encode (.reject 0 .noSuchChannel) (by decide)
    exact Option.some.inj (hown.symm.trans hzero)
  · intro hzero
    subst hzero
    exact .inr ⟨_, rfl, answers_ptyInReject _ _ _ (by decide) _⟩

theorem answeredUnder_input (hfits : frame.payload.length ≤ 8 + keeperMaxInputBytes) :
    keeper.AnsweredUnder codec host frame seq := by
  have hlt := readSequence_lt hseq
  have hshort : ¬(frame.payload.drop 8).length > keeperMaxInputBytes := by
    rw [List.length_drop]
    omega
  unfold AnsweredUnder
  rw [handle, dispatch_ptyInRequest hlane htype]
  simp only [sequencedInput, PtyInRequest.decode, hseq, hshort, if_false, resultFrame_eq]
  cases hchannel : keeper.channels.lookup frame.channelId with
  | none => exact .inr ⟨_, rfl, answers_ptyInReject _ _ _ hlt _⟩
  | some channel =>
    rcases channel.pty.enqueueInput_cases host (frame.payload.drop 8)
      (.acknowledged seq keeper.inputRoute.current) with
        ⟨pty, reason, henq⟩ | ⟨pty, henq, hqueue⟩
    · simp only [henq]
      exact .inr ⟨_, rfl, answers_ptyInReject _ _ _ hlt _⟩
    · simp only [henq]
      exact .inl ⟨rfl, channel, _, _, hchannel, AList.lookup_insert _, hqueue, rfl, owesResult _ hlt _⟩

end Input

/-! ## Geometry -/

theorem dispatch_resizeRequest
    (hlane : frame.channelId ≠ 0) (htype : frame.frameType = .resizeRequest) :
    keeper.dispatch codec host frame = keeper.sequencedResize host frame := by
  simp only [dispatch, htype, ne_eq, hlane, not_false_eq_true, if_true]

theorem terminalState_framed (pty : PtyChannel) (chan : UInt16) :
    one (pty.terminalState.encode >>= MuxFrame.new .resizeAck chan) =
      .ok [⟨.resizeAck, chan, beBytes 8 pty.appliedSeq ++ beBytes 4 pty.cols.toNat ++
        beBytes 4 pty.rows.toNat⟩] := by
  have hcols := checkDimension_toNat_eq_ok.mpr ⟨pty.cols_ne, rfl⟩
  have hrows := checkDimension_toNat_eq_ok.mpr ⟨pty.rows_ne, rfl⟩
  have hencode : pty.terminalState.encode = .ok (beBytes 8 pty.appliedSeq ++
      beBytes 4 pty.cols.toNat ++ beBytes 4 pty.rows.toNat) := by
    unfold TerminalState.encode encode TerminalState.ack PtyChannel.terminalState
    simp only [hcols, hrows]
    rfl
  rw [hencode]
  simp [one, MuxFrame.new, keeperMaxMuxFrameBytes, bind, Except.bind, Except.map]

theorem answers_resizeAck {after : KeeperState} {chan : UInt16} {channel : Channel}
    (hchannel : after.channels.lookup chan = some channel) (seq : Nat) : Answers keeper after chan seq
      ⟨.resizeAck, chan, beBytes 8 channel.pty.appliedSeq ++
        beBytes 4 channel.pty.cols.toNat ++ beBytes 4 channel.pty.rows.toNat⟩ where
  ack := fun _ => ⟨channel, hchannel, by
    rw [MuxFrame.answerSeq, List.append_assoc]
    exact readSequence_append channel.pty.appliedSeq_lt _⟩
  own := fun h => absurd rfl h
  missing := fun h => by cases h

theorem answers_resizeReject_iff {after : KeeperState} {chan : UInt16} {seq : Nat}
    (hseq : seq < 256 ^ 8) :
    Answers keeper after chan seq ⟨.resizeReject, chan, beBytes 8 seq ++ [1]⟩ ↔
      keeper.channels.lookup chan = none := by
  constructor
  · intro h
    refine h.missing rfl ?_
    rw [List.getElem?_append_right (by simp)]
    simp [ResizeRejectReason.code]
  · intro h
    exact ⟨fun h => (by cases h), fun _ => readSequence_append hseq _, fun _ _ => h⟩

theorem not_queued_self (keeper : KeeperState) (chan : UInt16) (seq : Nat) :
    ¬Queued keeper keeper chan seq := by
  rintro ⟨channel, channel', batch, hpre, hafter, hqueue, _⟩
  rw [hpre] at hafter
  cases hafter
  simp at hqueue

theorem applyResize_cases (pty : PtyChannel) (host : Host) {seq : Nat} (hseq : seq < 256 ^ 8)
    {cols rows : UInt16} (hcols : cols ≠ 0) (hrows : rows ≠ 0) :
    (∃ pty', pty.applyResize host seq hseq cols rows = .ok pty' ∧
        (pty.appliedSeq < seq → host.resized = .ok ())) ∨
      ∃ err, pty.applyResize host seq hseq cols rows = .error err ∧ pty.appliedSeq < seq ∧
        host.resized ≠ .ok () := by
  unfold PtyChannel.applyResize
  by_cases hstale : seq ≤ pty.appliedSeq
  · refine .inl ⟨pty, if_pos hstale, ?_⟩
    intro hnew
    exact absurd hstale (Nat.not_le.mpr hnew)
  have hzero : ¬(cols = 0 ∨ rows = 0) := not_or.mpr ⟨hcols, hrows⟩
  simp only [hstale, if_false, PtyChannel.resizeMaster, hzero, dite_false]
  cases hres : host.resized with
  | ok => exact .inl ⟨_, rfl, fun _ => rfl⟩
  | error => exact .inr ⟨_, rfl, Nat.not_le.mp hstale, by simp⟩

theorem decoded_dimension_ne {value : Nat} (h : checkDimension value = .ok value) :
    UInt16.ofNat value ≠ 0 := by
  obtain ⟨hne, hmax, -⟩ := checkDimension_eq_ok.mp h
  intro hzero
  have hval := congrArg UInt16.toNat hzero
  have hlt : value < UInt16.size := Nat.lt_of_le_of_lt hmax (by decide)
  rw [UInt16.toNat_ofNat_of_lt' hlt] at hval
  exact hne hval

section Geometry

variable {keeper : KeeperState} {codec : JsonCodec} {host : Host} {frame : MuxFrame} {seq : Nat}
  (hlane : frame.channelId ≠ 0) (htype : frame.frameType = .resizeRequest)
  (hseq : readSequence frame.payload 0 = some seq)
include hlane htype

theorem handle_unreadable {err : CodecError}
    (hdecode : decode frame.payload "ResizeRequest" = .error err) :
    keeper.handle codec host frame = (keeper, []) := by
  rw [handle, dispatch_resizeRequest hlane htype]
  rw [sequencedResize_error hdecode]
  simp only [owed, reject, htype]

theorem not_answeredUnder_unreadable {err : CodecError}
    (hdecode : decode frame.payload "ResizeRequest" = .error err) :
    ¬keeper.AnsweredUnder codec host frame seq := by
  unfold AnsweredUnder
  rw [handle_unreadable hlane htype hdecode]
  rintro (⟨-, hqueue⟩ | ⟨answer, hanswer, -⟩)
  · exact not_queued_self keeper _ _ hqueue
  · cases hanswer

include hseq

theorem answeredUnder_resize {request : ResizeRequest}
    (hdecode : decode frame.payload "ResizeRequest" = .ok request) :
    keeper.AnsweredUnder codec host frame seq ↔
      ∀ channel, keeper.channels.lookup frame.channelId = some channel →
        channel.pty.appliedSeq < seq → host.resized = .ok () := by
  obtain ⟨hread, _, _, -, -, hcols, hrows, hreq⟩ :=
    decode_eq_ok.mp hdecode
  have hown : request.seq = seq := Option.some.inj (hread.symm.trans hseq)
  subst hown
  have hlt := readSequence_lt hseq
  have hcols := decoded_dimension_ne hcols
  have hrows := decoded_dimension_ne hrows
  rw [hreq] at hdecode
  unfold AnsweredUnder
  rw [handle, dispatch_resizeRequest hlane htype, sequencedResize_ok hdecode]
  unfold resizeChannel
  cases hchannel : keeper.channels.lookup frame.channelId with
  | none =>
    have hanswer := @answers_resizeReject_iff keeper keeper _ _ hlt |>.mpr hchannel
    simp only [resizeReject_eq]
    constructor
    · intro _ channel h
      cases h
    · intro _
      exact .inr ⟨_, rfl, hanswer⟩
  | some channel =>
    simp only [Option.some.injEq, forall_eq']
    rcases applyResize_cases channel.pty host hlt hcols hrows with
        ⟨pty, happly, hres⟩ | ⟨err, happly, hnew, href⟩
    · simp only [happly, terminalState_framed]
      constructor
      · intro _
        exact hres
      intro _
      refine .inr ⟨_, rfl, ?_⟩
      apply @answers_resizeAck _ _ _ ⟨pty, resizedHistory channel request.seq pty⟩
      exact AList.lookup_insert _
    simp only [happly, resizeReject_eq]
    constructor
    · rintro (⟨hnone, -⟩ | ⟨answer, hanswers, hanswer⟩)
      · cases hnone
      cases hanswers
      have hmiss := (answers_resizeReject_iff hlt).mp hanswer
      rw [hchannel] at hmiss
      cases hmiss
    · intro h
      exact absurd (h hnew) href

end Geometry

/-! ## Every sequenced request -/

/-- A sequenced request on a channel's lane is queued or answered once under its own
sequence exactly when its input is within the bound (or its sequence is the zero the
fallback names), or its geometry is readable and not refused by the terminal of a
channel the keeper holds. -/
theorem answeredUnder_iff (keeper : KeeperState) (codec : JsonCodec) (host : Host)
    (frame : MuxFrame) (seq : Nat) (hlane : frame.channelId ≠ 0)
    (htype : frame.frameType = .ptyInRequest ∨ frame.frameType = .resizeRequest)
    (hseq : readSequence frame.payload 0 = some seq) :
    keeper.AnsweredUnder codec host frame seq ↔ keeper.Answerable host frame seq := by
  rcases htype with htype | htype
  · simp only [Answerable, htype]
    by_cases hfits : frame.payload.length ≤ 8 + keeperMaxInputBytes
    · exact ⟨fun _ => .inl hfits, fun _ => answeredUnder_input hlane htype hseq hfits⟩
    · rw [answeredUnder_oversized hlane htype hseq hfits]
      simp only [hfits, false_or]
  simp only [Answerable, htype]
  cases hdecode : decode frame.payload "ResizeRequest" with
  | error =>
    constructor
    · intro h
      exact absurd h (not_answeredUnder_unreadable hlane htype hdecode)
    · rintro ⟨⟨request, hreq⟩, -⟩
      cases hreq
  | ok request =>
    rw [answeredUnder_resize hlane htype hseq hdecode]
    exact ⟨fun h => ⟨⟨request, rfl⟩, h⟩, fun h => h.2⟩

/-- A request to resize channel 1, under sequence 7. -/
def resizeFrame (cols rows : Nat) : MuxFrame where
  frameType := .resizeRequest
  channelId := 1
  payload := beBytes 8 7 ++ beBytes 4 cols ++ beBytes 4 rows

/-- The terminal takes the new geometry. -/
theorem answeredUnder_iff_shell :
    shellKeeper.AnsweredUnder shellCodec calmHost (resizeFrame 100 30) 7 ↔
      shellKeeper.Answerable calmHost (resizeFrame 100 30) 7 :=
  answeredUnder_iff shellKeeper shellCodec calmHost (resizeFrame 100 30) 7 (by decide)
    (.inr rfl) (by decide)

/-- Three requests under sequence 7 on a live channel that are not answered under it:
a geometry of no columns, a geometry the terminal refuses, and input past the bound. -/
theorem unanswered_shell : ¬shellKeeper.AnsweredUnder shellCodec calmHost (resizeFrame 0 30) 7 ∧
      ¬shellKeeper.AnsweredUnder shellCodec { calmHost with resized := .error "EIO" }
        (resizeFrame 100 30) 7 ∧
      ¬shellKeeper.AnsweredUnder shellCodec calmHost
        ⟨.ptyInRequest, 1, beBytes 8 7 ++ List.replicate (keeperMaxInputBytes + 1) 0⟩ 7 := by
  refine ⟨?_, ?_, ?_⟩
  · have hdecode : decode (resizeFrame 0 30).payload "ResizeRequest" =
        .error (.badDimension 0) := by decide
    exact not_answeredUnder_unreadable (by decide) rfl hdecode
  · have hdecode : decode (resizeFrame 100 30).payload "ResizeRequest" =
        .ok ⟨7, 100, 30⟩ := by decide
    rw [answeredUnder_resize (by decide) rfl (by decide) hdecode]
    intro h
    obtain ⟨channel, hchannel, hfresh⟩ : ∃ channel, shellKeeper.channels.lookup 1 = some channel ∧
        channel.pty.appliedSeq = 0 := ⟨_, rfl, rfl⟩
    have hres := h channel hchannel (by rw [hfresh]; decide)
    cases hres
  · rw [answeredUnder_oversized (by decide) rfl]
    · decide
    · exact readSequence_append (by decide) _
    · rw [List.length_append, beBytes_length, List.length_replicate]
      omega

end KeeperState

end Roost.Keeper
