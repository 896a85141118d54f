-- SUMMARY: The keeper's channels and its frame dispatcher.
import Roost.Base.Index
import Roost.Keeper.ChannelHistory
import Roost.Keeper.InputQueue

/-!
# The keeper

A dispatcher takes one frame and returns the frames it owes for it. Channel 0 is
the control lane; everything else addresses a PTY. What the operating system says
while a frame is handled (whether a child has exited, whether a resize or a spawn
went through) and how JSON payloads read and render come in as parameters: a
`Host` per frame, one `JsonCodec` for all.
-/

namespace Roost.Keeper

open MuxFrame ResizeRequest

/-! ## JSON payloads -/

/-- A capability name. -/
inductive KeeperFeature where
  | orderedHistory
  | acknowledgedInput
  | acknowledgedResize
  | terminalState
  deriving DecidableEq

def KeeperFeature.wireName : KeeperFeature → String
  | orderedHistory => "ordered_history_v1"
  | acknowledgedInput => "acknowledged_input_v1"
  | acknowledgedResize => "acknowledged_resize_v1"
  | terminalState => "terminal_state_v1"

/-- Every feature this build understands. -/
def KeeperFeature.supported : List KeeperFeature :=
  [orderedHistory, acknowledgedInput, acknowledgedResize, terminalState]

def KeeperFeature.fromWireName (name : String) : Option KeeperFeature :=
  supported.find? fun feature => feature.wireName == name

/-- What the client asked for that the keeper also supports, in the client's order. -/
def negotiateFeatures (requested : List String) : List KeeperFeature :=
  requested.foldl
    (fun negotiated name =>
      match KeeperFeature.fromWireName name with
      | none => negotiated
      | some feature =>
        if negotiated.contains feature then negotiated else negotiated ++ [feature])
    []

/-- The process identity a keeper proves at `Hello`. -/
structure KeeperContractV1 where
  protocolVersion : Nat
  supportedFeatures : List String
  requiredFeatures : List String
  implementationDigest : Option String
  bunAbi : String
  platform : String
  arch : String
  buildSha : String

def keeperProtocolVersion : Nat := 3

structure ChannelBinding where
  channelId : UInt16
  pid : UInt32

/-- The part of the client's `Hello` the dispatcher reads. -/
structure KeeperHelloRequest where
  features : List String

structure KeeperHelloResponse where
  version : Nat
  authenticated : Bool
  features : List KeeperFeature
  contract : KeeperContractV1
  pid : UInt32
  processEpoch : Option String
  bindings : List ChannelBinding
  spawningChannels : List UInt16

/-- `Spawn`: open a PTY with this geometry. The command it runs is the host's affair. -/
structure SpawnRequest where
  channelId : UInt16
  cols : UInt16
  rows : UInt16

/-- The JSON values a keeper sends. -/
inductive JsonReply where
  | hello (response : KeeperHelloResponse)
  | listChannels (channels : List ChannelBinding)
  | spawnAck (channelId : UInt16) (pid : UInt32)
  | spawnErr (channelId : UInt16) (error : String)
  | exit (exitCode : Option Int32)

/-- How JSON payloads are read and rendered. -/
structure JsonCodec where
  parseHello : List UInt8 → Option KeeperHelloRequest
  parseSpawn : List UInt8 → Option SpawnRequest
  parseResize : List UInt8 → Option (UInt16 × UInt16)
  render : JsonReply → Except String (List UInt8)

def MuxFrame.json (codec : JsonCodec) (frameType : MuxFrameType) (channelId : UInt16)
    (value : JsonReply) : Except CodecError MuxFrame :=
  match codec.render value with
  | .error reason => .error (.badJson "frame" reason)
  | .ok payload => new frameType channelId payload

/-! ## One PTY -/

/-- Why a PTY could not be opened or resized. -/
inductive SpawnError where
  | badChannelId (channelId : UInt16)
  | badDimension (name : String) (actual max : UInt16)
  | badCwd (path reason : String)
  | pty (reason : String)

def SpawnError.message : SpawnError → String
  | badChannelId channelId =>
    "channel " ++ toString channelId ++ " is the control lane, which is never a PTY"
  | badDimension name actual max =>
    "the " ++ name ++ " of " ++ toString actual ++ " is outside 1..=" ++ toString max
  | badCwd path reason => "the working directory " ++ path ++ " is not usable: " ++ reason
  | pty reason => "the PTY could not be opened: " ++ reason

/-- What the operating system says while one frame is handled. -/
structure Host where
  /-- `try_wait` found an exit status. -/
  childExited : Bool
  /-- The resize of the master end. -/
  resized : Except String Unit
  /-- Opening a PTY and starting its child: the child's process id. -/
  opened : Except SpawnError (Option UInt32)

/-- A live PTY and the state the keeper tracks for it. Its geometry is never zero and
its applied sequence is one that arrived as eight bytes. -/
structure PtyChannel where
  channelId : UInt16
  pid : Option UInt32
  /-- The channel's input FIFO. -/
  input : InputLane
  /-- The last resize sequence the keeper actually applied; zero means none. -/
  appliedSeq : Nat
  cols : UInt16
  rows : UInt16
  cols_ne : cols ≠ 0
  rows_ne : rows ≠ 0
  appliedSeq_lt : appliedSeq < 256 ^ 8

namespace PtyChannel

/-- Open a PTY at this geometry. -/
def spawn (host : Host) (channelId cols rows : UInt16) : Except SpawnError PtyChannel :=
  let max := UInt16.ofNat keeperMaxTerminalDimension
  if channelId = 0 then .error (.badChannelId channelId)
  else if hcols : cols = 0 ∨ cols > max then .error (.badDimension "column count" cols max)
  else if hrows : rows = 0 ∨ rows > max then .error (.badDimension "row count" rows max)
  else
    match host.opened with
    | .error err => .error err
    | .ok pid =>
      .ok
        { channelId
          pid
          input := .start channelId
          appliedSeq := 0
          cols
          rows
          cols_ne := fun h => hcols (.inl h)
          rows_ne := fun h => hrows (.inl h)
          appliedSeq_lt := by decide }

variable (pty : PtyChannel)

/-- Move the PTY to a geometry. -/
def resizeMaster (host : Host) (cols rows : UInt16) :
    Except SpawnError PtyChannel :=
  if h : cols = 0 ∨ rows = 0 then .error (.badDimension "geometry" (max cols rows) 0xffff)
  else
    match host.resized with
    | .error reason => .error (.pty reason)
    | .ok () =>
      .ok
        { pty with
          cols
          rows
          cols_ne := fun hcols => h (.inl hcols)
          rows_ne := fun hrows => h (.inr hrows) }

/-- Apply a sequenced geometry change. A sequence at or below the applied one is
ignored: a retry must not move the terminal backwards. -/
def applyResize (host : Host) (seq : Nat) (hseq : seq < 256 ^ 8)
    (cols rows : UInt16) : Except SpawnError PtyChannel :=
  if seq ≤ pty.appliedSeq then .ok pty
  else
    match pty.resizeMaster host cols rows with
    | .error err => .error err
    | .ok pty => .ok { pty with appliedSeq := seq, appliedSeq_lt := hseq }

/-- The authoritative geometry. -/
def terminalState : TerminalState where
  appliedSeq := pty.appliedSeq
  cols := pty.cols
  rows := pty.rows

/-- Ask whether the child has exited; an exit also closes the input lane to every batch
not yet written. -/
def exited (host : Host) : PtyChannel :=
  if host.childExited then { pty with input := pty.input.markExited } else pty

/-- Queue input behind every earlier batch on this channel. -/
def enqueueInput (host : Host) (bytes : List UInt8) (reply : InputReply) :
    PtyChannel × Except PtyInRejectReason Unit :=
  let pty := pty.exited host
  if host.childExited then (pty, .error .childExited)
  else
    match pty.input.enqueue bytes reply with
    | none => (pty, .error .queueFull)
    | some input => ({ pty with input }, .ok ())

end PtyChannel

/-- One channel: its PTY and its retained history. -/
structure Channel where
  pty : PtyChannel
  history : ChannelHistory

/-! ## The registry -/

/-- Every live channel the keeper owns. -/
structure KeeperState where
  channels : Table UInt16 Channel
  contract : KeeperContractV1
  /-- The connection acknowledged input answers on. -/
  inputRoute : InputRoute
  processEpoch : Option String
  processId : UInt32

namespace KeeperState

def new (contract : KeeperContractV1) (processEpoch : Option String) (processId : UInt32) :
    KeeperState where
  channels := ∅
  contract := contract
  inputRoute := .new
  processEpoch := processEpoch
  processId := processId

variable (keeper : KeeperState)

def isEmpty : Bool := keeper.channels.entries.isEmpty

variable (channelId : UInt16)

def withChannel (channel : Channel) : KeeperState :=
  { keeper with channels := keeper.channels.insert channelId channel }

def dropChannel : KeeperState :=
  { keeper with channels := keeper.channels.erase channelId }

def liveBindings : List ChannelBinding :=
  (keeper.channels.entries.filterMap fun entry =>
    entry.2.pty.pid.map fun pid => { channelId := entry.2.pty.channelId, pid }).mergeSort
      fun a b => decide (a.channelId ≤ b.channelId)

/-- A channel's ordered history; a channel the keeper does not hold answers "nothing
emitted" at the default geometry. -/
def orderedHistory : HistoryRecords :=
  match keeper.channels.lookup channelId with
  | none => .unknownChannel
  | some channel => channel.history.ordered

/-- The legacy view of a channel: the head and the raw retained ring. -/
def legacyHistory : Option (Nat × List UInt8) :=
  (keeper.channels.lookup channelId).map fun channel =>
    (channel.history.headSeq, channel.history.ring)

def stateOf : TerminalState :=
  match keeper.channels.lookup channelId with
  | some channel => channel.pty.terminalState
  | none => { appliedSeq := 0, cols := 80, rows := 24 }

/-! ## The handlers -/

/-- What a handler leaves behind: the keeper, and the frames it owes or the fault that
stopped it. -/
abbrev Handled := KeeperState × Except CodecError (List MuxFrame)

def one (frame : Except CodecError MuxFrame) : Except CodecError (List MuxFrame) :=
  frame.map fun frame => [frame]

def helloResponse (request : KeeperHelloRequest) : KeeperHelloResponse where
  version := keeperProtocolVersion
  authenticated := true
  features := negotiateFeatures request.features
  contract := keeper.contract
  pid := keeper.processId
  processEpoch := keeper.processEpoch
  bindings := keeper.liveBindings
  spawningChannels := []

def answerHello (codec : JsonCodec) (frame : MuxFrame) :
    Except CodecError (List MuxFrame) :=
  match codec.parseHello frame.payload with
  | none => .error (.badJson "Hello" "unreadable")
  | some request =>
    one (json codec .helloResp 0 (.hello (keeper.helloResponse request)))

def listChannels (codec : JsonCodec) : Except CodecError (List MuxFrame) :=
  one (json codec .listChannelsResp 0 (.listChannels keeper.liveBindings))

/-- Answer a conditional shutdown: the check and the answer are one operation. -/
def shutdownIfEmpty : Except CodecError (List MuxFrame) :=
  let tag : MuxFrameType :=
    if keeper.isEmpty then .shutdownIfEmptyAck else .shutdownIfEmptyReject
  one (MuxFrame.new tag 0 [])

/-- Open a channel. A respawn on a live channel replaces it. -/
def spawn (codec : JsonCodec) (host : Host) (frame : MuxFrame) : Handled :=
  match codec.parseSpawn frame.payload with
  | none => (keeper, .error (.badJson "Spawn" "unreadable"))
  | some request =>
    let keeper := keeper.dropChannel request.channelId
    match PtyChannel.spawn host request.channelId request.cols request.rows with
    | .ok pty =>
      let channel := { pty, history := .new request.cols request.rows }
      (keeper.withChannel request.channelId channel, one (json codec .spawnAck request.channelId
          (.spawnAck request.channelId (pty.pid.getD 0))))
    | .error err =>
      (keeper, one (json codec .spawnErr request.channelId
          (.spawnErr request.channelId err.message)))

/-- Legacy input shares the acknowledged FIFO and is owed no answer. -/
def legacyInput (host : Host) (frame : MuxFrame) : Handled :=
  if frame.payload.isEmpty ∨ frame.payload.length > keeperMaxInputBytes then (keeper, .ok [])
  else
    match keeper.channels.lookup frame.channelId with
    | none => (keeper, .ok [])
    | some channel =>
      let (pty, _) := channel.pty.enqueueInput host frame.payload .unacknowledged
      (keeper.withChannel frame.channelId { channel with pty }, .ok [])

/-- Queue sequenced input. The lane answers once the batch is written; only a refusal
decided before anything was queued is answered here. -/
def sequencedInput (host : Host) (frame : MuxFrame) : Handled :=
  match PtyInRequest.decode frame.payload "PtyInRequest" with
  | .error err => (keeper, .error err)
  | .ok request =>
    let refuse (reason : PtyInRejectReason) :=
      one (resultFrame .ptyInReject frame.channelId (.reject request.inputSeq reason))
    match keeper.channels.lookup frame.channelId with
    | none => (keeper, refuse .noSuchChannel)
    | some channel =>
      let reply := .acknowledged request.inputSeq keeper.inputRoute.current
      let (pty, queued) := channel.pty.enqueueInput host request.bytes reply
      let keeper := keeper.withChannel frame.channelId { channel with pty }
      match queued with
      | .ok () => (keeper, .ok [])
      | .error reason => (keeper, refuse reason)

/-- The unsequenced resize: the PTY moves, the applied sequence does not, and the
marker is recorded under sequence zero. -/
def legacyResize (codec : JsonCodec) (host : Host) (frame : MuxFrame) :
    Handled :=
  match codec.parseResize frame.payload with
  | none => (keeper, .error (.badJson "Resize" "unreadable"))
  | some (cols, rows) =>
    match keeper.channels.lookup frame.channelId with
    | none => (keeper, .ok [])
    | some channel =>
      match channel.pty.resizeMaster host cols rows with
      | .error _ => (keeper, .ok [])
      | .ok pty =>
        let history := channel.history.recordResize 0 cols rows
        (keeper.withChannel frame.channelId { pty, history }, .ok [])

/-- Only a newly applied sequence moved the PTY, so only it is a point in the stream a
replay must reflow at. -/
def resizedHistory (channel : Channel) (seq : Nat) (pty : PtyChannel) : ChannelHistory :=
  let state := pty.terminalState
  if seq > channel.pty.appliedSeq ∧ state.appliedSeq = seq then
    channel.history.recordResize seq state.cols state.rows
  else channel.history

/-- A readable sequenced resize, on whatever channel it names. -/
def resizeChannel (host : Host) (channelId : UInt16)
    (request : ResizeRequest) (hseq : request.seq < 256 ^ 8) : Handled :=
  match keeper.channels.lookup channelId with
  | none => (keeper, one (resizeReject channelId request.seq 1))
  | some channel =>
    match channel.pty.applyResize host request.seq hseq request.cols request.rows with
    | .ok pty =>
      let history := resizedHistory channel request.seq pty
      (keeper.withChannel channelId { pty, history },
        one (pty.terminalState.encode >>= MuxFrame.new .resizeAck channelId))
    | .error _ => (keeper, one (resizeReject channelId request.seq 1))

def sequencedResize (host : Host) (frame : MuxFrame) : Handled :=
  match _h : decode frame.payload "ResizeRequest" with
  | .error err => (keeper, .error err)
  | .ok request => keeper.resizeChannel host frame.channelId request (seq_lt _h)

variable (frame : MuxFrame)

def resizeStatus : Except CodecError (List MuxFrame) :=
  one ((keeper.stateOf frame.channelId).ack.encode >>= MuxFrame.new .resizeAck frame.channelId)

/-- Answered from live channel state, which cannot itself have been evicted. -/
def terminalState : Except CodecError (List MuxFrame) :=
  one ((keeper.stateOf frame.channelId).encode >>=
    MuxFrame.new .getTerminalStateResp frame.channelId)

/-- The ordered history, or the empty default for a channel this keeper does not hold. -/
def historyRecords : Except CodecError (List MuxFrame) :=
  one ((keeper.orderedHistory frame.channelId).encode >>=
    MuxFrame.new .getHistoryRecordsResp frame.channelId)

/-- `[head:u64][ring]`, head 0 and no bytes for a channel this keeper does not hold. -/
def legacyHistoryResp :
    Except CodecError (List MuxFrame) :=
  let (headSeq, ring) := (keeper.legacyHistory frame.channelId).getD (0, [])
  one (MuxFrame.new .getHistoryResp frame.channelId (beBytes 8 headSeq ++ ring))

def killChild (host : Host) (frame : MuxFrame) : KeeperState :=
  match keeper.channels.lookup frame.channelId with
  | none => keeper
  | some channel =>
    keeper.withChannel frame.channelId { channel with pty := channel.pty.exited host }

/-! ## Dispatch -/

/-- Route a frame by tag and lane. A tag the keeper does not serve, or one on the wrong
lane, is ignored. -/
def dispatch (codec : JsonCodec) (host : Host) (frame : MuxFrame) :
    Handled :=
  let controlOnly := frame.channelId = 0
  let perChannel := frame.channelId ≠ 0
  let ignored : Handled := (keeper, .ok [])
  match frame.frameType with
  | .ping => (keeper, one (MuxFrame.new .pong 0 []))
  | .pong => ignored
  | .hello => if controlOnly then (keeper, keeper.answerHello codec frame) else ignored
  | .listChannels => if controlOnly then (keeper, keeper.listChannels codec) else ignored
  | .shutdown =>
    if controlOnly then (keeper, one (MuxFrame.new .shutdownAck 0 [])) else ignored
  | .shutdownIfEmpty => if controlOnly then (keeper, keeper.shutdownIfEmpty) else ignored
  | .spawn => if perChannel then keeper.spawn codec host frame else ignored
  | .ptyIn => if perChannel then keeper.legacyInput host frame else ignored
  | .ptyInRequest => if perChannel then keeper.sequencedInput host frame else ignored
  | .resize => if perChannel then keeper.legacyResize codec host frame else ignored
  | .resizeRequest => if perChannel then keeper.sequencedResize host frame else ignored
  | .resizeStatus => if perChannel then (keeper, keeper.resizeStatus frame) else ignored
  | .getTerminalState => if perChannel then (keeper, keeper.terminalState frame) else ignored
  | .getHistoryRecords => if perChannel then (keeper, keeper.historyRecords frame) else ignored
  | .getHistory => if perChannel then (keeper, keeper.legacyHistoryResp frame) else ignored
  | .killChild => if perChannel then (keeper.killChild host frame, .ok []) else ignored
  | _ => ignored

/-- The answer to a payload that did not parse. -/
def reject : List MuxFrame :=
  match frame.frameType with
  | .ptyInRequest =>
    match resultFrame .ptyInReject frame.channelId (.reject 0 .noSuchChannel) with
    | .ok rejection => [rejection]
    | .error _ => []
  | _ => []

def owed : Handled → KeeperState × List MuxFrame
  | (keeper, .ok frames) => (keeper, frames)
  | (keeper, .error _) => (keeper, reject frame)

def handle (codec : JsonCodec) (host : Host) (frame : MuxFrame) :
    KeeperState × List MuxFrame :=
  owed frame (keeper.dispatch codec host frame)

/-! ## Between frames -/

/-- Drain the channels that have output ready, in the order the registry walks them.
Each chunk is recorded before it is framed. -/
def drainOutput (keeper : KeeperState) : List (UInt16 × List UInt8) → Handled
  | [] => (keeper, .ok [])
  | (channelId, bytes) :: ready =>
    match keeper.channels.lookup channelId with
    | none => keeper.drainOutput ready
    | some channel =>
      let history := channel.history.recordOutput bytes
      let keeper := keeper.withChannel channelId { channel with history }
      match MuxFrame.new .ptyOut channelId bytes with
      | .error err => (keeper, .error err)
      | .ok frame =>
        let (keeper, frames) := keeper.drainOutput ready
        (keeper, frames.map (frame :: ·))

/-- Report and drop the channels whose child has exited and whose output is drained. -/
def reapExited (keeper : KeeperState) (codec : JsonCodec) : List (UInt16 × Option Int32) → Handled
  | [] => (keeper, .ok [])
  | (channelId, exitCode) :: finished =>
    let keeper := keeper.dropChannel channelId
    match json codec .exit channelId (.exit exitCode) with
    | .error err => (keeper, .error err)
    | .ok frame =>
      let (keeper, exits) := keeper.reapExited codec finished
      (keeper, exits.map (frame :: ·))

theorem sequencedResize_ok {keeper : KeeperState} {host : Host} {frame : MuxFrame}
    {request : ResizeRequest} (h : decode frame.payload "ResizeRequest" = .ok request) :
    keeper.sequencedResize host frame =
      keeper.resizeChannel host frame.channelId request (seq_lt h) := by
  unfold sequencedResize
  split
  · rename_i herr
    rw [h] at herr
    cases herr
  rename_i hreq
  rw [h] at hreq
  cases hreq
  rfl

theorem sequencedResize_error {keeper : KeeperState} {host : Host} {frame : MuxFrame}
    {err : CodecError} (h : decode frame.payload "ResizeRequest" = .error err) :
    keeper.sequencedResize host frame = (keeper, .error err) := by
  unfold sequencedResize
  split
  · rename_i herr
    rw [h] at herr
    cases herr
    rfl
  · rename_i hreq
    rw [h] at hreq
    cases hreq

/-! ## A keeper with one shell -/

/-- The bytes of an ASCII text. -/
def text (characters : String) : List UInt8 :=
  characters.toList.map fun character => UInt8.ofNat character.toNat

/-- A request for a shell on channel 1. -/
def shellSpawn : MuxFrame where
  frameType := .spawn
  channelId := 1
  payload := text
    "\x7b\"channel_id\":1,\"cols\":80,\"rows\":24,\"shell_spec\":\x7b\"program\":\"/bin/sh\"\x7d\x7d"

/-- The codec at the payloads of this keeper. -/
def shellCodec : JsonCodec where
  parseHello _ := none
  parseSpawn payload :=
    if payload = shellSpawn.payload then some { channelId := 1, cols := 80, rows := 24 } else none
  parseResize _ := none
  render
    | .spawnAck channelId pid =>
      .ok (text ("\x7b\"channel_id\":" ++ toString channelId ++ ",\"pid\":" ++ toString pid ++
        "\x7d"))
    | _ => .ok (text "null")

/-- A host on which everything works. -/
def calmHost : Host where
  childExited := false
  resized := .ok ()
  opened := .ok (some 4242)

def shellContract : KeeperContractV1 where
  protocolVersion := keeperProtocolVersion
  supportedFeatures := []
  requiredFeatures := []
  implementationDigest := none
  bunAbi := "rust"
  platform := "linux"
  arch := "x86_64"
  buildSha := "dev"

def shellKeeper : KeeperState :=
  ((KeeperState.new shellContract none 1).handle shellCodec calmHost shellSpawn).1

end KeeperState

end Roost.Keeper
