-- SUMMARY: The terminal peer's packets.
import Roost.Protocol.Peer.PacketQueue

/-!
# Terminal peer packets

Magic, message number, total bytes, this fragment's offset, then the payload; the fragment is the
rest of the packet. The assembler reserves before it allocates and holds at most one message in
progress.
-/

namespace Roost.Peer

/-- Why a packet was rejected. -/
inductive TerminalPeerPacketErrorCode
  | closed
  | fragmentStalled
  | messageIdWrap
  | messageId
  | messageSize
  | packetSize
  | packetMagic
  | packetHeader
  | fragmentOrder
  | quota
  | allocation

abbrev TerminalPeerPacketError := TerminalPeerPacketErrorCode

inductive TerminalPeerPacketLane
  | control
  | terminal
  | history
  deriving DecidableEq

/-- The logical message cap of each lane. -/
def TerminalPeerPacketLane.maxBytes : TerminalPeerPacketLane → Nat
  | .control => 128 * 1024
  | .terminal => 2 * 1024 * 1024
  | .history => 64 * 1024 * 1024

def terminalPeerPacketMagic : Nat := 0x31505452

def terminalPeerPacketHeaderBytes : Nat := 16

def terminalPeerPacketMaxBytes : Nat := 16 * 1024

def terminalPeerPacketMaxPayloadBytes : Nat :=
  terminalPeerPacketMaxBytes - terminalPeerPacketHeaderBytes

def terminalPeerPacketStallMs : Nat := 10000

variable (lane : TerminalPeerPacketLane)

def assertTerminalPacketFields (header : PacketHeader) (payloadBytes : Nat) :
    Except TerminalPeerPacketError Unit :=
  assertFields lane.maxBytes terminalPeerPacketMaxPayloadBytes .messageId .messageSize .packetHeader
    header payloadBytes

def encodeTerminalPeerPacket (header : PacketHeader) (payload : List UInt8) :
    Except TerminalPeerPacketError (List UInt8) := do
  assertTerminalPacketFields lane header payload.length
  return encodeFields
    [terminalPeerPacketMagic, header.messageId, header.totalBytes, header.offsetBytes] ++ payload

def parseTerminalPeerPacket (packet : List UInt8) :
    Except TerminalPeerPacketError (PacketHeader × List UInt8) := do
  if ¬ (terminalPeerPacketHeaderBytes + 1 ≤ packet.length ∧
      packet.length ≤ terminalPeerPacketMaxBytes) then .error .packetSize
  else if readU32 packet 0 ≠ terminalPeerPacketMagic then .error .packetMagic
  else
    let header : PacketHeader :=
      { messageId := readU32 packet 4
        totalBytes := readU32 packet 8
        offsetBytes := readU32 packet 12 }
    let payload := packet.drop terminalPeerPacketHeaderBytes
    assertTerminalPacketFields lane header payload.length
    return (header, payload)

theorem parse_encodeTerminalPeerPacket {lane : TerminalPeerPacketLane} {header : PacketHeader}
    {payload packet : List UInt8} (hid : header.messageId ≤ u32Max)
    (h : encodeTerminalPeerPacket lane header payload = .ok packet) :
    parseTerminalPeerPacket lane packet = .ok (header, payload) := by
  simp only [encodeTerminalPeerPacket, Except.bind_eq_ok] at h
  obtain ⟨⟨⟩, hfields, hpacket⟩ := h
  cases hpacket
  have hcap : lane.maxBytes ≤ u32Max := by cases lane <;> decide
  generalize hlisted :
    [terminalPeerPacketMagic, header.messageId, header.totalBytes, header.offsetBytes] = fields
  obtain ⟨hread, hdrop, hlength, hpayload⟩ :=
    encodeFields_header hcap hid hfields [terminalPeerPacketMagic] (by decide) hlisted.symm
  have hfour : fields.length = 4 := hlisted ▸ rfl
  rw [hfour] at hdrop hlength
  have hmagic := hread 0 _ (by rw [← hlisted]; rfl)
  have hmessage := hread 1 _ (by rw [← hlisted]; rfl)
  have htotal := hread 2 _ (by rw [← hlisted]; rfl)
  have hoffset := hread 3 _ (by rw [← hlisted]; rfl)
  have hsize : terminalPeerPacketHeaderBytes + 1 ≤ (encodeFields fields ++ payload).length ∧
      (encodeFields fields ++ payload).length ≤ terminalPeerPacketMaxBytes := by
    rw [hlength]
    unfold terminalPeerPacketMaxPayloadBytes terminalPeerPacketHeaderBytes
      terminalPeerPacketMaxBytes at *
    omega
  rw [parseTerminalPeerPacket, if_neg (not_not_intro hsize), if_neg (not_not_intro hmagic),
    terminalPeerPacketHeaderBytes, hdrop, hmessage, htotal, hoffset]
  dsimp only
  rw [hfields]
  rfl

/-- The lane's queue. -/
def terminalFraming : Framing TerminalPeerPacketError where
  maxBytes := lane.maxBytes
  maxPayloadBytes := terminalPeerPacketMaxPayloadBytes
  closed := .closed
  messageSize := .messageSize
  messageIdWrap := .messageIdWrap
  allocation := .allocation
  encode _ messageId totalBytes offsetBytes payload :=
    encodeTerminalPeerPacket lane
      { messageId, totalBytes := totalBytes % 2 ^ 32, offsetBytes } payload

/-! ## The assembler -/

/-- A message in progress: its whole buffer, filled up to an offset. -/
structure TerminalPartialMessage where
  messageId : Nat
  totalBytes : Nat
  bytes : List UInt8
  nextOffset : Nat
  lastFragmentAtMs : Nat

/-- One ordered channel's reassembly state. -/
structure TerminalPeerPacketAssembler where
  quota : PacketQuota := {}
  partialMessage : Option TerminalPartialMessage := none
  lastCompletedMessageId : Nat := 0
  closed : Bool := false

namespace TerminalPeerPacketAssembler

variable (assembler : TerminalPeerPacketAssembler)

def releasePartial : TerminalPeerPacketAssembler :=
  match assembler.partialMessage with
  | none => assembler
  | some partialMessage =>
    { assembler with
      partialMessage := none
      quota := assembler.quota.release partialMessage.totalBytes }

def close : TerminalPeerPacketAssembler := { assembler with closed := true }.releasePartial

def reset : TerminalPeerPacketAssembler :=
  { assembler.releasePartial with lastCompletedMessageId := 0, closed := false }

/-- Whether the message in progress has waited past the stall window. -/
def stalled (nowMs : Nat) : Bool :=
  assembler.partialMessage.any fun partialMessage =>
    decide (terminalPeerPacketStallMs ≤ nowMs - partialMessage.lastFragmentAtMs)

/-- Release a stalled buffer; the caller retires the peer when this is true. -/
def expire (nowMs : Nat) : Bool × TerminalPeerPacketAssembler :=
  if assembler.stalled nowMs then (true, assembler.close) else (false, assembler)

/-- One fragment, one exact-size copy under a reservation of its own. -/
def copySinglePacket (header : PacketHeader) (payload : List UInt8) (room : Room) :
    Except TerminalPeerPacketError (List UInt8) × TerminalPeerPacketAssembler :=
  if !room.granted then (.error .quota, assembler)
  else
    let assembler :=
      { assembler with
        quota := (assembler.quota.reserve header.totalBytes).release header.totalBytes }
    if !room.allocated then (.error .allocation, assembler)
    else (.ok payload, { assembler with lastCompletedMessageId := header.messageId })

/-- The first fragment of a message. -/
def begin (header : PacketHeader) (payload : List UInt8) (nowMs : Nat) (room : Room) :
    Except TerminalPeerPacketError (Option (List UInt8)) × TerminalPeerPacketAssembler :=
  if assembler.lastCompletedMessageId = u32Max then (.error .messageIdWrap, assembler)
  else if header.messageId ≠ assembler.lastCompletedMessageId + 1 then
    (.error .messageId, assembler)
  else if header.offsetBytes ≠ 0 then (.error .fragmentOrder, assembler)
  else if payload.length = header.totalBytes then
    let (copied, assembler) := assembler.copySinglePacket header payload room
    (copied.map some, assembler)
  else if !room.granted then (.error .quota, assembler)
  else
    let quota := assembler.quota.reserve header.totalBytes
    if !room.allocated then
      (.error .allocation, { assembler with quota := quota.release header.totalBytes })
    else
      (.ok none, { assembler with
          quota
          partialMessage := some {
            messageId := header.messageId
            totalBytes := header.totalBytes
            bytes := payload ++ List.replicate (header.totalBytes - payload.length) 0
            nextOffset := payload.length
            lastFragmentAtMs := nowMs } })

/-- A fragment of the message in progress. -/
def acceptNext (partialMessage : TerminalPartialMessage) (header : PacketHeader)
    (payload : List UInt8) (nowMs : Nat) :
    Except TerminalPeerPacketError (Option (List UInt8)) × TerminalPeerPacketAssembler :=
  if header.messageId ≠ partialMessage.messageId ∨ header.totalBytes ≠ partialMessage.totalBytes ∨
      header.offsetBytes ≠ partialMessage.nextOffset then (.error .fragmentOrder, assembler)
  else
    let stop := partialMessage.nextOffset + payload.length
    let partialMessage :=
      { partialMessage with
        bytes := partialMessage.bytes.take partialMessage.nextOffset ++ payload ++
          partialMessage.bytes.drop stop
        nextOffset := stop
        lastFragmentAtMs := nowMs }
    if stop ≠ partialMessage.totalBytes then
      (.ok none, { assembler with partialMessage := some partialMessage })
    else
      (.ok (some partialMessage.bytes), { assembler with
          partialMessage := none
          lastCompletedMessageId := partialMessage.messageId
          quota := assembler.quota.release partialMessage.totalBytes })

/-- The stall window is checked before the bytes are parsed. -/
def accept (packet : List UInt8) (nowMs : Nat) (room : Room) :
    Except TerminalPeerPacketError (Option (List UInt8)) × TerminalPeerPacketAssembler :=
  if assembler.stalled nowMs then (.error .fragmentStalled, assembler)
  else
    match parseTerminalPeerPacket lane packet with
    | .error error => (.error error, assembler)
    | .ok (header, payload) =>
      match assembler.partialMessage with
      | none => assembler.begin header payload nowMs room
      | some partialMessage => assembler.acceptNext partialMessage header payload nowMs

/-- Take one fragment; the last one of a message gives the whole of it. Any error closes the
assembler. -/
def push (packet : List UInt8) (nowMs : Nat) (room : Room) :
    Except TerminalPeerPacketError (Option (List UInt8)) × TerminalPeerPacketAssembler :=
  if assembler.closed then (.error .closed, assembler)
  else
    match assembler.accept lane packet nowMs room with
    | (.ok message, assembler) => (.ok message, assembler)
    | (.error error, assembler) => (.error error, assembler.close)

end TerminalPeerPacketAssembler

end Roost.Peer
