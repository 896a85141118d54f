-- SUMMARY: The attachment transfer's packets.
import Roost.Protocol.Peer.PacketQueue

/-!
# Attachment transfer packets

Magic, version, message number, total bytes, offset, then the payload. The framing shares no state
with the terminal peer's; its assembler grows one buffer and accounts for one direction.
-/

namespace Roost.Peer

/-- Why a packet, fragment or queue operation was refused. -/
inductive AttachmentTransferPacketError
  | packetSize
  | packetMagic
  | packetVersion
  | packetHeader
  | messageId
  | messageIdWrap
  | messageSize
  | fragmentOrder
  | fragmentStalled
  | quota
  | allocation
  | closed

namespace Attachment

def packetMagic : Nat := 0x31505441

def packetVersion : Nat := 1

def packetHeaderBytes : Nat := 20

def packetMaxBytes : Nat := 16384

def packetMaxPayloadBytes : Nat := packetMaxBytes - packetHeaderBytes

def packetLogicalFrameMaxBytes : Nat := 1024 * 1024

def packetStallMs : Nat := 10000

def assertPacketFields (header : PacketHeader) (payloadBytes : Nat) :
    Except AttachmentTransferPacketError Unit :=
  assertFields packetLogicalFrameMaxBytes packetMaxPayloadBytes .messageId .messageSize
    .packetHeader header payloadBytes

end Attachment

open Attachment

def encodeAttachmentTransferPacket (allocated : Bool) (header : PacketHeader)
    (payload : List UInt8) : Except AttachmentTransferPacketError (List UInt8) := do
  assertPacketFields header payload.length
  if !allocated then .error .allocation
  else .ok (encodeFields
    [packetMagic, packetVersion, header.messageId, header.totalBytes, header.offsetBytes] ++ payload)

def parseAttachmentTransferPacket (packet : List UInt8) :
    Except AttachmentTransferPacketError (PacketHeader × List UInt8) := do
  if packet.length ≤ packetHeaderBytes ∨ packetMaxBytes < packet.length then .error .packetSize
  else if readU32 packet 0 ≠ packetMagic then .error .packetMagic
  else if readU32 packet 4 ≠ packetVersion then .error .packetVersion
  else
    let header : PacketHeader :=
      { messageId := readU32 packet 8
        totalBytes := readU32 packet 12
        offsetBytes := readU32 packet 16 }
    let payload := packet.drop packetHeaderBytes
    assertPacketFields header payload.length
    return (header, payload)

theorem parse_encodeAttachmentTransferPacket {allocated : Bool} {header : PacketHeader}
    {payload packet : List UInt8} (hid : header.messageId ≤ u32Max)
    (h : encodeAttachmentTransferPacket allocated header payload = .ok packet) :
    parseAttachmentTransferPacket packet = .ok (header, payload) := by
  simp only [encodeAttachmentTransferPacket, Except.bind_eq_ok, Except.ite_error_eq_ok] at h
  obtain ⟨⟨⟩, hfields, -, hpacket⟩ := h
  cases hpacket
  have hvalid := hfields
  rw [assertPacketFields] at hvalid
  have hcap : packetLogicalFrameMaxBytes ≤ u32Max := by decide
  generalize hlisted : [packetMagic, packetVersion, header.messageId, header.totalBytes,
    header.offsetBytes] = fields
  obtain ⟨hread, hdrop, hlength, hpayload⟩ :=
    encodeFields_header hcap hid hvalid [packetMagic, packetVersion] (by decide) hlisted.symm
  have hfive : fields.length = 5 := hlisted ▸ rfl
  rw [hfive] at hdrop hlength
  have hmagic := hread 0 _ (by rw [← hlisted]; rfl)
  have hversion := hread 1 _ (by rw [← hlisted]; rfl)
  have hmessage := hread 2 _ (by rw [← hlisted]; rfl)
  have htotal := hread 3 _ (by rw [← hlisted]; rfl)
  have hoffset := hread 4 _ (by rw [← hlisted]; rfl)
  have hsize : ¬ ((encodeFields fields ++ payload).length ≤ packetHeaderBytes ∨
      packetMaxBytes < (encodeFields fields ++ payload).length) := by
    rw [hlength]
    unfold packetMaxPayloadBytes packetHeaderBytes packetMaxBytes at *
    omega
  rw [parseAttachmentTransferPacket, if_neg hsize, if_neg (not_not_intro hmagic),
    if_neg (not_not_intro hversion), packetHeaderBytes, hdrop, hmessage, htotal, hoffset]
  dsimp only
  rw [hfields]
  rfl

/-- The channel's queue; the length and the offset are checked to fit their fields. -/
def attachmentFraming : Framing AttachmentTransferPacketError where
  maxBytes := packetLogicalFrameMaxBytes
  maxPayloadBytes := packetMaxPayloadBytes
  closed := .closed
  messageSize := .messageSize
  messageIdWrap := .messageIdWrap
  allocation := .allocation
  encode allocated messageId totalBytes offsetBytes payload :=
    if u32Max < totalBytes then .error .messageSize
    else if u32Max < offsetBytes then .error .packetHeader
    else encodeAttachmentTransferPacket allocated { messageId, totalBytes, offsetBytes } payload

/-! ## The assembler -/

/-- A message in progress: the bytes that have arrived. -/
structure AttachmentPartialMessage where
  messageId : Nat
  totalBytes : Nat
  bytes : List UInt8
  lastFragmentAtMs : Nat

/-- One ordered attachment channel's reassembly state, with the quota of its direction. -/
structure AttachmentTransferPacketAssembler where
  quota : PacketQuota := {}
  partialMessage : Option AttachmentPartialMessage := none
  lastCompletedMessageId : Nat := 0
  closed : Bool := false

namespace AttachmentTransferPacketAssembler

variable (assembler : AttachmentTransferPacketAssembler)

def releasePartial : AttachmentTransferPacketAssembler :=
  match assembler.partialMessage with
  | none => assembler
  | some partialMessage =>
    { assembler with
      partialMessage := none
      quota := assembler.quota.release partialMessage.totalBytes }

def closeInternal : AttachmentTransferPacketAssembler :=
  { assembler with closed := true }.releasePartial

def reset : AttachmentTransferPacketAssembler :=
  { assembler.releasePartial with lastCompletedMessageId := 0, closed := false }

/-- Whether the message in progress has waited past the stall window. -/
def stalled (nowMs : Nat) : Bool :=
  assembler.partialMessage.any fun partialMessage =>
    decide (packetStallMs ≤ nowMs - partialMessage.lastFragmentAtMs)

/-- Release a stalled buffer so the caller can retire the peer. -/
def expire (nowMs : Nat) : Bool × AttachmentTransferPacketAssembler :=
  if assembler.stalled nowMs then (true, assembler.closeInternal) else (false, assembler)

/-- The first fragment of a message; a message of one packet never holds the quota past the
call. -/
def begin (header : PacketHeader) (payload : List UInt8) (nowMs : Nat) (room : Room) :
    Except AttachmentTransferPacketError (Option (List UInt8)) ×
      AttachmentTransferPacketAssembler :=
  if assembler.lastCompletedMessageId = u32Max then (.error .messageIdWrap, assembler)
  else if header.messageId ≠ assembler.lastCompletedMessageId + 1 ∨ header.offsetBytes ≠ 0 then
    (.error .messageId, assembler)
  else if !room.granted then (.error .quota, assembler)
  else
    let quota := assembler.quota.reserve header.totalBytes
    if payload.length = header.totalBytes then
      (.ok (some payload), { assembler with
          quota := quota.release header.totalBytes
          lastCompletedMessageId := header.messageId })
    else if !room.allocated then
      (.error .allocation, { assembler with quota := quota.release header.totalBytes })
    else
      (.ok none, { assembler with
          quota
          partialMessage := some {
            messageId := header.messageId
            totalBytes := header.totalBytes
            bytes := payload
            lastFragmentAtMs := nowMs } })

def accept (header : PacketHeader) (payload : List UInt8) (nowMs : Nat) (room : Room) :
    Except AttachmentTransferPacketError (Option (List UInt8)) ×
      AttachmentTransferPacketAssembler :=
  match assembler.partialMessage with
  | none => assembler.begin header payload nowMs room
  | some partialMessage =>
    if header.messageId ≠ partialMessage.messageId ∨ header.totalBytes ≠ partialMessage.totalBytes ∨
        header.offsetBytes ≠ partialMessage.bytes.length then (.error .fragmentOrder, assembler)
    else
      let partialMessage :=
        { partialMessage with
          bytes := partialMessage.bytes ++ payload, lastFragmentAtMs := nowMs }
      if partialMessage.bytes.length ≠ partialMessage.totalBytes then
        (.ok none, { assembler with partialMessage := some partialMessage })
      else
        (.ok (some partialMessage.bytes), { assembler with
            partialMessage := none
            lastCompletedMessageId := partialMessage.messageId
            quota := assembler.quota.release partialMessage.totalBytes })

/-- Take one fragment; the last one of a message gives the whole of it. Any refusal closes the
assembler. -/
def push (packet : List UInt8) (nowMs : Nat) (room : Room) :
    Except AttachmentTransferPacketError (Option (List UInt8)) ×
      AttachmentTransferPacketAssembler :=
  if assembler.closed then (.error .closed, assembler)
  else if assembler.stalled nowMs then (.error .fragmentStalled, assembler.closeInternal)
  else
    match parseAttachmentTransferPacket packet with
    | .error error => (.error error, assembler.closeInternal)
    | .ok (header, payload) =>
      match assembler.accept header payload nowMs room with
      | (.ok message, assembler) => (.ok message, assembler)
      | (.error error, assembler) => (.error error, assembler.closeInternal)

end AttachmentTransferPacketAssembler

end Roost.Peer
