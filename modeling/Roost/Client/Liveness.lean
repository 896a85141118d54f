-- SUMMARY: The repair latch and the foreground liveness of one replica.
import Roost.Protocol.TerminalView.Record
import Roost.Protocol.Viewport

/-!
# Repair and liveness

A token names one carrier generation. A refused frame latches one gap under the token it arrived
on; the request for a baseline goes out on that generation only, at most once a heartbeat.

Two deadlines are fired by the sweep. The quiet deadline runs from the last accepted frame, the
proof deadline from the challenge that asked for proof. The challenge itself outlives a cleared
proof, because only a complete frame answers it.
-/

namespace Roost.Client

/-! ## Tokens -/

/-- Which carrier a frame arrived on. -/
inductive TerminalTransport where
  | sync
  | loopback
  | peer
  deriving DecidableEq

def TerminalTransport.wireName : TerminalTransport → String
  | sync => "sync"
  | loopback => "loopback"
  | peer => "peer"

/-- One carrier generation, by value. -/
structure TerminalToken where
  socketGeneration : UInt64
  processEpoch : String
  domainGeneration : UInt64
  transport : TerminalTransport
  /-- `none` on Sync, where no single worker owns the stream. -/
  workerFp : Option String
  deriving DecidableEq

namespace TerminalToken

def sync (socketGeneration : UInt64) (processEpoch : String) (domainGeneration : UInt64) :
    TerminalToken where
  socketGeneration := socketGeneration
  processEpoch := processEpoch
  domainGeneration := domainGeneration
  transport := .sync
  workerFp := none

/-- The key a sent request is recorded under. -/
def key (token : TerminalToken) : String :=
  toString token.socketGeneration ++ "|" ++ token.processEpoch ++ "|" ++
    toString token.domainGeneration ++ "|" ++ token.transport.wireName ++ "|" ++
    token.workerFp.getD ""

def viewAnswerGeneration (token : TerminalToken) : UInt64 :=
  match token.transport with
  | .sync => token.domainGeneration
  | .loopback | .peer => token.socketGeneration

end TerminalToken

/-! ## The latch -/

structure RepairLatch where
  latched : Bool
  latchedAtMs : Nat
  /-- The generation the gap belongs to. -/
  token : Option TerminalToken
  sentKey : Option String
  sentAtMs : Nat
  /-- The first refusal reason. -/
  reason : Option String

namespace RepairLatch

/-- A session with no outstanding gap. -/
def new : RepairLatch where
  latched := false
  latchedAtMs := 0
  token := none
  sentKey := none
  sentAtMs := 0
  reason := none

/-- Record a refusal, and say whether this call latched. A refusal while latched is the
same gap. -/
def latch (held : RepairLatch) (reason : String) (token : TerminalToken) (nowMs : Nat) :
    RepairLatch × Bool :=
  if held.latched then (held, false)
  else
    ({ held with
        latched := true
        latchedAtMs := nowMs
        token := some token
        reason := some reason }, true)

def shouldSend (held : RepairLatch) (current : Option TerminalToken) (nowMs : Nat) : Bool :=
  if !held.latched then false
  else
    match held.token, current with
    | some latched, some current =>
      if latched ≠ current then false
      else if held.sentKey = some current.key then
        decide (nowMs - held.sentAtMs ≥ terminalViewHeartbeatMs)
      else true
    | _, _ => false

def recordSent (held : RepairLatch) (token : TerminalToken) (nowMs : Nat) : RepairLatch :=
  { held with sentKey := some token.key, sentAtMs := nowMs }

/-- Clear the latch: a complete authoritative full was accepted. -/
def clear (_held : RepairLatch) : RepairLatch := .new

/-! ## What a refusal leaves due -/

variable {held : RepairLatch} {reason : String} {token : TerminalToken} {nowMs : Nat}

theorem latch_latched : (held.latch reason token nowMs).1.latched = true := by
  unfold latch
  split
  · assumption
  · rfl

theorem latch_due (howner : held.latched = true → held.token = some token)
    (hsent : held.sentKey = some token.key → held.sentAtMs ≤ nowMs) :
    (held.latch reason token nowMs).1.shouldSend (some token)
      (nowMs + terminalViewHeartbeatMs) = true := by
  have hage : held.sentKey = some token.key →
      terminalViewHeartbeatMs ≤ nowMs + terminalViewHeartbeatMs - held.sentAtMs := by
    intro hkey
    have hearlier := hsent hkey
    omega
  unfold latch
  split
  · rename_i hlatched
    simp [shouldSend, hlatched, howner hlatched]
    exact not_or_of_imp hage
  · simp [shouldSend]
    exact not_or_of_imp hage

end RepairLatch

/-! ## The idle probe -/

/-- The doublings past which the interval is capped anyway. -/
def maxDoublings : Nat := 8

/-- The quiet probe's anchor and its backoff. -/
structure IdleProbe where
  /-- Consecutive challenges answered with no other frame between them. -/
  provedIdleStreak : Nat
  anchorMs : Option Nat

namespace IdleProbe

def new : IdleProbe := { provedIdleStreak := 0, anchorMs := none }

/-- The silence the next probe allows: doubled once per idle proof, capped. -/
def backedOffIntervalMs (probe : IdleProbe) : Nat :=
  min (terminalForegroundIdleProbeMs * 2 ^ min probe.provedIdleStreak maxDoublings)
    terminalForegroundIdleProbeMaxMs

def anchor (probe : IdleProbe) (anchorMs intervalMs : Nat) : IdleProbe × Nat :=
  ({ probe with anchorMs := some anchorMs }, saturatingAdd anchorMs intervalMs)

def noteProved (probe : IdleProbe) : IdleProbe :=
  { probe with provedIdleStreak := min (probe.provedIdleStreak + 1) (2 ^ 32 - 1) }

def noteOutput (probe : IdleProbe) : IdleProbe := { probe with provedIdleStreak := 0 }

end IdleProbe

/-! ## The watchdog of one replica -/

/-- Where one replica's liveness repair ladder stands. -/
inductive RepairOutcome where
  | none
  | requested
  | proved
  | escalated
  | inactive
  | generationReset
  | streamReplaced
  | disposed

/-- What a challenge that is still outstanding named. -/
structure Challenge where
  challengedAtMs : Nat
  generation : TerminalToken
  streamId : String
  /-- Only a frame past this sequence proves the lane. -/
  seq : UInt64

/-- One replica's foreground liveness: what is owed, when, and what answered. -/
structure ForegroundLiveness where
  quietDueMs : Option Nat
  /-- The generation that armed the probe. -/
  owner : Option TerminalToken
  proofDueMs : Option Nat
  /-- The outstanding challenge. Its four fields are set and cleared together. -/
  challenge : Option Challenge
  repairAttempts : Nat
  outcome : RepairOutcome
  /-- This unpublishable-challenge episode has been reported. -/
  rearmReported : Bool
  lastAcceptedAtMs : Option Nat
  idleProbe : IdleProbe

namespace ForegroundLiveness

/-- A replica that has armed nothing. -/
def new : ForegroundLiveness where
  quietDueMs := none
  owner := none
  proofDueMs := none
  challenge := none
  repairAttempts := 0
  outcome := .none
  rearmReported := false
  lastAcceptedAtMs := none
  idleProbe := .new

variable (liveness : ForegroundLiveness)

def quietExpiryDue (nowMs : Nat) : Bool :=
  liveness.quietDueMs.any fun due => decide (nowMs ≥ due)

def proofExpiryDue (nowMs : Nat) : Bool :=
  liveness.proofDueMs.any fun due => decide (nowMs ≥ due)

variable (owner : TerminalToken)

/-- Anchor the quiet probe at the last accepted frame, for the backed-off interval. -/
def armQuiet (anchorMs : Nat) :
    ForegroundLiveness :=
  let (idleProbe, due) := liveness.idleProbe.anchor anchorMs liveness.idleProbe.backedOffIntervalMs
  { liveness with
    owner := some owner
    lastAcceptedAtMs := some anchorMs
    idleProbe
    quietDueMs := some due }

/-- Re-arm the quiet probe from `nowMs`, replacing whatever was armed. -/
def rearmQuiet (nowMs : Nat) :
    ForegroundLiveness :=
  let (idleProbe, due) := liveness.idleProbe.anchor nowMs terminalForegroundIdleProbeMs
  { liveness with owner := some owner, idleProbe, quietDueMs := some due }

/-- Anchor the quiet probe, but only with nothing armed. -/
def armQuietIfUnarmed (nowMs : Nat) :
    ForegroundLiveness :=
  if liveness.quietDueMs.isSome then liveness else liveness.rearmQuiet owner nowMs

/-- Clear the quiet probe. -/
def takeQuiet : ForegroundLiveness :=
  { liveness with
    quietDueMs := none
    idleProbe := { liveness.idleProbe with anchorMs := none } }

/-- A challenge this generation issued is still outstanding. -/
def hasPendingChallenge : Bool :=
  liveness.challenge.any fun challenge => decide (challenge.generation = owner)

def armProof (challengedAtMs : Nat) : ForegroundLiveness :=
  { liveness with
    proofDueMs := some (saturatingAdd challengedAtMs terminalForegroundProbeDeadlineMs) }

def endEpisode : ForegroundLiveness :=
  { liveness with rearmReported := false }

/-- One more attempt, requested. -/
def requested (challenge : Challenge) : ForegroundLiveness :=
  { liveness with
    challenge := some challenge
    repairAttempts := min (liveness.repairAttempts + 1) (2 ^ 32 - 1)
    outcome := .requested }

/-- Record a challenge going out, and arm the proof that owes an answer. -/
def beginChallenge (streamId : String)
    (seq : UInt64) (nowMs : Nat) : ForegroundLiveness :=
  ((liveness.requested ⟨nowMs, owner, streamId, seq⟩).endEpisode).armProof nowMs

/-- Re-anchor an outstanding challenge and its proof. -/
def rearmProof (nowMs : Nat) : ForegroundLiveness :=
  match liveness.challenge with
  | none => liveness
  | some challenge =>
    (liveness.requested { challenge with challengedAtMs := nowMs }).armProof nowMs

/-- Whether a frame would prove the outstanding challenge. -/
def proves (streamId : String)
    (seq : UInt64) : Bool :=
  liveness.hasPendingChallenge owner &&
    liveness.challenge.any fun challenge =>
      decide (challenge.streamId = streamId ∧ seq > challenge.seq)

def chunkArrives (streamId : String)
    (seq : UInt64) : Bool :=
  liveness.hasPendingChallenge owner &&
    liveness.challenge.any fun challenge =>
      decide (challenge.streamId = streamId ∧ seq ≥ challenge.seq)

def clearChallenge : ForegroundLiveness :=
  { liveness with proofDueMs := none, challenge := none }

/-- The frame proved the lane. -/
def noteProved : ForegroundLiveness :=
  { liveness.clearChallenge with
    idleProbe := liveness.idleProbe.noteProved
    outcome := .proved }

/-- A frame that proved nothing arrived. -/
def noteOutput : ForegroundLiveness :=
  { liveness with idleProbe := liveness.idleProbe.noteOutput }

/-- Clear the proof deadline without answering the challenge. -/
def clearProof : ForegroundLiveness :=
  { liveness with proofDueMs := none }

/-- The proof deadline came due and the generation is being replaced. -/
def markEscalated : ForegroundLiveness :=
  { liveness.clearChallenge with outcome := .escalated }

/-- Whether this episode has not been reported yet, recording that it now has been. -/
def claimRearmEpisode : ForegroundLiveness × Bool :=
  if liveness.rearmReported then (liveness, false)
  else ({ liveness with rearmReported := true }, true)

/-- Retire every deadline this replica holds. -/
def retire (_liveness : ForegroundLiveness) (outcome : RepairOutcome) : ForegroundLiveness :=
  { new with outcome }

end ForegroundLiveness

end Roost.Client
