-- SUMMARY: The worker's durable outbox.
import Roost.Base.MapTotals
import Roost.Base.Transducer

/-!
# The durable outbox

Session events wait in a file until the coordinator acknowledges them by their exact sequence.
Sequences are handed out from a block that was persisted before its first value; a claim keeps the
room an event will need. Appends and snapshot draws hold the sequence window from their draw to
their commit, so they run one at a time; a claim is taken in four statements that others interleave
with. Every statement and every transaction is atomic, and a call can end after any of its commits.
-/

namespace Roost.Worker

/-- How many rows the store holds. -/
def maxRows : Nat := 8192

/-- How many payload bytes the store holds across every row. -/
def maxPayloadBytes : Nat := 8 * 1024 * 1024

def sequenceBlockSize : Nat := 1024

/-- The highest sequence an INTEGER column can carry. -/
def maxSequence : Nat := 2 ^ 63 - 1

/-- How long a claim is held before it is assumed abandoned, in milliseconds. -/
def reservationLease : Int := 60000

inductive DurableEventKind where
  | opened
  | state
  | exited
  | closed
  deriving DecidableEq

/-- The serialized bound for a kind. -/
def DurableEventKind.payloadLimit : DurableEventKind → Nat
  | .opened => 256 * 1024
  | .state => 1024 * 1024
  | .exited => 64 * 1024
  | .closed => 64 * 1024

/-- A session event as it is stored: its discriminant, the session it is about, and its text. -/
structure JournalEvent where
  kind : String
  sessionId : String
  eventJson : String
  deriving DecidableEq

def JournalEvent.payloadBytes (event : JournalEvent) : Nat := event.eventJson.utf8ByteSize

/-- A row of `session_events`, beside its sequence. -/
structure StoredEvent where
  event : JournalEvent
  payloadBytes : Nat
  deriving DecidableEq

/-- A row of `session_claims`, beside its id. -/
structure StoredClaim where
  kind : DurableEventKind
  payloadBytes : Nat
  claimedAtMs : Int
  snapshotBlocking : Bool

/-- What survives a crash. -/
structure OutboxFile where
  events : OrderedMap Nat StoredEvent
  claims : OrderedMap Nat StoredClaim
  reservedThrough : Nat

/-- A row as the caller of an append and the replay see it. -/
structure PendingRow where
  clientSeq : Nat
  event : JournalEvent
  payloadBytes : Nat
  deriving DecidableEq

/-- The token that owns a claim. -/
structure Reservation where
  id : Nat
  kind : DurableEventKind
  payloadBytes : Nat
  snapshotBlocking : Bool
  deriving DecidableEq

/-- Why a reservation was refused. -/
inductive ReserveError where
  | full (rows bytes maxRows maxBytes : Nat)
  | payloadTooLarge (kind : DurableEventKind) (payload limit : Nat)
  | payloadNotPositive (payload : Nat)
  | reservationNotLive (id : Nat)
  | alreadyHeld (id : Nat)
  deriving DecidableEq

/-- Why the outbox refused. -/
inductive JournalError where
  | full (rows bytes maxRows maxBytes : Nat)
  | query (label reason : String)
  | corrupt (reason : String)
  deriving DecidableEq

def claimGone : JournalError := .corrupt "the claim was not there to retire under its own event"

structure SequenceWindow where
  issued : Nat
  reservedThrough : Nat

/-- How far a call that holds the window got before a statement failed or the process died. -/
inductive Interruption where
  /-- The block was not persisted. -/
  | reserving
  /-- The block was persisted, and the window was not moved. -/
  | reserved
  /-- The number was issued, and the transaction rolled back. -/
  | numbered
  /-- The row was committed, and the caller did not hear of it. -/
  | committed
  deriving DecidableEq

/-! ## Sequences -/

/-- Persist the next block before any of it is handed out. -/
def reserveBlock (file : OutboxFile) (window : SequenceWindow) (fault : Option Interruption) :
    OutboxFile × SequenceWindow × Except JournalError Unit :=
  let floor := max window.issued file.reservedThrough
  if floor + sequenceBlockSize ≤ maxSequence then
    let reserved := { file with reservedThrough := floor + sequenceBlockSize }
    if fault = some .reserving then (file, window, .error (.query "sequence reservation" ""))
    else if fault = some .reserved then (reserved, window, .error (.query "commit" ""))
    else (reserved, ⟨floor, floor + sequenceBlockSize⟩, .ok ())
  else (file, window, .error (.corrupt "the client sequence space is exhausted"))

/-- One sequence, under a window lock the caller already holds. -/
def claimSequenceIn (file : OutboxFile) (window : SequenceWindow) (fault : Option Interruption) :
    OutboxFile × SequenceWindow × Except JournalError Nat :=
  let issue (file : OutboxFile) (window : SequenceWindow) :
      OutboxFile × SequenceWindow × Except JournalError Nat :=
    (file, { window with issued := window.issued + 1 }, .ok (window.issued + 1))
  if window.issued ≥ window.reservedThrough then
    match reserveBlock file window fault with
    | (file, window, .ok ()) => issue file window
    | (file, window, .error error) => (file, window, .error error)
  else issue file window

/-- The snapshot's sequence, drawn only while no row is numbered above what was offered. -/
def snapshotSequence (file : OutboxFile) (window : SequenceWindow) (offeredThrough : Nat)
    (fault : Option Interruption) :
    OutboxFile × SequenceWindow × Except JournalError (Option Nat) :=
  if file.events.keys.any fun seq => offeredThrough < seq then (file, window, .ok none)
  else
    match claimSequenceIn file window fault with
    | (file, window, .ok seq) => (file, window, .ok (some seq))
    | (file, window, .error error) => (file, window, .error error)

/-! ## Rows -/

namespace OutboxFile

variable (file : OutboxFile)

def empty : OutboxFile := ⟨.empty, .empty, 0⟩

def heldBytes : Nat := file.events.total (·.payloadBytes)

def claimedBytes : Nat := file.claims.total (·.payloadBytes)

/-- Every row still waiting, oldest first. -/
def pending : List PendingRow :=
  file.events.entries.map fun row => ⟨row.1, row.2.event, row.2.payloadBytes⟩

/-- Remove exactly this sequence. -/
def acknowledge (clientSeq : Nat) : OutboxFile × Bool :=
  if clientSeq = 0 ∨ maxSequence < clientSeq then (file, false)
  else
    ({ file with events := file.events.erase clientSeq }, (file.events.lookup clientSeq).isSome)

end OutboxFile

def claimId (claim : Reservation) : Except ReserveError Nat :=
  if claim.id ≤ maxSequence then .ok claim.id else .error (.reservationNotLive claim.id)

/-- Retire a claim inside the transaction that writes its row. -/
def retireClaim (file : OutboxFile) (claim : Reservation) : Except JournalError OutboxFile :=
  match claimId claim with
  | .error _ =>
    .error (.query "emit"
      s!"reservation {claim.id} is not live: it was already consumed or released")
  | .ok id =>
    if (file.claims.lookup id).isSome then .ok { file with claims := file.claims.erase id }
    else .error claimGone

/-- The caps, read against the rows the write is about to join, and the insert. -/
def addRow (file : OutboxFile) (clientSeq : Nat) (event : JournalEvent) :
    Except JournalError (OutboxFile × PendingRow) :=
  if maxRows ≤ file.events.length ∨ maxPayloadBytes < file.heldBytes + event.payloadBytes then
    .error (.full file.events.length file.heldBytes maxRows maxPayloadBytes)
  else if (file.events.lookup clientSeq).isSome then
    .error (.query "append" "UNIQUE constraint failed: session_events.client_seq")
  else
    .ok ({ file with events := file.events.insert clientSeq ⟨event, event.payloadBytes⟩ },
      ⟨clientSeq, event, event.payloadBytes⟩)

/-- The transaction of an append: the claim retired, the caps read, the row inserted. -/
def insertRow (file : OutboxFile) (clientSeq : Nat) (event : JournalEvent) :
    Option Reservation → Except JournalError (OutboxFile × PendingRow)
  | none => addRow file clientSeq event
  | some claim =>
    match retireClaim file claim with
    | .ok file => addRow file clientSeq event
    | .error error => .error error

theorem claimId_ok {claim : Reservation} {id : Nat} (h : claimId claim = .ok id) :
    id = claim.id := by
  unfold claimId at h
  split at h
  · cases h
    rfl
  · cases h

theorem retireClaim_ok {file file' : OutboxFile} {claim : Reservation}
    (h : retireClaim file claim = .ok file') :
    (∃ stored, file.claims.lookup claim.id = some stored) ∧
      file' = { file with claims := file.claims.erase claim.id } := by
  unfold retireClaim at h
  split at h
  · cases h
  rename_i hid
  obtain rfl := claimId_ok hid
  split at h
  · rename_i hsome
    cases h
    exact ⟨Option.isSome_iff_exists.mp hsome, rfl⟩
  · cases h

theorem addRow_ok {file file' : OutboxFile} {clientSeq : Nat} {event : JournalEvent}
    {row : PendingRow} (h : addRow file clientSeq event = .ok (file', row)) :
    (file.events.length < maxRows ∧ file.heldBytes + event.payloadBytes ≤ maxPayloadBytes) ∧
      file' = { file with
        events := file.events.insert clientSeq ⟨event, event.payloadBytes⟩ } ∧
      row = ⟨clientSeq, event, event.payloadBytes⟩ := by
  unfold addRow at h
  split_ifs at h with hfull
  cases h
  exact ⟨by omega, rfl, rfl⟩

/-- The shared body of `emit` and `append`. -/
def appendWithin (file : OutboxFile) (window : SequenceWindow) (event : JournalEvent)
    (claim : Option Reservation) (fault : Option Interruption) :
    OutboxFile × SequenceWindow × Except JournalError PendingRow :=
  if event.kind = "" then
    (file, window, .error (.corrupt "a session event carries no wire discriminant"))
  else
    match claimSequenceIn file window fault with
    | (file, window, .error error) => (file, window, .error error)
    | (file, window, .ok clientSeq) =>
      if fault = some .numbered then (file, window, .error (.query "append" ""))
      else
        match insertRow file clientSeq event claim with
        | .error error => (file, window, .error error)
        | .ok (committed, row) =>
          if fault = some .committed then (committed, window, .error (.query "commit" ""))
          else (committed, window, .ok row)

/-! ## Claims -/

/-- The instant before which a claim is dead. -/
def leaseCutoff (now : Int) : Int := max (now - reservationLease) (-2 ^ 63)

namespace OutboxFile

variable (file : OutboxFile)

/-- The claims inside their lease. -/
def liveClaims (now : Int) : List StoredClaim :=
  file.claims.values.filter fun claim => decide (leaseCutoff now ≤ claim.claimedAtMs)

/-- Claims still live, and how many of them still block a snapshot. -/
def claimCounts (now : Int) : Nat × Nat :=
  ((file.liveClaims now).length, ((file.liveClaims now).filter (·.snapshotBlocking)).length)

/-- Reclaim every claim past the lease. -/
def reclaimExpired (now : Int) : OutboxFile :=
  { file with claims :=
      file.claims.retain fun _ claim => decide (leaseCutoff now ≤ claim.claimedAtMs) }

def discardRetiredEvents : OutboxFile :=
  { file with events := file.events.retain fun _ row => decide (row.event.kind ≠ "agent_reference") }

def maxKey {α : Type} (table : OrderedMap Nat α) : Nat := table.keys.getLast?.getD 0

def insertClaim (kind : DurableEventKind) (payloadBytes : Nat) (now : Int) :
    OutboxFile × Reservation :=
  let id := maxKey file.claims + 1
  ({ file with claims := file.claims.insert id ⟨kind, payloadBytes, now, true⟩ },
    ⟨id, kind, payloadBytes, true⟩)

/-- Stop a claim from blocking a snapshot, without giving it up. -/
def hold (claim : Reservation) : OutboxFile × Except ReserveError Reservation :=
  match claimId claim with
  | .error error => (file, .error error)
  | .ok id =>
    match file.claims.lookup id with
    | some stored =>
      if stored.snapshotBlocking then
        ({ file with claims := file.claims.insert id { stored with snapshotBlocking := false } },
          .ok { claim with snapshotBlocking := false })
      else (file, .error (.alreadyHeld claim.id))
    | none => (file, .error (.alreadyHeld claim.id))

/-- Give a claim back without writing anything. -/
def release (claim : Reservation) : OutboxFile × Except ReserveError Unit :=
  match claimId claim with
  | .error error => (file, .error error)
  | .ok id =>
    if (file.claims.lookup id).isSome then
      ({ file with claims := file.claims.erase id }, .ok ())
    else (file, .error (.reservationNotLive claim.id))

/-- The highest sequence on disk; a row past the watermark was never handed out. -/
def persistedHighWater : Except JournalError Nat :=
  if file.reservedThrough < maxKey file.events then
    .error (.corrupt ("a row carries a sequence past the reserved watermark, so a number this " ++
      "file never burned has already been used"))
  else .ok (maxKey file.events)

end OutboxFile

def claimIsWellFormed (kind : DurableEventKind) (payloadBytes : Nat) : Except ReserveError Unit :=
  if payloadBytes = 0 then .error (.payloadNotPositive payloadBytes)
  else if kind.payloadLimit < payloadBytes then
    .error (.payloadTooLarge kind payloadBytes kind.payloadLimit)
  else .ok ()

/-- Whether one more claim fits, given what is already used. -/
def admissionFits (usedRows usedBytes payloadBytes : Nat) : Except ReserveError Unit :=
  if maxRows ≤ usedRows ∨ maxPayloadBytes < usedBytes + payloadBytes then
    .error (.full usedRows usedBytes maxRows maxPayloadBytes)
  else .ok ()

/-- What a call of `reserve` has read so far. -/
inductive ReserveStage where
  | started
  | rows (rows : Nat)
  | claims (rows claims claimedBytes : Nat)
  /-- The caps were consulted; the insert is left. -/
  | admitted
  deriving DecidableEq

structure ReserveCall where
  kind : DurableEventKind
  payloadBytes : Nat
  now : Int
  stage : ReserveStage

/-! ## The outbox and its calls -/

/-- The file, and what the process that has it open holds in memory. -/
structure Journal where
  file : OutboxFile
  /-- No process has the file open. -/
  window : Option SequenceWindow
  reserving : OrderedMap Nat ReserveCall

inductive JournalOp where
  | openFile (now : Int)
  /-- The process dies. -/
  | crash
  | append (event : JournalEvent) (claim : Option Reservation) (fault : Option Interruption)
  | snapshotSequence (offeredThrough : Nat) (fault : Option Interruption)
  | acknowledge (clientSeq : Nat)
  | reserve (call : Nat) (kind : DurableEventKind) (payloadBytes : Nat) (now : Int)
  | reserveNext (call : Nat)
  | hold (claim : Reservation)
  | release (claim : Reservation)
  | reclaimExpired (now : Int)
  | discardRetiredEvents

inductive JournalAnswer where
  | handedOver (seq : Nat)
  | appended (row : PendingRow)
  | drawn (seq : Option Nat)
  | removed (removed : Bool)
  | granted (claim : Reservation)
  | held (claim : Reservation)
  /-- No process has the file open. -/
  | closed
  | refused (error : ReserveError)
  | failed (error : JournalError)
  | done
  deriving DecidableEq

namespace Journal

/-- A file not yet created. -/
def absent : Journal := ⟨.empty, none, .empty⟩

variable (journal : Journal)

/-- Open the outbox. A file this build cannot own is refused. -/
def openFile (now : Int) : Journal × JournalAnswer :=
  let file := journal.file.discardRetiredEvents.reclaimExpired now
  match file.persistedHighWater with
  | .ok handedOver => (⟨file, some ⟨handedOver, 0⟩, .empty⟩, .handedOver handedOver)
  | .error error => (⟨file, none, .empty⟩, .failed error)

def reserveNext (call : Nat) : Journal × JournalAnswer :=
  let goes (next : ReserveCall) : Journal × JournalAnswer :=
    ({ journal with reserving := journal.reserving.insert call next }, .done)
  match journal.reserving.lookup call with
  | none => (journal, .done)
  | some reading =>
    match reading.stage with
    | .started => goes { reading with stage := .rows journal.file.events.length }
    | .rows rows =>
      let claims := journal.file.liveClaims reading.now
      goes { reading with stage := .claims rows claims.length (claims.map (·.payloadBytes)).sum }
    | .claims rows claims claimedBytes =>
      match admissionFits (rows + claims) (journal.file.heldBytes + claimedBytes)
          reading.payloadBytes with
      | .ok () => goes { reading with stage := .admitted }
      | .error error =>
        ({ journal with reserving := journal.reserving.erase call }, .refused error)
    | .admitted =>
      let (file, claim) := journal.file.insertClaim reading.kind reading.payloadBytes reading.now
      ({ journal with file := file, reserving := journal.reserving.erase call }, .granted claim)

/-- A call on an open outbox. -/
def call (window : SequenceWindow) : JournalOp → Journal × JournalAnswer
  | .openFile _ => (journal, .done)
  | .crash => ({ journal with window := none, reserving := .empty }, .done)
  | .append event claim fault =>
    match appendWithin journal.file window event claim fault with
    | (file, window, .ok row) => ({ journal with file := file, window := window }, .appended row)
    | (file, window, .error error) =>
      ({ journal with file := file, window := window }, .failed error)
  | .snapshotSequence offeredThrough fault =>
    match Worker.snapshotSequence journal.file window offeredThrough fault with
    | (file, window, .ok seq) => ({ journal with file := file, window := window }, .drawn seq)
    | (file, window, .error error) =>
      ({ journal with file := file, window := window }, .failed error)
  | .acknowledge clientSeq =>
    let (file, removed) := journal.file.acknowledge clientSeq
    ({ journal with file := file }, .removed removed)
  | .reserve name kind payloadBytes now =>
    match claimIsWellFormed kind payloadBytes with
    | .error error => (journal, .refused error)
    | .ok () =>
      if (journal.reserving.lookup name).isSome then (journal, .done)
      else
        ({ journal with
            reserving := journal.reserving.insert name ⟨kind, payloadBytes, now, .started⟩ },
          .done)
  | .reserveNext name => journal.reserveNext name
  | .hold claim =>
    let (file, held) := journal.file.hold claim
    ({ journal with file := file },
      match held with
      | .ok held => .held held
      | .error error => .refused error)
  | .release claim =>
    let (file, released) := journal.file.release claim
    ({ journal with file := file },
      match released with
      | .ok () => .done
      | .error error => .refused error)
  | .reclaimExpired now => ({ journal with file := journal.file.reclaimExpired now }, .done)
  | .discardRetiredEvents => ({ journal with file := journal.file.discardRetiredEvents }, .done)

/-- A call. Only an open outbox takes calls other than `openFile`; an opening that ended early did
some of its sweeps. -/
def step (op : JournalOp) : Journal × JournalAnswer :=
  match journal.window with
  | some window => journal.call window op
  | none =>
    match op with
    | .openFile now => journal.openFile now
    | .reclaimExpired now => ({ journal with file := journal.file.reclaimExpired now }, .done)
    | .discardRetiredEvents =>
      ({ journal with file := journal.file.discardRetiredEvents }, .done)
    | _ => (journal, .closed)

end Journal

/-- The outbox as a machine that answers calls in any order. -/
def journalCalls : Transducer Journal JournalOp JournalAnswer := ⟨Journal.step⟩

end Roost.Worker
