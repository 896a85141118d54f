-- SUMMARY: The append path around its transaction, and its interleavings.
import Roost.Base.Transducer
import Roost.Coord.Events.Transaction

/-!
# Appending an event

An append prepares its event and reserves a publication slot, runs its transaction, and then
publishes, retains or claims. The three parts of concurrent appends interleave; each part runs
alone. Every worker append shares one bounded store of publication slots.
-/

namespace Roost.Coord.Events

variable {Text : Type}

/-! ## Persistence input -/

def maxPersistedUtf8Bytes : Nat := 4096

def maxWorkerSnapshotSessions : Nat := 1024

def fittingChars (maxBytes bytes : Nat) : List Char → List Char
  | [] => []
  | character :: rest =>
    if maxBytes < bytes + character.utf8Size then []
    else character :: fittingChars maxBytes (bytes + character.utf8Size) rest

/-- The longest whole-code-point prefix that fits. -/
def truncatePersistedUtf8 (value : String) (maxBytes : Nat) : String :=
  String.ofList (fittingChars maxBytes 0 value.toList)

def boundField (value : String) : String :=
  let truncated := truncatePersistedUtf8 value maxPersistedUtf8Bytes
  if truncated.utf8ByteSize < value.utf8ByteSize then truncated else value

def boundSession (session : Session) : Session :=
  { session with
    cwd := boundField session.cwd
    spawnCwd := session.spawnCwd.map boundField
    customTitle := session.customTitle.map boundField
    gitBranch := session.gitBranch.map boundField
    gitRemote := session.gitRemote.map (·.map boundField)
    prUrl := session.prUrl.map boundField }

def normalizePersistedWorkerEvent : SessionEvent → SessionEvent
  | .opened sessionId workerFp channel sessionKind cwd ts traceId =>
    .opened sessionId workerFp channel sessionKind (boundField cwd) ts traceId
  | .cwd sessionId cwd ts traceId => .cwd sessionId (boundField cwd) ts traceId
  | .renamed sessionId customTitle ts traceId =>
    .renamed sessionId (boundField customTitle) ts traceId
  | .git sessionId branch remote ts traceId =>
    .git sessionId (branch.map boundField) (remote.map boundField) ts traceId
  | .pr sessionId number state checks url ts traceId =>
    .pr sessionId number state checks (url.map boundField) ts traceId
  | .snapshot workerFp sessions ts traceId =>
    .snapshot workerFp (sessions.map boundSession) ts traceId
  | event => event

/-- Validate and normalize an event before anything durable happens. -/
def prepareEvent (event : SessionEvent) : Except AppendError SessionEvent :=
  if maxWorkerSnapshotSessions < event.announced.length then
    .error (.snapshotTooLarge event.announced.length maxWorkerSnapshotSessions)
  else .ok (normalizePersistedWorkerEvent event)

/-! ## Publication slots -/

/-- Committed publications a process may hold. -/
def maxEntries : Nat := 256

inductive SlotState
  | reserved
  | retained
  | claimed
  deriving DecidableEq

/-- A committed event awaiting publication. -/
structure RetainedPublication (Text : Type) where
  eventId : Int
  eventJson : Text
  dashboardId : String
  cascadeOrphanIds : List WorkspaceId
  snapshotReapIds : List SessionId

/-- One worker's slot for one sequence. -/
structure PublicationSlot (Text : Type) where
  workerFp : WorkerFp
  clientSeq : Nat
  state : SlotState
  effect : Option (RetainedPublication Text)

inductive ClaimOutcome (Text : Type)
  | claimed (effect : RetainedPublication Text)
  | nothing
  | payloadMismatch

structure PendingPublicationStore (Text : Type) where
  slots : Table Reservation (PublicationSlot Text)

namespace PendingPublicationStore

variable (store : PendingPublicationStore Text)

def new : PendingPublicationStore Text := { slots := ∅ }

def length : Nat := store.slots.entries.length

variable (key : Reservation)

def contains : Bool := (store.slots.lookup key).isSome

/-- Claim a slot before the transaction opens, none when the store is full. A concurrent duplicate
of one sequence shares the slot. -/
def reserve : Option (PendingPublicationStore Text) :=
  if maxEntries ≤ store.length && !store.contains key then none
  else if store.contains key then some store
  else
    let slot : PublicationSlot Text :=
      { workerFp := key.workerFp, clientSeq := key.clientSeq, state := .reserved, effect := none }
    some { slots := store.slots.insert key slot }

/-- Park a committed effect whose publication was lost, in its slot if that is still there. -/
def retain (effect : RetainedPublication Text) : PendingPublicationStore Text :=
  { slots := store.slots.modify key fun slot =>
      { slot with state := .retained, effect := some effect } }

/-- Hand a retained effect to a retry, comparing the payload. -/
def claim [DecidableEq Text] (replayEventJson : Text) :
    ClaimOutcome Text × PendingPublicationStore Text :=
  match store.slots.lookup key with
  | none => (.nothing, store)
  | some slot =>
    match slot.state, slot.effect with
    | .retained, some effect =>
      if effect.eventJson ≠ replayEventJson then (.payloadMismatch, store)
      else (.claimed effect, { slots := store.slots.insert key { slot with state := .claimed } })
    | _, _ => (.nothing, store)

def release : PendingPublicationStore Text :=
  { slots := store.slots.erase key }

end PendingPublicationStore

/-! ## After the commit -/

/-- What reaches the live domains of the process. -/
inductive LiveEffect
  | indexDurableChannel (event : SessionEvent) (authenticatedWorkerFp : Option WorkerFp)
  | sessionCommitted (event : SessionEvent) (eventId : Nat)
  | workspaceDeleted (workspaceId : WorkspaceId)
  | killOrphanPty (workerFp : WorkerFp) (sessionId : SessionId)

namespace CommittedEventPublication

/-- The form the bounded store holds while a publication is lost. -/
def retained (effect : CommittedEventPublication Text) (dashboardId : String) :
    Except AppendError (RetainedPublication Text) :=
  if i64Max < effect.eventId then .error (.eventIdOutOfRange i64Max)
  else .ok {
    eventId := effect.eventId
    eventJson := effect.eventJson
    dashboardId
    cascadeOrphanIds := effect.cascadeOrphanIds
    snapshotReapIds := effect.snapshotReapIds }

/-- Rebuild the publishable effect from a claimed one; the event is decoded from the stored text. -/
def fromClaimed (codec : JsonCodec Text) (claimed : RetainedPublication Text)
    (workerFp : WorkerFp) : Except AppendError (CommittedEventPublication Text) := do
  let event ← (codec.decodeEvent claimed.eventJson).mapError
    (AppendError.undecodableRetained claimed.eventId)
  if claimed.eventId < 0 then .error (.eventIdOutOfRange claimed.eventId)
  else return {
    event
    authenticatedWorkerFp := some workerFp
    eventId := claimed.eventId.toNat
    eventJson := claimed.eventJson
    cascadeOrphanIds := claimed.cascadeOrphanIds
    snapshotReapIds := claimed.snapshotReapIds }

/-- Publish a committed event: the channel index, the session bus, the workspace cascade. -/
def publish (effect : CommittedEventPublication Text) : List LiveEffect :=
  .indexDurableChannel effect.event effect.authenticatedWorkerFp ::
    .sessionCommitted effect.event effect.eventId :: effect.cascadeOrphanIds.map .workspaceDeleted

end CommittedEventPublication

/-- What the publication step decided. -/
structure PublicationResolution (Text : Type) where
  publishedEffect : Option (CommittedEventPublication Text)
  replayRejected : Bool

/-- A resolution, the store it leaves and what it published. -/
structure Resolved (Text : Type) where
  resolution : Except AppendError (PublicationResolution Text)
  store : PendingPublicationStore Text
  live : List LiveEffect

/-- The fence's answers, the second one to a claim that checks again. -/
structure Fence where
  first : Bool
  second : Bool

def unpublished : PublicationResolution Text :=
  { publishedEffect := none, replayRejected := false }

section Resolve

variable [DecidableEq Text] (codec : JsonCodec Text)

def retainEffect (store : PendingPublicationStore Text) (effect : CommittedEventPublication Text)
    (caller : Caller) : Except AppendError (PendingPublicationStore Text) :=
  match caller.reservation with
  | none => .ok store
  | some key => (effect.retained caller.dashboardId).map (store.retain key)

def releaseReservation (store : PendingPublicationStore Text) (caller : Caller) :
    PendingPublicationStore Text :=
  match caller.reservation with
  | none => store
  | some key => store.release key

/-- A deduplicated delivery whose fence allows claims what its slot retains. -/
def claimRetained (key : Reservation) (replayEventJson : Text)
    (store : PendingPublicationStore Text) (fence : Fence) : Resolved Text :=
  match store.claim key replayEventJson with
  | (.payloadMismatch, store) =>
    { resolution := .ok { publishedEffect := none, replayRejected := true }, store, live := [] }
  | (.nothing, store) =>
    { resolution := .ok unpublished, store := store.release key, live := [] }
  | (.claimed claimed, store) =>
    match CommittedEventPublication.fromClaimed codec claimed key.workerFp with
    | .error error => { resolution := .error error, store, live := [] }
    | .ok effect =>
      -- Put it back: the effect is still unpublished.
      if !fence.second then
        { resolution := .ok unpublished, store := store.retain key claimed, live := [] }
      else
        { resolution := .ok { publishedEffect := some effect, replayRejected := false }
          store := store.release key
          live := effect.publish }

/-- Publish, retain, or claim: the whole decision after the commit. -/
def resolvePublication (committedEffect : Option (CommittedEventPublication Text))
    (deduplicated : Bool) (replayEventJson : Text) (caller : Caller)
    (store : PendingPublicationStore Text) (fence : Fence) : Resolved Text :=
  match committedEffect with
  | some effect =>
    if !fence.first then
      match retainEffect store effect caller with
      | .error error => { resolution := .error error, store, live := [] }
      | .ok store => { resolution := .ok unpublished, store, live := [] }
    else
      { resolution := .ok { publishedEffect := some effect, replayRejected := false }
        store := releaseReservation store caller
        live := effect.publish }
  | none =>
    match caller.reservation with
    | none => { resolution := .ok unpublished, store, live := [] }
    | some key =>
      if !deduplicated then
        { resolution := .ok unpublished, store := store.release key, live := [] }
      else if !fence.first then
        { resolution := .ok unpublished, store := store.release key, live := [] }
      else claimRetained codec key replayEventJson store fence

end Resolve

structure AppendEventResult where
  admitted : Bool
  inserted : Bool
  published : Bool
  replayRejected : Bool
  event : SessionEvent
  snapshotReapIds : List SessionId

def buildResult (committed : CommittedState Text) (resolution : PublicationResolution Text) :
    AppendEventResult where
  admitted := !committed.admissionRejected
  inserted := committed.insertedId.isSome
  published := resolution.publishedEffect.isSome
  replayRejected := resolution.replayRejected
  event := (resolution.publishedEffect.map (·.event)).getD committed.event
  snapshotReapIds :=
    (resolution.publishedEffect.map (·.snapshotReapIds)).getD committed.reapOrphanIds

/-- The kills a published snapshot sends, unless the connection defers them. -/
def reaps (resolution : PublicationResolution Text) (deferSnapshotReap : Bool) : List LiveEffect :=
  match resolution.publishedEffect with
  | some { event := .snapshot workerFp _ _ _, snapshotReapIds, .. } =>
    if deferSnapshotReap then [] else snapshotReapIds.map (.killOrphanPty workerFp)
  | _ => []

/-! ## Interleaved appends -/

/-- One call of `append_event`. -/
structure Delivery where
  event : SessionEvent
  caller : Caller
  deferSnapshotReap : Bool

/-- An append between two of its parts. Its event has been prepared. -/
inductive Flight (Text : Type)
  | reserved (delivery : Delivery)
  | committed (delivery : Delivery) (state : CommittedState Text)

def Flight.delivery : Flight Text → Delivery
  | .reserved delivery => delivery
  | .committed delivery _ => delivery

/-- The event log of the process: its database, its publication slots, the appends in flight, and
what it has published and answered, in order. -/
structure EventLog (Text : Type) where
  tables : Tables Text
  pendingPublications : PendingPublicationStore Text
  flights : Table Nat (Flight Text)
  live : List LiveEffect
  answers : List (Nat × Except AppendError AppendEventResult)

/-- What happens next: a part of an append, or other code edits a table an append only reads. -/
inductive Step
  | reserve (call : Nat) (delivery : Delivery)
  | transact (call : Nat) (answers : TransactionAnswers)
  | resolve (call : Nat) (fence : Fence)
  | world (workers : List WorkerFp) (workspaces : List WorkspaceId)
      (workspaceSessions : List (WorkspaceId × SessionId))

namespace EventLog

/-- A process over an empty log. -/
def start : EventLog Text where
  tables :=
    { events := []
      eventSequence := 0
      sessions := ∅
      workers := []
      workspaces := []
      workspaceSessions := [] }
  pendingPublications := .new
  flights := ∅
  live := []
  answers := []

variable [DecidableEq Text] (codec : JsonCodec Text) (log : EventLog Text)

def answer (call : Nat) (result : Except AppendError AppendEventResult) : EventLog Text :=
  { log with flights := log.flights.erase call, answers := log.answers ++ [(call, result)] }

/-- The part before the transaction. -/
def reserve (call : Nat) (delivery : Delivery) : EventLog Text :=
  match prepareEvent delivery.event with
  | .error error => log.answer call (.error error)
  | .ok event =>
    let flight : Flight Text := .reserved { delivery with event }
    match delivery.caller.reservation with
    | none => { log with flights := log.flights.insert call flight }
    | some key =>
      match log.pendingPublications.reserve key with
      | none => log.answer call (.error .publicationCapacity)
      | some store =>
        { log with pendingPublications := store, flights := log.flights.insert call flight }

/-- The transaction. A body that fails gives the reservation back; a transaction that does not
begin or does not commit does not. -/
def transact (call : Nat) (delivery : Delivery) (answers : TransactionAnswers) : EventLog Text :=
  if !answers.begins then log.answer call (.error .sqlite)
  else
    match log.tables.runInTransaction codec delivery.event delivery.caller answers with
    | .error error =>
      { log with
        pendingPublications := releaseReservation log.pendingPublications delivery.caller }.answer
          call (.error error)
    | .ok (state, tables) =>
      if !answers.commits then log.answer call (.error .sqlite)
      else
        { log with
          tables
          flights := log.flights.insert call (.committed delivery state) }

/-- The part after the commit. -/
def resolve (call : Nat) (delivery : Delivery) (state : CommittedState Text) (fence : Fence) :
    EventLog Text :=
  let resolved := resolvePublication codec
    (state.publicationEffect delivery.caller.workerFp)
    (!state.admissionRejected && state.insertedId.isNone) state.eventJson delivery.caller
    log.pendingPublications fence
  let log := { log with
    pendingPublications := resolved.store, live := log.live ++ resolved.live }
  match resolved.resolution with
  | .error error => log.answer call (.error error)
  | .ok resolution =>
    { log with live := log.live ++ reaps resolution delivery.deferSnapshotReap }.answer call
      (.ok (buildResult state resolution))

/-- One step; a part that is not the next one of its call changes nothing. -/
def step : Step → EventLog Text
  | .reserve call delivery =>
    match log.flights.lookup call with
    | none => log.reserve call delivery
    | some _ => log
  | .transact call answers =>
    match log.flights.lookup call with
    | some (.reserved delivery) => log.transact codec call delivery answers
    | _ => log
  | .resolve call fence =>
    match log.flights.lookup call with
    | some (.committed delivery state) => log.resolve codec call delivery state fence
    | _ => log
  | .world workers workspaces workspaceSessions =>
    { log with tables := { log.tables with workers, workspaces, workspaceSessions } }

end EventLog

def appends [DecidableEq Text] (codec : JsonCodec Text) : Transducer (EventLog Text) Step Unit where
  step log step := (log.step codec step, ())

@[simp] theorem appends_next [DecidableEq Text] (codec : JsonCodec Text) (log : EventLog Text)
    (step : Step) : (appends codec).next log step = log.step codec step := rfl

namespace EventLog

variable [DecidableEq Text] {codec : JsonCodec Text} {log : EventLog Text} {call : Nat}
  {delivery : Delivery}

omit [DecidableEq Text] in
theorem reserve_tables (log : EventLog Text) (call : Nat) (delivery : Delivery) :
    (log.reserve call delivery).tables = log.tables := by
  unfold reserve
  split
  · rfl
  dsimp only
  split
  · rfl
  · split <;> rfl

omit [DecidableEq Text] in
theorem reserve_caller {delivery' : Delivery}
    (h : (log.reserve call delivery).flights.lookup call = some (.reserved delivery')) :
    delivery'.caller = delivery.caller := by
  have hended : ∀ result, (log.answer call result).flights.lookup call = none := by
    intro result
    rw [answer, Table.lookup_erase, if_pos rfl]
  unfold reserve at h
  split at h
  · rw [hended] at h
    cases h
  dsimp only at h
  split at h
  · rw [Table.lookup_insert, if_pos rfl] at h
    cases h
    rfl
  split at h
  · rw [hended] at h
    cases h
  · rw [Table.lookup_insert, if_pos rfl] at h
    cases h
    rfl

theorem resolve_tables (state : CommittedState Text) (fence : Fence) :
    (log.resolve codec call delivery state fence).tables = log.tables := by
  unfold resolve
  dsimp only
  split <;> rfl

omit [DecidableEq Text] in
theorem transact_tables (codec : JsonCodec Text) (log : EventLog Text) (call : Nat)
    (delivery : Delivery) (answers : TransactionAnswers) :
    (log.transact codec call delivery answers).tables = log.tables ∨
      ∃ state, log.tables.runInTransaction codec delivery.event delivery.caller answers =
        .ok (state, (log.transact codec call delivery answers).tables) := by
  unfold transact
  split
  · exact .inl rfl
  split
  · exact .inl rfl
  rename_i state _ hrun
  split
  · exact .inl rfl
  · exact .inr ⟨state, hrun⟩

/-- Only the world and a transaction change the tables. -/
theorem step_tables {P : Tables Text → Prop} (h : P log.tables) (step : Step)
    (hworld : ∀ workers workspaces workspaceSessions,
      step = .world workers workspaces workspaceSessions →
      P { log.tables with workers, workspaces, workspaceSessions })
    (htrans : ∀ call delivery answers state tables, step = .transact call answers →
      log.flights.lookup call = some (.reserved delivery) →
      log.tables.runInTransaction codec delivery.event delivery.caller answers =
        .ok (state, tables) → P tables) :
    P (log.step codec step).tables := by
  cases step with
  | reserve =>
    simp only [step]
    split
    · rw [reserve_tables]
      exact h
    · exact h
  | transact call answers =>
    simp only [step]
    split
    · rename_i delivery hfly
      rcases transact_tables codec log call delivery answers with hsame | ⟨state, hrun⟩
      · rw [hsame]
        exact h
      · exact htrans call delivery answers state _ rfl hfly hrun
    · exact h
  | resolve =>
    simp only [step]
    split
    · rw [resolve_tables]
      exact h
    · exact h
  | world workers workspaces workspaceSessions =>
    exact hworld workers workspaces workspaceSessions rfl

end EventLog

end Roost.Coord.Events
