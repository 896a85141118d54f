-- SUMMARY: The owner of cursors, active searches and cancel tombstones.
import Mathlib.Data.List.Sort
import Mathlib.Data.String.Basic
import Roost.Base.Except

/-!
# Continuation cursors

One owner a process keeps the cursors its pages issue, the searches that run, and a tombstone for
each search that was cancelled. Expiry is lazy: what has expired is dropped when the owner is next
read. A cursor is claimed once, under the binding it was issued for.
-/

namespace Roost.Coord.Search

def globalSearchCursorTtlMs : Int := 60000

def globalSearchMaxCursorsPerDevice : Nat := 4

/-- Live tombstones one device may hold before its oldest is evicted. -/
def globalSearchMaxCancelTombstonesPerDevice : Nat := 128

def globalSearchMaxCancelTombstones : Nat := 4096

def globalSearchMaxActivePerDevice : Nat := 4

def globalSearchMaxActive : Nat := 1024

/-- Who a search belongs to: one device's tab, one search id. -/
structure GlobalSearchIdentity where
  deviceFingerprint : String
  tabId : String
  searchId : String
  deriving DecidableEq

structure GlobalSearchPageLimits where
  maxSessions : Nat
  maxRowsPerSession : Nat
  maxMatches : Nat
  deriving DecidableEq

structure GlobalSearchCursorBinding where
  identity : GlobalSearchIdentity
  query : String
  caseSensitive : Bool
  limits : GlobalSearchPageLimits
  deriving DecidableEq

/-- Where one session's next page resumes. -/
structure GlobalSearchSessionPosition where
  sessionId : String
  workerFp : String
  gridEpoch : String
  beforeRow : Option Nat

/-- A session no page has scanned yet. -/
def GlobalSearchSessionPosition.unvisited (sessionId workerFp : String) :
    GlobalSearchSessionPosition where
  sessionId
  workerFp
  gridEpoch := ""
  beforeRow := none

/-- What a claimed cursor hands back. -/
structure GlobalSearchCursorProgress where
  sessions : List GlobalSearchSessionPosition
  eligibleSessions : Nat
  searchedSessionIds : List String

/-- One session's continuation, as a page reports it. -/
structure GlobalSearchContinuation where
  position : GlobalSearchSessionPosition
  searched : Bool
  requestedBeforeRow : Option Nat

/-- The progress a cursor is issued from. -/
structure GlobalSearchCursorIssue where
  binding : GlobalSearchCursorBinding
  continuations : List GlobalSearchContinuation
  eligibleSessions : Nat
  searchedSessionIds : List String

/-- Why a cursor was not issued. -/
inductive CursorIssueRefusal
  | unboundedProgress
  | rowWithoutEpoch
  | duplicateSession
  | searchedSessionDidNotAdvance
  | tokenUnavailable (error : String)
  deriving DecidableEq

structure CursorRecord where
  binding : GlobalSearchCursorBinding
  sessions : List GlobalSearchSessionPosition
  eligibleSessions : Nat
  searchedSessionIds : List String
  createdOrder : Nat
  expiresAtMs : Int

structure CancellationTombstone where
  identity : GlobalSearchIdentity
  expiresAtMs : Int

/-- The owner's state: cursors by token, the selection of each active search, and tombstones in
the order they were left. -/
structure CursorState where
  cursors : List (String × CursorRecord)
  active : List (GlobalSearchIdentity × List GlobalSearchSessionPosition)
  tombstones : List CancellationTombstone
  createdOrder : Nat

def CursorState.empty : CursorState :=
  { cursors := [], active := [], tombstones := [], createdOrder := 0 }

/-- What `beginSearch` decided. -/
inductive GlobalSearchAdmission
  | started
  | cancelled
  | duplicate
  | capacity
  deriving DecidableEq

structure GlobalSearchCancellationPreparation where
  shouldDispatch : Bool
  selectedSessions : List GlobalSearchSessionPosition

namespace CursorState

variable (state : CursorState)

/-- The state without what has expired. -/
def purged (now : Int) : CursorState :=
  { state with
    cursors := state.cursors.filter fun entry => decide (entry.2.expiresAtMs > now)
    tombstones := state.tombstones.filter fun stone => decide (stone.expiresAtMs > now) }

def tombstoned (identity : GlobalSearchIdentity) : Bool :=
  state.tombstones.any fun stone => decide (stone.identity = identity)

/-- Admit a search, unless it was cancelled, is running, or there is no room for it. -/
def beginSearch (now : Int) (identity : GlobalSearchIdentity) :
    CursorState × GlobalSearchAdmission :=
  let state := state.purged now
  if state.tombstoned identity then (state, .cancelled)
  else if (state.active.lookup identity).isSome then (state, .duplicate)
  else
    let activeForDevice := state.active.countP fun entry =>
      decide (entry.1.deviceFingerprint = identity.deviceFingerprint)
    if activeForDevice ≥ globalSearchMaxActivePerDevice ∨
        state.active.length ≥ globalSearchMaxActive then (state, .capacity)
    else ({ state with active := state.active ++ [(identity, [])] }, .started)

/-- Record what an active search selected; whether it may go on. -/
def selectSessions (now : Int) (identity : GlobalSearchIdentity)
    (sessions : List GlobalSearchSessionPosition) : CursorState × Bool :=
  let state := state.purged now
  if state.tombstoned identity then (state, false)
  else
    match state.active.lookup identity with
    | none => (state, false)
    | some _ =>
      ({ state with
          active := state.active.map fun entry =>
            if entry.1 = identity then (entry.1, sessions) else entry }, true)

/-- Whether a live tombstone retires this identity. -/
def isCancelled (now : Int) (identity : GlobalSearchIdentity) :
    CursorState × Bool :=
  let state := state.purged now
  (state, state.tombstoned identity)

/-- Drop the active record of a search. -/
def finishSearch (identity : GlobalSearchIdentity) : CursorState :=
  { state with active := state.active.filter fun entry => decide (entry.1 ≠ identity) }

def deviceCursors (deviceFingerprint : String) : List (Nat × String) :=
  ((state.cursors.filter fun entry =>
      decide (entry.2.binding.identity.deviceFingerprint = deviceFingerprint)).map
    fun entry => (entry.2.createdOrder, entry.1)).mergeSort
      fun older newer => decide (older.1 < newer.1 ∨ older.1 = newer.1 ∧ older.2 ≤ newer.2)

def evictOldestDeviceCursor (deviceFingerprint : String) : CursorState :=
  let oldest := state.deviceCursors deviceFingerprint
  let excess := oldest.length + 1 - globalSearchMaxCursorsPerDevice
  let evicted := (oldest.take excess).map Prod.snd
  { state with cursors := state.cursors.filter fun entry => decide (entry.1 ∉ evicted) }

end CursorState

/-- A page was spent on the session, and it resumes no closer to the history floor. -/
def GlobalSearchContinuation.Stuck (continuation : GlobalSearchContinuation) : Prop :=
  continuation.searched = true ∧ ∃ requested ∈ continuation.requestedBeforeRow,
    ∃ resumed ∈ continuation.position.beforeRow, resumed ≥ requested
  deriving Decidable

def checkContinuations : List String → List GlobalSearchContinuation →
    Except CursorIssueRefusal Unit
  | _, [] => .ok ()
  | seen, continuation :: rest =>
    if continuation.position.gridEpoch = "" ∧ continuation.position.beforeRow.isSome = true then
      .error .rowWithoutEpoch
    else if continuation.position.sessionId ∈ seen then .error .duplicateSession
    else if continuation.Stuck then .error .searchedSessionDidNotAdvance
    else checkContinuations (continuation.position.sessionId :: seen) rest

def GlobalSearchCursorIssue.check (issue : GlobalSearchCursorIssue) :
    Except CursorIssueRefusal Unit :=
  if issue.continuations = [] ∨ issue.continuations.length > issue.binding.limits.maxSessions ∨
      issue.eligibleSessions < issue.continuations.length ∨
      issue.searchedSessionIds.length > issue.eligibleSessions then
    .error .unboundedProgress
  else checkContinuations [] issue.continuations

def GlobalSearchCursorIssue.progress (issue : GlobalSearchCursorIssue) :
    GlobalSearchCursorProgress where
  sessions := issue.continuations.map (·.position)
  eligibleSessions := issue.eligibleSessions
  searchedSessionIds := issue.searchedSessionIds

namespace CursorState

variable (state : CursorState)

def insertCursor (token : String) (record : CursorRecord) : CursorState :=
  { state with
    cursors := (state.cursors.filter fun entry => decide (entry.1 ≠ token)) ++ [(token, record)] }

def issueCursor (now : Int) (newToken : Except String String)
    (issue : GlobalSearchCursorIssue) : CursorState × Except CursorIssueRefusal String :=
  let state := state.purged now
  match issue.check with
  | .error refusal => (state, .error refusal)
  | .ok () =>
    let state := state.evictOldestDeviceCursor issue.binding.identity.deviceFingerprint
    match newToken with
    | .error error => (state, .error (.tokenUnavailable error))
    | .ok token =>
      let order := state.createdOrder + 1
      let record : CursorRecord :=
        { binding := issue.binding
          sessions := issue.progress.sessions
          eligibleSessions := issue.eligibleSessions
          searchedSessionIds := issue.searchedSessionIds
          createdOrder := order
          expiresAtMs := now + globalSearchCursorTtlMs }
      ({ state with createdOrder := order }.insertCursor token record, .ok token)

/-- Claim a cursor once, under exactly the binding it was issued for. -/
def claimCursor (now : Int) (token : String)
    (binding : GlobalSearchCursorBinding) : CursorState × Option GlobalSearchCursorProgress :=
  let state := state.purged now
  match state.cursors.lookup token with
  | none => (state, none)
  | some cursor =>
    if cursor.binding ≠ binding then (state, none)
    else
      ({ state with cursors := state.cursors.filter fun entry => decide (entry.1 ≠ token) },
        some { sessions := cursor.sessions
               eligibleSessions := cursor.eligibleSessions
               searchedSessionIds := cursor.searchedSessionIds })

/-- Evict tombstones until there is room for one more of this device. -/
def evictCancellationCapacity (tombstones : List CancellationTombstone)
    (deviceFingerprint : String) : List CancellationTombstone :=
  let ofDevice (stone : CancellationTombstone) : Bool :=
    decide (stone.identity.deviceFingerprint = deviceFingerprint)
  let deviceExcess := tombstones.countP ofDevice + 1 - globalSearchMaxCancelTombstonesPerDevice
  let kept := dropFirst ofDevice deviceExcess tombstones
  kept.drop (kept.length + 1 - globalSearchMaxCancelTombstones)
where
  /-- Drop the first `count` elements a test picks. -/
  dropFirst (picks : CancellationTombstone → Bool) :
      Nat → List CancellationTombstone → List CancellationTombstone
    | 0, stones => stones
    | _, [] => []
    | count + 1, stone :: stones =>
      if picks stone then dropFirst picks count stones
      else stone :: dropFirst picks (count + 1) stones

def selectedOnce : List GlobalSearchSessionPosition → List GlobalSearchSessionPosition →
    List GlobalSearchSessionPosition
  | selected, [] => selected
  | selected, session :: rest =>
    if selected.any fun kept => decide (kept.sessionId = session.sessionId) then
      selectedOnce (replaceFirst session selected) rest
    else selectedOnce (selected ++ [session]) rest
where
  replaceFirst (session : GlobalSearchSessionPosition) :
      List GlobalSearchSessionPosition → List GlobalSearchSessionPosition
    | [] => []
    | kept :: rest =>
      if kept.sessionId = session.sessionId then session :: rest
      else kept :: replaceFirst session rest

/-- Retire a search: tombstone it, drop its cursors, and hand back what it selected. -/
def prepareCancellation (now : Int) (identity : GlobalSearchIdentity) :
    CursorState × GlobalSearchCancellationPreparation :=
  let state := state.purged now
  if state.tombstoned identity then (state, { shouldDispatch := false, selectedSessions := [] })
  else
    let selected := selectedOnce [] ((state.active.lookup identity).getD [])
    let cursors := state.cursors.filter fun entry => decide (entry.2.binding.identity ≠ identity)
    let tombstones := evictCancellationCapacity state.tombstones identity.deviceFingerprint ++
      [{ identity, expiresAtMs := now + globalSearchCursorTtlMs }]
    ({ state with cursors, tombstones },
      { shouldDispatch := true, selectedSessions := selected })

/-- Release an in-flight search once its cancels were sent. -/
def completeCancellation (identity : GlobalSearchIdentity) : CursorState :=
  { state with active := state.active.filter fun entry => decide (entry.1 ≠ identity) }

end CursorState

/-! ## The checks of an issue -/

variable {continuations : List GlobalSearchContinuation}

theorem checkContinuations_eq_ok {seen : List String}
    :
    checkContinuations seen continuations = .ok () ↔ (∀ continuation ∈ continuations,
        (continuation.position.beforeRow.isSome = true → continuation.position.gridEpoch ≠ "") ∧
        continuation.position.sessionId ∉ seen ∧ ¬continuation.Stuck) ∧
      (continuations.map (·.position.sessionId)).Nodup := by
  induction continuations generalizing seen with
  | nil => simp [checkContinuations]
  | cons continuation rest ih =>
    rw [checkContinuations]
    simp only [List.forall_mem_cons, List.map_cons, List.nodup_cons]
    split
    · next hunnamed =>
      exact ⟨fun h => (nomatch h), fun h => absurd hunnamed.1 (h.1.1.1 hunnamed.2)⟩
    rename_i hnamed
    split
    · next hseen => exact ⟨fun h => (nomatch h), fun h => absurd hseen h.1.1.2.1⟩
    rename_i hfresh
    split
    · next hstuck => exact ⟨fun h => (nomatch h), fun h => absurd hstuck h.1.1.2.2⟩
    rename_i hadv
    rw [ih]
    constructor
    · rintro ⟨hall, hnd⟩
      refine ⟨⟨⟨fun hrow hepoch => hnamed ⟨hepoch, hrow⟩, hfresh, hadv⟩, ?_⟩, ?_, hnd⟩
      · intro other hmem
        obtain ⟨hepoch, hunseen, hmoves⟩ := hall other hmem
        exact ⟨hepoch, fun h => hunseen (List.mem_cons_of_mem _ h), hmoves⟩
      · intro hrep
        obtain ⟨other, hmem, heq⟩ := List.mem_map.mp hrep
        exact (hall other hmem).2.1 (heq ▸ List.mem_cons_self)
    · rintro ⟨⟨_, hall⟩, hnew, hnd⟩
      refine ⟨fun other hmem => ?_, hnd⟩
      obtain ⟨hepoch, hunseen, hmoves⟩ := hall other hmem
      refine ⟨hepoch, fun h => ?_, hmoves⟩
      rcases List.mem_cons.mp h with heq | hold
      · exact hnew (heq ▸ List.mem_map_of_mem hmem)
      · exact hunseen hold

theorem GlobalSearchCursorIssue.check_eq_ok {issue : GlobalSearchCursorIssue} :
    issue.check = .ok () ↔ (issue.continuations ≠ [] ∧
        issue.continuations.length ≤ issue.binding.limits.maxSessions ∧
        issue.continuations.length ≤ issue.eligibleSessions ∧
        issue.searchedSessionIds.length ≤ issue.eligibleSessions) ∧
      checkContinuations [] issue.continuations = .ok () := by
  unfold GlobalSearchCursorIssue.check
  rw [Except.ite_error_eq_ok]
  simp only [not_or, Nat.not_lt, ne_eq]

theorem checkContinuations_ne_tokenUnavailable {seen : List String}
    (error : String) :
    checkContinuations seen continuations ≠ .error (.tokenUnavailable error) := by
  induction continuations generalizing seen with
  | nil => exact fun h => (nomatch h)
  | cons continuation rest ih =>
    rw [checkContinuations]
    repeat' split
    all_goals first | exact ih | exact fun h => (nomatch h)

theorem GlobalSearchCursorIssue.check_ne_tokenUnavailable (issue : GlobalSearchCursorIssue)
    (error : String) : issue.check ≠ .error (.tokenUnavailable error) := by
  unfold GlobalSearchCursorIssue.check
  split
  · exact fun h => (nomatch h)
  · exact checkContinuations_ne_tokenUnavailable error

end Roost.Coord.Search
