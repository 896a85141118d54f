-- SUMMARY: One page of an install-wide search.
import Roost.Coord.Search.PageGroups

/-!
# A search page

A page starts from the newest authorized sessions or from what a claimed cursor hands back. Its
sessions are searched by their workers, and what comes of them becomes one response: the matches,
the partials, and a cursor when any session has more to scan.
-/

namespace Roost.Coord.Search

open Roost.Search

structure PageStart where
  sessions : List GlobalSearchSessionPosition
  authorized : List GlobalSearchSessionPosition
  closedSessionIds : List String
  eligibleSessions : Nat
  searchedSessionIds : List String

/-- Add a session to those scanned, in first-scanned order. -/
def insertSearched (ordered : List String) (sessionId : String) : List String :=
  if sessionId ∈ ordered then ordered else ordered ++ [sessionId]

namespace PageStart

/-- The first page: the newest authorized rows, and how many there are in all. -/
def listed (rows : List (String × String)) (counted : Nat) : PageStart :=
  let sessions := rows.map fun row => .unvisited row.1 row.2
  { sessions
    authorized := sessions
    closedSessionIds := []
    eligibleSessions := max counted rows.length
    searchedSessionIds := [] }

/-- A later page: what its cursor hands back, each session looked up again. -/
def resumed (workerBySession : String → Option String) (progress : GlobalSearchCursorProgress) :
    PageStart :=
  let positions := firstOfEach [] progress.sessions
  let standing (position : GlobalSearchSessionPosition) : Bool :=
    decide (workerBySession position.sessionId = some position.workerFp)
  { sessions := progress.sessions
    authorized := positions.filter standing
    closedSessionIds := (positions.filter fun position => !standing position).map (·.sessionId)
    eligibleSessions := progress.eligibleSessions
    searchedSessionIds := progress.searchedSessionIds.foldl insertSearched [] }

end PageStart

/-- What a page finds at the workers: which are routable, and how each one's batch came out. -/
structure Workers where
  routable : String → Bool
  reply : String → GroupReply

variable (start : PageStart) (limits : GlobalSearchPageLimits) (workers : Workers)

namespace PageStart

/-- The batches of a page, and the outcomes of the sessions that are in none. -/
def grouped : List OnlineGlobalSearchGroup × Outcomes :=
  groupOnlineGlobalSearchSessions workers.routable start.authorized
    (start.closedSessionIds.map fun sessionId =>
      (sessionId, GlobalSearchSessionOutcome.unsearched (some .sessionClosed) none)).reverse
    limits.maxMatches

/-- What the batches of a page settle. -/
def settled : Outcomes :=
  (start.grouped limits workers).1.flatMap fun group =>
    searchWorkerGroup limits group (workers.reply group.workerFp)

def outcomes : Outcomes :=
  (start.settled limits workers).reverse ++ (start.grouped limits workers).2

/-- The page's sessions with their outcomes, in page order. -/
def ordered : List (GlobalSearchSessionPosition × GlobalSearchSessionOutcome) :=
  start.sessions.map fun session =>
    (session, ((start.outcomes limits workers).lookup session.sessionId).getD
      (.unsearched (some .malformedResult) none))

/-- Every session this search has scanned, this page's included. -/
def searched : List String :=
  (start.ordered limits workers).foldl (fun searched pair =>
    if pair.2.searched then insertSearched searched pair.1.sessionId else searched)
    start.searchedSessionIds

def continuations : List GlobalSearchContinuation :=
  (start.ordered limits workers).filterMap fun pair =>
    pair.2.continuation.map fun position =>
      { position, searched := pair.2.searched, requestedBeforeRow := pair.1.beforeRow }

end PageStart

/-- Sessions a page never reached come first. -/
def unsearchedFirst (continuations : List GlobalSearchContinuation) :
    List GlobalSearchContinuation :=
  (continuations.filter fun entry => !entry.searched) ++
    continuations.filter fun entry => entry.searched

namespace PageStart

/-- The progress a page's cursor is issued from. -/
def nextIssue (binding : GlobalSearchCursorBinding) : GlobalSearchCursorIssue where
  binding
  continuations := unsearchedFirst (start.continuations binding.limits workers)
  eligibleSessions := start.eligibleSessions
  searchedSessionIds := start.searched binding.limits workers

end PageStart

/-- The continuation cursor, when any session has more to scan. -/
def issueNextCursor (state : CursorState) (now : Int) (newToken : Except String String)
    (issue : GlobalSearchCursorIssue) :
    CursorState × Except CursorIssueRefusal (Option String) :=
  if issue.continuations = [] then (state, .ok none)
  else
    let (state, issued) := state.issueCursor now newToken issue
    (state, issued.map some)

structure SessionsSearchGlobalResponse where
  matched : List GlobalSearchMatch
  partials : List (String × GlobalSearchPartialReason)
  nextCursor : Option String
  searchedSessions : Nat
  eligibleSessions : Nat
  truncated : Bool
  deriving DecidableEq

namespace PageStart

def projectResponse (nextCursor : Option String) : SessionsSearchGlobalResponse :=
  let ordered := start.ordered limits workers
  let partials := ordered.filterMap fun pair =>
    pair.2.partialReason.map fun reason => (pair.1.sessionId, reason)
  let searchedCount := (start.searched limits workers).length
  { matched := ordered.flatMap fun pair => pair.2.matched
    partials
    nextCursor
    searchedSessions := min searchedCount u32Max
    eligibleSessions := min start.eligibleSessions u32Max
    truncated := nextCursor.isSome || !partials.isEmpty ||
      decide (searchedCount < start.eligibleSessions) }

/-- Answer a page that was not cancelled. -/
def answer (binding : GlobalSearchCursorBinding) (state : CursorState) (now : Int)
    (newToken : Except String String) :
    CursorState × Except CursorIssueRefusal SessionsSearchGlobalResponse :=
  let (state, issued) := issueNextCursor state now newToken (start.nextIssue workers binding)
  (state, issued.map fun nextCursor => start.projectResponse binding.limits workers nextCursor)

end PageStart

/-- The pages a search reaches under its limits: the listed one, and those its cursors resume. -/
inductive Reached (binding : GlobalSearchCursorBinding) : PageStart → Prop
  | listed (rows : List (String × String)) (counted : Nat)
      (hdistinct : (rows.map Prod.fst).Nodup) (hpage : rows.length ≤ binding.limits.maxSessions) :
    Reached binding (.listed rows counted)
  | resumed {start : PageStart} (h : Reached binding start) (workers : Workers)
      (hissued : (start.nextIssue workers binding).check = .ok ())
      (workerBySession : String → Option String) :
    Reached binding (.resumed workerBySession (start.nextIssue workers binding).progress)

end Roost.Coord.Search
