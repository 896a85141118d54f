-- SUMMARY: What a scrollback search matches in a row, and one page of it.
import Roost.Cell.Columns

/-!
# One search page

A case-sensitive literal is found without an engine, one occurrence after the end of the last; any
other query goes through the pattern engine, which is a parameter. Matches are resolved to grid
columns.

A page reads slices of at most 500 rows, newest first, down to the retained floor. It stops at the
row budget, at the match cap or at the deadline, and names the row a caller continues before. The
record is the same at every read of a page; `expired n` says whether the deadline had passed when
the `n`-th slice was due.
-/

namespace Roost.Search

open Cell

/-- The largest row number the wire carries. -/
def u32Max : Nat := 2 ^ 32 - 1

/-- Numbers that stop at the largest `u64`. -/
def saturate64 (n : Nat) : Nat := min n (2 ^ 64 - 1)

/-- Why a command is refused. -/
structure Refusal where
  kind : String
  message : String
  deriving DecidableEq

def refuse (message : String) : Refusal := { kind := "search-scrollback", message }

/-- The most scalars a match's preview carries. -/
def previewMaxCodePoints : Nat := 512

/-- A compiler of patterns: the text as a pattern that matches only it, a pattern compiled with or
without regard for case, and where a compiled one matches, as scalar offsets and lengths. -/
structure PatternEngine where
  Pattern : Type
  escape : String → String
  build : String → (caseInsensitive : Bool) → Option Pattern
  findIter : Pattern → String → List (Nat × Nat)

/-- The query as the frame carried it, before it is compiled. -/
structure ScanQuery where
  query : String
  regex : Bool
  caseSensitive : Bool

/-- A compiled query, or the literal scan that needs no engine. -/
inductive Matcher (engine : PatternEngine)
  | literal (needle : String)
  | pattern (compiled : engine.Pattern)

variable {engine : PatternEngine}

def Matcher.compile (engine : PatternEngine) (request : ScanQuery) :
    Except Refusal (Matcher engine) :=
  if !request.regex && request.caseSensitive then .ok (.literal request.query)
  else
    let pattern := if request.regex then request.query else engine.escape request.query
    match engine.build pattern (!request.caseSensitive) with
    | none => .error (refuse "invalid regex: pattern could not be compiled")
    | some compiled => .ok (.pattern compiled)

/-- The offsets of a needle in a text from scalar `at_` on, after the `skip` scalars an occurrence
has used up. -/
def literalOffsets (needle : List Char) : Nat → Nat → List Char → List Nat
  | _, _, [] => []
  | skip + 1, at_, _ :: rest => literalOffsets needle skip (at_ + 1) rest
  | 0, at_, character :: rest =>
    if needle.isPrefixOf (character :: rest) then
      at_ :: literalOffsets needle (needle.length - 1) (at_ + 1) rest
    else literalOffsets needle 0 (at_ + 1) rest

/-- Every match in a text, as a scalar offset and a scalar length. -/
def Matcher.visit : Matcher engine → String → List (Nat × Nat)
  | .literal needle, text =>
    (literalOffsets needle.toList 0 0 text.toList).map (·, needle.toList.length)
  | .pattern compiled, text => engine.findIter compiled text

structure Hit where
  col : UInt32
  len : UInt32

structure RowScan where
  text : String
  hits : List Hit

/-- What a search reads of one session: its core, the origin its emitter counts from, the epoch of
its grid, and the floor a resize replay left. History is read newest first. -/
structure SearchRecord where
  discardedLineCount : Option Nat
  originBase : Nat
  scrollbackCount : Nat
  cols : Nat
  rows : Nat
  gridEpoch : String
  replayFloor : Option Nat
  scrollbackOffsetSpans : Nat → List CellSpan
  viewportRowSpans : Nat → List CellSpan

/-- The absolute index of the oldest line the core holds. -/
def SearchRecord.scrollbackOrigin (record : SearchRecord) : Option Nat :=
  record.discardedLineCount.map fun discarded => saturate64 (record.originBase + discarded)

def rowSpans (record : SearchRecord) (absoluteRow : Nat) : Option (List CellSpan) := do
  let floor ← record.scrollbackOrigin
  if absoluteRow < floor then none
  else
    let scrollbackTotal := saturate64 (floor + record.scrollbackCount)
    if absoluteRow < scrollbackTotal then
      some (record.scrollbackOffsetSpans (record.scrollbackCount - 1 - (absoluteRow - floor)))
    else
      let viewportRow := absoluteRow - scrollbackTotal
      if viewportRow ≥ record.rows then none else some (record.viewportRowSpans viewportRow)

/-- Scan one row, or nothing when the grid no longer holds it. -/
def scanRow (record : SearchRecord) (found : Matcher engine) (row : Nat) : Option RowScan :=
  (rowSpans record row).map fun spans =>
    let text := spansText spans
    { text
      hits := (found.visit text).map fun (offset, length) =>
        let columns := textRangeToColumns spans offset length
        { col := columns.col, len := columns.columns } }

def isWhiteSpace (character : Char) : Bool :=
  let scalar := character.toNat
  decide (9 ≤ scalar ∧ scalar ≤ 13) || decide (0x2000 ≤ scalar ∧ scalar ≤ 0x200a) ||
    decide (scalar ∈ [0x20, 0x85, 0xa0, 0x1680, 0x2028, 0x2029, 0x202f, 0x205f, 0x3000])

/-- A row's own text, trimmed at its end and bounded. -/
def previewOf (text : String) : String :=
  String.ofList ((text.toList.reverse.dropWhile isWhiteSpace).reverse.take previewMaxCodePoints)

/-! ## Slices -/

variable {engine : PatternEngine}

/-- Rows one slice may read before the session record is handed back. -/
def searchSliceRows : Nat := 500

/-- A monotonic history index as the `u32` the page arithmetic speaks. -/
def narrow (index : Nat) : Nat := min index u32Max

/-- What a session's grid looks like to a reader. -/
structure GridDescription where
  gridEpoch : String
  retainedFloor : Nat
  resizeReplayFloor : Nat
  total : Nat
  cols : Nat
  viewportRows : Nat

/-- What one session's grid looks like, taken once. -/
def describe (record : SearchRecord) : Except Refusal GridDescription :=
  match record.scrollbackOrigin with
  | none =>
    .error { kind := "get-scrollback-cells"
             message := "terminal core does not report a discarded history line count: the " ++
              "scrollback origin cannot be authoritative and every absolute history index would " ++
              "re-alias" }
  | some origin =>
    .ok { gridEpoch := record.gridEpoch
          retainedFloor := narrow origin
          resizeReplayFloor := (record.replayFloor.map narrow).getD 0
          total := narrow (saturate64 (origin + record.scrollbackCount))
          cols := record.cols
          viewportRows := record.rows }

/-- Why a page stopped. -/
inductive StopReason
  | complete
  | rowLimit
  | matchLimit
  | deadline
  | epochChanged
  deriving DecidableEq

/-- Which edge of the history a page stopped at. -/
inductive HistoryFloor
  | none
  | evicted
  | resizeReplay
  deriving DecidableEq

def historyFloorFor (description : GridDescription) (wantedStart : Nat) : HistoryFloor :=
  if description.retainedFloor = 0 ∨ wantedStart ≥ description.retainedFloor then .none
  else if description.resizeReplayFloor > 0 ∧
      description.retainedFloor = description.resizeReplayFloor then .resizeReplay
  else .evicted

structure Match where
  row : Nat
  col : UInt32
  len : UInt32
  preview : String
  deriving DecidableEq

/-- One page as the wire spells it. -/
structure SearchPage where
  matched : List Match
  truncated : Bool
  scrollbackTotal : Nat
  cols : Nat
  gridEpoch : String
  scannedStartRow : Nat
  scannedEndRow : Nat
  historyFloor : HistoryFloor
  nextBeforeRow : Option Nat
  stopReason : StopReason
  deriving DecidableEq

/-- The page over a grid, with the numbers every answer is built from. -/
def intoValue (description : GridDescription) (scannedStartRow scannedEndRow : Nat)
    (reason : StopReason) (nextBeforeRow : Option Nat) (found : List Match) : SearchPage where
  matched := found
  truncated := decide (reason = .matchLimit ∨ reason = .deadline)
  scrollbackTotal := description.total
  cols := description.cols
  gridEpoch := description.gridEpoch
  scannedStartRow
  scannedEndRow
  historyFloor := historyFloorFor description scannedStartRow
  nextBeforeRow
  stopReason := reason

/-- How much of one session's grid a scan may read. -/
structure Bounds where
  beforeRow : Option Nat
  maxRows : Nat
  maxMatches : Nat

/-- What a page has gathered: its matches, the oldest row it reached, where it resumes, and whether
an occurrence was left out. -/
structure Gathered where
  matched : List Match
  scannedStartRow : Nat
  resumeAt : Nat
  suppressed : Bool

def matchOf (row : Nat) (text : String) (hit : Hit) : Match where
  row
  col := hit.col
  len := hit.len
  preview := previewOf text

def takeHits (maxMatches row : Nat) (text : String) : List Match → List Hit → List Match × Bool
  | found, [] => (found, false)
  | found, hit :: hits =>
    if found.length % 2 ^ 32 ≥ maxMatches then (found, true)
    else takeHits maxMatches row text (found ++ [matchOf row text hit]) hits

def takeRows (maxMatches : Nat) : Gathered → List (Nat × RowScan) → Gathered
  | gathered, [] => gathered
  | gathered, (row, scanned) :: rows =>
    let (found, overflows) := takeHits maxMatches row scanned.text gathered.matched scanned.hits
    if overflows then
      { matched := found, scannedStartRow := row, resumeAt := row, suppressed := true }
    else
      takeRows maxMatches { gathered with matched := found, scannedStartRow := row } rows

def readSlice (record : SearchRecord) (found : Matcher engine) (start last : Nat) :
    Except Refusal (List (Nat × RowScan)) :=
  ((List.range (last - start)).map fun below => last - 1 - below).mapM fun row =>
    match scanRow record found row with
    | none => .error (refuse "scrollback search row unavailable")
    | some scanned => .ok (row, scanned)

/-- The slices of a page: what is gathered when it stops, and why. A page needs no more slices than
it has rows. -/
def scanSlices (record : SearchRecord) (found : Matcher engine) (description : GridDescription)
    (bounds : Bounds) (expired : Nat → Bool) :
    Nat → (slice rowsScanned nextRow : Nat) → Gathered → Except Refusal (Gathered × StopReason)
  | 0, _, _, _, gathered => .ok (gathered, .complete)
  | fuel + 1, slice, rowsScanned, nextRow, gathered =>
    if nextRow = 0 then .ok (gathered, .complete)
    else if nextRow - 1 < description.retainedFloor then .ok (gathered, .complete)
    else if expired slice then .ok (gathered, .deadline)
    else
      let unfunded := bounds.maxRows - rowsScanned
      if unfunded = 0 then .ok (gathered, .rowLimit)
      else do
        let start := max (nextRow - min unfunded searchSliceRows) description.retainedFloor
        let rows ← readSlice record found start nextRow
        let rowsScanned := rowsScanned + rows.length
        let gathered := takeRows bounds.maxMatches { gathered with resumeAt := start } rows
        if gathered.matched.length % 2 ^ 32 ≥ bounds.maxMatches ∧
            (gathered.suppressed = false ∨ gathered.resumeAt > description.retainedFloor) then
          .ok (gathered, .matchLimit)
        else if gathered.resumeAt ≤ description.retainedFloor then .ok (gathered, .complete)
        else if rowsScanned ≥ bounds.maxRows then .ok (gathered, .rowLimit)
        else
          scanSlices record found description bounds expired fuel (slice + 1) rowsScanned
            gathered.resumeAt gathered

/-- One session's page, newest first. -/
def scan (engine : PatternEngine) (session : Option SearchRecord) (request : ScanQuery)
    (gridEpoch : String) (bounds : Bounds) (expired : Nat → Bool) : Except Refusal SearchPage := do
  let record ← Except.okOr session (refuse "session closed")
  let description ← describe record
  let newestExclusive := narrow (description.total + description.viewportRows)
  let scannedEnd := min (bounds.beforeRow.getD newestExclusive) newestExclusive
  if gridEpoch ≠ "" ∧ gridEpoch ≠ record.gridEpoch then
    .ok (intoValue description scannedEnd scannedEnd .epochChanged none [])
  else if request.query = "" then .ok (intoValue description 0 0 .complete none [])
  else
    let found ← Matcher.compile engine request
    let (gathered, reason) ← scanSlices record found description bounds expired (scannedEnd + 1) 0 0
      scannedEnd
      { matched := [], scannedStartRow := scannedEnd, resumeAt := scannedEnd, suppressed := false }
    let cursor := gathered.scannedStartRow
    let continues := decide (reason = .rowLimit ∨
      (reason = .matchLimit ∧ cursor > description.retainedFloor))
    .ok (intoValue description cursor scannedEnd reason
      (if continues then some cursor else none) gathered.matched)

end Roost.Search
