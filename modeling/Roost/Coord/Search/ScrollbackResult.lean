-- SUMMARY: What a worker may answer to a scrollback search.
import Roost.Worker.Search.Scan

/-!
# Answers to a scrollback search

A request is checked before it is sent, and an answer is held against two sets of rules: those of
the wire schema, which are about the page alone, and those of the request it answers.
-/

namespace Roost.Coord.Search

open Roost.Search

def searchIdMaxLength : Nat := 64

def queryMaxCodePoints : Nat := 256

/-- The longest grid epoch a page may name. -/
def gridEpochMaxLength : Nat := 64

/-- The most rows one page may scan. -/
def searchMaxRows : Nat := 4096

/-- The most matches one page may return. -/
def searchMaxMatches : Nat := 256

/-- The largest row index that survives a JSON round trip. -/
def maxSafeRow : Nat := 2 ^ 53 - 1

/-- The code units a browser counts a string by. -/
def utf16Length (text : String) : Nat :=
  (text.toList.map fun c => if c.val > 0xFFFF then 2 else 1).sum

/-- A request a worker may be asked. -/
structure ValidatedSearch where
  searchId : String
  gridEpoch : String
  query : String
  beforeRow : Option Nat
  maxRows : Nat
  maxMatches : Nat

def requireJsonSafeRow (value : Nat) (field : String) : Except String Unit :=
  if value > maxSafeRow then .error s!"{field} must be a nonnegative JSON-safe integer" else .ok ()

/-- Check one request, in the order the wire fields are declared. -/
def validateSearchRequest (searchId gridEpoch query : String) (maxRows maxMatches : Nat)
    (beforeRow : Option Nat) : Except String ValidatedSearch := do
  if ¬(1 ≤ searchId.length ∧ searchId.length ≤ searchIdMaxLength) then
    .error s!"scrollback search search_id must contain 1 to {searchIdMaxLength} characters"
  else if gridEpoch.length > gridEpochMaxLength then
    .error "scrollback search grid_epoch is too long"
  else if query.length > queryMaxCodePoints then
    .error ("scrollback search query must contain at most " ++
      s!"{queryMaxCodePoints} Unicode code points")
  else if ¬(1 ≤ maxRows ∧ maxRows ≤ searchMaxRows) then
    .error s!"scrollback search max_rows must be between 1 and {searchMaxRows}"
  else if ¬(1 ≤ maxMatches ∧ maxMatches ≤ searchMaxMatches) then
    .error s!"scrollback search max_matches must be between 1 and {searchMaxMatches}"
  else
    match beforeRow with
    | none => .ok { searchId, gridEpoch, query, beforeRow, maxRows, maxMatches }
    | some row => do
      requireJsonSafeRow row "scrollback search before_row"
      .ok { searchId, gridEpoch, query, beforeRow, maxRows, maxMatches }

variable (page : SearchPage)

/-- The values a page's fields may take, each read alone. -/
structure FieldsInRange : Prop where
  matched : page.matched.length ≤ searchMaxMatches
  previews : ∀ found ∈ page.matched, found.preview.length ≤ previewMaxCodePoints
  rows : ∀ found ∈ page.matched, found.row ≤ maxSafeRow
  epochNamed : page.gridEpoch ≠ ""
  epoch : utf16Length page.gridEpoch ≤ gridEpochMaxLength
  total : page.scrollbackTotal ≤ maxSafeRow
  colsPositive : 1 ≤ page.cols
  cols : page.cols ≤ u32Max
  start : page.scannedStartRow ≤ maxSafeRow
  stop : page.scannedEndRow ≤ maxSafeRow
  next : ∀ row ∈ page.nextBeforeRow, row ≤ maxSafeRow

theorem fieldsInRange_iff {page : SearchPage} : FieldsInRange page ↔
      page.matched.length ≤ searchMaxMatches ∧
      (∀ found ∈ page.matched, found.preview.length ≤ previewMaxCodePoints) ∧
      (∀ found ∈ page.matched, found.row ≤ maxSafeRow) ∧ page.gridEpoch ≠ "" ∧
      utf16Length page.gridEpoch ≤ gridEpochMaxLength ∧ page.scrollbackTotal ≤ maxSafeRow ∧
      1 ≤ page.cols ∧ page.cols ≤ u32Max ∧ page.scannedStartRow ≤ maxSafeRow ∧
      page.scannedEndRow ≤ maxSafeRow ∧ ∀ row ∈ page.nextBeforeRow, row ≤ maxSafeRow :=
  ⟨fun ⟨h1, h2, h3, h4, h5, h6, h7, h8, h9, h10, h11⟩ =>
      ⟨h1, h2, h3, h4, h5, h6, h7, h8, h9, h10, h11⟩,
    fun ⟨h1, h2, h3, h4, h5, h6, h7, h8, h9, h10, h11⟩ =>
      ⟨h1, h2, h3, h4, h5, h6, h7, h8, h9, h10, h11⟩⟩

instance : Decidable (FieldsInRange page) :=
  decidable_of_iff' _ fieldsInRange_iff

/-- The schema's own refinements: rules about the page alone. -/
def violatesSchema : Prop :=
  page.truncated ≠ decide (page.stopReason = .matchLimit ∨ page.stopReason = .deadline) ∨
  page.scannedStartRow > page.scannedEndRow ∨
  (∃ entry ∈ page.matched, entry.row < page.scannedStartRow ∨ entry.row ≥ page.scannedEndRow) ∨
  (page.stopReason = .rowLimit ∧ page.nextBeforeRow ≠ some page.scannedStartRow) ∨
  (page.nextBeforeRow.isSome = true ∧
    (¬(page.stopReason = .rowLimit ∨ page.stopReason = .matchLimit) ∨
      page.nextBeforeRow ≠ some page.scannedStartRow)) ∨
  (page.stopReason = .complete ∧ page.historyFloor = .none ∧ page.scannedStartRow ≠ 0)
  deriving Decidable

/-- Decode one worker's page against the wire schema alone. -/
def decodeWorkerSearchResult : Except String SearchPage :=
  if ¬FieldsInRange page ∨ violatesSchema page then .error "malformed scrollback search result"
  else .ok page

def scannedRows : Nat := page.scannedEndRow - page.scannedStartRow

def disagreesWithRequest (request : ValidatedSearch) : Prop :=
  page.matched.length > request.maxMatches ∨
  scannedRows page > request.maxRows ∨
  (∃ before ∈ request.beforeRow, page.scannedEndRow > before) ∨
  (page.stopReason = .rowLimit ∧ scannedRows page ≠ request.maxRows) ∨
  (page.stopReason = .matchLimit ∧ page.matched.length ≠ request.maxMatches) ∨
  (request.gridEpoch ≠ "" ∧ page.gridEpoch ≠ request.gridEpoch ∧
    -- an epoch change and a deadline that scanned nothing may name another epoch
    ¬(page.stopReason = .epochChanged ∨
      (page.stopReason = .deadline ∧ page.scannedStartRow = page.scannedEndRow)))
  deriving Decidable

/-- Decode one worker's answer to a request, or refuse it as malformed. -/
def parseWorkerSearchResult (request : ValidatedSearch) :
    Except String SearchPage := do
  let result ← decodeWorkerSearchResult page
  if disagreesWithRequest result request then .error "malformed scrollback search result"
  else .ok result

theorem decodeWorkerSearchResult_eq_ok {page result : SearchPage} :
    decodeWorkerSearchResult page = .ok result ↔
      FieldsInRange page ∧ ¬violatesSchema page ∧ page = result := by
  unfold decodeWorkerSearchResult
  rw [Except.ite_error_eq_ok, not_or, not_not, Except.ok.injEq, and_assoc]

theorem parseWorkerSearchResult_eq_ok {page result : SearchPage} {request : ValidatedSearch} :
    parseWorkerSearchResult page request = .ok result ↔
      FieldsInRange page ∧ ¬violatesSchema page ∧ ¬disagreesWithRequest page request ∧
        page = result := by
  simp only [parseWorkerSearchResult, Except.bind_eq_ok, decodeWorkerSearchResult_eq_ok,
    Except.ite_error_eq_ok, Except.ok.injEq]
  constructor
  · rintro ⟨_, ⟨hfields, hschema, rfl⟩, hagrees, rfl⟩
    exact ⟨hfields, hschema, hagrees, rfl⟩
  · rintro ⟨hfields, hschema, hagrees, rfl⟩
    exact ⟨page, ⟨hfields, hschema, rfl⟩, hagrees, rfl⟩

end Roost.Coord.Search
