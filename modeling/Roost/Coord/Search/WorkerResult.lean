-- SUMMARY: What a worker may answer to one batch of a global search.
import Roost.Coord.Search.Cursors
import Roost.Coord.Search.ScrollbackResult

/-!
# One worker's batch

A batch answer names each session it was asked for, in order, with a page or an error. It is held
against the positions and budgets that were asked; an entry that passes becomes the session's
outcome: its matches, why it is short, and where it resumes.
-/

namespace Roost.Coord.Search

open Roost.Search

/-- The most sessions one page may span. -/
def globalSearchMaxSessions : Nat := 32

def globalSearchRowsPerSession : Nat := 2048

def globalSearchMaxMatches : Nat := 256

/-- Zero asks for the most there is. -/
def requestedOrMaximum (requested maximum : Nat) : Nat :=
  if requested = 0 then maximum else min requested maximum

def normalizeGlobalSearchPageLimits (maxSessions maxRowsPerSession maxMatches : UInt32) :
    GlobalSearchPageLimits where
  maxSessions := requestedOrMaximum maxSessions.toNat globalSearchMaxSessions
  maxRowsPerSession := requestedOrMaximum maxRowsPerSession.toNat globalSearchRowsPerSession
  maxMatches := requestedOrMaximum maxMatches.toNat globalSearchMaxMatches

/-- A page's match cap divided across its sessions, the first ones taking the remainder. -/
def allocateGlobalSearchMatchLimits (totalMatches sessionCount : Nat) : List Nat :=
  if sessionCount ≥ 2 ^ 32 then []
  else
    (List.range sessionCount).map fun index =>
      totalMatches / sessionCount + if index < totalMatches % sessionCount then 1 else 0

inductive WorkerGlobalSearchError
  | sessionClosed
  | deadline
  | epochChanged
  | noTerminal
  | internal
  deriving DecidableEq

def WorkerGlobalSearchError.parse : String → Option WorkerGlobalSearchError
  | "session_closed" => some .sessionClosed
  | "deadline" => some .deadline
  | "epoch_changed" => some .epochChanged
  | "no_terminal" => some .noTerminal
  | "internal" => some .internal
  | _ => none

/-- One entry as the worker sent it. -/
structure RawEntry where
  sessionId : String
  /-- The page of a status `ok`, or the text of a status `error`. -/
  payload : SearchPage ⊕ String

/-- One session's answer inside a batch. -/
inductive WorkerGlobalSearchEntry
  | scanned (sessionId : String) (result : SearchPage)
  | failed (sessionId : String) (error : WorkerGlobalSearchError)

def WorkerGlobalSearchEntry.sessionId : WorkerGlobalSearchEntry → String
  | .scanned sessionId _ => sessionId
  | .failed sessionId _ => sessionId

def isAsciiHexDigit (c : Char) : Bool :=
  c.isDigit || ('a' ≤ c && c ≤ 'f') || ('A' ≤ c && c ≤ 'F')

/-- Five groups of hex digits, 8-4-4-4-12. -/
def isUuidShape (value : String) : Bool :=
  let groups := value.toList.splitOn '-'
  decide (groups.map List.length = [8, 4, 4, 4, 12]) &&
    groups.all fun group => group.all isAsciiHexDigit

def decodeEntry (raw : RawEntry) : Option WorkerGlobalSearchEntry :=
  if isUuidShape raw.sessionId = false then none
  else
    match raw.payload with
    | .inl page =>
      match decodeWorkerSearchResult page with
      | .error _ => none
      | .ok result => some (.scanned raw.sessionId result)
    | .inr wire => (WorkerGlobalSearchError.parse wire).map (.failed raw.sessionId)

/-- Decode a batch: at most a page of entries, no session twice. -/
def decodeGlobalSearchResult (raw : List RawEntry) : Option (List WorkerGlobalSearchEntry) :=
  if raw.length > globalSearchMaxSessions then none
  else if (raw.map RawEntry.sessionId).Nodup then raw.mapM decodeEntry
  else none

/-- Where a match lies, as a batch may name it once. -/
def matchIdentity (sessionId gridEpoch : String) (found : Match) :
    String × String × Nat × UInt32 × UInt32 :=
  (sessionId, gridEpoch, found.row, found.col, found.len)

def EpochMismatch (request : GlobalSearchSessionPosition) (result : SearchPage) : Prop :=
  request.gridEpoch ≠ "" ∧ result.gridEpoch ≠ request.gridEpoch
  deriving Decidable

def liesAbout (limits : GlobalSearchPageLimits) (request : GlobalSearchSessionPosition)
    (budget : Nat) (result : SearchPage) : Prop :=
  (request.gridEpoch = "" ∧ request.beforeRow.isSome = true) ∨
  scannedRows result > limits.maxRowsPerSession ∨
  (request.beforeRow.isSome = true ∧ ¬EpochMismatch request result ∧
    some result.scannedEndRow ≠ request.beforeRow) ∨
  (result.stopReason = .rowLimit ∧ scannedRows result ≠ limits.maxRowsPerSession) ∨
  (EpochMismatch request result ∧ result.stopReason ≠ .epochChanged ∧
    ¬(result.stopReason = .deadline ∧ scannedRows result = 0)) ∨
  result.matched.length > budget
  deriving Decidable

/-- Check the entries of a batch in order; `identities` and `matchCount` are those of the entries
before. -/
def checkEntries (limits : GlobalSearchPageLimits) (matchBudget : Nat) :
    List (String × String × Nat × UInt32 × UInt32) → Nat →
    List ((WorkerGlobalSearchEntry × GlobalSearchSessionPosition) × Nat) → Bool
  | _, _, [] => true
  | identities, matchCount, ((entry, request), budget) :: rest =>
    if entry.sessionId ≠ request.sessionId then false
    else
      match entry with
      | .failed _ _ => checkEntries limits matchBudget identities matchCount rest
      | .scanned sessionId result =>
        let named := result.matched.map (matchIdentity sessionId result.gridEpoch)
        if liesAbout limits request budget result then false
        else if ¬(named.Nodup ∧ ∀ identity ∈ named, identity ∉ identities) then false
        else if matchCount + result.matched.length > matchBudget then false
        else
          checkEntries limits matchBudget (identities ++ named)
            (matchCount + result.matched.length) rest

/-- Decode and check a batch answer against what was asked; `none` is a malformed batch. -/
def validateGlobalSearchGroupResult (raw : List RawEntry)
    (sessions : List GlobalSearchSessionPosition) (matchBudget : Nat)
    (limits : GlobalSearchPageLimits) : Option (List WorkerGlobalSearchEntry) := do
  let entries ← decodeGlobalSearchResult raw
  if entries.length ≠ sessions.length then none
  else
    let sessionBudgets := allocateGlobalSearchMatchLimits matchBudget sessions.length
    if checkEntries limits matchBudget [] 0 ((entries.zip sessions).zip sessionBudgets) then
      some entries
    else none

/-- Why a session's share of a page is short. -/
inductive GlobalSearchPartialReason
  | deadline
  | epochChanged
  | sessionClosed
  | malformedResult
  | matchLimit
  | historyEvicted
  | workerUnavailable
  deriving DecidableEq

/-- One match, as the response carries it. -/
structure GlobalSearchMatch where
  sessionId : String
  row : Nat
  col : UInt32
  len : UInt32
  preview : String
  gridEpoch : String
  deriving DecidableEq

/-- What one page did for one session. -/
structure GlobalSearchSessionOutcome where
  matched : List GlobalSearchMatch
  partialReason : Option GlobalSearchPartialReason
  continuation : Option GlobalSearchSessionPosition
  searched : Bool

/-- A session a page never reached. -/
def GlobalSearchSessionOutcome.unsearched (partialReason : Option GlobalSearchPartialReason)
    (continuation : Option GlobalSearchSessionPosition) : GlobalSearchSessionOutcome where
  matched := []
  partialReason
  continuation
  searched := false

def WorkerGlobalSearchError.partialReason : WorkerGlobalSearchError → GlobalSearchPartialReason
  | .deadline => .deadline
  | .epochChanged => .epochChanged
  | .sessionClosed => .sessionClosed
  | .noTerminal => .sessionClosed
  | .internal => .malformedResult

variable (session : GlobalSearchSessionPosition)

def projectMatch (result : SearchPage) (found : Match) :
    GlobalSearchMatch where
  sessionId := session.sessionId
  row := found.row
  col := found.col
  len := found.len
  preview := found.preview
  gridEpoch := result.gridEpoch

def resumeAfter (result : SearchPage) :
    Option GlobalSearchSessionPosition :=
  let unfloored := result.historyFloor = .none
  let epochMismatch := session.gridEpoch ≠ "" ∧ session.gridEpoch ≠ result.gridEpoch
  -- a page that scanned nothing where it was asked to start would repeat forever
  let stalled := ¬epochMismatch ∧ result.scannedEndRow = result.scannedStartRow ∧
    session.beforeRow = some result.scannedStartRow
  match result.stopReason with
  | .epochChanged => some { session with gridEpoch := "", beforeRow := none }
  | .rowLimit | .matchLimit =>
    if unfloored ∧ result.nextBeforeRow.isSome = true then
      some { session with gridEpoch := result.gridEpoch, beforeRow := result.nextBeforeRow }
    else none
  | .deadline =>
    if unfloored ∧ ¬stalled then
      if epochMismatch then some { session with gridEpoch := result.gridEpoch, beforeRow := none }
      else
        some { session with
          gridEpoch := result.gridEpoch
          beforeRow := some result.scannedStartRow }
    else none
  | .complete => none

def outcomeForSearchResult (result : SearchPage) :
    GlobalSearchSessionOutcome where
  matched := result.matched.map (projectMatch session result)
  partialReason :=
    match result.stopReason with
    | .epochChanged => some .epochChanged
    | .matchLimit => some .matchLimit
    | .deadline => some .deadline
    | _ => if result.historyFloor ≠ .none then some .historyEvicted else none
  continuation := resumeAfter session result
  searched := true

def outcomeForGlobalSearchEntry :
    WorkerGlobalSearchEntry → GlobalSearchSessionOutcome
  | .scanned _ result => outcomeForSearchResult session result
  | .failed _ error =>
    let partialReason := error.partialReason
    let stalledMalformed := partialReason = .malformedResult ∧ session.beforeRow.isSome = true
    { matched := []
      partialReason := some partialReason
      continuation :=
        if partialReason = .sessionClosed ∨ stalledMalformed then none else some session
      searched := true }

/-! ## What an accepted answer says -/

variable {limits : GlobalSearchPageLimits} {session : GlobalSearchSessionPosition}

inductive Answers (limits : GlobalSearchPageLimits) (session : GlobalSearchSessionPosition) :
    WorkerGlobalSearchEntry → Prop
  | scanned {result : SearchPage} {budget : Nat} (hfields : FieldsInRange result)
      (hschema : ¬violatesSchema result) (hlies : ¬liesAbout limits session budget result) :
    Answers limits session (.scanned session.sessionId result)
  | failed (error : WorkerGlobalSearchError) : Answers limits session (.failed session.sessionId error)

variable {entry : WorkerGlobalSearchEntry}

theorem Answers.sessionId_eq (h : Answers limits session entry) :
    entry.sessionId = session.sessionId := by
  cases h <;> rfl

theorem decodeEntry_schema {raw : RawEntry} {sid : String} {result : SearchPage}
    (h : decodeEntry raw = some (.scanned sid result)) :
    FieldsInRange result ∧ ¬violatesSchema result := by
  unfold decodeEntry at h
  split at h
  · cases h
  split at h
  · next page _ =>
    split at h
    · cases h
    rename_i hdec
    cases h
    obtain ⟨hfields, hschema, rfl⟩ := decodeWorkerSearchResult_eq_ok.mp hdec
    exact ⟨hfields, hschema⟩
  · next wire _ =>
    obtain ⟨_, _, herror⟩ := Option.map_eq_some_iff.mp h
    cases herror

variable {raw : List RawEntry} {entries : List WorkerGlobalSearchEntry}

theorem decodeGlobalSearchResult_eq_some : decodeGlobalSearchResult raw = some entries ↔
      raw.length ≤ globalSearchMaxSessions ∧ (raw.map RawEntry.sessionId).Nodup ∧
        List.Forall₂ (fun entry decoded => decodeEntry entry = some decoded) raw entries := by
  unfold decodeGlobalSearchResult
  split
  · next hmany => exact ⟨fun h => (nomatch h), fun h => absurd h.1 (Nat.not_le.mpr hmany)⟩
  rename_i hfew
  split
  · next hnd =>
    exact Option.mapM_eq_some.trans
      ⟨fun h => ⟨Nat.le_of_not_lt hfew, hnd, h⟩, fun h => h.2.2⟩
  · next hrep => exact ⟨fun h => (nomatch h), fun h => absurd h.2.1 hrep⟩

theorem decodeGlobalSearchResult_schema (h : decodeGlobalSearchResult raw = some entries)
    {sid : String} {result : SearchPage}
    (hmem : WorkerGlobalSearchEntry.scanned sid result ∈ entries) :
    FieldsInRange result ∧ ¬violatesSchema result := by
  obtain ⟨_, _, hdec⟩ := decodeGlobalSearchResult_eq_some.mp h
  obtain ⟨_, hindex, hentry⟩ := List.getElem_of_mem hmem
  have hraw := hdec.get (hdec.length_eq ▸ hindex) hindex
  exact decodeEntry_schema (hraw.trans (congrArg some hentry))

theorem checkEntries_passes {matchBudget : Nat}
    {identities : List (String × String × Nat × UInt32 × UInt32)} {matchCount : Nat}
    {asked : List ((WorkerGlobalSearchEntry × GlobalSearchSessionPosition) × Nat)}
    (h : checkEntries limits matchBudget identities matchCount asked = true)
    {budget : Nat} (hmem : ((entry, session), budget) ∈ asked) :
    entry.sessionId = session.sessionId ∧ ∀ sid result, entry = .scanned sid result →
        ¬liesAbout limits session budget result := by
  induction asked generalizing identities matchCount with
  | nil => exact absurd hmem List.not_mem_nil
  | cons head rest ih =>
    obtain ⟨⟨first, request⟩, share⟩ := head
    have hhead : first.sessionId = request.sessionId := by
      by_contra hother
      cases first <;> simp [checkEntries, hother] at h
    cases first with
    | failed =>
      simp only [checkEntries, hhead, ne_eq, not_true_eq_false, if_false] at h
      rcases List.mem_cons.mp hmem with heq | hrest
      · cases heq
        exact ⟨hhead, fun _ _ h => (nomatch h)⟩
      · exact ih h hrest
    | scanned =>
      simp only [checkEntries, hhead, ne_eq, not_true_eq_false, if_false,
        Bool.if_false_left, Bool.and_eq_true, Bool.not_eq_true', decide_eq_false_iff_not] at h
      obtain ⟨hhonest, _, _, hcheck⟩ := h
      rcases List.mem_cons.mp hmem with heq | hrest
      · cases heq
        refine ⟨hhead, fun _ _ heq => ?_⟩
        cases heq
        exact hhonest
      · exact ih hcheck hrest

theorem validateGlobalSearchGroupResult_answers
    {sessions : List GlobalSearchSessionPosition} {matchBudget : Nat}
    (h : validateGlobalSearchGroupResult raw sessions matchBudget limits = some entries) :
    List.Forall₂ (fun entry session => Answers limits session entry) entries sessions := by
  obtain ⟨decoded, hdec, h⟩ := Option.bind_eq_some_iff.mp h
  split at h
  · cases h
  rename_i hlen
  dsimp only at h
  split at h
  · next hcheck =>
    cases h
    rw [not_not] at hlen
    refine List.forall₂_iff_zip.mpr ⟨hlen, ?_⟩
    intro entry session hmem
    have hfew : sessions.length ≤ globalSearchMaxSessions := by
      obtain ⟨hfew, _, hall⟩ := decodeGlobalSearchResult_eq_some.mp hdec
      exact hlen ▸ hall.length_eq ▸ hfew
    have hshared : ((entries.zip sessions).zip
        (allocateGlobalSearchMatchLimits matchBudget sessions.length)).map Prod.fst =
          entries.zip sessions := by
      refine List.map_fst_zip ?_
      have hnarrow : ¬sessions.length ≥ 2 ^ 32 := by unfold globalSearchMaxSessions at hfew; omega
      rw [allocateGlobalSearchMatchLimits, if_neg hnarrow, List.length_map, List.length_range,
        List.length_zip]
      exact Nat.min_le_right _ _
    obtain ⟨⟨_, _⟩, hasked, rfl⟩ := List.mem_map.mp (hshared ▸ hmem)
    obtain ⟨hsame, hhonest⟩ := checkEntries_passes hcheck hasked
    cases entry with
    | failed sid error =>
      obtain rfl : sid = session.sessionId := hsame
      exact .failed error
    | scanned sid result =>
      obtain rfl : sid = session.sessionId := hsame
      obtain ⟨hfields, hschema⟩ :=
        decodeGlobalSearchResult_schema hdec (List.of_mem_zip hmem).1
      exact .scanned hfields hschema (hhonest _ result rfl)
  · cases h

/-- An entry that leaves its session where it was asked, though a page was spent on it. -/
def Stalls (session : GlobalSearchSessionPosition) : WorkerGlobalSearchEntry → Prop
  | .failed _ error =>
    session.beforeRow.isSome = true ∧ (error = .deadline ∨ error = .epochChanged)
  | .scanned _ result =>
    session.beforeRow.isSome = true ∧ result.stopReason = .matchLimit ∧
      result.historyFloor = .none ∧ result.nextBeforeRow = session.beforeRow

instance (session : GlobalSearchSessionPosition) (entry : WorkerGlobalSearchEntry) :
    Decidable (Stalls session entry) := by
  cases entry <;> dsimp only [Stalls] <;> infer_instance

end Roost.Coord.Search
