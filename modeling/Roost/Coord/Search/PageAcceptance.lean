-- SUMMARY: The pages a worker's scan returns against the coordinator's rules.
import Roost.Coord.Search.ScrollbackResult
import Roost.Worker.Search.Paging

/-!
# Pages an honest worker sends

A scan's page keeps within the budgets of its request, whether it ran to the end, met a budget or
was stopped by its deadline. The coordinator takes every such page but those of one kind: a scan
that completes at a retained floor above row 0, and so names no edge of the history.
-/

namespace Roost.Search

open List (length_append mem_append)

variable {engine : PatternEngine} {record : SearchRecord} {matcher : Matcher engine}
  {desc : GridDescription} {bounds : Bounds} {last : Nat} {page : Gathered} {reason : StopReason}

/-- What a page read down from `last` keeps to. -/
structure Gathered.Fits (page : Gathered) (bounds : Bounds) (last : Nat) : Prop where
  reached : page.scannedStartRow ≤ last
  budget : last - page.scannedStartRow ≤ bounds.maxRows
  capped : page.matched.length ≤ bounds.maxMatches
  rows : ∀ found ∈ page.matched, page.scannedStartRow ≤ found.row ∧ found.row < last ∧
    found.preview.length ≤ previewMaxCodePoints

/-- A page that says it met a budget has met it exactly. -/
def Gathered.Met (page : Gathered) (bounds : Bounds) (last : Nat) (reason : StopReason) : Prop :=
  (reason = .rowLimit → last - page.scannedStartRow = bounds.maxRows) ∧
    (reason = .matchLimit → page.matched.length = bounds.maxMatches)

theorem mem_gather_matchesIn {start : Nat} {found : Match}
    (h : found ∈ gather (matchesIn record matcher) start last) : start ≤ found.row ∧
      found.row < last ∧ found.preview.length ≤ previewMaxCodePoints := by
  obtain ⟨_, hrow, hfound⟩ := List.mem_flatMap.mp h
  obtain ⟨_, -, rfl⟩ := List.mem_map.mp hfound
  refine ⟨(mem_down.mp hrow).1, (mem_down.mp hrow).2, ?_⟩
  rw [matchOf, previewOf, String.length_ofList]
  exact List.length_take_le _ _

/-- From any slice, whenever the deadline comes, a page stays within its budgets. -/
theorem scanSlices_fits (hread : ∀ row, desc.retainedFloor ≤ row → row < last →
      (scanRow record matcher row).isSome = true) (hwide : bounds.maxMatches ≤ u32Max)
    {expired : Nat → Bool} {fuel slice next : Nat} {gathered : Gathered}
    (hgather : gathered.Fits bounds last) (hnext : gathered.scannedStartRow = next)
    (h : scanSlices record matcher desc bounds expired fuel slice (last - next) next gathered =
      .ok (page, reason)) : page.Fits bounds last ∧ page.Met bounds last reason := by
  induction fuel generalizing slice next gathered with
  | zero =>
    cases h
    exact ⟨hgather, by simp, by simp⟩
  | succ fuel ih =>
    have hreached := hgather.reached
    have hbudget := hgather.budget
    rw [hnext] at hreached hbudget
    rw [scanSlices] at h
    split_ifs at h with hzero hfloor hexpect
    · cases h
      exact ⟨hgather, by simp, by simp⟩
    · cases h
      exact ⟨hgather, by simp, by simp⟩
    · cases h
      exact ⟨hgather, by simp, by simp⟩
    dsimp only at h
    split_ifs at h with hspent
    · cases h
      exact ⟨hgather, fun _ => hnext ▸ (by omega), by simp⟩
    generalize hstart : max (next - min (bounds.maxRows - (last - next)) searchSliceRows)
      desc.retainedFloor = start at h
    have hdown : start < next := by unfold searchSliceRows at hstart; omega
    have hlong : last - next + (next - start) = last - start := by omega
    rw [readSlice_eq fun row hlow hrow => hread row (by omega) (by omega)] at h
    simp only [bind, Except.bind, List.length_map, length_down, hlong] at h
    have hrows : ∀ row ≤ next, ∀ found ∈ gathered.matched ++
        gather (matchesIn record matcher) row next, row ≤ found.row ∧ found.row < last ∧
          found.preview.length ≤ previewMaxCodePoints := by
      intro row hrow found hfound
      rcases mem_append.mp hfound with hold | hnew
      · have hkept := hgather.rows found hold
        exact ⟨hrow.trans (hnext ▸ hkept.1), hkept.2⟩
      · have hgot := mem_gather_matchesIn hnew
        exact ⟨hgot.1, hgot.2.1.trans_le hreached, hgot.2.2⟩
    rcases Nat.lt_or_ge bounds.maxMatches (gathered.matched.length +
      (gather (matchesIn record matcher) start next).length) with hover | hfit
    · -- The slice overflows the cap at one of its rows, and the page stops there.
      obtain ⟨row, taken, hlow, hrow, hlen, hfirst, -, htake⟩ :=
        takeRows_overflow { gathered with resumeAt := start } hwide hgather.capped hover
      have hcut : Gathered.Fits ⟨taken, row, row, true⟩ bounds last :=
        ⟨by dsimp only; omega, by dsimp only; omega, hlen.le,
          fun found hfound => hrows row hrow.le found (hfirst.subset hfound)⟩
      have hfull : taken.length % 2 ^ 32 = bounds.maxMatches := by
        rw [hlen, Nat.mod_eq_of_lt (by unfold u32Max at hwide; omega)]
      rw [htake] at h
      simp only [hfull, ge_iff_le, le_refl, true_and, Bool.true_eq_false, false_or] at h
      split_ifs at h with habove hbottom
      · cases h
        exact ⟨hcut, by simp, fun _ => hlen⟩
      · cases h
        exact ⟨hcut, by simp, by simp⟩
      all_goals omega
    have htake : takeRows bounds.maxMatches { gathered with resumeAt := start } _ = _ :=
      takeRows_fit hwide hfit
    rw [htake, if_pos hdown] at h
    rw [← length_append] at hfit
    have hwhole : ∀ resumeAt suppressed, Gathered.Fits ⟨gathered.matched ++
        gather (matchesIn record matcher) start next, start, resumeAt, suppressed⟩ bounds last :=
      fun _ _ => ⟨by dsimp only; omega, by dsimp only; omega, hfit, hrows start hdown.le⟩
    split_ifs at h with hcap hbottom hout
    · cases h
      exact ⟨hwhole _ _, by simp, fun _ => hfit.antisymm (hcap.1.trans (Nat.mod_le _ _))⟩
    · cases h
      exact ⟨hwhole _ _, by simp, by simp⟩
    · cases h
      exact ⟨hwhole _ _, fun _ => by dsimp only; omega, by simp⟩
    · exact ih (hwhole _ _) rfl h

end Roost.Search

namespace Roost.Coord.Search

open Roost.Search

variable {call : SearchCall} {beforeRow : Option Nat} {searchId : String}
  {request : ValidatedSearch} {page : SearchPage} {desc : GridDescription}

theorem validateSearchRequest_ok {gridEpoch query : String} {maxRows maxMatches : Nat}
    (h : validateSearchRequest searchId gridEpoch query maxRows maxMatches beforeRow = .ok request) :
    request = ⟨searchId, gridEpoch, query, beforeRow, maxRows, maxMatches⟩ ∧
      maxMatches ≤ searchMaxMatches := by
  unfold validateSearchRequest at h
  split_ifs at h with hid hepoch hquery hrows hmatches
  refine ⟨?_, hmatches.2⟩
  cases beforeRow with
  | none => exact (Except.ok.inj h).symm
  | some =>
    obtain ⟨-, -, h⟩ := Except.bind_eq_ok.mp h
    exact (Except.ok.inj h).symm

theorem describe_ok {record : SearchRecord} (h : describe record = .ok desc) :
    desc.total ≤ u32Max ∧ desc.gridEpoch = record.gridEpoch := by
  unfold describe at h
  split at h
  · cases h
  · cases h
    exact ⟨min_le_right _ _, rfl⟩

/-- A grid whose own fields are in range. -/
structure Legible (desc : GridDescription) : Prop where
  epochNamed : desc.gridEpoch ≠ ""
  epoch : utf16Length desc.gridEpoch ≤ gridEpochMaxLength
  colsPositive : 1 ≤ desc.cols
  cols : desc.cols ≤ u32Max

/-- A complete page that starts above row 0 and names no edge of the history. -/
def endsUnnamed (page : SearchPage) : Prop :=
  page.stopReason = .complete ∧ page.historyFloor = .none ∧ page.scannedStartRow ≠ 0

theorem fitting_page_accepted_iff {gathered : Gathered} {bounds : Bounds} {last : Nat}
    {reason : StopReason} (hfits : gathered.Fits bounds last)
    (hmet : gathered.Met bounds last reason) (hlegible : Legible desc)
    (htotal : desc.total ≤ u32Max) (hcap : bounds.maxMatches ≤ searchMaxMatches)
    (hlast : last ≤ u32Max) (hbefore : ∀ before ∈ bounds.beforeRow, last ≤ before)
    {gridEpoch query : String}
    (hepoch : gridEpoch = "" ∨ desc.gridEpoch = gridEpoch ∨ reason = .epochChanged) :
    let page := intoValue desc gathered.scannedStartRow last reason
      (cursorOf desc.retainedFloor gathered reason) gathered.matched
    parseWorkerSearchResult page
        ⟨searchId, gridEpoch, query, bounds.beforeRow, bounds.maxRows, bounds.maxMatches⟩ = .ok page ↔
      ¬endsUnnamed page := by
  intro page
  have hsafe : last ≤ maxSafeRow := hlast.trans (by decide)
  have hstart : page.scannedStartRow ≤ maxSafeRow := hfits.reached.trans hsafe
  have hnext : ∀ row, page.nextBeforeRow = some row → row = page.scannedStartRow ∧
      (reason = .rowLimit ∨ reason = .matchLimit) := by
    intro row hrow
    simp only [page, intoValue, cursorOf] at hrow
    split at hrow
    · next hmore =>
      cases hrow
      exact ⟨rfl, hmore.imp_right And.left⟩
    · cases hrow
  rw [parseWorkerSearchResult_eq_ok]
  constructor
  · rintro ⟨-, hschema, -⟩ hends
    exact hschema (.inr (.inr (.inr (.inr (.inr hends)))))
  refine fun hnamed => ⟨⟨hfits.capped.trans hcap, fun found h => (hfits.rows found h).2.2,
    fun found h => (hfits.rows found h).2.1.le.trans hsafe, hlegible.epochNamed, hlegible.epoch,
    htotal.trans (by decide), hlegible.colsPositive, hlegible.cols, hstart, hsafe,
    fun row hrow => (hnext row hrow).1.trans_le hstart⟩, ?_, ?_, rfl⟩
  · rintro (h | h | ⟨entry, hmem, h⟩ | ⟨hreason, h⟩ | ⟨hsome, h⟩ | h)
    · exact h rfl
    · exact absurd hfits.reached (Nat.not_le.mpr h)
    · have hrow := hfits.rows entry hmem
      exact h.elim (Nat.not_lt.mpr hrow.1) (Nat.not_le.mpr hrow.2.1)
    · exact h (if_pos (.inl hreason))
    · obtain ⟨row, hrow⟩ := Option.isSome_iff_exists.mp hsome
      exact h.elim (fun hstop => hstop (hnext row hrow).2)
        fun hne => hne (hrow.trans (congrArg some (hnext row hrow).1))
    · exact hnamed h
  · rintro (h | h | ⟨before, hmem, h⟩ | ⟨hreason, h⟩ | ⟨hreason, h⟩ | ⟨hasked, hother, h⟩)
    · exact absurd hfits.capped (Nat.not_le.mpr h)
    · exact absurd hfits.budget (Nat.not_le.mpr h)
    · exact absurd (hbefore before hmem) (Nat.not_le.mpr h)
    · exact h (hmet.1 hreason)
    · exact h (hmet.2 hreason)
    · rcases hepoch with hany | hsame | hchanged
      · exact hasked hany
      · exact hother hsame
      · exact h (.inl hchanged)

/-- The coordinator takes the pages an honest worker sends. Whatever a validated request asks and
whenever its deadline comes, the page a scan returns is accepted for that request, unless it says
that it is complete, starts above row 0 and names no edge of the history. -/
theorem honest_page_accepted_iff (engine : PatternEngine) {expired : Nat → Bool}
    (hdescribe : describe call.record = .ok desc) (hlegible : Legible desc)
    (hvalid : validateSearchRequest searchId call.gridEpoch call.request.query call.maxRows
      call.maxMatches beforeRow = .ok request)
    (hpage : call.page engine beforeRow expired = .ok page) :
    parseWorkerSearchResult page request = .ok page ↔ ¬endsUnnamed page := by
  obtain ⟨rfl, hcap⟩ := validateSearchRequest_ok hvalid
  obtain ⟨htotal, hlive⟩ := describe_ok hdescribe
  let bounds : Bounds := ⟨beforeRow, call.maxRows, call.maxMatches⟩
  have hbegun : ∀ row, Gathered.Fits ⟨[], row, row, false⟩ bounds row := fun row =>
    ⟨le_rfl, by dsimp only; omega, Nat.zero_le _, by simp⟩
  have hasked : ∀ newest, ∀ before ∈ bounds.beforeRow,
      min (bounds.beforeRow.getD newest) newest ≤ before := by
    rintro newest before (hmem : beforeRow = some before)
    subst hmem
    exact min_le_left _ _
  simp only [SearchCall.page, scan, Except.okOr, bind, Except.bind, hdescribe, decide_eq_true_eq]
    at hpage
  split_ifs at hpage with hstale hempty
  · cases hpage
    have hmet : ∀ page last, Gathered.Met page bounds last .epochChanged :=
      fun _ _ => ⟨by simp, by simp⟩
    exact fitting_page_accepted_iff (hbegun _) (hmet _ _) hlegible htotal hcap
      ((min_le_right _ _).trans (min_le_right _ _)) (hasked _) (.inr (.inr rfl))
  all_goals
    have hepoch : call.gridEpoch = "" ∨ desc.gridEpoch = call.gridEpoch := by
      rw [hlive]
      tauto
  · cases hpage
    have hmet : ∀ page last, Gathered.Met page bounds last .complete :=
      fun _ _ => ⟨by simp, by simp⟩
    exact fitting_page_accepted_iff (hbegun 0) (hmet _ _) hlegible htotal hcap
      (Nat.zero_le _) (fun _ _ => Nat.zero_le _) (hepoch.imp_right .inl)
  split at hpage
  · cases hpage
  split at hpage
  · cases hpage
  rename_i hslices
  cases hpage
  have hfits := scanSlices_fits (fun row hfloor hrow => scanRow_isSome hdescribe hfloor
    (hrow.trans_le (min_le_right _ _))) (hcap.trans (by decide)) (hbegun _) rfl
    (by rwa [Nat.sub_self])
  exact fitting_page_accepted_iff hfits.1 hfits.2 hlegible htotal hcap
    ((min_le_right _ _).trans (min_le_right _ _)) (hasked _) (hepoch.imp_right .inl)

theorem honest_page_accepted_iff_onlyPage :
    parseWorkerSearchResult onlyPage ⟨"find", "", "x", none, 10, 1⟩ = .ok onlyPage ↔
      ¬endsUnnamed onlyPage :=
  honest_page_accepted_iff noEngine (oneAtATime_answered le_rfl (by decide)).described
    ⟨by decide, by decide, by decide, by decide⟩
    (rfl : validateSearchRequest "find" "" "x" 10 1 none = _) oneAtATime_page

end Roost.Coord.Search
