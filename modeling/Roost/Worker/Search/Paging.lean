-- SUMMARY: What the pages of a search return together.
import Roost.Worker.Search.Pages

/-!
# Paging a search

A caller asks for the newest page and then for the page before each cursor it is handed. The walk
always ends. A cursor is exclusive, so a page that is cut at a row gives up the rest of that row;
and a page that meets the cap at a slice's end says that it was truncated, whether or not anything
is left of its window.
-/

namespace Roost.Search

open Matcher

variable {engine : PatternEngine}

/-- What a caller keeps asking with. -/
structure SearchCall where
  record : SearchRecord
  request : ScanQuery
  gridEpoch : String
  maxRows : Nat
  maxMatches : Nat

open SearchCall

/-- The page before a cursor, with the deadlines its slices see. -/
def SearchCall.page (engine : PatternEngine) (call : SearchCall) (beforeRow : Option Nat)
    (expired : Nat → Bool) : Except Refusal SearchPage :=
  scan engine (some call.record) call.request call.gridEpoch
    { beforeRow, maxRows := call.maxRows, maxMatches := call.maxMatches } expired

/-- Pages asked for one after another until one names no cursor, none of them stopped by its
deadline. -/
inductive Walk (engine : PatternEngine) (call : SearchCall) : Option Nat → List SearchPage → Prop
  | last {beforeRow : Option Nat} {expired : Nat → Bool} {page : SearchPage}
      (hpage : call.page engine beforeRow expired = .ok page) (hstop : page.stopReason ≠ .deadline)
      (hnext : page.nextBeforeRow = none) : Walk engine call beforeRow [page]
  | more {beforeRow : Option Nat} {expired : Nat → Bool} {page : SearchPage} {next : Nat}
      {pages : List SearchPage}
      (hpage : call.page engine beforeRow expired = .ok page) (hstop : page.stopReason ≠ .deadline)
      (hnext : page.nextBeforeRow = some next) (hrest : Walk engine call (some next) pages) :
      Walk engine call beforeRow (page :: pages)

def queryMatches (engine : PatternEngine) (record : SearchRecord) (request : ScanQuery) (row : Nat) :
    List Match :=
  if request.query = "" then []
  else match compile engine request with
  | .error _ => []
  | .ok found => matchesIn record found row

/-- The matches of a grid, newest row first: down from the last viewport row to the oldest line. -/
def allMatches (engine : PatternEngine) (record : SearchRecord) (request : ScanQuery) : List Match :=
  match record.scrollbackOrigin with
  | none => []
  | some origin =>
    gather (queryMatches engine record request) origin
      (saturate64 (origin + record.scrollbackCount) + record.rows)

/-- Rows that divide into pages: windows that hold fewer matches than the cap, or more, and then
exactly as many as the cap in their first slices. -/
inductive Divides (rowMatches : Nat → List Match) (floor maxRows maxMatches : Nat) : Nat → Prop
  | done {last : Nat} (h : last ≤ floor) : Divides rowMatches floor maxRows maxMatches last
  | window {last : Nat} (hrows : floor < last)
      (hfew : (gather rowMatches (windowEnd floor maxRows last) last).length < maxMatches)
      (hrest : Divides rowMatches floor maxRows maxMatches (windowEnd floor maxRows last)) :
      Divides rowMatches floor maxRows maxMatches last
  | slices {last : Nat} (slices : Nat) (hrows : floor < last)
      (hpre : ∀ earlier < slices,
        (gather rowMatches (sliceEnd floor maxRows last earlier) last).length < maxMatches)
      (hfull : (gather rowMatches (sliceEnd floor maxRows last slices) last).length = maxMatches)
      (hmore : maxMatches < (gather rowMatches (windowEnd floor maxRows last) last).length)
      (hrest : Divides rowMatches floor maxRows maxMatches (sliceEnd floor maxRows last slices)) :
      Divides rowMatches floor maxRows maxMatches last

/-- A page says that it was truncated exactly when its window holds a match it did not return. -/
def SearchPage.MarksTruncation (rowMatches : Nat → List Match) (floor maxRows : Nat)
    (page : SearchPage) : Prop :=
  page.truncated = true ↔
    page.matched ≠ gather rowMatches (windowEnd floor maxRows page.scannedEndRow) page.scannedEndRow

/-! ## One page -/

variable {found : Matcher engine} {desc : GridDescription} {record : SearchRecord}

theorem scanSlices_unexpired
    {bounds : Bounds} {expired : Nat → Bool}
    {fuel slice rowsScanned next : Nat} {gathered page : Gathered} {reason : StopReason}
    (h : scanSlices record found desc bounds expired fuel slice rowsScanned next gathered =
      .ok (page, reason)) (hstop : reason ≠ .deadline) :
    scanSlices record found desc bounds (fun _ => false) fuel slice rowsScanned next gathered =
      .ok (page, reason) := by
  induction fuel generalizing slice rowsScanned next gathered with
  | zero => exact h
  | succ fuel ih =>
    rw [scanSlices] at h ⊢
    by_cases hzero : next = 0
    · rwa [if_pos hzero] at h ⊢
    rw [if_neg hzero] at h ⊢
    by_cases hfloor : next - 1 < desc.retainedFloor
    · rwa [if_pos hfloor] at h ⊢
    rw [if_neg hfloor] at h ⊢
    by_cases hexpired : expired slice = true
    · rw [if_pos hexpired] at h
      cases h
      exact absurd rfl hstop
    rw [if_neg hexpired] at h
    rw [if_neg Bool.false_ne_true]
    by_cases hfunded : bounds.maxRows - rowsScanned = 0
    · simp only [if_pos hfunded] at h ⊢
      exact h
    simp only [if_neg hfunded, Except.bind_eq_ok] at h ⊢
    obtain ⟨rows, hrows, h⟩ := h
    refine ⟨rows, hrows, ?_⟩
    split at h
    · next hcap => rwa [if_pos hcap]
    rename_i hcap
    rw [if_neg hcap]
    split at h
    · next hbottom => rwa [if_pos hbottom]
    rename_i hbottom
    rw [if_neg hbottom]
    split at h
    · next hspent => rwa [if_pos hspent]
    rename_i hspent
    rw [if_neg hspent]
    exact ih h

theorem scanRow_isSome
    (hdescribe : describe record = .ok desc) {row : Nat}
    (hfloor : desc.retainedFloor ≤ row) (hrow : row < narrow (desc.total + desc.viewportRows)) :
    (scanRow record found row).isSome = true := by
  cases horigin : record.scrollbackOrigin with
  | none => simp [describe, horigin] at hdescribe
  | some origin =>
    simp only [describe, horigin, Except.ok.injEq] at hdescribe
    subst hdescribe
    simp only [narrow] at hfloor hrow
    have hheld : origin ≤ row := by omega
    rw [scanRow, Option.isSome_map, rowSpans, horigin]
    simp only [bind, Option.bind, if_neg (Nat.not_lt.mpr hheld)]
    split
    · rfl
    · rw [if_neg (by omega)]
      rfl

def cursorOf (floor : Nat) (page : Gathered) (reason : StopReason) : Option Nat :=
  if reason = .rowLimit ∨ (reason = .matchLimit ∧ page.scannedStartRow > floor) then
    some page.scannedStartRow
  else none

section
variable {call : SearchCall} {desc : GridDescription} {found : Matcher engine}

/-- What a caller of a search is promised to have: a grid that is read, the live epoch or none, and
budgets. -/
structure SearchCall.Answered (call : SearchCall) (description : GridDescription) : Prop where
  described : describe call.record = .ok description
  epoch : call.gridEpoch = "" ∨ call.gridEpoch = call.record.gridEpoch
  rows : 1 ≤ call.maxRows
  cap : 1 ≤ call.maxMatches
  wide : call.maxMatches ≤ u32Max

def askedEnd (description : GridDescription) (beforeRow : Option Nat) : Nat :=
  min (beforeRow.getD (narrow (description.total + description.viewportRows)))
    (narrow (description.total + description.viewportRows))

theorem SearchCall.Answered.page_eq (h : call.Answered desc) (hquery : call.request.query ≠ "")
    (hfound : Matcher.compile engine call.request = .ok found) (beforeRow : Option Nat) :
    ∃ page reason, call.page engine beforeRow (fun _ => false) =
        .ok (intoValue desc page.scannedStartRow (askedEnd desc beforeRow) reason
          (cursorOf desc.retainedFloor page reason) page.matched) ∧
      PageFrom (matchesIn call.record found) desc.retainedFloor call.maxRows call.maxMatches
        (askedEnd desc beforeRow) page reason := by
  have hepoch : ¬(call.gridEpoch ≠ "" ∧ call.gridEpoch ≠ call.record.gridEpoch) := by
    rcases h.epoch with hepoch | hepoch <;> simp [hepoch]
  obtain ⟨page, reason, hslices, hpage⟩ := scanSlices_start
    { beforeRow, maxRows := call.maxRows, maxMatches := call.maxMatches }
    (fun row hfloor hrow => scanRow_isSome h.described hfloor
      (Nat.lt_of_lt_of_le hrow (Nat.min_le_right _ _)))
    h.wide h.cap h.rows
  refine ⟨page, reason, ?_, hpage⟩
  simp only [SearchCall.page, scan, Except.okOr, h.described, bind, Except.bind, if_neg hepoch,
    if_neg hquery, hfound]
  rw [hslices]
  simp only [cursorOf, decide_eq_true_eq]
  rfl

theorem SearchCall.page_unexpired {beforeRow : Option Nat} {expired : Nat → Bool} {page : SearchPage}
    (h : call.page engine beforeRow expired = .ok page) (hstop : page.stopReason ≠ .deadline) :
    call.page engine beforeRow (fun _ => false) = .ok page := by
  simp only [SearchCall.page, scan, Except.bind_eq_ok] at h ⊢
  obtain ⟨record, hrec, desc, hdescribe, h⟩ := h
  refine ⟨record, hrec, desc, hdescribe, ?_⟩
  split at h
  · next hepoch =>
    rw [if_pos hepoch]
    exact h
  rename_i hepoch
  rw [if_neg hepoch]
  split at h
  · next hquery =>
    rw [if_pos hquery]
    exact h
  rename_i hquery
  rw [if_neg hquery]
  rw [Except.bind_eq_ok] at h ⊢
  obtain ⟨found, hfound, h⟩ := h
  refine ⟨found, hfound, ?_⟩
  rw [Except.bind_eq_ok] at h ⊢
  obtain ⟨_, hslices, h⟩ := h
  cases h
  exact ⟨_, scanSlices_unexpired hslices hstop, rfl⟩

end

/-! ## Dividing rows into pages -/

section
variable {rowMatches : Nat → List Match} {floor maxRows maxMatches last : Nat}

theorem divides_whole (hrows : floor < last)
    (hfew : (gather rowMatches (windowEnd floor maxRows last) last).length < maxMatches) :
    Divides rowMatches floor maxRows maxMatches last ↔
      Divides rowMatches floor maxRows maxMatches (windowEnd floor maxRows last) := by
  refine ⟨fun h => ?_, .window hrows hfew⟩
  cases h with
  | done hnone => exact absurd hrows (Nat.not_lt.mpr hnone)
  | window _ _ hrest => exact hrest
  | slices _ _ _ _ hmore => exact absurd hmore hfew.le.not_gt

theorem divides_filled {slices : Nat} (hrows : floor < last) (hpre : ∀ earlier < slices,
      (gather rowMatches (sliceEnd floor maxRows last earlier) last).length < maxMatches)
    (hfull : (gather rowMatches (sliceEnd floor maxRows last slices) last).length = maxMatches) :
    Divides rowMatches floor maxRows maxMatches last ↔
      maxMatches < (gather rowMatches (windowEnd floor maxRows last) last).length ∧
        Divides rowMatches floor maxRows maxMatches (sliceEnd floor maxRows last slices) := by
  constructor
  · intro h
    cases h with
    | done hnone => exact absurd hrows (Nat.not_lt.mpr hnone)
    | window _ hfew =>
      refine absurd hfew (Nat.not_lt.mpr ?_)
      rw [← hfull]
      exact length_gather_le (windowEnd_le_sliceEnd floor maxRows last slices)
    | slices slices' _ hpre' hfull' hmore hrest =>
      -- The first number of slices that meets the cap is one number.
      rcases Nat.lt_trichotomy slices slices' with hlt | rfl | hgt
      · exact absurd hfull (hpre' slices hlt).ne
      · exact ⟨hmore, hrest⟩
      · exact absurd hfull' (hpre slices' hgt).ne
  · rintro ⟨hmore, hrest⟩
    exact .slices slices hrows hpre hfull hmore hrest

theorem not_divides_cut {slices : Nat} (hrows : floor < last) (hpre : ∀ earlier < slices,
      (gather rowMatches (sliceEnd floor maxRows last earlier) last).length < maxMatches)
    (hover : maxMatches < (gather rowMatches (sliceEnd floor maxRows last slices) last).length) :
    ¬ Divides rowMatches floor maxRows maxMatches last := by
  intro h
  cases h with
  | done hnone => exact absurd hrows (Nat.not_lt.mpr hnone)
  | window _ hfew =>
    exact absurd (hover.trans_le
      (length_gather_le (windowEnd_le_sliceEnd floor maxRows last slices))) hfew.le.not_gt
  | slices slices' _ _ hfull' =>
    rcases Nat.lt_or_ge slices' slices with hlt | hge
    · exact absurd hfull' (hpre slices' hlt).ne
    have hle : (gather rowMatches (sliceEnd floor maxRows last slices) last).length ≤
        (gather rowMatches (sliceEnd floor maxRows last slices') last).length :=
      length_gather_le (sliceEnd_anti floor maxRows last hge)
    omega

end

/-! ## The walk -/

theorem sublists_eq {α : Type} {a a' b b' : List α} (ha : a.Sublist a') (hb : b.Sublist b')
    (h : a ++ b = a' ++ b') : a = a' ∧ b = b' := by
  have hlen := congrArg List.length h
  rw [List.length_append, List.length_append] at hlen
  have hla := ha.length_le
  have hlb := hb.length_le
  exact ⟨ha.eq_of_length (by omega), hb.eq_of_length (by omega)⟩

section
variable {call : SearchCall} {rowMatches : Nat → List Match} {floor last : Nat}
  {beforeRow : Option Nat} {page : SearchPage}

/-- A walk from a row and everything it is known for. -/
structure Paged (engine : PatternEngine) (call : SearchCall) (rowMatches : Nat → List Match)
    (floor last : Nat) (beforeRow : Option Nat) (pages : List SearchPage) : Prop where
  walk : Walk engine call beforeRow pages
  only : ∀ pages', Walk engine call beforeRow pages' → pages' = pages
  caps : ∀ page ∈ pages, page.matched.length ≤ call.maxMatches ∧
    page.scannedEndRow - page.scannedStartRow ≤ call.maxRows
  order : (pages.flatMap (·.matched)).Sublist (gather rowMatches floor last)
  finds : (pages.flatMap (·.matched) = gather rowMatches floor last ∧
      ∀ page ∈ pages, page.MarksTruncation rowMatches floor call.maxRows) ↔
    Divides rowMatches floor call.maxRows call.maxMatches last

theorem Paged.stop (hpage : call.page engine beforeRow (fun _ => false) = .ok page)
    (hstop : page.stopReason ≠ .deadline) (hnext : page.nextBeforeRow = none)
    (hcaps : page.matched.length ≤ call.maxMatches ∧
      page.scannedEndRow - page.scannedStartRow ≤ call.maxRows)
    (horder : page.matched.Sublist (gather rowMatches floor last))
    (hfinds : (page.matched = gather rowMatches floor last ∧
      page.MarksTruncation rowMatches floor call.maxRows) ↔
        Divides rowMatches floor call.maxRows call.maxMatches last) :
    Paged engine call rowMatches floor last beforeRow [page] where
  walk := .last hpage hstop hnext
  only := by
    intro pages' hwalk
    cases hwalk with
    | last hpage' hstop' =>
      cases hpage.symm.trans (page_unexpired hpage' hstop')
      rfl
    | more hpage' hstop' hnext' =>
      cases hpage.symm.trans (page_unexpired hpage' hstop')
      exact absurd (hnext.symm.trans hnext') (Option.some_ne_none _).symm
  caps := List.forall_mem_singleton.mpr hcaps
  order := by
    rw [List.flatMap_singleton]
    exact horder
  finds := by
    rw [List.flatMap_singleton, List.forall_mem_singleton]
    exact hfinds

theorem Paged.more {next : Nat} {rest : List SearchPage}
    (hpage : call.page engine beforeRow (fun _ => false) = .ok page)
    (hstop : page.stopReason ≠ .deadline) (hnext : page.nextBeforeRow = some next)
    (hcaps : page.matched.length ≤ call.maxMatches ∧
      page.scannedEndRow - page.scannedStartRow ≤ call.maxRows)
    (hrest : Paged engine call rowMatches floor next (some next) rest)
    (hfloor : floor ≤ next) (hlast : next ≤ last)
    (horder : page.matched.Sublist (gather rowMatches next last))
    (hfinds : (page.matched = gather rowMatches next last ∧
      page.MarksTruncation rowMatches floor call.maxRows ∧
        Divides rowMatches floor call.maxRows call.maxMatches next) ↔
          Divides rowMatches floor call.maxRows call.maxMatches last) :
    Paged engine call rowMatches floor last beforeRow (page :: rest) where
  walk := .more hpage hstop hnext hrest.walk
  only := by
    intro pages' hwalk
    cases hwalk with
    | last hpage' hstop' hnext' =>
      cases hpage.symm.trans (page_unexpired hpage' hstop')
      exact absurd (hnext'.symm.trans hnext) (Option.some_ne_none _).symm
    | more hpage' hstop' hnext' hrest' =>
      cases hpage.symm.trans (page_unexpired hpage' hstop')
      cases hnext.symm.trans hnext'
      rw [hrest.only _ hrest']
  caps := List.forall_mem_cons.mpr ⟨hcaps, hrest.caps⟩
  order := by
    rw [List.flatMap_cons, gather_append hfloor hlast]
    exact horder.append hrest.order
  finds := by
    rw [List.flatMap_cons, List.forall_mem_cons, gather_append hfloor hlast, ← hfinds,
      ← hrest.finds]
    constructor
    · rintro ⟨hall, hmarks, hmarksRest⟩
      obtain ⟨hown, hthen⟩ := sublists_eq horder hrest.order hall
      exact ⟨hown, hmarks, hthen, hmarksRest⟩
    · rintro ⟨hown, hmarks, hthen, hmarksRest⟩
      exact ⟨by rw [hown, hthen], hmarks, hmarksRest⟩

end

section
variable {call : SearchCall} {desc : GridDescription} {found : Matcher engine}
  {rowMatches : Nat → List Match} {matched : List Match} {next : Option Nat}

theorem marks_of_whole {floor maxRows start last : Nat}
    {reason : StopReason}
    (hreason : reason = .complete ∨ reason = .rowLimit)
    (hwhole : matched = gather rowMatches (windowEnd floor maxRows last) last) :
    (intoValue desc start last reason next matched).MarksTruncation rowMatches floor maxRows := by
  refine ⟨fun htrunc => ?_, fun hmiss => absurd hwhole hmiss⟩
  rcases hreason with rfl | rfl <;> exact absurd htrunc (by simp [intoValue])

theorem marks_of_capped {floor maxRows start last : Nat}
    :
    (intoValue desc start last .matchLimit next matched).MarksTruncation rowMatches floor
      maxRows ↔ matched ≠ gather rowMatches (windowEnd floor maxRows last) last := by
  constructor
  · intro h
    exact h.mp rfl
  · intro hmiss
    exact ⟨fun _ => hmiss, fun _ => rfl⟩

/-- The walk from any row of the grid. -/
theorem SearchCall.Answered.paged (h : call.Answered desc) (hquery : call.request.query ≠ "")
    (hfound : compile engine call.request = .ok found) (last : Nat)
    (beforeRow : Option Nat) (hlast : askedEnd desc beforeRow = last) :
    ∃ pages, Paged engine call (matchesIn call.record found) desc.retainedFloor last
      beforeRow pages := by
  induction last using Nat.strongRecOn generalizing beforeRow with
  | ind last ih =>
    obtain ⟨gathered, reason, hpage, hcase⟩ := h.page_eq hquery hfound beforeRow
    have hnewest : last ≤ narrow (desc.total + desc.viewportRows) :=
      hlast ▸ Nat.min_le_right _ _
    rw [hlast] at hpage hcase
    -- The walk from a cursor below.
    have hbelow : ∀ next < last, ∃ pages, Paged engine call (matchesIn call.record found)
        desc.retainedFloor next (some next) pages := by
      intro next hnext
      exact ih next hnext (some next) (Nat.min_eq_left (hnext.le.trans hnewest))
    have hwindow : last - windowEnd desc.retainedFloor call.maxRows last ≤ call.maxRows := by
      unfold windowEnd
      omega
    have hfloorEnd : desc.retainedFloor ≤
        windowEnd desc.retainedFloor call.maxRows last := Nat.le_max_right _ _
    cases hcase with
    | empty resumeAt hnone =>
      refine ⟨_, .stop hpage (by simp [intoValue]) (by simp [intoValue, cursorOf]) ?_ ?_ ?_⟩
      · exact ⟨Nat.zero_le _, by simp [intoValue]⟩
      · exact List.nil_sublist _
      · refine iff_of_true ⟨(gather_of_le hnone).symm, marks_of_whole (.inl rfl) ?_⟩ (.done hnone)
        exact (gather_of_le (hnone.trans hfloorEnd)).symm
    | whole hrows hfew =>
      have hcaps : (gather (matchesIn call.record found)
          (windowEnd desc.retainedFloor call.maxRows last) last).length ≤ call.maxMatches ∧
            last - windowEnd desc.retainedFloor call.maxRows last ≤ call.maxRows :=
        ⟨hfew.le, hwindow⟩
      by_cases hbottom : windowEnd desc.retainedFloor call.maxRows last ≤ desc.retainedFloor
      · have hend : windowEnd desc.retainedFloor call.maxRows last =
          desc.retainedFloor := Nat.le_antisymm hbottom hfloorEnd
        rw [if_pos hbottom] at hpage
        refine ⟨_, .stop hpage (by simp [intoValue]) (by simp [intoValue, cursorOf]) hcaps ?_ ?_⟩
        · show (gather _ _ _).Sublist _
          rw [hend]
        refine iff_of_true ⟨?_, marks_of_whole (.inl rfl) rfl⟩
          ((divides_whole hrows hfew).mpr (.done hbottom))
        show gather _ _ _ = _
        rw [hend]
      rw [if_neg hbottom] at hpage
      have hdown : windowEnd desc.retainedFloor call.maxRows last < last := by
        have := h.rows
        unfold windowEnd at hbottom ⊢
        omega
      obtain ⟨_, hrest⟩ := hbelow _ hdown
      refine ⟨_, .more hpage (by simp [intoValue]) (by simp [intoValue, cursorOf]) hcaps hrest
        hfloorEnd hdown.le (List.Sublist.refl _) ?_⟩
      rw [divides_whole hrows hfew]
      exact ⟨fun hall => hall.2.2, fun hrest => ⟨rfl, marks_of_whole (.inr rfl) rfl, hrest⟩⟩
    | filled slices hrows hpre hfull =>
      have hend := windowEnd_le_sliceEnd desc.retainedFloor call.maxRows last slices
      have hdown : sliceEnd desc.retainedFloor call.maxRows last slices < last := by
        by_contra hge
        rw [gather_of_le (Nat.not_lt.mp hge)] at hfull
        exact absurd h.cap (hfull ▸ Nat.not_succ_le_zero 0)
      have hcaps : (gather (matchesIn call.record found)
          (sliceEnd desc.retainedFloor call.maxRows last slices) last).length ≤ call.maxMatches ∧
          last - sliceEnd desc.retainedFloor call.maxRows last slices ≤ call.maxRows :=
        ⟨hfull.le, (Nat.sub_le_sub_left hend last).trans hwindow⟩
      by_cases hbottom : desc.retainedFloor < sliceEnd desc.retainedFloor call.maxRows last slices
      · obtain ⟨_, hrest⟩ := hbelow _ hdown
        refine ⟨_, .more hpage (by simp [intoValue]) (by simp [intoValue, cursorOf, hbottom]) hcaps
          hrest hbottom.le hdown.le (List.Sublist.refl _) ?_⟩
        rw [divides_filled hrows hpre hfull, marks_of_capped]
        have hmore := gather_ne_iff (f := matchesIn call.record found) hend hdown.le
        rw [hfull] at hmore
        exact ⟨fun hall => ⟨hmore.mp hall.2.1, hall.2.2⟩,
          fun hall => ⟨rfl, hmore.mpr hall.1, hall.2⟩⟩
      have hat : sliceEnd desc.retainedFloor call.maxRows last slices = desc.retainedFloor :=
        Nat.le_antisymm (Nat.not_lt.mp hbottom) (hfloorEnd.trans hend)
      have hwind : windowEnd desc.retainedFloor call.maxRows last =
          desc.retainedFloor := Nat.le_antisymm (hend.trans hat.le) hfloorEnd
      refine ⟨_, .stop hpage (by simp [intoValue]) (by simp [intoValue, cursorOf, hbottom])
        hcaps ?_ (iff_of_false ?_ ?_)⟩
      · show (gather _ _ _).Sublist _
        rw [hat]
      · rintro ⟨-, hmarks⟩
        refine marks_of_capped.mp hmarks ?_
        rw [hat, hwind]
      intro hdiv
      have hmore := ((divides_filled hrows hpre hfull).mp hdiv).1
      rw [hwind, ← hat, hfull] at hmore
      exact absurd hmore (Nat.lt_irrefl _)
    | cut slices row hrows hpre hover hrow hrowLast hcut hprefix hcap =>
      have hend := (windowEnd_le_sliceEnd desc.retainedFloor call.maxRows last slices).trans hrow
      have hcaps : ∀ {matched : List Match}, matched.length = call.maxMatches →
          matched.length ≤ call.maxMatches ∧ last - row ≤ call.maxRows := fun hlen =>
        ⟨hlen.le, (Nat.sub_le_sub_left hend last).trans hwindow⟩
      -- What is cut off at the row is in no page.
      have hlost : ∀ {matched : List Match}, matched.length = call.maxMatches →
          matched ≠ gather (matchesIn call.record found) row last := by
        rintro matched hlen rfl
        exact absurd hcut (hlen ▸ Nat.lt_irrefl _)
      have hnever := not_divides_cut hrows hpre hover
      by_cases hbottom : row ≤ desc.retainedFloor
      · have hat : row = desc.retainedFloor :=
          Nat.le_antisymm hbottom (hfloorEnd.trans hend)
        rw [if_pos hbottom] at hpage
        refine ⟨_, .stop hpage (by simp [intoValue]) (by simp [intoValue, cursorOf]) (hcaps hcap)
          ?_ (iff_of_false ?_ hnever)⟩
        · exact hat ▸ hprefix.sublist
        · rintro ⟨hall, -⟩
          exact hlost hcap (hat ▸ hall)
      · rw [if_neg hbottom] at hpage
        obtain ⟨_, hrest⟩ := hbelow row hrowLast
        refine ⟨_, .more hpage (by simp [intoValue])
          (by simp [intoValue, cursorOf, Nat.not_le.mp hbottom]) (hcaps hcap) hrest
          (hfloorEnd.trans hend) hrowLast.le hprefix.sublist (iff_of_false ?_ hnever)⟩
        rintro ⟨hall, -⟩
        exact hlost hcap hall

theorem divides_of_nothing {floor maxRows maxMatches : Nat} (hrows : 1 ≤ maxRows)
    (hcap : 1 ≤ maxMatches) (last : Nat) : Divides (fun _ => []) floor maxRows maxMatches last := by
  induction last using Nat.strongRecOn with
  | ind last ih =>
    rcases Nat.lt_or_ge floor last with hheld | hnone
    · have hdown : windowEnd floor maxRows last < last := by
        unfold windowEnd
        omega
      have hnothing : gather (fun _ => ([] : List Match)) (windowEnd floor maxRows last) last = [] :=
        gather_eq_nil.mpr fun _ _ _ => rfl
      refine .window hheld ?_ (ih _ hdown)
      rw [hnothing]
      exact hcap
    · exact .done hnone

theorem SearchCall.Answered.paged_all (h : call.Answered desc)
    (hquery : call.request.query = "" ∨ ∃ found, compile engine call.request = .ok found) :
    ∃ pages, Paged engine call (queryMatches engine call.record call.request)
      desc.retainedFloor (narrow (desc.total + desc.viewportRows)) none pages := by
  by_cases hempty : call.request.query = ""
  · have hnothing : queryMatches engine call.record call.request = fun _ => [] := by
      funext row
      rw [queryMatches, if_pos hempty]
    have hepoch : ¬(call.gridEpoch ≠ "" ∧ call.gridEpoch ≠ call.record.gridEpoch) := by
      rcases h.epoch with hepoch | hepoch <;> simp [hepoch]
    have hpage : call.page engine none (fun _ => false) =
        .ok (intoValue desc 0 0 .complete none []) := by
      simp only [page, scan, Except.okOr, h.described, bind, Except.bind, if_neg hepoch,
        if_pos hempty]
    have hgather : ∀ lo hi, gather (fun _ => ([] : List Match)) lo hi = [] := fun lo hi =>
      gather_eq_nil.mpr fun _ _ _ => rfl
    rw [hnothing]
    refine ⟨_, .stop hpage (by simp [intoValue]) (by simp [intoValue]) ?_ (List.nil_sublist _) ?_⟩
    · exact ⟨Nat.zero_le _, Nat.zero_le _⟩
    · refine iff_of_true ⟨(hgather _ _).symm, ?_⟩ (divides_of_nothing h.rows h.cap _)
      exact marks_of_whole (.inl rfl) (hgather _ _).symm
  · obtain ⟨found, hfound⟩ := hquery.resolve_left hempty
    have hmatches : queryMatches engine call.record call.request = matchesIn call.record found := by
      funext row
      rw [queryMatches, if_neg hempty, hfound]
    rw [hmatches]
    exact h.paged hempty hfound _ none (Nat.min_self _)

theorem queryMatches_outside {record : SearchRecord} {request : ScanQuery} {origin row : Nat}
    (horigin : record.scrollbackOrigin = some origin)
    (hout : row < origin ∨ saturate64 (origin + record.scrollbackCount) + record.rows ≤ row) :
    queryMatches engine record request row = [] := by
  have hnone : rowSpans record row = none := by
    rw [rowSpans, horigin]
    simp only [bind, Option.bind]
    rcases hout with hbelow | habove
    · rw [if_pos hbelow]
    · split
      · rfl
      · rw [if_neg (by omega), if_pos (by omega)]
  unfold queryMatches
  split
  · rfl
  split
  · rfl
  · rw [matchesIn, scannedRow, scanRow, hnone]
    rfl

theorem allMatches_split (hdescribe : describe call.record = .ok desc) :
    ∃ beyond, allMatches engine call.record call.request =
        beyond ++ gather (queryMatches engine call.record call.request) desc.retainedFloor
          (narrow (desc.total + desc.viewportRows)) ∧ (beyond = [] ↔
        ∀ row, u32Max ≤ row → queryMatches engine call.record call.request row = []) := by
  cases horigin : call.record.scrollbackOrigin with
  | none => simp [describe, horigin] at hdescribe
  | some origin =>
    have hsat : origin ≤ 2 ^ 64 - 1 := by
      obtain ⟨_, -, heq⟩ := Option.map_eq_some_iff.mp horigin
      rw [← heq]
      exact Nat.min_le_right _ _
    simp only [describe, horigin, Except.ok.injEq] at hdescribe
    subst hdescribe
    let matchesOf := queryMatches engine call.record call.request
    let total := saturate64 (origin + call.record.scrollbackCount)
    have htotal : origin ≤ total := Nat.le_min.mpr ⟨Nat.le_add_right _ _, hsat⟩
    let top := narrow (narrow total + call.record.rows)
    have hbeyond : gather matchesOf (max origin top) (total + call.record.rows) = [] ↔
        ∀ row, u32Max ≤ row → matchesOf row = [] := by
      rw [gather_eq_nil]
      constructor
      · intro hnone row hrow
        by_cases hheld : origin ≤ row ∧ row < total + call.record.rows
        · have htop : top ≤ row := (Nat.min_le_right _ _).trans hrow
          exact hnone row (Nat.max_le.mpr ⟨hheld.1, htop⟩) hheld.2
        · refine queryMatches_outside horigin ?_
          show row < origin ∨ total + call.record.rows ≤ row
          omega
      · intro hnone row hrow hlast
        refine hnone row ?_
        simp only [top, narrow] at hrow
        omega
    refine ⟨_, ?_, hbeyond⟩
    simp only [allMatches, horigin]
    show gather matchesOf origin (total + call.record.rows) = _ ++ gather matchesOf (narrow origin) top
    rcases Nat.lt_or_ge origin u32Max with hlow | hhigh
    · have hfloor : narrow origin = origin := Nat.min_eq_left hlow.le
      have htop : origin ≤ top ∧ top ≤ total + call.record.rows := by
        simp only [top, narrow]
        omega
      rw [hfloor, Nat.max_eq_right htop.1]
      exact gather_append htop.1 htop.2
    · have hfloor : narrow origin = u32Max := Nat.min_eq_right hhigh
      have htop : top ≤ u32Max := Nat.min_le_right _ _
      rw [hfloor, gather_of_le htop, List.append_nil, Nat.max_eq_left (htop.trans hhigh)]

/-- Every walk over a grid ends, keeps to its budgets and returns matches newest row first and none
twice; it returns all of them and marks every truncation rightly exactly when no row beyond the
last row number matches and the rows below divide into pages. -/
theorem search_pages (engine : PatternEngine) (call : SearchCall) (description : GridDescription)
    (h : call.Answered description)
    (hquery : call.request.query = "" ∨ ∃ found, compile engine call.request = .ok found) :
    ∃ pages, Walk engine call none pages ∧
      (∀ pages', Walk engine call none pages' → pages' = pages) ∧
      (∀ page ∈ pages, page.matched.length ≤ call.maxMatches ∧
        page.scannedEndRow - page.scannedStartRow ≤ call.maxRows) ∧
      (pages.flatMap (·.matched)).Sublist (allMatches engine call.record call.request) ∧
      ((pages.flatMap (·.matched) = allMatches engine call.record call.request ∧
          ∀ page ∈ pages, page.MarksTruncation (queryMatches engine call.record call.request)
            description.retainedFloor call.maxRows) ↔
        (∀ row, u32Max ≤ row → queryMatches engine call.record call.request row = []) ∧
          Divides (queryMatches engine call.record call.request) description.retainedFloor
            call.maxRows call.maxMatches
            (narrow (description.total + description.viewportRows))) := by
  obtain ⟨pages, hpages⟩ := h.paged_all hquery
  obtain ⟨beyond, hall, hbeyond⟩ := allMatches_split h.described
  refine ⟨pages, hpages.walk, hpages.only, hpages.caps, ?_, ?_⟩
  · rw [hall]
    exact hpages.order.trans (List.sublist_append_right _ _)
  rw [hall, ← hbeyond, ← hpages.finds]
  constructor
  · rintro ⟨hfound, hmarks⟩
    have hboth : ([] : List Match) ++ pages.flatMap (·.matched) = _ := hfound
    obtain ⟨hnil, hreached⟩ := sublists_eq (List.nil_sublist beyond) hpages.order hboth
    exact ⟨hnil.symm, hreached, hmarks⟩
  · rintro ⟨hnil, hreached, hmarks⟩
    exact ⟨by rw [hnil, hreached, List.nil_append], hmarks⟩

end

/-! ## A match that no page returns -/

/-- No engine at all: a case-sensitive literal does without one. -/
def noEngine : PatternEngine where
  Pattern := Empty
  escape := fun query => query
  build := fun _ _ => none
  findIter := fun compiled => nomatch compiled

def plainCell (text : String) : Cell.CellSpan where
  text
  fg := 0
  bg := 0
  flags := 0
  fgRgb := none
  bgRgb := none
  columns := 1
  linkUri := none
  linkKey := none

/-- An `x` in the one line of history and one on the one row of the screen. -/
def twoRows : SearchRecord where
  discardedLineCount := some 0
  originBase := 0
  scrollbackCount := 1
  cols := 80
  rows := 1
  gridEpoch := "epoch"
  replayFloor := none
  scrollbackOffsetSpans := fun _ => [plainCell "x"]
  viewportRowSpans := fun _ => [plainCell "x"]

def oneAtATime (maxMatches : Nat) : SearchCall where
  record := twoRows
  request := { query := "x", regex := false, caseSensitive := true }
  gridEpoch := ""
  maxRows := 10
  maxMatches

def twoRowsDescription : GridDescription where
  gridEpoch := "epoch"
  retainedFloor := 0
  resizeReplayFloor := 0
  total := 1
  cols := 80
  viewportRows := 1

theorem oneAtATime_answered {maxMatches : Nat} (hcap : 1 ≤ maxMatches) (hwide : maxMatches ≤ u32Max) :
    (oneAtATime maxMatches).Answered twoRowsDescription where
  described := rfl
  epoch := .inl rfl
  rows := (by decide : 1 ≤ 10)
  cap := hcap
  wide := hwide

/-- The match of one of the two rows. -/
def rowMatch (row : Nat) : Match where
  row
  col := 0
  len := 1
  preview := "x"

/-- A page with room for both rows returns both, newest first. -/
theorem two_rows_are_walked : ∃ pages, Walk noEngine (oneAtATime 5) none pages ∧
      (∀ pages', Walk noEngine (oneAtATime 5) none pages' → pages' = pages) ∧
      pages.flatMap (·.matched) = [rowMatch 1, rowMatch 0] := by
  obtain ⟨pages, hwalk, honly, -⟩ := search_pages noEngine (oneAtATime 5) twoRowsDescription
    (oneAtATime_answered (by decide) (by decide)) (.inr ⟨.literal "x", rfl⟩)
  have hpage : (oneAtATime 5).page noEngine none (fun _ => false) =
      .ok (intoValue twoRowsDescription 0 2 .complete none [rowMatch 1, rowMatch 0]) := by
    decide
  have hwalked := honly [_] (.last hpage (by decide) rfl)
  refine ⟨pages, hwalk, honly, ?_⟩
  rw [← hwalked]
  rfl

/-- The only page of two matches asked for one at a time. -/
def onlyPage : SearchPage :=
  intoValue twoRowsDescription 0 2 .complete none [rowMatch 1]

theorem oneAtATime_page : (oneAtATime 1).page noEngine none (fun _ => false) = .ok onlyPage := by
  decide

/-- Not every walk returns every match. -/
theorem older_match_is_lost :
    ¬ ∀ (engine : PatternEngine) (call : SearchCall) (description : GridDescription),
      call.Answered description →
      (call.request.query = "" ∨ ∃ found, compile engine call.request = .ok found) →
      ∀ pages, Walk engine call none pages →
        pages.flatMap (·.matched) = allMatches engine call.record call.request := by
  intro h
  have hall := h noEngine (oneAtATime 1) twoRowsDescription
    (oneAtATime_answered (by decide) (by decide)) (.inr ⟨.literal "x", rfl⟩) [onlyPage]
    (.last oneAtATime_page (by decide) rfl)
  revert hall
  decide

end Roost.Search
