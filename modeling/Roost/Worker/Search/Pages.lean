-- SUMMARY: What one search page returns.
import Roost.Base.Downward
import Roost.Worker.Search.Scan

/-!
# What a page returns

From row `E` a page reads slices down to the end of its window. It returns the whole window when
that holds fewer matches than the cap, and otherwise stops in the first slice that brings it to the
cap: at the slice's end when the cap is met exactly there, and at the row that overflows it when
it is not.
-/

namespace Roost.Search

open List (append_assoc append_nil length_append length_map map_cons)

variable {engine : PatternEngine}

/-- The scan of one row, empty when the grid does not hold it. -/
def scannedRow (record : SearchRecord) (found : Matcher engine) (row : Nat) : RowScan :=
  (scanRow record found row).getD { text := "", hits := [] }

def matchesIn (record : SearchRecord) (found : Matcher engine) (row : Nat) : List Match :=
  (scannedRow record found row).hits.map (matchOf row (scannedRow record found row).text)

def windowEnd (floor maxRows last : Nat) : Nat := max (last - maxRows) floor

def sliceEnd (floor maxRows last slices : Nat) : Nat :=
  max (last - slices * searchSliceRows) (windowEnd floor maxRows last)

theorem windowEnd_le_sliceEnd (floor maxRows last slices : Nat) :
    windowEnd floor maxRows last ≤ sliceEnd floor maxRows last slices := le_max_right _ _

theorem sliceEnd_anti (floor maxRows last : Nat) {slices slices' : Nat} (h : slices ≤ slices') :
    sliceEnd floor maxRows last slices' ≤ sliceEnd floor maxRows last slices := by
  have hmul := Nat.mul_le_mul_right searchSliceRows h
  exact max_le_max (Nat.sub_le_sub_left hmul last) (le_refl _)

inductive PageFrom (rowMatches : Nat → List Match) (floor maxRows maxMatches last : Nat) :
    Gathered → StopReason → Prop
  | empty (resumeAt : Nat) (h : last ≤ floor) :
    PageFrom rowMatches floor maxRows maxMatches last
      { matched := [], scannedStartRow := last, resumeAt, suppressed := false } .complete
  | whole (hrows : floor < last)
      (hfew : (gather rowMatches (windowEnd floor maxRows last) last).length < maxMatches) :
    PageFrom rowMatches floor maxRows maxMatches last
      { matched := gather rowMatches (windowEnd floor maxRows last) last
        scannedStartRow := windowEnd floor maxRows last
        resumeAt := windowEnd floor maxRows last
        suppressed := false }
      (if windowEnd floor maxRows last ≤ floor then .complete else .rowLimit)
  | filled (slices : Nat) (hrows : floor < last)
      (hpre : ∀ earlier < slices,
        (gather rowMatches (sliceEnd floor maxRows last earlier) last).length < maxMatches)
      (hfull : (gather rowMatches (sliceEnd floor maxRows last slices) last).length = maxMatches) :
    PageFrom rowMatches floor maxRows maxMatches last
      { matched := gather rowMatches (sliceEnd floor maxRows last slices) last
        scannedStartRow := sliceEnd floor maxRows last slices
        resumeAt := sliceEnd floor maxRows last slices
        suppressed := false } .matchLimit
  | cut (slices row : Nat) (hrows : floor < last)
      (hpre : ∀ earlier < slices,
        (gather rowMatches (sliceEnd floor maxRows last earlier) last).length < maxMatches)
      (hover : maxMatches < (gather rowMatches (sliceEnd floor maxRows last slices) last).length)
      (hrow : sliceEnd floor maxRows last slices ≤ row) (hlast : row < last)
      (hcut : maxMatches < (gather rowMatches row last).length)
      {found : List Match} (hfound : found <+: gather rowMatches row last)
      (hcap : found.length = maxMatches) :
    PageFrom rowMatches floor maxRows maxMatches last
      { matched := found, scannedStartRow := row, resumeAt := row, suppressed := true }
      (if row ≤ floor then .complete else .matchLimit)

/-! ## Taking rows under the cap -/

theorem takeHits_fit {maxMatches row : Nat} {text : String} {found : List Match} {hits : List Hit}
    (hcap : maxMatches ≤ u32Max) (h : found.length + hits.length ≤ maxMatches) :
    takeHits maxMatches row text found hits = (found ++ hits.map (matchOf row text), false) := by
  induction hits generalizing found with
  | nil => rw [takeHits, List.map_nil, append_nil]
  | cons hit hits ih =>
    rw [List.length_cons] at h
    have hlt : found.length % 2 ^ 32 < maxMatches := by
      rw [Nat.mod_eq_of_lt (by unfold u32Max at hcap; omega)]
      omega
    rw [takeHits, if_neg (Nat.not_le.mpr hlt), ih (by simp; omega), append_assoc]
    rfl

theorem takeHits_overflow {maxMatches : Nat} (row : Nat) (text : String) {found : List Match}
    {hits : List Hit} (hcap : maxMatches ≤ u32Max) (hfound : found.length ≤ maxMatches)
    (h : maxMatches < found.length + hits.length) :
    ∃ taken, takeHits maxMatches row text found hits = (taken, true) ∧ taken.length = maxMatches ∧
      taken <+: found ++ hits.map (matchOf row text) := by
  induction hits generalizing found with
  | nil => exact absurd h (Nat.not_lt.mpr hfound)
  | cons hit hits ih =>
    have hmod : found.length % 2 ^ 32 = found.length :=
      Nat.mod_eq_of_lt (by unfold u32Max at hcap; omega)
    rw [takeHits, hmod]
    split
    · next hfull =>
      exact ⟨found, rfl, Nat.le_antisymm hfound hfull, List.prefix_append _ _⟩
    rename_i hroom
    rw [List.length_cons] at h
    have hroom : (found ++ [matchOf row text hit]).length ≤ maxMatches := by simp; omega
    have hover : maxMatches < (found ++ [matchOf row text hit]).length + hits.length := by
      simp
      omega
    obtain ⟨taken, htaken, hlen, hprefix⟩ := ih hroom hover
    refine ⟨taken, htaken, hlen, ?_⟩
    rwa [append_assoc] at hprefix

section
variable {record : SearchRecord} {found : Matcher engine} {maxMatches : Nat}

theorem readSlice_eq {start last : Nat}
    (h : ∀ row, start ≤ row → row < last → (scanRow record found row).isSome = true) :
    readSlice record found start last =
      .ok ((down start last).map fun row => (row, scannedRow record found row)) := by
  refine Except.mapM_eq_ok.mpr (List.forall₂_map_right_iff.mpr (List.forall₂_same.mpr ?_))
  intro row hmem
  obtain ⟨hstart, hlast⟩ := mem_down.mp hmem
  obtain ⟨_, hscann⟩ := Option.isSome_iff_exists.mp (h row hstart hlast)
  simp only [hscann, scannedRow, Option.getD_some]

theorem takeRows_fit {start last : Nat} {gathered : Gathered} (hcap : maxMatches ≤ u32Max)
    (h : gathered.matched.length + (gather (matchesIn record found) start last).length ≤ maxMatches) :
    takeRows maxMatches gathered
        ((down start last).map fun row => (row, scannedRow record found row)) = { gathered with
        matched := gathered.matched ++ gather (matchesIn record found) start last
        scannedStartRow := if start < last then start else gathered.scannedStartRow } := by
  induction last generalizing gathered with
  | zero =>
    rw [down_of_le (Nat.zero_le _), gather_of_le (Nat.zero_le _), append_nil]
    rfl
  | succ last ih =>
    rcases Nat.lt_or_ge last start with hlast | hlast
    · rw [down_of_le hlast, gather_of_le hlast, append_nil, if_neg (Nat.not_lt.mpr hlast)]
      rfl
    rw [gather_cons hlast, length_append] at h
    have hrow : gathered.matched.length + (scannedRow record found last).hits.length ≤ maxMatches := by
      simp only [matchesIn, length_map] at h
      omega
    rw [down_cons hlast, map_cons, takeRows, takeHits_fit hcap hrow]
    simp only [Bool.false_eq_true, if_false]
    rw [ih (by rw [length_append]; exact Nat.add_assoc _ _ _ ▸ h)]
    rw [gather_cons hlast, append_assoc, if_pos (Nat.lt_succ_of_le hlast)]
    congr 1
    split
    · rfl
    · next hge => exact Nat.le_antisymm (Nat.not_lt.mp hge) hlast

theorem takeRows_overflow {start last : Nat} (gathered : Gathered) (hcap : maxMatches ≤ u32Max)
    (hfound : gathered.matched.length ≤ maxMatches) (h : maxMatches <
      gathered.matched.length + (gather (matchesIn record found) start last).length) :
    ∃ row taken, start ≤ row ∧ row < last ∧ taken.length = maxMatches ∧
      taken <+: gathered.matched ++ gather (matchesIn record found) row last ∧
      maxMatches < gathered.matched.length + (gather (matchesIn record found) row last).length ∧
      takeRows maxMatches gathered
          ((down start last).map fun row => (row, scannedRow record found row)) =
        { matched := taken, scannedStartRow := row, resumeAt := row, suppressed := true } := by
  induction last generalizing gathered with
  | zero =>
    rw [gather_of_le (Nat.zero_le _)] at h
    exact absurd h (Nat.not_lt.mpr hfound)
  | succ last ih =>
    rcases Nat.lt_or_ge last start with hlast | hlast
    · rw [gather_of_le hlast] at h
      exact absurd h (Nat.not_lt.mpr hfound)
    rw [gather_cons hlast, length_append] at h
    have hlen : (matchesIn record found last).length = (scannedRow record found last).hits.length :=
      length_map _
    rw [down_cons hlast, map_cons, takeRows]
    rcases Nat.lt_or_ge maxMatches
      (gathered.matched.length + (matchesIn record found last).length) with hover | hfit
    · obtain ⟨taken, htaken, htak, hprefix⟩ :=
        takeHits_overflow last (scannedRow record found last).text hcap hfound (hlen ▸ hover)
      refine ⟨last, taken, hlast, Nat.lt_succ_self _, htak, ?_, ?_, ?_⟩
      · rw [gather_succ]
        exact hprefix
      · rw [gather_succ]
        exact hover
      · rw [htaken]
        rfl
    rw [takeHits_fit hcap (hlen ▸ hfit)]
    simp only [Bool.false_eq_true, if_false]
    let next : Gathered :=
      { gathered with
        matched := gathered.matched ++ matchesIn record found last, scannedStartRow := last }
    have hnext : next.matched.length = gathered.matched.length +
        (matchesIn record found last).length := length_append
    obtain ⟨row, taken, hstart, hrow, htak, hprefix, hcut, htaken⟩ :=
      ih next (hnext ▸ hfit) (by rw [hnext]; omega)
    simp only [next] at hprefix hcut
    simp only [length_append, append_assoc] at hprefix hcut
    refine ⟨row, taken, hstart, Nat.lt_succ_of_lt hrow, htak, ?_, ?_, htaken⟩
    · rw [gather_cons (Nat.le_of_lt hrow)]
      exact hprefix
    · rw [gather_cons (Nat.le_of_lt hrow), length_append]
      omega

end

/-! ## Slice after slice -/

theorem sliceEnd_succ {floor maxRows last slices : Nat}
    (hfloor : floor < sliceEnd floor maxRows last slices)
    (hbudget : last - sliceEnd floor maxRows last slices < maxRows) :
    max (sliceEnd floor maxRows last slices -
        min (maxRows - (last - sliceEnd floor maxRows last slices)) searchSliceRows) floor =
      sliceEnd floor maxRows last (slices + 1) := by
  unfold sliceEnd windowEnd searchSliceRows at *
  rw [Nat.add_mul]
  omega

theorem sliceEnd_succ_lt {floor maxRows last slices : Nat}
    (hfloor : floor < sliceEnd floor maxRows last slices)
    (hbudget : last - sliceEnd floor maxRows last slices < maxRows) :
    sliceEnd floor maxRows last (slices + 1) < sliceEnd floor maxRows last slices := by
  unfold sliceEnd windowEnd searchSliceRows at *
  rw [Nat.add_mul]
  omega

theorem sliceEnd_eq_windowEnd {floor maxRows last slices : Nat}
    (h : sliceEnd floor maxRows last slices ≤ floor ∨
      maxRows ≤ last - sliceEnd floor maxRows last slices) :
    sliceEnd floor maxRows last slices = windowEnd floor maxRows last := by
  unfold sliceEnd windowEnd at *
  omega

section
variable {record : SearchRecord} {found : Matcher engine} {desc : GridDescription}
  {bounds : Bounds} {last : Nat}

/-- From the head of any slice that has not met the cap, an unhurried page ends as one of its
cases. -/
theorem scanSlices_page (slice : Nat) {slices fuel next : Nat} {gathered : Gathered}
    (hread : ∀ row, desc.retainedFloor ≤ row → row < last →
      (scanRow record found row).isSome = true) (hcap : bounds.maxMatches ≤ u32Max)
    (hnext : next = sliceEnd desc.retainedFloor bounds.maxRows last slices)
    (hfloor : desc.retainedFloor < next) (hle : next ≤ last)
    (hbudget : last - next < bounds.maxRows)
    (hfew : ∀ earlier ≤ slices, (gather (matchesIn record found)
      (sliceEnd desc.retainedFloor bounds.maxRows last earlier) last).length < bounds.maxMatches)
    (hmatched : gathered.matched = gather (matchesIn record found) next last)
    (hsuppr : gathered.suppressed = false) (hfuel : next < fuel) :
    ∃ page reason, scanSlices record found desc bounds (fun _ => false) fuel slice
        (last - next) next gathered = .ok (page, reason) ∧
      PageFrom (matchesIn record found) desc.retainedFloor bounds.maxRows bounds.maxMatches
        last page reason := by
  let ends := sliceEnd desc.retainedFloor bounds.maxRows last
  let count (row : Nat) := (gather (matchesIn record found) row last).length
  have hlast : desc.retainedFloor < last := Nat.lt_of_lt_of_le hfloor hle
  induction fuel generalizing slices slice next gathered with
  | zero => exact absurd hfuel (Nat.not_lt_zero _)
  | succ fuel ih =>
    have hstart : max (next - min (bounds.maxRows - (last - next)) searchSliceRows)
        desc.retainedFloor = ends (slices + 1) := by
      rw [hnext] at hfloor hbudget ⊢
      exact sliceEnd_succ hfloor hbudget
    have hdown : ends (slices + 1) < next := by
      rw [hnext] at hfloor hbudget ⊢
      exact sliceEnd_succ_lt hfloor hbudget
    have hfloor' : desc.retainedFloor ≤ ends (slices + 1) :=
      (le_max_right _ _).trans (windowEnd_le_sliceEnd _ _ _ _)
    have hslice : readSlice record found (ends (slices + 1)) next = .ok _ :=
      readSlice_eq fun row hstart hrow => hread row (hfloor'.trans hstart) (hrow.trans_le hle)
    have hsplit : gather (matchesIn record found) (ends (slices + 1)) last =
        gathered.matched ++ gather (matchesIn record found) (ends (slices + 1)) next := by
      rw [hmatched]
      exact gather_append hdown.le hle
    have hlen : count (ends (slices + 1)) = gathered.matched.length +
        (gather (matchesIn record found) (ends (slices + 1)) next).length := by
      rw [← length_append, ← hsplit]
    have hroom : gathered.matched.length ≤ bounds.maxMatches := by
      rw [hmatched, hnext]
      exact (hfew slices (Nat.le_refl _)).le
    have hread' : last - next + (next - ends (slices + 1)) = last - ends (slices + 1) := by omega
    rw [scanSlices, if_neg (Nat.ne_of_gt (Nat.zero_lt_of_lt hfloor)), if_neg (by omega),
      if_neg Bool.false_ne_true]
    simp only [if_neg (Nat.sub_ne_zero_of_lt hbudget), hstart, hslice, bind, Except.bind,
      length_map, length_down, hread']
    rcases Nat.lt_or_ge bounds.maxMatches (count (ends (slices + 1))) with hover | hfit
    · -- The slice overflows the cap at one of its rows.
      have htakes := takeRows_overflow { gathered with resumeAt := ends (slices + 1) } hcap hroom
        (hlen ▸ hover)
      obtain ⟨row, taken, hstartRow, hrow, htaken, hprefix, hcut, htake⟩ := htakes
      have hrowLast : gather (matchesIn record found) row last =
          gathered.matched ++ gather (matchesIn record found) row next := by
        rw [hmatched]
        exact gather_append hrow.le hle
      have hpage := PageFrom.cut (slices + 1) row hlast
        (fun earlier h => hfew earlier (Nat.le_of_lt_succ h)) hover hstartRow (hrow.trans_le hle)
        (by rw [hrowLast, length_append]; exact hcut) (hrowLast ▸ hprefix) htaken
      have hmod : taken.length % 2 ^ 32 = bounds.maxMatches := by
        rw [htaken]
        exact Nat.mod_eq_of_lt (by unfold u32Max at hcap; omega)
      rw [htake]
      simp only [hmod, ge_iff_le, Nat.le_refl, true_and, Bool.true_eq_false, false_or]
      rcases Nat.lt_or_ge desc.retainedFloor row with habove | hbottom
      · rw [if_pos habove]
        rw [if_neg (Nat.not_le.mpr habove)] at hpage
        exact ⟨_, _, rfl, hpage⟩
      · rw [if_neg (Nat.not_lt.mpr hbottom), if_pos hbottom]
        rw [if_pos hbottom] at hpage
        exact ⟨_, _, rfl, hpage⟩
    have htake : takeRows bounds.maxMatches { gathered with resumeAt := ends (slices + 1) } _ = _ :=
      takeRows_fit hcap (hlen ▸ hfit)
    have hmod : (count (ends (slices + 1))) % 2 ^ 32 = count (ends (slices + 1)) :=
      Nat.mod_eq_of_lt (by unfold u32Max at hcap; omega)
    rw [htake]
    simp only [if_pos hdown, ← hsplit, hsuppr, true_or, and_true, ge_iff_le]
    rw [hmod]
    rcases Nat.lt_or_ge (count (ends (slices + 1))) bounds.maxMatches with hfewer | hfull
    · rw [if_neg (Nat.not_le.mpr hfewer)]
      have hwhole : ends (slices + 1) = windowEnd desc.retainedFloor bounds.maxRows last →
          PageFrom (matchesIn record found) desc.retainedFloor bounds.maxRows bounds.maxMatches last
            { matched := gather (matchesIn record found) (ends (slices + 1)) last
              scannedStartRow := ends (slices + 1), resumeAt := ends (slices + 1)
              suppressed := false }
            (if ends (slices + 1) ≤ desc.retainedFloor then .complete else .rowLimit) := by
        intro hend
        rw [hend] at hfewer ⊢
        exact .whole hlast hfewer
      rcases Nat.lt_or_ge desc.retainedFloor (ends (slices + 1)) with habove | hbottom
      · rw [if_neg (Nat.not_le.mpr habove)]
        rw [if_neg (Nat.not_le.mpr habove)] at hwhole
        rcases Nat.lt_or_ge (last - ends (slices + 1)) bounds.maxRows with hmore | hspent
        · rw [if_neg (Nat.not_le.mpr hmore)]
          have hends : ends (slices + 1) =
            sliceEnd desc.retainedFloor bounds.maxRows last (slices + 1) := rfl
          refine ih (slice + 1) hends habove (hdown.le.trans hle) hmore ?_ rfl rfl
            (Nat.lt_of_lt_of_le hdown (Nat.le_of_lt_succ hfuel))
          intro earlier hearlier
          rcases Nat.lt_or_ge earlier (slices + 1) with hlt | hge
          · exact hfew earlier (Nat.le_of_lt_succ hlt)
          · rw [Nat.le_antisymm hearlier hge]
            exact hfewer
        · rw [if_pos hspent]
          exact ⟨_, _, rfl, hwhole (sliceEnd_eq_windowEnd (.inr hspent))⟩
      · rw [if_pos hbottom]
        rw [if_pos hbottom] at hwhole
        exact ⟨_, _, rfl, hwhole (sliceEnd_eq_windowEnd (.inl hbottom))⟩
    · rw [if_pos hfull]
      exact ⟨_, _, rfl, .filled (slices + 1) hlast
        (fun earlier h => hfew earlier (Nat.le_of_lt_succ h)) (Nat.le_antisymm hfit hfull)⟩

theorem scanSlices_start (bounds : Bounds) (hread : ∀ row, desc.retainedFloor ≤ row → row < last →
      (scanRow record found row).isSome = true)
    (hwide : bounds.maxMatches ≤ u32Max) (hcap : 1 ≤ bounds.maxMatches) (hrows : 1 ≤ bounds.maxRows) :
    ∃ page reason, scanSlices record found desc bounds (fun _ => false) (last + 1) 0 0 last
        { matched := [], scannedStartRow := last, resumeAt := last, suppressed := false } =
          .ok (page, reason) ∧
      PageFrom (matchesIn record found) desc.retainedFloor bounds.maxRows bounds.maxMatches
        last page reason := by
  rcases Nat.lt_or_ge desc.retainedFloor last with hheld | hnone
  · have hfirst : last = sliceEnd desc.retainedFloor bounds.maxRows last 0 := by
      unfold sliceEnd windowEnd
      omega
    have hempty : ∀ earlier ≤ 0, (gather (matchesIn record found)
        (sliceEnd desc.retainedFloor bounds.maxRows last earlier) last).length <
          bounds.maxMatches := by
      intro earlier hearlier
      rw [Nat.le_zero.mp hearlier, ← hfirst, gather_of_le (Nat.le_refl _)]
      exact hcap
    have hbudget : last - last < bounds.maxRows := by
      rw [Nat.sub_self]
      exact hrows
    let begun : Gathered :=
      { matched := [], scannedStartRow := last, resumeAt := last, suppressed := false }
    have hmatched : begun.matched = gather (matchesIn record found) last last :=
      (gather_of_le (Nat.le_refl _)).symm
    have hpage := scanSlices_page 0 hread hwide hfirst hheld (Nat.le_refl _) hbudget hempty
      hmatched rfl (Nat.lt_succ_self _)
    rwa [Nat.sub_self] at hpage
  · refine ⟨_, .complete, ?_, .empty last hnone⟩
    rw [scanSlices]
    split
    · rfl
    · rw [if_pos (by omega)]

end

end Roost.Search
