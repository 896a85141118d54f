-- SUMMARY: When a search page is delivered.
import Mathlib.Data.Finset.Card
import Roost.Base.Assoc
import Roost.Coord.Search.Page

/-!
# A page's matches arrive

The cursor owner holds a page's continuations against rules of its own. Whatever the workers
answered, the page's sessions are distinct, named by an epoch where they name a row, and counted,
so that one rule is left: a session a page was spent on must resume closer to the history floor.
-/

namespace Roost.Coord.Search

open List

open GlobalSearchCursorBinding GlobalSearchSessionOutcome PageStart

open Roost.Search

variable {limits : GlobalSearchPageLimits} {sess : GlobalSearchSessionPosition}

/-- A session resumes under its own id, and under an epoch where it names a row. -/
def Resumes (session position : GlobalSearchSessionPosition) : Prop :=
  position.sessionId = session.sessionId ∧
    (position.beforeRow.isSome = true → position.gridEpoch ≠ "")

def GlobalSearchSessionOutcome.continues (session position : GlobalSearchSessionPosition)
    (outcome : GlobalSearchSessionOutcome) : GlobalSearchContinuation where
  position
  searched := outcome.searched
  requestedBeforeRow := session.beforeRow

/-! ## What an outcome resumes -/

variable {budget : Nat} {result : SearchPage}

theorem not_epochMismatch
    (hlies : ¬liesAbout limits sess budget result) (hchange : result.stopReason ≠ .epochChanged)
    (hdead : result.stopReason ≠ .deadline) : ¬EpochMismatch sess result := by
  intro hmism
  exact hlies (.inr (.inr (.inr (.inr (.inl ⟨hmism, hchange, fun h => hdead h.1⟩)))))

theorem scannedEndRow_eq {before : Nat}
    (hlies : ¬liesAbout limits sess budget result) (hmatch : ¬EpochMismatch sess result)
    (hpre : sess.beforeRow = some before) : result.scannedEndRow = before := by
  by_contra hother
  refine hlies (.inr (.inr (.inl ⟨by rw [hpre]; rfl, hmatch, ?_⟩)))
  rw [hpre]
  exact fun h => hother (Option.some.inj h)

theorem resumeAfter_resumes {position : GlobalSearchSessionPosition}
    (hrows : 1 ≤ limits.maxRowsPerSession) (hfields : FieldsInRange result)
    (hschema : ¬violatesSchema result) (hlies : ¬liesAbout limits session budget result)
    (h : resumeAfter session result = some position) : Resumes session position ∧
      (((outcomeForSearchResult session result).continues session position).Stuck ↔
        Stalls session (.scanned session.sessionId result)) := by
  have hnamed := hfields.epochNamed
  have hord : result.scannedStartRow ≤ result.scannedEndRow :=
    Nat.le_of_not_lt fun h => hschema (.inr (.inl h))
  have hcursor : ∀ {row}, result.nextBeforeRow = some row → row = result.scannedStartRow := by
    intro row hrow
    by_contra hother
    refine hschema (.inr (.inr (.inr (.inr (.inl ⟨by rw [hrow]; rfl, .inr ?_⟩)))))
    rw [hrow]
    exact fun h => hother (Option.some.inj h)
  have hcap : result.stopReason = .rowLimit → scannedRows result = limits.maxRowsPerSession := by
    intro hstop
    by_contra hother
    exact hlies (.inr (.inr (.inr (.inl ⟨hstop, hother⟩))))
  unfold resumeAfter at h
  simp only at h
  simp only [GlobalSearchContinuation.Stuck, continues,
    outcomeForSearchResult, true_and, Stalls, Option.mem_def]
  cases hstop : result.stopReason with
  | complete => simp [hstop] at h
  | epochChanged =>
    simp only [hstop, Option.some.injEq] at h
    subst h
    simp [Resumes]
  | rowLimit =>
    simp only [hstop] at h
    split at h
    · next hmore =>
      cases h
      have hmatch := not_epochMismatch hlies (by rw [hstop]; simp) (by rw [hstop]; simp)
      refine ⟨⟨rfl, fun _ => hnamed⟩, ?_⟩
      constructor
      · rintro ⟨requested, hreq, resumed, hres, hle⟩
        -- a row-limited page scanned its whole budget
        have hstart := hcursor hres
        have hend := scannedEndRow_eq hlies hmatch hreq
        have hwide := hcap hstop
        unfold scannedRows at hwide
        omega
      · rintro ⟨_, h, _⟩
        cases h
    · cases h
  | matchLimit =>
    simp only [hstop] at h
    split at h
    · next hmore =>
      cases h
      obtain ⟨row, hrow⟩ := Option.isSome_iff_exists.mp hmore.2
      have hmatch := not_epochMismatch hlies (by rw [hstop]; simp) (by rw [hstop]; simp)
      refine ⟨⟨rfl, fun _ => hnamed⟩, ?_⟩
      constructor
      · rintro ⟨requested, hreq, resumed, hres, hle⟩
        have hstart := hcursor hres
        have hend := scannedEndRow_eq hlies hmatch hreq
        have hsame : resumed = requested := by omega
        exact ⟨by rw [hreq]; rfl, rfl, hmore.1, hres.trans (hsame ▸ hreq.symm)⟩
      · rintro ⟨hasked, _, _, hsame⟩
        obtain ⟨requested, hreq⟩ := Option.isSome_iff_exists.mp hasked
        exact ⟨requested, hreq, requested, hsame.trans hreq, Nat.le_refl _⟩
    · cases h
  | deadline =>
    simp only [hstop] at h
    split at h
    · next hmoved =>
      split at h
      · cases h
        simp [Resumes]
      rename_i hsame
      cases h
      have hmatch : ¬EpochMismatch session result := fun h => hsame ⟨h.1, Ne.symm h.2⟩
      refine ⟨⟨rfl, fun _ => hnamed⟩, ?_⟩
      constructor
      · rintro ⟨requested, hreq, resumed, hres, hle⟩
        have hend := scannedEndRow_eq hlies hmatch hreq
        cases hres
        have hnothing : result.scannedEndRow = result.scannedStartRow := by omega
        refine absurd ⟨hsame, hnothing, ?_⟩ hmoved.2
        rw [hreq, ← hend, hnothing]
      · rintro ⟨_, h, _⟩
        cases h
    · cases h

theorem Answers.resumes {entry : WorkerGlobalSearchEntry} (h : Answers limits session entry)
    (hrows : 1 ≤ limits.maxRowsPerSession)
    (hnamed : session.beforeRow.isSome = true → session.gridEpoch ≠ "") :
    (∀ position ∈ (outcomeForGlobalSearchEntry session entry).continuation,
      Resumes session position ∧
        (((outcomeForGlobalSearchEntry session entry).continues session position).Stuck ↔
          Stalls session entry)) ∧
    (Stalls session entry → (outcomeForGlobalSearchEntry session entry).continuation.isSome = true) := by
  cases h with
  | scanned hfields hschema hlies =>
    refine ⟨fun position hpos => resumeAfter_resumes hrows hfields hschema hlies hpos, ?_⟩
    rintro ⟨hasked, hstop, hfloor, hsame⟩
    simp only [outcomeForGlobalSearchEntry, outcomeForSearchResult, resumeAfter, hstop, hfloor,
      hsame, hasked, and_self, if_true, Option.isSome_some]
  | failed error =>
    constructor
    · intro position hpos
      simp only [outcomeForGlobalSearchEntry, Option.mem_def] at hpos
      split at hpos
      · cases hpos
      rename_i hgoes
      cases hpos
      refine ⟨⟨rfl, hnamed⟩, ?_⟩
      simp only [GlobalSearchContinuation.Stuck, continues,
        outcomeForGlobalSearchEntry, true_and, Stalls]
      rw [not_or] at hgoes
      constructor
      · rintro ⟨requested, hreq, -⟩
        have hasked : session.beforeRow.isSome = true := by rw [hreq]; rfl
        refine ⟨hasked, ?_⟩
        cases error with
        | deadline => exact .inl rfl
        | epochChanged => exact .inr rfl
        | sessionClosed | noTerminal => exact absurd rfl hgoes.1
        | internal => exact absurd ⟨rfl, hasked⟩ hgoes.2
      · rintro ⟨hasked, -⟩
        obtain ⟨requested, hreq⟩ := Option.isSome_iff_exists.mp hasked
        exact ⟨requested, hreq, requested, hreq, Nat.le_refl _⟩
    · rintro ⟨_, rfl | rfl⟩ <;> simp [outcomeForGlobalSearchEntry, WorkerGlobalSearchError.partialReason]

/-! ## What a page starts from -/

/-- The sessions of a page are distinct, named, within the page, each asked or closed, and counted
together with those scanned before. -/
structure PageStart.Sound (limits : GlobalSearchPageLimits) (start : PageStart) : Prop where
  distinct : (start.sessions.map (·.sessionId)).Nodup
  named : ∀ session ∈ start.sessions, session.beforeRow.isSome = true → session.gridEpoch ≠ ""
  within : start.sessions.length ≤ limits.maxSessions
  authorized : start.authorized ⊆ start.sessions
  placed : (start.authorized.map (·.sessionId) ++ start.closedSessionIds).Perm
    (start.sessions.map (·.sessionId))
  searchedOnce : start.searchedSessionIds.Nodup
  counted : (start.searchedSessionIds.toFinset ∪
    (start.sessions.map (·.sessionId)).toFinset).card ≤ start.eligibleSessions

/-- What a page makes of one of its sessions: its own position again, nothing more, or the outcome
of an accepted entry. -/
inductive PageStart.Settles (start : PageStart) (limits : GlobalSearchPageLimits)
    (workers : Workers) (session : GlobalSearchSessionPosition) : GlobalSearchSessionOutcome → Prop
  | unsearched (reason : Option GlobalSearchPartialReason)
      (continuation : Option GlobalSearchSessionPosition)
      (h : ∀ position ∈ continuation, position = session) :
    PageStart.Settles start limits workers session (.unsearched reason continuation)
  | accepted {group : OnlineGlobalSearchGroup} {entries : List WorkerGlobalSearchEntry}
      {entry : WorkerGlobalSearchEntry} (hgroup : group ∈ (start.grouped limits workers).1)
      (hacc : group.accepted limits (workers.reply group.workerFp) = some entries)
      (hentry : (entry, session) ∈ entries.zip group.sessions) :
    PageStart.Settles start limits workers session (outcomeForGlobalSearchEntry session entry)

def PageStart.Accepted (start : PageStart) (limits : GlobalSearchPageLimits) (workers : Workers)
    (session : GlobalSearchSessionPosition) (entry : WorkerGlobalSearchEntry) : Prop :=
  ∃ group ∈ (start.grouped limits workers).1, ∃ entries,
    group.accepted limits (workers.reply group.workerFp) = some entries ∧
      (entry, session) ∈ entries.zip group.sessions

theorem OnlineGlobalSearchGroup.accepted_answers {group : OnlineGlobalSearchGroup}
    {reply : GroupReply} {entries : List WorkerGlobalSearchEntry}
    (h : group.accepted limits reply = some entries) :
    List.Forall₂ (fun entry sess => Answers limits sess entry) entries group.sessions := by
  cases reply with
  | cancelled | unanswered => cases h
  | answered => exact validateGlobalSearchGroupResult_answers h

section
variable {start : PageStart} {workers : Workers} {entry : WorkerGlobalSearchEntry}

theorem PageStart.Accepted.answers
    (h : start.Accepted limits workers sess entry) : Answers limits sess entry := by
  obtain ⟨group, _, _, hacc, hentry⟩ := h
  exact forall₂_zip (group.accepted_answers hacc) hentry

variable (workers) in
/-- Grouping loses no outcome. -/
theorem PageStart.Sound.grouped (h : start.Sound limits) :
    ∃ retried : List (Option GlobalSearchPartialReason × GlobalSearchSessionPosition),
      (start.outcomes limits workers).Perm (start.settled limits workers ++
        (retried.map (fun retry => retries retry.1 retry.2) ++ start.closedSessionIds.map fun sid =>
            (sid, unsearched (some .sessionClosed) none))) ∧
      ((start.grouped limits workers).1.flatMap (·.sessions) ++ retried.map Prod.snd).Perm
        start.authorized := by
  have hdistinct : (start.authorized.map (·.sessionId)).Nodup :=
    (nodup_append.mp (h.placed.nodup_iff.mpr h.distinct)).1
  obtain ⟨retried, houtcome, hsessions⟩ :=
    groupOnlineGlobalSearchSessions_perm workers.routable
      (start.closedSessionIds.map fun sid => (sid, unsearched (some .sessionClosed) none)).reverse
      limits.maxMatches hdistinct
  refine ⟨retried, (reverse_perm _).append (houtcome.trans ?_), hsessions⟩
  exact (reverse_perm _).append_left _

variable (workers) in
theorem PageStart.Sound.outcomes_nodup (h : start.Sound limits) :
    ((start.outcomes limits workers).map Prod.fst).Nodup := by
  obtain ⟨_, houtcome, hsessions⟩ := h.grouped workers
  refine ((houtcome.map Prod.fst).nodup_iff).mpr ?_
  simp only [map_append, map_map]
  have hplaced := ((hsessions.map (·.sessionId)).append_right start.closedSessionIds).trans h.placed
  refine List.Nodup.sublist ?_ (hplaced.nodup_iff.mpr h.distinct)
  rw [map_append, append_assoc, map_map]
  refine .append ?_ (.append (.refl _) ?_)
  · rw [settled, map_flatMap, map_flatMap]
    generalize (start.grouped limits workers).1 = groups
    induction groups with
    | nil => exact .refl _
    | cons group rest ih => exact (searchWorkerGroup_keys limits group _).append ih
  · exact (map_id start.closedSessionIds).symm ▸ List.Sublist.refl _

variable {outcome : GlobalSearchSessionOutcome}

theorem PageStart.Sound.settles (h : start.Sound limits) {sid : String}
    (hmem : (sid, outcome) ∈ start.outcomes limits workers) :
    ∃ sess ∈ start.sessions, sess.sessionId = sid ∧ start.Settles limits workers sess outcome := by
  obtain ⟨_, houtcome, hsessions⟩ := h.grouped workers
  have hretry : ∀ reason : Option GlobalSearchPartialReason, ∀ sess ∈ start.authorized,
      (sid, outcome) = retries reason sess → ∃ sess ∈ start.sessions,
        sess.sessionId = sid ∧ start.Settles limits workers sess outcome := by
    rintro reason sess hsess heq
    cases heq
    exact ⟨sess, h.authorized hsess, rfl,
      .unsearched reason (some sess) fun pos hsame => (Option.some.inj hsame).symm⟩
  have hgroup : ∀ group ∈ (start.grouped limits workers).1, ∀ sess ∈ group.sessions,
      sess ∈ start.authorized := fun group hgroup sess hsess =>
    hsessions.subset (mem_append_left _ (mem_flatMap.mpr ⟨group, hgroup, hsess⟩))
  rcases mem_append.mp (houtcome.subset hmem) with hset | hrest
  · obtain ⟨group, hschedule, hset⟩ := mem_flatMap.mp hset
    have hevery : ∀ reason, (sid, outcome) ∈ group.everySession reason →
        ∃ sess ∈ start.sessions, sess.sessionId = sid ∧
          start.Settles limits workers sess outcome := by
      intro reason hmem
      obtain ⟨sess, hsess, heq⟩ := mem_map.mp hmem
      exact hretry _ sess (hgroup group hschedule sess hsess) heq.symm
    unfold searchWorkerGroup at hset
    split at hset
    · cases hset
    · exact hevery _ hset
    split at hset
    · exact hevery _ hset
    rename_i hacc
    obtain ⟨⟨_, sess⟩, hentry, heq⟩ := mem_map.mp hset
    cases heq
    have hsame := (forall₂_zip (group.accepted_answers hacc) hentry).sessionId_eq
    refine ⟨sess, ?_, hsame.symm, .accepted hschedule hacc hentry⟩
    exact h.authorized (hgroup group hschedule sess (of_mem_zip hentry).2)
  · rcases mem_append.mp hrest with hretr | hclosed
    · obtain ⟨⟨reason, sess⟩, hsess, heq⟩ := mem_map.mp hretr
      refine hretry reason sess (hsessions.subset (mem_append_right _ ?_)) heq.symm
      exact mem_map_of_mem hsess
    obtain ⟨_, hid, heq⟩ := mem_map.mp hclosed
    cases heq
    obtain ⟨sess, hsess, hid⟩ :=
      mem_map.mp (h.placed.subset (mem_append_right _ hid))
    exact ⟨sess, hsess, hid, .unsearched _ none fun _ h => (nomatch h)⟩

theorem PageStart.Sound.ordered (h : start.Sound limits)
    (hmem : (sess, outcome) ∈ start.ordered limits workers) :
    sess ∈ start.sessions ∧ start.Settles limits workers sess outcome := by
  obtain ⟨sess, hsess, heq⟩ := mem_map.mp hmem
  cases heq
  refine ⟨hsess, ?_⟩
  cases hlook : (start.outcomes limits workers).lookup sess.sessionId with
  | none => exact .unsearched _ none fun _ h => (nomatch h)
  | some =>
    obtain ⟨_, hother, hid, hsettled⟩ := h.settles (Assoc.mem_of_lookup hlook)
    exact inj_on_of_nodup_map h.distinct hother hsess hid ▸ hsettled

/-- An accepted entry is delivered. -/
theorem PageStart.Sound.accepted (h : start.Sound limits)
    (hacc : start.Accepted limits workers sess entry) :
    (sess, outcomeForGlobalSearchEntry sess entry) ∈ start.ordered limits workers := by
  obtain ⟨_, houtcome, hsessions⟩ := h.grouped workers
  have hsame := hacc.answers.sessionId_eq
  obtain ⟨group, hgroup, _, hacc, hentry⟩ := hacc
  have hmem : (entry.sessionId, outcomeForGlobalSearchEntry sess entry) ∈
      start.outcomes limits workers := by
    refine houtcome.symm.subset (mem_append_left _ (mem_flatMap.mpr ⟨group, hgroup, ?_⟩))
    unfold searchWorkerGroup
    split
    · next hreply => rw [hreply] at hacc; cases hacc
    · next hreply => rw [hreply] at hacc; cases hacc
    · rw [hacc]
      exact mem_map.mpr ⟨(entry, sess), hentry, rfl⟩
  have hlook := Assoc.lookup_of_mem (h.outcomes_nodup workers) hmem
  refine mem_map.mpr ⟨sess, ?_, by rw [← hsame, hlook]; rfl⟩
  exact h.authorized (hsessions.subset (mem_append_left _
    (mem_flatMap.mpr ⟨group, hgroup, (of_mem_zip hentry).2⟩)))

variable {ordered : List String} {bnd : GlobalSearchCursorBinding}

theorem mem_insertSearched {added other : String} :
    other ∈ insertSearched ordered added ↔ other ∈ ordered ∨ other = added := by
  unfold insertSearched
  split
  · next hseen => exact ⟨.inl, fun h => h.elim id fun heq => heq ▸ hseen⟩
  · rw [mem_append, mem_singleton]

theorem nodup_insertSearched (added : String) (h : ordered.Nodup) :
    (insertSearched ordered added).Nodup := by
  unfold insertSearched
  split
  · exact h
  rename_i hnew
  refine nodup_append.mpr ⟨h, nodup_singleton _, ?_⟩
  rintro seen hseen _ hadded rfl
  exact hnew (mem_singleton.mp hadded ▸ hseen)

variable (workers) in
theorem PageStart.Sound.searched (h : start.Sound limits) : (start.searched limits workers).Nodup ∧
      (start.searched limits workers).toFinset ⊆
        start.searchedSessionIds.toFinset ∪ (start.sessions.map (·.sessionId)).toFinset := by
  have hfold : ∀ (pairs : List (GlobalSearchSessionPosition × GlobalSearchSessionOutcome))
      (searched : List String), (∀ pair ∈ pairs, pair.1 ∈ start.sessions) → searched.Nodup →
      (∀ id ∈ searched, id ∈ start.searchedSessionIds ∨ id ∈ start.sessions.map (·.sessionId)) →
      (pairs.foldl (fun searched pair =>
        if pair.2.searched then insertSearched searched pair.1.sessionId else searched)
        searched).Nodup ∧
      ∀ id ∈ pairs.foldl (fun searched pair =>
        if pair.2.searched then insertSearched searched pair.1.sessionId else searched) searched,
        id ∈ start.searchedSessionIds ∨ id ∈ start.sessions.map (·.sessionId) := by
    intro pairs
    induction pairs with
    | nil => exact fun searched _ hnd hfrom => ⟨hnd, hfrom⟩
    | cons pair rest ih =>
      intro searched hpage hnd hfrom
      have hrest := fun pair hmem => hpage pair (mem_cons_of_mem _ hmem)
      rw [foldl_cons]
      split
      · refine ih _ hrest (nodup_insertSearched _ hnd) fun id hid => ?_
        rcases mem_insertSearched.mp hid with hold | rfl
        · exact hfrom id hold
        · exact .inr (mem_map_of_mem (hpage pair mem_cons_self))
      · exact ih searched hrest hnd hfrom
  have hall := hfold (start.ordered limits workers) start.searchedSessionIds
    (fun pair hmem => (h.ordered hmem).1) h.searchedOnce fun id hid => .inl hid
  refine ⟨hall.1, fun id hid => ?_⟩
  rw [Finset.mem_union, mem_toFinset, mem_toFinset]
  exact hall.2 id (mem_toFinset.mp hid)

theorem PageStart.Sound.continuation (h : start.Sound limits)
    (hrows : 1 ≤ limits.maxRowsPerSession) {continuation : GlobalSearchContinuation}
    (hmem : continuation ∈ start.continuations limits workers) :
    ∃ sess ∈ start.sessions, Resumes sess continuation.position ∧ (continuation.Stuck →
        ∃ entry, start.Accepted limits workers sess entry ∧ Stalls sess entry) := by
  obtain ⟨⟨sess, _⟩, hord, hsome⟩ := mem_filterMap.mp hmem
  obtain ⟨pos, hpos, rfl⟩ := Option.map_eq_some_iff.mp hsome
  obtain ⟨hsess, hsettled⟩ := h.ordered hord
  refine ⟨sess, hsess, ?_⟩
  cases hsettled with
  | unsearched reason other hretry =>
    obtain rfl := hretry pos hpos
    exact ⟨⟨rfl, h.named _ hsess⟩, fun hstuck => nomatch hstuck.1⟩
  | @accepted group entries entry hgroup hacc hentry =>
    have hpair : start.Accepted limits workers sess entry :=
      ⟨group, hgroup, entries, hacc, hentry⟩
    obtain ⟨hresume, hstuck⟩ :=
      (hpair.answers.resumes hrows (h.named _ hsess)).1 pos hpos
    exact ⟨hresume, fun h => ⟨entry, hpair, hstuck.mp h⟩⟩

theorem mem_unsearchedFirst {continuations : List GlobalSearchContinuation}
    {continuation : GlobalSearchContinuation} :
    continuation ∈ unsearchedFirst continuations ↔ continuation ∈ continuations := by
  unfold unsearchedFirst
  rw [mem_append, mem_filter, mem_filter]
  cases continuation.searched <;> simp

theorem unsearchedFirst_perm (continuations : List GlobalSearchContinuation) :
    (unsearchedFirst continuations).Perm continuations :=
  perm_append_comm.trans (filter_append_perm _ continuations)

variable (workers) in
theorem PageStart.Sound.continuations_sublist (h : start.Sound limits)
    (hrows : 1 ≤ limits.maxRowsPerSession) :
    ((start.continuations limits workers).map (·.position.sessionId)).Sublist
      (start.sessions.map (·.sessionId)) := by
  have hord : (start.ordered limits workers).map (·.1.sessionId) =
      start.sessions.map (·.sessionId) := map_map
  rw [← hord, continuations]
  have hid : ∀ pair ∈ start.ordered limits workers, ∀ pos ∈ pair.2.continuation,
      pos.sessionId = pair.1.sessionId := by
    rintro ⟨sess, outcome⟩ hmem pos hpos
    obtain ⟨hsess, hsettled⟩ := h.ordered hmem
    cases hsettled with
    | unsearched reason other hretry => exact congrArg _ (hretry pos hpos)
    | @accepted group entries entry hgroup hacc hentry =>
      have hpair : start.Accepted limits workers sess entry :=
        ⟨group, hgroup, entries, hacc, hentry⟩
      exact ((hpair.answers.resumes hrows (h.named _ hsess)).1 pos hpos).1.1
  generalize start.ordered limits workers = pairs at hid
  induction pairs with
  | nil => exact .refl _
  | cons pair rest ih =>
    have hrest := ih fun pair hmem => hid pair (mem_cons_of_mem _ hmem)
    rw [filterMap_cons, map_cons]
    cases hpos : pair.2.continuation with
    | none => exact hrest.cons _
    | some pos =>
      simp only [Option.map_some, map_cons]
      rw [hid pair mem_cons_self pos hpos]
      exact hrest.cons_cons _

theorem PageStart.Sound.check_iff
    (h : start.Sound bnd.limits) (hrows : 1 ≤ bnd.limits.maxRowsPerSession)
    (hsome : (start.nextIssue workers bnd).continuations ≠ []) :
    (start.nextIssue workers bnd).check = .ok () ↔
      ∀ sess entry, start.Accepted bnd.limits workers sess entry → ¬Stalls sess entry := by
  have hsublist := h.continuations_sublist workers hrows
  have hperm := unsearchedFirst_perm (start.continuations bnd.limits workers)
  have hids := hperm.map (·.position.sessionId)
  have hfew : (unsearchedFirst (start.continuations bnd.limits workers)).length ≤
      start.sessions.length := by
    have hlen := hsublist.length_le
    simpa only [length_map, hperm.length_eq] using hlen
  have hsessions : start.sessions.length ≤ start.eligibleSessions := by
    rw [← length_map (fun sess : GlobalSearchSessionPosition => sess.sessionId),
      ← toFinset_card_of_nodup h.distinct]
    exact (Finset.card_le_card Finset.subset_union_right).trans h.counted
  obtain ⟨honce, hfrom⟩ := h.searched workers
  have hsearched : (start.searched bnd.limits workers).length ≤ start.eligibleSessions := by
    rw [← toFinset_card_of_nodup honce]
    exact (Finset.card_le_card hfrom).trans h.counted
  rw [GlobalSearchCursorIssue.check_eq_ok, checkContinuations_eq_ok]
  constructor
  · rintro ⟨_, hall, _⟩ sess entry hacc hstalls
    have hord := h.accepted hacc
    obtain ⟨hsess, _⟩ := h.ordered hord
    obtain ⟨hresume, hgoes⟩ := hacc.answers.resumes hrows (h.named _ hsess)
    obtain ⟨pos, hpos⟩ := Option.isSome_iff_exists.mp (hgoes hstalls)
    refine (hall _ (mem_unsearchedFirst.mpr (mem_filterMap.mpr ⟨_, hord, ?_⟩))).2.2
      ((hresume pos hpos).2.mpr hstalls)
    rw [hpos]
    rfl
  intro hnone
  refine ⟨⟨hsome, hfew.trans h.within, hfew.trans hsessions, hsearched⟩, ?_,
    hids.nodup_iff.mpr (List.Nodup.sublist hsublist h.distinct)⟩
  intro continuation hmem
  obtain ⟨sess, _, hresume, hstuck⟩ :=
    h.continuation hrows (mem_unsearchedFirst.mp hmem)
  refine ⟨hresume.2, not_mem_nil, fun h => ?_⟩
  obtain ⟨entry, hacc, hstalls⟩ := hstuck h
  exact hnone sess entry hacc hstalls

theorem PageStart.sound_listed {rows : List (String × String)} (counted : Nat)
    (hdistinct : (rows.map Prod.fst).Nodup) (hpage : rows.length ≤ limits.maxSessions) :
    (listed rows counted).Sound limits := by
  have hids : (rows.map fun row : String × String =>
      GlobalSearchSessionPosition.unvisited row.1 row.2).map (·.sessionId) = rows.map Prod.fst :=
    map_map
  refine ⟨hids.symm ▸ hdistinct, ?_, ?_, List.Subset.refl _, ?_, nodup_nil, ?_⟩
  · intro sess hsess hrow
    obtain ⟨_, _, rfl⟩ := mem_map.mp hsess
    cases hrow
  · exact (length_map _).trans_le hpage
  · rw [listed, append_nil]
  rw [listed, toFinset_nil, Finset.empty_union, hids]
  refine (toFinset_card_le _).trans ?_
  rw [length_map]
  exact Nat.le_max_right _ _

theorem foldl_insertSearched {added : List String} (h : (ordered ++ added).Nodup) :
    added.foldl insertSearched ordered = ordered ++ added := by
  induction added generalizing ordered with
  | nil => rw [foldl_nil, append_nil]
  | cons id rest ih =>
    rw [append_cons] at h
    have hnew : id ∉ ordered := fun hmem =>
      (nodup_append.mp (nodup_append.mp h).1).2.2 _ hmem _ mem_cons_self rfl
    rw [foldl_cons, insertSearched, if_neg hnew, ih h, append_assoc]
    rfl

theorem PageStart.Sound.resumed
    (h : start.Sound bnd.limits) (hrows : 1 ≤ bnd.limits.maxRowsPerSession)
    (hissued : (start.nextIssue workers bnd).check = .ok ())
    (workerBySession : String → Option String) :
    (PageStart.resumed workerBySession (start.nextIssue workers bnd).progress).Sound
      bnd.limits := by
  obtain ⟨⟨_, hwithin, _, _⟩, hchecked⟩ := GlobalSearchCursorIssue.check_eq_ok.mp hissued
  obtain ⟨hall, hnd⟩ := checkContinuations_eq_ok.mp hchecked
  obtain ⟨honce, hfrom⟩ := h.searched workers
  have hids : (start.nextIssue workers bnd).progress.sessions.map (·.sessionId) =
      (start.nextIssue workers bnd).continuations.map (·.position.sessionId) := map_map
  have hdistinct : ((start.nextIssue workers bnd).progress.sessions.map
      (·.sessionId)).Nodup := hids ▸ hnd
  have hfirst := firstOfEach_eq hdistinct fun _ _ => not_mem_nil
  have hkept : (PageStart.resumed workerBySession
      (start.nextIssue workers bnd).progress).searchedSessionIds =
        start.searched bnd.limits workers :=
    (foldl_insertSearched honce).trans (nil_append _)
  refine ⟨hdistinct, ?_, ?_, ?_, ?_, ?_, ?_⟩
  · intro sess hsess hrow
    obtain ⟨continuation, hmem, rfl⟩ := mem_map.mp hsess
    exact (hall continuation hmem).1 hrow
  · exact (length_map _).trans_le hwithin
  · intro sess hsess
    rw [PageStart.resumed, hfirst] at hsess
    exact (mem_filter.mp hsess).1
  · simp only [PageStart.resumed, hfirst, ← map_append]
    exact (filter_append_perm _ _).map _
  · exact hkept.symm ▸ honce
  refine (Finset.card_le_card (Finset.union_subset ?_ ?_)).trans h.counted
  · exact hkept.symm ▸ hfrom
  refine Finset.Subset.trans ?_ Finset.subset_union_right
  intro id hid
  rw [mem_toFinset] at hid ⊢
  have hmem : id ∈ (start.continuations bnd.limits workers).map (·.position.sessionId) :=
    ((unsearchedFirst_perm _).map _).subset (hids ▸ hid)
  exact (h.continuations_sublist workers hrows).subset hmem

theorem Reached.sound (h : Reached bnd start)
    (hrows : 1 ≤ bnd.limits.maxRowsPerSession) : start.Sound bnd.limits := by
  induction h with
  | listed rows counted hdistinct hpage => exact sound_listed counted hdistinct hpage
  | resumed _ workers hissued workerBySession ih => exact ih.resumed hrows hissued workerBySession

/-- The page is refused only where no token could be drawn, and its response carries every match of
every entry it accepted. -/
def PageStart.Delivers (start : PageStart) (binding : GlobalSearchCursorBinding)
    (workers : Workers) (state : CursorState) (now : Int) (newToken : Except String String) : Prop :=
  match (start.answer workers binding state now newToken).2 with
  | .error refusal => ∃ error, refusal = .tokenUnavailable error
  | .ok response =>
    ∀ group ∈ (start.grouped binding.limits workers).1, ∀ entries,
      group.accepted binding.limits (workers.reply group.workerFp) = some entries →
        ∀ sessionId result, .scanned sessionId result ∈ entries → ∀ found ∈ result.matched,
          { sessionId, row := found.row, col := found.col, len := found.len
            preview := found.preview, gridEpoch := result.gridEpoch } ∈ response.matched

theorem PageStart.Sound.projectResponse (h : start.Sound bnd.limits) (nextCursor : Option String)
    {group : OnlineGlobalSearchGroup} (hgroup : group ∈ (start.grouped bnd.limits workers).1)
    {entries : List WorkerGlobalSearchEntry}
    (hacc : group.accepted bnd.limits (workers.reply group.workerFp) = some entries) {sid : String}
    {result : SearchPage} (hmem : WorkerGlobalSearchEntry.scanned sid result ∈ entries)
    {found : Match} (hfound : found ∈ result.matched) :
    { sessionId := sid, row := found.row, col := found.col, len := found.len
      preview := found.preview, gridEpoch := result.gridEpoch } ∈
        (start.projectResponse bnd.limits workers nextCursor).matched := by
  have hanswer := group.accepted_answers hacc
  obtain ⟨index, hindex, hentry⟩ := getElem_of_mem hmem
  have hlen : index < group.sessions.length := hanswer.length_eq ▸ hindex
  have hzip : (WorkerGlobalSearchEntry.scanned sid result, group.sessions[index]) ∈
      entries.zip group.sessions := by
    refine mem_iff_getElem.mpr ⟨index, by rw [length_zip]; omega, ?_⟩
    rw [getElem_zip, hentry]
  have hsame : sid = group.sessions[index].sessionId :=
    (forall₂_zip hanswer hzip).sessionId_eq
  refine mem_flatMap.mpr ⟨_, h.accepted ⟨group, hgroup, entries, hacc, hzip⟩, ?_⟩
  refine mem_map.mpr ⟨found, hfound, ?_⟩
  rw [projectMatch, hsame]

/-- For the pages a search reaches and every answer of its workers, the page is delivered if and
only if no accepted entry leaves its session at the row it was asked before. -/
theorem page_delivered (identity : GlobalSearchIdentity) (query : String) (caseSensitive : Bool)
    (maxSessions maxRowsPerSession maxMatches : UInt32) (start : PageStart)
    (h : Reached { identity, query, caseSensitive, limits :=
      normalizeGlobalSearchPageLimits maxSessions maxRowsPerSession maxMatches } start)
    (workers : Workers) (state : CursorState) (now : Int) (newToken : Except String String) :
    start.Delivers { identity, query, caseSensitive, limits :=
        normalizeGlobalSearchPageLimits maxSessions maxRowsPerSession maxMatches }
        workers state now newToken ↔
      ∀ group ∈ (start.grouped
          (normalizeGlobalSearchPageLimits maxSessions maxRowsPerSession maxMatches) workers).1,
        ∀ entries, group.accepted
            (normalizeGlobalSearchPageLimits maxSessions maxRowsPerSession maxMatches)
            (workers.reply group.workerFp) = some entries →
          ∀ pair ∈ entries.zip group.sessions, ¬Stalls pair.2 pair.1 := by
  generalize hbind : mk identity query caseSensitive
    (normalizeGlobalSearchPageLimits maxSessions maxRowsPerSession maxMatches) = binding at h ⊢
  have hlimits : normalizeGlobalSearchPageLimits maxSessions maxRowsPerSession maxMatches =
      binding.limits := congrArg limits hbind
  have hrows : 1 ≤ binding.limits.maxRowsPerSession := by
    rw [← hlimits]
    simp only [normalizeGlobalSearchPageLimits, requestedOrMaximum, globalSearchRowsPerSession]
    split <;> omega
  have hsound := h.sound hrows
  have hpairs : (∀ session entry, start.Accepted binding.limits workers session entry →
      ¬Stalls session entry) ↔
      ∀ group ∈ (start.grouped binding.limits workers).1, ∀ entries,
        group.accepted binding.limits (workers.reply group.workerFp) = some entries →
          ∀ pair ∈ entries.zip group.sessions, ¬Stalls pair.2 pair.1 :=
    ⟨fun hnone group hgroup entries hacc pair hpair =>
        hnone pair.2 pair.1 ⟨group, hgroup, entries, hacc, hpair⟩,
      fun hnone session entry ⟨group, hgroup, entries, hacc, hpair⟩ =>
        hnone group hgroup entries hacc (entry, session) hpair⟩
  rw [hlimits, ← hpairs]
  unfold PageStart.Delivers answer issueNextCursor
  by_cases hdone : (start.nextIssue workers binding).continuations = []
  · -- nothing goes on, so nothing stalls and no cursor is asked for
    rw [if_pos hdone]
    refine iff_of_true (fun group hgroup entries hacc sid result hmem found hfound =>
      hsound.projectResponse none hgroup hacc hmem hfound) ?_
    intro session entry hacc hstalls
    have hord := hsound.accepted hacc
    obtain ⟨_, hgoes⟩ := hacc.answers.resumes hrows
      (hsound.named _ (hsound.ordered hord).1)
    obtain ⟨position, hpos⟩ := Option.isSome_iff_exists.mp (hgoes hstalls)
    have hcont : (outcomeForGlobalSearchEntry session entry).continues session position ∈
        (start.nextIssue workers binding).continuations :=
      mem_unsearchedFirst.mpr (mem_filterMap.mpr ⟨_, hord, by rw [hpos]; rfl⟩)
    exact not_mem_nil (hdone ▸ hcont)
  rw [if_neg hdone, ← hsound.check_iff hrows hdone]
  cases hcheck : (start.nextIssue workers binding).check with
  | error =>
    simp only [CursorState.issueCursor, hcheck, Except.map]
    refine iff_of_false ?_ (fun h => nomatch h)
    rintro ⟨error, rfl⟩
    exact GlobalSearchCursorIssue.check_ne_tokenUnavailable _ error hcheck
  | ok =>
    simp only [CursorState.issueCursor, hcheck]
    cases newToken with
    | error error => exact iff_of_true ⟨error, rfl⟩ trivial
    | ok =>
      exact iff_of_true (fun group hgroup entries hacc sid result hmem found hfound =>
        hsound.projectResponse _ hgroup hacc hmem hfound) trivial

end

/-! ## A page lost to one worker -/

def twoTerminals : List (String × String) :=
  [("aaaaaaaa-0000-4000-8000-000000000001", "north"),
    ("aaaaaaaa-0000-4000-8000-000000000002", "south")]

def oneRowBinding : GlobalSearchCursorBinding where
  identity := { deviceFingerprint := "device", tabId := "tab", searchId := "search" }
  query := "x"
  caseSensitive := true
  limits := normalizeGlobalSearchPageLimits 2 1 2

def oneRowPage (last : Nat) : SearchPage where
  matched := [{ row := last - 1, col := 0, len := 1, preview := "x" }]
  truncated := false
  scrollbackTotal := 50
  cols := 80
  gridEpoch := "epoch"
  scannedStartRow := last - 1
  scannedEndRow := last
  historyFloor := .none
  nextBeforeRow := some (last - 1)
  stopReason := .rowLimit

def bothAnswer (last : Nat) : Workers where
  routable := fun _ => true
  reply := fun workerFp => .answered <| (twoTerminals.filter fun row => row.2 = workerFp).map
    fun row => { sessionId := row.1, payload := .inl (oneRowPage last) }

/-- The north worker reports a deadline; the south one answers. -/
def northLate (last : Nat) : Workers where
  routable := fun _ => true
  reply := fun workerFp => .answered <| (twoTerminals.filter fun row => row.2 = workerFp).map
    fun row => { sessionId := row.1
                 payload := if workerFp = "north" then .inr "deadline"
                   else .inl (oneRowPage last) }

def firstPage : PageStart := .listed twoTerminals 2

def secondPage : PageStart :=
  .resumed (fun sessionId => twoTerminals.lookup sessionId)
    (firstPage.nextIssue (bothAnswer 42) oneRowBinding).progress

theorem secondPage_reached : Reached oneRowBinding secondPage :=
  .resumed (.listed twoTerminals 2 (by decide) (by decide)) (bothAnswer 42) (by decide +kernel) _

theorem second_page_delivered :
    secondPage.Delivers oneRowBinding (bothAnswer 41) .empty 0 (.ok "token") :=
  (page_delivered oneRowBinding.identity "x" true 2 1 2 secondPage secondPage_reached
    (bothAnswer 41) .empty 0 (.ok "token")).mpr (by decide +kernel)

theorem late_worker_sinks_page : Reached oneRowBinding secondPage ∧
      ((secondPage.grouped oneRowBinding.limits (northLate 41)).1.all fun group =>
        (group.accepted oneRowBinding.limits
          ((northLate 41).reply group.workerFp)).isSome) = true ∧
      (secondPage.answer (northLate 41) oneRowBinding .empty 0 (.ok "token")).2 =
        .error .searchedSessionDidNotAdvance :=
  ⟨secondPage_reached, by decide +kernel, by decide +kernel⟩

end Roost.Coord.Search
