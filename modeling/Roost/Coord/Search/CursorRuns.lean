-- SUMMARY: Runs of search pages: caps, and the history of a claimed cursor.
import Roost.Base.Assoc
import Roost.Base.Transducer
import Roost.Coord.Search.Cursors

/-!
# Runs of search pages

Pages of any searches interleave over one owner with cancellations and the clock. A page begins its
search, may claim a cursor, selects its sessions, checks that it was not cancelled, may issue a
cursor, and finishes. The run's history records what was begun, issued, claimed and cancelled.
-/

namespace Roost.Coord.Search

open Prod (fst snd)
open List.Subset (refl)

open List

/-- How far a page is; one that was refused somewhere is ending. -/
inductive PageStage
  | begun
  | claimed
  | selected
  | checked
  | ending
  | finished
  deriving DecidableEq

structure SearchPageRun where
  binding : GlobalSearchCursorBinding
  stage : PageStage

inductive SearchEvent
  | began (page : Nat)
  | issued (page : Nat) (token : String) (binding : GlobalSearchCursorBinding) (expiresAtMs : Int)
  | claimed (token : String) (binding : GlobalSearchCursorBinding) (atMs : Int)
  | cancelled (identity : GlobalSearchIdentity)
  deriving DecidableEq

/-- The owner, the clock, the pages so far, and what happened, the latest first. -/
structure SearchDesk where
  owner : CursorState
  nowMs : Int
  pages : List SearchPageRun
  history : List SearchEvent

inductive SearchAction
  | elapse (ms : Nat)
  | begin (binding : GlobalSearchCursorBinding)
  | claim (page : Nat) (token : String)
  | select (page : Nat) (sessions : List GlobalSearchSessionPosition)
  | check (page : Nat)
  | issue (page : Nat) (continuations : List GlobalSearchContinuation) (eligibleSessions : Nat)
      (searchedSessionIds : List String) (newToken : Except String String)
  | finish (page : Nat)
  | prepare (identity : GlobalSearchIdentity)
  | complete (identity : GlobalSearchIdentity)

namespace SearchDesk

def opened (nowMs : Int) : SearchDesk := { owner := .empty, nowMs, pages := [], history := [] }

def moved (desk : SearchDesk) (page : Nat) (run : SearchPageRun) (stage : PageStage)
    (owner : CursorState) : SearchDesk :=
  { desk with owner, pages := desk.pages.set page { run with stage } }

/-- Act for a page that is at one of these stages; any other step changes nothing. -/
def forPage (desk : SearchDesk) (page : Nat) (stages : List PageStage)
    (act : SearchPageRun → SearchDesk) : SearchDesk :=
  match desk.pages[page]? with
  | none => desk
  | some run => if run.stage ∈ stages then act run else desk

def step (desk : SearchDesk) : SearchAction → SearchDesk
  | .elapse ms => { desk with nowMs := desk.nowMs + ms }
  | .begin binding =>
    let (owner, admission) := desk.owner.beginSearch desk.nowMs binding.identity
    if admission = .started then
      { desk with
        owner
        pages := desk.pages ++ [{ binding, stage := .begun }]
        history := .began desk.pages.length :: desk.history }
    else { desk with owner }
  | .claim page token =>
    desk.forPage page [.begun] fun run =>
      let (owner, progress) := desk.owner.claimCursor desk.nowMs token run.binding
      if progress.isSome then
        { desk.moved page run .claimed owner with
          history := .claimed token run.binding desk.nowMs :: desk.history }
      else desk.moved page run .ending owner
  | .select page sessions =>
    desk.forPage page [.begun, .claimed] fun run =>
      let (owner, goesOn) :=
        desk.owner.selectSessions desk.nowMs run.binding.identity sessions
      desk.moved page run (if goesOn then .selected else .ending) owner
  | .check page =>
    desk.forPage page [.selected] fun run =>
      let (owner, cancelled) := desk.owner.isCancelled desk.nowMs run.binding.identity
      desk.moved page run (if cancelled then .ending else .checked) owner
  | .issue page continuations eligibleSessions searchedSessionIds newToken =>
    desk.forPage page [.checked] fun run =>
      let (owner, issued) := desk.owner.issueCursor desk.nowMs newToken
        { binding := run.binding, continuations, eligibleSessions, searchedSessionIds }
      match issued with
      | .error _ => desk.moved page run .ending owner
      | .ok token =>
        { desk.moved page run .ending owner with
          history := .issued page token run.binding (desk.nowMs + globalSearchCursorTtlMs) ::
            desk.history }
  | .finish page =>
    desk.forPage page [.begun, .claimed, .selected, .checked, .ending] fun run =>
      desk.moved page run .finished (desk.owner.finishSearch run.binding.identity)
  | .prepare identity =>
    { desk with
      owner := (desk.owner.prepareCancellation desk.nowMs identity).1
      history := .cancelled identity :: desk.history }
  | .complete identity => { desk with owner := desk.owner.completeCancellation identity }

/-- Search pages over one owner, cancellations and the clock. -/
def searchDesk : Transducer SearchDesk SearchAction Unit where
  step desk action := (desk.step action, ())

end SearchDesk

/-! ## What a history says -/

def CancelledSince (page : Nat) (identity : GlobalSearchIdentity) : List SearchEvent → Prop
  | [] => False
  | event :: earlier =>
    (event = .cancelled identity ∧ .began page ∈ earlier) ∨ CancelledSince page identity earlier

instance (page : Nat) (identity : GlobalSearchIdentity) :
    (history : List SearchEvent) → Decidable (CancelledSince page identity history)
  | [] => inferInstanceAs (Decidable False)
  | _ :: earlier =>
    have := instDecidableCancelledSince page identity earlier
    inferInstanceAs (Decidable ((_ ∧ _) ∨ CancelledSince page identity earlier))

/-- A claim that stands: its token was not claimed before, and was issued, always under this
binding, to expire later, by a page that was not cancelled since it began. -/
structure ClaimStands (earlier : List SearchEvent) (token : String)
    (binding : GlobalSearchCursorBinding) (atMs : Int) : Prop where
  once : ∀ other otherMs, .claimed token other otherMs ∉ earlier
  issued : ∃ page expiresAtMs, .issued page token binding expiresAtMs ∈ earlier
  bound : ∀ page other expiresAtMs, .issued page token other expiresAtMs ∈ earlier →
    other = binding ∧ atMs < expiresAtMs ∧ ¬CancelledSince page binding.identity earlier

def ClaimsStand (history : List SearchEvent) : Prop :=
  ∀ later earlier token binding atMs, history = later ++ .claimed token binding atMs :: earlier →
      ClaimStands earlier token binding atMs

/-- No device holds more than its caps. -/
structure CursorState.Capped (state : CursorState) : Prop where
  tokens : (state.cursors.map fst).Nodup
  cursors : ∀ device, state.cursors.countP
    (fun entry => decide (entry.2.binding.identity.deviceFingerprint = device)) ≤
      globalSearchMaxCursorsPerDevice
  active : ∀ device, state.active.countP
    (fun entry => decide (entry.1.deviceFingerprint = device)) ≤ globalSearchMaxActivePerDevice
  tombstones : ∀ device, state.tombstones.countP
    (fun stone => decide (stone.identity.deviceFingerprint = device)) ≤
      globalSearchMaxCancelTombstonesPerDevice

def SearchEvent.issuedToken : SearchEvent → Option String
  | .issued _ token _ _ => some token
  | _ => none

/-- The page that issues a cursor in a step, and the token it draws. -/
def SearchAction.issues : SearchAction → Option (Nat × Except String String)
  | .issue page _ _ _ newToken => some (page, newToken)
  | _ => none

def FreshToken (desk : SearchDesk) (action : SearchAction) : Prop :=
  ∀ issue ∈ action.issues, ∀ event ∈ desk.history, event.issuedToken ≠ issue.2.toOption ∨
    issue.2.toOption = none
  deriving Decidable

/-- No page issues a cursor once its identity was cancelled since it began. -/
def PromptIssue (desk : SearchDesk) (action : SearchAction) : Prop :=
  ∀ issue ∈ action.issues, ∀ run ∈ desk.pages[issue.1]?,
    ¬CancelledSince issue.1 run.binding.identity desk.history
  deriving Decidable

/-! ## The caps -/

namespace CursorState

variable {state : CursorState}

theorem countP_filter_le {α : Type} (p q : α → Bool) (entries : List α) :
    (entries.filter q).countP p ≤ entries.countP p :=
  filter_sublist.countP_le

section

variable (h : state.Capped)
include h

theorem Capped.dropped {later : CursorState}
    (hcursors : later.cursors.Sublist state.cursors) (hactive : later.active.Sublist state.active)
    (htombst : later.tombstones.Sublist state.tombstones) : later.Capped where
  tokens := h.tokens.sublist (hcursors.map _)
  cursors device := hcursors.countP_le.trans (h.cursors device)
  active device := hactive.countP_le.trans (h.active device)
  tombstones device := htombst.countP_le.trans (h.tombstones device)

theorem Capped.purged (now : Int) : (state.purged now).Capped :=
  h.dropped filter_sublist (.refl _) filter_sublist

theorem Capped.beginSearch (now : Int) (ident : GlobalSearchIdentity) :
    (state.beginSearch now ident).1.Capped := by
  have hpurged := h.purged now
  unfold CursorState.beginSearch
  dsimp only
  split
  · exact hpurged
  split
  · exact hpurged
  split
  · exact hpurged
  rename_i hroom
  refine ⟨hpurged.tokens, hpurged.cursors, fun device => ?_, hpurged.tombstones⟩
  have hold := hpurged.active device
  rw [countP_append, countP_singleton]
  simp only [decide_eq_true_eq]
  split
  · next hsame =>
    rw [not_or, hsame] at hroom
    exact Nat.lt_of_not_le hroom.1
  · exact hold

theorem Capped.selectSessions (now : Int) (ident : GlobalSearchIdentity)
    (sessions : List GlobalSearchSessionPosition) :
    (state.selectSessions now ident sessions).1.Capped := by
  have hpurged := h.purged now
  unfold CursorState.selectSessions
  dsimp only
  split
  · exact hpurged
  split
  · exact hpurged
  refine ⟨hpurged.tokens, hpurged.cursors, fun device => ?_, hpurged.tombstones⟩
  rw [countP_map]
  refine le_of_eq_of_le (countP_congr fun entry _ => ?_) (hpurged.active device)
  dsimp only [Function.comp]
  split <;> rfl

theorem Capped.claimCursor (now : Int) (token : String)
    (bnd : GlobalSearchCursorBinding) : (state.claimCursor now token bnd).1.Capped := by
  have hpurged := h.purged now
  unfold CursorState.claimCursor
  dsimp only
  split
  · exact hpurged
  split
  · exact hpurged
  · exact hpurged.dropped filter_sublist (.refl _) (.refl _)

omit h in
theorem evict_room (device : String) : (state.evictOldestDeviceCursor device).cursors.countP
      (fun entry => decide (entry.2.binding.identity.deviceFingerprint = device)) + 1 ≤
        globalSearchMaxCursorsPerDevice := by
  set ofDevice : String × CursorRecord → Bool :=
    fun entry => decide (entry.2.binding.identity.deviceFingerprint = device)
  set oldest := state.deviceCursors device
  set excess := oldest.length + 1 - globalSearchMaxCursorsPerDevice with hexcess
  have hsorted : (oldest.map snd).Perm ((state.cursors.filter ofDevice).map fst) := by
    refine ((mergeSort_perm _ _).map snd).trans ?_
    rw [map_map]
    exact .refl _
  -- the tokens that stay are those past the evicted ones, in the device's order
  have hstay : (state.evictOldestDeviceCursor device).cursors.countP ofDevice =
      ((oldest.map snd).filter fun token =>
        decide (token ∉ (oldest.take excess).map snd)).length := by
    rw [(hsorted.filter _).length_eq, filter_map, length_map, countP_eq_length_filter]
    simp only [evictOldestDeviceCursor, filter_filter]
    exact congrArg length (filter_congr fun entry _ => Bool.and_comm _ _)
  have hdrop : ((oldest.map snd).filter fun token =>
      decide (token ∉ (oldest.take excess).map snd)).length ≤ oldest.length - excess := by
    conv_lhs => rw [← take_append_drop excess (oldest.map snd), filter_append]
    rw [← map_take, filter_eq_nil_iff.mpr fun token hmem => by simpa using hmem,
      nil_append, ← length_drop, ← length_map snd, map_drop]
    exact length_filter_le _ _
  have hroom : oldest.length - excess + 1 ≤ globalSearchMaxCursorsPerDevice := by
    have hcap : 0 < globalSearchMaxCursorsPerDevice := by decide
    omega
  exact (Nat.add_le_add_right (hstay.trans_le hdrop) 1).trans hroom

end

theorem Capped.insertCursor {token : String} {record : CursorRecord} (h : state.Capped)
    (hroom : state.cursors.countP (fun entry => decide (entry.2.binding.identity.deviceFingerprint =
      record.binding.identity.deviceFingerprint)) + 1 ≤ globalSearchMaxCursorsPerDevice) :
    (state.insertCursor token record).Capped := by
  refine ⟨?_, fun device => ?_, h.active, h.tombstones⟩
  · rw [CursorState.insertCursor, map_append]
    refine nodup_append.mpr ⟨h.tokens.sublist (filter_sublist.map _), nodup_singleton _, ?_⟩
    rintro kept hkept _ hnew rfl
    obtain ⟨_, hentry, rfl⟩ := mem_map.mp hkept
    exact (of_decide_eq_true (mem_filter.mp hentry).2) (mem_singleton.mp hnew)
  rw [CursorState.insertCursor, countP_append, countP_singleton]
  have hfewer := countP_filter_le (fun entry : String × CursorRecord =>
    decide (entry.2.binding.identity.deviceFingerprint = device))
    (fun entry => decide (entry.1 ≠ token)) state.cursors
  simp only [decide_eq_true_eq]
  split
  · next hsame =>
    rw [hsame] at hroom
    exact (Nat.add_le_add_right hfewer 1).trans hroom
  · exact hfewer.trans (h.cursors device)

theorem Capped.issueCursor (h : state.Capped) (now : Int) (newToken : Except String String)
    (issue : GlobalSearchCursorIssue) : (state.issueCursor now newToken issue).1.Capped := by
  have hpurged := h.purged now
  have hevict : ((state.purged now).evictOldestDeviceCursor
      issue.binding.identity.deviceFingerprint).Capped :=
    hpurged.dropped filter_sublist (.refl _) (.refl _)
  unfold CursorState.issueCursor
  split
  · exact hpurged
  split
  · exact hevict
  · exact Capped.insertCursor (hevict.dropped (.refl _) (.refl _) (.refl _))
      (evict_room issue.binding.identity.deviceFingerprint)

theorem countP_dropFirst (picks : CancellationTombstone → Bool) (count : Nat)
    (stones : List CancellationTombstone) :
    (evictCancellationCapacity.dropFirst picks count stones).countP picks =
      stones.countP picks - count ∧
    (evictCancellationCapacity.dropFirst picks count stones).Sublist stones := by
  fun_induction evictCancellationCapacity.dropFirst picks count stones with
  | case1 stones => exact ⟨(Nat.sub_zero _).symm, .refl _⟩
  | case2 => exact ⟨(Nat.zero_sub _).symm, .refl _⟩
  | case3 count stone stones hpicked ih =>
    rw [countP_cons_of_pos hpicked, ih.1]
    exact ⟨by omega, ih.2.cons _⟩
  | case4 count stone stones hkept ih =>
    rw [countP_cons_of_neg hkept, countP_cons_of_neg hkept]
    exact ⟨ih.1, ih.2.cons_cons _⟩

theorem evictCancellationCapacity_room (tombstones : List CancellationTombstone) (device : String) :
    (evictCancellationCapacity tombstones device).Sublist tombstones ∧
      (evictCancellationCapacity tombstones device).countP
        (fun stone => decide (stone.identity.deviceFingerprint = device)) + 1 ≤
          globalSearchMaxCancelTombstonesPerDevice := by
  obtain ⟨hcount, hsublist⟩ := countP_dropFirst
    (fun stone => decide (stone.identity.deviceFingerprint = device))
    (tombstones.countP (fun stone => decide (stone.identity.deviceFingerprint = device)) + 1 -
      globalSearchMaxCancelTombstonesPerDevice) tombstones
  refine ⟨(drop_sublist _ _).trans hsublist, ?_⟩
  refine (Nat.add_le_add_right ((drop_sublist _ _).countP_le.trans hcount.le) 1).trans ?_
  unfold globalSearchMaxCancelTombstonesPerDevice
  omega

theorem Capped.prepareCancellation (h : state.Capped) (now : Int)
    (ident : GlobalSearchIdentity) : (state.prepareCancellation now ident).1.Capped := by
  have hpurged := h.purged now
  unfold CursorState.prepareCancellation
  dsimp only
  split
  · exact hpurged
  refine ⟨hpurged.tokens.sublist (filter_sublist.map _),
    fun device => (countP_filter_le _ _ _).trans (hpurged.cursors device), hpurged.active,
    fun device => ?_⟩
  obtain ⟨hsublist, hroom⟩ :=
    evictCancellationCapacity_room (state.purged now).tombstones ident.deviceFingerprint
  rw [countP_append, countP_singleton]
  simp only [decide_eq_true_eq]
  split
  · next hsame => exact hsame ▸ hroom
  · rw [Nat.add_zero]
    exact hsublist.countP_le.trans (hpurged.tombstones device)

/-- An operation that leaves neither a new cursor nor a new tombstone. -/
structure Drops (state later : CursorState) : Prop where
  cursors : later.cursors ⊆ state.cursors
  tombstones : later.tombstones ⊆ state.tombstones

theorem drops_purged (state : CursorState) (now : Int) : state.Drops (state.purged now) :=
  ⟨filter_subset_self _, filter_subset_self _⟩

theorem drops_beginSearch (state : CursorState) (now : Int) (ident : GlobalSearchIdentity) :
    state.Drops (state.beginSearch now ident).1 := by
  have hpurged := state.drops_purged now
  unfold CursorState.beginSearch
  dsimp only
  repeat' split
  all_goals exact ⟨hpurged.cursors, hpurged.tombstones⟩

theorem beginSearch_started {now : Int} {identity : GlobalSearchIdentity}
    (h : (state.beginSearch now identity).2 = .started) :
    ∀ stone ∈ (state.beginSearch now identity).1.tombstones, stone.identity ≠ identity := by
  unfold CursorState.beginSearch at h ⊢
  dsimp only at h ⊢
  split at h
  · cases h
  rename_i hclear
  rw [if_neg hclear]
  have hnone : ∀ stone ∈ (state.purged now).tombstones, stone.identity ≠ identity := by
    intro stone hmem hsame
    exact hclear (any_eq_true.mpr ⟨stone, hmem, decide_eq_true hsame⟩)
  repeat' split
  all_goals exact hnone

theorem drops_selectSessions (state : CursorState) (now : Int) (ident : GlobalSearchIdentity)
    (sessions : List GlobalSearchSessionPosition) :
    state.Drops (state.selectSessions now ident sessions).1 := by
  have hpurged := state.drops_purged now
  unfold CursorState.selectSessions
  dsimp only
  repeat' split
  all_goals exact ⟨hpurged.cursors, hpurged.tombstones⟩

theorem drops_claimCursor (state : CursorState) (now : Int) (token : String)
    (bnd : GlobalSearchCursorBinding) : state.Drops (state.claimCursor now token bnd).1 := by
  have hpurged := state.drops_purged now
  unfold CursorState.claimCursor
  dsimp only
  repeat' split
  · exact hpurged
  · exact hpurged
  · exact ⟨List.Subset.trans (filter_subset_self _) hpurged.cursors, hpurged.tombstones⟩

theorem claimCursor_some {now : Int} {token : String} {bnd : GlobalSearchCursorBinding}
    (h : (state.claimCursor now token bnd).2.isSome = true) :
    (∃ record, (token, record) ∈ state.cursors ∧ record.binding = bnd ∧ now < record.expiresAtMs) ∧
    ∀ entry ∈ (state.claimCursor now token bnd).1.cursors, entry.1 ≠ token := by
  unfold CursorState.claimCursor at h ⊢
  cases hlook : (state.purged now).cursors.lookup token with
  | none => simp [hlook] at h
  | some record =>
    simp only [hlook] at h ⊢
    split at h
    · cases h
    rename_i hbound
    rw [if_neg hbound]
    obtain ⟨hmem, hlive⟩ := mem_filter.mp (Assoc.mem_of_lookup hlook)
    exact ⟨⟨record, hmem, not_not.mp hbound, of_decide_eq_true hlive⟩,
      fun entry hentry => of_decide_eq_true (mem_filter.mp hentry).2⟩

theorem drops_evict (state : CursorState) (device : String) :
    state.Drops (state.evictOldestDeviceCursor device) :=
  ⟨filter_subset_self _, refl _⟩

theorem issueCursor_cursors (state : CursorState) (now : Int) (newToken : Except String String)
    (issue : GlobalSearchCursorIssue) :
    (state.issueCursor now newToken issue).1.tombstones ⊆ state.tombstones ∧
    match (state.issueCursor now newToken issue).2 with
    | .error _ => state.Drops (state.issueCursor now newToken issue).1
    | .ok token => newToken = .ok token ∧
      ∀ entry ∈ (state.issueCursor now newToken issue).1.cursors, entry ∈ state.cursors ∨
        entry.1 = token ∧ entry.2.binding = issue.binding ∧
          entry.2.expiresAtMs = now + globalSearchCursorTtlMs := by
  have hpurged := state.drops_purged now
  unfold CursorState.issueCursor
  cases issue.check with
  | error => exact ⟨hpurged.tombstones, hpurged⟩
  | ok =>
    have hevict := (state.purged now).drops_evict issue.binding.identity.deviceFingerprint
    have hcursors := List.Subset.trans hevict.cursors hpurged.cursors
    cases newToken with
    | error => exact ⟨hpurged.tombstones, hcursors, hpurged.tombstones⟩
    | ok =>
      refine ⟨hpurged.tombstones, rfl, fun entry hentry => ?_⟩
      rcases mem_append.mp hentry with hkept | hnew
      · exact .inl (hcursors (mem_filter.mp hkept).1)
      · obtain rfl := mem_singleton.mp hnew
        exact .inr ⟨rfl, rfl, rfl⟩

theorem prepareCancellation_leaves (state : CursorState) (now : Int) (ident : GlobalSearchIdentity)
    : (state.prepareCancellation now ident).1.cursors ⊆ state.cursors ∧
    (∀ stone ∈ (state.prepareCancellation now ident).1.tombstones,
      stone ∈ state.tombstones ∨ stone.identity = ident) ∧
    ((∃ stone ∈ state.tombstones, stone.identity = ident) ∨
      ∀ entry ∈ (state.prepareCancellation now ident).1.cursors,
        entry.2.binding.identity ≠ ident) := by
  have hpurged := state.drops_purged now
  unfold CursorState.prepareCancellation
  dsimp only
  split
  · next hstand =>
    obtain ⟨stone, hmem, hsame⟩ := any_eq_true.mp hstand
    exact ⟨hpurged.cursors, fun _ h => .inl (hpurged.tombstones h),
      .inl ⟨stone, hpurged.tombstones hmem, of_decide_eq_true hsame⟩⟩
  refine ⟨List.Subset.trans (filter_subset_self _) hpurged.cursors, fun stone hmem => ?_,
    .inr fun entry hentry => of_decide_eq_true (mem_filter.mp hentry).2⟩
  rcases mem_append.mp hmem with hkept | hnew
  · exact .inl (hpurged.tombstones ((evictCancellationCapacity_room _ _).1.subset hkept))
  · exact .inr (mem_singleton.mp hnew ▸ rfl)

end CursorState

/-! ## What a run keeps -/

namespace SearchDesk

variable {desk next : SearchDesk}

def bindings (desk : SearchDesk) : List GlobalSearchCursorBinding := desk.pages.map (·.binding)

/-- No token is issued twice, and only an issued one is claimed. -/
structure TokensFresh (history : List SearchEvent) : Prop where
  once : ∀ {page token binding expiresAtMs}, .issued page token binding expiresAtMs ∈ history →
    ∀ {other otherBinding otherMs}, .issued other token otherBinding otherMs ∈ history →
      other = page ∧ otherBinding = binding ∧ otherMs = expiresAtMs
  spent : ∀ {token binding atMs}, .claimed token binding atMs ∈ history →
    ∃ page other expiresAtMs, .issued page token other expiresAtMs ∈ history

variable {history : List SearchEvent} {event : SearchEvent} {page : Nat} {run : SearchPageRun}

theorem TokensFresh.cons (h : TokensFresh hist)
    (hissued : ∀ {page token bnd expiresAtMs}, event = .issued page token bnd expiresAtMs →
      ∀ earlier ∈ hist, earlier.issuedToken ≠ some token)
    (hclaim : ∀ {token bnd atMs}, event = .claimed token bnd atMs →
      ∃ page other expiresAtMs, .issued page token other expiresAtMs ∈ hist) :
    TokensFresh (event :: hist) where
  once hmem _ _ _ hother := by
    rcases mem_cons.mp hmem with heq | hold <;> rcases mem_cons.mp hother with heq' | hold'
    · cases heq.trans heq'.symm
      exact ⟨rfl, rfl, rfl⟩
    · exact absurd rfl (hissued heq.symm _ hold')
    · exact absurd rfl (hissued heq'.symm _ hold)
    · exact h.once hold hold'
  spent hmem := by
    rcases mem_cons.mp hmem with heq | hold
    · obtain ⟨page, other, expiresAtMs, hissued⟩ := hclaim heq.symm
      exact ⟨page, other, expiresAtMs, mem_cons_of_mem _ hissued⟩
    · obtain ⟨page, other, expiresAtMs, hissued⟩ := h.spent hold
      exact ⟨page, other, expiresAtMs, mem_cons_of_mem _ hissued⟩

/-- What holds at every desk of a run with fresh tokens and prompt issues. -/
structure Standing (desk : SearchDesk) : Prop where
  capped : desk.owner.Capped
  began : ∀ page, .began page ∈ desk.history ↔ page < desk.bindings.length
  tokens : TokensFresh desk.history
  /-- A cursor that is held was issued, was not claimed, and its page was not cancelled. -/
  held : ∀ entry ∈ desk.owner.cursors,
    (∃ page, .issued page entry.1 entry.2.binding entry.2.expiresAtMs ∈ desk.history ∧
      ¬CancelledSince page entry.2.binding.identity desk.history) ∧
    ∀ binding atMs, .claimed entry.1 binding atMs ∉ desk.history
  /-- Where a tombstone stands no cursor does, and every page was cancelled since it began. -/
  entombed : ∀ stone ∈ desk.owner.tombstones,
    (∀ entry ∈ desk.owner.cursors, entry.2.binding.identity ≠ stone.identity) ∧
    ∀ page binding, desk.bindings[page]? = some binding → binding.identity = stone.identity →
      CancelledSince page stone.identity desk.history
  claims : ClaimsStand desk.history

theorem Standing.quiet (h : desk.Standing) {owner : CursorState} {nowMs : Int}
    {pages : List SearchPageRun} (hcapped : owner.Capped) (hdrops : desk.owner.Drops owner)
    (hpages : pages.map (·.binding) = desk.bindings) :
    Standing { owner, nowMs, pages, history := desk.history } := by
  have hsame : bindings { owner, nowMs, pages, history := desk.history } = desk.bindings := hpages
  refine ⟨hcapped, hsame ▸ h.began, h.tokens,
    fun entry hmem => h.held entry (hdrops.cursors hmem), fun stone hmem => ?_, h.claims⟩
  obtain ⟨hcursors, hall⟩ := h.entombed stone (hdrops.tombstones hmem)
  exact ⟨fun entry hentry => hcursors entry (hdrops.cursors hentry), hsame ▸ hall⟩

theorem forPage_keeps {P : SearchDesk → Prop} {stages : List PageStage}
    {act : SearchPageRun → SearchDesk} (h : P desk)
    (hact : ∀ run, desk.pages[page]? = some run → P (act run)) :
    P (desk.forPage page stages act) := by
  unfold forPage
  split
  · exact h
  rename_i run hrun
  split
  · exact hact run hrun
  · exact h

theorem moved_bindings (stage : PageStage) (h : desk.pages[page]? = some run) :
    (desk.pages.set page { run with stage }).map (·.binding) = desk.bindings := by
  refine List.ext_getElem? fun index => ?_
  rw [bindings, List.getElem?_map, List.getElem?_map, List.getElem?_set]
  split
  · next hindex =>
    rw [← hindex, h, if_pos (List.getElem?_eq_some_iff.mp h).1]
    rfl
  · rfl

theorem cancelledSince_cons {ident : GlobalSearchIdentity} (h : ∀ other, event ≠ .cancelled other) :
    CancelledSince page ident (event :: history) ↔ CancelledSince page ident history :=
  ⟨fun hsince => hsince.resolve_left fun hnow => h ident hnow.1, .inr⟩

theorem claimsStand_cons (h : ClaimsStand history)
    (hevent : ∀ token bnd atMs, event = .claimed token bnd atMs →
      ClaimStands history token bnd atMs) : ClaimsStand (event :: history) := by
  intro later earlier token bnd atMs heq
  cases later with
  | nil =>
    obtain ⟨rfl, rfl⟩ := cons.inj heq
    exact hevent token bnd atMs rfl
  | cons _ later => exact h later earlier token bnd atMs (cons.inj heq).2

section

variable (h : desk.Standing)
include h

theorem Standing.begin (bnd : GlobalSearchCursorBinding)
    (hstart : (desk.owner.beginSearch desk.nowMs bnd.identity).2 = .started) : Standing { desk with
      owner := (desk.owner.beginSearch desk.nowMs bnd.identity).1
      pages := desk.pages ++ [{ binding := bnd, stage := .begun }]
      history := .began desk.pages.length :: desk.history } := by
  have hdrops := desk.owner.drops_beginSearch desk.nowMs bnd.identity
  have hsince : ∀ {page ident}, CancelledSince page ident
      (.began desk.pages.length :: desk.history) ↔ CancelledSince page ident desk.history :=
    cancelledSince_cons fun _ h => nomatch h
  have hlen : desk.pages.length = desk.bindings.length := (length_map _).symm
  have hbind : (desk.pages ++ [SearchPageRun.mk bnd .begun]).map (·.binding) =
      desk.bindings ++ [bnd] := map_append
  refine ⟨h.capped.beginSearch desk.nowMs _, fun page => ?_, h.tokens.cons nofun nofun, ?_, ?_, ?_⟩
  · simp only [bindings, hbind, mem_cons, SearchEvent.began.injEq, length_append,
      length_singleton, h.began, hlen]
    omega
  · intro entry hmem
    obtain ⟨⟨page, hissued, hfree⟩, hunspent⟩ := h.held entry (hdrops.cursors hmem)
    exact ⟨⟨page, mem_cons_of_mem _ hissued, hsince.not.mpr hfree⟩,
      fun claimed atMs hclaim => hunspent claimed atMs (by simpa using hclaim)⟩
  · intro stone hmem
    obtain ⟨hcursors, hall⟩ := h.entombed stone (hdrops.tombstones hmem)
    refine ⟨fun entry hentry => hcursors entry (hdrops.cursors hentry), ?_⟩
    intro page other hpage hsame
    replace hpage : (desk.bindings ++ [bnd])[page]? = some other := hbind ▸ hpage
    rcases Nat.lt_or_ge page desk.bindings.length with hold | hnew
    · rw [getElem?_append_left hold] at hpage
      exact hsince.mpr (hall page other hpage hsame)
    rw [getElem?_append_right hnew, getElem?_singleton] at hpage
    split at hpage
    · cases hpage
      exact absurd hsame.symm (CursorState.beginSearch_started hstart stone hmem)
    · cases hpage
  · exact claimsStand_cons h.claims fun _ _ _ h => nomatch h

theorem Standing.claim {token : String} (hrun : desk.pages[page]? = some run)
    (hclaim : (desk.owner.claimCursor desk.nowMs token run.binding).2.isSome = true) :
    Standing { desk.moved page run .claimed
        (desk.owner.claimCursor desk.nowMs token run.binding).1 with
      history := .claimed token run.binding desk.nowMs :: desk.history } := by
  have hdrops := desk.owner.drops_claimCursor desk.nowMs token run.binding
  have hquiet : Standing (desk.moved page run .claimed
      (desk.owner.claimCursor desk.nowMs token run.binding).1) :=
    h.quiet (h.capped.claimCursor desk.nowMs token run.binding) hdrops (moved_bindings .claimed hrun)
  obtain ⟨⟨record, hmem, hbound, hlive⟩, hgone⟩ := CursorState.claimCursor_some hclaim
  obtain ⟨⟨issuer, hissued, hfree⟩, hunspent⟩ := h.held _ hmem
  have hsince : ∀ {page ident}, CancelledSince page ident
      (.claimed token run.binding desk.nowMs :: desk.history) ↔
        CancelledSince page ident desk.history := cancelledSince_cons fun _ h => nomatch h
  refine ⟨hquiet.capped, fun page => ?_, h.tokens.cons nofun ?_, ?_, ?_,
    claimsStand_cons h.claims ?_⟩
  · refine (mem_cons.trans (or_iff_right ?_)).trans (hquiet.began page)
    nofun
  · rintro _ _ _ ⟨⟩
    exact ⟨issuer, _, _, hissued⟩
  · intro entry hentry
    obtain ⟨⟨page, hissued, hfree⟩, hunspent⟩ := hquiet.held entry hentry
    refine ⟨⟨page, mem_cons_of_mem _ hissued, hsince.not.mpr hfree⟩, ?_⟩
    intro bnd atMs hclaim
    rcases mem_cons.mp hclaim with heq | hold
    · cases heq
      exact hgone entry hentry rfl
    · exact hunspent bnd atMs hold
  · intro stone hstone
    obtain ⟨hcursors, hall⟩ := hquiet.entombed stone hstone
    exact ⟨hcursors, fun page bnd hpage hsame => hsince.mpr (hall page bnd hpage hsame)⟩
  · intro spent bnd atMs heq
    cases heq
    refine ⟨hunspent, ⟨issuer, record.expiresAtMs, hbound ▸ hissued⟩, ?_⟩
    intro page other expiresAtMs hother
    obtain ⟨rfl, rfl, rfl⟩ := h.tokens.once hissued hother
    exact ⟨hbound, hlive, hbound ▸ hfree⟩

theorem Standing.issue {newToken : Except String String} {issue : GlobalSearchCursorIssue}
    {token : String} (hrun : desk.pages[page]? = some run) (hbinding : issue.binding = run.binding)
    (hissued : (desk.owner.issueCursor desk.nowMs newToken issue).2 = .ok token)
    (hfresh : ∀ event ∈ desk.history, event.issuedToken ≠ some token)
    (hprompt : ¬CancelledSince page run.binding.identity desk.history) :
    Standing { desk.moved page run .ending (desk.owner.issueCursor desk.nowMs newToken issue).1 with
      history := .issued page token run.binding (desk.nowMs + globalSearchCursorTtlMs) ::
        desk.history } := by
  obtain ⟨hstones, hleft⟩ := desk.owner.issueCursor_cursors desk.nowMs newToken issue
  rw [hissued] at hleft
  obtain ⟨-, hnew⟩ := hleft
  have hbind := moved_bindings .ending hrun
  have hpage : desk.bindings[page]? = some run.binding := by
    rw [bindings, getElem?_map, hrun]
    rfl
  have hsince : ∀ {other ident}, CancelledSince other ident
      (.issued page token run.binding (desk.nowMs + globalSearchCursorTtlMs) :: desk.history) ↔
        CancelledSince other ident desk.history := cancelledSince_cons fun _ h => nomatch h
  refine ⟨h.capped.issueCursor desk.nowMs newToken issue, fun page => ?_, h.tokens.cons ?_ nofun,
    ?_, ?_, claimsStand_cons h.claims fun _ _ _ h => nomatch h⟩
  · simpa [bindings, moved, hbind] using h.began page
  · rintro _ _ _ _ ⟨⟩
    exact hfresh
  · intro entry hentry
    rcases hnew entry hentry with hkept | ⟨htoken, hbound, hexpired⟩
    · obtain ⟨⟨page, hissued, hfree⟩, hunspent⟩ := h.held entry hkept
      exact ⟨⟨page, mem_cons_of_mem _ hissued, hsince.not.mpr hfree⟩,
        fun bnd atMs hclaim => hunspent bnd atMs (by simpa using hclaim)⟩
    rw [htoken, hbound, hbinding, hexpired]
    refine ⟨⟨page, mem_cons_self, hsince.not.mpr hprompt⟩, fun bnd atMs hclaim => ?_⟩
    obtain ⟨_, _, _, hpre⟩ := h.tokens.spent (by simpa using hclaim)
    exact hfresh _ hpre rfl
  intro stone hstone
  obtain ⟨hcursors, hall⟩ := h.entombed stone (hstones hstone)
  simp only [bindings, moved, hbind]
  refine ⟨fun entry hentry => ?_, fun other bnd hother hsame =>
    hsince.mpr (hall other bnd hother hsame)⟩
  rcases hnew entry hentry with hkept | ⟨_, hbound, _⟩
  · exact hcursors entry hkept
  · intro hsame
    rw [hbound, hbinding] at hsame
    exact hprompt (hsame ▸ hall page run.binding hpage hsame)

theorem Standing.prepare (identity : GlobalSearchIdentity) : Standing { desk with
      owner := (desk.owner.prepareCancellation desk.nowMs identity).1
      history := .cancelled identity :: desk.history } := by
  obtain ⟨hcursors, hstones, hdropped⟩ := desk.owner.prepareCancellation_leaves desk.nowMs identity
  have hclear : ∀ entry ∈ (desk.owner.prepareCancellation desk.nowMs identity).1.cursors,
      entry.2.binding.identity ≠ identity := by
    rcases hdropped with ⟨stone, hstone, rfl⟩ | hdropped
    · exact fun entry hentry => (h.entombed stone hstone).1 entry (hcursors hentry)
    · exact hdropped
  refine ⟨h.capped.prepareCancellation desk.nowMs identity, fun page => ?_,
    h.tokens.cons nofun nofun, ?_, ?_, claimsStand_cons h.claims fun _ _ _ h => nomatch h⟩
  · refine (List.mem_cons.trans (or_iff_right ?_)).trans (h.began page)
    nofun
  · intro entry hentry
    obtain ⟨⟨page, hissued, hfree⟩, hunspent⟩ := h.held entry (hcursors hentry)
    refine ⟨⟨page, List.mem_cons_of_mem _ hissued, ?_⟩,
      fun bnd atMs hclaim => hunspent bnd atMs (by simpa using hclaim)⟩
    rintro (⟨heq, -⟩ | hsince)
    · exact hclear entry hentry (SearchEvent.cancelled.inj heq).symm
    · exact hfree hsince
  intro stone hstone
  have hsince : ∀ page bnd, desk.bindings[page]? = some bnd →
      stone.identity = identity → CancelledSince page stone.identity
        (.cancelled identity :: desk.history) := fun page bnd hpage hsame =>
    .inl ⟨hsame ▸ rfl, (h.began page).mpr (List.getElem?_eq_some_iff.mp hpage).1⟩
  rcases hstones stone hstone with hold | hsame
  · obtain ⟨hnone, hall⟩ := h.entombed stone hold
    exact ⟨fun entry hentry => hnone entry (hcursors hentry),
      fun page bnd hpage hsame => .inr (hall page bnd hpage hsame)⟩
  · exact ⟨fun entry hentry => hsame ▸ hclear entry hentry,
      fun page bnd hpage _ => hsince page bnd hpage hsame⟩

/-- A fresh token issued promptly keeps every claim standing. -/
theorem Standing.step {action : SearchAction}
    (hrule : FreshToken desk action ∧ PromptIssue desk action) : (desk.step action).Standing := by
  cases action with
  | elapse => exact h.quiet h.capped ⟨refl _, refl _⟩ rfl
  | begin bnd =>
    simp only [SearchDesk.step]
    split
    · next hstart => exact h.begin bnd hstart
    · exact h.quiet (h.capped.beginSearch _ _) (desk.owner.drops_beginSearch _ _) rfl
  | claim =>
    refine forPage_keeps h fun run hrun => ?_
    dsimp only
    split
    · next hclaim => exact h.claim hrun hclaim
    · exact h.quiet (h.capped.claimCursor _ _ _) (desk.owner.drops_claimCursor _ _ _)
        (moved_bindings _ hrun)
  | select =>
    exact forPage_keeps h fun run hrun => h.quiet (h.capped.selectSessions _ _ _)
      (desk.owner.drops_selectSessions _ _ _) (moved_bindings _ hrun)
  | check =>
    exact forPage_keeps h fun run hrun => h.quiet (h.capped.purged _) (desk.owner.drops_purged _)
      (moved_bindings _ hrun)
  | issue page continuations eligibleSessions searchedSessionIds newToken =>
    refine forPage_keeps h fun run hrun => ?_
    dsimp only
    obtain ⟨-, hleft⟩ := desk.owner.issueCursor_cursors desk.nowMs newToken
      { binding := run.binding, continuations, eligibleSessions, searchedSessionIds }
    cases hissued : (desk.owner.issueCursor desk.nowMs newToken
        { binding := run.binding, continuations, eligibleSessions, searchedSessionIds }).2 with
    | error =>
      rw [hissued] at hleft
      exact h.quiet (h.capped.issueCursor _ _ _) hleft (moved_bindings _ hrun)
    | ok =>
      rw [hissued] at hleft
      obtain ⟨rfl, -⟩ := hleft
      exact h.issue hrun rfl hissued
        (fun event hmem => (hrule.1 _ rfl event hmem).resolve_right nofun)
        (hrule.2 _ rfl run hrun)
  | finish =>
    exact forPage_keeps h fun run hrun => h.quiet
      (h.capped.dropped (.refl _) filter_sublist (.refl _))
      ⟨refl _, refl _⟩ (moved_bindings _ hrun)
  | prepare ident => exact h.prepare ident
  | complete =>
    exact h.quiet (h.capped.dropped (.refl _) filter_sublist (.refl _)) ⟨refl _, refl _⟩ rfl

end

theorem standing_opened (nowMs : Int) : (opened nowMs).Standing where
  capped := ⟨nodup_nil, fun _ => Nat.zero_le _, fun _ => Nat.zero_le _, fun _ => Nat.zero_le _⟩
  began _ := ⟨fun h => (nomatch h), fun h => absurd h (Nat.not_lt_zero _)⟩
  tokens := ⟨nofun, nofun⟩
  held _ h := nomatch h
  entombed _ h := nomatch h
  claims later _ _ _ _ h := by cases later <;> cases h

/-- Where no token is drawn twice and no page issues a cursor once it was cancelled, every claim
stands and no device holds more than its caps, at every desk a run reaches. -/
theorem claims_stand (nowMs : Int) (actions : List SearchAction)
    (h : searchDesk.Along (fun desk action => FreshToken desk action ∧ PromptIssue desk action)
      (.opened nowMs) actions) :
    ClaimsStand (searchDesk.run (.opened nowMs) actions).history ∧
      (searchDesk.run (.opened nowMs) actions).owner.Capped := by
  have hstep : ∀ desk action, desk.Standing → FreshToken desk action ∧ PromptIssue desk action →
      (searchDesk.next desk action).Standing := fun _ _ hstand hrule => hstand.step hrule
  have hstand := h.invariant (standing_opened nowMs) hstep
  exact ⟨hstand.claims, hstand.capped⟩

/-! ## A cursor that outlives its cancellation -/

def tabSearch : GlobalSearchCursorBinding where
  identity := { deviceFingerprint := "device", tabId := "tab", searchId := "search" }
  query := "x"
  caseSensitive := true
  limits := { maxSessions := 1, maxRowsPerSession := 1, maxMatches := 1 }

def issueOne (page : Nat) (token : String) : SearchAction :=
  .issue page [{ position := { sessionId := "session", workerFp := "worker", gridEpoch := "epoch"
                               beforeRow := some 40 }
                 searched := true, requestedBeforeRow := none }] 1 ["session"] (.ok token)

/-- The second page claims the cursor of the first. The search is cancelled before the third
claims the cursor of the second. -/
def twoPages : List SearchAction :=
  [.begin tabSearch, .select 0 [], .check 0, issueOne 0 "first", .finish 0, .begin tabSearch,
    .claim 1 "first", .select 1 [], .check 1, issueOne 1 "second", .finish 1, .begin tabSearch,
    .prepare tabSearch.identity, .complete tabSearch.identity, .claim 2 "second"]

theorem twoPages_claims : ClaimsStand (searchDesk.run (.opened 0) twoPages).history ∧
      (searchDesk.run (.opened 0) twoPages).owner.Capped :=
  claims_stand 0 twoPages (by decide +kernel)

/-- The page has passed its check when its search is cancelled, and issues its cursor a second
later; a page begun once the tombstone expired claims it. -/
def cancelledBetween : List SearchAction :=
  [.begin tabSearch, .select 0 [], .check 0, .prepare tabSearch.identity,
    .complete tabSearch.identity, .elapse 1000, issueOne 0 "token", .finish 0, .elapse 59000,
    .begin tabSearch, .claim 1 "token"]

theorem cancelled_cursor_is_claimed : searchDesk.Along FreshToken (.opened 0) cancelledBetween ∧
      ¬ClaimsStand (searchDesk.run (.opened 0) cancelledBetween).history := by
  refine ⟨by decide +kernel, fun h => ?_⟩
  have hclaim := h [] _ "token" tabSearch 60000 rfl
  exact (hclaim.bound 0 tabSearch 61000 (by decide)).2.2 (by decide)

end SearchDesk

end Roost.Coord.Search
