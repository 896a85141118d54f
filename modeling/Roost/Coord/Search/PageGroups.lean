-- SUMMARY: A page's sessions shared out to workers, and what each answers.
import Roost.Coord.Search.WorkerResult

/-!
# A page's worker groups

The sessions of a page are grouped by the worker their row named. An offline worker's sessions and
those whose match budget is zero retry their own position; the others are asked in one batch a
worker, and the answer or its absence becomes an outcome for each.
-/

namespace Roost.Coord.Search

open Prod (fst snd)

open List

/-- One routable worker's share of a page. -/
structure OnlineGlobalSearchGroup where
  workerFp : String
  sessions : List GlobalSearchSessionPosition
  matchBudget : Nat

abbrev Outcomes := List (String × GlobalSearchSessionOutcome)

def firstOfEach : List String → List GlobalSearchSessionPosition → List GlobalSearchSessionPosition
  | _, [] => []
  | seen, session :: rest =>
    if session.sessionId ∈ seen then firstOfEach seen rest
    else session :: firstOfEach (session.sessionId :: seen) rest

def addToWorker (session : GlobalSearchSessionPosition) :
    List (String × List GlobalSearchSessionPosition) →
    List (String × List GlobalSearchSessionPosition)
  | [] => [(session.workerFp, [session])]
  | (workerFp, group) :: rest =>
    if workerFp = session.workerFp then (workerFp, group ++ [session]) :: rest
    else (workerFp, group) :: addToWorker session rest

/-- A page's sessions by worker, in page order. -/
def byWorker (sessions : List GlobalSearchSessionPosition) :
    List (String × List GlobalSearchSessionPosition) :=
  (firstOfEach [] sessions).foldl (fun groups session => addToWorker session groups) []

/-- Pair each session with its budget; what no budget is left for gets zero. -/
def fund : List Nat → List GlobalSearchSessionPosition → List (GlobalSearchSessionPosition × Nat)
  | _, [] => []
  | budgets, session :: rest => (session, budgets.head?.getD 0) :: fund budgets.tail rest

/-- Split each worker's sessions into the batch it is asked and those that are deferred. -/
def schedule : List Nat → List (String × List GlobalSearchSessionPosition) →
    List OnlineGlobalSearchGroup × List GlobalSearchSessionPosition
  | _, [] => ([], [])
  | budgets, (workerFp, sessions) :: rest =>
    let funded := fund budgets sessions
    let selected := (funded.filter fun share => decide (share.2 > 0)).map fst
    let deferred := (funded.filter fun share => !decide (share.2 > 0)).map fst
    let (groups, later) := schedule (budgets.drop sessions.length) rest
    (if selected = [] then groups
      else { workerFp, sessions := selected, matchBudget := (funded.map snd).sum } :: groups,
      deferred ++ later)

/-- A session that retries its own position. -/
def retries (partialReason : Option GlobalSearchPartialReason)
    (session : GlobalSearchSessionPosition) : String × GlobalSearchSessionOutcome :=
  (session.sessionId, .unsearched partialReason (some session))

/-- Group a page's sessions by routable worker and split the match budget. -/
def groupOnlineGlobalSearchSessions (routable : String → Bool)
    (sessions : List GlobalSearchSessionPosition) (outcomes : Outcomes) (maxMatches : Nat) :
    List OnlineGlobalSearchGroup × Outcomes :=
  let groups := byWorker sessions
  let online := groups.filter fun group => routable group.1
  let offline := (groups.filter fun group => !routable group.1).flatMap snd
  let outcomes := (offline.map (retries (some .workerUnavailable))).reverse ++ outcomes
  let sessionCount := (online.map fun group => group.2.length).sum
  if sessionCount = 0 then ([], outcomes)
  else
    let (scheduled, deferred) :=
      schedule (allocateGlobalSearchMatchLimits maxMatches sessionCount) online
    (scheduled, (deferred.map (retries none)).reverse ++ outcomes)

/-- How a group's batch came out: the search was cancelled meanwhile, no answer arrived, or one
did. -/
inductive GroupReply
  | cancelled
  | unanswered (reason : GlobalSearchPartialReason)
  | answered (raw : List RawEntry)

/-- The entries of a group's answer, when it is well formed. -/
def OnlineGlobalSearchGroup.accepted (group : OnlineGlobalSearchGroup)
    (limits : GlobalSearchPageLimits) : GroupReply → Option (List WorkerGlobalSearchEntry)
  | .answered raw =>
    validateGlobalSearchGroupResult raw group.sessions group.matchBudget limits
  | _ => none

def OnlineGlobalSearchGroup.everySession (group : OnlineGlobalSearchGroup)
    (reason : GlobalSearchPartialReason) : Outcomes :=
  group.sessions.map (retries (some reason))

/-- The outcomes one group settles. -/
def searchWorkerGroup (limits : GlobalSearchPageLimits) (group : OnlineGlobalSearchGroup)
    (reply : GroupReply) : Outcomes :=
  match reply with
  | .cancelled => []
  | .unanswered reason => group.everySession reason
  | .answered _ =>
    match group.accepted limits reply with
    | none => group.everySession .malformedResult
    | some entries =>
      (entries.zip group.sessions).map fun pair =>
        (pair.1.sessionId, outcomeForGlobalSearchEntry pair.2 pair.1)

/-! ## Every session is in one place -/

variable {sessions : List GlobalSearchSessionPosition}

theorem firstOfEach_eq {seen : List String} (hnd : (sessions.map (·.sessionId)).Nodup)
    (hfresh : ∀ sess ∈ sessions, sess.sessionId ∉ seen) : firstOfEach seen sessions = sessions := by
  induction sessions generalizing seen with
  | nil => rfl
  | cons sess rest ih =>
    rw [map_cons, nodup_cons] at hnd
    rw [firstOfEach, if_neg (hfresh sess mem_cons_self)]
    rw [ih hnd.2]
    intro other hmem hseen
    rcases mem_cons.mp hseen with heq | hold
    · exact hnd.1 (heq ▸ mem_map_of_mem hmem)
    · exact hfresh other (mem_cons_of_mem _ hmem) hold

theorem addToWorker_perm (sess : GlobalSearchSessionPosition)
    (groups : List (String × List GlobalSearchSessionPosition)) :
    ((addToWorker sess groups).flatMap snd).Perm (sess :: groups.flatMap snd) := by
  induction groups with
  | nil => exact .refl _
  | cons group rest ih =>
    obtain ⟨_, group⟩ := group
    rw [addToWorker]
    split
    · simp only [flatMap_cons, append_assoc]
      exact perm_middle
    · simp only [flatMap_cons]
      exact (ih.append_left group).trans perm_middle

theorem byWorker_perm (hnd : (sessions.map (·.sessionId)).Nodup) :
    ((byWorker sessions).flatMap snd).Perm sessions := by
  have hfold : ∀ (rest : List GlobalSearchSessionPosition) groups,
      ((rest.foldl (fun groups sess => addToWorker sess groups) groups).flatMap
        snd).Perm (rest ++ groups.flatMap snd) := by
    intro rest
    induction rest with
    | nil => exact fun _ => .refl _
    | cons sess rest ih =>
      intro groups
      exact ((ih _).trans ((addToWorker_perm sess groups).append_left rest)).trans perm_middle
  have hall := hfold (firstOfEach [] sessions) []
  rw [firstOfEach_eq hnd fun _ _ => not_mem_nil] at hall
  simpa [byWorker, firstOfEach_eq hnd fun _ _ => not_mem_nil] using hall

theorem fund_fst (budgets : List Nat) (sessions : List GlobalSearchSessionPosition) :
    (fund budgets sessions).map fst = sessions := by
  induction sessions generalizing budgets with
  | nil => rfl
  | cons sess rest ih => rw [fund, map_cons, ih]

theorem schedule_perm (budgets : List Nat)
    (groups : List (String × List GlobalSearchSessionPosition)) :
    ((schedule budgets groups).1.flatMap (·.sessions) ++ (schedule budgets groups).2).Perm
      (groups.flatMap snd) := by
  induction groups generalizing budgets with
  | nil => exact .refl _
  | cons group rest ih =>
    obtain ⟨workerFp, sessions⟩ := group
    have hsplit := (filter_append_perm (fun share => decide (share.2 > 0))
      (fund budgets sessions)).map fst
    rw [map_append, fund_fst] at hsplit
    have hrest := ih (budgets.drop sessions.length)
    have hsel : ∀ (sel : List GlobalSearchSessionPosition) matchBudget groups,
        (if sel = [] then groups
          else ({ workerFp, sessions := sel, matchBudget } :: groups :
            List OnlineGlobalSearchGroup)).flatMap (·.sessions) =
          sel ++ groups.flatMap (·.sessions) := by
      intro sel matchBudget groups
      split
      · next hnil => rw [hnil, nil_append]
      · rw [flatMap_cons]
    simp only [schedule, hsel, flatMap_cons, append_assoc]
    refine .trans ?_ (hsplit.append hrest)
    simp only [append_assoc]
    refine .append_left _ ?_
    rw [← append_assoc, ← append_assoc]
    exact perm_append_comm.append_right _

theorem groupOnlineGlobalSearchSessions_perm (routable : String → Bool) (outcomes : Outcomes)
    (maxMatches : Nat) (hnd : (sessions.map (·.sessionId)).Nodup) :
    ∃ retried : List (Option GlobalSearchPartialReason × GlobalSearchSessionPosition),
      (groupOnlineGlobalSearchSessions routable sessions outcomes maxMatches).2.Perm
        (retried.map (fun retry => retries retry.1 retry.2) ++ outcomes) ∧
      ((groupOnlineGlobalSearchSessions routable sessions outcomes maxMatches).1.flatMap
        (·.sessions) ++ retried.map snd).Perm sessions := by
  have hsplit := ((filter_append_perm (fun group => routable group.1)
    (byWorker sessions)).flatMap_right snd).trans (byWorker_perm hnd)
  rw [flatMap_append] at hsplit
  unfold groupOnlineGlobalSearchSessions
  set online := (byWorker sessions).filter fun group => routable group.1 with honline
  set offline := ((byWorker sessions).filter fun group => !routable group.1).flatMap snd
  dsimp only
  have hoffl : (offline.map (fun sess =>
      (some GlobalSearchPartialReason.workerUnavailable, sess))).map snd = offline := by
    rw [map_map]
    exact map_id _
  split
  · next hnone =>
    refine ⟨offline.map fun sess => (some .workerUnavailable, sess), ?_, ?_⟩
    · rw [map_map]
      exact (reverse_perm _).append_right _
    have hempty : online.flatMap snd = [] :=
      eq_nil_of_length_eq_zero (length_flatMap.trans hnone)
    rw [hempty, nil_append] at hsplit
    rw [hoffl, flatMap_nil, nil_append]
    exact hsplit
  rename_i hsome
  obtain ⟨scheduled, deferred, hschedule⟩ :
      ∃ scheduled deferred, schedule (allocateGlobalSearchMatchLimits maxMatches
        (online.map fun group => group.2.length).sum) online = (scheduled, deferred) :=
    ⟨_, _, rfl⟩
  have hkept := schedule_perm (allocateGlobalSearchMatchLimits maxMatches
    (online.map fun group => group.2.length).sum) online
  rw [hschedule] at hkept ⊢
  refine ⟨deferred.map (fun sess => (none, sess)) ++
    offline.map fun sess => (some .workerUnavailable, sess), ?_, ?_⟩
  · rw [map_append, map_map, map_map, append_assoc]
    exact (reverse_perm _).append ((reverse_perm _).append_right _)
  · rw [map_append, hoffl, map_map, ← append_assoc]
    refine .trans (.append_right _ ?_) hsplit
    exact (map_id deferred).symm ▸ hkept

theorem searchWorkerGroup_keys (limits : GlobalSearchPageLimits) (group : OnlineGlobalSearchGroup)
    (reply : GroupReply) : ((searchWorkerGroup limits group reply).map fst).Sublist
      (group.sessions.map (·.sessionId)) := by
  have hevery : ∀ reason, (group.everySession reason).map fst =
      group.sessions.map (·.sessionId) := fun reason => map_map
  cases reply with
  | cancelled => exact nil_sublist _
  | unanswered reason => exact hevery reason ▸ List.Sublist.refl _
  | answered raw =>
    rw [searchWorkerGroup]
    split
    · exact hevery .malformedResult ▸ List.Sublist.refl _
    rename_i entries hacc
    have hanswer := validateGlobalSearchGroupResult_answers hacc
    have hsame : entries.map (·.sessionId) = group.sessions.map (·.sessionId) := by
      refine forall₂_eq_eq_eq ▸ ?_
      refine forall₂_map_left_iff.mpr (forall₂_map_right_iff.mpr ?_)
      exact hanswer.imp fun _ _ h => h.sessionId_eq
    rw [map_map, ← hsame]
    have hkeys : (entries.zip group.sessions).map
        ((fst : String × GlobalSearchSessionOutcome → String) ∘ fun pair =>
          (pair.1.sessionId, outcomeForGlobalSearchEntry pair.2 pair.1)) =
        ((entries.zip group.sessions).map fst).map (·.sessionId) := by
      rw [map_map]
      rfl
    rw [hkeys, map_fst_zip hanswer.length_eq.le]

end Roost.Coord.Search
