-- SUMMARY: A claim token is spent once while no id is issued again.
import Roost.Worker.JournalClaims

/-!
# Claim tokens

A caller acts on its claim with the token it was granted, and may try a token again after it was
spent. A new claim takes the id above the highest on file, so an id comes back once the highest
claim is gone, and the old token then acts on the new claim.
-/

namespace Roost.Worker

open OrderedMap OutboxFile Transducer

/-- The token a call brings. -/
def JournalOp.token : JournalOp → Option Reservation
  | .append _ claim _ => claim
  | .hold claim | .release claim => some claim
  | _ => none

/-- What the holder of a token asks for. -/
inductive ClaimCall where
  | hold
  | release
  | emit (event : JournalEvent) (fault : Option Interruption)

def ClaimCall.under (claim : Reservation) : ClaimCall → JournalOp
  | .hold => .hold claim
  | .release => .release claim
  | .emit event fault => .append event (some claim) fault

inductive TokenOp where
  | journal (op : JournalOp) (bare : op.token = none)
  /-- A call with the token of a grant, by its place among the grants. -/
  | present (grant : Nat) (call : ClaimCall)

structure GrantedToken where
  claim : Reservation
  /-- Its claim has left the file since the grant. -/
  spent : Bool

/-- Mark a token as spent once its claim is off the file. -/
def GrantedToken.mark (file : OutboxFile) (token : GrantedToken) : GrantedToken :=
  { token with spent := token.spent || (file.claims.lookup token.claim.id).isNone }

def JournalAnswer.grants : JournalAnswer → List GrantedToken
  | .granted claim => [⟨claim, false⟩]
  | _ => []

/-- The outbox, and the tokens it has granted. -/
structure TokenDesk where
  journal : Journal
  granted : List GrantedToken

/-- The reservation a call takes on. -/
def TokenOp.reserves : TokenOp → Option Nat
  | .journal (.reserveNext name) _ => some name
  | _ => none

namespace TokenDesk

def absent : TokenDesk := ⟨.absent, []⟩

variable (desk : TokenDesk)

def call (op : JournalOp) : TokenDesk × JournalAnswer :=
  let (journal, answer) := desk.journal.step op
  (⟨journal, (desk.granted ++ answer.grants).map (GrantedToken.mark journal.file)⟩, answer)

def step : TokenOp → TokenDesk × JournalAnswer
  | .journal op _ => desk.call op
  | .present grant call =>
    match desk.granted[grant]? with
    | none => (desk, .closed)
    | some token => desk.call (call.under token.claim)

/-- A claim is inserted under an id above every id granted so far. -/
def IssuesFresh (op : TokenOp) : Prop :=
  ∀ name ∈ op.reserves, ∀ call ∈ desk.journal.reserving.lookup name, call.stage = .admitted →
    ∀ token ∈ desk.granted, token.claim.id ≤ maxKey desk.journal.file.claims
  deriving Decidable

/-- The tokens whose claims are gone are marked as spent rightly. -/
def SpentGone : Prop :=
  ∀ token ∈ desk.granted, token.spent → desk.journal.file.claims.lookup token.claim.id = none

end TokenDesk

def tokenCalls : Transducer TokenDesk TokenOp JournalAnswer := ⟨TokenDesk.step⟩

/-- The call was refused. -/
def JournalAnswer.isRefusal : JournalAnswer → Bool
  | .refused _ | .failed _ | .closed => true
  | _ => false

/-- A call with a spent token is refused and leaves every claim as it is. -/
def TokenDesk.RefusesSpent (desk : TokenDesk) : TokenOp → Prop
  | .present grant call =>
    ∀ token ∈ desk.granted[grant]?, token.spent →
      (desk.step (.present grant call)).2.isRefusal ∧
        (desk.step (.present grant call)).1.journal.file.claims = desk.journal.file.claims
  | _ => True

/-- The call spent the token of a grant: a release or an `emit` that succeeded. -/
def spends (grant : Nat) : TokenOp × JournalAnswer → Bool
  | (.present presented .release, .done) => decide (presented = grant)
  | (.present presented (.emit _ _), .appended _) => decide (presented = grant)
  | _ => false

/-! ## One call -/

section

variable {journal : Journal} {id : Nat}

theorem insertRow_claims {file file' : OutboxFile} {clientSeq : Nat} {event : JournalEvent}
    {claim : Option Reservation} {row : PendingRow}
    (h : insertRow file clientSeq event claim = .ok (file', row)) :
    (claim = none ∧ file'.claims = file.claims) ∨ ∃ token stored, claim = some token ∧
      file.claims.lookup token.id = some stored ∧ file'.claims = file.claims.erase token.id := by
  cases claim with
  | none =>
    obtain ⟨-, rfl, -⟩ := addRow_ok h
    exact .inl ⟨rfl, rfl⟩
  | some token =>
    unfold insertRow at h
    dsimp only at h
    split at h
    · rename_i hret
      obtain ⟨⟨stored, hstored⟩, rfl⟩ := retireClaim_ok hret
      obtain ⟨-, rfl, -⟩ := addRow_ok h
      exact .inr ⟨token, stored, rfl, hstored, rfl⟩
    · cases h

/-- An append leaves the claims as they are, or takes its own claim off the file. -/
theorem append_claims (journal : Journal) (window : SequenceWindow) (event : JournalEvent)
    (claim : Option Reservation) (fault : Option Interruption) :
    ((journal.call window (.append event claim fault)).1.file.claims = journal.file.claims ∧
      (claim = none ∨ (journal.call window (.append event claim fault)).2.isRefusal)) ∨
    ∃ token stored, claim = some token ∧ journal.file.claims.lookup token.id = some stored ∧
      (journal.call window (.append event claim fault)).1.file.claims =
        journal.file.claims.erase token.id := by
  obtain ⟨_, hends, hanswer⟩ := journal.append_call window event claim fault
  rw [hanswer]
  cases hends with
  | early events claims | rolledBack events claims => exact .inl ⟨claims, .inr rfl⟩
  | committed events claims inserted =>
    rcases insertRow_claims inserted with ⟨hnone, hsame⟩ | ⟨token, stored, hsome, hstored, hsame⟩
    · exact .inl ⟨hsame.trans claims, .inl hnone⟩
    · rw [claims] at hstored hsame
      exact .inr ⟨token, stored, hsome, hstored, hsame⟩

theorem lookup_retain_none {table : OrderedMap Nat StoredClaim} (h : table.lookup id = none)
    (p : Nat → StoredClaim → Bool) : (table.retain p).lookup id = none := by
  rw [lookup_retain, h]
  rfl

theorem release_ends (file : OutboxFile) (claim : Reservation) :
    (∃ error, file.release claim = (file, .error error)) ∨
      ∃ stored, file.claims.lookup claim.id = some stored ∧
        file.release claim = ({ file with claims := file.claims.erase claim.id }, .ok ()) := by
  unfold OutboxFile.release
  split
  · exact .inl ⟨_, rfl⟩
  rename_i hid
  obtain rfl := claimId_ok hid
  split
  · rename_i hfound
    obtain ⟨stored, hstored⟩ := Option.isSome_iff_exists.mp hfound
    exact .inr ⟨stored, hstored, rfl⟩
  · exact .inl ⟨_, rfl⟩

theorem hold_ends (file : OutboxFile) (claim : Reservation) :
    (∃ error, file.hold claim = (file, .error error)) ∨
      ∃ stored kept, file.claims.lookup claim.id = some stored ∧ file.hold claim =
        ({ file with claims := file.claims.insert claim.id kept },
          .ok { claim with snapshotBlocking := false }) := by
  unfold OutboxFile.hold
  split
  · exact .inl ⟨_, rfl⟩
  rename_i hid
  obtain rfl := claimId_ok hid
  split
  · rename_i stored hstored
    split
    · exact .inr ⟨stored, _, hstored, rfl⟩
    · exact .inl ⟨_, rfl⟩
  · exact .inl ⟨_, rfl⟩

theorem reserveNext_absent (h : journal.file.claims.lookup id = none) {name : Nat}
    (hfresh : ∀ call ∈ journal.reserving.lookup name, call.stage = .admitted →
      id ≤ maxKey journal.file.claims) :
    (journal.reserveNext name).1.file.claims.lookup id = none := by
  unfold Journal.reserveNext
  split
  · exact h
  rename_i call hcall
  split
  · exact h
  · exact h
  · split <;> exact h
  rename_i hstage
  have hne : id ≠ maxKey journal.file.claims + 1 := by
    have hle := hfresh call hcall hstage
    omega
  simp only [insertClaim]
  rw [lookup_insert, if_neg hne]
  exact h

/-- An id that is not on file stays off it, unless a claim is inserted under it. -/
theorem step_absent (h : journal.file.claims.lookup id = none) {op : JournalOp}
    (hfresh : ∀ name, op = .reserveNext name → ∀ call ∈ journal.reserving.lookup name,
      call.stage = .admitted → id ≤ maxKey journal.file.claims) :
    (journal.step op).1.file.claims.lookup id = none := by
  unfold Journal.step
  split
  · cases op with
    | openFile | crash | discardRetiredEvents => exact h
    | append event claim fault =>
      rcases append_claims journal _ event claim fault with
        ⟨hsame, -⟩ | ⟨token, stored, -, -, hsame⟩
      · rw [hsame]
        exact h
      · rw [hsame, lookup_erase, h, ite_self]
    | snapshotSequence offeredThrough fault =>
      rw [(journal.draw_tables _ offeredThrough fault).2]
      exact h
    | acknowledge =>
      simp only [Journal.call, acknowledge]
      split <;> exact h
    | reserve =>
      simp only [Journal.call]
      split
      · exact h
      · split <;> exact h
    | reserveNext name => exact reserveNext_absent h (hfresh name rfl)
    | hold claim =>
      rcases hold_ends journal.file claim with ⟨error, hends⟩ | ⟨stored, kept, hstored, hends⟩
      · simpa only [Journal.call, hends] using h
      · have hne : id ≠ claim.id := fun hsame => by rw [hsame, hstored] at h; cases h
        simpa only [Journal.call, hends, lookup_insert, if_neg hne] using h
    | release claim =>
      rcases release_ends journal.file claim with ⟨error, hends⟩ | ⟨stored, -, hends⟩
      · simpa only [Journal.call, hends] using h
      · simp only [Journal.call, hends, lookup_erase, h, ite_self]
    | reclaimExpired => exact lookup_retain_none h _
  · split
    · unfold Journal.openFile
      dsimp only
      split <;> exact lookup_retain_none h _
    · exact lookup_retain_none h _
    · exact h
    · exact h

/-- A call whose claim is off the file is refused and changes no claim. -/
theorem gone_is_refused {claim : Reservation} (h : journal.file.claims.lookup claim.id = none)
    (call : ClaimCall) : (journal.step (call.under claim)).2.isRefusal ∧
      (journal.step (call.under claim)).1.file.claims = journal.file.claims := by
  unfold Journal.step
  split
  · cases call with
    | hold =>
      rcases hold_ends journal.file claim with ⟨error, hends⟩ | ⟨stored, kept, hstored, -⟩
      · simp [ClaimCall.under, Journal.call, hends, JournalAnswer.isRefusal]
      · rw [h] at hstored
        cases hstored
    | release =>
      rcases release_ends journal.file claim with ⟨error, hends⟩ | ⟨stored, hstored, -⟩
      · simp [ClaimCall.under, Journal.call, hends, JournalAnswer.isRefusal]
      · rw [h] at hstored
        cases hstored
    | emit event fault =>
      rcases append_claims journal _ event (some claim) fault with
        ⟨hsame, hnone | href⟩ | ⟨token, stored, hsome, hstored, -⟩
      · cases hnone
      · exact ⟨href, hsame⟩
      · cases hsome
        rw [h] at hstored
        cases hstored
  · cases call <;> exact ⟨rfl, rfl⟩

/-- A call that succeeds in spending its token takes the claim off the file. -/
theorem spent_is_gone {claim : Reservation} {call : ClaimCall} {grant : Nat}
    (h : spends grant (.present grant call, (journal.step (call.under claim)).2)) :
    (journal.step (call.under claim)).1.file.claims.lookup claim.id = none := by
  revert h
  unfold Journal.step
  split
  · rename_i window hwindow
    cases call with
    | hold => exact fun h => by simp [spends] at h
    | release =>
      rcases release_ends journal.file claim with ⟨error, hends⟩ | ⟨stored, -, hends⟩
      · simp [ClaimCall.under, Journal.call, hends, spends]
      · simp [ClaimCall.under, Journal.call, hends, lookup_erase]
    | emit event fault =>
      intro h
      rcases append_claims journal window event (some claim) fault with
        ⟨-, hnone | href⟩ | ⟨token, stored, hsome, -, hsame⟩
      · cases hnone
      · simp only [ClaimCall.under] at h
        revert h href
        cases (journal.call window (.append event (some claim) fault)).2 <;>
          simp [spends, JournalAnswer.isRefusal]
      · cases hsome
        simp only [ClaimCall.under, hsame]
        simp [lookup_erase]
  · cases call <;> exact fun h => by simp [spends, ClaimCall.under] at h

end

/-! ## Every run -/

namespace TokenDesk

variable {desk : TokenDesk}

theorem call_answer (op : JournalOp) : (desk.call op).2 = (desk.journal.step op).2 := rfl

theorem SpentGone.call (h : desk.SpentGone) {op : JournalOp}
    (hfresh : ∀ name, op = .reserveNext name → ∀ call ∈ desk.journal.reserving.lookup name,
      call.stage = .admitted → ∀ token ∈ desk.granted,
        token.claim.id ≤ maxKey desk.journal.file.claims) : (desk.call op).1.SpentGone := by
  intro token hmem hspent
  obtain ⟨before, hbefore, rfl⟩ := List.mem_map.mp hmem
  rcases Bool.or_eq_true_iff.mp hspent with hmarked | hgone
  · rcases List.mem_append.mp hbefore with hbefore | hnew
    · exact step_absent (h before hbefore hmarked) fun name hop call hcall hstage =>
        hfresh name hop call hcall hstage before hbefore
    · revert hnew
      unfold JournalAnswer.grants
      split
      · intro hnew
        rw [List.mem_singleton.mp hnew] at hmarked
        cases hmarked
      · exact fun hnew => by cases hnew
  · exact Option.isNone_iff_eq_none.mp hgone

/-- A fresh id keeps spent claims off the file. -/
theorem SpentGone.step (h : desk.SpentGone) {op : TokenOp} (hfresh : desk.IssuesFresh op) :
    (desk.step op).1.SpentGone := by
  cases op with
  | journal =>
    refine h.call fun name hop => ?_
    subst hop
    exact hfresh name rfl
  | present grant call =>
    unfold TokenDesk.step
    dsimp only
    split
    · exact h
    · refine h.call fun name hop => ?_
      cases call <;> cases hop

theorem SpentGone.refuses (h : desk.SpentGone) (op : TokenOp) : desk.RefusesSpent op := by
  cases op with
  | journal => trivial
  | present grant call =>
    intro token htoken hspent
    simp only [TokenDesk.step, Option.mem_def.mp htoken]
    exact gone_is_refused (h token (List.mem_of_getElem? htoken) hspent) call

variable {grant : Nat}

/-- A token stays in its place, and is spent once it was or its claim is off the file. -/
theorem getElem_call {token : GrantedToken} (h : desk.granted[grant]? = some token)
    (op : JournalOp) : ∃ after, (desk.call op).1.granted[grant]? = some after ∧ (token.spent ∨
      (desk.journal.step op).1.file.claims.lookup token.claim.id = none → after.spent) := by
  refine ⟨token.mark (desk.journal.step op).1.file, ?_, by simp [GrantedToken.mark]⟩
  simp only [TokenDesk.call, List.getElem?_map]
  rw [List.getElem?_append_left (List.getElem?_eq_some_iff.mp h).1, h]
  rfl

theorem presents_of_spends {op : TokenOp} {answer : JournalAnswer}
    (h : spends grant (op, answer)) : ∃ call, op = .present grant call := by
  cases op with
  | journal => simp [spends] at h
  | present presented call =>
    refine ⟨call, ?_⟩
    cases call <;> cases answer <;> simp_all [spends]

/-- The grant was spent by at most one call, and it is marked once it was. -/
def SpentOnce (grant : Nat) (past : List (TokenOp × JournalAnswer)) (desk : TokenDesk) : Prop :=
  past.countP (spends grant) = 0 ∨ past.countP (spends grant) = 1 ∧
    ∃ token, desk.granted[grant]? = some token ∧ token.spent = true

/-- A grant is spent once at most. -/
theorem SpentOnce.step {past : List (TokenOp × JournalAnswer)}
    (h : SpentOnce grant past desk) (hgone : desk.SpentGone) (op : TokenOp) :
    SpentOnce grant (past ++ [(op, (desk.step op).2)]) (desk.step op).1 := by
  unfold SpentOnce
  rw [List.countP_append, List.countP_singleton]
  by_cases hspends : spends grant (op, (desk.step op).2) = true
  · rw [if_pos hspends]
    -- Only a call with this token spends it; a spent token is refused, so it was not spent before.
    obtain ⟨call, rfl⟩ := presents_of_spends hspends
    revert hspends
    cases htoken : desk.granted[grant]? with
    | none =>
      simp only [TokenDesk.step, htoken]
      cases call <;> simp [spends]
    | some token =>
      simp only [TokenDesk.step, htoken]
      intro hspends
      obtain ⟨after, hafter, hmarks⟩ := getElem_call htoken (call.under token.claim)
      rcases h with hzero | ⟨-, marked, hmarked, hspent⟩
      · exact .inr ⟨by rw [hzero], after, hafter, hmarks (.inr (spent_is_gone hspends))⟩
      · rw [htoken] at hmarked
        cases hmarked
        have href := (gone_is_refused (hgone token (List.mem_of_getElem? htoken) hspent) call).1
        rw [call_answer] at hspends
        revert hspends href
        cases (desk.journal.step (call.under token.claim)).2 <;> cases call <;>
          simp [spends, JournalAnswer.isRefusal]
  · rw [if_neg hspends, Nat.add_zero]
    refine h.imp_right fun ⟨hone, token, htoken, hspent⟩ => ⟨hone, ?_⟩
    cases op with
    | journal op =>
      obtain ⟨after, hafter, hmarks⟩ := getElem_call htoken op
      exact ⟨after, hafter, hmarks (.inl hspent)⟩
    | present presented call =>
      unfold TokenDesk.step
      dsimp only
      split
      · exact ⟨token, htoken, hspent⟩
      · rename_i other _
        obtain ⟨after, hafter, hmarks⟩ := getElem_call htoken (call.under other.claim)
        exact ⟨after, hafter, hmarks (.inl hspent)⟩

end TokenDesk

/-- While every claim is inserted under an id above all that were granted, a token is spent at most
once, and a call with a token whose claim is gone is refused and changes no claim. -/
theorem token_spent_once {ops : List TokenOp}
    (h : tokenCalls.Along TokenDesk.IssuesFresh .absent ops) :
    tokenCalls.Along TokenDesk.RefusesSpent .absent ops ∧
      ∀ grant, (tokenCalls.trace .absent ops).countP (spends grant) ≤ 1 := by
  have hstart : TokenDesk.absent.SpentGone := fun token hmem => by cases hmem
  refine ⟨h.strengthen hstart (fun desk op hgone hfresh => hgone.step hfresh)
    fun desk op hgone _ => hgone.refuses op, fun grant => ?_⟩
  have hrun := Along.traced (T := tokenCalls)
    (P := fun past desk => desk.SpentGone ∧ TokenDesk.SpentOnce grant past desk)
    ⟨hstart, .inl rfl⟩
    (fun past desk op hkept hfresh => ⟨hkept.1.step hfresh, hkept.2.step hkept.1 op⟩) h
  rcases hrun.2 with hzero | ⟨hone, -⟩
  · exact hzero.trans_le (Nat.zero_le 1)
  · exact hone.le

/-- The calls that take a claim for a close. -/
def takingClaim (name payloadBytes : Nat) : List TokenOp :=
  .journal (.reserve name .closed payloadBytes 0) rfl ::
    List.replicate 4 (.journal (.reserveNext name) rfl)

/-- Two claims are live at once. The first is released and its token tried again, before the
second is. -/
def releasedTwice : List TokenOp :=
  .journal (.openFile 0) rfl :: takingClaim 1 2048 ++ takingClaim 2 4096 ++
    [.present 0 .release, .present 0 .release, .present 1 .release]

theorem token_spent_once_released : tokenCalls.Along TokenDesk.RefusesSpent .absent releasedTwice ∧
      ∀ grant, (tokenCalls.trace .absent releasedTwice).countP (spends grant) ≤ 1 :=
  token_spent_once (by decide +kernel)

/-- Between the two releases another caller takes a claim. It is given the id that came free, and
the old token releases it. -/
theorem reissued_id_is_released :
    ¬ ∀ ops : List TokenOp, tokenCalls.Along TokenDesk.RefusesSpent .absent ops ∧
      ∀ grant, (tokenCalls.trace .absent ops).countP (spends grant) ≤ 1 := by
  intro hall
  exact absurd ((hall (.journal (.openFile 0) rfl :: takingClaim 1 2048 ++
    .present 0 .release :: takingClaim 2 4096 ++ [.present 0 .release])).2 0) (by decide +kernel)

end Roost.Worker
