-- SUMMARY: What a claim on the outbox guarantees, and what takes its room away.
import Roost.Worker.Journal

/-!
# Claims on capacity

A claim keeps room for an event only while rows and claims together stay within the caps, and while
no sweep removes it. Calls that bring no claim consult the rows alone, a claim is inserted in
another statement than the one that found room for it, and a claim past its lease is neither counted
nor spared. Along the runs without such a step, whoever holds a claim can write its event.
-/

namespace Roost.Worker

open OrderedMap OutboxFile Transducer

/-! ## Room -/

/-- Rows and claims together are within the caps. -/
structure OutboxFile.Roomy (file : OutboxFile) : Prop where
  rows : file.events.length + file.claims.length ≤ maxRows
  bytes : file.heldBytes + file.claimedBytes ≤ maxPayloadBytes

/-- A claim of this size is on file. -/
def OutboxFile.Keeps (file : OutboxFile) (id payloadBytes : Nat) : Prop :=
  ∃ stored, file.claims.lookup id = some stored ∧ stored.payloadBytes = payloadBytes

variable {file : OutboxFile}

variable {file' : OutboxFile} {clientSeq : Nat} {event : JournalEvent}

theorem OutboxFile.Roomy.of_tables (h : file.Roomy) (hevents : file'.events = file.events)
    (hclaims : file'.claims = file.claims) : file'.Roomy := by
  refine ⟨?_, ?_⟩
  · rw [hevents, hclaims]
    exact h.rows
  · rw [heldBytes, claimedBytes, hevents, hclaims]
    exact h.bytes

variable {payloadBytes : Nat}

theorem OutboxFile.Keeps.of_claims {id : Nat} (h : file.Keeps id payloadBytes)
    (hclaims : file'.claims = file.claims) : file'.Keeps id payloadBytes := by
  unfold OutboxFile.Keeps
  rw [hclaims]
  exact h

section

variable (h : file.Roomy)
include h

theorem OutboxFile.Roomy.of_le (hrows : file'.events.length ≤ file.events.length)
    (hclaims : file'.claims.length ≤ file.claims.length) (hheld : file'.heldBytes ≤ file.heldBytes)
    (hclaim : file'.claimedBytes ≤ file.claimedBytes) : file'.Roomy :=
  ⟨(Nat.add_le_add hrows hclaims).trans h.rows, (Nat.add_le_add hheld hclaim).trans h.bytes⟩

theorem OutboxFile.Roomy.reclaimExpired (now : Int) : (file.reclaimExpired now).Roomy :=
  h.of_le le_rfl (length_retain_le _ _) le_rfl (total_retain_le _ _ _)

theorem OutboxFile.Roomy.discardRetiredEvents : file.discardRetiredEvents.Roomy :=
  h.of_le (length_retain_le _ _) le_rfl (total_retain_le _ _ _) le_rfl

theorem OutboxFile.Roomy.acknowledge (clientSeq : Nat) : (file.acknowledge clientSeq).1.Roomy := by
  unfold OutboxFile.acknowledge
  split
  · exact h
  · exact h.of_le (OrderedMap.length_retain_le _ _) le_rfl (OrderedMap.total_retain_le _ _ _) le_rfl

theorem OutboxFile.Roomy.release (claim : Reservation) : (file.release claim).1.Roomy := by
  unfold OutboxFile.release
  split
  · exact h
  split
  · exact h.of_le le_rfl (OrderedMap.length_retain_le _ _) le_rfl (OrderedMap.total_retain_le _ _ _)
  · exact h

theorem OutboxFile.Roomy.hold (claim : Reservation) : (file.hold claim).1.Roomy := by
  unfold OutboxFile.hold
  split
  · exact h
  split
  · rename_i hstored
    split
    · refine h.of_le le_rfl ?_ le_rfl ?_
      · dsimp only
        rw [OrderedMap.length_insert, OrderedMap.length_erase hstored]
      · rw [OutboxFile.claimedBytes, OrderedMap.total_insert]
        exact (OrderedMap.total_erase (·.payloadBytes) hstored).le
    · exact h
  · exact h

end

theorem length_insert_event_le (file : OutboxFile) (clientSeq : Nat) (row : StoredEvent) :
    (file.events.insert clientSeq row).length ≤ file.events.length + 1 ∧
      (file.events.insert clientSeq row).total (·.payloadBytes) ≤
        file.heldBytes + row.payloadBytes := by
  have hrows := length_retain_le file.events fun other _ => decide (other ≠ clientSeq)
  have hbytes := total_retain_le (·.payloadBytes) file.events
    fun other _ => decide (other ≠ clientSeq)
  rw [length_insert, total_insert]
  exact ⟨Nat.succ_le_succ hrows, by rw [Nat.add_comm]; exact Nat.add_le_add_right hbytes _⟩

/-! ## How an append ends -/

/-- The refusals a claim is there to rule out: the store is full, or the claim is gone. -/
def JournalError.breaksClaim : JournalError → Bool
  | .full _ _ _ _ => true
  | error => decide (error = claimGone)

/-- How a call of `append` or `emit` ends, as far as the tables go. -/
inductive AppendEnds (file : OutboxFile) (event : JournalEvent) (claim : Option Reservation)
    (fault : Option Interruption) : OutboxFile → Except JournalError PendingRow → Prop where
  | early {file' : OutboxFile} {error : JournalError} (events : file'.events = file.events)
      (claims : file'.claims = file.claims) (harml : error.breaksClaim = false) :
      AppendEnds file event claim fault file' (.error error)
  | rolledBack {file' : OutboxFile} {clientSeq : Nat} {error : JournalError}
      (events : file'.events = file.events) (claims : file'.claims = file.claims)
      (refused : insertRow file' clientSeq event claim = .error error) :
      AppendEnds file event claim fault file' (.error error)
  | committed {base file' : OutboxFile} {clientSeq : Nat} {row : PendingRow}
      {result : Except JournalError PendingRow} (events : base.events = file.events)
      (claims : base.claims = file.claims)
      (inserted : insertRow base clientSeq event claim = .ok (file', row))
      (told : result = .ok row ∨ (fault = some .committed ∧ result = .error (.query "commit" ""))) :
      AppendEnds file event claim fault file' result

theorem reserveBlock_ends (file : OutboxFile) (win : SequenceWindow) (fault : Option Interruption) :
    (reserveBlock file win fault).1.events = file.events ∧
      (reserveBlock file win fault).1.claims = file.claims ∧
      ∀ error, (reserveBlock file win fault).2.2 = .error error → error.breaksClaim = false := by
  simp only [reserveBlock]
  split_ifs
  · exact ⟨rfl, rfl, fun error herror => by cases herror; decide⟩
  · exact ⟨rfl, rfl, fun error herror => by cases herror; decide⟩
  · exact ⟨rfl, rfl, fun error herror => by cases herror⟩
  · exact ⟨rfl, rfl, fun error herror => by cases herror; decide⟩

theorem claimSequenceIn_ends (file : OutboxFile) (win : SequenceWindow)
    (fault : Option Interruption) : (claimSequenceIn file win fault).1.events = file.events ∧
      (claimSequenceIn file win fault).1.claims = file.claims ∧
      ∀ error, (claimSequenceIn file win fault).2.2 = .error error → error.breaksClaim = false := by
  unfold claimSequenceIn
  split
  · have hends := reserveBlock_ends file win fault
    split
    · rename_i hres
      rw [hres] at hends
      exact ⟨hends.1, hends.2.1, fun error herror => by cases herror⟩
    · rename_i hfailed
      rw [hfailed] at hends
      exact ⟨hends.1, hends.2.1, fun error herror => hends.2.2 error (by cases herror; rfl)⟩
  · exact ⟨rfl, rfl, fun error herror => by cases herror⟩

theorem appendWithin_ends (file : OutboxFile) (win : SequenceWindow) (event : JournalEvent)
    (claim : Option Reservation) (fault : Option Interruption) :
    AppendEnds file event claim fault (appendWithin file win event claim fault).1
      (appendWithin file win event claim fault).2.2 := by
  unfold appendWithin
  split
  · exact .early rfl rfl (by decide)
  obtain ⟨hevents, hclaims, hharmless⟩ := claimSequenceIn_ends file win fault
  split
  · rename_i hfailed
    rw [hfailed] at hevents hclaims hharmless
    exact .early hevents hclaims (hharmless _ rfl)
  rename_i hclaim
  rw [hclaim] at hevents hclaims
  split
  · exact .early hevents hclaims (by decide)
  split
  · rename_i href
    exact .rolledBack hevents hclaims href
  rename_i hins
  split
  · rename_i hlost
    exact .committed hevents hclaims hins (.inr ⟨hlost, rfl⟩)
  · exact .committed hevents hclaims hins (.inl rfl)

/-! ## The transaction -/

theorem addRow_roomy {row : PendingRow} (h : addRow file clientSeq event = .ok (file', row))
    (hrows : file.events.length + file.claims.length + 1 ≤ maxRows)
    (hbytes : file.heldBytes + file.claimedBytes + event.payloadBytes ≤ maxPayloadBytes) :
    file'.Roomy := by
  obtain ⟨-, rfl, -⟩ := addRow_ok h
  obtain ⟨hcount, hheld⟩ := length_insert_event_le file clientSeq ⟨event, event.payloadBytes⟩
  refine ⟨?_, ?_⟩
  · dsimp only
    omega
  rw [heldBytes, claimedBytes]
  rw [claimedBytes] at hbytes
  dsimp only at hheld ⊢
  omega

theorem erase_claim_room {id : Nat} {stored : StoredClaim} (h : file.claims.lookup id = some stored)
    : (file.claims.erase id).length + 1 = file.claims.length ∧
      stored.payloadBytes + (file.claims.erase id).total (·.payloadBytes) = file.claimedBytes :=
  ⟨length_erase h, total_erase (·.payloadBytes) h⟩

theorem emit_roomy (hroomy : file.Roomy) {claim : Reservation} {row : PendingRow}
    (h : insertRow file clientSeq event (some claim) = .ok (file', row))
    (hbytes : ∀ stored, file.claims.lookup claim.id = some stored →
      file.heldBytes + event.payloadBytes ≤ maxPayloadBytes →
      file.heldBytes + file.claimedBytes + event.payloadBytes ≤
        maxPayloadBytes + stored.payloadBytes) : file'.Roomy := by
  unfold insertRow at h
  dsimp only at h
  split at h
  · rename_i hret
    obtain ⟨⟨stored, hstored⟩, rfl⟩ := retireClaim_ok hret
    obtain ⟨hcount, hheld⟩ := erase_claim_room hstored
    have hroom := hbytes stored hstored (addRow_ok h).1.2
    refine addRow_roomy h ?_ ?_
    · have hrows := hroomy.rows
      dsimp only
      omega
    rw [heldBytes, claimedBytes]
    rw [heldBytes] at hroom
    dsimp only
    omega
  · cases h

theorem emit_not_refused (hroomy : file.Roomy) {claim : Reservation}
    (hkeeps : file.Keeps claim.id payloadBytes) (hfits : event.payloadBytes ≤ payloadBytes)
    {error : JournalError} (h : insertRow file clientSeq event (some claim) = .error error) :
    error.breaksClaim = false := by
  obtain ⟨stored, hstored, rfl⟩ := hkeeps
  unfold insertRow at h
  dsimp only at h
  split at h
  · rename_i hret
    obtain ⟨-, rfl⟩ := retireClaim_ok hret
    obtain ⟨hcount, hheld⟩ := erase_claim_room hstored
    obtain ⟨hrows, hbytes⟩ := hroomy
    unfold addRow at h
    split_ifs at h with hfull
    · rw [heldBytes] at hfull hbytes
      dsimp only at hfull
      omega
    · cases h
      decide
  · rename_i hret
    cases h
    unfold retireClaim at hret
    split at hret
    · cases hret
      simp [JournalError.breaksClaim, claimGone]
    · rename_i hid
      obtain rfl := claimId_ok hid
      simp [hstored] at hret

/-! ## One call -/

/-- What a call writes fits beside every claim on file, lapsed ones included: a row without a claim,
a row larger than its claim, and the insert of a claim. -/
def Journal.LeavesRoom (journal : Journal) : JournalOp → Prop
  | .append event none _ =>
    journal.file.events.length < maxRows →
      journal.file.heldBytes + event.payloadBytes ≤ maxPayloadBytes →
      journal.file.events.length + journal.file.claims.length + 1 ≤ maxRows ∧
        journal.file.heldBytes + journal.file.claimedBytes + event.payloadBytes ≤ maxPayloadBytes
  | .append event (some claim) _ =>
    ∀ stored ∈ journal.file.claims.lookup claim.id,
      journal.file.heldBytes + event.payloadBytes ≤ maxPayloadBytes →
      journal.file.heldBytes + journal.file.claimedBytes + event.payloadBytes ≤
        maxPayloadBytes + stored.payloadBytes
  | .reserveNext name =>
    ∀ call ∈ journal.reserving.lookup name, call.stage = .admitted →
      journal.file.events.length + journal.file.claims.length + 1 ≤ maxRows ∧
        journal.file.heldBytes + journal.file.claimedBytes + call.payloadBytes ≤ maxPayloadBytes
  | _ => True

instance (journal : Journal) (op : JournalOp) : Decidable (journal.LeavesRoom op) := by
  unfold Journal.LeavesRoom
  split <;> infer_instance

/-- A sweep of lapsed claims, if the call makes one, leaves the claim on file. -/
def Journal.Spares (id : Nat) (journal : Journal) : JournalOp → Prop
  | .reclaimExpired now =>
    ∀ stored ∈ journal.file.claims.lookup id, leaseCutoff now ≤ stored.claimedAtMs
  | .openFile now =>
    ∀ stored ∈ journal.file.claims.lookup id, leaseCutoff now ≤ stored.claimedAtMs
  | _ => True

/-- The call released the claim, or consumed it. -/
def GivesUp (id : Nat) : JournalOp → JournalAnswer → Prop
  | .release claim, .done => claim.id = id
  | .append _ (some claim) _, .appended _ => claim.id = id
  | .append _ (some claim) (some .committed), .failed error =>
    claim.id = id ∧ error = .query "commit" ""
  | _, _ => False

theorem insertClaim_fresh (table : OrderedMap Nat StoredClaim) {id : Nat} {stored : StoredClaim}
    (h : table.lookup id = some stored) : id ≠ maxKey table + 1 := by
  have hmem : id ∈ table.keys := mem_keys_iff.mpr ⟨stored, h⟩
  have hle : id ≤ maxKey table := by
    unfold maxKey
    cases hlast : table.keys.getLast? with
    | none =>
      rw [List.getLast?_eq_none_iff.mp hlast] at hmem
      cases hmem
    | some last =>
      obtain ⟨_, hkeys⟩ := List.getLast?_eq_some_iff.mp hlast
      have hsorted : table.keys.Pairwise (· < ·) := table.sorted
      rw [hkeys] at hmem hsorted
      rcases List.mem_append.mp hmem with hpre | hlast
      · exact ((List.pairwise_append.mp hsorted).2.2 id hpre last (by simp)).le
      · exact (List.mem_singleton.mp hlast).le
  omega

theorem insertClaim_absent (table : OrderedMap Nat StoredClaim) :
    table.lookup (maxKey table + 1) = none := by
  cases hfound : table.lookup (maxKey table + 1) with
  | none => rfl
  | some => exact absurd rfl (insertClaim_fresh table hfound)

namespace Journal

variable {jrnl : Journal} {op : JournalOp} {id payloadBytes name : Nat}

theorem reserveNext_roomy (h : jrnl.file.Roomy)
    (hroom : jrnl.LeavesRoom (.reserveNext name)) : (jrnl.reserveNext name).1.file.Roomy := by
  unfold Journal.reserveNext
  split
  · exact h
  rename_i call hcall
  split
  · exact h
  · exact h
  · split <;> exact h
  rename_i hstage
  obtain ⟨hrows, hbytes⟩ := hroom call hcall hstage
  have habsent := insertClaim_absent jrnl.file.claims
  refine ⟨?_, ?_⟩
  · simp only [insertClaim]
    rw [length_insert, length_erase_absent habsent]
    omega
  simp only [insertClaim, heldBytes, claimedBytes]
  rw [total_insert, total_erase_absent _ habsent]
  rw [heldBytes, claimedBytes] at hbytes
  dsimp only
  omega

theorem append_call (jrnl : Journal) (win : SequenceWindow) (event : JournalEvent)
    (claim : Option Reservation) (fault : Option Interruption) :
    ∃ result, AppendEnds jrnl.file event claim fault
        (jrnl.call win (.append event claim fault)).1.file result ∧
      (jrnl.call win (.append event claim fault)).2 = match result with
        | .ok row => .appended row
        | .error error => .failed error := by
  have hends := appendWithin_ends jrnl.file win event claim fault
  refine ⟨(appendWithin jrnl.file win event claim fault).2.2, ?_, ?_⟩
  · simp only [call]
    split
    · rename_i hdone
      rw [hdone] at hends ⊢
      exact hends
    · rename_i hfailed
      rw [hfailed] at hends ⊢
      exact hends
  · simp only [call]
    split
    · rename_i hdone
      rw [hdone]
    · rename_i hfailed
      rw [hfailed]

variable {event : JournalEvent} {claim : Option Reservation} {fault : Option Interruption}
  {win : SequenceWindow}

theorem append_roomy (h : jrnl.file.Roomy)
    (hroom : jrnl.LeavesRoom (.append event claim fault)) :
    (jrnl.call win (.append event claim fault)).1.file.Roomy := by
  obtain ⟨_, hends, -⟩ := append_call jrnl win event claim fault
  cases hends with
  | early events claims | rolledBack events claims => exact h.of_tables events claims
  | committed events claims inserted =>
    rename_i base _ _ _
    have hbase := h.of_tables events claims
    have hheld : base.heldBytes = jrnl.file.heldBytes := by
      rw [heldBytes, events, heldBytes]
    have hclaim : base.claimedBytes = jrnl.file.claimedBytes := by
      rw [claimedBytes, claims, claimedBytes]
    cases claim with
    | none =>
      obtain ⟨⟨hrows, hbytes⟩, -⟩ := addRow_ok inserted
      rw [events] at hrows
      rw [hheld] at hbytes
      obtain ⟨hfitRows, hfit⟩ := hroom hrows hbytes
      refine addRow_roomy inserted ?_ ?_
      · rw [events, claims]
        exact hfitRows
      · rw [hheld, hclaim]
        exact hfit
    | some =>
      refine emit_roomy hbase inserted fun stored hstored hbytes => ?_
      rw [hheld] at hbytes ⊢
      rw [hclaim]
      exact hroom stored (claims ▸ hstored) hbytes

theorem snapshotSequence_tables (file : OutboxFile) (win : SequenceWindow)
    (offeredThrough : Nat) (fault : Option Interruption) :
    (snapshotSequence file win offeredThrough fault).1.events = file.events ∧
      (snapshotSequence file win offeredThrough fault).1.claims = file.claims := by
  unfold snapshotSequence
  split
  · exact ⟨rfl, rfl⟩
  have hends := claimSequenceIn_ends file win fault
  split
  · rename_i hdone
    rw [hdone] at hends
    exact ⟨hends.1, hends.2.1⟩
  · rename_i hfailed
    rw [hfailed] at hends
    exact ⟨hends.1, hends.2.1⟩

theorem draw_tables (jrnl : Journal) (win : SequenceWindow) (offeredThrough : Nat)
    (fault : Option Interruption) :
    (jrnl.call win (.snapshotSequence offeredThrough fault)).1.file.events = jrnl.file.events ∧
      (jrnl.call win (.snapshotSequence offeredThrough fault)).1.file.claims =
        jrnl.file.claims := by
  have htables := snapshotSequence_tables jrnl.file win offeredThrough fault
  simp only [call]
  split
  · rename_i hdone
    rw [hdone] at htables
    exact htables
  · rename_i hfailed
    rw [hfailed] at htables
    exact htables

/-- A call that leaves room keeps the caps. -/
theorem roomy_step (h : jrnl.file.Roomy) (hroom : jrnl.LeavesRoom op) :
    (jrnl.step op).1.file.Roomy := by
  unfold Journal.step
  split
  · rename_i win hwindow
    cases op with
    | openFile | crash => exact h
    | append => exact append_roomy h hroom
    | snapshotSequence offeredThrough fault =>
      have htables := draw_tables jrnl win offeredThrough fault
      exact h.of_tables htables.1 htables.2
    | acknowledge clientSeq => exact h.acknowledge clientSeq
    | reserve =>
      simp only [call]
      split
      · exact h
      · split <;> exact h
    | reserveNext => exact reserveNext_roomy h hroom
    | hold claim => exact h.hold claim
    | release claim => exact h.release claim
    | reclaimExpired now => exact h.reclaimExpired now
    | discardRetiredEvents => exact h.discardRetiredEvents
  · split
    · rename_i now
      unfold Journal.openFile
      dsimp only
      split <;> exact h.discardRetiredEvents.reclaimExpired now
    · rename_i now
      exact h.reclaimExpired now
    · exact h.discardRetiredEvents
    · exact h

/-! ## The claim stays on file -/

theorem keeps_reclaim (h : file.Keeps id payloadBytes) {now : Int}
    (hspares : ∀ stored, file.claims.lookup id = some stored →
      leaseCutoff now ≤ stored.claimedAtMs) : (file.reclaimExpired now).Keeps id payloadBytes := by
  obtain ⟨stored, hstored, hbytes⟩ := h
  refine ⟨stored, ?_, hbytes⟩
  rw [reclaimExpired, lookup_retain, hstored]
  simp [hspares stored hstored]

theorem keeps_erase (h : file.Keeps id payloadBytes) {other : Nat} (hne : other ≠ id) :
    OutboxFile.Keeps { file with claims := file.claims.erase other } id payloadBytes := by
  obtain ⟨stored, hstored, hbytes⟩ := h
  refine ⟨stored, ?_, hbytes⟩
  rw [lookup_erase, if_neg (Ne.symm hne)]
  exact hstored

theorem keeps_insertRow (h : file.Keeps id payloadBytes) {clientSeq : Nat} {file' : OutboxFile} {row : PendingRow}
    (hins : insertRow file clientSeq event claim = .ok (file', row))
    (hother : ∀ token, claim = some token → token.id ≠ id) : file'.Keeps id payloadBytes := by
  cases claim with
  | none =>
    obtain ⟨-, rfl, -⟩ := addRow_ok hins
    exact h
  | some token =>
    unfold insertRow at hins
    dsimp only at hins
    split at hins
    · rename_i hret
      obtain ⟨-, rfl⟩ := retireClaim_ok hret
      obtain ⟨-, rfl, -⟩ := addRow_ok hins
      exact keeps_erase h (hother token rfl)
    · cases hins

theorem keeps_append (h : jrnl.file.Keeps id payloadBytes)
    (hkept : ¬ GivesUp id (.append event claim fault)
      (jrnl.call win (.append event claim fault)).2) :
    (jrnl.call win (.append event claim fault)).1.file.Keeps id payloadBytes := by
  obtain ⟨_, hends, hanswer⟩ := append_call jrnl win event claim fault
  rw [hanswer] at hkept
  cases hends with
  | early events claims | rolledBack events claims => exact h.of_claims claims
  | committed events claims inserted told =>
    refine keeps_insertRow (h.of_claims claims) inserted ?_
    rintro token rfl rfl
    rcases told with rfl | ⟨rfl, rfl⟩
    · exact hkept rfl
    · exact hkept ⟨rfl, rfl⟩

theorem keeps_reserveNext (h : jrnl.file.Keeps id payloadBytes) (name : Nat) :
    (jrnl.reserveNext name).1.file.Keeps id payloadBytes := by
  unfold Journal.reserveNext
  split
  · exact h
  split
  · exact h
  · exact h
  · split <;> exact h
  obtain ⟨stored, hstored, hbytes⟩ := h
  refine ⟨stored, ?_, hbytes⟩
  simp only [insertClaim]
  rw [lookup_insert, if_neg (insertClaim_fresh _ hstored)]
  exact hstored

theorem keeps_hold (h : file.Keeps id payloadBytes) (claim : Reservation) :
    (file.hold claim).1.Keeps id payloadBytes := by
  unfold hold
  split
  · exact h
  rename_i held _
  split
  · rename_i stored hstored
    split
    · obtain ⟨kept, hkept, hbytes⟩ := h
      by_cases hsame : id = held
      · subst hsame
        rw [hstored] at hkept
        cases hkept
        refine ⟨{ stored with snapshotBlocking := false }, ?_, hbytes⟩
        rw [lookup_insert, if_pos rfl]
      · refine ⟨kept, ?_, hbytes⟩
        rw [lookup_insert, if_neg hsame]
        exact hkept
    · exact h
  · exact h

theorem keeps_release (h : file.Keeps id payloadBytes) (claim : Reservation)
    (hother : (file.release claim).2 = .ok () → claim.id ≠ id) :
    (file.release claim).1.Keeps id payloadBytes := by
  revert hother
  unfold release
  split
  · exact fun _ => h
  rename_i hrel
  obtain rfl := claimId_ok hrel
  split
  · exact fun hother => keeps_erase h (hother rfl)
  · exact fun _ => h

/-- A call that spares a claim keeps it. -/
theorem keeps_step (h : jrnl.file.Keeps id payloadBytes) (hspares : jrnl.Spares id op)
    (hkept : ¬ GivesUp id op (jrnl.step op).2) : (jrnl.step op).1.file.Keeps id payloadBytes := by
  revert hkept
  unfold Journal.step
  split
  · rename_i win hwindow
    cases op with
    | openFile | crash | discardRetiredEvents => exact fun _ => h
    | append => exact keeps_append h
    | snapshotSequence offeredThrough fault =>
      exact fun _ => h.of_claims (draw_tables jrnl win offeredThrough fault).2
    | acknowledge =>
      intro _
      simp only [call, acknowledge]
      split <;> exact h
    | reserve =>
      intro _
      simp only [call]
      split
      · exact h
      · split <;> exact h
    | reserveNext name => exact fun _ => keeps_reserveNext h name
    | hold claim => exact fun _ => keeps_hold h claim
    | release claim =>
      intro hkept
      refine keeps_release h claim fun hrel hsame => hkept ?_
      simp only [call, hrel]
      exact hsame
    | reclaimExpired => exact fun _ => keeps_reclaim h hspares
  · intro _
    split
    · rename_i now _
      have hdisc : jrnl.file.discardRetiredEvents.Keeps id payloadBytes := h
      have hswept := keeps_reclaim hdisc hspares
      unfold Journal.openFile
      dsimp only
      split <;> exact hswept
    · exact keeps_reclaim h hspares
    · exact h
    · exact h

theorem keeps_reserveNext_granted {claim : Reservation}
    (h : (jrnl.reserveNext name).2 = .granted claim) :
    (jrnl.reserveNext name).1.file.Keeps claim.id claim.payloadBytes := by
  revert h
  unfold Journal.reserveNext
  split
  · exact fun h => by cases h
  split
  · exact fun h => by cases h
  · exact fun h => by cases h
  · split <;> exact fun h => by cases h
  · intro h
    cases h
    exact ⟨⟨_, _, _, true⟩, (lookup_insert _ _ _ _).trans (if_pos rfl), rfl⟩

theorem keeps_granted {claim : Reservation} (h : (jrnl.step op).2 = .granted claim) :
    (jrnl.step op).1.file.Keeps claim.id claim.payloadBytes := by
  revert h
  unfold Journal.step
  split
  · rename_i win hwindow
    cases op with
    | append event token fault =>
      obtain ⟨result, -, hanswer⟩ := append_call jrnl win event token fault
      rw [hanswer]
      cases result <;> exact fun h => by cases h
    | snapshotSequence | hold | release =>
      simp only [call]
      split <;> exact fun h => by cases h
    | reserve =>
      simp only [call]
      split
      · exact fun h => by cases h
      · split <;> exact fun h => by cases h
    | reserveNext => exact keeps_reserveNext_granted
    | _ => exact fun h => by cases h
  · split
    · unfold Journal.openFile
      dsimp only
      split <;> exact fun h => by cases h
    all_goals exact fun h => by cases h

/-- A held claim's event is never refused for room. -/
theorem emit_step (hroomy : jrnl.file.Roomy) {token : Reservation}
    (hkeeps : jrnl.file.Keeps token.id payloadBytes) (hfits : event.payloadBytes ≤ payloadBytes)
    {error : JournalError}
    (hfailed : (jrnl.step (.append event (some token) fault)).2 = .failed error) :
    error.breaksClaim = false := by
  revert hfailed
  unfold Journal.step
  split
  · rename_i win hwindow
    obtain ⟨result, hends, hanswer⟩ := append_call jrnl win event (some token) fault
    rw [hanswer]
    intro hfailed
    cases hends with
    | early events claims harml =>
      cases hfailed
      exact harml
    | rolledBack events claims refused =>
      cases hfailed
      exact emit_not_refused (hroomy.of_tables events claims) (hkeeps.of_claims claims) hfits refused
    | committed events claims inserted told =>
      rcases told with rfl | ⟨-, rfl⟩
      · cases hfailed
      · cases hfailed
        decide
  · exact fun h => by cases h

end Journal

/-! ## Every run -/

theorem roomy_run {ops : List JournalOp} (h : journalCalls.Along Journal.LeavesRoom .absent ops) :
    (journalCalls.run .absent ops).file.Roomy := by
  refine h.invariant (P := fun jrnl => jrnl.file.Roomy) ?_ fun jrnl op hroomy hroom => ?_
  · exact ⟨by decide, by decide⟩
  · exact Journal.roomy_step hroomy hroom

theorem keeps_run {jrnl : Journal} {id : Nat} (h : jrnl.file.Keeps id payloadBytes)
    {ops : List JournalOp} (hspares : journalCalls.Along (Journal.Spares id) jrnl ops)
    (hkept : ∀ entry ∈ journalCalls.trace jrnl ops, ¬ GivesUp id entry.1 entry.2) :
    (journalCalls.run jrnl ops).file.Keeps id payloadBytes := by
  induction ops generalizing jrnl with
  | nil => exact h
  | cons op ops ih =>
    simp only [trace, List.forall_mem_cons] at hkept
    exact ih (Journal.keeps_step h hspares.1 hkept.1) hspares.2 hkept.2

/-- A held claim guarantees its close. In a run whose calls leave room for every claim on file, a
claim that was granted, and that since then nobody released or consumed and no sweep removed, lets
its event in: an `emit` under it of an event no larger than the claim is not refused as full, and
does not fail because the claim is gone. -/
theorem held_claim_guarantees_close {early since : List JournalOp} {grant : JournalOp}
    {claim : Reservation}
    (hroom : journalCalls.Along Journal.LeavesRoom .absent (early ++ grant :: since))
    (hgranted : journalCalls.answer (journalCalls.run .absent early) grant = .granted claim)
    (hspares : journalCalls.Along (Journal.Spares claim.id)
      (journalCalls.run .absent (early ++ [grant])) since)
    (hkept : ∀ entry ∈ journalCalls.trace (journalCalls.run .absent (early ++ [grant])) since,
      ¬ GivesUp claim.id entry.1 entry.2)
    {event : JournalEvent} (hfits : event.payloadBytes ≤ claim.payloadBytes)
    {token : Reservation} (htoken : token.id = claim.id) (fault : Option Interruption) :
    (∀ rows bytes maxRows maxBytes,
      journalCalls.answer (journalCalls.run .absent (early ++ grant :: since))
        (.append event (some token) fault) ≠ .failed (.full rows bytes maxRows maxBytes)) ∧
    journalCalls.answer (journalCalls.run .absent (early ++ grant :: since))
      (.append event (some token) fault) ≠ .failed claimGone := by
  have hroomy := roomy_run hroom
  have hsplit : journalCalls.run .absent (early ++ grant :: since) =
      journalCalls.run (journalCalls.run .absent (early ++ [grant])) since := by
    rw [← run_append]
    simp
  have hon : (journalCalls.run .absent (early ++ [grant])).file.Keeps claim.id
      claim.payloadBytes := by
    rw [run_concat]
    exact Journal.keeps_granted hgranted
  have hkeeps := keeps_run hon hspares hkept
  rw [← hsplit] at hkeeps
  have hanswer : ∀ error, journalCalls.answer (journalCalls.run .absent (early ++ grant :: since))
      (.append event (some token) fault) = .failed error → error.breaksClaim = false :=
    fun _ => Journal.emit_step hroomy (htoken ▸ hkeeps) hfits
  refine ⟨fun rows bytes maxRows maxBytes hfull => ?_, fun hgone => ?_⟩
  · exact absurd (hanswer _ hfull) (by simp [JournalError.breaksClaim])
  · exact absurd (hanswer _ hgone) (by decide)

/-- The calls that take a claim of 2048 bytes for a close, up to its insert. -/
def readingClaim : List JournalOp :=
  [.openFile 0, .reserve 1 .closed 2048 0, .reserveNext 1, .reserveNext 1, .reserveNext 1]

def closeClaim : Reservation := ⟨1, .closed, 2048, true⟩

def closeEvent : JournalEvent := ⟨"closed", "s", "{}"⟩

/-- The guarantee at a run that appends a row between the claim and its close. -/
theorem held_claim_closes_after_append : (∀ rows bytes maxRows maxBytes, journalCalls.answer
          (journalCalls.run .absent
            (readingClaim ++ .reserveNext 1 :: [.append closeEvent none none]))
          (.append closeEvent (some closeClaim) none) ≠
        .failed (.full rows bytes maxRows maxBytes)) ∧
    journalCalls.answer
        (journalCalls.run .absent
          (readingClaim ++ .reserveNext 1 :: [.append closeEvent none none]))
        (.append closeEvent (some closeClaim) none) ≠ .failed claimGone :=
  @held_claim_guarantees_close readingClaim [.append closeEvent none none] (.reserveNext 1)
    closeClaim (by decide +kernel) (by decide +kernel) ⟨trivial, trivial⟩
    (by simp [trace, GivesUp]) closeEvent (by decide +kernel) closeClaim rfl none

/-! ## A store that fills up -/

/-- The outbox holds so many rows of the close event, numbered from one. -/
structure Journal.Filled (rows : Nat) (journal : Journal) : Prop where
  window : journal.window = some ⟨rows, journal.file.reservedThrough⟩
  numbered : rows ≤ journal.file.reservedThrough
  reserved : journal.file.reservedThrough ≤ rows + sequenceBlockSize
  keys : ∀ key ∈ journal.file.events.keys, key ≤ rows
  count : journal.file.events.length = rows
  bytes : journal.file.heldBytes = 2 * rows

section Filled

/-- The claims on file once an event retired its own. -/
def OutboxFile.claimsWithout (file : OutboxFile) : Option Reservation → OrderedMap Nat StoredClaim
  | none => file.claims
  | some claim => file.claims.erase claim.id

variable {journal : Journal} {rows : Nat} (h : journal.Filled rows) (claim : Option Reservation)
include h

/-- The next number is drawn from the block on file, or from the one after it. -/
theorem Journal.Filled.draws (hrows : rows ≤ maxRows) : ∃ through,
    claimSequenceIn journal.file ⟨rows, journal.file.reservedThrough⟩ none =
      ({ journal.file with reservedThrough := through }, ⟨rows + 1, through⟩, .ok (rows + 1)) ∧
    rows + 1 ≤ through ∧ through ≤ rows + 1 + sequenceBlockSize := by
  have hreserved := h.reserved
  unfold maxRows at hrows
  unfold claimSequenceIn reserveBlock maxSequence
  unfold sequenceBlockSize at hreserved ⊢
  split
  · rename_i hspent
    have hfloor : max rows journal.file.reservedThrough = rows := max_eq_left hspent
    refine ⟨rows + 1024, ?_, by omega, by omega⟩
    simp only [hfloor]
    rw [if_pos (by omega)]
    rfl
  · rename_i hleft
    exact ⟨journal.file.reservedThrough, rfl, Nat.lt_of_not_le hleft, by omega⟩

variable (hlive : ∀ token, claim = some token →
  token.id ≤ maxSequence ∧ (journal.file.claims.lookup token.id).isSome = true)
include hlive

omit h in
theorem insertRow_retires (through : Nat) (clientSeq : Nat) :
    insertRow { journal.file with reservedThrough := through } clientSeq closeEvent claim =
      addRow ⟨journal.file.events, journal.file.claimsWithout claim, through⟩ clientSeq
        closeEvent := by
  cases claim with
  | none => rfl
  | some token => simp [insertRow, retireClaim, claimId, claimsWithout, hlive token rfl]

/-- Below the cap an event without a claim, or under a claim on file, is one more row. -/
theorem Journal.Filled.append (hrows : rows < maxRows) :
    (journal.step (.append closeEvent claim none)).1.Filled (rows + 1) ∧
      (journal.step (.append closeEvent claim none)).1.file.claims = journal.file.claimsWithout claim ∧
      (journal.step (.append closeEvent claim none)).1.reserving = journal.reserving := by
  obtain ⟨through, hdrawn, hbeyond, hblock⟩ := h.draws hrows.le
  obtain ⟨hwindow, -, -, hkeys, hcount, hbytes⟩ := h
  have hfresh : journal.file.events.lookup (rows + 1) = none := by
    rw [Option.eq_none_iff_forall_not_mem]
    intro stored hstored
    have hbelow := hkeys _ (mem_keys_iff.mpr ⟨stored, hstored⟩)
    omega
  have hsize : closeEvent.payloadBytes = 2 := by decide +kernel
  have hadded : journal.step (.append closeEvent claim none) =
      (⟨{ journal.file with
            reservedThrough := through
            claims := journal.file.claimsWithout claim
            events := journal.file.events.insert (rows + 1) ⟨closeEvent, 2⟩ },
          some ⟨rows + 1, through⟩, journal.reserving⟩,
        .appended ⟨rows + 1, closeEvent, 2⟩) := by
    have hroom : ¬ (maxRows ≤ journal.file.events.length ∨
        maxPayloadBytes < journal.file.heldBytes + 2) := by
      unfold maxRows at hrows ⊢
      unfold maxPayloadBytes
      omega
    have hinserted := insertRow_retires claim hlive through (rows + 1)
    unfold addRow at hinserted
    rw [hsize, if_neg (by exact hroom), if_neg (by simp [hfresh])] at hinserted
    unfold Journal.step Journal.call appendWithin
    simp only [hwindow, hdrawn, hinserted]
    rfl
  rw [hadded]
  refine ⟨⟨rfl, hbeyond, hblock, fun key hkey => ?_, ?_, ?_⟩, rfl, rfl⟩
  · rcases mem_keys_insert hkey with rfl | hold
    · exact le_rfl
    · exact (hkeys key hold).trans (Nat.le_succ rows)
  · dsimp only
    rw [length_insert, length_erase_absent hfresh, hcount]
  · rw [heldBytes, total_insert, total_erase_absent _ hfresh]
    rw [heldBytes] at hbytes
    dsimp only
    omega

/-- At the cap it is refused, and its claim with it. -/
theorem Journal.Filled.full (hrows : rows = maxRows) :
    (journal.step (.append closeEvent claim none)).2 =
      .failed (.full rows (2 * rows) maxRows maxPayloadBytes) := by
  obtain ⟨through, hdrawn, -⟩ := h.draws hrows.le
  have hfull : maxRows ≤ journal.file.events.length := (h.count.trans hrows).ge
  have hinserted := insertRow_retires claim hlive through (rows + 1)
  have hbytes : OutboxFile.heldBytes ⟨journal.file.events, journal.file.claimsWithout claim,
      through⟩ = 2 * rows := h.bytes
  unfold addRow at hinserted
  rw [if_pos (.inl hfull), hbytes] at hinserted
  unfold Journal.step Journal.call appendWithin
  simp only [h.window, hdrawn, hinserted, h.count]
  rfl

end Filled

/-- The caps are consulted with what was read before. -/
theorem reserveNext_admits {journal : Journal} {call rows claims claimedBytes : Nat}
    {reading : ReserveCall} (hreading : journal.reserving.lookup call = some reading)
    (hstage : reading.stage = .claims rows claims claimedBytes)
    (hfits : admissionFits (rows + claims) (journal.file.heldBytes + claimedBytes)
      reading.payloadBytes = .ok ()) :
    journal.reserveNext call = ({ journal with
      reserving := journal.reserving.insert call { reading with stage := .admitted } }, .done) := by
  unfold Journal.reserveNext
  simp only [hreading, hstage, hfits]

/-- Rows without a claim fill an empty store one by one. -/
theorem Journal.Filled.fill {journal : Journal} (h : journal.Filled 0) {rows : Nat}
    (hrows : rows ≤ maxRows) :
    (journalCalls.run journal (List.replicate rows (.append closeEvent none none))).Filled rows ∧
      (journalCalls.run journal (List.replicate rows (.append closeEvent none none))).file.claims =
        journal.file.claims ∧
      (journalCalls.run journal (List.replicate rows (.append closeEvent none none))).reserving =
        journal.reserving := by
  induction rows with
  | zero => exact ⟨h, rfl, rfl⟩
  | succ rows ih =>
    obtain ⟨hfilled, hclaims, hreserving⟩ := ih (Nat.le_of_succ_le hrows)
    rw [List.replicate_succ', run_concat]
    obtain ⟨hnext, hkept, hidle⟩ := hfilled.append none (by simp) hrows
    exact ⟨hnext, hkept.trans hclaims, hidle.trans hreserving⟩

/-- Rows wait while the coordinator is away, and leave room for the claim on file. -/
def waitingRows : List JournalOp := List.replicate 8191 (.append closeEvent none none)

def otherClaim : Reservation := ⟨2, .closed, 2048, true⟩

/-- Past the lease of the first claim another session takes one, and uses it. -/
def otherClose : List JournalOp :=
  [.reserve 2 .closed 2048 60001, .reserveNext 2, .reserveNext 2, .reserveNext 2, .reserveNext 2,
    .append closeEvent (some otherClaim) none]

/-- The claim of the first session, taken at clock 0. -/
def lapsed : OrderedMap Nat StoredClaim := OrderedMap.empty.insert 1 ⟨.closed, 2048, 0, true⟩

/-- A claim held past its lease is not counted when the next is granted, so the last row goes to
another session, and the close of the first does not fit. No sweep runs, and nobody gave the claim
up. -/
theorem lapsed_claim_loses_close :
    journalCalls.answer (journalCalls.run .absent readingClaim) (.reserveNext 1) =
        .granted closeClaim ∧
      journalCalls.answer
          (journalCalls.run .absent (readingClaim ++ .reserveNext 1 :: waitingRows ++ otherClose))
          (.append closeEvent (some closeClaim) none) =
        .failed (.full 8192 16384 8192 8388608) := by
  refine ⟨by decide +kernel, ?_⟩
  have hempty : (journalCalls.run .absent (readingClaim ++ [.reserveNext 1])).Filled 0 :=
    ⟨rfl, by decide +kernel, by decide +kernel, by decide +kernel, by decide +kernel,
      by decide +kernel⟩
  obtain ⟨hfilled, hclaims, hreserving⟩ := hempty.fill (show 8191 ≤ maxRows by decide)
  rw [show readingClaim ++ .reserveNext 1 :: waitingRows ++ otherClose =
    readingClaim ++ [.reserveNext 1] ++ waitingRows ++ otherClose by simp, run_append, run_append,
    waitingRows]
  generalize journalCalls.run (journalCalls.run .absent (readingClaim ++ [.reserveNext 1]))
    (List.replicate 8191 (.append closeEvent none none)) = journal at hfilled hclaims hreserving ⊢
  obtain ⟨⟨events, claims, reserved⟩, window, reserving⟩ := journal
  obtain rfl : reserving = .empty := hreserving
  obtain rfl : claims = lapsed := hclaims
  obtain rfl : window = some ⟨8191, reserved⟩ := hfilled.window
  have hadmitted : admissionFits (events.length + 0)
      (events.total (·.payloadBytes) + 0) 2048 = .ok () := by
    have hcount : events.length = 8191 := hfilled.count
    have hbytes : events.total (·.payloadBytes) = 2 * 8191 := hfilled.bytes
    rw [hcount, hbytes]
    rfl
  have hadmits := @reserveNext_admits ⟨⟨events, lapsed, reserved⟩, some ⟨8191, reserved⟩,
    OrderedMap.empty.insert 2 ⟨.closed, 2048, 60001, .claims events.length 0 0⟩⟩ 2 events.length 0 0
    ⟨.closed, 2048, 60001, .claims events.length 0 0⟩ rfl rfl hadmitted
  have hgranted : journalCalls.run ⟨⟨events, lapsed, reserved⟩, some ⟨8191, reserved⟩, .empty⟩
      (otherClose.take 5) = ⟨⟨events, lapsed.insert 2 ⟨.closed, 2048, 60001, true⟩, reserved⟩,
        some ⟨8191, reserved⟩, .empty⟩ :=
    congrArg (fun read => journalCalls.next (Prod.fst read) (.reserveNext 2)) hadmits
  have hheld : Journal.Filled 8191 ⟨⟨events, lapsed.insert 2 ⟨.closed, 2048, 60001, true⟩,
      reserved⟩, some ⟨8191, reserved⟩, .empty⟩ :=
    ⟨rfl, hfilled.numbered, hfilled.reserved, hfilled.keys, hfilled.count, hfilled.bytes⟩
  obtain ⟨hfull, hleft, -⟩ := hheld.append (some otherClaim)
    (by rintro _ ⟨⟩; exact ⟨by decide, rfl⟩) (by decide)
  rw [show otherClose = otherClose.take 5 ++ [.append closeEvent (some otherClaim) none] from rfl,
    run_append, hgranted]
  exact hfull.full (some closeClaim) (by rintro _ ⟨⟩; exact ⟨by decide, by rw [hleft]; rfl⟩) rfl

end Roost.Worker
