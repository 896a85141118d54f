-- SUMMARY: The first-version backfill, and what it delivers exactly once.
import Roost.Base.Transducer
import Roost.Coord.Sync.SessionReplay

/-!
# The backfill of a first-version socket

One page of durable rows above the cursor is delivered while live events keep flowing. A row
a live event already carried is not repeated, and neither is a live event the page carried.
What the scalar cutoff cannot tell apart is an event the page lacks from one it carried: such
an event is dropped when it comes after a larger row.
-/

namespace Roost.Coord.Sync

open Option (map_none toList_none)

open SessionReplay (admitLive admitRecovered liveNow)

open List

open SessionBusMessage

variable {ε : Type}

/-- One durable event with the id it was committed under. -/
structure StoredEvent (ε : Type) where
  id : Nat
  event : ε

/-- Deliver one durable row unless the client already has it. -/
def deliverRecovered (replay : SessionReplay ε) (row : StoredEvent ε) :
    SessionReplay ε × Option (SessionBusMessage ε) :=
  match replay.admitRecovered row.id with
  | (replay, false) => (replay, none)
  | (replay, true) => (replay, emitSessionFrame (.committed row.event row.id))

namespace Backfill

/-- What a socket sees while its backfill runs and after. -/
inductive Op (ε : Type) where
  | live (message : SessionBusMessage ε)
  | row (row : StoredEvent ε)
  | finish

/-- The first-version socket as a machine that answers with the event it delivers. -/
def machine (estimatedBytes : ε → Nat) :
    Transducer (SessionReplay ε) (Op ε) (Option (SessionBusMessage ε)) where
  step
    | replay, .live message => routeSession estimatedBytes replay message
    | replay, .row row => deliverRecovered replay row
    | replay, .finish => (replay.finishBackfill, none)

def liveIds (ops : List (Op ε)) : List Nat :=
  ops.filterMap fun
    | .live message => some message.stamp
    | _ => none

def rowIds (ops : List (Op ε)) : List Nat :=
  ops.filterMap fun
    | .row row => some row.id
    | _ => none

/-- The ids delivered, in order. -/
def delivered (answers : List (Option (SessionBusMessage ε))) : List Nat :=
  answers.filterMap fun answer => answer.map stamp

/-- The live event of an id arrived after a row at or above it. -/
def Overtaken (ops : List (Op ε)) (id : Nat) : Prop :=
  ∃ past message rest, ops = past ++ .live message :: rest ∧ message.stamp = id ∧
    ∃ row ∈ rowIds past, id ≤ row

/-- What comes after the end of the backfill. -/
def afterFinish : List (Op ε) → List (Op ε)
  | [] => []
  | .finish :: rest => rest
  | .live _ :: rest => afterFinish rest
  | .row _ :: rest => afterFinish rest

/-- A backfill and what follows it: stamped live events, each published once, around the rows
of one ascending page, and after the end of the backfill live events alone. -/
structure Interleaving (ops : List (Op ε)) : Prop where
  stamped : ∀ id ∈ liveIds ops, 0 < id
  published : (liveIds ops).Nodup
  ascending : (rowIds ops).Pairwise (· < ·)
  finished : rowIds (afterFinish ops) = []

/-! ## One more operation -/

section Concat

variable (past : List (Op ε)) (message : SessionBusMessage ε) (row : StoredEvent ε) (id : Nat)

theorem liveIds_live : liveIds (past ++ [.live message]) = liveIds past ++ [message.stamp] := by
  simp [liveIds]

theorem liveIds_row : liveIds (past ++ [.row row]) = liveIds past := by simp [liveIds]

theorem liveIds_finish : liveIds (past ++ [.finish]) = liveIds past := by simp [liveIds]

theorem rowIds_live : rowIds (past ++ [.live message]) = rowIds past := by simp [rowIds]

theorem rowIds_row : rowIds (past ++ [.row row]) = rowIds past ++ [row.id] := by simp [rowIds]

theorem rowIds_finish : rowIds (past ++ [.finish]) = rowIds past := by simp [rowIds]

theorem delivered_concat (answers : List (Option (SessionBusMessage ε)))
    (answer : Option (SessionBusMessage ε)) :
    delivered (answers ++ [answer]) = delivered answers ++ (answer.map stamp).toList := by
  cases answer <;> simp [delivered]

variable {past id}

theorem Overtaken.live (h : Overtaken past id) : id ∈ liveIds past := by
  obtain ⟨_, _, _, rfl, rfl, -⟩ := h
  simp [liveIds]

theorem afterFinish_prefix (past ops : List (Op ε)) :
    afterFinish past <+: afterFinish (past ++ ops) := by
  induction past with
  | nil => exact nil_prefix
  | cons op past ih =>
    cases op with
    | finish => exact prefix_append past ops
    | live | row => exact ih

theorem afterFinish_finished (before rest : List (Op ε)) :
    ∃ tail, afterFinish (before ++ .finish :: rest) = tail ++ rest := by
  induction before with
  | nil => exact ⟨[], rfl⟩
  | cons op before ih =>
    cases op with
    | finish => exact ⟨before ++ [.finish], by simp [afterFinish]⟩
    | live | row => exact ih

theorem overtaken_concat {op : Op ε} : Overtaken (past ++ [op]) id ↔ Overtaken past id ∨
        ∃ message, op = .live message ∧ message.stamp = id ∧ ∃ row ∈ rowIds past, id ≤ row := by
  constructor
  · rintro ⟨before, message, rest, heq, hid, hrow⟩
    rcases eq_nil_or_concat rest with rfl | ⟨rest, last, rfl⟩
    · obtain ⟨rfl, hop⟩ := append_singleton_inj.mp heq
      exact .inr ⟨message, hop, hid, hrow⟩
    · rw [concat_eq_append, ← cons_append, ← append_assoc] at heq
      obtain ⟨rfl, -⟩ := append_singleton_inj.mp heq
      exact .inl ⟨before, message, rest, rfl, hid, hrow⟩
  · rintro (⟨before, message, rest, rfl, hid, hrow⟩ | ⟨message, rfl, hid, hrow⟩)
    · exact ⟨before, message, rest ++ [op], by simp, hid, hrow⟩
    · exact ⟨past, message, [], rfl, hid, hrow⟩

theorem Interleaving.left {op : Op ε} (h : Interleaving (past ++ [op])) : Interleaving past where
  stamped id hmem := by
    refine h.stamped id ?_
    simp only [liveIds, filterMap_append, mem_append]
    exact .inl hmem
  published := by
    have hall := h.published
    simp only [liveIds, filterMap_append] at hall
    exact (nodup_append.mp hall).1
  ascending := by
    have hall := h.ascending
    simp only [rowIds, filterMap_append] at hall
    exact (pairwise_append.mp hall).1
  finished := by
    have hall := h.finished
    obtain ⟨_, hrest⟩ := afterFinish_prefix past [op]
    rw [← hrest] at hall
    simp only [rowIds, filterMap_append, append_eq_nil_iff] at hall
    exact hall.1

end Concat

/-! ## What a backfill keeps -/

/-- What has been delivered of what was seen, and what the replay remembers of it. -/
structure Kept (since : Nat) (past : List (Op ε)) (replay : SessionReplay ε) (sent : List Nat) :
    Prop where
  live : replay.recovering = false
  collects : replay.collectingBoundary = true ∨ .finish ∈ past
  cutoff : since ≤ replay.cutoff ∧ (replay.cutoff = since ∨ replay.cutoff ∈ rowIds past)
  rowsCut : ∀ row ∈ rowIds past, row ≤ replay.cutoff
  once : sent.Nodup
  sound : ∀ id ∈ sent, since < id ∧ (id ∈ rowIds past ∨ id ∈ liveIds past ∧ ¬Overtaken past id)
  rows : ∀ row ∈ rowIds past, since < row → row ∈ sent
  lives : ∀ id ∈ liveIds past, since < id → id ∈ sent ∨ Overtaken past id
  boundary : ∀ id ∈ replay.boundary, id ∈ sent
  remembered : replay.collectingBoundary = true → ∀ id ∈ sent,
    id ∈ replay.boundary ∨ id ∈ rowIds past

variable {since : Nat} {past : List (Op ε)} {replay : SessionReplay ε} {sent : List Nat}

theorem Kept.new (hsince : 0 < since) :
    Kept since ([] : List (Op ε)) (SessionReplay.new since false) [] where
  live := by simp [SessionReplay.new]
  collects := .inl (by simp [SessionReplay.new, hsince])
  cutoff := ⟨Nat.le_refl _, .inl rfl⟩
  rowsCut := by simp [rowIds]
  once := .nil
  sound := by simp
  rows := by simp [rowIds]
  lives := by simp [liveIds]
  boundary := by simp [SessionReplay.new]
  remembered := by simp

variable (est : ε → Nat)

/-- A live event is delivered unless the cutoff or the boundary says it was. -/
theorem Kept.step_live (h : Kept since past replay sent)
    {msg : SessionBusMessage ε} (hstamp : 0 < msg.stamp) (hfresh : msg.stamp ∉ liveIds past) :
    Kept since (past ++ [.live msg]) ((machine est).next replay (.live msg))
      (sent ++ (((machine est).answer replay (.live msg)).map stamp).toList) := by
  have hverdict : replay.admitLive est msg = replay.liveNow msg.stamp := by
    simp [admitLive, h.live]
  have hother : ∀ id ∈ sent, ¬Overtaken past id →
      ¬Overtaken (past ++ [.live msg]) id ∨ id = msg.stamp := by
    intro id _ hnot
    by_cases hid : id = msg.stamp
    · exact .inr hid
    refine .inl fun hover => ?_
    rcases overtaken_concat.mp hover with hpast | ⟨other, hop, rfl, -⟩
    · exact hnot hpast
    · cases hop
      exact hid rfl
  have hlater : ∀ id, Overtaken past id → Overtaken (past ++ [.live msg]) id :=
    fun id hover => overtaken_concat.mpr (.inl hover)
  by_cases hdup : msg.stamp ≤ replay.cutoff ∨ msg.stamp ∈ replay.boundary
  · -- Given already, or below the cutoff: nothing goes out.
    have hstep : (machine est).step replay (.live msg) = (replay, none) := by
      simp [machine, routeSession, hverdict, liveNow, hstamp, hdup]
    simp only [Transducer.next, Transducer.answer, hstep, map_none, toList_none, append_nil]
    refine ⟨h.live, ?_, ?_, ?_, h.once, ?_, ?_, ?_, h.boundary, ?_⟩
    · exact h.collects.imp_right fun hmem => mem_append_left _ hmem
    · rw [rowIds_live]
      exact h.cutoff
    · rw [rowIds_live]
      exact h.rowsCut
    · intro id hmem
      obtain ⟨habove, hfrom⟩ := h.sound id hmem
      rw [rowIds_live, liveIds_live]
      refine ⟨habove, ?_⟩
      rcases hfrom with hrow | ⟨hlive, hnot⟩
      · exact .inl hrow
      · rcases hother id hmem hnot with hkeep | rfl
        · exact .inr ⟨mem_append_left _ hlive, hkeep⟩
        · exact absurd hlive hfresh
    · rw [rowIds_live]
      exact h.rows
    · intro id hmem habove
      rw [liveIds_live, mem_append, mem_singleton] at hmem
      rcases hmem with hold | rfl
      · exact (h.lives id hold habove).imp_right (hlater id)
      rcases hdup with hcut | hbound
      · -- The cutoff is a row's, so the event came after a row at or above it.
        have hrow : replay.cutoff ∈ rowIds past := by
          rcases h.cutoff.2 with heq | hrow
          · omega
          · exact hrow
        exact .inr (overtaken_concat.mpr (.inr ⟨msg, rfl, rfl, _, hrow, hcut⟩))
      · exact .inl (h.boundary _ hbound)
    · rw [rowIds_live]
      exact h.remembered
  -- New above the cutoff: it goes out, remembered while the backfill runs.
  obtain ⟨hcut, hbound⟩ := not_or.mp hdup
  obtain ⟨next, hstep, hrec, hcollect, hcutoff, hboundary⟩ :
      ∃ next, (machine est).step replay (.live msg) = (next, some msg) ∧
        next.recovering = replay.recovering ∧
        next.collectingBoundary = replay.collectingBoundary ∧ next.cutoff = replay.cutoff ∧
        next.boundary =
          if replay.collectingBoundary then insert msg.stamp replay.boundary
          else replay.boundary := by
    cases hcollect : replay.collectingBoundary with
    | true =>
      exact ⟨{ replay with boundary := insert msg.stamp replay.boundary },
        by simp [machine, routeSession, hverdict, liveNow, hstamp, hdup,
          hcollect, emitSessionFrame], rfl, hcollect, rfl, by simp⟩
    | false =>
      exact ⟨replay, by simp [machine, routeSession, hverdict, liveNow, hstamp,
        hdup, hcollect, emitSessionFrame], rfl, hcollect, rfl, by simp⟩
  have hnew : msg.stamp ∉ sent := by
    intro hmem
    rcases (h.sound _ hmem).2 with hrow | ⟨hlive, -⟩
    · exact hcut (h.rowsCut _ hrow)
    · exact hfresh hlive
  simp only [Transducer.next, Transducer.answer, hstep, Option.map_some, Option.toList_some]
  refine ⟨hrec.trans h.live, ?_, ?_, ?_, ?_, ?_, ?_, ?_, ?_, ?_⟩
  · rw [hcollect]
    exact h.collects.imp_right fun hmem => mem_append_left _ hmem
  · rw [rowIds_live, hcutoff]
    exact h.cutoff
  · rw [rowIds_live, hcutoff]
    exact h.rowsCut
  · refine nodup_append.mpr ⟨h.once, nodup_singleton _, ?_⟩
    intro id hmem other hother
    rw [mem_singleton] at hother
    rintro rfl
    exact hnew (hother ▸ hmem)
  · intro id hmem
    rw [rowIds_live, liveIds_live]
    rcases mem_append.mp hmem with hold | hlast
    · obtain ⟨habove, hfrom⟩ := h.sound id hold
      refine ⟨habove, ?_⟩
      rcases hfrom with hrow | ⟨hlive, hnot⟩
      · exact .inl hrow
      · rcases hother id hold hnot with hkeep | rfl
        · exact .inr ⟨mem_append_left _ hlive, hkeep⟩
        · exact absurd hlive hfresh
    rw [mem_singleton] at hlast
    subst hlast
    refine ⟨by have := h.cutoff.1; omega, .inr ⟨by simp, ?_⟩⟩
    intro hover
    rcases overtaken_concat.mp hover with hpast | ⟨other, hop, -, row, hrow, hle⟩
    · exact hfresh hpast.live
    · exact hcut (Nat.le_trans hle (h.rowsCut row hrow))
  · rw [rowIds_live]
    intro row hrow habove
    exact mem_append_left _ (h.rows row hrow habove)
  · intro id hmem habove
    rw [liveIds_live, mem_append, mem_singleton] at hmem
    rcases hmem with hold | rfl
    · exact (h.lives id hold habove).imp (mem_append_left _) (hlater id)
    · exact .inl (mem_append_right _ (mem_singleton.mpr rfl))
  · intro id hmem
    rw [hboundary] at hmem
    split at hmem
    · rcases Finset.mem_insert.mp hmem with rfl | hold
      · exact mem_append_right _ (mem_singleton.mpr rfl)
      · exact mem_append_left _ (h.boundary id hold)
    · exact mem_append_left _ (h.boundary id hmem)
  · intro hcoll id hmem
    rw [hcollect] at hcoll
    rw [rowIds_live, hboundary, if_pos hcoll, Finset.mem_insert]
    rcases mem_append.mp hmem with hold | hlast
    · exact (h.remembered hcoll id hold).imp_left .inr
    · exact .inl (.inl (mem_singleton.mp hlast))

/-- A row is delivered unless a live event already carried it. -/
theorem Kept.step_row (h : Kept since past replay sent)
    {row : StoredEvent ε} (hnext : ∀ other ∈ rowIds past, other < row.id) (hrun : .finish ∉ past) :
    Kept since (past ++ [.row row]) ((machine est).next replay (.row row))
      (sent ++ (((machine est).answer replay (.row row)).map stamp).toList) := by
  have hcoll : replay.collectingBoundary = true := h.collects.resolve_right hrun
  have hover : ∀ id, Overtaken (past ++ [.row row]) id ↔ Overtaken past id := by
    intro id
    rw [overtaken_concat]
    constructor
    · rintro (hpast | ⟨msg, hop, -⟩)
      · exact hpast
      · cases hop
    · exact .inl
  have hsound : ∀ id ∈ sent, since < id ∧ (id ∈ rowIds (past ++ [.row row]) ∨
        id ∈ liveIds (past ++ [.row row]) ∧ ¬Overtaken (past ++ [.row row]) id) := by
    intro id hmem
    rw [rowIds_row, liveIds_row, hover]
    obtain ⟨habove, hfrom⟩ := h.sound id hmem
    exact ⟨habove, hfrom.imp_left (mem_append_left _)⟩
  have hrowNew : row.id ∉ rowIds past := fun hmem => Nat.lt_irrefl _ (hnext _ hmem)
  by_cases hle : row.id ≤ replay.cutoff
  · -- Only a row at or below the cursor is, and it is not owed.
    have hbelow : row.id ≤ since := by
      rcases h.cutoff.2 with heq | hrow
      · exact heq ▸ hle
      · exact absurd (hnext _ hrow) (Nat.not_lt.mpr hle)
    have hstep : (machine est).step replay (.row row) = (replay, none) := by
      simp [machine, deliverRecovered, admitRecovered, hle]
    simp only [Transducer.next, Transducer.answer, hstep, map_none, toList_none, append_nil]
    refine ⟨h.live, .inl hcoll, ?_, ?_, h.once, hsound, ?_, ?_, h.boundary, ?_⟩
    · rw [rowIds_row]
      exact ⟨h.cutoff.1, h.cutoff.2.imp_right (mem_append_left _)⟩
    · intro other hmem
      rw [rowIds_row, mem_append, mem_singleton] at hmem
      rcases hmem with hold | rfl
      · exact h.rowsCut other hold
      · exact hle
    · intro other hmem habove
      rw [rowIds_row, mem_append, mem_singleton] at hmem
      rcases hmem with hold | rfl
      · exact h.rows other hold habove
      · omega
    · intro id hmem habove
      rw [liveIds_row] at hmem
      rw [hover]
      exact h.lives id hmem habove
    · intro _ id hmem
      rw [rowIds_row]
      exact (h.remembered hcoll id hmem).imp_right (mem_append_left _)
  have hgt : replay.cutoff < row.id := Nat.lt_of_not_le hle
  obtain ⟨hfloor, -⟩ := h.cutoff
  -- The row goes out unless the boundary has it; it leaves the boundary either way.
  obtain ⟨answer, hstep, hin, hout⟩ : ∃ answer : Option (SessionBusMessage ε),
      (machine est).step replay (.row row) =
        ({ replay with boundary := replay.boundary.erase row.id, cutoff := row.id }, answer) ∧
      (row.id ∈ replay.boundary → answer = none) ∧
      (row.id ∉ replay.boundary → answer = some (.committed row.event row.id)) := by
    by_cases hmem : row.id ∈ replay.boundary
    · exact ⟨none, by simp [machine, deliverRecovered, admitRecovered, hle, hmem],
        fun _ => rfl, fun hnot => absurd hmem hnot⟩
    · exact ⟨some (.committed row.event row.id),
        by simp [machine, deliverRecovered, admitRecovered, hle, hmem,
          emitSessionFrame], fun hyes => absurd hyes hmem, fun _ => rfl⟩
  simp only [Transducer.next, Transducer.answer, hstep]
  have hsent : ∀ id, id ∈ sent ++ (answer.map stamp).toList ↔ id ∈ sent ∨ id = row.id := by
    intro id
    by_cases hmem : row.id ∈ replay.boundary
    · rw [hin hmem, map_none, toList_none, append_nil]
      refine ⟨.inl, ?_⟩
      rintro (hold | rfl)
      · exact hold
      · exact h.boundary _ hmem
    · rw [hout hmem]
      simp [stamp, committed]
  refine ⟨h.live, .inl hcoll, ?_, ?_, ?_, ?_, ?_, ?_, ?_, ?_⟩
  · rw [rowIds_row]
    exact ⟨by dsimp only; omega, .inr (mem_append_right _ (mem_singleton.mpr rfl))⟩
  · intro other hmem
    rw [rowIds_row, mem_append, mem_singleton] at hmem
    rcases hmem with hold | rfl
    · exact Nat.le_of_lt (hnext other hold)
    · exact Nat.le_refl _
  · by_cases hmem : row.id ∈ replay.boundary
    · rw [hin hmem, map_none, toList_none, append_nil]
      exact h.once
    rw [hout hmem]
    refine nodup_append.mpr ⟨h.once, nodup_singleton _, ?_⟩
    intro id hold other hother
    have hother : other = row.id := by
      simpa [stamp, committed] using hother
    rintro rfl
    rcases h.remembered hcoll id hold with hbound | hrow
    · exact hmem (hother ▸ hbound)
    · exact hrowNew (hother ▸ hrow)
  · intro id hmem
    rcases (hsent id).mp hmem with hold | rfl
    · exact hsound id hold
    · refine ⟨by omega, .inl ?_⟩
      rw [rowIds_row]
      exact mem_append_right _ (mem_singleton.mpr rfl)
  · intro other hmem habove
    rw [rowIds_row, mem_append, mem_singleton] at hmem
    rw [hsent]
    exact hmem.imp_left fun hold => h.rows other hold habove
  · intro id hmem habove
    rw [liveIds_row] at hmem
    rw [hover, hsent]
    exact (h.lives id hmem habove).imp_left .inl
  · intro id hmem
    rw [hsent]
    exact .inl (h.boundary id (Finset.mem_of_mem_erase hmem))
  · intro _ id hmem
    rw [rowIds_row, mem_append, mem_singleton]
    rcases (hsent id).mp hmem with hold | rfl
    · by_cases hid : id = row.id
      · exact .inr (.inr hid)
      · exact (h.remembered hcoll id hold).imp
          (fun hbound => Finset.mem_erase.mpr ⟨hid, hbound⟩) .inl
    · exact .inr (.inr rfl)

theorem Kept.step_finish (h : Kept since past replay sent) :
    Kept since (past ++ [.finish]) ((machine est).next replay .finish)
      (sent ++ (((machine est).answer replay .finish).map stamp).toList) := by
  have hover : ∀ id, Overtaken (past ++ [.finish]) id ↔ Overtaken past id := by
    intro id
    rw [overtaken_concat]
    constructor
    · rintro (hpast | ⟨msg, hop, -⟩)
      · exact hpast
      · cases hop
    · exact .inl
  have hstep : (machine est).step replay .finish = (replay.finishBackfill, none) := rfl
  simp only [Transducer.next, Transducer.answer, hstep, map_none, toList_none, append_nil]
  refine ⟨h.live, .inr (by simp), ?_, ?_, h.once, ?_, ?_, ?_, h.boundary, ?_⟩
  · rw [rowIds_finish]
    exact h.cutoff
  · rw [rowIds_finish]
    exact h.rowsCut
  · intro id hmem
    rw [rowIds_finish, liveIds_finish, hover]
    exact h.sound id hmem
  · rw [rowIds_finish]
    exact h.rows
  · intro id hmem
    rw [liveIds_finish] at hmem
    rw [hover]
    exact h.lives id hmem
  · intro hcoll
    cases hcoll

/-! ## Runs -/

/-- Along an interleaving the backfill's books hold. -/
theorem run_kept (hsince : 0 < since) {ops : List (Op ε)} (h : Interleaving ops) :
    Kept since ops ((machine est).run (.new since false) ops)
      (delivered ((machine est).answers (.new since false) ops)) := by
  induction ops using reverseRecOn with
  | nil => exact Kept.new hsince
  | append_singleton past op ih =>
    have hpast := ih h.left
    rw [Transducer.run_concat, Transducer.answers_concat, delivered_concat]
    cases op with
    | live =>
      have hpublish := h.published
      rw [liveIds_live, nodup_append] at hpublish
      refine hpast.step_live est (h.stamped _ (by simp [liveIds])) ?_
      intro hmem
      exact hpublish.2.2 _ hmem _ (mem_singleton.mpr rfl) rfl
    | row row =>
      have hascends := h.ascending
      rw [rowIds_row, pairwise_append] at hascends
      refine hpast.step_row est (fun other hmem => hascends.2.2 other hmem _ (mem_singleton.mpr rfl)) ?_
      intro hfinish
      obtain ⟨before, rest, rfl⟩ := append_of_mem hfinish
      have hnone := h.finished
      obtain ⟨_, htail⟩ := afterFinish_finished before (rest ++ [.row row])
      rw [append_assoc, cons_append, htail] at hnone
      simp [rowIds] at hnone
    | finish => exact hpast.step_finish est

/-- Every id above the cursor that came live or as a row is delivered exactly once, except a
live id that is no row and came after a row at or above it: that one is never delivered. No
id at or below the cursor is. -/
theorem exactlyOnce (estimatedBytes : ε → Nat) (hsince : 0 < since) {ops : List (Op ε)}
    (h : Interleaving ops) :
    (∀ id, since < id → id ∈ liveIds ops ∨ id ∈ rowIds ops → ((Overtaken ops id ∧ id ∉ rowIds ops) ∧
          id ∉ delivered ((machine estimatedBytes).answers (.new since false) ops)) ∨
        (¬(Overtaken ops id ∧ id ∉ rowIds ops) ∧
          (delivered ((machine estimatedBytes).answers (.new since false) ops)).count id = 1)) ∧
      ∀ id ∈ delivered ((machine estimatedBytes).answers (.new since false) ops), since < id := by
  have hkept := run_kept estimatedBytes hsince h
  refine ⟨?_, fun id hmem => (hkept.sound id hmem).1⟩
  intro id habove hseen
  by_cases hmem : id ∈ delivered ((machine estimatedBytes).answers (.new since false) ops)
  · refine .inr ⟨?_, count_eq_one_of_mem hkept.once hmem⟩
    rintro ⟨hover, hnoRow⟩
    rcases (hkept.sound id hmem).2 with hrow | ⟨-, hnot⟩
    · exact hnoRow hrow
    · exact hnot hover
  · have hnoRow : id ∉ rowIds ops := fun hrow => hmem (hkept.rows id hrow habove)
    have hlive := hseen.resolve_right hnoRow
    exact .inl ⟨⟨(hkept.lives id hlive habove).resolve_left hmem, hnoRow⟩, hmem⟩

/-- A socket at cursor 10: event 13 live before its row, event 12 live after its row, and one
event after the backfill. -/
def overlap : List (Op Unit) :=
  [.live (.committed () 13), .row ⟨12, ()⟩, .live (.committed () 12), .row ⟨13, ()⟩, .finish,
    .live (.committed () 14)]

theorem exactlyOnce_overlap : (∀ id, 10 < id → id ∈ liveIds overlap ∨ id ∈ rowIds overlap →
      ((Overtaken overlap id ∧ id ∉ rowIds overlap) ∧
          id ∉ delivered ((machine fun _ => 0).answers (.new 10 false) overlap)) ∨
        (¬(Overtaken overlap id ∧ id ∉ rowIds overlap) ∧
          (delivered ((machine fun _ => 0).answers (.new 10 false) overlap)).count id = 1)) ∧
      ∀ id ∈ delivered ((machine fun _ => 0).answers (.new 10 false) overlap), 10 < id :=
  exactlyOnce (fun _ => 0) (by decide) ⟨by decide, by decide, by decide, by decide⟩

/-- An event the page lacks, arriving after a larger row, is never delivered. -/
theorem gap_dropped : ¬∀ (since : Nat) (ops : List (Op Unit)), 0 < since → Interleaving ops →
      ∀ id, since < id → id ∈ liveIds ops ∨ id ∈ rowIds ops →
        (delivered ((machine fun _ => 0).answers (.new since false) ops)).count id = 1 := by
  intro h
  have hcount := h 10 [.row ⟨12, ()⟩, .live (.committed () 11), .finish] (by decide)
    ⟨by decide, by decide, by decide, by decide⟩ 11 (by decide) (by decide)
  exact absurd hcount (by decide)

end Backfill

end Roost.Coord.Sync
