-- SUMMARY: The kept deltas fold an older canonical into the current one.
import Roost.Client.Session

/-!
# The renderer's delta log

A replica counts the frames it applied and keeps the deltas since its last full, as many as one
render batch may fold. A renderer folds what is logged after the revision it painted.
-/

namespace Roost.Client

open List Roost.Cell

namespace RendererDeliveries

variable (deliveries : RendererDeliveries)

/-- A promoted replica cannot share the replaced route's renderer delta base. -/
def beginPromotionAfter (previousRevision : Nat) :
    RendererDeliveries :=
  clear { deliveries with revision := max deliveries.revision previousRevision + 1 }

/-- Every delta after a painted revision, oldest first. -/
def deltasSince (paintedRevision : Nat) :
    Option (List CellGridFrame) :=
  if paintedRevision < deliveries.baseRevision then none
  else
    let offset := paintedRevision - deliveries.baseRevision
    if deliveries.deltas.length < offset then none else some (deliveries.deltas.drop offset)

def rowsOf (deltas : List CellGridFrame) : Nat :=
  (deltas.map fun delta => delta.scrollbackAppend.length).sum

def spansOf (deltas : List CellGridFrame) : Nat := (deltas.map deltaSpans).sum

/-- The counters are those of the retained deltas, which are one batch. -/
structure Booked : Prop where
  revision : deliveries.baseRevision + deliveries.deltas.length = deliveries.revision
  rows : deliveries.appendedRows = rowsOf deliveries.deltas
  spans : deliveries.spans = spansOf deliveries.deltas
  count_le : deliveries.deltas.length ≤ maxPendingDeltaFrames
  rows_le : deliveries.appendedRows ≤ maxPendingScrollbackRows
  spans_le : deliveries.spans ≤ maxPendingDeltaSpans

/-- The log after a delta is the end of the log with it, and nothing was taken off a counter that
the counter did not hold. -/
structure Extends (delta : CellGridFrame)
    (next : RendererDeliveries) (dropped : List CellGridFrame) : Prop where
  deltas : deliveries.deltas ++ [delta] = dropped ++ next.deltas
  base : next.baseRevision = deliveries.baseRevision + dropped.length
  rows : next.appendedRows + rowsOf dropped =
    deliveries.appendedRows + delta.scrollbackAppend.length
  spans : next.spans + spansOf dropped = deliveries.spans + deltaSpans delta

variable {deliveries : RendererDeliveries}

theorem booked_clear (deliveries : RendererDeliveries) : deliveries.clear.Booked :=
  ⟨rfl, rfl, rfl, Nat.zero_le _, Nat.zero_le _, Nat.zero_le _⟩

theorem rowsOf_append (deltas more : List CellGridFrame) :
    rowsOf (deltas ++ more) = rowsOf deltas + rowsOf more := by
  simp [rowsOf]

theorem spansOf_append (deltas more : List CellGridFrame) :
    spansOf (deltas ++ more) = spansOf deltas + spansOf more := by
  simp [spansOf]

theorem evict_spec (deltas : List CellGridFrame) (baseRevision : Nat) : ∃ dropped kept,
    deltas = dropped ++ kept ∧ evict deltas baseRevision (rowsOf deltas) (spansOf deltas) =
      (kept, baseRevision + dropped.length, rowsOf kept, spansOf kept) ∧
    kept.length ≤ maxPendingDeltaFrames ∧ rowsOf kept ≤ maxPendingScrollbackRows ∧
      spansOf kept ≤ maxPendingDeltaSpans := by
  induction deltas generalizing baseRevision with
  | nil => exact ⟨[], [], rfl, rfl, Nat.zero_le _, Nat.zero_le _, Nat.zero_le _⟩
  | cons oldest rest ih =>
    unfold evict
    split
    · obtain ⟨dropped, kept, hsplit, hevict, hfits⟩ := ih (baseRevision + 1)
      have hrows : rowsOf (oldest :: rest) - oldest.scrollbackAppend.length = rowsOf rest := by
        simp [rowsOf]
      have hspans : spansOf (oldest :: rest) - deltaSpans oldest = spansOf rest := by
        simp [spansOf]
      refine ⟨oldest :: dropped, kept, by rw [hsplit, cons_append], ?_, hfits⟩
      rw [hrows, hspans, hevict, length_cons]
      congr 2
      omega
    · rename_i hfits
      rw [not_or, not_or, Nat.not_lt, Nat.not_lt, Nat.not_lt] at hfits
      exact ⟨[], oldest :: rest, rfl, rfl, hfits⟩

theorem Booked.noteDelta (h : deliveries.Booked) (delta : CellGridFrame) :
    (deliveries.noteDelta delta).Booked ∧
      ∃ dropped, deliveries.Extends delta (deliveries.noteDelta delta) dropped := by
  have hrows : deliveries.appendedRows + delta.scrollbackAppend.length =
      rowsOf (deliveries.deltas ++ [delta]) := by
    rw [rowsOf_append, h.rows]
    rfl
  have hspans : deliveries.spans + deltaSpans delta = spansOf (deliveries.deltas ++ [delta]) := by
    rw [spansOf_append, h.spans]
    rfl
  have hrev := h.revision
  unfold RendererDeliveries.noteDelta
  dsimp only
  split
  · refine ⟨booked_clear _, deliveries.deltas ++ [delta], (append_nil _).symm, ?_, ?_, ?_⟩
    · rw [length_append, ← Nat.add_assoc, hrev]
      rfl
    · rw [hrows]
      exact Nat.zero_add _
    · rw [hspans]
      exact Nat.zero_add _
  obtain ⟨dropped, kept, hsplit, hevict, hcount, hrowsFit, hspansFit⟩ :=
    evict_spec (deliveries.deltas ++ [delta]) deliveries.baseRevision
  have hlen := congrArg length hsplit
  rw [length_append, length_append, length_singleton] at hlen
  rw [hrows, hspans, hevict]
  refine ⟨⟨?_, rfl, rfl, hcount, hrowsFit, hspansFit⟩, dropped, hsplit, rfl, ?_, ?_⟩
  · dsimp only
    omega
  · rw [hrows, hsplit, rowsOf_append, Nat.add_comm]
  · rw [hspans, hsplit, spansOf_append, Nat.add_comm]

end RendererDeliveries

/-- A replica, with every canonical it had and the revision it had it at. -/
structure DrivenReplica where
  deliveries : RendererDeliveries
  canonical : CellGridFrame
  past : List (Nat × CellGridFrame)

inductive DriveOp where
  | noteFull (canonical : CellGridFrame)
  | noteDelta (delta : CellGridFrame)
  | beginPromotionAfter (previousRevision : Nat) (canonical : CellGridFrame)

namespace DrivenReplica

open RendererDeliveries

def new (canonical : CellGridFrame) : DrivenReplica := ⟨.new, canonical, [(0, canonical)]⟩

def moved (replica : DrivenReplica) (deliveries : RendererDeliveries) (canonical : CellGridFrame) :
    DrivenReplica :=
  ⟨deliveries, canonical, replica.past ++ [(deliveries.revision, canonical)]⟩

variable (apply : CellGridFrame → CellGridFrame → Option CellGridFrame)

/-- A delta is noted when it applies; a refused one changes nothing. -/
def machine : Transducer DrivenReplica DriveOp Unit where
  step replica op :=
    (match op with
      | .noteFull canonical => replica.moved replica.deliveries.noteFull canonical
      | .noteDelta delta =>
        match apply replica.canonical delta with
        | none => replica
        | some canonical => replica.moved (replica.deliveries.noteDelta delta) canonical
      | .beginPromotionAfter previousRevision canonical =>
        replica.moved (replica.deliveries.beginPromotionAfter previousRevision) canonical, ())

structure Sound (replica : DrivenReplica) : Prop where
  booked : replica.deliveries.Booked
  rising : (replica.past.map Prod.fst).Pairwise (· < ·)
  had_le : ∀ had ∈ replica.past, had.1 ≤ replica.deliveries.revision
  folds : ∀ had ∈ replica.past, replica.deliveries.baseRevision ≤ had.1 →
    (replica.deliveries.deltas.drop (had.1 - replica.deliveries.baseRevision)).foldlM apply had.2 =
      some replica.canonical

variable {apply} {replica : DrivenReplica}

theorem sound_new (canonical : CellGridFrame) : Sound apply (new canonical) := by
  refine ⟨booked_clear .new, pairwise_singleton _ _, ?_, ?_⟩
  · intro had hmem
    rw [mem_singleton.mp hmem]
    exact le_rfl
  · intro had hmem _
    rw [mem_singleton.mp hmem]
    rfl

variable {deliveries : RendererDeliveries}

section

variable (h : Sound apply replica)
include h

/-- A later revision whose log folds every canonical still in reach to the new one. -/
theorem Sound.moved {canonical : CellGridFrame} (hbooked : deliveries.Booked)
    (hlater : replica.deliveries.revision < deliveries.revision)
    (hfolds : ∀ had ∈ replica.past, deliveries.baseRevision ≤ had.1 →
      (deliveries.deltas.drop (had.1 - deliveries.baseRevision)).foldlM apply had.2 =
        some canonical) : Sound apply (replica.moved deliveries canonical) := by
  refine ⟨hbooked, ?_, ?_, ?_⟩
  · unfold DrivenReplica.moved
    rw [map_append, pairwise_append]
    refine ⟨h.rising, pairwise_singleton _ _, fun revision hmem last hlast => ?_⟩
    obtain ⟨had, hhad, rfl⟩ := mem_map.mp hmem
    rw [mem_singleton.mp hlast]
    exact (h.had_le had hhad).trans_lt hlater
  · intro had hmem
    rcases mem_append.mp hmem with hold | hnew
    · exact (h.had_le had hold).trans hlater.le
    · rw [mem_singleton.mp hnew]
      exact le_rfl
  intro had hmem hreach
  rcases mem_append.mp hmem with hold | hnew
  · exact hfolds had hold hreach
  rw [mem_singleton.mp hnew]
  change (deliveries.deltas.drop (deliveries.revision - deliveries.baseRevision)).foldlM apply
    canonical = some canonical
  rw [drop_eq_nil_of_le (by have := hbooked.revision; omega)]
  rfl

theorem Sound.cleared
    (hlater : replica.deliveries.revision < deliveries.revision) (canonical : CellGridFrame) :
    Sound apply (replica.moved deliveries.clear canonical) :=
  h.moved (booked_clear deliveries) hlater fun had hmem hreach =>
    absurd (hreach.trans (h.had_le had hmem)) (Nat.not_le.mpr hlater)

theorem Sound.noteDelta {delta canonical : CellGridFrame}
    (happly : apply replica.canonical delta = some canonical) :
    Sound apply (replica.moved (replica.deliveries.noteDelta delta) canonical) := by
  obtain ⟨hbooked, dropped, hext⟩ := h.booked.noteDelta delta
  have hrev := h.booked.revision
  refine h.moved hbooked ?_ fun had hmem hreach => ?_
  · have hlen := congrArg length hext.deltas
    have hbase := hext.base
    have hnext := hbooked.revision
    rw [length_append, length_append, length_singleton] at hlen
    omega
  have hpre := h.folds had hmem
  have hle := h.had_le had hmem
  rw [hext.base] at hreach ⊢
  -- What is left after the painted revision is what was left before, and the new delta.
  have hdrop : (replica.deliveries.noteDelta delta).deltas.drop
      (had.1 - (replica.deliveries.baseRevision + dropped.length)) =
        replica.deliveries.deltas.drop (had.1 - replica.deliveries.baseRevision) ++ [delta] := by
    rw [← drop_append_of_le_length (by omega), hext.deltas,
      show had.1 - replica.deliveries.baseRevision = dropped.length +
        (had.1 - (replica.deliveries.baseRevision + dropped.length)) by omega,
      drop_length_add_append]
  rw [hdrop, foldlM_append, hpre (by omega)]
  change (apply replica.canonical delta).bind some = some canonical
  rw [happly]
  rfl

/-- One operation keeps the log replayable. -/
theorem Sound.step (op : DriveOp) : Sound apply ((machine apply).next replica op) := by
  cases op with
  | noteFull canonical => exact h.cleared (Nat.lt_succ_self _) canonical
  | noteDelta delta =>
    change Sound apply (match apply replica.canonical delta with
      | none => replica
      | some canonical => replica.moved (replica.deliveries.noteDelta delta) canonical)
    split
    · exact h
    · rename_i happly
      exact h.noteDelta happly
  | beginPromotionAfter previousRevision canonical =>
    exact h.cleared (Nat.lt_succ_of_le (le_max_left _ _)) canonical

end

/-- After every run: the books are exact, revisions rise, a delta takes off only what is counted,
and what the log hands out for a revision the replica had leads from there to the canonical. -/
theorem delta_log_sound (start : CellGridFrame) (ops : List DriveOp) :
    let replica := (machine apply).run (new start) ops
    replica.deliveries.Booked ∧ (replica.past.map Prod.fst).Pairwise (· < ·) ∧
      (∀ delta, ∃ dropped,
        replica.deliveries.Extends delta (replica.deliveries.noteDelta delta) dropped) ∧
      ∀ had ∈ replica.past, ∀ deltas, replica.deliveries.deltasSince had.1 = some deltas →
        deltas.foldlM apply had.2 = some replica.canonical := by
  have hsound : Sound apply ((machine apply).run (new start) ops) :=
    (machine apply).invariant (sound_new start) (fun replica op h => h.step op) ops
  refine ⟨hsound.booked, hsound.rising, fun delta => (hsound.booked.noteDelta delta).2, ?_⟩
  intro had hmem deltas hsince
  unfold deltasSince at hsince
  split at hsince
  · cases hsince
  rename_i hreach
  dsimp only at hsince
  split at hsince
  · cases hsince
  · cases hsince
    exact hsound.folds had hmem (Nat.not_lt.mp hreach)

end DrivenReplica

end Roost.Client
