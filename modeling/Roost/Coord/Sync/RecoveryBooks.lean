-- SUMMARY: What a resuming socket keeps across live events and aborts.
import Roost.Coord.Sync.Recovery

/-!
# The books of a recovery

Rows come out in order, held events wait, the tail is released above the cutoff: that part
hands every id over once and in order. An abandoned recovery hands over one frame, the last it
has, so what it owes must be that frame and nothing else.
-/

namespace Roost.Coord.Sync

open List

open OrderedMap SessionBusMessage SessionReplay

variable {ε : Type}

/-- The id of a held event that was released and waits for the queue. -/
def RecoveryPhase.pending : RecoveryPhase ε → List Nat
  | .releasing message _ => [message.stamp]
  | _ => []

namespace Recovery

/-! ## The feed, and what an abort owes -/

variable (recovery : Recovery ε)

/-- Live events are published in the order of their ids. -/
def Ascending : Op ε → Prop
  | .live message => 0 < message.stamp → ∀ id ∈ recovery.live, id < message.stamp
  | _ => True

instance (op : Op ε) : Decidable (recovery.Ascending op) := by
  cases op <;> dsimp only [Ascending] <;> infer_instance

def Owed (id : Nat) : Prop := ∀ row ∈ recovery.rows, row < id
  deriving Decidable

/-- The held ids a recovery abandoned now would owe. -/
def owedHeld : List Nat :=
  recovery.replay.held.keys.filter fun id => decide (recovery.Owed id)

variable (estimatedBytes : ε → Nat)

variable (recovery : Recovery ε)

variable (message : SessionBusMessage ε)

/-- A live event that cannot be held. -/
def Aborts : Prop :=
  recovery.closed = false ∧ recovery.replay.recovering = true ∧
    (message.stamp = 0 ∨ recovery.replay.overflows estimatedBytes message.stamp message)
  deriving Decidable

/-- The event that ends a recovery goes out itself: stamped, and new to the replay. -/
def Emitted : Prop :=
  0 < message.stamp ∧ recovery.replay.cutoff < message.stamp ∧
    message.stamp ∉ recovery.replay.boundary
  deriving Decidable

/-- What an abandoned recovery must hand over: every owed held event, in order and before the
event that ended it, and nothing at or below the last recovered row. -/
def Releases (handed : List Nat) : Prop :=
  (handed = recovery.owedHeld ∨ handed = recovery.owedHeld ++ [message.stamp]) ∧
    ∀ id ∈ handed, recovery.Owed id
  deriving Decidable

/-- When one frame is all an abandoned recovery owes: the event that ends it goes out and no
held event is owed, or it does not and at most the last held event is. -/
def AbortFits : Prop :=
  if recovery.Emitted message then recovery.owedHeld = [] ∧ recovery.Owed message.stamp
  else recovery.owedHeld = recovery.replay.held.keys.getLast?.toList
  deriving Decidable

/-- A live event the replay does not wait with is judged by the cutoff, so the cutoff must
speak the truth of it: after the recovery an id at or below it is a row, and after an
abandoned one an id above it is above every row. -/
def CutoffFits (id : Nat) : Prop :=
  if recovery.phase.isDone then id ≤ recovery.replay.cutoff → id ∈ recovery.rows
  else recovery.replay.cutoff < id → recovery.Owed id
  deriving Decidable

/-- The condition on a step. -/
def Meets : Op ε → Prop
  | .live message =>
    recovery.closed = false →
      if recovery.replay.recovering then
        recovery.Aborts estimatedBytes message → recovery.AbortFits message
      else recovery.since < message.stamp → recovery.CutoffFits message.stamp
  | .advance =>
    match recovery.phase with
    -- What the tail drops at or below the cutoff was a row.
    | .tail cutoff => ¬recovery.gone →
      ∀ id ∈ recovery.replay.held.keys, recovery.since < id → id ≤ cutoff → id ∈ recovery.rows
    | _ => True
  | _ => True

instance : (op : Op ε) → Decidable (recovery.Meets estimatedBytes op)
  | .live message =>
    inferInstanceAs (Decidable (recovery.closed = false →
      if recovery.replay.recovering then
        recovery.Aborts estimatedBytes message → recovery.AbortFits message
      else recovery.since < message.stamp → recovery.CutoffFits message.stamp))
  | .readCutoff _ | .readPage _ | .readFails => .isTrue trivial
  | .advance =>
    match hphase : recovery.phase with
    | .tail cutoff =>
      decidable_of_iff (¬recovery.gone → ∀ id ∈ recovery.replay.held.keys,
        recovery.since < id → id ≤ cutoff → id ∈ recovery.rows) (by simp only [Meets, hphase])
    | .start => .isTrue (by simp only [Meets, hphase])
    | .rewound => .isTrue (by simp only [Meets, hphase])
    | .paging .. => .isTrue (by simp only [Meets, hphase])
    | .rows .. => .isTrue (by simp only [Meets, hphase])
    | .delivering .. => .isTrue (by simp only [Meets, hphase])
    | .recovered .. => .isTrue (by simp only [Meets, hphase])
    | .releasing .. => .isTrue (by simp only [Meets, hphase])
    | .done => .isTrue (by simp only [Meets, hphase])
    | .stopped => .isTrue (by simp only [Meets, hphase])
  | .refuse | .close => .isTrue trivial

/-! ## What one live event does -/

section Route

variable {estimatedBytes} {replay : SessionReplay ε} {message : SessionBusMessage ε}

theorem stamp_filter : (message.eventId.filter fun id => decide (id > 0)) =
    if 0 < message.stamp then some message.stamp else none := by
  obtain ⟨event, _ | id⟩ := message
  · rfl
  by_cases hid : 0 < id
  · simp [stamp, hid]
  · obtain rfl : id = 0 := by omega
    rfl

theorem foldl_emit (held : List (SessionBusMessage ε)) (last : Option (SessionBusMessage ε)) :
    held.foldl (fun last released => (emitSessionFrame released).or last) last =
      held.getLast?.or last := by
  induction held generalizing last with
  | nil => simp
  | cons message rest ih =>
    rw [foldl_cons, ih, getLast?_cons]
    cases rest.getLast? <;> simp [emitSessionFrame]

theorem route_now (hlive : replay.recovering = false) (hcoll : replay.collectingBoundary = false) :
    routeSession estimatedBytes replay message = (replay, if 0 < message.stamp ∧
        (message.stamp ≤ replay.cutoff ∨ message.stamp ∈ replay.boundary) then none
        else some message) := by
  have hverdict : replay.admitLive estimatedBytes message = replay.liveNow message.stamp := by
    simp [admitLive, hlive]
  by_cases hpos : 0 < message.stamp
  · by_cases hdup : message.stamp ≤ replay.cutoff ∨ message.stamp ∈ replay.boundary
    · simp [routeSession, hverdict, liveNow, hpos, hdup]
    · simp [routeSession, hverdict, liveNow, hpos, hdup, hcoll, emitSessionFrame]
  · simp [routeSession, hverdict, liveNow, hpos, emitSessionFrame]

theorem route_hold (hrec : replay.recovering = true) (hpos : 0 < message.stamp)
    (hfits : ¬replay.overflows estimatedBytes message.stamp message) :
    routeSession estimatedBytes replay message =
      (replay.hold estimatedBytes message.stamp message, none) := by
  simp [routeSession, admitLive, hrec, stamp_filter, hpos, hfits]

theorem route_abort (hrec : replay.recovering = true) (hcoll : replay.collectingBoundary = false)
    (habort : message.stamp = 0 ∨ replay.overflows estimatedBytes message.stamp message) :
    routeSession estimatedBytes replay message = (replay.abort.1,
        if 0 < message.stamp ∧ replay.cutoff < message.stamp ∧ message.stamp ∉ replay.boundary
        then some message else (replay.held.values.map Prod.fst).getLast?) := by
  by_cases hpos : 0 < message.stamp
  · have hover := habort.resolve_left (by omega)
    by_cases hdup : message.stamp ≤ replay.cutoff ∨ message.stamp ∈ replay.boundary
    · have hnot : ¬(replay.cutoff < message.stamp ∧ message.stamp ∉ replay.boundary) := by
        rintro ⟨hcut, hbound⟩
        exact hdup.elim (by omega) hbound
      simp [routeSession, admitLive, hrec, stamp_filter, hpos, hover,
        abort, liveNow, hdup, hnot, foldl_emit]
    · have hnew := not_or.mp hdup
      simp [routeSession, admitLive, hrec, stamp_filter, hpos, hover,
        abort, liveNow, hcoll, emitSessionFrame,
        Nat.lt_of_not_le hnew.1, hnew.1, hnew.2]
  · simp [routeSession, admitLive, hrec, stamp_filter, hpos, abort, foldl_emit]

end Route

/-! ## What a resuming socket keeps -/

/-- What was handed over is in order, and every recovered row is part of it. -/
structure Books : Prop where
  collects : recovery.replay.collectingBoundary = false
  ascending : (recovery.handed.filter fun id => decide (recovery.since < id)).Pairwise (· < ·)
  taken : ∀ row ∈ recovery.rows, row ∈ recovery.handed

/-- How the phase of a recovery relates its rows to the live events it is done with. -/
def Standing (before : List Nat) : Prop :=
  match recovery.phase with
  | .start => before = [] ∧ recovery.rows = []
  | .rewound => before = [] ∧ recovery.rows = []
  | .paging cursor cutoff => before = [] ∧ ∀ row ∈ recovery.rows, row ≤ cursor ∧ row ≤ cutoff
  | .rows _ cursor cutoff => before = [] ∧ ∀ row ∈ recovery.rows, row ≤ cursor ∧ row ≤ cutoff
  | .delivering next _ cutoff =>
    before = [] ∧ next.id ≤ cutoff ∧ ∀ row ∈ recovery.rows, row < next.id
  | .recovered next _ cutoff =>
    before = [] ∧ next.id ≤ cutoff ∧ ∀ row ∈ recovery.rows, row ≤ next.id
  | .tail cutoff =>
    (∀ row ∈ recovery.rows, row ≤ cutoff) ∧
      ∀ id ∈ before, recovery.since < id → id ∈ recovery.handed
  | .releasing message cutoff =>
    cutoff < message.stamp ∧ (∀ row ∈ recovery.rows, row ≤ cutoff) ∧
      ∀ id ∈ before, recovery.since < id → id ∈ recovery.handed
  | .done => False
  | .stopped => recovery.closed = true

/-- A recovery that waits: the live events it is done with, the one on its way, the held. -/
structure Waiting (before : List Nat) : Prop extends Books recovery where
  recovering : recovery.replay.recovering = true
  fresh : recovery.replay.aborted = false
  split : recovery.live = before ++ recovery.phase.pending ++ recovery.replay.held.keys
  stamps : ∀ entry ∈ recovery.replay.held.entries, entry.2.1.stamp = entry.1
  positive : ∀ id ∈ recovery.live, 0 < id
  inOrder : recovery.live.Pairwise (· < ·)
  boundary : ∀ id ∈ recovery.replay.boundary, id ∈ before ++ recovery.phase.pending
  known : ∀ id ∈ recovery.handed, recovery.since < id → id ∈ recovery.rows ∨ id ∈ before
  standing : recovery.Standing before

structure Abandoned : Prop extends Books recovery where
  idle : recovery.replay.recovering = false
  aborted : recovery.replay.aborted = true
  unfinished : recovery.phase.isDone = false
  known : ∀ id ∈ recovery.handed, recovery.since < id → id ∈ recovery.rows ∨ id ∈ recovery.live

/-- A recovery that reached its cutoff and released what it held. -/
structure Completed : Prop extends Books recovery where
  idle : recovery.replay.recovering = false
  done : recovery.phase = .done
  bounded : ∀ row ∈ recovery.rows, row ≤ recovery.replay.cutoff
  known : ∀ id ∈ recovery.handed, recovery.since < id → id ∈ recovery.rows ∨ id ∈ recovery.live
  complete : ∀ id ∈ recovery.live, recovery.since < id → id ∈ recovery.handed
  boundary : ∀ id ∈ recovery.replay.boundary, id ∈ recovery.live

/-- Every resuming socket is in one of three ways. -/
inductive Kept (recovery : Recovery ε) : Prop where
  | waiting (before : List Nat) (h : recovery.Waiting before)
  | abandoned (h : recovery.Abandoned)
  | completed (h : recovery.Completed)

variable {recovery : Recovery ε} {before : List Nat}

theorem Kept.books (h : recovery.Kept) : recovery.Books := by
  cases h with
  | waiting before h | abandoned h | completed h => exact h.toBooks

theorem Kept.new {since : Nat} (hsince : 0 < since) : (Recovery.new since : Recovery ε).Kept :=
  .waiting [] {
    collects := by simp [Recovery.new, SessionReplay.new]
    ascending := .nil
    taken := by simp [Recovery.new]
    recovering := by simp [Recovery.new, SessionReplay.new, hsince]
    fresh := rfl
    split := rfl
    stamps := by simp [Recovery.new, SessionReplay.new, OrderedMap.empty]
    positive := by simp [Recovery.new]
    inOrder := .nil
    boundary := by simp [Recovery.new, SessionReplay.new]
    known := by simp [Recovery.new]
    standing := ⟨rfl, rfl⟩ }

@[simp] theorem hand_none : recovery.hand none = recovery := by simp [hand]

/-- One more id keeps what was handed over ascending. -/
theorem Books.ascending_next (h : recovery.Books) {id : Nat} {others : List Nat}
    (hknown : ∀ other ∈ recovery.handed, recovery.since < other →
      other ∈ recovery.rows ∨ other ∈ others)
    (hnext : recovery.since < id → recovery.Owed id ∧ ∀ other ∈ others, other < id) :
    ((recovery.handed ++ [id]).filter fun id => decide (recovery.since < id)).Pairwise (· < ·) := by
  rw [filter_append]
  by_cases habove : recovery.since < id
  · rw [filter_cons_of_pos (by simpa using habove), filter_nil]
    refine pairwise_append.mpr ⟨h.ascending, pairwise_singleton _ _, ?_⟩
    intro other hmem last hlast
    rw [mem_singleton.mp hlast]
    obtain ⟨hhand, hother⟩ := mem_filter.mp hmem
    rcases hknown other hhand (by simpa using hother) with hrow | hlive
    · exact (hnext habove).1 other hrow
    · exact (hnext habove).2 other hlive
  · rw [filter_cons_of_neg (by simpa using habove), filter_nil, append_nil]
    exact h.ascending

/-! ## Leaving a recovery -/

section

variable (h : recovery.Waiting before)
include h

theorem Waiting.live {id : Nat} (hmem : id ∈ before) : id ∈ recovery.live := by
  rw [h.split, append_assoc]
  exact mem_append_left _ hmem

theorem Waiting.unfinished : recovery.phase.isDone = false := by
  cases hphase : recovery.phase with
  | done => exact absurd h.standing (by simp [Standing, hphase])
  | _ => rfl

theorem Waiting.move {phase : RecoveryPhase ε} (hpend : phase.pending = recovery.phase.pending)
    (hstand : ({ recovery with phase } : Recovery ε).Standing before) :
    ({ recovery with phase } : Recovery ε).Waiting before :=
  { h with
    split := by
      rw [hpend]
      exact h.split
    boundary := by
      dsimp only
      rw [hpend]
      exact h.boundary
    standing := hstand }

theorem Waiting.halt (hclosed : recovery.closed = true) :
    ({ recovery with phase := .stopped } : Recovery ε).Waiting (before ++ recovery.phase.pending) :=
  { h with
    split := by
      rw [h.split]
      simp [RecoveryPhase.pending]
    boundary := by
      intro id hmem
      exact mem_append_left _ (h.boundary id hmem)
    known := fun id hmem habove =>
      (h.known id hmem habove).imp_right (mem_append_left _)
    standing := hclosed }

theorem Waiting.abandon : ({ recovery with phase := .stopped, replay := recovery.replay.abort.1 } :
      Recovery ε).Abandoned :=
  { h.toBooks with
    collects := h.collects
    idle := rfl
    aborted := rfl
    unfinished := rfl
    known := fun id hmem habove => (h.known id hmem habove).imp_right h.live }

theorem Waiting.stopRecovery : recovery.stopRecovery.Kept := by
  by_cases hclosed : recovery.closed = true
  · rw [Recovery.stopRecovery, if_pos (.inl hclosed)]
    exact .waiting _ (h.halt hclosed)
  · rw [Recovery.stopRecovery, if_neg (by simp [hclosed, h.fresh])]
    exact .abandoned h.abandon

theorem Waiting.abortRecovery : recovery.abortRecovery.Kept := by
  by_cases hclosed : recovery.closed = true
  · rw [Recovery.abortRecovery, if_pos hclosed]
    exact .waiting _ (h.halt hclosed)
  · rw [Recovery.abortRecovery, if_neg hclosed]
    exact .abandoned h.abandon

theorem Waiting.vanish (hgone : recovery.gone) :
    ({ recovery with phase := .stopped } : Recovery ε).Kept :=
  .waiting _ (h.halt (hgone.resolve_right (by simp [h.fresh])))

end

section

variable (h : recovery.Abandoned)
include h

theorem Abandoned.move {phase : RecoveryPhase ε} {replay : SessionReplay ε}
    (hphase : phase.isDone = false) (hidle : replay.recovering = false)
    (haborted : replay.aborted = true) (hcoll : replay.collectingBoundary = false) :
    ({ recovery with phase, replay } : Recovery ε).Kept :=
  .abandoned { h.toBooks with
      collects := hcoll
      idle := hidle
      aborted := haborted
      unfinished := hphase
      known := h.known }

theorem Abandoned.phase {phase : RecoveryPhase ε}
    (hphase : phase.isDone = false) : ({ recovery with phase } : Recovery ε).Kept :=
  h.move hphase h.idle h.aborted h.collects

theorem Abandoned.gone : recovery.gone := .inr h.aborted

theorem Abandoned.stopRecovery : recovery.stopRecovery.Kept := by
  rw [Recovery.stopRecovery, if_pos (.inr h.aborted)]
  exact h.phase rfl

theorem Abandoned.abortRecovery : recovery.abortRecovery.Kept := by
  by_cases hclosed : recovery.closed = true
  · rw [Recovery.abortRecovery, if_pos hclosed]
    exact h.phase rfl
  · rw [Recovery.abortRecovery, if_neg hclosed]
    exact h.move rfl rfl rfl h.collects

end

/-! ## A live event -/

section Live

variable {estimatedBytes} {message : SessionBusMessage ε}

theorem onLive_open (hopen : recovery.closed = false) : recovery.onLive estimatedBytes message =
      (({ recovery with
          replay := (routeSession estimatedBytes recovery.replay message).1
          live := recovery.live ++ [message.stamp] } : Recovery ε).hand
        (routeSession estimatedBytes recovery.replay message).2,
        (routeSession estimatedBytes recovery.replay message).2) := by
  simp [onLive, hopen]

section

variable (h : recovery.Waiting before)
include h

theorem Waiting.key {id : Nat} (hmem : id ∈ recovery.replay.held.keys) : id ∈ recovery.live := by
  rw [h.split]
  exact mem_append_right _ hmem

theorem Waiting.before_lt {id key : Nat} (hid : id ∈ before)
    (hkey : key ∈ recovery.replay.held.keys) : id < key := by
  have horder := h.inOrder
  rw [h.split, append_assoc] at horder
  exact (pairwise_append.mp horder).2.2 id hid key (mem_append_right _ hkey)

theorem Waiting.hold (hopen : recovery.closed = false)
    (hpos : 0 < message.stamp) (hnext : ∀ id ∈ recovery.live, id < message.stamp)
    (hfits : ¬recovery.replay.overflows estimatedBytes message.stamp message) :
    (recovery.onLive estimatedBytes message).1.Waiting before := by
  have hentry : (recovery.replay.hold estimatedBytes message.stamp message).held.entries =
      recovery.replay.held.entries ++ [(message.stamp, message, estimatedBytes message.event)] :=
    insert_last fun other hother => hnext other (h.key hother)
  have hkeys : (recovery.replay.hold estimatedBytes message.stamp message).held.keys =
      recovery.replay.held.keys ++ [message.stamp] := by
    simp [OrderedMap.keys, hentry]
  rw [onLive_open hopen, route_hold h.recovering hpos hfits, hand_none]
  refine { h with
    split := ?_
    stamps := ?_
    positive := ?_
    inOrder := ?_ }
  · dsimp only
    rw [hkeys, h.split, append_assoc _ recovery.replay.held.keys]
  · intro entry hmem
    rw [hentry, mem_append, mem_singleton] at hmem
    rcases hmem with hold | rfl
    · exact h.stamps entry hold
    · rfl
  · intro id hmem
    rcases mem_append.mp hmem with hold | hlast
    · exact h.positive id hold
    · rw [mem_singleton.mp hlast]
      exact hpos
  · refine pairwise_append.mpr ⟨h.inOrder, pairwise_singleton _ _, ?_⟩
    intro id hmem last hlast
    rw [mem_singleton.mp hlast]
    exact hnext id hmem

theorem Waiting.last_held : (recovery.replay.held.values.map Prod.fst).getLast?.map stamp =
      recovery.replay.held.keys.getLast? := by
  rw [← getLast?_map, values, OrderedMap.keys, map_map, map_map]
  congr 1
  exact map_congr_left fun entry hmem => h.stamps entry hmem

theorem Waiting.aborted_ids (haborts : recovery.Aborts estimatedBytes message) :
    ((routeSession estimatedBytes recovery.replay message).2.map stamp).toList =
      if recovery.Emitted message then [message.stamp]
      else recovery.replay.held.keys.getLast?.toList := by
  have hframe : (routeSession estimatedBytes recovery.replay message).2 =
      if recovery.Emitted message then some message
      else (recovery.replay.held.values.map Prod.fst).getLast? :=
    congrArg Prod.snd (route_abort h.recovering h.collects haborts.2.2)
  rw [hframe]
  by_cases hemit : recovery.Emitted message
  · rw [if_pos hemit, if_pos hemit]
    rfl
  · rw [if_neg hemit, if_neg hemit, h.last_held]

theorem Waiting.releases_iff (hnext : recovery.Ascending (.live message))
    (haborts : recovery.Aborts estimatedBytes message) : recovery.Releases message
        ((routeSession estimatedBytes recovery.replay message).2.map
          stamp).toList ↔ recovery.AbortFits message := by
  -- The event that ends the recovery is not among those it held.
  have hother : message.stamp ∉ recovery.owedHeld := by
    intro hmem
    have hlive := h.key (mem_filter.mp hmem).1
    exact absurd (hnext (h.positive _ hlive) _ hlive) (Nat.lt_irrefl _)
  have howed : ∀ id ∈ recovery.owedHeld, recovery.Owed id := fun id hmem => by
    simpa using (mem_filter.mp hmem).2
  rw [h.aborted_ids haborts, AbortFits]
  by_cases hemit : recovery.Emitted message
  · rw [if_pos hemit, if_pos hemit]
    constructor
    · rintro ⟨hhand | hhand, hall⟩
      · exact absurd (hhand ▸ mem_singleton.mpr rfl) hother
      · exact ⟨self_eq_append_left.mp hhand, hall _ (mem_singleton.mpr rfl)⟩
    rintro ⟨hnone, hstamp⟩
    refine ⟨.inr (by rw [hnone, nil_append]), ?_⟩
    intro id hmem
    rw [mem_singleton.mp hmem]
    exact hstamp
  rw [if_neg hemit, if_neg hemit]
  constructor
  · rintro ⟨hhand | hhand, -⟩
    · exact hhand.symm
    have hmem : message.stamp ∈ recovery.replay.held.keys.getLast?.toList := by
      rw [hhand]
      exact mem_append_right _ (mem_singleton.mpr rfl)
    have hlive := h.key (mem_of_getLast? (Option.mem_toList.mp hmem))
    exact absurd (hnext (h.positive _ hlive) _ hlive) (Nat.lt_irrefl _)
  · intro hfits
    refine ⟨.inl hfits.symm, ?_⟩
    rw [← hfits]
    exact howed

theorem Waiting.abort (hopen : recovery.closed = false) (hnext : recovery.Ascending (.live message))
    (haborts : recovery.Aborts estimatedBytes message) (hfits : recovery.AbortFits message) :
    (recovery.onLive estimatedBytes message).1.Abandoned := by
  have hreplay : (routeSession estimatedBytes recovery.replay message).1 =
      recovery.replay.abort.1 :=
    congrArg Prod.fst (route_abort h.recovering h.collects haborts.2.2)
  have hids := h.aborted_ids haborts
  rw [AbortFits] at hfits
  rw [onLive_open hopen, hreplay]
  refine ⟨⟨h.collects, ?_, ?_⟩, rfl, rfl, h.unfinished, ?_⟩
  · dsimp only [hand]
    rw [hids]
    by_cases hemit : recovery.Emitted message
    · rw [if_pos hemit] at hfits ⊢
      refine h.ascending_next h.known fun _ => ⟨hfits.2, ?_⟩
      intro other hmem
      exact hnext hemit.1 other (h.live hmem)
    rw [if_neg hemit] at hfits ⊢
    cases hlast : recovery.replay.held.keys.getLast? with
    | none =>
      rw [Option.toList_none, append_nil]
      exact h.ascending
    | some key =>
      rw [hlast] at hfits
      have howed : key ∈ recovery.owedHeld := hfits ▸ mem_singleton.mpr rfl
      have hkey := mem_filter.mp howed
      refine h.ascending_next h.known fun _ => ⟨by simpa using hkey.2, ?_⟩
      intro other hmem
      exact h.before_lt hmem hkey.1
  · intro row hrow
    exact mem_append_left _ (h.taken row hrow)
  · intro id hmem habove
    dsimp only [hand] at hmem ⊢
    rw [hids] at hmem
    rcases mem_append.mp hmem with hold | hlast
    · exact (h.known id hold habove).imp_right fun hpre =>
        mem_append_left _ (h.live hpre)
    refine .inr ?_
    split at hlast
    · exact mem_append_right _ hlast
    · exact mem_append_left _ (h.key (mem_of_getLast? (Option.mem_toList.mp hlast)))

end

theorem onLive_idle (hopen : recovery.closed = false) (hidle : recovery.replay.recovering = false)
    (hcoll : recovery.replay.collectingBoundary = false) :
    (recovery.onLive estimatedBytes message).1 = { recovery with
        live := recovery.live ++ [message.stamp]
        handed := recovery.handed ++
          if 0 < message.stamp ∧ (message.stamp ≤ recovery.replay.cutoff ∨
            message.stamp ∈ recovery.replay.boundary) then [] else [message.stamp] } := by
  rw [onLive_open hopen, route_now hidle hcoll]
  split <;> simp [hand]

theorem Books.live_idle (h : recovery.Books) {ids : List Nat}
    (hids : ids = if 0 < message.stamp ∧ (message.stamp ≤ recovery.replay.cutoff ∨
      message.stamp ∈ recovery.replay.boundary) then [] else [message.stamp])
    (hknown : ∀ id ∈ recovery.handed, recovery.since < id → id ∈ recovery.rows ∨ id ∈ recovery.live)
    (hnext : recovery.Ascending (.live message))
    (howed : recovery.since < message.stamp → recovery.replay.cutoff < message.stamp →
      recovery.Owed message.stamp) : ((recovery.handed ++ ids).filter fun id => decide (recovery.since < id)).Pairwise (· < ·) ∧
      ∀ id ∈ recovery.handed ++ ids, recovery.since < id →
        id ∈ recovery.rows ∨ id ∈ recovery.live ++ [message.stamp] := by
  rw [hids]
  constructor
  · split
    · rw [append_nil]
      exact h.ascending
    rename_i hnew
    refine h.ascending_next hknown fun habove => ?_
    have hpos : 0 < message.stamp := Nat.zero_lt_of_lt habove
    have hcut : ¬message.stamp ≤ recovery.replay.cutoff := fun hle => hnew ⟨hpos, .inl hle⟩
    exact ⟨howed habove (Nat.lt_of_not_le hcut), hnext hpos⟩
  · intro id hmem habove
    rcases mem_append.mp hmem with hold | hlast
    · exact (hknown id hold habove).imp_right (mem_append_left _)
    · split at hlast
      · exact absurd hlast not_mem_nil
      · exact .inr (mem_append_right _ hlast)

theorem Abandoned.live (h : recovery.Abandoned) (hopen : recovery.closed = false)
    (hnext : recovery.Ascending (.live message))
    (hfits : recovery.since < message.stamp → recovery.CutoffFits message.stamp) :
    (recovery.onLive estimatedBytes message).1.Abandoned := by
  simp only [CutoffFits, h.unfinished, Bool.false_eq_true, if_false] at hfits
  rw [onLive_idle hopen h.idle h.collects]
  obtain ⟨hascends, hknown⟩ := h.live_idle rfl h.known hnext hfits
  exact ⟨⟨h.collects, hascends, fun row hrow => mem_append_left _ (h.taken row hrow)⟩,
    h.idle, h.aborted, h.unfinished, hknown⟩

theorem Completed.live (h : recovery.Completed) (hopen : recovery.closed = false)
    (hnext : recovery.Ascending (.live message))
    (hfits : recovery.since < message.stamp → recovery.CutoffFits message.stamp) :
    (recovery.onLive estimatedBytes message).1.Completed := by
  simp only [CutoffFits, h.done, RecoveryPhase.isDone, if_true] at hfits
  rw [onLive_idle hopen h.idle h.collects]
  -- What is above the cutoff is above every row: the rows are bounded by it.
  obtain ⟨hascends, hknown⟩ := h.live_idle rfl h.known hnext fun _ hcut row hrow =>
    (h.bounded row hrow).trans_lt hcut
  refine ⟨⟨h.collects, hascends, fun row hrow => mem_append_left _ (h.taken row hrow)⟩,
    h.idle, h.done, h.bounded, hknown, ?_, ?_⟩
  · intro id hmem habove
    rcases mem_append.mp hmem with hold | hlast
    · exact mem_append_left _ (h.complete id hold habove)
    obtain rfl := mem_singleton.mp hlast
    split
    · rename_i hdup
      rcases hdup.2 with hcut | hbound
      · -- At or below the cutoff it was a row.
        exact mem_append_left _ (h.taken _ (hfits habove hcut))
      · have hlive := h.boundary _ hbound
        exact absurd (hnext hdup.1 _ hlive) (Nat.lt_irrefl _)
    · exact mem_append_right _ (mem_singleton.mpr rfl)
  · intro id hmem
    exact mem_append_left _ (h.boundary id hmem)

theorem Kept.live (h : recovery.Kept) (hnext : recovery.Ascending (.live message))
    (hmeets : recovery.Meets estimatedBytes (.live message)) :
    (recovery.onLive estimatedBytes message).1.Kept := by
  cases hclosed : recovery.closed with
  | true =>
    rw [onLive, if_pos hclosed]
    exact h
  | false =>
    have hmeets := hmeets hclosed
    cases h with
    | waiting before h =>
      rw [if_pos h.recovering] at hmeets
      by_cases haborts : recovery.Aborts estimatedBytes message
      · exact .abandoned (h.abort hclosed hnext haborts (hmeets haborts))
      · have hheld := not_or.mp fun habort => haborts ⟨hclosed, h.recovering, habort⟩
        have hpos : 0 < message.stamp := Nat.pos_of_ne_zero hheld.1
        exact .waiting before (h.hold hclosed hpos (hnext hpos) hheld.2)
    | abandoned h =>
      rw [if_neg (by simp [h.idle])] at hmeets
      exact .abandoned (h.live hclosed hnext hmeets)
    | completed h =>
      rw [if_neg (by simp [h.idle])] at hmeets
      exact .completed (h.live hclosed hnext hmeets)

end Live

end Recovery

end Roost.Coord.Sync
