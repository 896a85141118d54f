-- SUMMARY: The row and span pool of the terminal caches, and its ceilings.
import Roost.Base.Ledger
import Roost.Base.Transducer
import Roost.Cell.Types
import Roost.Protocol.TerminalView.Record

/-!
# Screen residency

The coordinator charges every cache it holds against one pool of rows and spans. A version
a snapshot cursor still walks stays charged after it is replaced: it is pinned. Rows and
spans are counts of what lies in memory, so no sum of them leaves 64 bits; that no
subtraction goes below zero is proved.
-/

namespace Roost.Coord

open Option (elim_none elim_some isSome_none mem_def)

open Table

open Roost.Cell

/-- One immutable canonical full the coordinator is holding. -/
structure ResidentCache where
  generation : Nat
  frame : CellGridFrame
  /-- The receipt time of the frame that produced this cache. -/
  coordRecvMs : UInt64
  /-- How many snapshot sources still need this exact version. -/
  sourceLeaseCount : Nat
  rows : Nat
  spans : Nat
  /-- False once a delta or a baseline failed against it. -/
  valid : Bool

def ResidentCache.new (generation : Nat) (frame : CellGridFrame) (coordRecvMs : UInt64)
    (rows spans : Nat) : ResidentCache :=
  { generation, frame, coordRecvMs, sourceLeaseCount := 0, rows, spans, valid := true }

/-- A version a live cursor is still walking, held in the pool. -/
structure PinnedCharge where
  generation : Nat
  sourceLeaseCount : Nat
  rows : Nat
  spans : Nat

def ResidentCache.pin (cache : ResidentCache) : PinnedCharge :=
  { generation := cache.generation, sourceLeaseCount := cache.sourceLeaseCount
    rows := cache.rows, spans := cache.spans }

/-- One session's current replica and its at-most-one pinned predecessor. -/
structure SessionCharge where
  current : Option ResidentCache := none
  pinned : Option PinnedCharge := none

namespace SessionCharge

variable (charge : SessionCharge)

def currentRows : Nat := charge.current.elim 0 ResidentCache.rows
def pinnedRows : Nat := charge.pinned.elim 0 PinnedCharge.rows
def currentSpans : Nat := charge.current.elim 0 ResidentCache.spans
def pinnedSpans : Nat := charge.pinned.elim 0 PinnedCharge.spans

def rows : Nat := charge.currentRows + charge.pinnedRows
def spans : Nat := charge.currentSpans + charge.pinnedSpans

/-- Whether a snapshot source still needs the current version. -/
def leased : Bool := charge.current.any fun cache => decide (0 < cache.sourceLeaseCount)

end SessionCharge

open SessionCharge (currentRows currentSpans pinnedRows pinnedSpans)

/-- The row and span pool every screen replica is charged against. -/
structure TerminalScreenResidency where
  maxRows : Nat
  maxSpans : Nat
  residentRows : Nat
  residentSpans : Nat
  nextGeneration : Nat

namespace TerminalScreenResidency

/-- A pool with the two ceilings a budget resolved to. -/
def new (maxRows maxSpans : Nat) : TerminalScreenResidency :=
  { maxRows, maxSpans, residentRows := 0, residentSpans := 0, nextGeneration := 1 }

variable (pool : TerminalScreenResidency)

/-- The two ceilings this pool enforces. -/
def caps : Nat × Nat := (pool.maxRows, pool.maxSpans)

/-- What the pool currently holds. -/
def usage : Nat × Nat := (pool.residentRows, pool.residentSpans)

variable (state : SessionCharge)

def canReplace (rows spans : Nat) : Bool :=
  if state.leased && state.pinned.isSome then false
  else
    decide (pool.residentRows - state.currentRows + rows ≤ pool.maxRows) &&
      decide (pool.residentSpans - state.currentSpans + spans ≤ pool.maxSpans)

/-- Pin a version a cursor still needs, charging it a second time. False means another
version is already pinned or the pool is full. -/
def retainCurrentVersion (cache : ResidentCache) :
    TerminalScreenResidency × SessionCharge × Bool :=
  if cache.sourceLeaseCount = 0 then (pool, state, true)
  else if state.pinned.isSome then (pool, state, false)
  else if pool.residentRows + cache.rows > pool.maxRows ∨
      pool.residentSpans + cache.spans > pool.maxSpans then (pool, state, false)
  else
    ({ pool with
        residentRows := pool.residentRows + cache.rows
        residentSpans := pool.residentSpans + cache.spans },
      { state with pinned := some cache.pin }, true)

/-- Take one version's charge off. -/
def uncharge (rows spans : Nat) : TerminalScreenResidency :=
  { pool with
    residentRows := pool.residentRows - rows
    residentSpans := pool.residentSpans - spans }

/-- Charge the next version and make it the session's current one. -/
def install (frame : CellGridFrame) (coordRecvMs : UInt64)
    (rows spans : Nat) : TerminalScreenResidency × SessionCharge :=
  ({ pool with
      nextGeneration := pool.nextGeneration + 1
      residentRows := pool.residentRows + rows
      residentSpans := pool.residentSpans + spans },
    { state with
      current := some (ResidentCache.new pool.nextGeneration frame coordRecvMs rows spans) })

/-- Swap in the next cache, pinning the current one if a source still needs it. False
means the pool refused. -/
def replace (frame : CellGridFrame) (coordRecvMs : UInt64)
    (rows spans : Nat) : TerminalScreenResidency × SessionCharge × Bool :=
  if !pool.canReplace state rows spans then (pool, state, false)
  else
    match state.current with
    | none =>
      let (pool, state) := pool.install state frame coordRecvMs rows spans
      (pool, state, true)
    | some current =>
      match pool.retainCurrentVersion { state with current := none } current with
      | (pool, state, false) => (pool, { state with current := some current }, false)
      | (pool, state, true) =>
        let (pool, state) :=
          (pool.uncharge current.rows current.spans).install state frame coordRecvMs rows spans
        (pool, state, true)

/-- Un-charge a session's current cache, pinning it first if a cursor needs it. False
means the pool could not take the pin. -/
def dropCache : TerminalScreenResidency × SessionCharge × Bool :=
  match state.current with
  | none => (pool, state, true)
  | some current =>
    match pool.retainCurrentVersion { state with current := none } current with
    | (pool, state, false) => (pool, { state with current := some current }, false)
    | (pool, state, true) => (pool.uncharge current.rows current.spans, state, true)

/-- Take a lease on the current version; any other version is refused. -/
def acquireSourceLease (generation : Nat) :
    TerminalScreenResidency × SessionCharge × Bool :=
  match state.current with
  | none => (pool, state, false)
  | some current =>
    if current.generation ≠ generation then (pool, state, false)
    else
      (pool, { state with
          current := some { current with sourceLeaseCount := current.sourceLeaseCount + 1 } },
        true)

/-- The half of a release that looks at the pinned version: the last one out un-pins it. -/
def releasePinned (generation : Nat) :
    TerminalScreenResidency × SessionCharge :=
  match state.pinned with
  | none => (pool, state)
  | some pinned =>
    if pinned.generation ≠ generation ∨ pinned.sourceLeaseCount = 0 then (pool, state)
    else
      let remaining := pinned.sourceLeaseCount - 1
      if remaining ≠ 0 then
        (pool, { state with pinned := some { pinned with sourceLeaseCount := remaining } })
      else (pool.uncharge pinned.rows pinned.spans, { state with pinned := none })

/-- Give a lease back. -/
def releaseSourceLease (generation : Nat) :
    TerminalScreenResidency × SessionCharge :=
  match state.current with
  | some current =>
    if current.generation = generation ∧ 0 < current.sourceLeaseCount then
      (pool, { state with
          current := some { current with sourceLeaseCount := current.sourceLeaseCount - 1 } })
    else pool.releasePinned state generation
  | none => pool.releasePinned state generation

/-! ## What each operation does -/

structure Covers (state : SessionCharge) : Prop where
  rows : state.rows ≤ pool.residentRows
  spans : state.spans ≤ pool.residentSpans

/-- Both totals are below their ceilings. -/
structure WithinCaps : Prop where
  rows : pool.residentRows ≤ pool.maxRows
  spans : pool.residentSpans ≤ pool.maxSpans

/-- The pool moves by what the session's charge moves by, under the same ceilings. -/
structure Balanced (pool pool' : TerminalScreenResidency) (state state' : SessionCharge) :
    Prop where
  rows : pool'.residentRows + state.rows = pool.residentRows + state'.rows
  spans : pool'.residentSpans + state.spans = pool.residentSpans + state'.spans
  maxRows : pool'.maxRows = pool.maxRows
  maxSpans : pool'.maxSpans = pool.maxSpans

/-- There is room for one more version beside what the pool holds. -/
def HasRoom (rows spans : Nat) : Prop :=
  pool.residentRows + rows ≤ pool.maxRows ∧ pool.residentSpans + spans ≤ pool.maxSpans
  deriving Decidable

variable {pool} {state : SessionCharge} {rows spans : Nat}

theorem Balanced.refl : Balanced pool pool state state := ⟨rfl, rfl, rfl, rfl⟩

variable {pool' : TerminalScreenResidency} {state' : SessionCharge}

theorem Balanced.ceilings (h : Balanced pool pool' state state') :
    pool'.maxRows = pool.maxRows ∧ pool'.maxSpans = pool.maxSpans :=
  ⟨h.maxRows, h.maxSpans⟩

theorem Balanced.of_charge (hrows : state'.rows = state.rows)
    (hspans : state'.spans = state.spans) : Balanced pool pool state state' :=
  ⟨by rw [hrows], by rw [hspans], rfl, rfl⟩

theorem Balanced.trans {pool'' : TerminalScreenResidency} {state'' : SessionCharge}
    (h : Balanced pool pool' state state') (h' : Balanced pool' pool'' state' state'') :
    Balanced pool pool'' state state'' := by
  have hrows := h.rows
  have hrows' := h'.rows
  have hspans := h.spans
  have hspans' := h'.spans
  exact ⟨by omega, by omega, h'.maxRows.trans h.maxRows, h'.maxSpans.trans h.maxSpans⟩

theorem Balanced.covers
    (h : Balanced pool pool' state state') (hcovers : pool.Covers state) : pool'.Covers state' := by
  have hrows := h.rows
  have hspans := h.spans
  have hcover := hcovers.rows
  have hcov := hcovers.spans
  exact ⟨by omega, by omega⟩

theorem dropCache_cases (pool : TerminalScreenResidency) (state : SessionCharge) :
    (state.current = none ∧ pool.dropCache state = (pool, state, true)) ∨
    (∃ cur, state.current = some cur ∧ cur.sourceLeaseCount = 0 ∧ pool.dropCache state =
        (pool.uncharge cur.rows cur.spans, { state with current := none }, true)) ∨
    (∃ cur, state.current = some cur ∧ 0 < cur.sourceLeaseCount ∧
      state.pinned = none ∧ pool.HasRoom cur.rows cur.spans ∧
      pool.dropCache state = (({ pool with
            residentRows := pool.residentRows + cur.rows
            residentSpans := pool.residentSpans + cur.spans } :
              TerminalScreenResidency).uncharge cur.rows cur.spans,
          { current := none, pinned := some cur.pin }, true)) ∨
    ∃ cur, state.current = some cur ∧ 0 < cur.sourceLeaseCount ∧
      (state.pinned.isSome ∨ ¬pool.HasRoom cur.rows cur.spans) ∧
      pool.dropCache state = (pool, state, false) := by
  obtain ⟨cur, pinned⟩ := state
  cases cur with
  | none => exact .inl ⟨rfl, rfl⟩
  | some cur =>
    refine .inr ?_
    by_cases hleases : cur.sourceLeaseCount = 0
    · exact .inl ⟨cur, rfl, hleases, by simp [dropCache, retainCurrentVersion, hleases]⟩
    have hpos : 0 < cur.sourceLeaseCount := Nat.pos_of_ne_zero hleases
    refine .inr ?_
    cases pinned with
    | some =>
      exact .inr ⟨cur, rfl, hpos, .inl rfl, by simp [dropCache, retainCurrentVersion, hleases]⟩
    | none =>
      by_cases hroom : pool.HasRoom cur.rows cur.spans
      · have hfits : ¬(pool.residentRows + cur.rows > pool.maxRows ∨
            pool.residentSpans + cur.spans > pool.maxSpans) := by
          rintro (h | h)
          · exact absurd hroom.1 (Nat.not_le.mpr h)
          · exact absurd hroom.2 (Nat.not_le.mpr h)
        exact .inl ⟨cur, rfl, hpos, rfl, hroom,
          by simp only [dropCache, retainCurrentVersion, hleases, hfits, if_false,
            isSome_none, Bool.false_eq_true]⟩
      · have hfull : pool.residentRows + cur.rows > pool.maxRows ∨
            pool.residentSpans + cur.spans > pool.maxSpans := by
          by_contra hfits
          exact hroom (by simpa [HasRoom] using hfits)
        exact .inr ⟨cur, rfl, hpos, .inr hroom,
          by simp only [dropCache, retainCurrentVersion, hleases, hfull, if_false, if_true,
            isSome_none, Bool.false_eq_true]⟩

theorem replace_eq (frame : CellGridFrame) (coordRecvMs : UInt64) :
    pool.replace state frame coordRecvMs rows spans = if pool.canReplace state rows spans then
        match pool.dropCache state with
        | (pool, state, false) => (pool, state, false)
        | (pool, state, true) =>
          ((pool.install state frame coordRecvMs rows spans).1,
            (pool.install state frame coordRecvMs rows spans).2, true)
      else (pool, state, false) := by
  unfold replace dropCache
  cases pool.canReplace state rows spans with
  | false => rfl
  | true =>
    obtain ⟨cur, pinned⟩ := state
    cases cur with
    | none => rfl
    | some cur =>
      dsimp only
      obtain ⟨pool', state', kept⟩ := pool.retainCurrentVersion ⟨none, pinned⟩ cur
      cases kept <;> rfl

theorem dropCache_refused (h : (pool.dropCache state).2.2 = false) :
    pool.dropCache state = (pool, state, false) := by
  obtain ⟨-, he⟩ | ⟨_, -, -, he⟩ | ⟨_, -, -, -, -, he⟩ | ⟨_, -, -, -, he⟩ :=
    dropCache_cases pool state
  · simp [he] at h
  · simp [he] at h
  · simp [he] at h
  · exact he

theorem dropCache_balanced (hcovers : pool.Covers state) :
    Balanced pool (pool.dropCache state).1 state (pool.dropCache state).2.1 := by
  have hrows := hcovers.rows
  have hspans := hcovers.spans
  obtain ⟨-, he⟩ | ⟨cur, hcur, -, he⟩ | ⟨cur, hcur, -, hpinned, -, he⟩ |
    ⟨_, -, -, -, he⟩ := dropCache_cases pool state
  · rw [he]
    exact .refl
  · simp only [SessionCharge.rows, SessionCharge.spans, currentRows,
      currentSpans, hcur, elim_some] at hrows hspans
    rw [he]
    constructor
    · simp only [uncharge, SessionCharge.rows, currentRows, pinnedRows, hcur, elim_none, elim_some]
      omega
    · simp only [uncharge, SessionCharge.spans, currentSpans,
        pinnedSpans, hcur, elim_none, elim_some]
      omega
    · rfl
    · rfl
  · rw [he]
    constructor
    · simp [uncharge, SessionCharge.rows, currentRows, pinnedRows, hcur, hpinned, ResidentCache.pin]
    · simp [uncharge, SessionCharge.spans, currentSpans, pinnedSpans,
        hcur, hpinned, ResidentCache.pin]
    · rfl
    · rfl
  · rw [he]
    exact .refl

theorem dropCache_current (h : (pool.dropCache state).2.2 = true) :
    (pool.dropCache state).2.1.current = none := by
  obtain ⟨hnone, he⟩ | ⟨_, -, -, he⟩ | ⟨_, -, -, -, -, he⟩ | ⟨_, -, -, -, he⟩ :=
    dropCache_cases pool state
  · rw [he]
    exact hnone
  · rw [he]
  · rw [he]
  · simp [he] at h

theorem dropCache_withinCaps (hcaps : pool.WithinCaps) : (pool.dropCache state).1.WithinCaps := by
  have hrows := hcaps.rows
  have hspans := hcaps.spans
  obtain ⟨-, he⟩ | ⟨_, -, -, he⟩ | ⟨_, -, -, -, -, he⟩ | ⟨_, -, -, -, he⟩ :=
    dropCache_cases pool state
  · rw [he]
    exact hcaps
  · rw [he]
    exact ⟨Nat.le_trans (Nat.sub_le _ _) hrows, Nat.le_trans (Nat.sub_le _ _) hspans⟩
  · rw [he]
    exact ⟨by simpa [uncharge] using hrows, by simpa [uncharge] using hspans⟩
  · rw [he]
    exact hcaps

variable {frame : CellGridFrame} {coordRecvMs : UInt64}

theorem replace_eq_true (h : (pool.replace state frame coordRecvMs rows spans).2.2 = true) :
    pool.canReplace state rows spans = true ∧ (pool.dropCache state).2.2 = true ∧
      pool.replace state frame coordRecvMs rows spans =
        (((pool.dropCache state).1.install (pool.dropCache state).2.1 frame coordRecvMs
            rows spans).1,
          ((pool.dropCache state).1.install (pool.dropCache state).2.1 frame coordRecvMs
            rows spans).2, true) := by
  rw [replace_eq] at h ⊢
  cases hcan : pool.canReplace state rows spans with
  | false => simp [hcan] at h
  | true =>
    rcases hdrop : pool.dropCache state with ⟨pool', state', kept⟩
    cases kept with
    | false => simp [hcan, hdrop] at h
    | true => exact ⟨rfl, rfl, rfl⟩

theorem dropCache_nextGeneration (pool : TerminalScreenResidency) (state : SessionCharge) :
    (pool.dropCache state).1.nextGeneration = pool.nextGeneration := by
  obtain ⟨-, he⟩ | ⟨_, -, -, he⟩ | ⟨_, -, -, -, -, he⟩ | ⟨_, -, -, -, he⟩ :=
    dropCache_cases pool state
  all_goals simp [he, uncharge]

theorem replace_installs (h : (pool.replace state frame coordRecvMs rows spans).2.2 = true) :
    (pool.replace state frame coordRecvMs rows spans).2.1.current =
        some (ResidentCache.new pool.nextGeneration frame coordRecvMs rows spans) ∧
      (pool.replace state frame coordRecvMs rows spans).1.nextGeneration =
        pool.nextGeneration + 1 := by
  obtain ⟨-, -, he⟩ := replace_eq_true h
  rw [he]
  simp [install, dropCache_nextGeneration]

theorem replace_refused (h : (pool.replace state frame coordRecvMs rows spans).2.2 = false) :
    pool.replace state frame coordRecvMs rows spans = (pool, state, false) := by
  rw [replace_eq] at h ⊢
  cases hcan : pool.canReplace state rows spans with
  | false => rfl
  | true =>
    cases hkept : (pool.dropCache state).2.2 with
    | false =>
      rw [dropCache_refused hkept]
      rfl
    | true =>
      rcases hdrop : pool.dropCache state with ⟨pool', state', kept⟩
      simp only [hdrop] at hkept
      subst hkept
      simp [hcan, hdrop] at h

theorem replace_balanced (hcovers : pool.Covers state) :
    Balanced pool (pool.replace state frame coordRecvMs rows spans).1 state
      (pool.replace state frame coordRecvMs rows spans).2.1 := by
  cases hkept : (pool.replace state frame coordRecvMs rows spans).2.2 with
  | false =>
    rw [replace_refused hkept]
    exact .refl
  | true =>
    obtain ⟨-, hdrop, he⟩ := replace_eq_true hkept
    have hcur := dropCache_current hdrop
    have hbalance := dropCache_balanced hcovers
    have hrows := hbalance.rows
    have hspans := hbalance.spans
    rw [he]
    simp only [SessionCharge.rows, SessionCharge.spans, currentRows,
      currentSpans, hcur, elim_none] at hrows hspans
    constructor
    · simp only [install, ResidentCache.new, SessionCharge.rows, currentRows,
        pinnedRows, elim_some] at hrows ⊢
      omega
    · simp only [install, ResidentCache.new, SessionCharge.spans, currentSpans,
        pinnedSpans, elim_some] at hspans ⊢
      omega
    · exact hbalance.maxRows
    · exact hbalance.maxSpans

/-- The next version fits beside the current one, should a source keep that one pinned: the
test a replacement makes assumes that the current version is freed. -/
def NextFits (pool : TerminalScreenResidency) (state : SessionCharge) (rows spans : Nat) : Prop :=
  ∀ current ∈ state.current, 0 < current.sourceLeaseCount →
    pool.canReplace state rows spans = true → pool.HasRoom current.rows current.spans →
      pool.HasRoom rows spans
  deriving Decidable

theorem replace_withinCaps (hcaps : pool.WithinCaps) (hfits : pool.NextFits state rows spans) :
    (pool.replace state frame coordRecvMs rows spans).1.WithinCaps := by
  cases hkept : (pool.replace state frame coordRecvMs rows spans).2.2 with
  | false =>
    rw [replace_refused hkept]
    exact hcaps
  | true =>
    obtain ⟨hcan, hdrop, he⟩ := replace_eq_true hkept
    have hroom : pool.residentRows - state.currentRows + rows ≤ pool.maxRows ∧
        pool.residentSpans - state.currentSpans + spans ≤ pool.maxSpans := by
      unfold canReplace at hcan
      split at hcan
      · cases hcan
      · simpa using hcan
    rw [he]
    obtain ⟨hnone, hd⟩ | ⟨cur, hcur, -, hd⟩ | ⟨cur, hcur, hleases, -, hpin, hd⟩ |
      ⟨_, -, -, -, hd⟩ := dropCache_cases pool state
    · rw [hd]
      simp only [currentRows, currentSpans, hnone, elim_none, Nat.sub_zero] at hroom
      exact ⟨hroom.1, hroom.2⟩
    · rw [hd]
      simp only [currentRows, currentSpans, hcur, elim_some] at hroom
      exact ⟨hroom.1, hroom.2⟩
    · -- The current version is pinned and stays charged, so the pool grows by the next one.
      have hnext := hfits cur hcur hleases hcan hpin
      rw [hd]
      exact ⟨by simpa [install, uncharge] using hnext.1, by simpa [install, uncharge] using hnext.2⟩
    · simp [hd] at hdrop

theorem acquireSourceLease_balanced (gen : Nat) :
    Balanced pool (pool.acquireSourceLease state gen).1 state
      (pool.acquireSourceLease state gen).2.1 := by
  unfold acquireSourceLease
  split
  · exact .refl
  rename_i hcur
  split
  · exact .refl
  · apply Balanced.of_charge
    · simp [SessionCharge.rows, currentRows, pinnedRows, hcur]
    · simp [SessionCharge.spans, currentSpans, pinnedSpans, hcur]

theorem releasePinned_balanced (gen : Nat) (hcovers : pool.Covers state) :
    Balanced pool (pool.releasePinned state gen).1 state (pool.releasePinned state gen).2 := by
  unfold releasePinned
  split
  · exact .refl
  rename_i pinned hpinned
  split
  · exact .refl
  dsimp only
  split
  · apply Balanced.of_charge
    · simp [SessionCharge.rows, currentRows, pinnedRows, hpinned]
    · simp [SessionCharge.spans, currentSpans, pinnedSpans, hpinned]
  have hrows := hcovers.rows
  have hspans := hcovers.spans
  simp only [SessionCharge.rows, SessionCharge.spans, pinnedRows,
    pinnedSpans, hpinned, elim_some] at hrows hspans
  constructor
  · simp only [uncharge, SessionCharge.rows, currentRows, pinnedRows, hpinned, elim_none, elim_some]
    omega
  · simp only [uncharge, SessionCharge.spans, currentSpans,
      pinnedSpans, hpinned, elim_none, elim_some]
    omega
  · rfl
  · rfl

theorem releaseSourceLease_balanced (gen : Nat) (hcovers : pool.Covers state) :
    Balanced pool (pool.releaseSourceLease state gen).1 state
      (pool.releaseSourceLease state gen).2 := by
  unfold releaseSourceLease
  split
  · rename_i hcur
    split
    · apply Balanced.of_charge
      · simp [SessionCharge.rows, currentRows, pinnedRows, hcur]
      · simp [SessionCharge.spans, currentSpans, pinnedSpans, hcur]
    · exact releasePinned_balanced gen hcovers
  · exact releasePinned_balanced gen hcovers

theorem acquireSourceLease_pool (gen : Nat) : (pool.acquireSourceLease state gen).1 = pool := by
  unfold acquireSourceLease
  split
  · rfl
  · split <;> rfl

theorem releasePinned_withinCaps {gen : Nat} (hcaps : pool.WithinCaps) :
    (pool.releasePinned state gen).1.WithinCaps := by
  unfold releasePinned
  split
  · exact hcaps
  split
  · exact hcaps
  dsimp only
  split
  · exact hcaps
  · exact ⟨Nat.le_trans (Nat.sub_le _ _) hcaps.rows, Nat.le_trans (Nat.sub_le _ _) hcaps.spans⟩

theorem releaseSourceLease_withinCaps {gen : Nat} (hcaps : pool.WithinCaps) :
    (pool.releaseSourceLease state gen).1.WithinCaps := by
  unfold releaseSourceLease
  split
  · split
    · exact hcaps
    · exact releasePinned_withinCaps hcaps
  · exact releasePinned_withinCaps hcaps

end TerminalScreenResidency

/-! ## The pool over its sessions -/

/-- The calls made on one pool, each for one session. -/
inductive ResidencyOp where
  | canReplace (sessionId : SessionId) (rows spans : Nat)
  | replace (sessionId : SessionId) (frame : CellGridFrame) (coordRecvMs : UInt64)
      (rows spans : Nat)
  | dropCache (sessionId : SessionId)
  | acquireSourceLease (sessionId : SessionId) (generation : Nat)
  | releaseSourceLease (sessionId : SessionId) (generation : Nat)

/-- One pool and the sessions charged against it. -/
structure ResidencySystem where
  pool : TerminalScreenResidency
  sessions : Table SessionId SessionCharge

/-- A session to run the examples on. -/
def blankSession : SessionId where
  value := "3b241101-e2bb-4255-8caf-4136c566a962"
  check := by decide +kernel

/-- A one-row screen with nothing on it. -/
def blankScreen : CellGridFrame where
  streamId := "3b241101-e2bb-4255-8caf-4136c566a962"
  gridEpoch := "e"
  cols := 1
  rows := 1
  cursorRow := 0
  cursorCol := 0
  cursorVisible := false
  altScreen := false
  cursorKeysApp := false
  bracketedPaste := false
  mouseTracking := .none
  mouseSgr := false
  focusEvents := false
  kittyKeyboardFlags := 0
  full := true
  viewportRows := [{ index := 0, spans := [], mark := 0 }]
  scrollbackRows := []
  scrollbackAppend := []
  scrollbackTotal := 0
  sbBase := 0
  baseSeq := 0
  seq := 1
  imagePlacements := some []

namespace ResidencySystem

open TerminalScreenResidency

variable (system : ResidencySystem)

def new (maxRows maxSpans : Nat) : ResidencySystem :=
  { pool := TerminalScreenResidency.new maxRows maxSpans, sessions := ∅ }

/-- What a session holds; one the pool has not met holds nothing. -/
def chargeOf (sessionId : SessionId) : SessionCharge := (system.sessions.lookup sessionId).getD {}

/-- Carry out a pool operation on one session's charge. -/
def onSession (sessionId : SessionId)
    (operation : SessionCharge → TerminalScreenResidency × SessionCharge × Bool) :
    ResidencySystem × Bool :=
  let (pool, charge, answer) := operation (system.chargeOf sessionId)
  ({ pool, sessions := system.sessions.insert sessionId charge }, answer)

/-- The pool over any number of sessions. A release answers nothing, which reads as true. -/
def machine : Transducer ResidencySystem ResidencyOp Bool where
  step system
    | .canReplace sessionId rows spans =>
      (system, system.pool.canReplace (system.chargeOf sessionId) rows spans)
    | .replace sessionId frame coordRecvMs rows spans =>
      system.onSession sessionId fun charge =>
        system.pool.replace charge frame coordRecvMs rows spans
    | .dropCache sessionId => system.onSession sessionId system.pool.dropCache
    | .acquireSourceLease sessionId generation =>
      system.onSession sessionId fun charge => system.pool.acquireSourceLease charge generation
    | .releaseSourceLease sessionId generation =>
      system.onSession sessionId fun charge =>
        let (pool, charge) := system.pool.releaseSourceLease charge generation
        (pool, charge, true)

/-- The pool is charged for exactly what its sessions hold. -/
structure Conserved : Prop where
  rows : system.pool.residentRows = total SessionCharge.rows system.sessions
  spans : system.pool.residentSpans = total SessionCharge.spans system.sessions

/-- Every amount an operation takes off, the current version's or the pinned one's, is
charged: no subtraction goes below zero. -/
def SubtractionsFit : Prop :=
  ∀ sessionId, (∀ current ∈ (system.chargeOf sessionId).current,
      current.rows ≤ system.pool.residentRows ∧ current.spans ≤ system.pool.residentSpans) ∧
    ∀ pinned ∈ (system.chargeOf sessionId).pinned,
      pinned.rows ≤ system.pool.residentRows ∧ pinned.spans ≤ system.pool.residentSpans

/-- A false answer to a replacement or a drop leaves the pool and every session unchanged. -/
def RefusalsKeep : Prop :=
  ∀ op sessionId, (op = .dropCache sessionId ∨ ∃ frame coordRecvMs rows spans,
      op = .replace sessionId frame coordRecvMs rows spans) →
    machine.answer system op = false → (machine.next system op).pool = system.pool ∧
        ∀ other, (machine.next system op).chargeOf other = system.chargeOf other

/-- A replacement whose current version is leased finds room for both versions. -/
def NextFits : ResidencySystem → ResidencyOp → Prop
  | system, .replace sessionId _ _ rows spans =>
    system.pool.NextFits (system.chargeOf sessionId) rows spans
  | _, _ => True

instance (system : ResidencySystem) (op : ResidencyOp) : Decidable (NextFits system op) := by
  cases op <;> dsimp only [NextFits] <;> infer_instance

variable {system}

theorem chargeOf_insert (pool : TerminalScreenResidency) (sid other : SessionId)
    (charge : SessionCharge) :
    chargeOf { pool, sessions := system.sessions.insert sid charge } other =
      if other = sid then charge else system.chargeOf other := by
  unfold chargeOf
  rw [lookup_insert]
  split <;> rfl

theorem heldBy_chargeOf {measure : SessionCharge → Nat} (hempty : measure {} = 0)
    (sid : SessionId) : heldBy measure system.sessions sid = measure (system.chargeOf sid) := by
  unfold heldBy chargeOf
  cases system.sessions.lookup sid with
  | none => simp [hempty]
  | some => rfl

theorem heldBy_rows (sid : SessionId) : heldBy SessionCharge.rows system.sessions sid =
      (system.chargeOf sid).rows :=
  heldBy_chargeOf rfl sid

theorem heldBy_spans (sid : SessionId) :
    heldBy SessionCharge.spans system.sessions sid = (system.chargeOf sid).spans :=
  heldBy_chargeOf rfl sid

theorem Conserved.covers (h : system.Conserved) (sid : SessionId) :
    system.pool.Covers (system.chargeOf sid) := by
  constructor
  · rw [h.rows, ← heldBy_rows]
    exact heldBy_le_total
  · rw [h.spans, ← heldBy_spans]
    exact heldBy_le_total

theorem Conserved.insert (h : system.Conserved) {sid : SessionId} {pool : TerminalScreenResidency}
    {charge : SessionCharge} (hbalance : Balanced system.pool pool (system.chargeOf sid) charge) :
    Conserved { pool, sessions := system.sessions.insert sid charge } := by
  have hrows := hbalance.rows
  have hspans := hbalance.spans
  constructor
  · have htotal : total SessionCharge.rows (system.sessions.insert sid charge) +
        (system.chargeOf sid).rows = total SessionCharge.rows system.sessions + charge.rows := by
      rw [← heldBy_rows]
      exact total_insert_add
    have hpre := h.rows
    dsimp only
    omega
  have htotal : total SessionCharge.spans (system.sessions.insert sid charge) +
      (system.chargeOf sid).spans = total SessionCharge.spans system.sessions + charge.spans := by
    rw [← heldBy_spans]
    exact total_insert_add
  have hpre := h.spans
  dsimp only
  omega

/-- Every operation conserves the pool. -/
theorem Conserved.next (h : system.Conserved) (op : ResidencyOp) :
    (machine.next system op).Conserved := by
  cases op with
  | canReplace => exact h
  | replace sid =>
    exact h.insert (replace_balanced (h.covers sid))
  | dropCache sid => exact h.insert (dropCache_balanced (h.covers sid))
  | acquireSourceLease => exact h.insert (acquireSourceLease_balanced _)
  | releaseSourceLease sid =>
    exact h.insert (releaseSourceLease_balanced _ (h.covers sid))

/-- No subtraction underflows. -/
theorem Conserved.subtractionsFit (h : system.Conserved) : system.SubtractionsFit := by
  intro sid
  have hcovers := h.covers sid
  have hrows := hcovers.rows
  have hspans := hcovers.spans
  refine ⟨?_, ?_⟩
  · intro cur hcur
    simp only [SessionCharge.rows, currentRows, SessionCharge.spans,
      currentSpans, mem_def.mp hcur, elim_some] at hrows hspans
    exact ⟨by omega, by omega⟩
  intro pinned hpinned
  simp only [SessionCharge.rows, pinnedRows, SessionCharge.spans,
    pinnedSpans, mem_def.mp hpinned, elim_some] at hrows hspans
  exact ⟨by omega, by omega⟩

theorem chargeOf_insert_self (pool : TerminalScreenResidency) (sid other : SessionId) :
    chargeOf { pool, sessions := system.sessions.insert sid (system.chargeOf sid) }
      other = system.chargeOf other := by
  rw [chargeOf_insert]
  split
  · rename_i h
    rw [h]
  · rfl

/-- A refused change changes nothing. -/
theorem refusalsKeep (system : ResidencySystem) : system.RefusalsKeep := by
  rintro op sid (rfl | ⟨frame, coordRecvMs, rows, spans, rfl⟩) hanswer
  · have href : system.pool.dropCache (system.chargeOf sid) =
        (system.pool, system.chargeOf sid, false) := dropCache_refused hanswer
    simp only [Transducer.next, machine, onSession, href]
    exact ⟨trivial, chargeOf_insert_self _ sid⟩
  have href : system.pool.replace (system.chargeOf sid) frame coordRecvMs rows spans =
        (system.pool, system.chargeOf sid, false) := replace_refused hanswer
  simp only [Transducer.next, machine, onSession, href]
  exact ⟨trivial, chargeOf_insert_self _ sid⟩

/-- An operation that fits keeps the pool within its caps. -/
theorem next_withinCaps (hcaps : system.pool.WithinCaps) {op : ResidencyOp}
    (hfits : NextFits system op) : (machine.next system op).pool.WithinCaps := by
  cases op with
  | canReplace => exact hcaps
  | replace => exact replace_withinCaps hcaps hfits
  | dropCache => exact dropCache_withinCaps hcaps
  | acquireSourceLease sid gen =>
    have hpool : (machine.next system (.acquireSourceLease sid gen)).pool =
        system.pool := acquireSourceLease_pool gen
    rw [hpool]
    exact hcaps
  | releaseSourceLease =>
    exact releaseSourceLease_withinCaps hcaps

theorem Conserved.next_ceilings (h : system.Conserved) (op : ResidencyOp) :
    (machine.next system op).pool.maxRows = system.pool.maxRows ∧
      (machine.next system op).pool.maxSpans = system.pool.maxSpans := by
  cases op with
  | canReplace => exact ⟨rfl, rfl⟩
  | replace sid =>
    exact (replace_balanced (h.covers sid)).ceilings
  | dropCache sid =>
    exact (dropCache_balanced (h.covers sid)).ceilings
  | acquireSourceLease sid gen =>
    exact (acquireSourceLease_balanced gen).ceilings
  | releaseSourceLease sid gen =>
    exact (releaseSourceLease_balanced gen (h.covers sid)).ceilings

/-- In every run whose replacements of leased versions fit beside them, the pool is charged
for exactly what its sessions hold, no subtraction goes below zero, the totals stay below
their ceilings, and a refusal changes nothing. -/
theorem run_conservesAndCaps {maxRows maxSpans : Nat} {ops : List ResidencyOp}
    (h : machine.Along NextFits (new maxRows maxSpans) ops) :
    (machine.run (new maxRows maxSpans) ops).Conserved ∧
      (machine.run (new maxRows maxSpans) ops).SubtractionsFit ∧
      (machine.run (new maxRows maxSpans) ops).pool.residentRows ≤ maxRows ∧
      (machine.run (new maxRows maxSpans) ops).pool.residentSpans ≤ maxSpans ∧
      (machine.run (new maxRows maxSpans) ops).RefusalsKeep := by
  obtain ⟨hcons, hcaps, hmaxRows, hmax⟩ :
      (machine.run (new maxRows maxSpans) ops).Conserved ∧
        (machine.run (new maxRows maxSpans) ops).pool.WithinCaps ∧
        (machine.run (new maxRows maxSpans) ops).pool.maxRows = maxRows ∧
        (machine.run (new maxRows maxSpans) ops).pool.maxSpans = maxSpans := by
    apply Transducer.Along.invariant (P := fun system => system.Conserved ∧
      system.pool.WithinCaps ∧ system.pool.maxRows = maxRows ∧ system.pool.maxSpans = maxSpans)
      (C := NextFits)
    · exact ⟨⟨rfl, rfl⟩, ⟨Nat.zero_le _, Nat.zero_le _⟩, rfl, rfl⟩
    · rintro system op ⟨hcons, hcaps, hmaxRows, hmax⟩ hfits
      obtain ⟨hrows, hspans⟩ := hcons.next_ceilings op
      exact ⟨hcons.next op, next_withinCaps hcaps hfits, hrows.trans hmaxRows,
        hspans.trans hmax⟩
    · exact h
  exact ⟨hcons, hcons.subtractionsFit, hcaps.rows.trans hmaxRows.le,
    hcaps.spans.trans hmax.le, refusalsKeep _⟩

/-- A version is leased and replaced, and both versions fit. -/
theorem run_conservesAndCaps_leased :
    let ops : List ResidencyOp :=
      [.replace blankSession blankScreen 0 4 4, .acquireSourceLease blankSession 1,
        .replace blankSession blankScreen 0 5 5, .releaseSourceLease blankSession 1, .dropCache blankSession]
    (machine.run (new 10 10) ops).Conserved ∧ (machine.run (new 10 10) ops).SubtractionsFit ∧
      (machine.run (new 10 10) ops).pool.residentRows ≤ 10 ∧
      (machine.run (new 10 10) ops).pool.residentSpans ≤ 10 ∧
      (machine.run (new 10 10) ops).RefusalsKeep :=
  run_conservesAndCaps (by decide +kernel)

/-- The version a source still walks stays charged, and the next one is charged beside it. -/
theorem exceedsCaps_leased :
    let ops : List ResidencyOp :=
      [.replace blankSession blankScreen 0 5 5, .acquireSourceLease blankSession 1,
        .replace blankSession blankScreen 0 10 10]
    machine.answers (new 10 10) ops = [true, true, true] ∧
      (machine.run (new 10 10) ops).pool.usage = (15, 15) ∧
      (machine.run (new 10 10) ops).pool.caps = (10, 10) := by
  decide +kernel

end ResidencySystem
end Roost.Coord
