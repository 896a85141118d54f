-- SUMMARY: Claims on capacity counted apart from what the database holds.
import Roost.Worker.Journal

/-!
# The reservation store

Opening a session reserves the capacity its close will need. The counters of the live claims are
kept beside the claims themselves and beside what the database reports. Sums are `usize` sums.
-/

namespace Roost.Worker

open Reservation (payloadBytes)
open OrderedMap

/-- A plain `usize` sum. -/
def usizeAdd (a b : Nat) : Nat := (a + b) % 2 ^ 64

structure StoreStats where
  rows : Nat
  payloadBytes : Nat
  databaseBytes : Nat

inductive AppendError where
  | kindMismatch (expected actual : DurableEventKind)
  | reservationNotLive (id : Nat)
  | payloadTooLarge (actual limit : Nat)

/-- An event that has been written. -/
structure WrittenEvent where
  reservationId : Nat
  kind : DurableEventKind
  payloadBytes : Nat

structure Store where
  nextReservationId : Nat
  reservations : OrderedMap Nat Reservation
  reservedRows : Nat
  reservedBytes : Nat
  /-- How many live reservations still block a snapshot. -/
  blockingReservedRows : Nat
  stats : StoreStats

namespace Store

def new : Store where
  nextReservationId := 1
  reservations := .empty
  reservedRows := 0
  reservedBytes := 0
  blockingReservedRows := 0
  stats := ⟨0, 0, 0⟩

variable (store : Store)

/-- Count one claim more. -/
def grant (reservation : Reservation) : Store :=
  { store with
    nextReservationId := usizeAdd store.nextReservationId 1
    reservedRows := usizeAdd store.reservedRows 1
    reservedBytes := usizeAdd store.reservedBytes reservation.payloadBytes
    blockingReservedRows := usizeAdd store.blockingReservedRows 1
    reservations := store.reservations.insert reservation.id reservation }

def reserve (kind : DurableEventKind) (payloadBytes : Nat) :
    Store × Except ReserveError Reservation :=
  match claimIsWellFormed kind payloadBytes, admissionFits
      (usizeAdd store.stats.rows store.reservedRows)
      (usizeAdd store.stats.payloadBytes store.reservedBytes) payloadBytes with
  | .error error, _ => (store, .error error)
  | .ok (), .error error => (store, .error error)
  | .ok (), .ok () =>
    let reservation : Reservation :=
      { id := store.nextReservationId, kind, payloadBytes, snapshotBlocking := true }
    (store.grant reservation, .ok reservation)

/-- Stop a claim from blocking snapshots, without giving it up. -/
def hold (reservation : Reservation) : Store × Except ReserveError Reservation :=
  match store.reservations.lookup reservation.id with
  | none => (store, .error (.reservationNotLive reservation.id))
  | some active =>
    if !active.snapshotBlocking then (store, .error (.alreadyHeld active.id))
    else
      let active := { active with snapshotBlocking := false }
      ({ store with
          blockingReservedRows := store.blockingReservedRows - 1
          reservations := store.reservations.insert active.id active }, .ok active)

/-- Spend a claim, returning its capacity whether or not it was blocking. -/
def consume (active : Reservation) : Store :=
  if (store.reservations.lookup active.id).isSome then
    { store with
      reservations := store.reservations.erase active.id
      reservedRows := store.reservedRows - 1
      reservedBytes := store.reservedBytes - active.payloadBytes
      blockingReservedRows :=
        if active.snapshotBlocking then store.blockingReservedRows - 1
        else store.blockingReservedRows }
  else store

def release (reservation : Reservation) : Store × Except ReserveError Unit :=
  match store.reservations.lookup reservation.id with
  | none => (store, .error (.reservationNotLive reservation.id))
  | some active => (store.consume active, .ok ())

/-- Write the event the claim was taken for, and spend the claim. -/
def append (reservation : Reservation) (actualKind : DurableEventKind)
    (actualPayloadBytes : Nat) : Store × Except AppendError WrittenEvent :=
  match store.reservations.lookup reservation.id with
  | none => (store, .error (.reservationNotLive reservation.id))
  | some active =>
    if active.kind ≠ actualKind then (store, .error (.kindMismatch active.kind actualKind))
    else if active.kind.payloadLimit < actualPayloadBytes then
      (store, .error (.payloadTooLarge actualPayloadBytes active.kind.payloadLimit))
    else
      let store := store.consume active
      ({ store with
          stats := { store.stats with
            rows := usizeAdd store.stats.rows 1
            payloadBytes := usizeAdd store.stats.payloadBytes actualPayloadBytes }
          -- The claim's bytes were given back by `consume` already.
          reservedBytes := store.reservedBytes - active.payloadBytes },
        .ok ⟨active.id, actualKind, actualPayloadBytes⟩)

def notePersisted (rows payloadBytes databaseBytes : Nat) : Store :=
  { store with stats := ⟨rows, payloadBytes, databaseBytes⟩ }

end Store

inductive StoreOp where
  | reserve (kind : DurableEventKind) (payloadBytes : Nat)
  | hold (reservation : Reservation)
  | release (reservation : Reservation)
  | append (reservation : Reservation) (actualKind : DurableEventKind) (actualPayloadBytes : Nat)
  | notePersisted (rows payloadBytes databaseBytes : Nat)

namespace Store

def machine : Transducer Store StoreOp Unit where
  step
    | store, .reserve kind payloadBytes => ((store.reserve kind payloadBytes).1, ())
    | store, .hold reservation => ((store.hold reservation).1, ())
    | store, .release reservation => ((store.release reservation).1, ())
    | store, .append reservation actualKind actualPayloadBytes =>
      ((store.append reservation actualKind actualPayloadBytes).1, ())
    | store, .notePersisted rows payloadBytes databaseBytes =>
      (store.notePersisted rows payloadBytes databaseBytes, ())

/-! ## Exact books -/

def blocks (reservation : Reservation) : Nat := if reservation.snapshotBlocking then 1 else 0

variable (store : Store)

/-- The rows are those of the live reservations, and the blocking rows those not yet held. -/
structure Counted : Prop where
  fresh : ∀ id ∈ store.reservations.keys, id < store.nextReservationId
  live : ∀ id active, store.reservations.lookup id = some active →
    active.id = id ∧ 0 < active.payloadBytes
  rows : store.reservedRows = store.reservations.length
  blocking : store.blockingReservedRows = store.reservations.total blocks

/-- The counters are those of the live reservations. -/
structure Exact : Prop extends store.Counted where
  bytes : store.reservedBytes = store.reservations.total payloadBytes

/-- Far enough from the largest `usize` for one more claim of any size. -/
def Fits : Prop :=
  store.stats.rows + store.reservedRows + 1 < 2 ^ 64 ∧
    store.stats.payloadBytes + store.reservedBytes + maxPayloadBytes < 2 ^ 64 ∧
      store.nextReservationId + 1 < 2 ^ 64
  deriving Decidable

/-- The call is an append that spends a live claim: the kinds agree and the payload is in bounds. -/
def Spends : StoreOp → Prop
  | .append reservation actualKind actualPayloadBytes =>
    ∃ active, store.reservations.lookup reservation.id = some active ∧
      active.kind = actualKind ∧ actualPayloadBytes ≤ actualKind.payloadLimit
  | _ => False

/-- An append spends a claim only while that is the only live one. -/
def SpendsAlone (op : StoreOp) : Prop :=
  store.Spends op → store.reservations.length = 1

/-- What `consume` takes off for a claim is in the counters. -/
def Holds (active : Reservation) : Prop :=
  1 ≤ store.reservedRows ∧ active.payloadBytes ≤ store.reservedBytes ∧
    (active.snapshotBlocking = true → 1 ≤ store.blockingReservedRows)

/-- No subtraction of the call takes off more than is there. -/
def Covered : StoreOp → Prop
  | .hold reservation => ∀ active, store.reservations.lookup reservation.id = some active →
      active.snapshotBlocking = true → 1 ≤ store.blockingReservedRows
  | .release reservation => ∀ active, store.reservations.lookup reservation.id = some active →
      store.Holds active
  | .append reservation actualKind actualPayloadBytes =>
    store.Spends (.append reservation actualKind actualPayloadBytes) →
      ∀ active, store.reservations.lookup reservation.id = some active →
        store.Holds active ∧ active.payloadBytes ≤ (store.consume active).reservedBytes
  | _ => True

variable {store : Store} {active : Reservation}

theorem new_exact : Exact new := by
  refine ⟨⟨?_, ?_, rfl, rfl⟩, rfl⟩
  · rintro id ⟨⟩
  · rintro id active ⟨⟩

/-- A live claim is in every counter. -/
theorem Exact.holds (h : store.Exact) {id : Nat}
    (hlive : store.reservations.lookup id = some active) : store.Holds active := by
  have hrows := length_erase hlive
  have hbytes := total_erase payloadBytes hlive
  have hblock := total_erase blocks hlive
  rw [← h.rows] at hrows
  rw [← h.bytes] at hbytes
  rw [← h.blocking] at hblock
  refine ⟨by omega, by omega, fun hblocks => ?_⟩
  rw [blocks, if_pos hblocks] at hblock
  omega

/-! ## One call -/

theorem consume_live (hlive : store.reservations.lookup active.id = some active) :
    store.consume active = { store with
      reservations := store.reservations.erase active.id
      reservedRows := store.reservedRows - 1
      reservedBytes := store.reservedBytes - active.payloadBytes
      blockingReservedRows :=
        if active.snapshotBlocking then store.blockingReservedRows - 1
        else store.blockingReservedRows } := by
  unfold Store.consume
  rw [if_pos (by rw [hlive]; rfl)]

/-- Spending a claim takes one row off, and one blocking row where the claim was not held. -/
theorem Counted.consume (h : store.Counted)
    (hlive : store.reservations.lookup active.id = some active) :
    (store.consume active).Counted := by
  have hrows := length_erase hlive
  have hblock := total_erase blocks hlive
  rw [← h.rows] at hrows
  rw [← h.blocking] at hblock
  rw [consume_live hlive]
  refine ⟨fun id hid => h.fresh id (mem_keys_retain hid), fun id other hother => ?_,
    by dsimp only; omega, ?_⟩
  · dsimp only at hother
    rw [lookup_erase] at hother
    split at hother
    · cases hother
    · exact h.live id other hother
  dsimp only
  rw [show blocks active = if active.snapshotBlocking = true then 1 else 0 from rfl] at hblock
  split at hblock <;> rename_i hblocks
  · rw [if_pos hblocks]
    omega
  · rw [if_neg hblocks]
    omega

theorem Exact.consume (h : store.Exact)
    (hlive : store.reservations.lookup active.id = some active) : (store.consume active).Exact := by
  refine ⟨h.toCounted.consume hlive, ?_⟩
  have hbytes := total_erase payloadBytes hlive
  rw [← h.bytes] at hbytes
  rw [consume_live hlive]
  dsimp only
  omega

theorem hold_cases (store : Store) (reservation : Reservation) :
    (store.hold reservation).1 = store ∨
      ∃ active, store.reservations.lookup reservation.id = some active ∧
        active.snapshotBlocking = true ∧ (store.hold reservation).1 = { store with
          blockingReservedRows := store.blockingReservedRows - 1
          reservations :=
            store.reservations.insert active.id { active with snapshotBlocking := false } } := by
  unfold Store.hold
  cases hlive : store.reservations.lookup reservation.id with
  | none => exact .inl rfl
  | some active =>
    dsimp only
    split
    · exact .inl rfl
    · rename_i hblocks
      exact .inr ⟨active, rfl, by simpa using hblocks, rfl⟩

/-- A held claim stays live and no longer blocks. -/
theorem Counted.hold (h : store.Counted) (reservation : Reservation) :
    (store.hold reservation).1.Counted := by
  rcases store.hold_cases reservation with hsame | ⟨active, hlive, hblocks, hheld⟩
  · rw [hsame]
    exact h
  obtain ⟨hid, hpositive⟩ := h.live _ _ hlive
  have hrows := length_erase hlive
  have hblock := total_erase blocks hlive
  rw [show blocks active = 1 from if_pos hblocks, ← h.blocking] at hblock
  rw [hheld]
  refine ⟨fun id hmem => ?_, fun id other hother => ?_, ?_, ?_⟩
  · rcases mem_keys_insert hmem with rfl | hmem
    · exact h.fresh _ (hid ▸ mem_keys_iff.mpr ⟨active, hlive⟩)
    · exact h.fresh id hmem
  · dsimp only at hother
    rw [lookup_insert] at hother
    split at hother
    · rename_i hsame
      cases hother
      exact ⟨hsame.symm, hpositive⟩
    · exact h.live id other hother
  · dsimp only
    rw [h.rows, length_insert, hid, hrows]
  · dsimp only
    rw [total_insert, hid, show ∀ kind payloadBytes,
      blocks ⟨reservation.id, kind, payloadBytes, false⟩ = 0 from fun _ _ => rfl]
    omega

theorem Exact.hold (h : store.Exact) (reservation : Reservation) :
    (store.hold reservation).1.Exact := by
  refine ⟨h.toCounted.hold reservation, ?_⟩
  rcases store.hold_cases reservation with hsame | ⟨active, hlive, -, hheld⟩
  · rw [hsame]
    exact h.bytes
  · rw [hheld]
    rw [h.bytes, total_insert, (h.live _ _ hlive).1, total_erase payloadBytes hlive]

/-- The request is well formed and there is room for it. -/
def Room (store : Store) (kind : DurableEventKind) (payloadBytes : Nat) : Prop :=
  (1 ≤ payloadBytes ∧ payloadBytes ≤ kind.payloadLimit) ∧
    store.stats.rows + store.reservedRows < maxRows ∧
      store.stats.payloadBytes + store.reservedBytes + payloadBytes ≤ maxPayloadBytes

theorem reserve_cases (hfits : store.Fits) (kind : DurableEventKind) (payloadBytes : Nat) :
    (∃ error, store.reserve kind payloadBytes = (store, .error error)) ∧
        ¬store.Room kind payloadBytes ∨ store.reserve kind payloadBytes =
          (store.grant ⟨store.nextReservationId, kind, payloadBytes, true⟩,
            .ok ⟨store.nextReservationId, kind, payloadBytes, true⟩) ∧
        store.Room kind payloadBytes := by
  obtain ⟨hrows, hbytes, -⟩ := hfits
  unfold Store.reserve claimIsWellFormed admissionFits usizeAdd Room
  rw [Nat.mod_eq_of_lt (by omega), Nat.mod_eq_of_lt (by omega)]
  split_ifs <;> first | exact .inl ⟨⟨_, rfl⟩, by omega⟩ | exact .inr ⟨rfl, by omega⟩

theorem Counted.lookup_next (h : store.Counted) :
    store.reservations.lookup store.nextReservationId = none := by
  rw [Option.eq_none_iff_forall_not_mem]
  exact fun active hlive => (h.fresh _ (mem_keys_iff.mpr ⟨active, hlive⟩)).false

/-- A granted claim takes a number that no live claim has. -/
theorem Counted.reserve (h : store.Counted) (hfits : store.Fits) (kind : DurableEventKind)
    (payloadBytes : Nat) : (store.reserve kind payloadBytes).1.Counted := by
  rcases reserve_cases hfits kind payloadBytes with ⟨⟨error, hrefused⟩, -⟩ | ⟨hgranted, hroom⟩
  · rw [hrefused]
    exact h
  obtain ⟨hrows, -, hid⟩ := hfits
  have hrow := h.rows
  have hnew := h.lookup_next
  have hblock : store.blockingReservedRows ≤ store.reservations.length := by
    have hle := List.sum_le_card_nsmul (store.reservations.values.map blocks) 1 fun charge hmem => by
      obtain ⟨active, -, rfl⟩ := List.mem_map.mp hmem
      unfold blocks
      split <;> decide
    simpa [h.blocking, total, values, length] using hle
  rw [hgranted, grant]
  unfold usizeAdd
  refine ⟨fun id hmem => ?_, fun id other hother => ?_, ?_, ?_⟩
  · dsimp only
    rw [Nat.mod_eq_of_lt hid]
    rcases mem_keys_insert hmem with rfl | hmem
    · exact Nat.lt_succ_self _
    · exact (h.fresh id hmem).trans (Nat.lt_succ_self _)
  · dsimp only at hother
    rw [lookup_insert] at hother
    split at hother
    · rename_i hsame
      cases hother
      exact ⟨hsame.symm, hroom.1.1⟩
    · exact h.live id other hother
  · dsimp only
    rw [Nat.mod_eq_of_lt (by omega), length_insert, length_erase_absent hnew, h.rows]
  · dsimp only
    rw [Nat.mod_eq_of_lt (by omega), total_insert,
      total_erase_absent _ hnew, h.blocking, Nat.add_comm]
    rfl

theorem Exact.reserve (h : store.Exact) (hfits : store.Fits) (kind : DurableEventKind)
    (payloadBytes : Nat) : (store.reserve kind payloadBytes).1.Exact := by
  refine ⟨h.toCounted.reserve hfits kind payloadBytes, ?_⟩
  rcases reserve_cases hfits kind payloadBytes with ⟨⟨error, hrefused⟩, -⟩ | ⟨hgranted, hroom⟩
  · rw [hrefused]
    exact h.bytes
  have hbytes := hfits.2.1
  have hlimit := hroom.2.2
  rw [hgranted, grant]
  unfold usizeAdd
  dsimp only
  rw [Nat.mod_eq_of_lt (by omega), total_insert, total_erase_absent _ h.lookup_next, h.bytes,
    Nat.add_comm]

/-- An append that does not spend a claim changes nothing; one that does takes the claim's bytes off
a second time. -/
theorem append_cases (store : Store) (reservation : Reservation) (actualKind : DurableEventKind)
    (actualPayloadBytes : Nat) :
    ((store.append reservation actualKind actualPayloadBytes).1 = store ∧
      ¬store.Spends (.append reservation actualKind actualPayloadBytes)) ∨
    store.Spends (.append reservation actualKind actualPayloadBytes) ∧
      ∃ active, store.reservations.lookup reservation.id = some active ∧
        ∃ stats, (store.append reservation actualKind actualPayloadBytes).1 =
          { store.consume active with
            stats := stats
            reservedBytes := (store.consume active).reservedBytes - active.payloadBytes } := by
  unfold Store.append
  cases hlive : store.reservations.lookup reservation.id with
  | none => exact .inl ⟨rfl, by simp [Spends, hlive]⟩
  | some active =>
    dsimp only
    split_ifs with hkind hlimit
    · exact .inl ⟨rfl, by simp [Spends, hlive, hkind]⟩
    · refine .inl ⟨rfl, ?_⟩
      rintro ⟨other, hother, hsame, hbelow⟩
      obtain rfl := Option.some.inj (hlive.symm.trans hother)
      exact absurd (hsame ▸ hlimit) (Nat.not_lt.mpr hbelow)
    · rw [not_not] at hkind
      refine .inr ⟨⟨active, hlive, hkind, ?_⟩, active, rfl, _, rfl⟩
      exact hkind ▸ Nat.le_of_not_lt hlimit

theorem Counted.append (h : store.Counted) (reservation : Reservation)
    (actualKind : DurableEventKind) (actualPayloadBytes : Nat) :
    (store.append reservation actualKind actualPayloadBytes).1.Counted := by
  rcases store.append_cases reservation actualKind actualPayloadBytes with
    ⟨hsame, -⟩ | ⟨-, active, hlive, stats, happended⟩
  · rw [hsame]
    exact h
  have hspent := h.consume ((h.live _ _ hlive).1 ▸ hlive)
  rw [happended]
  exact ⟨hspent.fresh, hspent.live, hspent.rows, hspent.blocking⟩

theorem Exact.append (h : store.Exact) {reservation : Reservation}
    {actualKind : DurableEventKind} {actualPayloadBytes : Nat}
    (halone : store.SpendsAlone (.append reservation actualKind actualPayloadBytes)) :
    (store.append reservation actualKind actualPayloadBytes).1.Exact := by
  refine ⟨h.toCounted.append _ _ _, ?_⟩
  rcases store.append_cases reservation actualKind actualPayloadBytes with
    ⟨hsame, -⟩ | ⟨hspends, active, hlive, stats, happended⟩
  · rw [hsame]
    exact h.bytes
  have hid := (h.live _ _ hlive).1
  have hspent := h.consume (hid ▸ hlive)
  -- No other claim is live, so there are no bytes left to take off twice.
  have hempty : (store.consume active).reservations.length = 0 := by
    have hlength := length_erase hlive
    have hone := halone hspends
    rw [consume_live (hid ▸ hlive), hid]
    dsimp only
    omega
  have hnone : (store.consume active).reservedBytes = 0 := by
    rw [hspent.bytes, total, values, List.length_eq_zero_iff.mp hempty]
    rfl
  rw [happended]
  rw [hnone, Nat.zero_sub, ← hnone, hspent.bytes]

/-- In exact books the second subtraction of an append that spends a claim is not covered, or leaves
the bytes short: a live claim has a positive number of them. -/
theorem Exact.spent (h : store.Exact) {op : StoreOp} (hspends : store.Spends op)
    (hcovered : store.Covered op) : ¬(machine.next store op).Exact := by
  cases op with
  | append reservation actualKind actualPayloadBytes =>
    rcases store.append_cases reservation actualKind actualPayloadBytes with
      ⟨-, hunspent⟩ | ⟨-, active, hlive, stats, happended⟩
    · exact absurd hspends hunspent
    have hspent := h.consume ((h.live _ _ hlive).1 ▸ hlive)
    have hpositive := (h.live _ _ hlive).2
    have htwice := (hcovered hspends active hlive).2
    intro hafter
    have hbytes := hafter.bytes
    change (store.append _ _ _).1.reservedBytes = (store.append _ _ _).1.reservations.total _
      at hbytes
    rw [happended] at hbytes
    dsimp only at hbytes
    rw [← hspent.bytes] at hbytes
    omega
  | _ => exact hspends.elim

/-! ## Every run -/

/-- A call that fits keeps rows and blocking exact. -/
theorem Counted.step (h : store.Counted) (op : StoreOp) (hfits : store.Fits) :
    (machine.next store op).Counted := by
  cases op with
  | reserve kind payloadBytes => exact h.reserve hfits kind payloadBytes
  | hold reservation => exact h.hold reservation
  | release reservation =>
    change (store.release reservation).1.Counted
    unfold Store.release
    cases hlive : store.reservations.lookup reservation.id with
    | none => exact h
    | some => exact h.consume ((h.live _ _ hlive).1 ▸ hlive)
  | append => exact h.append _ _ _
  | notePersisted rows =>
    exact ⟨h.fresh, h.live, h.rows, h.blocking⟩

/-- A call that spends alone keeps the bytes exact. -/
theorem Exact.step (h : store.Exact) (op : StoreOp) (hfits : store.Fits)
    (halone : store.SpendsAlone op) : (machine.next store op).Exact := by
  cases op with
  | reserve kind payloadBytes => exact h.reserve hfits kind payloadBytes
  | hold reservation => exact h.hold reservation
  | release reservation =>
    change (store.release reservation).1.Exact
    unfold Store.release
    cases hlive : store.reservations.lookup reservation.id with
    | none => exact h
    | some => exact h.consume ((h.live _ _ hlive).1 ▸ hlive)
  | append => exact h.append halone
  | notePersisted rows =>
    exact ⟨⟨h.fresh, h.live, h.rows, h.blocking⟩, h.bytes⟩

theorem Exact.covered (h : store.Exact) {op : StoreOp} (hunspent : ¬store.Spends op) :
    store.Covered op := by
  cases op with
  | hold => exact fun active hlive => (h.holds hlive).2.2
  | release => exact fun active hlive => h.holds hlive
  | append => exact fun hspends => absurd hspends hunspent
  | _ => trivial

/-- The books are exact before every call of the run and after it, and no subtraction underflows. -/
def KeepsExact (ops : List StoreOp) : Prop :=
  machine.Along (fun store op => store.Exact ∧ store.Covered op) new ops ∧
    (machine.run new ops).Exact

theorem keepsExact_iff {ops : List StoreOp} (hfits : machine.Along (fun store _ => store.Fits) new ops) :
    KeepsExact ops ↔ machine.Along (fun store op => ¬store.Spends op) new ops := by
  induction ops using List.reverseRecOn with
  | nil => exact ⟨fun _ => trivial, fun _ => ⟨trivial, new_exact⟩⟩
  | append_singleton ops op ih =>
    unfold KeepsExact at ih ⊢
    rw [Transducer.along_concat] at hfits
    rw [Transducer.along_concat, Transducer.along_concat, Transducer.run_concat, ← ih hfits.1]
    constructor
    · rintro ⟨⟨halong, hexact, hcovered⟩, hafter⟩
      exact ⟨⟨halong, hexact⟩, fun hspends => hexact.spent hspends hcovered hafter⟩
    · rintro ⟨⟨halong, hexact⟩, hunspent⟩
      exact ⟨⟨halong, hexact, hexact.covered hunspent⟩,
        hexact.step op hfits.2 fun hspends => absurd hspends hunspent⟩

/-- The accounting of every run. The row counters are exact in all of them; the bytes where every
append that spends a claim spends the only live one; books exact throughout, with every subtraction
covered, are those of the runs in which no append spends a claim. A reservation succeeds where it is
well formed and there is room for it. -/
theorem reservations_exact (ops : List StoreOp)
    (hfits : machine.Along (fun store _ => store.Fits) new ops) : (machine.run new ops).Counted ∧
      (machine.Along (fun store op => store.Fits ∧ store.SpendsAlone op) new ops →
        (machine.run new ops).Exact) ∧
      (KeepsExact ops ↔ machine.Along (fun store op => ¬store.Spends op) new ops) ∧
      ((machine.run new ops).Fits → ∀ kind payloadBytes,
        ((machine.run new ops).reserve kind payloadBytes).2.isOk = true ↔
          (machine.run new ops).Room kind payloadBytes) := by
  refine ⟨?_, fun halone => ?_, keepsExact_iff hfits, fun hroom kind payloadBytes => ?_⟩
  · exact hfits.invariant (P := Counted) new_exact.toCounted fun _ op h hop => h.step op hop
  · exact halone.invariant (P := Exact) new_exact fun _ op h hop => h.step op hop.1 hop.2
  rcases reserve_cases hroom kind payloadBytes with ⟨⟨error, hrefused⟩, hfull⟩ | ⟨hgranted, hfree⟩
  · exact iff_of_false (by simp [hrefused, Except.isOk, Except.toBool]) hfull
  · exact iff_of_true (by rw [hgranted]; rfl) hfree

/-- Two sessions open, and the first records that it closed. -/
def closedFirst : List StoreOp :=
  [.reserve .closed 2048, .reserve .closed 2048, .hold ⟨2, .closed, 2048, true⟩,
    .append ⟨1, .closed, 2048, true⟩ .closed 100]

theorem reservations_exact_closedFirst :
    (machine.run new closedFirst).Counted ∧ ¬KeepsExact closedFirst := by
  obtain ⟨hcounted, -, hkeeps, -⟩ := reservations_exact closedFirst (by decide +kernel)
  refine ⟨hcounted, fun hexact => ?_⟩
  obtain ⟨-, -, -, hunspent, -⟩ := hkeeps.mp hexact
  exact hunspent ⟨⟨1, .closed, 2048, true⟩, by decide +kernel⟩

/-- The append gives its bytes back twice, so the other session's claim is no longer counted; where
no other is live, its second subtraction has nothing to take off. -/
theorem reservations_drift : ((machine.run new closedFirst).reservedBytes = 0 ∧
      (machine.run new closedFirst).reservations.total payloadBytes = 2048) ∧
    ¬(machine.run new [.reserve .closed 2048]).Covered
      (.append ⟨1, .closed, 2048, true⟩ .closed 100) := by
  refine ⟨by decide +kernel, fun hcovered => ?_⟩
  have htwice := (hcovered ⟨⟨1, .closed, 2048, true⟩, by decide +kernel⟩
    ⟨1, .closed, 2048, true⟩ (by decide +kernel)).2
  revert htwice
  decide +kernel

end Store

end Roost.Worker
