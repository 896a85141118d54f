-- SUMMARY: The worker's packet budget, and the relief a refusal asks for.
import Roost.Base.Ledger
import Roost.Protocol.Peer.TerminalPackets

/-!
# Packet budgets

Every retained byte of a terminal peer is charged twice: to its peer budget and to the worker's total
of its direction. An outgoing terminal reservation the worker cannot take asks the other ports that
hold application bytes to retire. One operation is one turn: nothing interleaves with it but the
relief it runs itself.
-/

namespace Roost.Worker

open Peer (TerminalPeerPacketLane)

def controlQueueMaxBytes : Nat := 256 * 1024

def applicationQueueMaxBytes : Nat := 64 * 1024 * 1024

def workerApplicationQueueMaxBytes : Nat := 128 * 1024 * 1024

def workerControlQueueMaxBytes : Nat := 32 * 256 * 1024

def workerQueueMaxBytes : Nat := 136 * 1024 * 1024

inductive PacketDirection
  | incoming
  | outgoing
  deriving DecidableEq

abbrev PacketSlot := PacketDirection × TerminalPeerPacketLane

def PacketSlot.all : List PacketSlot :=
  [(.incoming, .control), (.incoming, .terminal), (.incoming, .history),
    (.outgoing, .control), (.outgoing, .terminal), (.outgoing, .history)]

/-- Bytes that were granted under a number of their own. -/
structure PacketReservation where
  id : Nat
  slot : PacketSlot
  bytes : Nat
  deriving DecidableEq

/-! ## The worker's totals -/

structure DirectionBudget where
  applicationBytes : Nat := 0
  controlBytes : Nat := 0

namespace DirectionBudget

variable (budget : DirectionBudget)

def laneBytes : TerminalPeerPacketLane → Nat
  | .control => budget.controlBytes
  | .terminal => budget.applicationBytes
  | .history => budget.applicationBytes

variable (lane : TerminalPeerPacketLane)

def setLane (bytes : Nat) : DirectionBudget :=
  match lane with
  | .control => { budget with controlBytes := bytes }
  | .terminal => { budget with applicationBytes := bytes }
  | .history => { budget with applicationBytes := bytes }

def laneMaxBytes : TerminalPeerPacketLane → Nat
  | .control => workerControlQueueMaxBytes
  | .terminal => workerApplicationQueueMaxBytes
  | .history => workerApplicationQueueMaxBytes

def reserve (bytes : Nat) : Option DirectionBudget :=
  if bytes = 0 then none
  else if laneMaxBytes lane < budget.laneBytes lane + bytes ∨
      workerQueueMaxBytes < budget.applicationBytes + budget.controlBytes + bytes then none
  else some (budget.setLane lane (budget.laneBytes lane + bytes))

/-- The lane saturates; whether it underflowed is `underflows`. -/
def release (bytes : Nat) : DirectionBudget :=
  budget.setLane lane (budget.laneBytes lane - bytes)

def underflows (bytes : Nat) : Bool :=
  decide (bytes = 0 ∨ budget.laneBytes lane < bytes)

end DirectionBudget

structure WorkerBudget where
  directions : PacketDirection → DirectionBudget := fun _ => {}
  /-- The registered ports, by pressure number. -/
  pressure : List (Nat × Nat) := []
  nextPressureId : Nat := 0
  disposed : Bool := false
  /-- Accounting errors that were logged, here or by a peer budget. -/
  underflows : Nat := 0
  /-- How many reservations peers were granted. -/
  granted : Nat := 0
  /-- The reservations given back, in order. -/
  returned : List Nat := []

namespace WorkerBudget

variable (worker : WorkerBudget)

def logUnderflow : WorkerBudget := { worker with underflows := worker.underflows + 1 }

/-- Take the bytes of a direction, without asking anyone. -/
def reserveDirect (slot : PacketSlot) (bytes : Nat) : Option WorkerBudget :=
  ((worker.directions slot.1).reserve slot.2 bytes).map fun direction =>
    { worker with directions := Function.update worker.directions slot.1 direction }

def release (slot : PacketSlot) (bytes : Nat) : WorkerBudget :=
  let direction := worker.directions slot.1
  let worker := if direction.underflows slot.2 bytes then worker.logUnderflow else worker
  { worker with
    directions := Function.update worker.directions slot.1 (direction.release slot.2 bytes) }

def registerPressure (port : Nat) : WorkerBudget :=
  { worker with
    nextPressureId := worker.nextPressureId + 1
    pressure := worker.pressure ++ [(worker.nextPressureId + 1, port)] }

def unregisterPressure (id : Nat) : WorkerBudget :=
  { worker with pressure := worker.pressure.filter fun entry => decide (entry.1 ≠ id) }

def dispose : WorkerBudget := { worker with disposed := true, pressure := [] }

end WorkerBudget

/-! ## A peer's budget -/

structure PeerBudget where
  retained : PacketSlot → Nat := fun _ => 0
  disposeRequested : Bool := false
  disposed : Bool := false
  holds : Nat := 0
  pressureId : Option Nat := none

namespace PeerBudget

variable (budget : PeerBudget)

def controlBytes (direction : PacketDirection) : Nat := budget.retained (direction, .control)

def applicationBytes (direction : PacketDirection) : Nat :=
  budget.retained (direction, .terminal) + budget.retained (direction, .history)

/-- The peer's own check, made before the worker is asked. -/
def admits (slot : PacketSlot) (bytes : Nat) : Bool :=
  let control := budget.controlBytes slot.1
  let application := budget.applicationBytes slot.1
  let overLane := match slot.2 with
    | .control => decide (controlQueueMaxBytes < control + bytes)
    | .terminal => decide (applicationQueueMaxBytes < application + bytes)
    | .history => decide (applicationQueueMaxBytes < application + bytes)
  !budget.disposeRequested && !budget.disposed && decide (bytes ≠ 0) && !overLane &&
    decide (application + control + bytes ≤ applicationQueueMaxBytes + controlQueueMaxBytes)

def charge (slot : PacketSlot) (bytes : Nat) : PeerBudget :=
  { budget with
    retained := Function.update budget.retained slot (budget.retained slot + bytes) }

/-- Give one reservation back; a disposed budget gave everything back already. -/
def release (reservation : PacketReservation) (worker : WorkerBudget) : PeerBudget × WorkerBudget :=
  if budget.disposed then (budget, worker)
  else
    let retained := budget.retained reservation.slot
    if reservation.bytes = 0 ∨ retained < reservation.bytes then (budget, worker.logUnderflow)
    else
      let worker := worker.release reservation.slot reservation.bytes
      ({ budget with
          retained := Function.update budget.retained reservation.slot
            (retained - reservation.bytes) },
        { worker with returned := worker.returned ++ [reservation.id] })

/-- Return every retained byte once disposal was asked for and no hold remains; `reserved` are the
reservations that go back with them. -/
def finishDispose (reserved : List PacketReservation) (worker : WorkerBudget) :
    PeerBudget × WorkerBudget :=
  if !budget.disposeRequested || budget.disposed || decide (budget.holds ≠ 0) then (budget, worker)
  else
    let worker := PacketSlot.all.foldl (fun worker slot =>
      if budget.retained slot = 0 then worker else worker.release slot (budget.retained slot)) worker
    ({ budget with disposed := true, retained := fun _ => 0 },
      { worker with returned := worker.returned ++ reserved.map (·.id) })

end PeerBudget

/-! ## A peer's port -/

structure HistoryReservations where
  bytes : Nat := 0
  reservationId : Nat := 0
  transferId : Option Nat := none
  hold : Bool := false
  /-- The number its bytes were granted under. -/
  ticket : Nat := 0

/-- The bytes a read still reserves. -/
def HistoryReservations.reserved (history : HistoryReservations) : List PacketReservation :=
  if history.bytes = 0 then []
  else [{ id := history.ticket, slot := (.outgoing, .history), bytes := history.bytes }]

/-- The bytes a read still reserves are given back. -/
def PeerBudget.releaseHistory (budget : PeerBudget) (history : HistoryReservations)
    (worker : WorkerBudget) : PeerBudget × WorkerBudget :=
  match history.reserved with
  | [] => (budget, worker)
  | reservation :: _ => budget.release reservation worker

/-- One peer: its budget, what the queues and assemblers of its port reserved, and its history
reservation. -/
structure PeerPort where
  budget : PeerBudget := {}
  held : List PacketReservation := []
  history : HistoryReservations := {}
  /-- Holds that are out, the history reservation's aside. -/
  holders : Nat := 0
  pressureId : Option Nat := none
  opened : Bool := false
  closed : Bool := false

namespace PeerPort

variable (port : PeerPort)

def reserved : List PacketReservation := port.held ++ port.history.reserved

variable (worker : WorkerBudget)

def finishDispose : PeerPort × WorkerBudget :=
  let (budget, worker) := port.budget.finishDispose port.reserved worker
  ({ port with budget }, worker)

def endHold : PeerPort × WorkerBudget :=
  { port with budget := { port.budget with holds := port.budget.holds - 1 } }.finishDispose worker

def hold : PeerPort :=
  if port.budget.disposeRequested || port.budget.disposed then port
  else
    { port with
      budget := { port.budget with holds := port.budget.holds + 1 }, holders := port.holders + 1 }

def dropHold : PeerPort × WorkerBudget :=
  if port.holders = 0 then (port, worker)
  else { port with holders := port.holders - 1 }.endHold worker

def dispose : PeerPort × WorkerBudget :=
  if port.budget.disposeRequested || port.budget.disposed then (port, worker)
  else { port with budget := { port.budget with disposeRequested := true } }.finishDispose worker

/-- A queue or an assembler gives one of its reservations back. -/
def release (reservation : PacketReservation) (worker : WorkerBudget) : PeerPort × WorkerBudget :=
  if reservation ∈ port.held then
    let (budget, worker) := port.budget.release reservation worker
    ({ port with budget, held := port.held.erase reservation }, worker)
  else (port, worker)

/-- The queues are cleared and the assemblers reset. -/
def releaseEach : List PacketReservation → PeerPort → WorkerBudget → PeerPort × WorkerBudget
  | [], port, worker => ({ port with held := [] }, worker)
  | reservation :: rest, port, worker =>
    let (budget, worker) := port.budget.release reservation worker
    releaseEach rest { port with budget } worker

/-- Register the port as one that can give application bytes back. -/
def openPort (id : Nat) (worker : WorkerBudget) : PeerPort × WorkerBudget :=
  if port.opened then (port, worker)
  else
    let pressureId := worker.nextPressureId + 1
    ({ port with
        opened := true
        pressureId := some pressureId
        budget := { port.budget with pressureId := some pressureId } },
      worker.registerPressure id)

variable (worker : WorkerBudget)

def closeInTurn : PeerPort × WorkerBudget :=
  if port.closed then (port, worker)
  else
    let (budget, worker) := match port.pressureId with
      | none => (port.budget, worker)
      | some id =>
        ({ port.budget with
            pressureId := if port.budget.pressureId = some id then none
              else port.budget.pressureId },
          worker.unregisterPressure id)
    let (port, worker) :=
      releaseEach port.held { port with closed := true, pressureId := none, budget } worker
    port.dispose worker

/-- The read's bytes and its hold go back. -/
def endHistory : PeerPort × WorkerBudget :=
  let history := port.history
  let (budget, worker) := port.budget.releaseHistory history worker
  let port :=
    { port with
      budget, history := { history with bytes := 0, transferId := none, hold := false } }
  if history.hold then port.endHold worker else (port, worker)

/-- A read takes a granted reservation and a hold; a closing peer gives it back. -/
def takeHistory (reservation : PacketReservation) (worker : WorkerBudget) : PeerPort × WorkerBudget :=
  if port.budget.disposeRequested || port.budget.disposed then
    let (budget, worker) := port.budget.release reservation worker
    ({ port with budget }, worker)
  else
    let replaced := port.history.hold
    let port :=
      { port with
        budget := { port.budget with holds := port.budget.holds + 1 }
        history :=
          { port.history with
            bytes := reservation.bytes
            reservationId := port.history.reservationId + 1
            hold := true
            ticket := reservation.id } }
    if replaced then port.endHold worker else (port, worker)

/-- The next history admission may spend the reservation. -/
def transferHistory (reservationId : Nat) : PeerPort :=
  if port.history.reservationId = reservationId ∧ port.history.bytes ≠ 0 then
    { port with history := { port.history with transferId := some reservationId } }
  else port

def releaseHistory (reservationId : Nat) (worker : WorkerBudget) : PeerPort × WorkerBudget :=
  if port.history.reservationId ≠ reservationId then (port, worker) else port.endHistory worker

/-- Whether an outstanding read was cancelled. -/
def cancelForPressure : Bool × PeerPort × WorkerBudget :=
  if port.history.bytes = 0 then (false, port, worker)
  else
    let history :=
      { port.history with reservationId := port.history.reservationId + 1 }
    (true, { port with history }.endHistory worker)

/-- A transferred reservation goes back just before the response's own bytes are reserved. -/
def spendTransferred : PeerPort × WorkerBudget :=
  if port.history.bytes ≠ 0 ∧ port.history.transferId = some port.history.reservationId then
    let (budget, worker) := port.budget.releaseHistory port.history worker
    ({ port with budget, history := { port.history with bytes := 0, transferId := none } }, worker)
  else (port, worker)

/-- Whether the port's queues hold application bytes. -/
def holdsApplication : Bool :=
  port.held.any fun reservation =>
    decide (reservation.slot = (.outgoing, .terminal) ∨ reservation.slot = (.outgoing, .history))

/-- A port that holds application bytes retires. -/
def relieveHistoryPressure : Bool × PeerPort × WorkerBudget :=
  let (cancelled, port, worker) := port.cancelForPressure worker
  if cancelled || port.holdsApplication then (true, port.closeInTurn worker)
  else (false, port, worker)

end PeerPort

/-! ## The worker and its peers -/

/-- The worker's budget and every peer it made one for. -/
structure Budgets where
  worker : WorkerBudget := {}
  peers : Table Nat PeerPort := ∅

namespace Budgets

variable (budgets : Budgets)

/-- One peer's operation. -/
def onPeer (peer : Nat) (f : PeerPort → WorkerBudget → PeerPort × WorkerBudget) : Budgets :=
  match budgets.peers.lookup peer with
  | none => budgets
  | some port =>
    let (port, worker) := f port budgets.worker
    { worker, peers := budgets.peers.insert peer port }

/-- Ask one registered port to give its bytes back. -/
def relieve (peer : Nat) : Bool × Budgets :=
  match budgets.peers.lookup peer with
  | none => (false, budgets)
  | some port =>
    let (relieved, port, worker) := port.relieveHistoryPressure budgets.worker
    (relieved, { worker, peers := budgets.peers.insert peer port })

/-- The handlers are asked in order, until the bytes fit; `standing` are the ports that still
exist. -/
def relieveAll (slot : PacketSlot) (bytes : Nat) (excluded : Option Nat) (standing : List Nat) :
    List (Nat × Nat) → Budgets → Bool × Budgets
  | [], budgets => (false, budgets)
  | (id, peer) :: handled, budgets =>
    if some id = excluded ∨ id ∉ standing then
      relieveAll slot bytes excluded standing handled budgets
    else
      match budgets.relieve peer with
      | (false, budgets) => relieveAll slot bytes excluded standing handled budgets
      | (true, budgets) =>
        match budgets.worker.reserveDirect slot bytes with
        | some worker => (true, { budgets with worker })
        | none => relieveAll slot bytes excluded standing handled budgets

/-- An outgoing terminal reservation the worker cannot take asks every other port first. -/
def reserveWorker (slot : PacketSlot) (bytes : Nat) (excluded : Option Nat) (standing : List Nat) :
    Bool × Budgets :=
  if budgets.worker.disposed then (false, budgets)
  else
    match budgets.worker.reserveDirect slot bytes with
    | some worker => (true, { budgets with worker })
    | none =>
      if slot ≠ (.outgoing, .terminal) then (false, budgets)
      else relieveAll slot bytes excluded standing budgets.worker.pressure budgets

def reserve (peer : Nat) (slot : PacketSlot) (bytes : Nat) (standing : List Nat) :
    Option PacketReservation × Budgets :=
  match budgets.peers.lookup peer with
  | none => (none, budgets)
  | some port =>
    if !port.budget.admits slot bytes then (none, budgets)
    else
      match budgets.reserveWorker slot bytes port.budget.pressureId standing with
      | (false, budgets) => (none, budgets)
      | (true, budgets) =>
        match budgets.peers.lookup peer with
        | none => (none, budgets)
        | some port =>
          if port.budget.disposeRequested || port.budget.disposed then
            (none, { budgets with worker := budgets.worker.release slot bytes })
          else
            let worker := budgets.worker
            let port := { port with budget := port.budget.charge slot bytes }
            (some { id := worker.granted, slot, bytes },
              { worker := { worker with granted := worker.granted + 1 }
                peers := budgets.peers.insert peer port })

end Budgets

/-- One operation on the worker's budgets, each a turn of its own. -/
inductive BudgetOp
  | create (peer : Nat)
  | openPort (peer : Nat)
  | reserve (peer : Nat) (slot : PacketSlot) (bytes : Nat) (standing : List Nat)
  | release (peer : Nat) (id : Nat)
  | hold (peer : Nat)
  | dropHold (peer : Nat)
  | dispose (peer : Nat)
  | close (peer : Nat)
  | reserveHistory (peer : Nat) (bytes : Nat)
  | transferHistory (peer : Nat) (reservationId : Nat)
  | releaseHistory (peer : Nat) (reservationId : Nat)
  | cancelForPressure (peer : Nat)
  | reserveQueued (peer : Nat) (bytes : Nat)
  | disposeWorker

namespace Budgets

variable (budgets : Budgets)

/-- A reservation a queue or an assembler holds from then on. -/
def reserveHeld (peer : Nat) (slot : PacketSlot) (bytes : Nat) (standing : List Nat) : Budgets :=
  match budgets.reserve peer slot bytes standing with
  | (none, budgets) => budgets
  | (some reservation, budgets) =>
    budgets.onPeer peer fun port worker =>
      ({ port with held := reservation :: port.held }, worker)

/-- The pre-read reservation, refused while another read holds the ceiling. -/
def reserveHistory (peer : Nat) (bytes : Nat) : Budgets :=
  match budgets.peers.lookup peer with
  | none => budgets
  | some port =>
    if port.history.bytes ≠ 0 then budgets
    else
      match budgets.reserve peer (.outgoing, .history) bytes [] with
      | (none, budgets) => budgets
      | (some reservation, budgets) =>
        budgets.onPeer peer fun port worker => port.takeHistory reservation worker

def step : BudgetOp → Budgets
  | .create peer =>
    if budgets.worker.disposed ∨ (budgets.peers.lookup peer).isSome then budgets
    else { budgets with peers := budgets.peers.insert peer {} }
  | .openPort peer => budgets.onPeer peer fun port worker => port.openPort peer worker
  | .reserve peer slot bytes standing => budgets.reserveHeld peer slot bytes standing
  | .release peer id =>
    budgets.onPeer peer fun port worker =>
      match port.held.find? fun reservation => decide (reservation.id = id) with
      | none => (port, worker)
      | some reservation => port.release reservation worker
  | .hold peer => budgets.onPeer peer fun port worker => (port.hold, worker)
  | .dropHold peer => budgets.onPeer peer fun port worker => port.dropHold worker
  | .dispose peer => budgets.onPeer peer fun port worker => port.dispose worker
  | .close peer => budgets.onPeer peer fun port worker => port.closeInTurn worker
  | .reserveHistory peer bytes => budgets.reserveHistory peer bytes
  | .transferHistory peer id =>
    budgets.onPeer peer fun port worker => (port.transferHistory id, worker)
  | .releaseHistory peer id =>
    budgets.onPeer peer fun port worker => port.releaseHistory id worker
  | .cancelForPressure peer =>
    budgets.onPeer peer fun port worker => (port.cancelForPressure worker).2
  | .reserveQueued peer bytes =>
    (budgets.onPeer peer fun port worker => port.spendTransferred worker).reserveHeld peer
      (.outgoing, .history) bytes []
  | .disposeWorker => { budgets with worker := budgets.worker.dispose }

end Budgets

def budgetMachine : Transducer Budgets BudgetOp Unit where
  step budgets op := (budgets.step op, ())

end Roost.Worker
