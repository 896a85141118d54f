-- SUMMARY: Terminal view records, and who binds the PTY.
import Mathlib.Data.String.Basic
import Roost.Base.Index
import Roost.Protocol.Viewport

/-!
# View records

A record is what one viewer declared about one view. It binds the PTY while its lease
holds and its socket is live or inside the park grace. Every function is handed the
clock; clocks and revisions are unsigned 64-bit values.
-/

namespace Roost

/-- The largest clock reading. -/
@[irreducible] def u64Max : Nat := 2 ^ 64 - 1

/-- Addition that stops at the largest clock reading. -/
def saturatingAdd (a b : Nat) : Nat := min (a + b) u64Max

/-- A uuid the worker mints when it opens a session. -/
@[ext]
structure SessionId where
  value : String
  check : hasUuidShape value = true

instance : DecidableEq SessionId := fun _ _ => decidable_of_iff' _ SessionId.ext_iff

def SessionId.tryFrom (value : String) : ProtocolResult SessionId :=
  if h : hasUuidShape value = true then .ok { value, check := h }
  else .error { field := "session_id", reason := "must be a UUID" }

namespace TerminalView

/-- Distinct view records one session may hold, across every socket and device. -/
def sessionViewCap : Nat := 256

def terminalSocketViewCap : Nat := 64

/-- How long a claimed view stays claimable before the sweeper reclaims it. -/
def terminalViewLeaseMs : Nat := 15000

/-- How long a parked view keeps constraining geometry after its socket dropped. -/
def terminalViewParkGraceMs : Nat := 2000

/-- One client's declaration of a view. -/
structure TerminalViewCommand where
  viewId : String
  sessionId : String
  cols : UInt32
  rows : UInt32
  revision : Nat
  active : Bool

/-- A client's request to be served forward from its own checkpoint. -/
structure TerminalResyncCommand where
  viewId : String
  sessionId : String
  gridEpoch : String
  seq : Nat

/-- What a client declared about one view: the session it watches and the size it is
painting at. -/
structure ViewIntent where
  sessionId : String
  cols : UInt32
  rows : UInt32
  active : Bool
  deriving DecidableEq

def ViewIntent.geometry (intent : ViewIntent) : TerminalGeometry :=
  { cols := intent.cols, rows := intent.rows }

def viewKey (viewerKey viewId : String) : String := viewerKey ++ "\x00" ++ viewId

def intentOf (command : TerminalViewCommand) : ViewIntent where
  sessionId := command.sessionId
  cols := command.cols
  rows := command.rows
  active := command.active

/-- Whether two intents are the same declaration. -/
def intentsEqual (left right : ViewIntent) : Bool :=
  left.sessionId == right.sessionId && left.cols == right.cols && left.rows == right.rows &&
    left.active == right.active

/-- The trust boundary for one view command, or the reason it is refused. -/
def validateViewCommand (viewerKey : Option String) (command : TerminalViewCommand) :
    Option String :=
  if viewerKey.isNone then some "terminal views require a tab-bound Sync socket"
  else if !isTerminalUuid command.viewId then some "invalid terminal view id"
  else if !isTerminalUuid command.sessionId then some "invalid terminal session id"
  else if command.revision < 1 then some "invalid terminal view revision"
  else if command.active && !isTerminalGeometry { cols := command.cols, rows := command.rows } then
    some "terminal geometry is outside 1..256"
  else if !command.active &&
      decide (command.cols > terminalMaxCols ∨ command.rows > terminalMaxRows) then
    some "inactive terminal geometry is outside 0..256"
  else none

structure ViewRecord where
  key : String
  viewId : String
  viewerKey : String
  fingerprint : String
  /-- The socket that last declared it. -/
  socketId : String
  intent : ViewIntent
  revision : Nat
  deadlineMs : Nat
  /-- Whether the owning socket is gone. -/
  parked : Bool
  parkedAtMs : Nat
  /-- The last observed `viewConstrains`. -/
  constrains : Bool

def ViewRecord.leaseDeadline (nowMs : Nat) : Nat := saturatingAdd nowMs terminalViewLeaseMs

def sessionOf (record : ViewRecord) : Option SessionId :=
  (SessionId.tryFrom record.intent.sessionId).toOption

/-- The membership rule for effective geometry. -/
def viewConstrains (record : ViewRecord) (nowMs : Nat) : Bool :=
  if record.deadlineMs ≤ nowMs then false
  else !record.parked ||
    decide (nowMs < saturatingAdd record.parkedAtMs terminalViewParkGraceMs)

/-- The geometry decision input for one session. -/
structure GeometrySet where
  live : List TerminalGeometry
  retained : Nat

/-- Split one session's records into the ones that bind the PTY and the count that stays in
membership. -/
def geometrySet (views : Table String ViewRecord) (keys : Finset String) (nowMs : Nat) :
    GeometrySet :=
  let records := (Index.ascending keys).filterMap views.lookup
  { live := (records.filter (viewConstrains · nowMs)).map fun record => record.intent.geometry
    retained := records.length }

/-! ## Sessions and keys -/

variable {record : ViewRecord} {nowMs : Nat}

theorem sessionOf_eq_some {sid : SessionId} :
    sessionOf record = some sid ↔ record.intent.sessionId = sid.value := by
  unfold sessionOf SessionId.tryFrom
  split
  · rename_i h
    constructor
    · intro heq
      cases heq
      rfl
    intro heq
    obtain ⟨_, _⟩ := sid
    cases heq
    rfl
  · rename_i h
    constructor
    · intro heq
      cases heq
    · intro heq
      exact absurd (heq ▸ sid.check) h

theorem sessionOf_isSome (h : isTerminalUuid record.intent.sessionId = true) :
    ∃ sid, sessionOf record = some sid :=
  ⟨⟨record.intent.sessionId, isTerminalUuid_shape h⟩, sessionOf_eq_some.mpr rfl⟩

theorem sessionOf_congr {record' : ViewRecord}
    (h : record'.intent.sessionId = record.intent.sessionId) :
    sessionOf record' = sessionOf record := by
  unfold sessionOf
  rw [h]

theorem viewKey_viewer_inj {viewerKey viewerKey' viewId viewId' : String}
    (hid : isTerminalUuid viewId = true) (hid' : isTerminalUuid viewId' = true)
    (h : viewKey viewerKey viewId = viewKey viewerKey' viewId') : viewerKey = viewerKey' := by
  have hbytes := congrArg utf8Bytes h
  simp only [viewKey, utf8Bytes_append, List.append_assoc] at hbytes
  have hlen : (utf8Bytes "\x00" ++ utf8Bytes viewId).length =
      (utf8Bytes "\x00" ++ utf8Bytes viewId').length := by
    rw [List.length_append, List.length_append, hasUuidShape_length (isTerminalUuid_shape hid),
      hasUuidShape_length (isTerminalUuid_shape hid')]
  exact utf8Bytes_inj.mp (List.append_inj_left' hbytes hlen)

/-! ## Who binds the PTY -/

theorem viewConstrains_iff : viewConstrains record nowMs = true ↔ nowMs < record.deadlineMs ∧
        (record.parked = false ∨
          nowMs < saturatingAdd record.parkedAtMs terminalViewParkGraceMs) := by
  simp [viewConstrains]

theorem lt_saturatingAdd {a b : Nat} (hb : 0 < b) : a < saturatingAdd a b ↔ a < u64Max := by
  unfold saturatingAdd
  omega

theorem viewConstrains_mono {laterMs : Nat} (hle : nowMs ≤ laterMs)
    (h : viewConstrains record laterMs = true) : viewConstrains record nowMs = true := by
  rw [viewConstrains_iff] at h ⊢
  refine ⟨Nat.lt_of_le_of_lt hle h.1, ?_⟩
  rcases h.2 with hlive | hgrace
  · exact Or.inl hlive
  · exact Or.inr (Nat.lt_of_le_of_lt hle hgrace)

theorem mem_live {views : Table String ViewRecord} {keys : Finset String}
    {geometry : TerminalGeometry} : geometry ∈ (geometrySet views keys nowMs).live ↔
      ∃ key ∈ keys, ∃ record, views.lookup key = some record ∧
        viewConstrains record nowMs = true ∧ record.intent.geometry = geometry := by
  simp only [geometrySet, List.mem_map, List.mem_filter, List.mem_filterMap, Index.mem_ascending]
  constructor
  · rintro ⟨record, ⟨⟨key, hkey, hrec⟩, hlive⟩, hgeom⟩
    exact ⟨key, hkey, record, hrec, hlive, hgeom⟩
  · rintro ⟨key, hkey, record, hrec, hlive, hgeom⟩
    exact ⟨record, ⟨⟨key, hkey, hrec⟩, hlive⟩, hgeom⟩

end TerminalView

end Roost
