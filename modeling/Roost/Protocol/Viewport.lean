-- SUMMARY: Terminal geometry, and the per-axis minimum of a set of views.
import Mathlib.Data.List.MinMax
import Roost.Base.Except
import Roost.Protocol.Error

/-!
# Viewports

The geometry a session may be sized to, the UUID shape of its identifiers, and
the only aggregation of geometries: the minimum on each axis, absent for no
views at all.
-/

namespace Roost

/-- The widest grid a session may be sized to. -/
def terminalMaxCols : UInt32 := 256

/-- The tallest grid a session may be sized to. -/
def terminalMaxRows : UInt32 := 256

/-- How often a live view renews, and how often one generation is asked for a repair. -/
def terminalViewHeartbeatMs : Nat := 5000

/-- The silence after which a foreground pane is probed. -/
def terminalForegroundIdleProbeMs : Nat := 5000

/-- The longest silence an idle pane's backed-off probe allows. -/
def terminalForegroundIdleProbeMaxMs : Nat := 30000

/-- How long a challenge waits for its proof. -/
def terminalForegroundProbeDeadlineMs : Nat := 3000

/-- A grid size, on both axes independently. -/
structure TerminalGeometry where
  cols : UInt32
  rows : UInt32
  deriving DecidableEq

/-- 8-4-4-4-12 hex with dashes. -/
def uuidLen : Nat := 36

private def isAsciiHexdigit (byte : UInt8) : Bool :=
  decide ((48 ≤ byte ∧ byte ≤ 57) ∨ (65 ≤ byte ∧ byte ≤ 70) ∨ (97 ≤ byte ∧ byte ≤ 102))

/-- The dashes and digits of a UUID, whatever its version. -/
def hasUuidShape (value : String) : Bool :=
  let bytes := utf8Bytes value
  decide (bytes.length = uuidLen) &&
    bytes.zipIdx.all fun (byte, position) =>
      if position ∈ [8, 13, 18, 23] then decide (byte = 45) else isAsciiHexdigit byte

/-- The UUID shape used by view, stream and snapshot generations: versions 1 to 8,
either case. -/
def isTerminalUuid (value : String) : Bool :=
  let bytes := utf8Bytes value
  hasUuidShape value &&
    (bytes[14]?.any fun byte => decide (49 ≤ byte ∧ byte ≤ 56)) &&
    (bytes[19]?.any fun byte => decide (byte ∈ [56, 57, 97, 65, 98, 66]))

/-- Whether a geometry is inside the core limits on both axes. -/
def isTerminalGeometry (value : TerminalGeometry) : Bool :=
  decide (value.cols ≥ 1 ∧ value.cols ≤ terminalMaxCols ∧
    value.rows ≥ 1 ∧ value.rows ≤ terminalMaxRows)

/-- Validate untrusted geometry without changing it. -/
def assertTerminalGeometry (value : TerminalGeometry) : ProtocolResult TerminalGeometry :=
  if isTerminalGeometry value then .ok value
  else .error
    { field := "terminal_geometry"
      reason := "terminal geometry " ++ toString value.cols ++ "x" ++ toString value.rows ++
        " is outside 1.." ++ toString terminalMaxCols ++ "x1.." ++ toString terminalMaxRows }

def minimumLoop (cols rows : UInt32) (seen : Bool) :
    List TerminalGeometry → ProtocolResult (Option TerminalGeometry)
  | [] => .ok (if seen then some { cols, rows } else none)
  | geometry :: geometries => do
    let _ ← assertTerminalGeometry geometry
    minimumLoop (min cols geometry.cols) (min rows geometry.rows) true geometries

/-- The smallest common dimensions of the views that constrain a session, on each
axis independently. No view at all means unwatched. -/
def minimumTerminalGeometry (geometries : List TerminalGeometry) :
    ProtocolResult (Option TerminalGeometry) :=
  minimumLoop (terminalMaxCols + 1) (terminalMaxRows + 1) false geometries

/-! ## Checks -/

theorem hasUuidShape_length {value : String} (h : hasUuidShape value = true) :
    (utf8Bytes value).length = uuidLen := by
  simp only [hasUuidShape, Bool.and_eq_true, decide_eq_true_eq] at h
  exact h.1

theorem isTerminalUuid_shape {value : String} (h : isTerminalUuid value = true) :
    hasUuidShape value = true := by
  simp only [isTerminalUuid, Bool.and_eq_true] at h
  exact h.1.1

theorem isTerminalGeometry_iff {value : TerminalGeometry} : isTerminalGeometry value = true ↔
      (1 ≤ value.cols.toNat ∧ value.cols.toNat ≤ 256) ∧
        1 ≤ value.rows.toNat ∧ value.rows.toNat ≤ 256 := by
  simp [isTerminalGeometry, UInt32.le_iff_toNat_le, terminalMaxCols, terminalMaxRows, and_assoc]

/-! ## The minimum -/

structure AxisMinimum (geometries : Set TerminalGeometry) (least : TerminalGeometry) : Prop where
  cols : (∃ geometry ∈ geometries, geometry.cols = least.cols) ∧
    ∀ geometry ∈ geometries, least.cols ≤ geometry.cols
  rows : (∃ geometry ∈ geometries, geometry.rows = least.rows) ∧
    ∀ geometry ∈ geometries, least.rows ≤ geometry.rows

variable (axis : TerminalGeometry → UInt32)

/-- The running minimum of one axis. -/
def axisMin (start : UInt32)
    (geometries : List TerminalGeometry) : UInt32 :=
  geometries.foldl (fun least geometry => min least (axis geometry)) start

theorem axisMin_le_start (start : UInt32)
    (geometries : List TerminalGeometry) : axisMin axis start geometries ≤ start := by
  induction geometries generalizing start with
  | nil => exact UInt32.le_refl start
  | cons geometry geometries ih => exact UInt32.le_trans (ih _) Std.min_le_left

variable {geometries : List TerminalGeometry} {start : UInt32}

theorem axisMin_le {axis : TerminalGeometry → UInt32} {geometry : TerminalGeometry}
    (hmem : geometry ∈ geometries) : axisMin axis start geometries ≤ axis geometry := by
  induction geometries generalizing start with
  | nil => cases hmem
  | cons first geometries ih =>
    rcases List.mem_cons.mp hmem with rfl | hmem
    · exact UInt32.le_trans (axisMin_le_start axis _ geometries) Std.min_le_right
    · exact ih hmem

theorem axisMin_attained (start : UInt32) (geometries : List TerminalGeometry) :
    axisMin axis start geometries = start ∨
      ∃ geometry ∈ geometries, axis geometry = axisMin axis start geometries := by
  induction geometries generalizing start with
  | nil => exact Or.inl rfl
  | cons first geometries ih =>
    change axisMin axis (min start (axis first)) geometries = start ∨
      ∃ geometry ∈ first :: geometries,
        axis geometry = axisMin axis (min start (axis first)) geometries
    rcases ih (min start (axis first)) with hstart | ⟨geometry, hmem, heq⟩
    · rw [hstart]
      rcases Std.min_eq_or (a := start) (b := axis first) with hmin | hmin
      · exact Or.inl hmin
      · exact Or.inr ⟨first, List.mem_cons_self, hmin.symm⟩
    · exact Or.inr ⟨geometry, List.mem_cons_of_mem _ hmem, heq⟩

theorem axisMin_isLeast {axis : TerminalGeometry → UInt32} (hne : geometries ≠ [])
    (hbelow : ∀ geometry ∈ geometries, axis geometry < start) :
    (∃ geometry ∈ geometries, axis geometry = axisMin axis start geometries) ∧
      ∀ geometry ∈ geometries, axisMin axis start geometries ≤ axis geometry := by
  refine ⟨?_, fun geometry hmem => axisMin_le hmem⟩
  rcases axisMin_attained axis start geometries with hstart | hatt
  · obtain ⟨geometry, hmem⟩ := List.exists_mem_of_ne_nil _ hne
    have hle : axisMin axis start geometries ≤ axis geometry := axisMin_le hmem
    rw [hstart] at hle
    exact absurd (hbelow geometry hmem) (UInt32.not_lt.mpr hle)
  · exact hatt

theorem minimumLoop_eq_ok {cols rows : UInt32} {seen : Bool}
    (hall : ∀ geometry ∈ geometries, isTerminalGeometry geometry = true)
    (hseen : seen = true ∨ geometries ≠ []) : minimumLoop cols rows seen geometries =
      .ok (some { cols := axisMin TerminalGeometry.cols cols geometries
                  rows := axisMin TerminalGeometry.rows rows geometries }) := by
  induction geometries generalizing cols rows seen with
  | nil =>
    have hseen : seen = true := hseen.resolve_right (fun hne => hne rfl)
    simp [minimumLoop, hseen, axisMin]
  | cons geometry geometries ih =>
    have hgeom := hall geometry List.mem_cons_self
    simp only [minimumLoop, assertTerminalGeometry, hgeom, if_true]
    exact ih (fun other hmem => hall other (List.mem_cons_of_mem _ hmem)) (Or.inl rfl)

theorem minimumTerminalGeometry_spec (hne : geometries ≠ [])
    (hall : ∀ geometry ∈ geometries, isTerminalGeometry geometry = true) :
    ∃ least, minimumTerminalGeometry geometries = .ok (some least) ∧
      AxisMinimum { geometry | geometry ∈ geometries } least := by
  refine ⟨_, minimumLoop_eq_ok hall (Or.inr hne), ?_, ?_⟩
  · refine axisMin_isLeast hne ?_
    intro geometry hmem
    have hrange := isTerminalGeometry_iff.mp (hall geometry hmem)
    exact UInt32.lt_iff_toNat_lt.mpr (Nat.lt_succ_of_le hrange.1.2)
  refine axisMin_isLeast hne ?_
  intro geometry hmem
  have hrange := isTerminalGeometry_iff.mp (hall geometry hmem)
  exact UInt32.lt_iff_toNat_lt.mpr (Nat.lt_succ_of_le hrange.2.2)

end Roost
