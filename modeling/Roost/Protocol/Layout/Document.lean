-- SUMMARY: The portable layout document, and the preflight that bounds it.
import Mathlib.Algebra.Order.Ring.Rat
import Roost.Base.Except
import Roost.Base.LeafTree
import Roost.Protocol.Error

/-!
# Layout documents

A document is a tree of leaves that own slots, and the session each slot is bound to. Doubles are
kept as far as the checks read them: a value, an infinity or none; `ratioText` is how one prints.
The documents below have the declared shape already, so the preflight and the parse are left with
the bounds.
-/

namespace Roost.Layout

def layoutDocumentMaxKeyUtf8Bytes : Nat := 256

def layoutDocumentMaxSessionIdUtf8Bytes : Nat := 256

/-- The root node is depth 1; every split child advances one level. -/
def layoutDocumentMaxDepth : Nat := 32

def layoutDocumentMaxNodes : Nat := 255

def layoutDocumentMaxSlots : Nat := 512

def layoutDocumentMaxBindings : Nat := 512

/-- A double: no number, an infinity, or a value. -/
inductive F64
  | nan
  | infinity (negative : Bool)
  | finite (value : ℚ)
  deriving DecidableEq

/-- The double nearest to a tenth. -/
def layoutRatioMin : ℚ := 3602879701896397 / 2 ^ 55

/-- The double nearest to nine tenths. -/
def layoutRatioMax : ℚ := 8106479329266893 / 2 ^ 53

/-- Whether a ratio is finite and within the shared bounds. -/
def F64.within : F64 → Bool
  | .nan => false
  | .infinity _ => false
  | .finite value => decide (layoutRatioMin ≤ value ∧ value ≤ layoutRatioMax)

/-- Which way a split divides its parent. -/
inductive LayoutDirection
  | row
  | col
  /-- A direction a newer peer wrote. -/
  | other (value : String)
  deriving DecidableEq

def LayoutDirection.asWire : LayoutDirection → String
  | .row => "row"
  | .col => "col"
  | .other value => value

def LayoutDirection.parse (field value : String) : ProtocolResult LayoutDirection :=
  if value = "row" then .ok .row
  else if value = "col" then .ok .col
  else .error { field, reason := "must be one of [row, col], got " ++ debugQuoted value }

/-- One pane's attachment to one live session. -/
structure LayoutDocumentBinding where
  slotKey : String
  sessionId : String
  deriving DecidableEq

/-- A pane, with the slots its tab strip can show. -/
structure LayoutDocumentLeaf where
  leafKey : String
  slotKeys : List String
  selectedSlotKey : Option String
  deriving DecidableEq

/-- A divider between two subtrees. -/
structure LayoutDocumentSplit where
  direction : LayoutDirection
  ratio : F64
  deriving DecidableEq

abbrev LayoutDocumentNode := LeafTree LayoutDocumentSplit LayoutDocumentLeaf

structure LayoutDocumentV1 where
  schemaVersion : UInt8
  root : LayoutDocumentNode
  focusedLeafKey : String
  bindings : List LayoutDocumentBinding
  deriving DecidableEq

def join (path key : String) : String := if path = "" then key else path ++ "." ++ key

/-! ## The preflight -/

def utf8BoundViolation (path value : String) (maxBytes : Nat) (label : String) :
    ProtocolResult Unit :=
  if value.utf8ByteSize > maxBytes then
    .error { field := path
             reason := label ++ " must not exceed " ++ toString maxBytes ++ " UTF-8 bytes" }
  else .ok ()

def keyBoundViolation (path value : String) : ProtocolResult Unit :=
  utf8BoundViolation path value layoutDocumentMaxKeyUtf8Bytes "layout key"

def preflightBindings (bindings : List LayoutDocumentBinding) : ProtocolResult Unit := do
  if bindings.length > layoutDocumentMaxBindings then
    .error { field := "bindings"
             reason := "layout document exceeds " ++ toString layoutDocumentMaxBindings ++
              " bindings" }
  else
    bindings.zipIdx.forM fun (binding, index) => do
      let path := "bindings[" ++ toString index ++ "]"
      keyBoundViolation (path ++ ".slot_key") binding.slotKey
      utf8BoundViolation (path ++ ".session_id") binding.sessionId
        layoutDocumentMaxSessionIdUtf8Bytes "layout session_id"

/-- Check one leaf's slots against the document-wide budget, returning its count. -/
def slotKeyViolations (path : String) (leaf : LayoutDocumentLeaf) (slots : Nat) :
    ProtocolResult Nat := do
  if leaf.slotKeys.length > layoutDocumentMaxSlots - slots then
    .error { field := path ++ ".slot_keys"
             reason := "layout document exceeds " ++ toString layoutDocumentMaxSlots ++ " slots" }
  else
    leaf.slotKeys.zipIdx.forM fun (slotKey, index) =>
      keyBoundViolation (path ++ ".slot_keys[" ++ toString index ++ "]") slotKey
    .ok leaf.slotKeys.length

def countNode (path : String) (depth nodes : Nat) : ProtocolResult Nat :=
  if depth > layoutDocumentMaxDepth then
    .error { field := path
             reason := "layout document exceeds depth " ++ toString layoutDocumentMaxDepth }
  else if nodes + 1 > layoutDocumentMaxNodes then
    .error { field := path
             reason := "layout document exceeds " ++ toString layoutDocumentMaxNodes ++ " nodes" }
  else .ok (nodes + 1)

/-- The walk visits the first child of a split and everything below it before the second. -/
def preflightRoot (path : String) (depth : Nat) (counted : Nat × Nat) :
    LayoutDocumentNode → ProtocolResult (Nat × Nat)
  | .leaf leaf => do
    let nodes ← countNode path depth counted.1
    keyBoundViolation (path ++ ".leaf_key") leaf.leafKey
    if let some selected := leaf.selectedSlotKey then
      keyBoundViolation (path ++ ".selected_slot_key") selected
    let slots ← slotKeyViolations path leaf counted.2
    .ok (nodes, counted.2 + slots)
  | .node _ first second => do
    let nodes ← countNode path depth counted.1
    let counted ← preflightRoot (path ++ ".first") (depth + 1) (nodes, counted.2) first
    preflightRoot (path ++ ".second") (depth + 1) counted second

/-- Refuse a document that is too large to parse. -/
def preflightLayoutDocumentResources (document : LayoutDocumentV1) : ProtocolResult Unit := do
  keyBoundViolation "focused_leaf_key" document.focusedLeafKey
  preflightBindings document.bindings
  let _ ← preflightRoot "root" 1 (0, 0) document.root
  .ok ()

end Roost.Layout
