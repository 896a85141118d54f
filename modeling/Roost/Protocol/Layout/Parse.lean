-- SUMMARY: The strict parse of a layout document.
import Roost.Protocol.Layout.Graph

/-!
# Parsing a layout document

The preflight bounds the work, the parse reads every field under its own bound, and the graph walk
proves the tree consistent. A parsed document has its ratios in bounds and hangs together.
-/

namespace Roost.Layout

def boundedString (value path : String) (maxBytes : Nat) : ProtocolResult String :=
  if value = "" then .error { field := path, reason := "must not be empty" }
  else if value.utf8ByteSize > maxBytes then
    .error { field := path
             reason := "must not exceed " ++ toString maxBytes ++ " UTF-8 bytes, got " ++
              toString value.utf8ByteSize }
  else .ok value

def boundedKey (value path : String) : ProtocolResult String :=
  boundedString value path layoutDocumentMaxKeyUtf8Bytes

section
variable (ratioText : F64 → String)

def readRatio (ratio : F64) (path : String) : ProtocolResult F64 :=
  if ratio.within then .ok ratio
  else
    .error { field := join path "ratio"
             reason := "must be finite and within 0.1..=0.9, got " ++ ratioText ratio }

def parseLeaf (leaf : LayoutDocumentLeaf) (path : String) : ProtocolResult LayoutDocumentLeaf := do
  let selectedSlotKey ← leaf.selectedSlotKey.mapM fun selected =>
    boundedKey selected (join path "selected_slot_key")
  let leafKey ← boundedKey leaf.leafKey (join path "leaf_key")
  let slotKeys ← leaf.slotKeys.zipIdx.mapM fun (slotKey, index) =>
    boundedKey slotKey (path ++ ".slot_keys[" ++ toString index ++ "]")
  .ok { leafKey, slotKeys, selectedSlotKey }

/-- The first child is parsed before the second, and a node after both. -/
def parseNodeTree (path : String) (depth : Nat) :
    LayoutDocumentNode → ProtocolResult LayoutDocumentNode
  | .leaf leaf =>
    if depth > layoutDocumentMaxDepth then
      .error { field := path
               reason := "layout document exceeds depth " ++ toString layoutDocumentMaxDepth }
    else do
      let leaf ← parseLeaf leaf path
      .ok (.leaf leaf)
  | .node split first second =>
    if depth > layoutDocumentMaxDepth then
      .error { field := path
               reason := "layout document exceeds depth " ++ toString layoutDocumentMaxDepth }
    else do
      let direction ← LayoutDirection.parse (join path "direction") split.direction.asWire
      let ratio ← readRatio ratioText split.ratio path
      let first ← parseNodeTree (path ++ ".first") (depth + 1) first
      let second ← parseNodeTree (path ++ ".second") (depth + 1) second
      .ok (.node { direction, ratio } first second)

def parseBindings (bindings : List LayoutDocumentBinding) :
    ProtocolResult (List LayoutDocumentBinding) :=
  if bindings.length > layoutDocumentMaxBindings then
    .error { field := "bindings"
             reason := "layout document exceeds " ++ toString layoutDocumentMaxBindings ++
              " bindings" }
  else
    bindings.zipIdx.mapM fun (binding, index) => do
      let path := "bindings[" ++ toString index ++ "]"
      let slotKey ← boundedKey binding.slotKey (join path "slot_key")
      let sessionId ← boundedString binding.sessionId (join path "session_id")
        layoutDocumentMaxSessionIdUtf8Bytes
      .ok { slotKey, sessionId }

def parseLayoutDocumentV1 (input : LayoutDocumentV1) : ProtocolResult LayoutDocumentV1 := do
  preflightLayoutDocumentResources input
  if input.schemaVersion ≠ 1 then .error { field := "schema_version", reason := "must be 1" }
  else
    let root ← parseNodeTree ratioText "root" 1 input.root
    let focusedLeafKey ← boundedKey input.focusedLeafKey "focused_leaf_key"
    let bindings ← parseBindings input.bindings
    let parsed : LayoutDocumentV1 := { schemaVersion := 1, root, focusedLeafKey, bindings }
    validate parsed
    .ok parsed

variable {ratioText}

theorem parseNodeTree_ratios {path : String} {depth : Nat} {input node : LayoutDocumentNode}
    (h : parseNodeTree ratioText path depth input = .ok node) :
    ∀ split ∈ node.marks, split.ratio.within = true := by
  induction input generalizing path depth node with
  | leaf =>
    rw [parseNodeTree, Except.ite_error_eq_ok, Except.bind_eq_ok] at h
    obtain ⟨-, _, -, h⟩ := h
    cases h
    intro split hmem
    cases hmem
  | node split first second ihfirst ihsecond =>
    simp only [parseNodeTree, Except.ite_error_eq_ok, Except.bind_eq_ok] at h
    obtain ⟨-, _, -, ratio, hratio, _, hfirst, _, hsecond, h⟩ := h
    cases h
    have hwithin : ratio.within = true := by
      unfold readRatio at hratio
      split at hratio
      · next hin =>
        cases hratio
        exact hin
      · cases hratio
    intro own hmem
    rcases List.mem_cons.mp hmem with rfl | hmem
    · exact hwithin
    · rcases List.mem_append.mp hmem with hleft | hright
      · exact ihfirst hfirst own hleft
      · exact ihsecond hsecond own hright

theorem parseLayoutDocumentV1_ok {input doc : LayoutDocumentV1}
    (h : parseLayoutDocumentV1 ratioText input = .ok doc) :
    (∀ split ∈ doc.root.marks, split.ratio.within = true) ∧ validate doc = .ok () := by
  simp only [parseLayoutDocumentV1, Except.bind_eq_ok, Except.ite_error_eq_ok] at h
  obtain ⟨_, -, -, _, hroot, _, -, _, -, _, hvalid, h⟩ := h
  cases h
  exact ⟨parseNodeTree_ratios hroot, hvalid⟩

end

end Roost.Layout
