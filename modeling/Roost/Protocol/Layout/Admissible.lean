-- SUMMARY: Which layout documents the strict parser admits.
import Roost.Protocol.Layout.Parse

/-!
# Admissible documents

The parser gives back exactly the documents that are within every bound and hang together. What it
returns it accepts again, so a document is admissible or it is not, whoever wrote it.
-/

namespace Roost.Layout

open Except (bind_eq_ok ite_error_eq_ok ok)

open LayoutDirection LeafTree

/-- A key or an id a document may carry. -/
structure Bounded (maxBytes : Nat) (value : String) : Prop where
  nonempty : value ≠ ""
  bytes : value.utf8ByteSize ≤ maxBytes

instance (maxBytes : Nat) (value : String) : Decidable (Bounded maxBytes value) :=
  decidable_of_iff (value ≠ "" ∧ value.utf8ByteSize ≤ maxBytes)
    ⟨fun h => ⟨h.1, h.2⟩, fun h => ⟨h.nonempty, h.bytes⟩⟩

structure LayoutDocumentLeaf.Keyed (leaf : LayoutDocumentLeaf) : Prop where
  leafKey : Bounded layoutDocumentMaxKeyUtf8Bytes leaf.leafKey
  slotKeys : ∀ slotKey ∈ leaf.slotKeys, Bounded layoutDocumentMaxKeyUtf8Bytes slotKey
  selected : ∀ selected ∈ leaf.selectedSlotKey, Bounded layoutDocumentMaxKeyUtf8Bytes selected

/-- A direction this build can render. -/
def LayoutDirection.Portable (direction : LayoutDirection) : Prop :=
  direction = .row ∨ direction = .col
  deriving Decidable

/-- A document the parser admits. -/
structure Admissible (document : LayoutDocumentV1) : Prop where
  version : document.schemaVersion = 1
  height : document.root.height ≤ layoutDocumentMaxDepth
  nodes : document.root.size ≤ layoutDocumentMaxNodes
  slots : (document.root.leaves.flatMap (·.slotKeys)).length ≤ layoutDocumentMaxSlots
  leaves : ∀ leaf ∈ document.root.leaves, leaf.Keyed
  splits : ∀ split ∈ document.root.marks, split.direction.Portable ∧ split.ratio.within = true
  focused : Bounded layoutDocumentMaxKeyUtf8Bytes document.focusedLeafKey
  bindings : document.bindings.length ≤ layoutDocumentMaxBindings
  bound : ∀ binding ∈ document.bindings, Bounded layoutDocumentMaxKeyUtf8Bytes binding.slotKey ∧
    Bounded layoutDocumentMaxSessionIdUtf8Bytes binding.sessionId
  connected : Connected document

/-! ## Reading one field -/

variable {path value : String} {leaf : LayoutDocumentLeaf} {maxBytes : Nat} {read : Unit}

theorem utf8BoundViolation_eq_ok {label : String} :
    utf8BoundViolation path value maxBytes label = .ok read ↔ value.utf8ByteSize ≤ maxBytes := by
  rw [utf8BoundViolation, ite_error_eq_ok, Nat.not_lt]
  exact and_iff_left rfl

theorem keyBoundViolation_eq_ok : keyBoundViolation path value = .ok read ↔
      value.utf8ByteSize ≤ layoutDocumentMaxKeyUtf8Bytes :=
  utf8BoundViolation_eq_ok

theorem boundedString_eq_ok {read : String} :
    boundedString value path maxBytes = .ok read ↔ Bounded maxBytes value ∧ read = value := by
  rw [boundedString, ite_error_eq_ok, ite_error_eq_ok, Nat.not_lt]
  constructor
  · rintro ⟨hempty, hbytes, h⟩
    exact ⟨⟨hempty, hbytes⟩, (ok.inj h).symm⟩
  · rintro ⟨hbounded, rfl⟩
    exact ⟨hbounded.nonempty, hbounded.bytes, rfl⟩

theorem boundedKey_eq_ok {read : String} : boundedKey value path = .ok read ↔
      Bounded layoutDocumentMaxKeyUtf8Bytes value ∧ read = value :=
  boundedString_eq_ok

variable {direction : LayoutDirection}

theorem parseDirection_portable {field : String}
    (h : parse field value = .ok direction) : direction.Portable := by
  unfold parse at h
  split at h
  · exact .inl (ok.inj h).symm
  split at h
  · exact .inr (ok.inj h).symm
  · exact nomatch h

theorem LayoutDirection.Portable.parse (h : direction.Portable)
    (field : String) : parse field direction.asWire = .ok direction := by
  rcases h with rfl | rfl <;> rfl

theorem parseLeaf_eq_ok {read : LayoutDocumentLeaf} :
    parseLeaf leaf path = .ok read ↔ leaf.Keyed ∧ read = leaf := by
  have hslots : ∀ slots, leaf.slotKeys.zipIdx.mapM (fun indexed =>
      boundedKey indexed.1 (path ++ ".slot_keys[" ++ toString indexed.2 ++ "]")) = .ok slots ↔
        (∀ slotKey ∈ leaf.slotKeys, Bounded layoutDocumentMaxKeyUtf8Bytes slotKey) ∧
          slots = leaf.slotKeys :=
    fun slots => Except.mapM_zipIdx_eq_ok fun _ _ _ => boundedKey_eq_ok
  have hsel : ∀ sel, leaf.selectedSlotKey.mapM (fun sel =>
      boundedKey sel (join path "selected_slot_key")) = .ok sel ↔
        (∀ own ∈ leaf.selectedSlotKey, Bounded layoutDocumentMaxKeyUtf8Bytes own) ∧
          sel = leaf.selectedSlotKey := by
    intro sel
    cases leaf.selectedSlotKey with
    | none => simp [pure, Except.pure, eq_comm]
    | some own =>
      show (boundedKey own (join path "selected_slot_key") >>= fun key => .ok (some key)) = _ ↔ _
      simp only [Except.bind_eq_ok, boundedKey_eq_ok]
      constructor
      · rintro ⟨key, ⟨hbounded, rfl⟩, h⟩
        exact ⟨fun _ hmem => Option.mem_some_iff.mp hmem ▸ hbounded, (Except.ok.inj h).symm⟩
      · rintro ⟨hbounded, rfl⟩
        exact ⟨own, ⟨hbounded own rfl, rfl⟩, rfl⟩
  simp only [parseLeaf, Except.bind_eq_ok, boundedKey_eq_ok, hslots, hsel]
  constructor
  · rintro ⟨_, ⟨hchosen, rfl⟩, _, ⟨hkey, rfl⟩, _, ⟨hkeys, rfl⟩, h⟩
    exact ⟨⟨hkey, hkeys, hchosen⟩, (Except.ok.inj h).symm⟩
  · rintro ⟨hkeyed, rfl⟩
    exact ⟨_, ⟨hkeyed.selected, rfl⟩, _, ⟨hkeyed.leafKey, rfl⟩, _, ⟨hkeyed.slotKeys, rfl⟩, rfl⟩

/-! ## The preflight -/

theorem countNode_eq_ok {depth nodes counted : Nat} : countNode path depth nodes = .ok counted ↔
      depth ≤ layoutDocumentMaxDepth ∧ nodes + 1 ≤ layoutDocumentMaxNodes ∧ counted = nodes + 1 := by
  rw [countNode, ite_error_eq_ok, ite_error_eq_ok, Nat.not_lt, Nat.not_lt]
  exact and_congr_right fun _ => and_congr_right fun _ =>
    ⟨fun h => (ok.inj h).symm, fun h => h ▸ rfl⟩

/-- The bytes the preflight bounds in a leaf. -/
def LayoutDocumentLeaf.Fits (leaf : LayoutDocumentLeaf) : Prop :=
  leaf.leafKey.utf8ByteSize ≤ layoutDocumentMaxKeyUtf8Bytes ∧
    (∀ selected ∈ leaf.selectedSlotKey, selected.utf8ByteSize ≤ layoutDocumentMaxKeyUtf8Bytes) ∧
    ∀ slotKey ∈ leaf.slotKeys, slotKey.utf8ByteSize ≤ layoutDocumentMaxKeyUtf8Bytes

theorem LayoutDocumentLeaf.Keyed.fits (h : leaf.Keyed) : leaf.Fits :=
  ⟨h.leafKey.bytes, fun sel hmem => (h.selected sel hmem).bytes,
    fun slotKey hmem => (h.slotKeys slotKey hmem).bytes⟩

theorem slotKeyViolations_eq_ok {slots counted : Nat} (hslots : slots ≤ layoutDocumentMaxSlots) :
    slotKeyViolations path leaf slots = .ok counted ↔
      slots + leaf.slotKeys.length ≤ layoutDocumentMaxSlots ∧
        (∀ slotKey ∈ leaf.slotKeys, slotKey.utf8ByteSize ≤ layoutDocumentMaxKeyUtf8Bytes) ∧
        counted = leaf.slotKeys.length := by
  have hkeys : leaf.slotKeys.zipIdx.forM (fun indexed =>
      keyBoundViolation (path ++ ".slot_keys[" ++ toString indexed.2 ++ "]") indexed.1) = .ok () ↔
        ∀ slotKey ∈ leaf.slotKeys, slotKey.utf8ByteSize ≤ layoutDocumentMaxKeyUtf8Bytes :=
    Except.forM_zipIdx_eq_ok fun _ _ => keyBoundViolation_eq_ok
  simp only [slotKeyViolations, ite_error_eq_ok, bind_eq_ok, hkeys]
  constructor
  · rintro ⟨hroom, _, hbytes, h⟩
    exact ⟨by omega, hbytes, (ok.inj h).symm⟩
  · rintro ⟨hroom, hbytes, rfl⟩
    exact ⟨by omega, (), hbytes, rfl⟩

theorem preflightRoot_eq_ok {depth nodes slots : Nat} {after : Nat × Nat}
    {node : LayoutDocumentNode} (hslots : slots ≤ layoutDocumentMaxSlots) :
    preflightRoot path depth (nodes, slots) node = .ok after ↔
      depth + node.height ≤ layoutDocumentMaxDepth + 1 ∧
        nodes + node.size ≤ layoutDocumentMaxNodes ∧
        slots + (node.leaves.flatMap (·.slotKeys)).length ≤ layoutDocumentMaxSlots ∧
        (∀ leaf ∈ node.leaves, leaf.Fits) ∧
        after = (nodes + node.size, slots + (node.leaves.flatMap (·.slotKeys)).length) := by
  induction node generalizing path depth nodes slots after with
  | leaf leaf =>
    obtain ⟨_, _, selectedSlotKey⟩ := leaf
    cases selectedSlotKey with
    | none =>
      simp only [preflightRoot, bind_eq_ok, countNode_eq_ok, keyBoundViolation_eq_ok,
        slotKeyViolations_eq_ok hslots, height, size, leaves,
        List.flatMap_singleton, List.forall_mem_singleton, LayoutDocumentLeaf.Fits]
      constructor
      · rintro ⟨_, ⟨hdepth, hnode, rfl⟩, _, hkey, _, ⟨hroom, hkeys, rfl⟩, h⟩
        exact ⟨Nat.succ_le_succ hdepth, hnode, hroom, ⟨hkey, fun _ hmem => (by cases hmem), hkeys⟩,
          (ok.inj h).symm⟩
      · rintro ⟨hdepth, hnode, hroom, ⟨hkey, -, hkeys⟩, rfl⟩
        exact ⟨_, ⟨Nat.le_of_succ_le_succ hdepth, hnode, rfl⟩, (), hkey, _, ⟨hroom, hkeys, rfl⟩, rfl⟩
    | some sel =>
      simp only [preflightRoot, bind_eq_ok, countNode_eq_ok, keyBoundViolation_eq_ok,
        slotKeyViolations_eq_ok hslots, height, size, leaves,
        List.flatMap_singleton, List.forall_mem_singleton, LayoutDocumentLeaf.Fits]
      constructor
      · rintro ⟨_, ⟨hdepth, hnode, rfl⟩, _, hkey, _, hchosen, _, ⟨hroom, hkeys, rfl⟩, h⟩
        refine ⟨Nat.succ_le_succ hdepth, hnode, hroom, ⟨hkey, fun own hmem => ?_, hkeys⟩,
          (ok.inj h).symm⟩
        cases Option.mem_some_iff.mp hmem
        exact hchosen
      · rintro ⟨hdepth, hnode, hroom, ⟨hkey, hchosen, hkeys⟩, rfl⟩
        exact ⟨_, ⟨Nat.le_of_succ_le_succ hdepth, hnode, rfl⟩, (), hkey, (), hchosen sel rfl, _,
          ⟨hroom, hkeys, rfl⟩, rfl⟩
  | node split first second ihfirst ihsecond =>
    simp only [preflightRoot, bind_eq_ok, countNode_eq_ok, height, size,
      leaves, List.flatMap_append, List.length_append, List.forall_mem_append]
    constructor
    · rintro ⟨_, ⟨hdepth, hnode, rfl⟩, _, hfirst, hsecond⟩
      obtain ⟨hdeep, hsize, hroom, hfits, rfl⟩ := (ihfirst hslots).mp hfirst
      obtain ⟨hdeep', hsize', hroom', hfits', rfl⟩ := (ihsecond hroom).mp hsecond
      refine ⟨by omega, by omega, by omega, ⟨hfits, hfits'⟩, ?_⟩
      congr 1 <;> omega
    rintro ⟨hdeep, hsize, hroom, ⟨hfits, hfits'⟩, rfl⟩
    have hfirst : preflightRoot (path ++ ".first") (depth + 1) (nodes + 1, slots) first = .ok _ :=
      (ihfirst hslots).mpr ⟨by omega, by omega, by omega, hfits, rfl⟩
    refine ⟨nodes + 1, ⟨by omega, by omega, rfl⟩, _, hfirst, (ihsecond (by omega)).mpr
      ⟨by omega, by omega, by omega, hfits', ?_⟩⟩
    congr 1 <;> omega

theorem preflightBindings_eq_ok {bindings : List LayoutDocumentBinding} :
    preflightBindings bindings = .ok () ↔ bindings.length ≤ layoutDocumentMaxBindings ∧
      ∀ bnd ∈ bindings, bnd.slotKey.utf8ByteSize ≤ layoutDocumentMaxKeyUtf8Bytes ∧
        bnd.sessionId.utf8ByteSize ≤ layoutDocumentMaxSessionIdUtf8Bytes := by
  rw [preflightBindings, ite_error_eq_ok, Nat.not_lt]
  refine and_congr_right fun _ => Except.forM_zipIdx_eq_ok fun bnd index => ?_
  simp only [bind_eq_ok, keyBoundViolation_eq_ok, utf8BoundViolation_eq_ok]
  exact exists_const Unit

theorem preflight_eq_ok {doc : LayoutDocumentV1} : preflightLayoutDocumentResources doc = .ok () ↔
      doc.focusedLeafKey.utf8ByteSize ≤ layoutDocumentMaxKeyUtf8Bytes ∧
        preflightBindings doc.bindings = .ok () ∧ doc.root.height ≤ layoutDocumentMaxDepth ∧
        doc.root.size ≤ layoutDocumentMaxNodes ∧
        (doc.root.leaves.flatMap (·.slotKeys)).length ≤ layoutDocumentMaxSlots ∧
        ∀ leaf ∈ doc.root.leaves, leaf.Fits := by
  simp only [preflightLayoutDocumentResources, bind_eq_ok, keyBoundViolation_eq_ok,
    preflightRoot_eq_ok (Nat.zero_le _), Nat.zero_add]
  constructor
  · rintro ⟨_, hfoc, _, hbind, _, ⟨hheight, hsize, hslots, hfits, -⟩, -⟩
    exact ⟨hfoc, hbind, by omega, hsize, hslots, hfits⟩
  · rintro ⟨hfoc, hbind, hheight, hsize, hslots, hfits⟩
    exact ⟨(), hfoc, (), hbind, _, ⟨by omega, hsize, hslots, hfits, rfl⟩, trivial⟩

/-! ## The parse -/

section
variable {ratioText : F64 → String}

variable {path : String} {depth : Nat} {node : LayoutDocumentNode} {doc : LayoutDocumentV1}

theorem readRatio_eq_ok {ratio read : F64} :
    readRatio ratioText ratio path = .ok read ↔ ratio.within = true ∧ read = ratio := by
  unfold readRatio
  split
  · next hin => exact ⟨fun h => ⟨hin, (ok.inj h).symm⟩, fun h => h.2 ▸ rfl⟩
  · next hout => exact ⟨fun h => (nomatch h), fun h => absurd h.1 hout⟩

variable {input : LayoutDocumentNode}

theorem parseNodeTree_ok
    (h : parseNodeTree ratioText path depth input = .ok node) :
    node.leaves = input.leaves ∧ node.height = input.height ∧ node.size = input.size ∧
      (∀ leaf ∈ node.leaves, leaf.Keyed) ∧
      ∀ split ∈ node.marks, split.direction.Portable ∧ split.ratio.within = true := by
  induction input generalizing path depth node with
  | leaf =>
    simp only [parseNodeTree, ite_error_eq_ok, bind_eq_ok, parseLeaf_eq_ok] at h
    obtain ⟨-, _, ⟨hkeyed, rfl⟩, h⟩ := h
    cases h
    refine ⟨rfl, rfl, rfl, fun own hmem => ?_, fun _ hmem => by cases hmem⟩
    cases List.mem_singleton.mp hmem
    exact hkeyed
  | node split first second ihfirst ihsecond =>
    simp only [parseNodeTree, ite_error_eq_ok, bind_eq_ok, readRatio_eq_ok] at h
    obtain ⟨-, _, hdir, _, ⟨hratio, rfl⟩, _, hfirst, _, hsecond, h⟩ := h
    cases h
    obtain ⟨hleaves, hheight, hsize, hkeyed, hsplits⟩ := ihfirst hfirst
    obtain ⟨hleaves', hheight', hsize', hkeyed', hsplits'⟩ := ihsecond hsecond
    refine ⟨by simp only [leaves, hleaves, hleaves'], by simp only [height, hheight, hheight'],
      by simp only [size, hsize, hsize'], ?_, ?_⟩
    · exact List.forall_mem_append.mpr ⟨hkeyed, hkeyed'⟩
    · exact List.forall_mem_cons.mpr ⟨⟨parseDirection_portable hdir, hratio⟩,
        List.forall_mem_append.mpr ⟨hsplits, hsplits'⟩⟩

theorem parseNodeTree_self (hheight : depth + node.height ≤ layoutDocumentMaxDepth + 1)
    (hleaves : ∀ leaf ∈ node.leaves, leaf.Keyed)
    (hsplits : ∀ split ∈ node.marks, split.direction.Portable ∧ split.ratio.within = true) :
    parseNodeTree ratioText path depth node = .ok node := by
  induction node generalizing path depth with
  | leaf leaf =>
    simp only [parseNodeTree, ite_error_eq_ok, bind_eq_ok, parseLeaf_eq_ok, Nat.not_lt]
    exact ⟨Nat.le_of_succ_le_succ hheight, leaf, ⟨hleaves leaf (List.mem_singleton_self _), rfl⟩, rfl⟩
  | node split first second ihfirst ihsecond =>
    obtain ⟨hown, hbelow⟩ := List.forall_mem_cons.mp hsplits
    obtain ⟨hfirst, hsecond⟩ := List.forall_mem_append.mp hbelow
    obtain ⟨hleft, hright⟩ := List.forall_mem_append.mp hleaves
    rw [height] at hheight
    simp only [parseNodeTree, ite_error_eq_ok, bind_eq_ok, readRatio_eq_ok, Nat.not_lt]
    exact ⟨by omega, split.direction, hown.1.parse _, split.ratio, ⟨hown.2, rfl⟩, first,
      ihfirst (by omega) hleft hfirst, second, ihsecond (by omega) hright hsecond, rfl⟩

theorem parseBindings_eq_ok {bindings read : List LayoutDocumentBinding} :
    parseBindings bindings = .ok read ↔ bindings.length ≤ layoutDocumentMaxBindings ∧
      (∀ bnd ∈ bindings, Bounded layoutDocumentMaxKeyUtf8Bytes bnd.slotKey ∧
        Bounded layoutDocumentMaxSessionIdUtf8Bytes bnd.sessionId) ∧ read = bindings := by
  rw [parseBindings, ite_error_eq_ok, Nat.not_lt]
  refine and_congr_right fun _ => Except.mapM_zipIdx_eq_ok fun bnd index own => ?_
  simp only [bind_eq_ok, boundedKey_eq_ok, boundedString_eq_ok]
  constructor
  · rintro ⟨_, ⟨hslot, rfl⟩, _, ⟨hsess, rfl⟩, h⟩
    exact ⟨⟨hslot, hsess⟩, (ok.inj h).symm⟩
  · rintro ⟨⟨hslot, hsess⟩, rfl⟩
    exact ⟨_, ⟨hslot, rfl⟩, _, ⟨hsess, rfl⟩, rfl⟩

/-- A parsed document is admissible. -/
theorem parse_admissible {input : LayoutDocumentV1}
    (h : parseLayoutDocumentV1 ratioText input = .ok document) : Admissible document := by
  simp only [parseLayoutDocumentV1, bind_eq_ok, ite_error_eq_ok, boundedKey_eq_ok,
    parseBindings_eq_ok] at h
  obtain ⟨_, hprefl, -, _, hroot, _, ⟨hfoc, rfl⟩, _, ⟨hcount, hbound, rfl⟩, _, hvalid, h⟩ := h
  cases h
  obtain ⟨-, -, hheight, hsize, hslots, -⟩ := preflight_eq_ok.mp hprefl
  obtain ⟨hleaves, hheight', hsize', hkeyed, hsplits⟩ := parseNodeTree_ok hroot
  exact
    { version := rfl
      height := hheight'.trans_le hheight
      nodes := hsize'.trans_le hsize
      slots := by rw [hleaves]; exact hslots
      leaves := hkeyed
      splits := hsplits
      focused := hfoc
      bindings := hcount
      bound := hbound
      connected := validate_ok hvalid }

theorem parseNodeTree_portable
    (h : parseNodeTree ratioText path depth input = .ok node)
    (hsplits : ∀ split ∈ input.marks, split.direction.Portable) : node = input := by
  induction input generalizing path depth node with
  | leaf =>
    simp only [parseNodeTree, ite_error_eq_ok, bind_eq_ok, parseLeaf_eq_ok] at h
    obtain ⟨-, _, ⟨-, rfl⟩, h⟩ := h
    exact (ok.inj h).symm
  | node split first second ihfirst ihsecond =>
    obtain ⟨hown, hbelow⟩ := List.forall_mem_cons.mp hsplits
    obtain ⟨hfirst', hsecond'⟩ := List.forall_mem_append.mp hbelow
    simp only [parseNodeTree, ite_error_eq_ok, bind_eq_ok, readRatio_eq_ok,
      hown.parse, ok.injEq] at h
    obtain ⟨-, _, rfl, _, ⟨-, rfl⟩, _, hfirst, _, hsecond, rfl⟩ := h
    rw [ihfirst hfirst hfirst', ihsecond hsecond hsecond']

theorem parse_portable {input : LayoutDocumentV1}
    (h : parseLayoutDocumentV1 ratioText input = .ok doc)
    (hsplits : ∀ split ∈ input.root.marks, split.direction.Portable) : doc = input := by
  simp only [parseLayoutDocumentV1, bind_eq_ok, ite_error_eq_ok, boundedKey_eq_ok,
    parseBindings_eq_ok, not_not] at h
  obtain ⟨_, -, hversion, _, hroot, _, ⟨-, rfl⟩, _, ⟨-, -, rfl⟩, _, -, h⟩ := h
  cases h
  cases parseNodeTree_portable hroot hsplits
  rw [← hversion]

theorem Admissible.parse (h : Admissible document) :
    parseLayoutDocumentV1 ratioText document = .ok document := by
  have hprefl : preflightLayoutDocumentResources document = .ok () :=
    preflight_eq_ok.mpr ⟨h.focused.bytes,
      preflightBindings_eq_ok.mpr ⟨h.bindings, fun binding hmem =>
        ⟨(h.bound binding hmem).1.bytes, (h.bound binding hmem).2.bytes⟩⟩,
      h.height, h.nodes, h.slots, fun leaf hmem => (h.leaves leaf hmem).fits⟩
  have hdepth : 1 + document.root.height ≤ layoutDocumentMaxDepth + 1 := by
    have hheight := h.height
    omega
  have hroot : parseNodeTree ratioText "root" 1 document.root = .ok document.root :=
    parseNodeTree_self hdepth h.leaves h.splits
  obtain ⟨version, root, focused, bindings⟩ := document
  obtain rfl : version = 1 := h.version
  simp only [parseLayoutDocumentV1, bind_eq_ok, ite_error_eq_ok, boundedKey_eq_ok,
    parseBindings_eq_ok]
  exact ⟨(), hprefl, by simp, root, hroot, focused, ⟨h.focused, rfl⟩, bindings,
    ⟨h.bindings, h.bound, rfl⟩, (), h.connected.validates, rfl⟩

end

end Roost.Layout
