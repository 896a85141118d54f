-- SUMMARY: Binary trees: replacing leaves, and collapsing the ones nobody needs.
import Mathlib.Data.List.Basic
import Mathlib.Data.List.Flatten

/-!
# Leaf trees

What an edit does to a tree is what it does to the leaves from left to right. Replacing leaves by
trees flattens; collapsing drops the leaves that may go and keeps every other one in its place,
unless none is left, and then one of them stays.
-/

namespace Roost

open List

/-- A binary tree with values at its leaves and marks at its nodes. -/
inductive LeafTree (μ α : Type)
  | leaf (value : α)
  | node (mark : μ) (a b : LeafTree μ α)
  deriving DecidableEq

namespace LeafTree

variable {μ α : Type}

/-- The leaves, first before second. -/
def leaves : LeafTree μ α → List α
  | leaf value => [value]
  | node _ a b => leaves a ++ leaves b

/-- The marks of the nodes, a node before its children. -/
def marks : LeafTree μ α → List μ
  | leaf _ => []
  | node mark a b => mark :: (marks a ++ marks b)

def first : LeafTree μ α → α
  | leaf value => value
  | node _ a _ => first a

/-- The nodes of a longest path from the root, leaves included. -/
def height : LeafTree μ α → Nat
  | leaf _ => 1
  | node _ a b => max (height a) (height b) + 1

/-- The nodes, leaves included. -/
def size : LeafTree μ α → Nat
  | leaf _ => 1
  | node _ a b => size a + size b + 1

def bind (f : α → LeafTree μ α) : LeafTree μ α → LeafTree μ α
  | leaf value => f value
  | node mark a b => node mark (bind f a) (bind f b)

def map (f : α → α) : LeafTree μ α → LeafTree μ α
  | leaf value => leaf (f value)
  | node mark a b => node mark (map f a) (map f b)

def mapMarks (f : μ → μ) : LeafTree μ α → LeafTree μ α
  | leaf value => leaf value
  | node mark a b => node (f mark) (mapMarks f a) (mapMarks f b)

def isLeafWith (p : α → Bool) : LeafTree μ α → Bool
  | leaf value => p value
  | node .. => false

/-- Bottom-up, a node that loses a child to `p` becomes the other child. -/
def collapse (p : α → Bool) : LeafTree μ α → LeafTree μ α
  | leaf value => leaf value
  | node mark a b =>
    let first := collapse p a
    let second := collapse p b
    if first.isLeafWith p then second
    else if second.isLeafWith p then first
    else node mark first second

variable {tree : LeafTree μ α}

theorem height_pos (tree : LeafTree μ α) : 0 < tree.height := by
  cases tree <;> exact Nat.succ_pos _

theorem size_eq (tree : LeafTree μ α) : tree.size + 1 = 2 * tree.leaves.length := by
  induction tree with
  | leaf => rfl
  | node mark a b iha ihb =>
    rw [size, leaves, length_append]
    omega

theorem first_mem (tree : LeafTree μ α) : tree.first ∈ tree.leaves := by
  induction tree with
  | leaf => exact mem_singleton_self _
  | node mark a b iha => exact mem_append_left _ iha

@[simp] theorem leaves_bind (f : α → LeafTree μ α) (tree : LeafTree μ α) :
    (tree.bind f).leaves = tree.leaves.flatMap fun value => (f value).leaves := by
  induction tree with
  | leaf => simp [bind, leaves]
  | node mark a b iha ihb => simp [bind, leaves, iha, ihb, flatMap_append]

variable {f : α → LeafTree μ α}

theorem bind_eq_self (h : ∀ value ∈ tree.leaves, f value = leaf value) :
    tree.bind f = tree := by
  induction tree with
  | leaf value => exact h value (mem_singleton_self _)
  | node mark a b iha ihb =>
    rw [bind, iha fun value hmem => h value (mem_append_left _ hmem),
      ihb fun value hmem => h value (mem_append_right _ hmem)]

theorem bind_leaf (f : α → α) (tree : LeafTree μ α) :
    tree.bind (fun value => leaf (f value)) = tree.map f := by
  induction tree with
  | leaf => rfl
  | node mark a b iha ihb => rw [bind, iha, ihb, map]

theorem mem_marks_bind {mark : μ} (h : mark ∈ (tree.bind f).marks) :
    mark ∈ tree.marks ∨ ∃ value ∈ tree.leaves, mark ∈ (f value).marks := by
  induction tree with
  | leaf value => exact .inr ⟨value, mem_singleton_self _, h⟩
  | node own a b iha ihb =>
    rw [bind, marks, mem_cons, mem_append] at h
    rcases h with rfl | ha | hb
    · exact .inl mem_cons_self
    · rcases iha ha with hold | ⟨value, hmem, hnew⟩
      · exact .inl (mem_cons_of_mem _ (mem_append_left _ hold))
      · exact .inr ⟨value, mem_append_left _ hmem, hnew⟩
    · rcases ihb hb with hold | ⟨value, hmem, hnew⟩
      · exact .inl (mem_cons_of_mem _ (mem_append_right _ hold))
      · exact .inr ⟨value, mem_append_right _ hmem, hnew⟩

@[simp] theorem leaves_map (f : α → α) (tree : LeafTree μ α) :
    (tree.map f).leaves = tree.leaves.map f := by
  induction tree with
  | leaf => rfl
  | node mark a b iha ihb => simp [map, leaves, iha, ihb]

@[simp] theorem marks_map (f : α → α) (tree : LeafTree μ α) : (tree.map f).marks = tree.marks := by
  induction tree with
  | leaf => rfl
  | node mark a b iha ihb => simp [map, marks, iha, ihb]

@[simp] theorem leaves_mapMarks (f : μ → μ) (tree : LeafTree μ α) :
    (tree.mapMarks f).leaves = tree.leaves := by
  induction tree with
  | leaf => rfl
  | node mark a b iha ihb => simp [mapMarks, leaves, iha, ihb]

@[simp] theorem marks_mapMarks (f : μ → μ) (tree : LeafTree μ α) :
    (tree.mapMarks f).marks = tree.marks.map f := by
  induction tree with
  | leaf => rfl
  | node mark a b iha ihb => simp [mapMarks, marks, iha, ihb]

theorem isLeafWith_eq_false {p : α → Bool} (h : ∀ value ∈ tree.leaves, p value = false) :
    tree.isLeafWith p = false := by
  cases tree with
  | leaf value => exact h value (mem_singleton_self _)
  | node => rfl

theorem collapse_cases (p : α → Bool) (tree : LeafTree μ α) :
    (tree.leaves.filter (fun value => !p value) ≠ [] ∧
      (tree.collapse p).leaves = tree.leaves.filter fun value => !p value) ∨
    (tree.leaves.filter (fun value => !p value) = [] ∧
      ∃ value ∈ tree.leaves, tree.collapse p = leaf value) := by
  induction tree with
  | leaf value =>
    cases hp : p value with
    | true => exact .inr ⟨by simp [leaves, hp], value, mem_singleton_self _, rfl⟩
    | false => exact .inl ⟨by simp [leaves, hp], by simp [leaves, collapse, hp]⟩
  | node mark a b iha ihb =>
    have hgoes : ∀ {tree : LeafTree μ α} {value}, tree.leaves.filter (fun v => !p v) = [] →
        value ∈ tree.leaves → (leaf value : LeafTree μ α).isLeafWith p = true := by
      intro tree value hnone hmem
      have := filter_eq_nil_iff.mp hnone value hmem
      simpa [isLeafWith] using this
    have hstays : ∀ {tree : LeafTree μ α},
        (tree.collapse p).leaves = tree.leaves.filter (fun v => !p v) →
        (tree.collapse p).isLeafWith p = false := by
      intro tree hkept
      refine isLeafWith_eq_false fun value hmem => ?_
      rw [hkept] at hmem
      simpa using of_mem_filter hmem
    simp only [leaves, collapse, filter_append]
    rcases iha with ⟨hsome, hkept⟩ | ⟨hnone, value, hmem, hleft⟩
    · rw [if_neg (by rw [hstays hkept]; exact Bool.false_ne_true)]
      refine .inl ⟨fun hnil => hsome (append_eq_nil_iff.mp hnil).1, ?_⟩
      rcases ihb with ⟨-, hkept'⟩ | ⟨hnone', value', hmem', hleft'⟩
      · rw [if_neg (by rw [hstays hkept']; exact Bool.false_ne_true), leaves, hkept, hkept']
      · rw [hleft', if_pos (hgoes hnone' hmem'), hnone', append_nil, hkept]
    · rw [hleft, if_pos (hgoes hnone hmem), hnone, nil_append]
      rcases ihb with ⟨hsome', hkept'⟩ | ⟨hnone', value', hmem', hleft'⟩
      · exact .inl ⟨hsome', hkept'⟩
      · exact .inr ⟨hnone', value', mem_append_right _ hmem', hleft'⟩

theorem marks_collapse_subset (p : α → Bool) (tree : LeafTree μ α) :
    (tree.collapse p).marks ⊆ tree.marks := by
  induction tree with
  | leaf => exact List.Subset.refl _
  | node mark a b iha ihb =>
    have ha : (a.collapse p).marks ⊆ marks (node mark a b) := fun _ h =>
      mem_cons_of_mem _ (mem_append_left _ (iha h))
    have hb : (b.collapse p).marks ⊆ marks (node mark a b) := fun _ h =>
      mem_cons_of_mem _ (mem_append_right _ (ihb h))
    simp only [collapse]
    split
    · exact hb
    split
    · exact ha
    intro own hown
    rcases mem_cons.mp hown with rfl | hmem
    · exact mem_cons_self
    · rcases mem_append.mp hmem with hfirst | hsecond
      · exact ha hfirst
      · exact hb hsecond

theorem collapse_eq_self {p : α → Bool} (h : ∀ value ∈ tree.leaves, p value = false) :
    tree.collapse p = tree := by
  induction tree with
  | leaf => rfl
  | node mark a b iha ihb =>
    obtain ⟨ha, hb⟩ := forall_mem_append.mp h
    have hstay : ∀ {child : LeafTree μ α}, (∀ value ∈ child.leaves, p value = false) →
        ¬ child.isLeafWith p = true := fun hchild => by
      rw [isLeafWith_eq_false hchild]
      exact Bool.false_ne_true
    simp only [collapse, iha ha, ihb hb]
    rw [if_neg (hstay ha), if_neg (hstay hb)]

theorem extent_collapse_le (p : α → Bool) (tree : LeafTree μ α) :
    (tree.collapse p).height ≤ tree.height ∧ (tree.collapse p).size ≤ tree.size := by
  induction tree with
  | leaf => exact ⟨Nat.le_refl _, Nat.le_refl _⟩
  | node mark a b iha ihb =>
    simp only [collapse, height, size]
    split
    · exact ⟨by omega, by omega⟩
    split
    · exact ⟨by omega, by omega⟩
    · simp only [height, size]
      exact ⟨by omega, by omega⟩

/-! ## Trees of one shape -/

/-- Two trees of one shape whose marks and leaves are related place by place. -/
inductive Alike {ν β : Type} (M : μ → ν → Prop) (R : α → β → Prop) :
    LeafTree μ α → LeafTree ν β → Prop
  | leaf {value : α} {value' : β} (h : R value value') : Alike M R (.leaf value) (.leaf value')
  | node {mark : μ} {mark' : ν} {a b : LeafTree μ α} {a' b' : LeafTree ν β} (h : M mark mark')
      (ha : Alike M R a a') (hb : Alike M R b b') : Alike M R (.node mark a b) (.node mark' a' b')

theorem Alike.exists_leaf {ν β : Type} {M : μ → ν → Prop} {R : α → β → Prop} {tree : LeafTree μ α}
    {tree' : LeafTree ν β} (h : Alike M R tree tree') {value' : β} (hmem : value' ∈ tree'.leaves) :
    ∃ value ∈ tree.leaves, R value value' := by
  induction h with
  | leaf h =>
    cases mem_singleton.mp hmem
    exact ⟨_, mem_singleton_self _, h⟩
  | node h ha hb iha ihb =>
    rcases mem_append.mp hmem with hmem | hmem
    · obtain ⟨value, hvalue, hrel⟩ := iha hmem
      exact ⟨value, mem_append_left _ hvalue, hrel⟩
    · obtain ⟨value, hvalue, hrel⟩ := ihb hmem
      exact ⟨value, mem_append_right _ hvalue, hrel⟩

end LeafTree

end Roost
