import Mathlib.Logic.Function.Basic
import Mathlib.Logic.Relation

/-!
# Forests by parent pointers

A forest is a map from its nodes to their parents: `none` where there is no node, `some none` at a
root. Every parent is a node, and following parents never comes back (`IsForest`).

* `Edit d`: what an owner `d` may do to it, one node at a time: hang a new leaf under itself, or
  take away itself or a child, if that is a leaf.
* **`Parents.Closed.prune_iff`**: when a node can be taken away without leaving an orphan.
* **`IsForest.edits`**: edits keep a forest a forest, at every moment in between.
-/

namespace Lib

open Relation (ReflTransGen TransGen)

variable {α : Type}

/-- The nodes and their parents. -/
abbrev Parents (α : Type) := α → Option (Option α)

/-- `b` is the parent of `a`. -/
def Parents.ChildOf (P : Parents α) (a b : α) : Prop := P a = some (some b)

/-- Every parent is a node. -/
def Parents.Closed (P : Parents α) : Prop := ∀ a b, P.ChildOf a b → P b ≠ none

/-- Every parent is a node, and no node is its own ancestor. -/
structure IsForest (P : Parents α) : Prop where
  closed : P.Closed
  acyclic : ∀ a, ¬ TransGen P.ChildOf a a

/-- A new leaf has no children. -/
theorem IsForest.no_child {P : Parents α} (h : IsForest P) {a : α} (hfresh : P a = none) (b : α) :
    ¬ P.ChildOf b a := fun hb => h.closed b a hb hfresh

section Edits

variable [DecidableEq α]

theorem Parents.ChildOf.of_prune {P : Parents α} {a x y : α}
    (h : Parents.ChildOf (Function.update P a none) x y) : x ≠ a ∧ P.ChildOf x y := by
  unfold Parents.ChildOf at h
  by_cases hx : x = a
  · rw [hx, Function.update_self] at h
    exact absurd h (by simp)
  · rw [Function.update_of_ne hx] at h
    exact ⟨hx, h⟩

/-- **When a node can be taken away**: no other node has it as its parent. -/
theorem Parents.Closed.prune_iff {P : Parents α} (h : P.Closed) (a : α) :
    Parents.Closed (Function.update P a none) ↔ ∀ b, b ≠ a → ¬ P.ChildOf b a := by
  constructor
  · intro hpruned b hb hchild
    have hkept : Parents.ChildOf (Function.update P a none) b a := by
      unfold Parents.ChildOf
      rwa [Function.update_of_ne hb]
    exact hpruned b a hkept (Function.update_self ..)
  · intro hleaf x y hxy
    obtain ⟨hx, hchild⟩ := hxy.of_prune
    have hy : y ≠ a := by
      rintro rfl
      exact hleaf x hx hchild
    rw [Function.update_of_ne hy]
    exact h x y hchild

/-- A change by the owner `d` of one node. -/
inductive Edit (d : α) (P : Parents α) : Parents α → Prop where
  | grow {a : α} (howner : P d ≠ none) (hfresh : P a = none) :
      Edit d P (Function.update P a (some (some d)))
  | prune {a : α} {q : Option α} (hnode : P a = some q) (hown : q = some d ∨ a = d)
      (hleaf : ∀ b, ¬ P.ChildOf b a) : Edit d P (Function.update P a none)

variable {P Q : Parents α} {d : α}

/-- Away from a new leaf the ancestors are as before. -/
theorem ancestors_of_grown (h : IsForest P) {a : α} (hfresh : P a = none)
    {x y : α} (hx : x ≠ a)
    (hxy : TransGen (Parents.ChildOf (Function.update P a (some (some d)))) x y) :
    y ≠ a ∧ TransGen P.ChildOf x y := by
  have edge {u v : α} (hu : u ≠ a)
      (huv : Parents.ChildOf (Function.update P a (some (some d))) u v) :
      v ≠ a ∧ P.ChildOf u v := by
    unfold Parents.ChildOf at huv
    rw [Function.update_of_ne hu] at huv
    exact ⟨fun hv => h.no_child hfresh u (hv ▸ huv), huv⟩
  induction hxy with
  | single huv =>
    obtain ⟨hv, huv⟩ := edge hx huv
    exact ⟨hv, .single huv⟩
  | tail _ huv ih =>
    obtain ⟨hv, huv⟩ := edge ih.1 huv
    exact ⟨hv, ih.2.tail huv⟩

/-- **Hanging a new leaf under a node keeps a forest.** -/
theorem IsForest.grow (h : IsForest P) {a : α} (howner : P d ≠ none) (hfresh : P a = none) :
    IsForest (Function.update P a (some (some d))) := by
  have hda : d ≠ a := by
    rintro rfl
    exact howner hfresh
  constructor
  · intro x y hxy
    by_cases hy : y = a
    · rw [hy, Function.update_self]
      simp
    · rw [Function.update_of_ne hy]
      by_cases hx : x = a
      · obtain rfl : d = y := by simpa [Parents.ChildOf, hx] using hxy
        exact howner
      · unfold Parents.ChildOf at hxy
        rw [Function.update_of_ne hx] at hxy
        exact h.closed x y hxy
  · intro x hcycle
    by_cases hx : x = a
    · -- The leaf's first step leads to the owner, and from there nothing leads back to it.
      subst hx
      obtain ⟨y, hxy, hyx⟩ := Relation.TransGen.head'_iff.mp hcycle
      obtain rfl : d = y := by simpa [Parents.ChildOf] using hxy
      rcases Relation.reflTransGen_iff_eq_or_transGen.mp hyx with heq | hback
      · exact hda heq.symm
      · exact (ancestors_of_grown h hfresh hda hback).1 rfl
    · exact h.acyclic x (ancestors_of_grown h hfresh hx hcycle).2

/-- **Taking a leaf away keeps a forest.** -/
theorem IsForest.prune (h : IsForest P) {a : α} (hleaf : ∀ b, ¬ P.ChildOf b a) :
    IsForest (Function.update P a none) := by
  constructor
  · exact (h.closed.prune_iff a).mpr fun b _ => hleaf b
  · intro x hcycle
    have hmono : TransGen (Parents.ChildOf (Function.update P a none)) ≤ TransGen P.ChildOf :=
      TransGen.mono fun _ _ huv => huv.of_prune.2
    exact h.acyclic x (hmono x x hcycle)

/-- One edit keeps a forest. -/
theorem IsForest.edit (h : IsForest P) (he : Edit d P Q) : IsForest Q := by
  cases he with
  | grow howner hfresh => exact h.grow howner hfresh
  | prune _ _ hleaf => exact h.prune hleaf

/-- **Edits keep a forest.** -/
theorem IsForest.edits (h : IsForest P) (he : ReflTransGen (Edit d) P Q) : IsForest Q := by
  induction he with
  | refl => exact h
  | tail _ hstep ih => exact ih.edit hstep

end Edits

end Lib
