import Mathlib.Data.Finset.Basic
import Mathlib.Data.Finset.Dedup
import Mathlib.Data.List.Induction

/-!
# Sets by their history

A log of additions, removals and clearings, and the set that it leaves (`contents`).

* **`mem_contents_iff`**: an element is in the set, iff it was added and neither removed nor cleared
  after that.
* `actList` keeps the set as a list of its elements: each once (`nodup_actList`), and the same ones
  (`toFinset_actList`).
-/

namespace Lib

/-- A change of a set. -/
inductive SetOp (α : Type) where
  | add (a : α)
  | remove (a : α)
  | clear
  deriving DecidableEq, Repr

namespace SetOp

variable {α : Type}

/-! ## The last change -/

/-- The last change to bear on `a` is that it was added. -/
def LastAdded (a : α) (log : List (SetOp α)) : Prop :=
  ∃ older newer, log = older ++ .add a :: newer ∧ ∀ op ∈ newer, op ≠ .remove a ∧ op ≠ .clear

theorem lastAdded_nil (a : α) : ¬ LastAdded a [] := by
  rintro ⟨older, newer, h, -⟩
  exact absurd h (by simp)

theorem lastAdded_append {a : α} {log : List (SetOp α)} {op : SetOp α} :
    LastAdded a (log ++ [op]) ↔ op = .add a ∨ LastAdded a log ∧ op ≠ .remove a ∧ op ≠ .clear := by
  constructor
  · rintro ⟨older, newer, h, hnewer⟩
    rcases List.eq_nil_or_concat newer with rfl | ⟨newer', last, rfl⟩
    · obtain ⟨-, hop⟩ := List.append_inj' h rfl
      exact .inl (by simpa using hop)
    · rw [List.concat_eq_append, ← List.cons_append, ← List.append_assoc] at h
      obtain ⟨rfl, hop⟩ := List.append_inj' h rfl
      obtain rfl : op = last := by simpa using hop
      have hlast := hnewer op (by simp)
      exact .inr ⟨⟨older, newer', rfl, fun op' hop' => hnewer op' (by simp [hop'])⟩, hlast⟩
  · rintro (rfl | ⟨⟨older, newer, rfl, hnewer⟩, hop⟩)
    · exact ⟨log, [], rfl, by simp⟩
    · refine ⟨older, newer ++ [op], by simp, fun op' hop' => ?_⟩
      rcases List.mem_append.mp hop' with hold | hold
      · exact hnewer op' hold
      · rwa [List.mem_singleton.mp hold]

variable [DecidableEq α]

/-- The set after a change. -/
def act (s : Finset α) : SetOp α → Finset α
  | .add a => insert a s
  | .remove a => s.erase a
  | .clear => ∅

/-- The set that a log leaves, from the empty one. -/
def contents (log : List (SetOp α)) : Finset α := log.foldl act ∅

theorem contents_append (log : List (SetOp α)) (op : SetOp α) :
    contents (log ++ [op]) = act (contents log) op := by
  simp [contents]

/-- **What is in the set**: what was added and neither removed nor cleared after that. -/
theorem mem_contents_iff {a : α} {log : List (SetOp α)} :
    a ∈ contents log ↔ LastAdded a log := by
  induction log using List.reverseRecOn with
  | nil => exact iff_of_false (by simp [contents]) (lastAdded_nil a)
  | append_singleton log op ih =>
    rw [contents_append, lastAdded_append, ← ih]
    cases op with
    | add b => simp [act, eq_comm]
    | remove b => simp [act, and_comm, eq_comm]
    | clear => simp [act]

/-! ## Lists of elements -/

/-- A change to a list of elements. -/
def actList (l : List α) : SetOp α → List α
  | .add a => if a ∈ l then l else l ++ [a]
  | .remove a => l.filter (· ≠ a)
  | .clear => []

theorem nodup_actList {l : List α} (h : l.Nodup) (op : SetOp α) : (actList l op).Nodup := by
  cases op with
  | add a =>
    show (if a ∈ l then l else l ++ [a]).Nodup
    by_cases hmem : a ∈ l
    · rwa [if_pos hmem]
    · rw [if_neg hmem]
      refine List.nodup_append.mpr ⟨h, by simp, fun b hb c hc hbc => hmem ?_⟩
      rwa [← List.mem_singleton.mp hc, ← hbc]
  | remove a => exact h.filter _
  | clear => exact List.nodup_nil

theorem toFinset_actList (l : List α) (op : SetOp α) :
    (actList l op).toFinset = act l.toFinset op := by
  cases op with
  | add a =>
    show (if a ∈ l then l else l ++ [a]).toFinset = insert a l.toFinset
    by_cases hmem : a ∈ l
    · rw [if_pos hmem, Finset.insert_eq_of_mem (List.mem_toFinset.mpr hmem)]
    · rw [if_neg hmem]
      ext b
      simp only [List.mem_toFinset, List.mem_append, List.mem_singleton, Finset.mem_insert]
      exact or_comm
  | remove a =>
    ext b
    simp [actList, act, and_comm]
  | clear => rfl

end SetOp

end Lib
