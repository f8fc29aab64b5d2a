import Mathlib.Logic.Function.Basic
import MaRuntime.Lib.Run

/-!
# Threads over a shared state

Threads named by `ι`, each in a phase `τ`, over one shared state `σ`. A step picks a thread that is
not done and takes its next atomic action, which sees its own phase and the shared state. A run is
an interleaving: the list of the threads in the order in which they moved.

* `advance_self`, `advance_other`: the moving thread changes its phase, no other does.
* `Sometime`: what holds at some point of an interleaving; `Run.history` proves invariants of the
  state and the interleaving so far.
-/

namespace Lib

/-- The shared state, and where each thread is. -/
structure Threads (ι σ τ : Type) where
  shared : σ
  phase : ι → τ

namespace Threads

variable {ι σ τ : Type} [DecidableEq ι] {next : ι → τ → σ → τ × σ} {done : τ → Bool}

/-- Thread `i` takes its next action. -/
def advance (next : ι → τ → σ → τ × σ) (s : Threads ι σ τ) (i : ι) : Threads ι σ τ where
  shared := (next i (s.phase i) s.shared).2
  phase := Function.update s.phase i (next i (s.phase i) s.shared).1

/-- A thread that is not done moves. -/
inductive Step (next : ι → τ → σ → τ × σ) (done : τ → Bool) :
    Threads ι σ τ → ι → Threads ι σ τ → Prop where
  | advance {s : Threads ι σ τ} {i : ι} (h : done (s.phase i) = false) :
      Step next done s i (s.advance next i)

@[simp] theorem advance_self (s : Threads ι σ τ) (i : ι) :
    (s.advance next i).phase i = (next i (s.phase i) s.shared).1 :=
  Function.update_self _ _ _

theorem advance_other (s : Threads ι σ τ) {i j : ι} (h : j ≠ i) :
    (s.advance next i).phase j = s.phase j :=
  Function.update_of_ne h _ _

end Threads

/-! ## Interleavings -/

section Schedules

variable {ι σ : Type}

/-- At some point of the interleaving. -/
def Sometime (p : List ι → Prop) (is : List ι) : Prop := ∃ pre, pre <+: is ∧ p pre

theorem sometime_concat {p : List ι → Prop} {is : List ι} {i : ι} :
    Sometime p (is ++ [i]) ↔ Sometime p is ∨ p (is ++ [i]) := by
  constructor
  · rintro ⟨pre, hpre, h⟩
    rcases List.prefix_concat_iff.mp hpre with rfl | hpre
    · exact .inr h
    · exact .inl ⟨pre, hpre, h⟩
  · rintro (⟨pre, hpre, h⟩ | h)
    · exact ⟨pre, hpre.trans (List.prefix_append is [i]), h⟩
    · exact ⟨_, List.prefix_rfl, h⟩

theorem Sometime.now {p : List ι → Prop} {is : List ι} (h : p is) : Sometime p is :=
  ⟨is, List.prefix_rfl, h⟩

theorem Sometime.concat {p : List ι → Prop} {is : List ι} (h : Sometime p is) (i : ι) :
    Sometime p (is ++ [i]) := sometime_concat.mpr (.inl h)

/-- **The invariant rule with a history**: what every step keeps, of the state and the labels so
far, holds at the end of a run with its labels. -/
theorem Run.history {Step : σ → ι → σ → Prop} {I : List ι → σ → Prop}
    (hstep : ∀ {is s i s'}, I is s → Step s i s' → I (is ++ [i]) s') {s s' : σ} {is : List ι}
    (hrun : Run Step s is s') : ∀ {before : List ι}, I before s → I (before ++ is) s' := by
  induction hrun with
  | nil s =>
    intro before h
    rwa [List.append_nil]
  | @cons s s1 s2 i is hs _ ih =>
    intro before h
    have hrest := ih (hstep h hs)
    rwa [List.append_assoc, List.singleton_append] at hrest

end Schedules

end Lib
