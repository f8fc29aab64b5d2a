/-!
# Runs of a labelled step relation

`Run Step s es s'`: the steps labelled `es`, taken in order from `s`, end in `s'`. An invariant
that every step keeps holds at the end of every run (`Run.invariant`), and as every prefix of a
run is a run, in every state on the way. A map that takes steps to steps takes runs to runs
(`Run.simulate`), labels can be added where every step has one (`Run.labelled`), a relation that
every step keeps along its label is kept along the labels of a run (`Run.refines`), what an
invariant tells of a step holds of each step (`Run.along`), what is known of the labels can be asked
of each step (`Run.restrict`), and the run of a function is had by evaluation (`Run.of_allowed`).
-/

namespace Lib

variable {σ τ ι : Type}

/-- The steps labelled by the list, in order. -/
inductive Run (Step : σ → ι → σ → Prop) : σ → List ι → σ → Prop where
  | nil (s : σ) : Run Step s [] s
  | cons {s s1 s2 : σ} {e : ι} {es : List ι} :
      Step s e s1 → Run Step s1 es s2 → Run Step s (e :: es) s2

namespace Run

variable {Step : σ → ι → σ → Prop}

/-- **The invariant rule.** -/
theorem invariant {I : σ → Prop} (hstep : ∀ {s e s'}, I s → Step s e s' → I s') :
    ∀ {s es s'}, I s → Run Step s es s' → I s'
  | _, _, _, h, .nil _ => h
  | _, _, _, h, .cons hs hr => invariant hstep (hstep h hs) hr

/-- **What an invariant tells of a step** holds of each step of a run. -/
theorem along {I : σ → Prop} {Step' : σ → ι → σ → Prop}
    (hstep : ∀ {s e s'}, I s → Step s e s' → I s' ∧ Step' s e s') {s s' : σ} {es : List ι}
    (h : I s) (hr : Run Step s es s') : Run Step' s es s' := by
  induction hr with
  | nil s => exact .nil s
  | cons hs _ ih =>
    obtain ⟨hnext, hs'⟩ := hstep h hs
    exact .cons hs' (ih hnext)

/-- **The refinement rule**: where every step takes what `s` stands for to what its label makes of
it, a run takes it through its labels in order. -/
theorem refines {α : Type} {A : σ → α → Prop} {act : α → ι → α}
    (hstep : ∀ s e s' a, Step s e s' → A s a → A s' (act a e)) {s s' : σ} {es : List ι} {a : α}
    (hr : Run Step s es s') (h : A s a) : A s' (es.foldl act a) := by
  induction hr generalizing a with
  | nil s => exact h
  | cons hs _ ih => exact ih (hstep _ _ _ _ hs h)

/-- The steps of a function stay within its guard. -/
def allowed (f : σ → ι → σ) (g : σ → ι → Bool) : σ → List ι → Bool
  | _, [] => true
  | s, e :: es => g s e && allowed f g (f s e) es

/-- A run of a function, by evaluation. -/
theorem of_allowed {f : σ → ι → σ} {g : σ → ι → Bool}
    (hstep : ∀ s e, g s e = true → Step s e (f s e)) :
    ∀ (s : σ) (es : List ι), allowed f g s es = true → Run Step s es (es.foldl f s)
  | s, [], _ => .nil s
  | s, e :: es, h => by
    have h : g s e = true ∧ allowed f g (f s e) es = true := by
      simpa [allowed, Bool.and_eq_true] using h
    exact .cons (hstep s e h.1) (of_allowed hstep (f s e) es h.2)

theorem append {s s1 s2 : σ} {es es' : List ι} (h : Run Step s es s1) (h' : Run Step s1 es' s2) :
    Run Step s (es ++ es') s2 := by
  induction h with
  | nil _ => exact h'
  | cons hs _ ih => exact .cons hs (ih h')

/-- **The simulation rule**: `f` takes every step to a step with the same label. -/
theorem simulate {Step' : τ → ι → τ → Prop} (f : σ → τ)
    (hstep : ∀ {s e s'}, Step s e s' → Step' (f s) e (f s')) :
    ∀ {s es s'}, Run Step s es s' → Run Step' (f s) es (f s')
  | _, _, _, .nil _ => .nil _
  | _, _, _, .cons hs hr => .cons (hstep hs) (simulate f hstep hr)

/-- **Adding to the labels**: where every step is one of `Step'` under some further label, so is the
run. -/
theorem labelled {κ : Type} {Step' : σ → ι × κ → σ → Prop}
    (hstep : ∀ s e s', Step s e s' → ∃ k, Step' s (e, k) s') {s s' : σ} {es : List ι}
    (h : Run Step s es s') : ∃ ks : List (ι × κ), ks.map Prod.fst = es ∧ Run Step' s ks s' := by
  induction h with
  | nil s => exact ⟨[], rfl, .nil s⟩
  | cons hs _ ih =>
    obtain ⟨k, hk⟩ := hstep _ _ _ hs
    obtain ⟨ks, hks, hr⟩ := ih
    exact ⟨_ :: ks, by rw [List.map_cons, hks], .cons hk hr⟩

/-- A run whose labels have a property is a run of the steps that have it. -/
theorem restrict {p : ι → Prop} {s s' : σ} {es : List ι} (hr : Run Step s es s')
    (h : ∀ e ∈ es, p e) : Run (fun s e s' => Step s e s' ∧ p e) s es s' := by
  induction hr with
  | nil s => exact .nil s
  | cons hs _ ih =>
    exact .cons ⟨hs, h _ List.mem_cons_self⟩ (ih fun e he => h e (List.mem_cons_of_mem _ he))

theorem mono {Step' : σ → ι → σ → Prop} (h : ∀ {s e s'}, Step s e s' → Step' s e s')
    {s s' : σ} {es : List ι} (hr : Run Step s es s') : Run Step' s es s' :=
  simulate id h hr

end Run

end Lib
