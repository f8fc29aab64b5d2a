import Mathlib.Order.Defs.Unbundled

/-!
# Processes with scoped guards

A sequential process reads and writes a shared state `σ`, can end with an error `ε`, and takes
scoped guards on resources named by `L`: read-write locks, or dynamically borrowed cells. Guards
are lexical: a guard is held exactly while the body it was taken for runs, on the error path too,
so the guards a process holds are a parameter of its run (`Guards`) and no release is forgotten.
A process that asks for a guard which one of its own guards excludes goes no further: on a lock
it waits for itself, on a borrowed cell it aborts. That run ends in `Outcome.stuck`.

* `Proc` is the monad, `holding` the guard, `attempt` the caller's look at an error.
* `Sat` is the outcome-and-state postcondition of a run; `sat_bind` and `Keeps.sat_bind` split it
  along a sequence.
* `Keeps R` says a process only moves along the preorder `R`, whatever its outcome.
* `Frees g` says a process started under the guards `g` never gets stuck, `Total g` that it ends in
  a value; `Calm g R` is `Frees g` and `Keeps R`.
-/

namespace Lib

/-- How a guard holds its resource. -/
inductive Mode where
  | read
  | write
  deriving DecidableEq, Repr

/-- How a process ends. `stuck`: it asked for a guard that one of its own guards excludes. -/
inductive Outcome (ε α : Type) where
  | ok (a : α)
  | err (e : ε)
  | stuck
  deriving DecidableEq, Repr

/-- The guards a process holds, newest first. -/
abbrev Guards (L : Type) := List (L × Mode)

/-- One of the guards is on `l`, and not both it and the request for `m` only read. -/
def Guards.excludes {L : Type} [DecidableEq L] (g : Guards L) (l : L) (m : Mode) : Bool :=
  g.any fun e => e.1 = l && (m = .write || e.2 = .write)

/-- A process over the resources `L`, the state `σ` and the errors `ε`. -/
def Proc (L σ ε α : Type) : Type := Guards L → σ → Outcome ε α × σ

namespace Proc

variable {L σ ε α β : Type}

/-- Run `p`; go on with its value, or end as it ended. -/
def bind (p : Proc L σ ε α) (f : α → Proc L σ ε β) : Proc L σ ε β := fun g s =>
  match p g s with
  | (.ok a, s') => f a g s'
  | (.err e, s') => (.err e, s')
  | (.stuck, s') => (.stuck, s')

instance : Monad (Proc L σ ε) where
  pure a := fun _ s => (.ok a, s)
  bind := bind

/-- End with an error. -/
def fail (e : ε) : Proc L σ ε α := fun _ s => (.err e, s)

/-- The value of an `Except`, or its error. -/
def ofExcept : Except ε α → Proc L σ ε α
  | .ok a => pure a
  | .error e => fail e

/-- Run `p` and hand its error to the caller as a value. -/
def attempt (p : Proc L σ ε α) : Proc L σ ε (Except ε α) := fun g s =>
  match p g s with
  | (.ok a, s') => (.ok (.ok a), s')
  | (.err e, s') => (.ok (.error e), s')
  | (.stuck, s') => (.stuck, s')

/-- Rewrite the error of `p`. -/
def mapErr (f : ε → ε) (p : Proc L σ ε α) : Proc L σ ε α := fun g s =>
  match p g s with
  | (.ok a, s') => (.ok a, s')
  | (.err e, s') => (.err (f e), s')
  | (.stuck, s') => (.stuck, s')

/-- Look at the state. -/
def look (f : σ → α) : Proc L σ ε α := fun _ s => (.ok (f s), s)

/-- Change the state. -/
def update (f : σ → σ) : Proc L σ ε Unit := fun _ s => (.ok (), f s)

/-- Run `p` under a guard on `l`. -/
def holding [DecidableEq L] (l : L) (m : Mode) (p : Proc L σ ε α) : Proc L σ ε α := fun g s =>
  if Guards.excludes g l m then (.stuck, s) else p ((l, m) :: g) s

/-- `for a in l { f a }`. -/
def each (l : List α) (f : α → Proc L σ ε Unit) : Proc L σ ε Unit :=
  match l with
  | [] => pure ()
  | a :: l => do f a; each l f

/-- `for a in l` with an accumulator. -/
def fold (l : List α) (b : β) (f : β → α → Proc L σ ε β) : Proc L σ ε β :=
  match l with
  | [] => pure b
  | a :: l => do fold l (← f b a) f

/-! ## Running -/

/-- A run by its outcome. -/
theorem run_of_outcome {p : Proc L σ ε α} {g : Guards L} {s : σ} {o : Outcome ε α}
    (h : (p g s).1 = o) : p g s = (o, (p g s).2) :=
  Prod.ext h rfl

@[simp] theorem pure_run (a : α) (g : Guards L) (s : σ) :
    (pure a : Proc L σ ε α) g s = (.ok a, s) := rfl

@[simp] theorem fail_run (e : ε) (g : Guards L) (s : σ) :
    (fail e : Proc L σ ε α) g s = (.err e, s) := rfl

@[simp] theorem look_run (f : σ → α) (g : Guards L) (s : σ) :
    (look f : Proc L σ ε α) g s = (.ok (f s), s) := rfl

@[simp] theorem update_run (f : σ → σ) (g : Guards L) (s : σ) :
    (update f : Proc L σ ε Unit) g s = (.ok (), f s) := rfl

theorem holding_run [DecidableEq L] {l : L} {m : Mode} {g : Guards L}
    (h : Guards.excludes g l m = false) (p : Proc L σ ε α) (s : σ) :
    holding l m p g s = p ((l, m) :: g) s := by
  unfold holding
  rw [if_neg (by rw [h]; exact Bool.false_ne_true)]

theorem bind_run (p : Proc L σ ε α) (f : α → Proc L σ ε β) (g : Guards L) (s : σ) :
    (p >>= f) g s =
      match p g s with
      | (.ok a, s') => f a g s'
      | (.err e, s') => (.err e, s')
      | (.stuck, s') => (.stuck, s') := rfl

/-- A sequence that ends in a value ran both its halves. -/
theorem bind_ok {p : Proc L σ ε α} {f : α → Proc L σ ε β} {g : Guards L} {s s' : σ} {b : β}
    (h : (p >>= f) g s = (.ok b, s')) :
    ∃ a s1, p g s = (.ok a, s1) ∧ f a g s1 = (.ok b, s') := by
  rw [bind_run] at h
  split at h
  · rename_i a s1 hp
    exact ⟨a, s1, hp, h⟩
  · exact absurd h (by simp)
  · exact absurd h (by simp)

theorem bind_of_ok {p : Proc L σ ε α} {f : α → Proc L σ ε β} {g : Guards L} {s t : σ} {a : α}
    (h : p g s = (.ok a, t)) : (p >>= f) g s = f a g t := by
  rw [bind_run, h]

theorem bind_of_err {p : Proc L σ ε α} {f : α → Proc L σ ε β} {g : Guards L} {s t : σ} {e : ε}
    (h : p g s = (.err e, t)) : (p >>= f) g s = (.err e, t) := by
  rw [bind_run, h]

theorem bind_of_stuck {p : Proc L σ ε α} {f : α → Proc L σ ε β} {g : Guards L} {s s1 : σ}
    (h : p g s = (.stuck, s1)) : (p >>= f) g s = (.stuck, s1) := by
  rw [bind_run, h]

/-- Sequences associate. -/
theorem bind_assoc {γ : Type} (p : Proc L σ ε α) (f : α → Proc L σ ε β) (k : β → Proc L σ ε γ) :
    (p >>= f) >>= k = p >>= fun a => f a >>= k := by
  funext g s
  rw [bind_run, bind_run, bind_run]
  rcases p g s with ⟨o, s1⟩
  cases o with
  | ok a => exact (bind_run _ _ _ _).symm
  | err e => rfl
  | stuck => rfl

/-- A sequence cannot end in an error that neither half ends in. -/
theorem bind_ne_err {p : Proc L σ ε α} {f : α → Proc L σ ε β} {g : Guards L} {s : σ} {e : ε}
    (hp : (p g s).1 ≠ .err e) (hf : ∀ a s', (f a g s').1 ≠ .err e) :
    ((p >>= f) g s).1 ≠ .err e := by
  rcases hrun : p g s with ⟨o, s'⟩
  rw [hrun] at hp
  cases o with
  | ok a =>
    rw [bind_of_ok hrun]
    exact hf a s'
  | err e' =>
    rw [bind_of_err hrun]
    exact fun h => hp (congrArg Outcome.err (Outcome.err.inj h))
  | stuck =>
    rw [bind_of_stuck hrun]
    simp

/-- An attempt that saw a value ran to that value. -/
theorem attempt_ok {p : Proc L σ ε α} {g : Guards L} {s s' : σ} {a : α}
    (h : p.attempt g s = (.ok (.ok a), s')) : p g s = (.ok a, s') := by
  unfold attempt at h
  rcases hp : p g s with ⟨o, s1⟩
  rw [hp] at h
  cases o with
  | ok b =>
    simp only [Prod.mk.injEq, Outcome.ok.injEq, Except.ok.injEq] at h
    rw [h.1, h.2]
  | err e => exact absurd h (by simp)
  | stuck => exact absurd h (by simp)

theorem attempt_error {p : Proc L σ ε α} {g : Guards L} {s s' : σ} {e : ε}
    (h : attempt p g s = (.ok (.error e), s')) : p g s = (.err e, s') := by
  unfold attempt at h
  rcases hp : p g s with ⟨o, t⟩
  rw [hp] at h
  cases o with
  | ok a => simp at h
  | err e' =>
    simp only [Prod.mk.injEq, Outcome.ok.injEq, Except.error.injEq] at h
    rw [h.1, h.2]
  | stuck => simp at h

theorem ofExcept_ok {x : Except ε α} {g : Guards L} {s s' : σ} {a : α}
    (h : (ofExcept x : Proc L σ ε α) g s = (.ok a, s')) : x = .ok a := by
  cases x with
  | ok b =>
    simp only [ofExcept, pure_run, Prod.mk.injEq, Outcome.ok.injEq] at h
    rw [h.1]
  | error e => exact absurd h (by simp [ofExcept])

theorem mapErr_ok {p : Proc L σ ε α} {f : ε → ε} {g : Guards L} {s s' : σ} {a : α}
    (h : p.mapErr f g s = (.ok a, s')) : p g s = (.ok a, s') := by
  unfold mapErr at h
  rcases hp : p g s with ⟨o, s1⟩
  rw [hp] at h
  cases o with
  | ok b => exact h
  | err e => exact absurd h (by simp)
  | stuck => exact absurd h (by simp)

theorem attempt_of_stuck {p : Proc L σ ε α} {g : Guards L} {s s' : σ}
    (h : p g s = (.stuck, s')) : attempt p g s = (.stuck, s') := by
  unfold attempt
  rw [h]

theorem mapErr_of_ok {p : Proc L σ ε α} {f : ε → ε} {g : Guards L} {s s' : σ} {a : α}
    (h : p g s = (.ok a, s')) : mapErr f p g s = (.ok a, s') := by
  unfold mapErr
  rw [h]

theorem attempt_of_ok {p : Proc L σ ε α} {g : Guards L} {s s' : σ} {a : α}
    (h : p g s = (.ok a, s')) : p.attempt g s = (.ok (.ok a), s') := by
  unfold attempt
  rw [h]

theorem attempt_of_err {p : Proc L σ ε α} {g : Guards L} {s s' : σ} {e : ε}
    (h : p g s = (.err e, s')) : p.attempt g s = (.ok (.error e), s') := by
  unfold attempt
  rw [h]

/-- Looking at the error of `p` keeps the state it left. -/
theorem attempt_snd (p : Proc L σ ε α) (g : Guards L) (s : σ) :
    (p.attempt g s).2 = (p g s).2 := by
  unfold attempt
  rcases p g s with ⟨o, s'⟩
  cases o <;> rfl

/-- Dropping the result of `p` keeps the state it left. -/
theorem attempt_pure_snd (p : Proc L σ ε α) (b : β) (g : Guards L) (s : σ) :
    ((p.attempt >>= fun _ => pure b) g s).2 = (p g s).2 := by
  rw [bind_run]
  unfold attempt
  rcases p g s with ⟨o, s'⟩
  cases o <;> rfl

/-- A loop over two lists is a loop over the first, then one over the second. -/
theorem fold_append (f : β → α → Proc L σ ε β) (l' : List α) (g : Guards L) :
    ∀ (l : List α) (b : β) (s : σ),
      fold (l ++ l') b f g s = (fold l b f >>= fun b' => fold l' b' f) g s
  | [], _, _ => rfl
  | a :: l, b, s => by
    have hcons (m : List α) : fold (a :: m) b f = f b a >>= fun b' => fold m b' f := rfl
    rw [List.cons_append, hcons, bind_run, bind_run, hcons, bind_run]
    rcases f b a g s with ⟨o, s'⟩
    cases o with
    | ok b' => exact fold_append f l' g l b' s'
    | err e => rfl
    | stuck => rfl

/-- A loop may carry anything of which what it carries is a function. -/
theorem fold_map {γ : Type} {h : β → γ} {f : β → α → Proc L σ ε β} {f' : γ → α → Proc L σ ε γ}
    (hf : ∀ b a, f' (h b) a = f b a >>= fun b => pure (h b)) :
    ∀ (l : List α) (b : β), fold l (h b) f' = fold l b f >>= fun b => pure (h b)
  | [], _ => rfl
  | a :: l, b => by
    show (f' (h b) a >>= fun c => fold l c f') =
      (f b a >>= fun b => fold l b f) >>= fun b => pure (h b)
    rw [hf, bind_assoc, bind_assoc]
    exact congrArg _ (funext fun b => fold_map hf l b)

/-! ## Postconditions -/

/-- Run under `g` from `s`, the process ends in an outcome and a state satisfying `Q`. -/
def Sat (p : Proc L σ ε α) (g : Guards L) (s : σ) (Q : Outcome ε α → σ → Prop) : Prop :=
  Q (p g s).1 (p g s).2

theorem Sat.mono {p : Proc L σ ε α} {g : Guards L} {s : σ} {Q Q' : Outcome ε α → σ → Prop}
    (h : p.Sat g s Q) (hQ : ∀ o s', Q o s' → Q' o s') : p.Sat g s Q' :=
  hQ _ _ h

/-- **The sequence rule**: an error or a block of the first half is the whole's. -/
theorem sat_bind {p : Proc L σ ε α} {f : α → Proc L σ ε β} {g : Guards L} {s : σ}
    {Q : Outcome ε β → σ → Prop}
    (h : p.Sat g s fun o s' =>
      match o with
      | .ok a => (f a).Sat g s' Q
      | .err e => Q (.err e) s'
      | .stuck => Q .stuck s') :
    (p >>= f).Sat g s Q := by
  unfold Sat at h ⊢
  rw [bind_run]
  rcases hp : p g s with ⟨o, s'⟩
  rw [hp] at h
  cases o <;> exact h

/-- What a postcondition says of a run. -/
theorem Sat.of_run {p : Proc L σ ε α} {g : Guards L} {s s' : σ} {o : Outcome ε α}
    {Q : Outcome ε α → σ → Prop} (h : p.Sat g s Q) (hrun : p g s = (o, s')) : Q o s' := by
  unfold Sat at h
  rw [hrun] at h
  exact h

/-- The sequence rule by the runs of the first half. -/
theorem sat_bind_run {p : Proc L σ ε α} {f : α → Proc L σ ε β} {g : Guards L} {s : σ}
    {Q : Outcome ε β → σ → Prop} (hok : ∀ a s', p g s = (.ok a, s') → (f a).Sat g s' Q)
    (herr : ∀ e s', p g s = (.err e, s') → Q (.err e) s')
    (hstuck : ∀ s', p g s = (.stuck, s') → Q .stuck s') : (p >>= f).Sat g s Q := by
  apply sat_bind
  unfold Sat
  rcases hp : p g s with ⟨o, s'⟩
  cases o with
  | ok a => exact hok a s' hp
  | err e => exact herr e s' hp
  | stuck => exact hstuck s' hp

/-- The sequence rule when the run of the first half is known. -/
theorem sat_bind_of_ok {p : Proc L σ ε α} {f : α → Proc L σ ε β} {g : Guards L} {s t : σ} {a : α}
    {Q : Outcome ε β → σ → Prop} (hp : p g s = (.ok a, t)) (hf : (f a).Sat g t Q) :
    (p >>= f).Sat g s Q := by
  unfold Sat
  rw [bind_of_ok hp]
  exact hf

theorem sat_bind_of_err {p : Proc L σ ε α} {f : α → Proc L σ ε β} {g : Guards L} {s s1 : σ} {e : ε}
    {Q : Outcome ε β → σ → Prop} (hp : p g s = (.err e, s1)) (hQ : Q (.err e) s1) :
    (p >>= f).Sat g s Q := by
  unfold Sat
  rw [bind_of_err hp]
  exact hQ

/-- **The attempt rule**: an error comes back as a value. -/
theorem sat_attempt {p : Proc L σ ε α} {g : Guards L} {s : σ}
    {Q : Outcome ε (Except ε α) → σ → Prop}
    (h : p.Sat g s fun o s' =>
      match o with
      | .ok a => Q (.ok (.ok a)) s'
      | .err e => Q (.ok (.error e)) s'
      | .stuck => Q .stuck s') :
    p.attempt.Sat g s Q := by
  unfold Sat at h ⊢
  unfold attempt
  rcases hp : p g s with ⟨o, s'⟩
  rw [hp] at h
  cases o <;> exact h

theorem sat_mapErr {p : Proc L σ ε α} {f : ε → ε} {g : Guards L} {s : σ}
    {Q : Outcome ε α → σ → Prop}
    (h : p.Sat g s fun o s' =>
      match o with
      | .ok a => Q (.ok a) s'
      | .err e => Q (.err (f e)) s'
      | .stuck => Q .stuck s') :
    (mapErr f p).Sat g s Q := by
  unfold Sat at h ⊢
  unfold mapErr
  rcases hp : p g s with ⟨o, s'⟩
  rw [hp] at h
  cases o <;> exact h

/-- **The guard rule**: what the body does under the guard. -/
theorem sat_holding [DecidableEq L] {l : L} {m : Mode} {p : Proc L σ ε α} {g : Guards L} {s : σ}
    {Q : Outcome ε α → σ → Prop} (hl : Guards.excludes g l m = false)
    (h : p.Sat ((l, m) :: g) s Q) : (holding l m p).Sat g s Q := by
  unfold Sat
  rw [holding_run hl]
  exact h

/-- **The loop rule**, with an invariant of the accumulator and the state. -/
theorem sat_fold {f : β → α → Proc L σ ε β} {g : Guards L} {I : β → σ → Prop}
    {Q : Outcome ε β → σ → Prop} (hQ : ∀ b s, I b s → Q (.ok b) s) :
    ∀ (l : List α),
      (∀ b, ∀ a ∈ l, ∀ s, I b s → (f b a).Sat g s fun o s' =>
        match o with
        | .ok b' => I b' s'
        | .err e => Q (.err e) s'
        | .stuck => Q .stuck s') →
      ∀ b s, I b s → (fold l b f).Sat g s Q
  | [], _, b, s, h => hQ b s h
  | a :: l, hf, b, s, h => by
    refine sat_bind ((hf b a List.mem_cons_self s h).mono fun o s' ho => ?_)
    cases o with
    | ok b' => exact sat_fold hQ l (fun b a ha => hf b a (List.mem_cons_of_mem _ ha)) b' s' ho
    | err e => exact ho
    | stuck => exact ho

/-! ## Moving along a preorder -/

/-- Whatever its outcome, the process moves the state along `R`. -/
def Keeps (R : σ → σ → Prop) (p : Proc L σ ε α) : Prop := ∀ g s, R s (p g s).2

section Keeps

variable {R : σ → σ → Prop}

theorem Keeps.mono {R' : σ → σ → Prop} {p : Proc L σ ε α} (h : Keeps R p)
    (hR : ∀ s s', R s s' → R' s s') : Keeps R' p := fun g s => hR _ _ (h g s)

theorem Keeps.sat {p : Proc L σ ε α} (h : Keeps R p) {g : Guards L} {s : σ}
    {Q : Outcome ε α → σ → Prop} (hQ : ∀ o s', R s s' → Q o s') : p.Sat g s Q :=
  hQ _ _ (h g s)

/-- The sequence rule when the first half only moves along `R`. -/
theorem Keeps.sat_bind {p : Proc L σ ε α} {f : α → Proc L σ ε β} (h : Keeps R p) {g : Guards L}
    {s : σ} {Q : Outcome ε β → σ → Prop} (herr : ∀ e s', R s s' → Q (.err e) s')
    (hstuck : ∀ s', R s s' → Q .stuck s')
    (hok : ∀ a s', p g s = (.ok a, s') → R s s' → (f a).Sat g s' Q) : (p >>= f).Sat g s Q := by
  apply Proc.sat_bind
  have hR := h g s
  unfold Sat
  rcases hp : p g s with ⟨o, s'⟩
  rw [hp] at hR
  cases o with
  | ok a => exact hok a s' hp hR
  | err e => exact herr e s' hR
  | stuck => exact hstuck s' hR

variable [IsPreorder σ R]

theorem keeps_pure (a : α) : Keeps R (pure a : Proc L σ ε α) := fun _ s => refl s

theorem keeps_fail (e : ε) : Keeps R (fail e : Proc L σ ε α) := fun _ s => refl s

theorem keeps_look (f : σ → α) : Keeps R (look f : Proc L σ ε α) := fun _ s => refl s

theorem keeps_ofExcept (x : Except ε α) : Keeps R (ofExcept x : Proc L σ ε α) := by
  cases x with
  | ok a => exact keeps_pure a
  | error e => exact keeps_fail e

omit [IsPreorder σ R] in
theorem keeps_update {f : σ → σ} (h : ∀ s, R s (f s)) : Keeps R (update f : Proc L σ ε Unit) :=
  fun _ s => h s

theorem Keeps.bind {p : Proc L σ ε α} {f : α → Proc L σ ε β} (hp : Keeps R p)
    (hf : ∀ a, Keeps R (f a)) : Keeps R (p >>= f) := by
  intro g s
  refine hp.sat_bind (Q := fun _ s' => R s s') (fun _ _ h => h) (fun _ h => h) ?_
  intro a s' _ hR
  exact trans_of R hR (hf a g s')

/-- The sequence rule for one run of the first half. -/
theorem Keeps.after {p : Proc L σ ε α} {f : α → Proc L σ ε β} (hf : ∀ a, Keeps R (f a))
    {g : Guards L} {s : σ} (hp : R s (p g s).2) : R s ((p >>= f) g s).2 := by
  rw [bind_run]
  rcases hps : p g s with ⟨o, s'⟩
  rw [hps] at hp
  cases o with
  | ok a => exact trans_of R hp (hf a g s')
  | err e => exact hp
  | stuck => exact hp

/-- What the second half does to the state that the first half left. -/
theorem Keeps.rest {p : Proc L σ ε α} {f : α → Proc L σ ε β} (hf : ∀ a, Keeps R (f a))
    (g : Guards L) (s : σ) : R (p g s).2 ((p >>= f) g s).2 := by
  rw [Proc.bind_run]
  rcases p g s with ⟨o, s'⟩
  cases o with
  | ok a => exact hf a g s'
  | err e => exact refl s'
  | stuck => exact refl s'

/-- The sequence rule, with what a run of the first half tells of its value. -/
theorem Keeps.bind_run {p : Proc L σ ε α} {f : α → Proc L σ ε β} (hp : Keeps R p)
    (hf : ∀ a, (∃ g s s', p g s = (.ok a, s')) → Keeps R (f a)) : Keeps R (p >>= f) := by
  intro g s
  refine hp.sat_bind (Q := fun _ s' => R s s') (fun _ _ h => h) (fun _ h => h) ?_
  intro a s' hrun hR
  exact trans_of R hR (hf a ⟨g, s, s', hrun⟩ g s')

omit [IsPreorder σ R] in
theorem Keeps.attempt {p : Proc L σ ε α} (hp : Keeps R p) : Keeps R (attempt p) := by
  intro g s
  have h := hp g s
  unfold Proc.attempt
  rcases hps : p g s with ⟨o, s'⟩
  rw [hps] at h
  cases o <;> exact h

omit [IsPreorder σ R] in
theorem Keeps.mapErr {p : Proc L σ ε α} (hp : Keeps R p) (f : ε → ε) : Keeps R (mapErr f p) := by
  intro g s
  have h := hp g s
  unfold Proc.mapErr
  rcases hps : p g s with ⟨o, s'⟩
  rw [hps] at h
  cases o <;> exact h

theorem Keeps.holding [DecidableEq L] {p : Proc L σ ε α} (hp : Keeps R p) (l : L) (m : Mode) :
    Keeps R (holding l m p) := by
  intro g s
  unfold Proc.holding
  split
  · exact refl s
  · exact hp _ s

theorem Keeps.each {f : α → Proc L σ ε Unit} (hf : ∀ a, Keeps R (f a)) :
    ∀ l : List α, Keeps R (each l f)
  | [] => keeps_pure ()
  | a :: l => (hf a).bind fun _ => Keeps.each hf l

theorem Keeps.fold {f : β → α → Proc L σ ε β} :
    ∀ (l : List α), (∀ b, ∀ a ∈ l, Keeps R (f b a)) → ∀ b : β, Keeps R (fold l b f)
  | [], _, b => keeps_pure b
  | a :: l, hf, b => (hf b a List.mem_cons_self).bind fun b' =>
      Keeps.fold l (fun b a ha => hf b a (List.mem_cons_of_mem _ ha)) b'

end Keeps

/-! ## Never blocking -/

/-- Started under the guards `g`, the process never gets stuck. -/
def Frees (g : Guards L) (p : Proc L σ ε α) : Prop := ∀ s, (p g s).1 ≠ .stuck

section Frees

variable {g : Guards L}

theorem frees_pure (a : α) : Frees g (pure a : Proc L σ ε α) := fun _ => by simp

theorem frees_fail (e : ε) : Frees g (fail e : Proc L σ ε α) := fun _ => by simp

theorem frees_look (f : σ → α) : Frees g (look f : Proc L σ ε α) := fun _ => by simp

theorem frees_update (f : σ → σ) : Frees g (update f : Proc L σ ε Unit) := fun _ => by simp

theorem frees_ofExcept (x : Except ε α) : Frees g (ofExcept x : Proc L σ ε α) := by
  cases x with
  | ok a => exact frees_pure a
  | error e => exact frees_fail e

theorem Frees.bind {p : Proc L σ ε α} {f : α → Proc L σ ε β} (hp : Frees g p)
    (hf : ∀ a, Frees g (f a)) : Frees g (p >>= f) := by
  intro s
  have h := hp s
  rw [bind_run]
  rcases hps : p g s with ⟨o, s'⟩
  rw [hps] at h
  cases o with
  | ok a => exact hf a s'
  | err e => simp
  | stuck => exact absurd rfl h

theorem Frees.attempt {p : Proc L σ ε α} (hp : Frees g p) : Frees g (attempt p) := by
  intro s
  have h := hp s
  unfold Proc.attempt
  rcases hps : p g s with ⟨o, s'⟩
  rw [hps] at h
  cases o with
  | ok a => simp
  | err e => simp
  | stuck => exact absurd rfl h

/-- An attempt of a process that never gets stuck ends in a value. -/
theorem Frees.attempt_run {p : Proc L σ ε α} (hp : Frees g p) (s : σ) :
    ∃ r s', p.attempt g s = (.ok r, s') := by
  have h := hp s
  unfold Proc.attempt
  rcases hps : p g s with ⟨o, s'⟩
  rw [hps] at h
  cases o with
  | ok a => exact ⟨_, _, rfl⟩
  | err e => exact ⟨_, _, rfl⟩
  | stuck => exact absurd rfl h

theorem Frees.mapErr {p : Proc L σ ε α} (hp : Frees g p) (f : ε → ε) : Frees g (mapErr f p) := by
  intro s
  have h := hp s
  unfold Proc.mapErr
  rcases hps : p g s with ⟨o, s'⟩
  rw [hps] at h
  cases o with
  | ok a => simp
  | err e => simp
  | stuck => exact absurd rfl h

/-- **A sequence gets stuck where its second half does**, if its first half is free. -/
theorem Frees.bind_stuck_iff {p : Proc L σ ε α} {f : α → Proc L σ ε β} (hp : Frees g p) (s : σ) :
    ((p >>= f) g s).1 = .stuck ↔ ∃ a s1, p g s = (.ok a, s1) ∧ (f a g s1).1 = .stuck := by
  have h := hp s
  rw [bind_run]
  rcases hps : p g s with ⟨o, s'⟩
  rw [hps] at h
  cases o with
  | ok a =>
    refine ⟨fun hf => ⟨a, s', rfl, hf⟩, fun ⟨a', s1, heq, hf⟩ => ?_⟩
    simp only [Prod.mk.injEq, Outcome.ok.injEq] at heq
    obtain ⟨rfl, rfl⟩ := heq
    exact hf
  | err e => simp
  | stuck => exact absurd rfl h

/-- **Looking at the error of `p` does not free it.** -/
theorem attempt_bind_stuck_iff {p : Proc L σ ε α} {f : Except ε α → Proc L σ ε β}
    (hf : ∀ r, Frees g (f r)) (s : σ) :
    ((p.attempt >>= f) g s).1 = .stuck ↔ (p g s).1 = .stuck := by
  rw [bind_run]
  unfold Proc.attempt
  rcases p g s with ⟨o, s'⟩
  cases o with
  | ok a => simp [hf (.ok a) s']
  | err e => simp [hf (.error e) s']
  | stuck => simp

/-- Dropping the error of `p`, a process cannot end in it. -/
theorem attempt_pure_ne_err (p : Proc L σ ε α) (b : β) (s : σ) (e : ε) :
    ((p.attempt >>= fun _ => pure b) g s).1 ≠ .err e := by
  rw [bind_run]
  unfold Proc.attempt
  rcases p g s with ⟨o, s'⟩
  cases o <;> simp

/-- **The guard rule**: no guard held excludes the new one, and the body is free under it. -/
theorem Frees.holding [DecidableEq L] {l : L} {m : Mode} {p : Proc L σ ε α}
    (hl : Guards.excludes g l m = false) (hp : Frees ((l, m) :: g) p) :
    Frees g (holding l m p) := by
  intro s
  unfold Proc.holding
  rw [if_neg (by rw [hl]; exact Bool.false_ne_true)]
  exact hp s

theorem Frees.each {f : α → Proc L σ ε Unit} (hf : ∀ a, Frees g (f a)) :
    ∀ l : List α, Frees g (each l f)
  | [] => frees_pure ()
  | a :: l => (hf a).bind fun _ => Frees.each hf l

theorem Frees.fold {f : β → α → Proc L σ ε β} :
    ∀ (l : List α), (∀ b, ∀ a ∈ l, Frees g (f b a)) → ∀ b : β, Frees g (fold l b f)
  | [], _, b => frees_pure b
  | a :: l, hf, b => (hf b a List.mem_cons_self).bind fun b' =>
      Frees.fold l (fun b a ha => hf b a (List.mem_cons_of_mem _ ha)) b'

end Frees

/-! ## Ending in a value -/

/-- Started under the guards `g`, the process ends in a value. -/
def Total (g : Guards L) (p : Proc L σ ε α) : Prop := ∀ s, ∃ a s', p g s = (.ok a, s')

section Total

variable {g : Guards L}

theorem Total.ne_err {p : Proc L σ ε α} (h : Total g p) (s : σ) (e : ε) : (p g s).1 ≠ .err e := by
  obtain ⟨a, s', hrun⟩ := h s
  rw [hrun]
  simp

theorem total_pure (a : α) : Total g (pure a : Proc L σ ε α) := fun s => ⟨a, s, rfl⟩

theorem total_look (f : σ → α) : Total g (look f : Proc L σ ε α) := fun s => ⟨f s, s, rfl⟩

theorem total_update (f : σ → σ) : Total g (update f : Proc L σ ε Unit) :=
  fun s => ⟨(), f s, rfl⟩

theorem Frees.total_attempt {p : Proc L σ ε α} (hp : Frees g p) : Total g p.attempt :=
  hp.attempt_run

theorem Total.bind {p : Proc L σ ε α} {f : α → Proc L σ ε β} (hp : Total g p)
    (hf : ∀ a, Total g (f a)) : Total g (p >>= f) := by
  intro s
  obtain ⟨a, s1, h1⟩ := hp s
  obtain ⟨b, s2, h2⟩ := hf a s1
  exact ⟨b, s2, (bind_of_ok h1).trans h2⟩

/-- What goes on without failing ends where its start does. -/
theorem Total.bind_ok_iff {p : Proc L σ ε α} {f : α → Proc L σ ε β} (hf : ∀ a, Total g (f a))
    (s : σ) :
    (∃ b s', (p >>= f) g s = (.ok b, s')) ↔ ∃ a s1, p g s = (.ok a, s1) := by
  constructor
  · rintro ⟨b, s', h⟩
    obtain ⟨a, s1, ha, -⟩ := bind_ok h
    exact ⟨a, s1, ha⟩
  · rintro ⟨a, s1, ha⟩
    obtain ⟨b, s', hb⟩ := hf a s1
    exact ⟨b, s', (bind_of_ok ha).trans hb⟩

theorem Total.holding [DecidableEq L] {l : L} {m : Mode} {p : Proc L σ ε α}
    (hl : Guards.excludes g l m = false) (hp : Total ((l, m) :: g) p) :
    Total g (holding l m p) := by
  intro s
  unfold Proc.holding
  rw [if_neg (by rw [hl]; exact Bool.false_ne_true)]
  exact hp s

theorem Total.fold {f : β → α → Proc L σ ε β} (hf : ∀ b a, Total g (f b a)) :
    ∀ (l : List α) (b : β), Total g (fold l b f)
  | [], b => total_pure b
  | a :: l, b => (hf b a).bind fun b' => Total.fold hf l b'

end Total

/-! ## Both -/

/-- Under the guards `g` the process never gets stuck, and it only moves along `R`. -/
structure Calm (g : Guards L) (R : σ → σ → Prop) (p : Proc L σ ε α) : Prop where
  frees : Frees g p
  keeps : Keeps R p

section Calm

variable {g : Guards L} {R : σ → σ → Prop}

theorem Calm.mono {R' : σ → σ → Prop} {p : Proc L σ ε α} (h : Calm g R p)
    (hR : ∀ s s', R s s' → R' s s') : Calm g R' p :=
  ⟨h.frees, h.keeps.mono hR⟩

theorem Calm.sat {p : Proc L σ ε α} (h : Calm g R p) {s : σ} {Q : Outcome ε α → σ → Prop}
    (hQ : ∀ o s', o ≠ .stuck → R s s' → Q o s') : p.Sat g s Q :=
  hQ _ _ (h.frees s) (h.keeps g s)

theorem Calm.of_run {p : Proc L σ ε α} (h : Calm g R p) {s s' : σ} {o : Outcome ε α}
    (hrun : p g s = (o, s')) : o ≠ .stuck ∧ R s s' :=
  Sat.of_run (Q := fun o s' => o ≠ .stuck ∧ R s s') ⟨h.frees s, h.keeps g s⟩ hrun

/-- The sequence rule when the first half is calm: only its error can be the whole's. -/
theorem Calm.sat_bind {p : Proc L σ ε α} {f : α → Proc L σ ε β} (h : Calm g R p) {s : σ}
    {Q : Outcome ε β → σ → Prop} (herr : ∀ e s', R s s' → Q (.err e) s')
    (hok : ∀ a s', p g s = (.ok a, s') → R s s' → (f a).Sat g s' Q) : (p >>= f).Sat g s Q := by
  apply Proc.sat_bind
  have hR := h.keeps g s
  have hF := h.frees s
  unfold Sat
  rcases hp : p g s with ⟨o, s'⟩
  rw [hp] at hR hF
  cases o with
  | ok a => exact hok a s' hp hR
  | err e => exact herr e s' hR
  | stuck => exact absurd rfl hF

/-- The sequence rule after an attempt of a calm process, which only returns. -/
theorem Calm.sat_attempt_bind {p : Proc L σ ε α} {f : Except ε α → Proc L σ ε β}
    (h : Calm g R p) {s : σ} {Q : Outcome ε β → σ → Prop}
    (hok : ∀ r s', p.attempt g s = (.ok r, s') → R s s' → (f r).Sat g s' Q) :
    (p.attempt >>= f).Sat g s Q := by
  obtain ⟨r, s', hrun⟩ := h.frees.attempt_run s
  have hR := h.keeps.attempt g s
  rw [hrun] at hR
  unfold Sat
  rw [bind_of_ok hrun]
  exact hok r s' hrun hR

theorem calm_update {f : σ → σ} (h : ∀ s, R s (f s)) :
    Calm g R (update f : Proc L σ ε Unit) :=
  ⟨frees_update f, keeps_update h⟩

theorem Calm.attempt {p : Proc L σ ε α} (hp : Calm g R p) : Calm g R p.attempt :=
  ⟨hp.frees.attempt, hp.keeps.attempt⟩

theorem Calm.mapErr {p : Proc L σ ε α} (hp : Calm g R p) (f : ε → ε) : Calm g R (mapErr f p) :=
  ⟨hp.frees.mapErr f, hp.keeps.mapErr f⟩

variable [IsPreorder σ R]

theorem calm_pure (a : α) : Calm g R (pure a : Proc L σ ε α) := ⟨frees_pure a, keeps_pure a⟩

theorem calm_fail (e : ε) : Calm g R (fail e : Proc L σ ε α) := ⟨frees_fail e, keeps_fail e⟩

theorem calm_look (f : σ → α) : Calm g R (look f : Proc L σ ε α) :=
  ⟨frees_look f, keeps_look f⟩

theorem calm_ofExcept (x : Except ε α) : Calm g R (ofExcept x : Proc L σ ε α) :=
  ⟨frees_ofExcept x, keeps_ofExcept x⟩

theorem Calm.bind {p : Proc L σ ε α} {f : α → Proc L σ ε β} (hp : Calm g R p)
    (hf : ∀ a, Calm g R (f a)) : Calm g R (p >>= f) :=
  ⟨hp.frees.bind fun a => (hf a).frees, hp.keeps.bind fun a => (hf a).keeps⟩

theorem Calm.holding [DecidableEq L] {l : L} {m : Mode} {p : Proc L σ ε α}
    (hl : Guards.excludes g l m = false) (hp : Calm ((l, m) :: g) R p) :
    Calm g R (holding l m p) :=
  ⟨hp.frees.holding hl, hp.keeps.holding l m⟩

theorem Calm.each {f : α → Proc L σ ε Unit} (hf : ∀ a, Calm g R (f a)) (l : List α) :
    Calm g R (each l f) :=
  ⟨Frees.each (fun a => (hf a).frees) l, Keeps.each (fun a => (hf a).keeps) l⟩

theorem Calm.fold {f : β → α → Proc L σ ε β} {l : List α} (hf : ∀ b, ∀ a ∈ l, Calm g R (f b a))
    (b : β) : Calm g R (fold l b f) :=
  ⟨Frees.fold l (fun b a ha => (hf b a ha).frees) b,
    Keeps.fold l (fun b a ha => (hf b a ha).keeps) b⟩

end Calm

end Proc

end Lib
