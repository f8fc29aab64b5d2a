/-!
# Guest calls that talk to their host

`Interaction Op Ans α` is one call into a guest: it asks the host for operations and goes on with
the answers, until it is done. An operation the host refuses ends the call with the value the
guest left for that case, as a trap ends a Wasm export. `run` plays the call against a host with a
state, `trace` lists the operations the host answered; what every operation keeps, the whole call
keeps (`run_keeps`), and a part of the state that moves by answered operations moves along the trace
(`run_foldl`). A host that answers alike on a changed state plays the call alike (`run_map`).
`Makes` says which operations a call asks for as long as they are answered, and nothing of a
refused one; `Makes.run` plays it.
-/

namespace Lib

/-- A call that ends after finitely many host operations. -/
inductive Interaction (Op Ans α : Type) where
  | done (a : α)
  | call (op : Op) (onTrap : α) (next : Ans → Interaction Op Ans α)

namespace Interaction

variable {Op Ans α σ : Type}

/-- Play the call against the host. -/
def run (host : Op → σ → Option Ans × σ) : Interaction Op Ans α → σ → α × σ
  | .done a, s => (a, s)
  | .call op onTrap next, s =>
    match host op s with
    | (some ans, s') => run host (next ans) s'
    | (none, s') => (onTrap, s')

/-- **What every operation keeps, the call keeps.** -/
theorem run_keeps {host : Op → σ → Option Ans × σ} {R : σ → σ → Prop} (hrefl : ∀ s, R s s)
    (htrans : ∀ s1 s2 s3, R s1 s2 → R s2 s3 → R s1 s3) (hop : ∀ op s, R s (host op s).2) :
    ∀ (t : Interaction Op Ans α) (s : σ), R s (run host t s).2
  | .done _, s => hrefl s
  | .call op _ next, s => by
    have h := hop op s
    unfold run
    rcases hh : host op s with ⟨ans, s'⟩
    rw [hh] at h
    cases ans with
    | none => exact h
    | some a => exact htrans _ _ _ h (run_keeps hrefl htrans hop (next a) s')

/-- **A change of the state that the host's answers do not see**, and that each operation keeps, is
not seen by the call and kept. -/
theorem run_map {host : Op → σ → Option Ans × σ} {f : σ → σ}
    (hop : ∀ op s, host op (f s) = ((host op s).1, f (host op s).2)) :
    ∀ (t : Interaction Op Ans α) (s : σ),
      run host t (f s) = ((run host t s).1, f (run host t s).2)
  | .done _, _ => rfl
  | .call op _ next, s => by
    unfold run
    rw [hop op s]
    rcases host op s with ⟨ans, s'⟩
    cases ans with
    | none => rfl
    | some a => exact run_map hop (next a) s'

/-- The operations the host answered, in order. -/
def trace (host : Op → σ → Option Ans × σ) : Interaction Op Ans α → σ → List Op
  | .done _, _ => []
  | .call op _ next, s =>
    match host op s with
    | (some ans, s') => op :: trace host (next ans) s'
    | (none, _) => []

/-- **A part of the host's state follows the trace**: each answered operation moves it by `move`,
and a refused one leaves it. -/
theorem run_foldl {τ : Type} {host : Op → σ → Option Ans × σ} {p : σ → τ} {move : τ → Op → τ}
    (hans : ∀ op s ans s', host op s = (some ans, s') → p s' = move (p s) op)
    (hrefused : ∀ op s s', host op s = (none, s') → p s' = p s) :
    ∀ (t : Interaction Op Ans α) (s : σ),
      p (run host t s).2 = (trace host t s).foldl move (p s)
  | .done _, _ => rfl
  | .call op _ next, s => by
    unfold run trace
    rcases hh : host op s with ⟨ans, s'⟩
    cases ans with
    | none => exact hrefused op s s' hh
    | some a =>
      have h := run_foldl hans hrefused (next a) s'
      rw [hans op s a s' hh] at h
      exact h

/-- The call asks for these operations in turn, as long as each is answered, and is then done with
`a`. What a refused operation leaves is open. -/
inductive Makes (a : α) : List Op → Interaction Op Ans α → Prop where
  | done : Makes a [] (.done a)
  | call {op : Op} {ops : List Op} {onTrap : α} {next : Ans → Interaction Op Ans α}
      (h : ∀ ans, Makes a ops (next ans)) : Makes a (op :: ops) (.call op onTrap next)

/-- The host's state after these operations, if it answers each of them. -/
def answered (host : Op → σ → Option Ans × σ) : List Op → σ → Option σ
  | [], s => some s
  | op :: ops, s =>
    match host op s with
    | (some _, s') => answered host ops s'
    | (none, _) => none

/-- **A call whose operations are all answered** is done as it says. -/
theorem Makes.run {host : Op → σ → Option Ans × σ} {a : α} {ops : List Op}
    {t : Interaction Op Ans α} (h : Makes a ops t) {s s' : σ}
    (hanswered : answered host ops s = some s') : t.run host s = (a, s') := by
  induction h generalizing s with
  | done =>
    obtain rfl := Option.some.inj hanswered
    rfl
  | @call op ops onTrap next _ ih =>
    unfold Interaction.run
    unfold answered at hanswered
    rcases hop : host op s with ⟨ans, s1⟩
    rw [hop] at hanswered
    cases ans with
    | none => exact absurd hanswered (by simp)
    | some ans => exact ih ans hanswered

/-- A call that asks for the operations. -/
def ofOps (a onTrap : α) : List Op → Interaction Op Ans α
  | [] => .done a
  | op :: ops => .call op onTrap fun _ => ofOps a onTrap ops

theorem makes_ofOps (a onTrap : α) : ∀ ops : List Op,
    Makes a ops (ofOps a onTrap ops : Interaction Op Ans α)
  | [] => .done
  | _ :: ops => .call fun _ => makes_ofOps a onTrap ops

end Interaction

end Lib
