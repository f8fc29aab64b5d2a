/-!
# A content-addressed store behind calls that can fail

What an address denotes never changes: that is content addressing. What changes from call to call
is whether the call gets through. The client numbers its calls, and a store answers the `n`-th
call; an answer that is not an error agrees with what the addresses denote. So gets and puts agree
with each other, whatever else failed in between.

`ofList` is the store that holds exactly the listed values and answers every call about them,
`failingAt` a store that does not answer one get, `failingFrom` one whose gets no longer get through
from some call on.
-/

namespace Lib

/-- A content-addressed store of `Val` under `Addr`. -/
structure ContentStore (Addr Val Err : Type) where
  /-- The value an address denotes. -/
  denotes : Addr → Option Val
  /-- The answer to the `n`-th call, when it fetches an address. -/
  get : Nat → Addr → Except Err Val
  /-- The answer to the `n`-th call, when it stores a value. -/
  put : Nat → Val → Except Err Addr
  get_denotes : ∀ {n a v}, get n a = .ok v → denotes a = some v
  put_denotes : ∀ {n v a}, put n v = .ok a → denotes a = some v

namespace ContentStore

variable {Addr Val Err : Type}

/-- The store of the listed values. Every get of a listed address and every put of a listed value
gets through; any other call fails with `e`. -/
def ofList [DecidableEq Addr] [DecidableEq Val] (l : List (Addr × Val)) (e : Err) :
    ContentStore Addr Val Err where
  denotes a := l.lookup a
  get _ a := match l.lookup a with
    | some v => .ok v
    | none => .error e
  put _ v := match l.find? fun p => p.2 = v && l.lookup p.1 = some v with
    | some p => .ok p.1
    | none => .error e
  get_denotes := by
    intro _ a v h
    cases hl : l.lookup a with
    | none => rw [hl] at h; exact absurd h (by simp)
    | some w => rw [hl] at h; exact congrArg some (Except.ok.inj h)
  put_denotes := by
    intro _ v a h
    split at h
    · rename_i p hf
      have hp := List.find?_some hf
      simp only [Bool.and_eq_true, decide_eq_true_eq] at hp
      exact Except.ok.inj h ▸ hp.2
    · exact absurd h (by simp)

theorem ofList_get [DecidableEq Addr] [DecidableEq Val] {l : List (Addr × Val)} {e : Err}
    {a : Addr} {v : Val} (h : l.lookup a = some v) (n : Nat) : (ofList l e).get n a = .ok v := by
  simp only [ofList]
  rw [h]

theorem ofList_put_singleton [DecidableEq Addr] [DecidableEq Val] (a : Addr) (v : Val) (e : Err)
    (n : Nat) : (ofList [(a, v)] e).put n v = .ok a := by
  simp [ofList]

/-- The store whose `n`-th call fails with `e`, if it is a get. -/
def failingAt (S : ContentStore Addr Val Err) (n : Nat) (e : Err) : ContentStore Addr Val Err :=
  { S with
    get := fun k a => if k = n then .error e else S.get k a
    get_denotes := by
      intro k a v h
      split at h
      · exact absurd h (by simp)
      · exact S.get_denotes h }

/-- The store whose gets fail with `e` from call `n` on. -/
def failingFrom (S : ContentStore Addr Val Err) (n : Nat) (e : Err) : ContentStore Addr Val Err :=
  { S with
    get := fun k a => if k < n then S.get k a else .error e
    get_denotes := by
      intro k a v h
      split at h
      · exact S.get_denotes h
      · exact absurd h (by simp) }

end ContentStore

end Lib
