import Mathlib.Order.Lattice

/-!
# Maps as association lists sorted by key

The entries of an ordered map, by ascending key. A tree whose branches are maps of subtrees can
be an inductive type over these lists, which it cannot be over a quotient. `List.lookup` reads;
`insert` and `erase` are the map's own, and a lookup sees them as it should whether or not the
list is sorted (`lookup_insert`, `lookup_erase`). They keep an ascending list ascending, and
ascending lists are equal when their lookups are (`ext`).
-/

namespace Lib.Sorted

variable {K V : Type} [LinearOrder K]

/-- Write `v` under `k`. -/
def insert (k : K) (v : V) : List (K × V) → List (K × V)
  | [] => [(k, v)]
  | (k', v') :: rest =>
    if k < k' then (k, v) :: (k', v') :: rest
    else if k = k' then (k, v) :: rest
    else (k', v') :: insert k v rest

/-- Remove what is under `k`. -/
def erase (k : K) (l : List (K × V)) : List (K × V) := l.filter fun e => e.1 ≠ k

theorem lookup_cons (k k' : K) (v : V) (l : List (K × V)) :
    ((k, v) :: l).lookup k' = if k' = k then some v else l.lookup k' := by
  rw [List.lookup_cons]
  by_cases h : k' = k
  · simp [h]
  · simp [beq_false_of_ne h, h]

theorem lookup_insert (k k' : K) (v : V) :
    ∀ l : List (K × V), (insert k v l).lookup k' = if k' = k then some v else l.lookup k'
  | [] => lookup_cons k k' v []
  | (k1, v1) :: rest => by
    unfold insert
    split
    · exact lookup_cons k k' v _
    · split
      · rename_i h1
        subst h1
        by_cases h : k' = k <;> simp only [lookup_cons, h, if_true, if_false]
      · rename_i h1
        rw [lookup_cons, lookup_cons, lookup_insert k k' v rest]
        by_cases h : k' = k1
        · simp [h, Ne.symm h1]
        · simp [h]

theorem lookup_erase (k k' : K) :
    ∀ l : List (K × V), (erase k l).lookup k' = if k' = k then none else l.lookup k'
  | [] => by simp [erase]
  | (k1, v1) :: rest => by
    have ih := lookup_erase k k' rest
    unfold erase at ih ⊢
    by_cases h1 : k1 = k
    · rw [List.filter_cons_of_neg (by simp [h1]), ih, lookup_cons]
      by_cases h : k' = k <;> simp [h, h1]
    · rw [List.filter_cons_of_pos (by simp [h1]), lookup_cons, lookup_cons, ih]
      by_cases h : k' = k1
      · simp [h, h1]
      · simp [h]

theorem mem_insert {k : K} {v : V} {e : K × V} {l : List (K × V)} (h : e ∈ insert k v l) :
    e = (k, v) ∨ e ∈ l := by
  induction l with
  | nil => exact .inl (List.mem_singleton.mp h)
  | cons e' rest ih =>
    obtain ⟨k', v'⟩ := e'
    unfold insert at h
    split at h
    · exact List.mem_cons.mp h
    · split at h
      · rcases List.mem_cons.mp h with h | h
        · exact .inl h
        · exact .inr (List.mem_cons_of_mem _ h)
      · rcases List.mem_cons.mp h with h | h
        · exact .inr (h ▸ List.mem_cons_self)
        · exact (ih h).imp_right (List.mem_cons_of_mem _)

theorem insert_ne_nil (k : K) (v : V) (l : List (K × V)) : insert k v l ≠ [] := by
  intro h
  have hlookup := lookup_insert k k v l
  rw [h, if_pos rfl] at hlookup
  exact absurd hlookup (by simp)

theorem mem_of_lookup {k : K} {v : V} {l : List (K × V)} (h : l.lookup k = some v) :
    (k, v) ∈ l := by
  induction l with
  | nil => exact absurd h (by simp)
  | cons e rest ih =>
    obtain ⟨k', v'⟩ := e
    rw [lookup_cons] at h
    split at h
    · rename_i heq
      subst heq
      obtain rfl := Option.some.inj h
      exact List.mem_cons_self
    · exact List.mem_cons_of_mem _ (ih h)

/-! ## Ascending lists -/

/-- Sorted strictly by key. -/
def Ascending (l : List (K × V)) : Prop := l.Pairwise fun e e' => e.1 < e'.1

theorem ascending_nil : Ascending ([] : List (K × V)) := List.Pairwise.nil

theorem ascending_cons {e : K × V} {l : List (K × V)} :
    Ascending (e :: l) ↔ (∀ e' ∈ l, e.1 < e'.1) ∧ Ascending l := List.pairwise_cons

theorem Ascending.insert {k : K} {v : V} {l : List (K × V)} (h : Ascending l) :
    Ascending (insert k v l) := by
  induction l with
  | nil => exact ascending_cons.mpr ⟨fun _ he => absurd he List.not_mem_nil, ascending_nil⟩
  | cons e rest ih =>
    obtain ⟨k', v'⟩ := e
    obtain ⟨hhead, hrest⟩ := ascending_cons.mp h
    unfold Lib.Sorted.insert
    split
    · rename_i hlt
      refine ascending_cons.mpr ⟨fun e' he' => ?_, h⟩
      rcases List.mem_cons.mp he' with rfl | he'
      · exact hlt
      · exact hlt.trans (hhead e' he')
    · split
      · rename_i heq
        subst heq
        exact ascending_cons.mpr ⟨hhead, hrest⟩
      · rename_i hlt hne
        refine ascending_cons.mpr ⟨fun e' he' => ?_, ih hrest⟩
        rcases mem_insert he' with rfl | he'
        · exact lt_of_le_of_ne (not_lt.mp hlt) (Ne.symm hne)
        · exact hhead e' he'

theorem Ascending.erase {k : K} {l : List (K × V)} (h : Ascending l) : Ascending (erase k l) :=
  List.Pairwise.filter _ h

theorem Ascending.lookup_of_mem {k : K} {v : V} {l : List (K × V)} (h : Ascending l)
    (hmem : (k, v) ∈ l) : l.lookup k = some v := by
  induction l with
  | nil => exact absurd hmem List.not_mem_nil
  | cons e rest ih =>
    obtain ⟨k', v'⟩ := e
    obtain ⟨hhead, hrest⟩ := ascending_cons.mp h
    rw [lookup_cons]
    rcases List.mem_cons.mp hmem with heq | hmem
    · obtain ⟨rfl, rfl⟩ := Prod.mk.inj heq
      rw [if_pos rfl]
    · have hlt : k' < k := hhead (k, v) hmem
      rw [if_neg hlt.ne', ih hrest hmem]

/-- A key above all others goes last. -/
theorem insert_last {k : K} {v : V} {l : List (K × V)} (h : ∀ e ∈ l, e.1 < k) :
    Lib.Sorted.insert k v l = l ++ [(k, v)] := by
  induction l with
  | nil => rfl
  | cons e rest ih =>
    obtain ⟨k', v'⟩ := e
    have hlt : k' < k := h (k', v') List.mem_cons_self
    unfold Lib.Sorted.insert
    rw [if_neg (lt_asymm hlt), if_neg hlt.ne', ih fun e he => h e (List.mem_cons_of_mem _ he)]
    rfl

/-- Below the head's key, the tail holds nothing. -/
theorem Ascending.lookup_tail {k : K} {e : K × V} {l : List (K × V)} (h : Ascending (e :: l))
    (hk : k ≤ e.1) : l.lookup k = none := by
  cases hlookup : l.lookup k with
  | none => rfl
  | some v => exact absurd ((ascending_cons.mp h).1 _ (mem_of_lookup hlookup)) (not_lt.mpr hk)

/-- **Ascending lists with equal lookups are equal.** -/
theorem Ascending.ext {l l' : List (K × V)} (h : Ascending l) (h' : Ascending l')
    (hlookup : ∀ k, l.lookup k = l'.lookup k) : l = l' := by
  induction l generalizing l' with
  | nil =>
    cases l' with
    | nil => rfl
    | cons e' rest' =>
      have hhead := hlookup e'.1
      rw [h'.lookup_of_mem List.mem_cons_self] at hhead
      exact absurd hhead (by simp)
  | cons e rest ih =>
    cases l' with
    | nil =>
      have hhead := hlookup e.1
      rw [h.lookup_of_mem List.mem_cons_self] at hhead
      exact absurd hhead (by simp)
    | cons e' rest' =>
      obtain ⟨k, v⟩ := e
      obtain ⟨k', v'⟩ := e'
      -- Each head is found in the other list, so neither key is below the other.
      have hmem : (k, v) ∈ (k', v') :: rest' := by
        refine mem_of_lookup ?_
        rw [← hlookup, h.lookup_of_mem List.mem_cons_self]
      have hmem' : (k', v') ∈ (k, v) :: rest := by
        refine mem_of_lookup ?_
        rw [hlookup, h'.lookup_of_mem List.mem_cons_self]
      have heq : (k, v) = (k', v') := by
        rcases List.mem_cons.mp hmem with heq | hlater
        · exact heq
        · rcases List.mem_cons.mp hmem' with heq | hlater'
          · exact heq.symm
          · have hlt : k' < k := (ascending_cons.mp h').1 _ hlater
            have hlt' : k < k' := (ascending_cons.mp h).1 _ hlater'
            exact absurd hlt' (lt_asymm hlt)
      obtain ⟨rfl, rfl⟩ := Prod.mk.inj heq
      refine congrArg _ (ih (ascending_cons.mp h).2 (ascending_cons.mp h').2 fun k1 => ?_)
      by_cases hk : k1 = k
      · rw [hk, h.lookup_tail le_rfl, h'.lookup_tail le_rfl]
      · have hboth := hlookup k1
        rwa [lookup_cons, lookup_cons, if_neg hk, if_neg hk] at hboth

end Lib.Sorted
