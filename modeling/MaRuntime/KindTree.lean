import Mathlib.Data.List.DropRight
import MaRuntime.Entity

/-!
# The kinds tree

What is bound after a write, and what the enumeration of a tree lists.

* `kindTreeGet_insert_of_not_isPrefix`, `kindTreeGet_remove_of_not_isPrefix`: a write at a path
  keeps what is not below the path; what is below is lost.
* `segments_protocolId`: the ID of a path, as the enumeration writes it, names the path.
-/

namespace MaRuntime

/-! ## Reading a tree -/

theorem kindTreeGet_congr {key : String} {map map' : List (String × KindTreeNode)}
    (h : map.lookup key = map'.lookup key) (rest : List String) :
    kindTreeGet (key :: rest) map = kindTreeGet (key :: rest) map' := by
  cases rest <;> simp only [kindTreeGet, h]

theorem kindTreeGet_branch {key : String} {map inner : List (String × KindTreeNode)}
    (h : map.lookup key = some (.branch inner)) (rest : List String) :
    kindTreeGet (key :: rest) map = kindTreeGet rest inner := by
  cases rest <;> simp only [kindTreeGet, h]

theorem kindTreeGet_none {key : String} {map : List (String × KindTreeNode)}
    (h : map.lookup key = none) (rest : List String) : kindTreeGet (key :: rest) map = none := by
  cases rest <;> simp only [kindTreeGet, h]

theorem kindTreeGet_nil (path : List String) : kindTreeGet path [] = none := by
  cases path with
  | nil => rfl
  | cons key rest => exact kindTreeGet_none rfl rest

/-- Removing a path of the kinds tree binds nothing. -/
theorem kindTreeGet_remove {link : IpldLink} : ∀ (path path' : List String)
    {map : List (String × KindTreeNode)},
    kindTreeGet path' (kindTreeRemove path map).1 = some link → kindTreeGet path' map = some link
  | [], _, _, h => h
  | _ :: _, [], _, h => absurd h (by simp [kindTreeGet])
  | [key], key' :: rest', map, h => by
    have hlookup := Lib.Sorted.lookup_erase key key' map
    by_cases hkey : key' = key
    · rw [if_pos hkey] at hlookup
      exact absurd h (by rw [kindTreeRemove, kindTreeGet_none hlookup]; simp)
    · rw [if_neg hkey] at hlookup
      rwa [kindTreeRemove, kindTreeGet_congr hlookup] at h
  | key :: k2 :: rest, key' :: rest', map, h => by
    unfold kindTreeRemove at h
    cases hinner : map.lookup key with
    | none => simpa only [hinner] using h
    | some node =>
      cases node with
      | leaf _ => simpa only [hinner] using h
      | branch inner =>
        simp only [hinner] at h
        split at h
        · have hlookup := Lib.Sorted.lookup_erase key key' map
          by_cases hkey : key' = key
          · rw [if_pos hkey] at hlookup
            exact absurd h (by rw [kindTreeGet_none hlookup]; simp)
          · rw [if_neg hkey] at hlookup
            rwa [kindTreeGet_congr hlookup] at h
        · have hlookup := Lib.Sorted.lookup_insert key key'
            (.branch (kindTreeRemove (k2 :: rest) inner).1) map
          by_cases hkey : key' = key
          · rw [if_pos hkey] at hlookup
            rw [kindTreeGet_branch hlookup] at h
            rw [hkey, kindTreeGet_branch hinner]
            exact kindTreeGet_remove (k2 :: rest) rest' h
          · rw [if_neg hkey] at hlookup
            rwa [kindTreeGet_congr hlookup] at h

/-- Deleting a protocol binds none. -/
theorem getProtocol_removeProtocol {t : KindTree} {protocol protocol' : String}
    (h : t.getProtocol protocol' = none) :
    (t.removeProtocol protocol).getProtocol protocol' = none := by
  cases hr : (t.removeProtocol protocol).getProtocol protocol' with
  | none => rfl
  | some link =>
    exact absurd (kindTreeGet_remove _ _ hr) (by rw [show kindTreeGet _ _ = _ from h]; simp)

/-! ## Reading the kinds tree after a write -/

section Tree

variable {link : IpldLink}

/-- **An insertion keeps what is not below its path.** -/
theorem kindTreeGet_insert_of_not_isPrefix : ∀ (path path' : List String)
    {map : List (String × KindTreeNode)}, ¬ path <+: path' →
      kindTreeGet path' (kindTreeInsert link path map) = kindTreeGet path' map
  | [], _, _, h => absurd List.nil_prefix h
  | [_], [], _, _ => rfl
  | _ :: _ :: _, [], _, _ => rfl
  | [key], key' :: rest', map, h => by
    have hkey : key' ≠ key := by
      rintro rfl
      exact h (List.cons_prefix_cons.mpr ⟨rfl, List.nil_prefix⟩)
    have hlookup := Lib.Sorted.lookup_insert key key' (.leaf link) map
    rw [if_neg hkey] at hlookup
    exact kindTreeGet_congr hlookup rest'
  | key :: k2 :: rest, key' :: rest', map, h => by
    have below {inner : List (String × KindTreeNode)} (hkey : key' = key) :
        kindTreeGet rest' (kindTreeInsert link (k2 :: rest) inner) = kindTreeGet rest' inner := by
      refine kindTreeGet_insert_of_not_isPrefix (k2 :: rest) rest' fun hpre => h ?_
      exact List.cons_prefix_cons.mpr ⟨hkey.symm, hpre⟩
    cases hinner : map.lookup key with
    | none =>
      have hlookup := Lib.Sorted.lookup_insert key key'
        (.branch (kindTreeInsert link (k2 :: rest) [])) map
      simp only [kindTreeInsert, hinner]
      by_cases hkey : key' = key
      · rw [if_pos hkey] at hlookup
        rw [kindTreeGet_branch hlookup, below hkey, kindTreeGet_nil, hkey, kindTreeGet_none hinner]
      · rw [if_neg hkey] at hlookup
        exact kindTreeGet_congr hlookup rest'
    | some node =>
      cases node with
      | leaf _ => simp only [kindTreeInsert, hinner]
      | branch inner =>
        have hlookup := Lib.Sorted.lookup_insert key key'
          (.branch (kindTreeInsert link (k2 :: rest) inner)) map
        simp only [kindTreeInsert, hinner]
        by_cases hkey : key' = key
        · rw [if_pos hkey] at hlookup
          rw [kindTreeGet_branch hlookup, below hkey, hkey, kindTreeGet_branch hinner]
        · rw [if_neg hkey] at hlookup
          exact kindTreeGet_congr hlookup rest'

/-- **An insertion leaves nothing strictly below its path.** -/
theorem kindTreeGet_insert_below : ∀ (path path' : List String)
    {map : List (String × KindTreeNode)}, path ≠ [] → path <+: path' → path' ≠ path →
      kindTreeGet path' (kindTreeInsert link path map) = none
  | [], _, _, hne, _, _ => absurd rfl hne
  | _ :: _, [], _, _, hpre, _ => absurd hpre (by simp)
  | [key], key' :: rest', map, _, hpre, hne => by
    obtain rfl := (List.cons_prefix_cons.mp hpre).1
    have hlookup := Lib.Sorted.lookup_insert key key (.leaf link) map
    rw [if_pos rfl] at hlookup
    cases rest' with
    | nil => exact absurd rfl hne
    | cons k2 rest' => simp only [kindTreeInsert, kindTreeGet, hlookup]
  | key :: k2 :: rest, key' :: rest', map, _, hpre, hne => by
    obtain ⟨rfl, hbelow⟩ := List.cons_prefix_cons.mp hpre
    have hne' : rest' ≠ k2 :: rest := fun h => hne (congrArg (key :: ·) h)
    have ih {inner : List (String × KindTreeNode)} :
        kindTreeGet rest' (kindTreeInsert link (k2 :: rest) inner) = none :=
      kindTreeGet_insert_below (k2 :: rest) rest' (by simp) hbelow hne'
    cases hinner : map.lookup key with
    | none =>
      have hlookup := Lib.Sorted.lookup_insert key key
        (.branch (kindTreeInsert link (k2 :: rest) [])) map
      rw [if_pos rfl] at hlookup
      simp only [kindTreeInsert, hinner]
      rw [kindTreeGet_branch hlookup, ih]
    | some node =>
      cases node with
      | leaf _ =>
        cases rest' with
        | nil => exact absurd hbelow (by simp)
        | cons k3 rest' => simp only [kindTreeInsert, kindTreeGet, hinner]
      | branch inner =>
        have hlookup := Lib.Sorted.lookup_insert key key
          (.branch (kindTreeInsert link (k2 :: rest) inner)) map
        rw [if_pos rfl] at hlookup
        simp only [kindTreeInsert, hinner]
        rw [kindTreeGet_branch hlookup, ih]

/-- **A removal keeps what is not below its path.** -/
theorem kindTreeGet_remove_of_not_isPrefix : ∀ (path path' : List String)
    {map : List (String × KindTreeNode)}, ¬ path <+: path' →
      kindTreeGet path' (kindTreeRemove path map).1 = kindTreeGet path' map
  | [], _, _, h => absurd List.nil_prefix h
  | [_], [], _, _ => rfl
  | _ :: _ :: _, [], _, _ => rfl
  | [key], key' :: rest', map, h => by
    have hkey : key' ≠ key := by
      rintro rfl
      exact h (List.cons_prefix_cons.mpr ⟨rfl, List.nil_prefix⟩)
    have hlookup := Lib.Sorted.lookup_erase key key' map
    rw [if_neg hkey] at hlookup
    exact kindTreeGet_congr hlookup rest'
  | key :: k2 :: rest, key' :: rest', map, h => by
    cases hinner : map.lookup key with
    | none => simp only [kindTreeRemove, hinner]
    | some node =>
      cases node with
      | leaf _ => simp only [kindTreeRemove, hinner]
      | branch inner =>
        have below (hkey : key' = key) :
            kindTreeGet rest' (kindTreeRemove (k2 :: rest) inner).1 = kindTreeGet rest' inner := by
          refine kindTreeGet_remove_of_not_isPrefix (k2 :: rest) rest' fun hpre => h ?_
          exact List.cons_prefix_cons.mpr ⟨hkey.symm, hpre⟩
        simp only [kindTreeRemove, hinner]
        split
        · rename_i hempty
          have hlookup := Lib.Sorted.lookup_erase key key' map
          by_cases hkey : key' = key
          · rw [if_pos hkey] at hlookup
            rw [kindTreeGet_none hlookup, hkey, kindTreeGet_branch hinner, ← below hkey,
              List.isEmpty_iff.mp hempty, kindTreeGet_nil]
          · rw [if_neg hkey] at hlookup
            exact kindTreeGet_congr hlookup rest'
        · have hlookup := Lib.Sorted.lookup_insert key key'
            (.branch (kindTreeRemove (k2 :: rest) inner).1) map
          by_cases hkey : key' = key
          · rw [if_pos hkey] at hlookup
            rw [kindTreeGet_branch hlookup, below hkey, hkey, kindTreeGet_branch hinner]
          · rw [if_neg hkey] at hlookup
            exact kindTreeGet_congr hlookup rest'

/-- **A removal loses what is below its path.** -/
theorem kindTreeGet_remove_below : ∀ (path path' : List String)
    {map : List (String × KindTreeNode)}, path ≠ [] → path <+: path' →
      kindTreeGet path' (kindTreeRemove path map).1 = none
  | [], _, _, hne, _ => absurd rfl hne
  | _ :: _, [], _, _, hpre => absurd hpre (by simp)
  | [key], key' :: rest', map, _, hpre => by
    obtain rfl := (List.cons_prefix_cons.mp hpre).1
    have hlookup := Lib.Sorted.lookup_erase key key map
    rw [if_pos rfl] at hlookup
    exact kindTreeGet_none hlookup rest'
  | key :: k2 :: rest, key' :: rest', map, _, hpre => by
    obtain ⟨rfl, hbelow⟩ := List.cons_prefix_cons.mp hpre
    cases hinner : map.lookup key with
    | none =>
      simp only [kindTreeRemove, hinner]
      exact kindTreeGet_none hinner rest'
    | some node =>
      cases node with
      | leaf _ =>
        cases rest' with
        | nil => exact absurd hbelow (by simp)
        | cons k3 rest' => simp only [kindTreeRemove, kindTreeGet, hinner]
      | branch inner =>
        have ih := @kindTreeGet_remove_below (k2 :: rest) rest' inner (by simp) hbelow
        simp only [kindTreeRemove, hinner]
        split
        · have hlookup := Lib.Sorted.lookup_erase key key map
          rw [if_pos rfl] at hlookup
          exact kindTreeGet_none hlookup rest'
        · have hlookup := Lib.Sorted.lookup_insert key key
            (.branch (kindTreeRemove (k2 :: rest) inner).1) map
          rw [if_pos rfl] at hlookup
          rw [kindTreeGet_branch hlookup, ih]

theorem segments_ne_nil (protocol : String) : KindTree.segments protocol ≠ [] := by
  unfold KindTree.segments Text.split
  rw [ne_eq, List.map_eq_nil_iff]
  exact List.splitOn_ne_nil _ _

section Protocols

variable {t : KindTree} {protocol protocol' : String}

theorem KindTree.entries_insertProtocol (protocol : String) (link : IpldLink) :
    (t.insertProtocol protocol link).entries =
      kindTreeInsert link (KindTree.segments protocol) t.entries := by
  rw [KindTree.insertProtocol]

theorem KindTree.entries_removeProtocol (protocol : String) :
    (t.removeProtocol protocol).entries =
      (kindTreeRemove (KindTree.segments protocol) t.entries).1 := by
  rw [KindTree.removeProtocol]

theorem getProtocol_congr
    (h : KindTree.segments protocol = KindTree.segments protocol') :
    t.getProtocol protocol = t.getProtocol protocol' := by
  unfold KindTree.getProtocol
  rw [h]

theorem getProtocol_insert_of_not_isPrefix
    (h : ¬ KindTree.segments protocol <+: KindTree.segments protocol') :
    (t.insertProtocol protocol link).getProtocol protocol' = t.getProtocol protocol' := by
  unfold KindTree.insertProtocol KindTree.getProtocol
  exact kindTreeGet_insert_of_not_isPrefix _ _ h

theorem getProtocol_insert_below
    (h : KindTree.segments protocol <+: KindTree.segments protocol')
    (hne : KindTree.segments protocol' ≠ KindTree.segments protocol) :
    (t.insertProtocol protocol link).getProtocol protocol' = none := by
  unfold KindTree.insertProtocol KindTree.getProtocol
  exact kindTreeGet_insert_below _ _ (segments_ne_nil _) h hne

theorem getProtocol_remove_of_not_isPrefix
    (h : ¬ KindTree.segments protocol <+: KindTree.segments protocol') :
    (t.removeProtocol protocol).getProtocol protocol' = t.getProtocol protocol' := by
  unfold KindTree.removeProtocol KindTree.getProtocol
  exact kindTreeGet_remove_of_not_isPrefix _ _ h

theorem getProtocol_remove_below
    (h : KindTree.segments protocol <+: KindTree.segments protocol') :
    (t.removeProtocol protocol).getProtocol protocol' = none := by
  unfold KindTree.removeProtocol KindTree.getProtocol
  exact kindTreeGet_remove_below _ _ (segments_ne_nil _) h

end Protocols

end Tree

/-! ## Paths in the way -/

/-- Nothing is bound strictly below a bound path. -/
theorem kindTreeGet_below_leaf {link : IpldLink} : ∀ (path path' : List String)
    {map : List (String × KindTreeNode)}, kindTreeGet path map = some link → path <+: path' →
      path' ≠ path → kindTreeGet path' map = none
  | [], _, _, h, _, _ => absurd h (by simp [kindTreeGet])
  | _ :: _, [], _, _, hpre, _ => absurd hpre (by simp)
  | [key], key' :: rest', map, h, hpre, hne => by
    obtain rfl := (List.cons_prefix_cons.mp hpre).1
    cases rest' with
    | nil => exact absurd rfl hne
    | cons k2 rest' =>
      cases hlookup : map.lookup key with
      | none => exact kindTreeGet_none hlookup _
      | some node =>
        cases node with
        | leaf _ => simp only [kindTreeGet, hlookup]
        | branch inner => exact absurd h (by simp [kindTreeGet, hlookup])
  | key :: k2 :: rest, key' :: rest', map, h, hpre, hne => by
    obtain ⟨rfl, hbelow⟩ := List.cons_prefix_cons.mp hpre
    have hne' : rest' ≠ k2 :: rest := fun h => hne (congrArg (key :: ·) h)
    cases hlookup : map.lookup key with
    | none => exact kindTreeGet_none hlookup _
    | some node =>
      cases node with
      | leaf _ => exact absurd h (by simp [kindTreeGet, hlookup])
      | branch inner =>
        rw [kindTreeGet_branch hlookup] at h ⊢
        exact kindTreeGet_below_leaf (k2 :: rest) rest' h hbelow hne'

/-- **An insertion that finds nothing bound on its way is read back.** -/
theorem kindTreeGet_insert_self {link : IpldLink} : ∀ (path : List String)
    {map : List (String × KindTreeNode)}, path ≠ [] →
    (∀ path', path' <+: path → path' ≠ path → kindTreeGet path' map = none) →
      kindTreeGet path (kindTreeInsert link path map) = some link
  | [], _, hne, _ => absurd rfl hne
  | [key], map, _, _ => by
    have hlookup := Lib.Sorted.lookup_insert key key (.leaf link) map
    rw [if_pos rfl] at hlookup
    simp only [kindTreeInsert, kindTreeGet, hlookup]
  | key :: k2 :: rest, map, _, hfree => by
    have inserted {inner : List (String × KindTreeNode)}
        (hinner : ∀ path', path' <+: k2 :: rest → path' ≠ k2 :: rest →
          kindTreeGet path' inner = none) :
        kindTreeGet (key :: k2 :: rest) (Lib.Sorted.insert key
          (.branch (kindTreeInsert link (k2 :: rest) inner)) map) = some link := by
      have hlookup := Lib.Sorted.lookup_insert key key
        (.branch (kindTreeInsert link (k2 :: rest) inner)) map
      rw [if_pos rfl] at hlookup
      rw [kindTreeGet_branch hlookup]
      exact kindTreeGet_insert_self (k2 :: rest) (by simp) hinner
    cases hlookup : map.lookup key with
    | none =>
      simp only [kindTreeInsert, hlookup]
      exact inserted fun path' _ _ => kindTreeGet_nil path'
    | some node =>
      cases node with
      | leaf link' =>
        have hblocked := hfree [key] (List.cons_prefix_cons.mpr ⟨rfl, List.nil_prefix⟩) (by simp)
        exact absurd hblocked (by simp [kindTreeGet, hlookup])
      | branch inner =>
        simp only [kindTreeInsert, hlookup]
        refine inserted fun path' hpre hne => ?_
        have hfree' := hfree (key :: path') (List.cons_prefix_cons.mpr ⟨rfl, hpre⟩)
          fun h => hne (List.cons.inj h).2
        rwa [kindTreeGet_branch hlookup] at hfree'

/-! ## The enumeration -/

/-- The path with its segments appended, as the enumeration writes it. -/
def joined (pre : String) : List String → String
  | [] => pre
  | key :: rest => joined (pre ++ "/" ++ key) rest

/-- The ID of a protocol as the enumeration of a tree writes it. -/
def protocolId (protocol : String) : String := joined "" (KindTree.segments protocol)

theorem mem_kindTreeCollectIds {pre id : String} : ∀ {map : List (String × KindTreeNode)},
    id ∈ kindTreeCollectIds pre map ↔
      ∃ key node, (key, node) ∈ map ∧ id ∈ kindTreeNodeIds (pre ++ "/" ++ key) node
  | [] => by simp [kindTreeCollectIds]
  | (key, node) :: rest => by
    rw [kindTreeCollectIds, List.mem_append, mem_kindTreeCollectIds]
    constructor
    · rintro (h | ⟨key', node', hmem, h⟩)
      · exact ⟨key, node, List.mem_cons_self, h⟩
      · exact ⟨key', node', List.mem_cons_of_mem _ hmem, h⟩
    · rintro ⟨key', node', hmem, h⟩
      rcases List.mem_cons.mp hmem with heq | hmem
      · cases heq
        exact .inl h
      · exact .inr ⟨key', node', hmem, h⟩

/-- Every bound path is listed. -/
theorem mem_kindTreeCollectIds_of_get {link : IpldLink} : ∀ (path : List String) {pre : String}
    {map : List (String × KindTreeNode)}, kindTreeGet path map = some link →
      joined pre path ∈ kindTreeCollectIds pre map
  | [], _, _, h => absurd h (by simp [kindTreeGet])
  | [key], pre, map, h => by
    cases hlookup : map.lookup key with
    | none => exact absurd h (by simp [kindTreeGet, hlookup])
    | some node =>
      cases node with
      | branch inner => exact absurd h (by simp [kindTreeGet, hlookup])
      | leaf link' =>
        refine mem_kindTreeCollectIds.mpr ⟨key, .leaf link', Lib.Sorted.mem_of_lookup hlookup, ?_⟩
        simp [kindTreeNodeIds, joined]
  | key :: k2 :: rest, pre, map, h => by
    cases hlookup : map.lookup key with
    | none => exact absurd h (by simp [kindTreeGet, hlookup])
    | some node =>
      cases node with
      | leaf link' => exact absurd h (by simp [kindTreeGet, hlookup])
      | branch inner =>
        rw [kindTreeGet_branch hlookup] at h
        refine mem_kindTreeCollectIds.mpr ⟨key, .branch inner, Lib.Sorted.mem_of_lookup hlookup, ?_⟩
        rw [kindTreeNodeIds]
        exact mem_kindTreeCollectIds_of_get (k2 :: rest) h

/-- An insertion lists no other path anew. -/
theorem collectIds_insert {link : IpldLink} {id : String} : ∀ (path : List String) {pre : String}
    {map : List (String × KindTreeNode)},
      id ∈ kindTreeCollectIds pre (kindTreeInsert link path map) →
      id = joined pre path ∨ id ∈ kindTreeCollectIds pre map
  | [], _, _, h => .inr h
  | [key], pre, map, h => by
    obtain ⟨key', node', hmem, hid⟩ := mem_kindTreeCollectIds.mp h
    rcases Lib.Sorted.mem_insert hmem with heq | hmem
    · cases heq
      left
      simpa [kindTreeNodeIds, joined] using hid
    · exact .inr (mem_kindTreeCollectIds.mpr ⟨key', node', hmem, hid⟩)
  | key :: k2 :: rest, pre, map, h => by
    have entered {inner : List (String × KindTreeNode)}
        (hold : id ∈ kindTreeCollectIds (pre ++ "/" ++ key) inner → id ∈ kindTreeCollectIds pre map)
        (h : id ∈ kindTreeCollectIds pre (Lib.Sorted.insert key
          (.branch (kindTreeInsert link (k2 :: rest) inner)) map)) :
        id = joined pre (key :: k2 :: rest) ∨ id ∈ kindTreeCollectIds pre map := by
      obtain ⟨key', node', hmem, hid⟩ := mem_kindTreeCollectIds.mp h
      rcases Lib.Sorted.mem_insert hmem with heq | hmem
      · cases heq
        rw [kindTreeNodeIds] at hid
        exact (collectIds_insert (k2 :: rest) hid).imp_right hold
      · exact .inr (mem_kindTreeCollectIds.mpr ⟨key', node', hmem, hid⟩)
    cases hlookup : map.lookup key with
    | none =>
      simp only [kindTreeInsert, hlookup] at h
      exact entered (fun hid => absurd hid (by simp [kindTreeCollectIds])) h
    | some node =>
      cases node with
      | leaf link' =>
        simp only [kindTreeInsert, hlookup] at h
        exact .inr h
      | branch inner =>
        simp only [kindTreeInsert, hlookup] at h
        refine entered (fun hid => ?_) h
        refine mem_kindTreeCollectIds.mpr ⟨key, .branch inner, Lib.Sorted.mem_of_lookup hlookup, ?_⟩
        rwa [kindTreeNodeIds]

/-- A removal lists no path anew. -/
theorem collectIds_remove {id : String} : ∀ (path : List String) {pre : String}
    {map : List (String × KindTreeNode)}, id ∈ kindTreeCollectIds pre (kindTreeRemove path map).1 →
      id ∈ kindTreeCollectIds pre map
  | [], _, _, h => h
  | [key], pre, map, h => by
    obtain ⟨key', node', hmem, hid⟩ := mem_kindTreeCollectIds.mp h
    exact mem_kindTreeCollectIds.mpr ⟨key', node', List.mem_of_mem_filter hmem, hid⟩
  | key :: k2 :: rest, pre, map, h => by
    cases hlookup : map.lookup key with
    | none => simpa only [kindTreeRemove, hlookup] using h
    | some node =>
      cases node with
      | leaf _ => simpa only [kindTreeRemove, hlookup] using h
      | branch inner =>
        simp only [kindTreeRemove, hlookup] at h
        split at h
        · obtain ⟨key', node', hmem, hid⟩ := mem_kindTreeCollectIds.mp h
          exact mem_kindTreeCollectIds.mpr ⟨key', node', List.mem_of_mem_filter hmem, hid⟩
        · obtain ⟨key', node', hmem, hid⟩ := mem_kindTreeCollectIds.mp h
          rcases Lib.Sorted.mem_insert hmem with heq | hmem
          · cases heq
            rw [kindTreeNodeIds] at hid
            refine mem_kindTreeCollectIds.mpr
              ⟨key, .branch inner, Lib.Sorted.mem_of_lookup hlookup, ?_⟩
            rw [kindTreeNodeIds]
            exact collectIds_remove (k2 :: rest) hid
          · exact mem_kindTreeCollectIds.mpr ⟨key', node', hmem, hid⟩

/-! ## Protocol IDs -/

theorem joined_toList : ∀ (pre : String) (path : List String),
    (joined pre path).toList = pre.toList ++ path.flatMap fun key => '/' :: key.toList
  | pre, [] => by simp [joined]
  | pre, key :: rest => by
    rw [joined, joined_toList]
    simp [String.toList_append]

theorem flatMap_cons_eq_intercalate {α : Type} (a : α) : ∀ {l : List (List α)}, l ≠ [] →
    l.flatMap (a :: ·) = a :: [a].intercalate l
  | [], h => absurd rfl h
  | [x], _ => by simp [List.intercalate]
  | x :: y :: l, _ => by
    have ih := @flatMap_cons_eq_intercalate α a (y :: l) (by simp)
    rw [List.flatMap_cons, ih]
    simp [List.intercalate, List.intersperse]

theorem protocolId_toList (protocol : String) :
    (protocolId protocol).toList = '/' :: protocol.toList.dropWhile (· = '/') := by
  unfold protocolId KindTree.segments Text.split Text.trimStartMatches
  rw [joined_toList, String.toList_ofList, List.flatMap_map]
  simp only [String.toList_ofList]
  have hflat := flatMap_cons_eq_intercalate '/'
    (List.splitOn_ne_nil '/' (protocol.toList.dropWhile (· = '/')))
  rw [hflat, List.intercalate_splitOn]
  rfl

/-- **The ID of a protocol has its segments.** -/
theorem segments_protocolId (protocol : String) :
    KindTree.segments (protocolId protocol) = KindTree.segments protocol := by
  unfold KindTree.segments Text.trimStartMatches
  rw [protocolId_toList, List.dropWhile_cons_of_pos (by simp), List.dropWhile_idempotent]

/-- The ID of a protocol is a slash and the protocol without its leading slashes. -/
theorem protocolId_eq (protocol : String) :
    protocolId protocol = "/" ++ Text.trimStartMatches protocol '/' := by
  rw [← String.toList_inj, protocolId_toList]
  simp [Text.trimStartMatches, String.toList_append]

/-- **Two protocols have the same path, iff they differ by leading slashes only.** -/
theorem segments_inj {protocol protocol' : String} :
    KindTree.segments protocol = KindTree.segments protocol' ↔
      Text.trimStartMatches protocol '/' = Text.trimStartMatches protocol' '/' := by
  constructor
  · intro h
    have hid : protocolId protocol = protocolId protocol' := congrArg (joined "") h
    rw [← String.toList_inj, protocolId_toList, protocolId_toList] at hid
    exact congrArg String.ofList (List.cons.inj hid).2
  · intro h
    rw [KindTree.segments, KindTree.segments, h]

end MaRuntime
