import Mathlib.Data.List.Nodup
import MaRuntime.BootstrapYaml

/-!
# The laws of the kinds tree

A `KindTree` is meant as a map from protocol IDs to links. Every tree that insertions and removals
make is canonical and is listed exactly. A write is one of a map only off the other IDs' ways.

* `KindTree.Invariant`: no empty branch, entries in order, and only paths that an ID has.
* **`reachable_canonical`**: the listing is exact, and equal lookups make equal trees.
* **`insertsOne_iff`**: an insertion is a map insert, iff no stored ID is above or below its ID.
* **`removesOne_iff`**: a removal removes one kind, iff no stored ID is below its ID.
-/

namespace MaRuntime

/-- The trees that insertions and removals make of the empty one. -/
inductive KindTree.Reachable : KindTree → Prop where
  | empty : Reachable {}
  | insert {t : KindTree} (h : Reachable t) (protocol : String) (link : IpldLink) :
      Reachable (t.insertProtocol protocol link)
  | remove {t : KindTree} (h : Reachable t) (protocol : String) :
      Reachable (t.removeProtocol protocol)

/-! ## Well-formed trees -/

mutual

/-- No branch is empty, and each lists its entries by ascending key. -/
def KindTreeNode.WellFormed : KindTreeNode → Prop
  | .leaf _ => True
  | .branch inner => inner ≠ [] ∧ WellFormedEntries inner

/-- `KindTreeNode.WellFormed`, of the entries of a branch. -/
def WellFormedEntries : List (String × KindTreeNode) → Prop
  | [] => True
  | (key, node) :: rest =>
    (∀ entry ∈ rest, key < entry.1) ∧ node.WellFormed ∧ WellFormedEntries rest

end

section Entries

variable {map : List (String × KindTreeNode)} {key : String} {node : KindTreeNode}

theorem wellFormedEntries_iff : ∀ {map : List (String × KindTreeNode)}, WellFormedEntries map ↔
    Lib.Sorted.Ascending map ∧ ∀ entry ∈ map, entry.2.WellFormed
  | [] => by
    refine iff_of_true ?_ ⟨Lib.Sorted.ascending_nil, fun _ h => absurd h List.not_mem_nil⟩
    rw [WellFormedEntries]
    trivial
  | (key, node) :: rest => by
    rw [WellFormedEntries, wellFormedEntries_iff, Lib.Sorted.ascending_cons, List.forall_mem_cons]
    tauto

theorem WellFormedEntries.lookup (h : WellFormedEntries map)
    (hlookup : map.lookup key = some node) :
    node.WellFormed :=
  (wellFormedEntries_iff.mp h).2 _ (Lib.Sorted.mem_of_lookup hlookup)

theorem WellFormedEntries.inner {inner : List (String × KindTreeNode)} (h : WellFormedEntries map)
    (hlookup : map.lookup key = some (.branch inner)) : WellFormedEntries inner := by
  have hnode := h.lookup hlookup
  rw [KindTreeNode.WellFormed] at hnode
  exact hnode.2

theorem WellFormedEntries.write (h : WellFormedEntries map) (hnode : node.WellFormed) :
    WellFormedEntries (Lib.Sorted.insert key node map) := by
  obtain ⟨hascending, hnodes⟩ := wellFormedEntries_iff.mp h
  refine wellFormedEntries_iff.mpr ⟨hascending.insert, fun entry hentry => ?_⟩
  rcases Lib.Sorted.mem_insert hentry with rfl | hold
  · exact hnode
  · exact hnodes entry hold

theorem WellFormedEntries.erase (h : WellFormedEntries map) :
    WellFormedEntries (Lib.Sorted.erase key map) := by
  obtain ⟨hascending, hnodes⟩ := wellFormedEntries_iff.mp h
  exact wellFormedEntries_iff.mpr
    ⟨hascending.erase, fun entry hentry => hnodes entry (List.mem_of_mem_filter hentry)⟩

end Entries

/-- A non-empty path is bound under its first segment. -/
theorem kindTreeInsert_ne_nil {link : IpldLink} : ∀ {path : List String}
    {map : List (String × KindTreeNode)}, path ≠ [] → kindTreeInsert link path map ≠ []
  | [], _, h => absurd rfl h
  | [_], _, _ => Lib.Sorted.insert_ne_nil _ _ _
  | key :: k2 :: rest, map, _ => by
    cases hlookup : map.lookup key with
    | none =>
      simp only [kindTreeInsert, hlookup]
      exact Lib.Sorted.insert_ne_nil _ _ _
    | some node =>
      cases node with
      | leaf link' =>
        simp only [kindTreeInsert, hlookup]
        exact List.ne_nil_of_mem (Lib.Sorted.mem_of_lookup hlookup)
      | branch inner =>
        simp only [kindTreeInsert, hlookup]
        exact Lib.Sorted.insert_ne_nil _ _ _

/-- **An insertion keeps a tree well-formed.** -/
theorem WellFormedEntries.insert {link : IpldLink} : ∀ (path : List String)
    {map : List (String × KindTreeNode)}, WellFormedEntries map →
      WellFormedEntries (kindTreeInsert link path map)
  | [], _, h => h
  | [key], map, h => h.write (by rw [KindTreeNode.WellFormed]; trivial)
  | key :: k2 :: rest, map, h => by
    have fresh {inner : List (String × KindTreeNode)} (hinner : WellFormedEntries inner) :
        KindTreeNode.WellFormed (.branch (kindTreeInsert link (k2 :: rest) inner)) := by
      rw [KindTreeNode.WellFormed]
      exact ⟨kindTreeInsert_ne_nil (by simp), WellFormedEntries.insert (k2 :: rest) hinner⟩
    cases hlookup : map.lookup key with
    | none =>
      simp only [kindTreeInsert, hlookup]
      exact h.write (fresh (by rw [WellFormedEntries]; trivial))
    | some node =>
      cases node with
      | leaf link' =>
        simp only [kindTreeInsert, hlookup]
        exact h
      | branch inner =>
        simp only [kindTreeInsert, hlookup]
        exact h.write (fresh (h.inner hlookup))

/-- **A removal keeps a tree well-formed**: a branch left empty is pruned. -/
theorem WellFormedEntries.remove : ∀ (path : List String) {map : List (String × KindTreeNode)},
    WellFormedEntries map → WellFormedEntries (kindTreeRemove path map).1
  | [], _, h => h
  | [_], _, h => h.erase
  | key :: k2 :: rest, map, h => by
    cases hlookup : map.lookup key with
    | none =>
      simp only [kindTreeRemove, hlookup]
      exact h
    | some node =>
      cases node with
      | leaf link' =>
        simp only [kindTreeRemove, hlookup]
        exact h
      | branch inner =>
        simp only [kindTreeRemove, hlookup]
        split
        · exact h.erase
        · rename_i hempty
          refine h.write ?_
          rw [KindTreeNode.WellFormed]
          exact ⟨fun hnil => hempty (List.isEmpty_iff.mpr hnil),
            WellFormedEntries.remove (k2 :: rest) (h.inner hlookup)⟩

/-! ## Bound paths -/

/-- `kind_tree_get` on what is under the first segment. -/
def kindTreeNodeGet : List String → KindTreeNode → Option IpldLink
  | [], .leaf link => some link
  | [], .branch _ => none
  | _ :: _, .leaf _ => none
  | key :: rest, .branch inner => kindTreeGet (key :: rest) inner

theorem kindTreeGet_cons (key : String) (rest : List String) (map : List (String × KindTreeNode)) :
    kindTreeGet (key :: rest) map = (map.lookup key).bind (kindTreeNodeGet rest) := by
  cases hlookup : map.lookup key with
  | none => exact kindTreeGet_none hlookup rest
  | some node => cases node <;> cases rest <;> simp [kindTreeGet, kindTreeNodeGet, hlookup]

theorem kindTreeNodeGet_branch (path : List String) (inner : List (String × KindTreeNode)) :
    kindTreeNodeGet path (.branch inner) = kindTreeGet path inner := by
  cases path <;> rfl

/-- Below a node that is well-formed, some path is bound. -/
theorem exists_nodeGet : ∀ {node : KindTreeNode}, node.WellFormed →
    ∃ path link, kindTreeNodeGet path node = some link
  | .leaf link, _ => ⟨[], link, rfl⟩
  | .branch [], h => by
    rw [KindTreeNode.WellFormed] at h
    exact absurd rfl h.1
  | .branch ((key, node) :: rest), h => by
    rw [KindTreeNode.WellFormed] at h
    have hnode : node.WellFormed := (wellFormedEntries_iff.mp h.2).2 _ List.mem_cons_self
    obtain ⟨path, link, hget⟩ := exists_nodeGet hnode
    refine ⟨key :: path, link, ?_⟩
    rw [kindTreeNodeGet_branch, kindTreeGet_cons, Lib.Sorted.lookup_cons, if_pos rfl]
    exact hget

theorem WellFormedEntries.lookup_eq_none {map : List (String × KindTreeNode)} {key : String}
    (h : WellFormedEntries map) (hnone : ∀ rest, kindTreeGet (key :: rest) map = none) :
    map.lookup key = none := by
  cases hlookup : map.lookup key with
  | none => rfl
  | some node =>
    obtain ⟨path, link, hget⟩ := exists_nodeGet (h.lookup hlookup)
    have hbound := hnone path
    rw [kindTreeGet_cons, hlookup, Option.bind_some, hget] at hbound
    exact absurd hbound (by simp)

/-- The node is equal to the well-formed ones with its bound paths. -/
def KindTreeNode.Determined (node : KindTreeNode) : Prop :=
  ∀ node' : KindTreeNode, node'.WellFormed →
    (∀ path, kindTreeNodeGet path node = kindTreeNodeGet path node') → node = node'

theorem WellFormedEntries.ext {map map' : List (String × KindTreeNode)} (h : WellFormedEntries map)
    (h' : WellFormedEntries map') (hget : ∀ path, kindTreeGet path map = kindTreeGet path map')
    (hnodes : ∀ entry ∈ map, entry.2.Determined) : map = map' := by
  refine (wellFormedEntries_iff.mp h).1.ext (wellFormedEntries_iff.mp h').1 fun key => ?_
  cases hlookup : map.lookup key with
  | none =>
    refine (h'.lookup_eq_none fun rest => ?_).symm
    rw [← hget, kindTreeGet_none hlookup]
  | some node =>
    cases hlookup' : map'.lookup key with
    | none =>
      refine absurd (h.lookup_eq_none fun rest => ?_) (by rw [hlookup]; simp)
      rw [hget, kindTreeGet_none hlookup']
    | some node' =>
      have hdetermined := hnodes _ (Lib.Sorted.mem_of_lookup hlookup)
      refine congrArg _ (hdetermined node' (h'.lookup hlookup') fun rest => ?_)
      have hcons := hget (key :: rest)
      rwa [kindTreeGet_cons, kindTreeGet_cons, hlookup, hlookup'] at hcons

mutual

theorem KindTreeNode.WellFormed.determined : ∀ {node : KindTreeNode}, node.WellFormed →
    node.Determined
  | .leaf link, _, .leaf link', _, hget => congrArg _ (Option.some.inj (hget []))
  | .leaf link, _, .branch inner, _, hget => absurd (hget []) (by simp [kindTreeNodeGet])
  | .branch inner, _, .leaf link, _, hget => absurd (hget []) (by simp [kindTreeNodeGet])
  | .branch inner, h, .branch inner', h', hget => by
    rw [KindTreeNode.WellFormed] at h h'
    refine congrArg _ (h.2.ext h'.2 (fun path => ?_) h.2.determined)
    rw [← kindTreeNodeGet_branch, ← kindTreeNodeGet_branch, hget]

theorem WellFormedEntries.determined : ∀ {map : List (String × KindTreeNode)},
    WellFormedEntries map → ∀ entry ∈ map, entry.2.Determined
  | [], _, _, hmem => absurd hmem List.not_mem_nil
  | (key, node) :: rest, h, entry, hmem => by
    rw [WellFormedEntries] at h
    rcases List.mem_cons.mp hmem with rfl | hlater
    · exact h.2.1.determined
    · exact h.2.2.determined entry hlater

end

/-! ## The listing -/

mutual

/-- The paths bound below a node. -/
def kindTreeNodePaths : KindTreeNode → List (List String)
  | .leaf _ => [[]]
  | .branch inner => kindTreePaths inner

/-- The bound paths, in the order of the listing. -/
def kindTreePaths : List (String × KindTreeNode) → List (List String)
  | [] => []
  | (key, node) :: rest => (kindTreeNodePaths node).map (key :: ·) ++ kindTreePaths rest

end

mutual

theorem kindTreeNodeIds_eq (pre : String) : ∀ node : KindTreeNode,
    kindTreeNodeIds pre node = (kindTreeNodePaths node).map (joined pre)
  | .leaf _ => by simp [kindTreeNodeIds, kindTreeNodePaths, joined]
  | .branch inner => by rw [kindTreeNodeIds, kindTreeNodePaths, kindTreeCollectIds_eq]

theorem kindTreeCollectIds_eq (pre : String) : ∀ map : List (String × KindTreeNode),
    kindTreeCollectIds pre map = (kindTreePaths map).map (joined pre)
  | [] => by simp [kindTreeCollectIds, kindTreePaths]
  | (key, node) :: rest => by
    rw [kindTreeCollectIds, kindTreePaths, kindTreeNodeIds_eq, kindTreeCollectIds_eq pre rest,
      List.map_append, List.map_map]
    rfl

end

mutual

/-- **The listing has the bound paths of a node.** -/
theorem mem_kindTreeNodePaths : ∀ {node : KindTreeNode} {path : List String}, node.WellFormed →
    (path ∈ kindTreeNodePaths node ↔ ∃ link, kindTreeNodeGet path node = some link)
  | .leaf link, [], _ => by simp [kindTreeNodePaths, kindTreeNodeGet]
  | .leaf link, key :: rest, _ => by simp [kindTreeNodePaths, kindTreeNodeGet]
  | .branch inner, path, h => by
    rw [KindTreeNode.WellFormed] at h
    rw [kindTreeNodePaths, kindTreeNodeGet_branch, mem_kindTreePaths h.2]

theorem mem_kindTreePaths : ∀ {map : List (String × KindTreeNode)} {path : List String},
    WellFormedEntries map → (path ∈ kindTreePaths map ↔ ∃ link, kindTreeGet path map = some link)
  | [], path, _ => by simp [kindTreePaths, kindTreeGet_nil]
  | (key, node) :: rest, [], h => by
    rw [WellFormedEntries] at h
    have hrest := @mem_kindTreePaths rest [] h.2.2
    simp only [kindTreeGet] at hrest ⊢
    rw [kindTreePaths, List.mem_append, hrest]
    simp
  | (key, node) :: rest, k :: path, h => by
    have htail := (wellFormedEntries_iff.mp h).1
    rw [WellFormedEntries] at h
    have hrest := @mem_kindTreePaths rest (k :: path) h.2.2
    rw [kindTreePaths, List.mem_append, hrest, kindTreeGet_cons, kindTreeGet_cons,
      Lib.Sorted.lookup_cons]
    by_cases hkey : k = key
    · subst hkey
      rw [htail.lookup_tail le_rfl, if_pos rfl, Option.bind_some, ← mem_kindTreeNodePaths h.2.1]
      simp
    · rw [if_neg hkey]
      simp [Ne.symm hkey]

end

mutual

theorem nodup_kindTreeNodePaths : ∀ {node : KindTreeNode}, node.WellFormed →
    (kindTreeNodePaths node).Nodup
  | .leaf _, _ => by simp [kindTreeNodePaths]
  | .branch inner, h => by
    rw [KindTreeNode.WellFormed] at h
    rw [kindTreeNodePaths]
    exact nodup_kindTreePaths h.2

/-- **No path is listed twice.** -/
theorem nodup_kindTreePaths : ∀ {map : List (String × KindTreeNode)}, WellFormedEntries map →
    (kindTreePaths map).Nodup
  | [], _ => by simp [kindTreePaths]
  | (key, node) :: rest, h => by
    have htail := (wellFormedEntries_iff.mp h).1
    rw [WellFormedEntries] at h
    rw [kindTreePaths]
    refine List.Nodup.append ?_ (nodup_kindTreePaths h.2.2) fun path hmem hlater => ?_
    · exact (nodup_kindTreeNodePaths h.2.1).map fun _ _ heq => (List.cons.inj heq).2
    · -- The first segment of a path is its entry's key, and no later entry has that key.
      obtain ⟨path', -, rfl⟩ := List.mem_map.mp hmem
      obtain ⟨link, hget⟩ := (mem_kindTreePaths h.2.2).mp hlater
      rw [kindTreeGet_none (htail.lookup_tail le_rfl)] at hget
      exact absurd hget (by simp)

end

/-! ## Reachable trees -/

/-- **What insertions and removals keep**: the tree is well-formed, and what it binds has an ID. -/
structure KindTree.Invariant (t : KindTree) : Prop where
  wellFormed : WellFormedEntries t.entries
  named : ∀ path link, kindTreeGet path t.entries = some link →
    ∃ protocol, KindTree.segments protocol = path

section Trees

variable {t : KindTree} {protocol protocol' : String} {link : IpldLink}

/-- What is bound after an insertion is at its path, or was bound. -/
theorem kindTreeGet_insert {path path' : List String} {map : List (String × KindTreeNode)}
    {link' : IpldLink} (hne : path ≠ [])
    (h : kindTreeGet path' (kindTreeInsert link path map) = some link') :
    path' = path ∨ kindTreeGet path' map = some link' := by
  by_cases hpre : path <+: path'
  · refine .inl (by_contra fun hpath => ?_)
    rw [kindTreeGet_insert_below path path' hne hpre hpath] at h
    exact absurd h (by simp)
  · rw [kindTreeGet_insert_of_not_isPrefix path path' hpre] at h
    exact .inr h

theorem KindTree.Invariant.empty : KindTree.Invariant {} := by
  refine ⟨?_, fun path link h => ?_⟩
  · rw [WellFormedEntries]
    trivial
  · exact absurd h (by simp [kindTreeGet_nil])

theorem KindTree.Invariant.insert (h : t.Invariant) (protocol : String) (link : IpldLink) :
    (t.insertProtocol protocol link).Invariant := by
  constructor
  · rw [KindTree.entries_insertProtocol]
    exact h.wellFormed.insert _
  · intro path link' hget
    rw [KindTree.entries_insertProtocol] at hget
    rcases kindTreeGet_insert (segments_ne_nil protocol) hget with rfl | hold
    · exact ⟨protocol, rfl⟩
    · exact h.named path link' hold

theorem KindTree.Invariant.remove (h : t.Invariant) (protocol : String) :
    (t.removeProtocol protocol).Invariant := by
  constructor
  · rw [KindTree.entries_removeProtocol]
    exact h.wellFormed.remove _
  · intro path link' hget
    rw [KindTree.entries_removeProtocol] at hget
    exact h.named path link' (kindTreeGet_remove _ _ hget)

theorem KindTree.Reachable.invariant (h : t.Reachable) : t.Invariant := by
  induction h with
  | empty => exact .empty
  | insert _ protocol link ih => exact ih.insert protocol link
  | remove _ protocol ih => exact ih.remove protocol

namespace KindTree.Invariant

/-- The listing is the IDs of the bound paths. -/
theorem mem_protocolIds (h : t.Invariant) {id : String} :
    id ∈ t.protocolIds ↔ ∃ protocol link, t.getProtocol protocol = some link ∧
      protocolId protocol = id := by
  rw [KindTree.protocolIds, kindTreeCollectIds_eq, List.mem_map]
  constructor
  · rintro ⟨path, hmem, hid⟩
    obtain ⟨link, hget⟩ := (mem_kindTreePaths h.wellFormed).mp hmem
    obtain ⟨protocol, rfl⟩ := h.named path link hget
    exact ⟨protocol, link, hget, hid⟩
  · rintro ⟨protocol, link, hget, hid⟩
    exact ⟨_, (mem_kindTreePaths h.wellFormed).mpr ⟨link, hget⟩, hid⟩

theorem nodup_protocolIds (h : t.Invariant) : t.protocolIds.Nodup := by
  rw [KindTree.protocolIds, kindTreeCollectIds_eq]
  refine (nodup_kindTreePaths h.wellFormed).map_on fun path hpath path' hpath' heq => ?_
  obtain ⟨link, hget⟩ := (mem_kindTreePaths h.wellFormed).mp hpath
  obtain ⟨link', hget'⟩ := (mem_kindTreePaths h.wellFormed).mp hpath'
  obtain ⟨protocol, rfl⟩ := h.named path link hget
  obtain ⟨protocol', rfl⟩ := h.named path' link' hget'
  -- An ID has the path that it is written from.
  rw [← segments_protocolId protocol, ← segments_protocolId protocol']
  exact congrArg KindTree.segments heq

theorem mem_iter (h : t.Invariant) {id : String} :
    (id, link) ∈ t.iterProtocols ↔
      ∃ protocol, id = "/" ++ Text.trimStartMatches protocol '/' ∧
        t.getProtocol protocol = some link := by
  constructor
  · intro hmem
    obtain ⟨hid, hget⟩ := mem_iterProtocols.mp hmem
    obtain ⟨protocol, link', hbound, rfl⟩ := h.mem_protocolIds.mp hid
    rw [getProtocol_congr (segments_protocolId protocol)] at hget
    exact ⟨protocol, protocolId_eq protocol, hget⟩
  · rintro ⟨protocol, rfl, hget⟩
    rw [← protocolId_eq]
    exact protocolId_mem_iterProtocols hget

/-- Every listed ID comes with its link. -/
theorem map_iterProtocols (h : t.Invariant) : t.iterProtocols.map Prod.fst = t.protocolIds := by
  unfold KindTree.iterProtocols
  rw [List.map_filterMap]
  have hall : ∀ id ∈ t.protocolIds,
      (((t.getProtocol id).map fun link => (id, link)).map Prod.fst) = some id := by
    intro id hid
    obtain ⟨protocol, link, hget, rfl⟩ := h.mem_protocolIds.mp hid
    rw [getProtocol_congr (segments_protocolId protocol), hget]
    rfl
  rw [List.filterMap_congr hall, List.filterMap_some]

/-- Well-formed trees with the same lookups are equal. -/
theorem ext {t' : KindTree} (h : t.Invariant) (h' : t'.Invariant)
    (hget : ∀ protocol, t.getProtocol protocol = t'.getProtocol protocol) : t = t' := by
  obtain ⟨entries⟩ := t
  obtain ⟨entries'⟩ := t'
  refine congrArg _ (h.wellFormed.ext h'.wellFormed (fun path => ?_) h.wellFormed.determined)
  -- A path without an ID is bound in neither tree.
  by_cases hnamed : ∃ protocol, KindTree.segments protocol = path
  · obtain ⟨protocol, rfl⟩ := hnamed
    exact hget protocol
  · have unbound {t : KindTree} (h : t.Invariant) : kindTreeGet path t.entries = none :=
      Option.eq_none_iff_forall_ne_some.mpr fun link hlink => hnamed (h.named path link hlink)
    exact (unbound h).trans (unbound h').symm

end KindTree.Invariant

/-- **A reachable tree is canonical, and its listing is exact.** No branch below the root is empty;
no ID is listed twice, and the pairs listed are the bound IDs with their links; and a reachable tree
with the same lookups is the same tree. -/
theorem reachable_canonical (h : t.Reachable) :
    WellFormedEntries t.entries ∧
    (t.protocolIds.Nodup ∧ t.iterProtocols.map Prod.fst = t.protocolIds ∧
      ∀ id link, (id, link) ∈ t.iterProtocols ↔
        ∃ protocol, id = "/" ++ Text.trimStartMatches protocol '/' ∧
          t.getProtocol protocol = some link) ∧
    ∀ t' : KindTree, t'.Reachable →
      (∀ protocol, t.getProtocol protocol = t'.getProtocol protocol) → t = t' :=
  ⟨h.invariant.wellFormed,
    ⟨h.invariant.nodup_protocolIds, h.invariant.map_iterProtocols,
      fun _ _ => h.invariant.mem_iter⟩,
    fun _ h' hget => h.invariant.ext h'.invariant hget⟩

end Trees

/-- Two kinds of one family, the second under an ID with an empty segment. -/
def family : KindTree :=
  (KindTree.insertProtocol {} "/ma/a" ⟨"bafyA"⟩).insertProtocol "//ma//b" ⟨"bafyB"⟩

theorem family_reachable : family.Reachable :=
  (KindTree.Reachable.empty.insert "/ma/a" ⟨"bafyA"⟩).insert "//ma//b" ⟨"bafyB"⟩

set_option maxRecDepth 100000 in
/-- The ID with the empty segment is listed with its link. -/
theorem reachable_canonical_family :
    family.protocolIds.Nodup ∧ ("/ma//b", IpldLink.mk "bafyB") ∈ family.iterProtocols := by
  obtain ⟨-, ⟨hnodup, -, hiter⟩, -⟩ := @reachable_canonical family family_reachable
  have hget : family.getProtocol "//ma//b" = some ⟨"bafyB"⟩ := by decide +kernel
  exact ⟨hnodup, (hiter "/ma//b" ⟨"bafyB"⟩).mpr ⟨"//ma//b", by decide +kernel, hget⟩⟩

/-! ## One kind at a time -/

/-- The insertion is a map insert: the ID is bound to the link, and no other ID changes. -/
def KindTree.InsertsOne (t : KindTree) (protocol : String) (link : IpldLink) : Prop :=
  (t.insertProtocol protocol link).getProtocol protocol = some link ∧
  ∀ protocol', Text.trimStartMatches protocol' '/' ≠ Text.trimStartMatches protocol '/' →
    (t.insertProtocol protocol link).getProtocol protocol' = t.getProtocol protocol'

/-- What `KindTree::remove_protocol` returns: whether something was removed. -/
def KindTree.removed (t : KindTree) (protocol : String) : Bool :=
  (kindTreeRemove (KindTree.segments protocol) t.entries).2

/-- The removal is a map removal: the flag says whether the ID was bound, it no longer is, and no
other ID changes. -/
def KindTree.RemovesOne (t : KindTree) (protocol : String) : Prop :=
  (t.removed protocol = true ↔ (t.getProtocol protocol).isSome = true) ∧
  (t.removeProtocol protocol).getProtocol protocol = none ∧
  ∀ protocol', Text.trimStartMatches protocol' '/' ≠ Text.trimStartMatches protocol '/' →
    (t.removeProtocol protocol).getProtocol protocol' = t.getProtocol protocol'

/-- The second ID is strictly below the first: it has more segments, and begins with the first's. -/
def Below (protocol protocol' : String) : Prop :=
  KindTree.segments protocol <+: KindTree.segments protocol' ∧
    KindTree.segments protocol' ≠ KindTree.segments protocol

instance (protocol protocol' : String) : Decidable (Below protocol protocol') :=
  inferInstanceAs (Decidable (_ ∧ _))

section Writes

variable {t : KindTree} {protocol : String} {link : IpldLink}

/-- **An insertion is a map insert, iff no stored ID is strictly above or below its ID.** -/
theorem insertsOne_iff (h : t.Reachable) (protocol : String) (link : IpldLink) :
    t.InsertsOne protocol link ↔ ∀ protocol', (t.getProtocol protocol').isSome = true →
      ¬ Below protocol' protocol ∧ ¬ Below protocol protocol' := by
  constructor
  · rintro ⟨hself, hothers⟩ protocol' hbound
    obtain ⟨link', hget⟩ := Option.isSome_iff_exists.mp hbound
    constructor
    · -- The leaf above stays, so that the insertion is below it.
      rintro ⟨hpre, hne⟩
      have hnot : ¬ KindTree.segments protocol <+: KindTree.segments protocol' :=
        fun hpre' => hne (hpre'.eq_of_length_le hpre.length_le)
      have hstays : (t.insertProtocol protocol link).getProtocol protocol' = some link' :=
        (getProtocol_insert_of_not_isPrefix hnot).trans hget
      have hbelow : (t.insertProtocol protocol link).getProtocol protocol = none :=
        kindTreeGet_below_leaf _ _ hstays hpre hne
      rw [hself] at hbelow
      exact absurd hbelow (by simp)
    · rintro ⟨hpre, hne⟩
      have hsame := hothers protocol' fun heq => hne (segments_inj.mpr heq)
      rw [getProtocol_insert_below hpre hne, hget] at hsame
      exact absurd hsame (by simp)
  · intro hfree
    constructor
    · refine kindTreeGet_insert_self _ (segments_ne_nil protocol) fun path hpre hne => ?_
      refine Option.eq_none_iff_forall_ne_some.mpr fun link' hget => ?_
      obtain ⟨protocol', rfl⟩ := h.invariant.named path link' hget
      refine (hfree protocol' ?_).1 ⟨hpre, fun heq => hne heq.symm⟩
      exact Option.isSome_iff_exists.mpr ⟨link', hget⟩
    · intro protocol' hne
      by_cases hpre : KindTree.segments protocol <+: KindTree.segments protocol'
      · have hbelow : Below protocol protocol' := ⟨hpre, fun heq => hne (segments_inj.mp heq)⟩
        rw [getProtocol_insert_below hpre hbelow.2]
        cases hget : t.getProtocol protocol' with
        | none => rfl
        | some link' => exact absurd hbelow (hfree protocol' (by rw [hget]; rfl)).2
      · exact getProtocol_insert_of_not_isPrefix hpre

/-- What holds of the stored IDs can be read off the listing. -/
theorem KindTree.Invariant.forall_stored (h : t.Invariant) {P : String → Prop}
    (hid : ∀ protocol', P (protocolId protocol') → P protocol')
    (hlisted : ∀ id ∈ t.protocolIds, P id) :
    ∀ protocol', (t.getProtocol protocol').isSome = true → P protocol' := by
  intro protocol' hbound
  obtain ⟨link, hget⟩ := Option.isSome_iff_exists.mp hbound
  exact hid protocol' (hlisted _ (h.mem_protocolIds.mpr ⟨protocol', link, hget, rfl⟩))

set_option maxRecDepth 100000

/-- A third kind of the family, beside the stored two. -/
theorem insertsOne_family : family.InsertsOne "/ma/c" ⟨"bafyC"⟩ := by
  refine (@insertsOne_iff family family_reachable "/ma/c" ⟨"bafyC"⟩).mpr ?_
  refine family_reachable.invariant.forall_stored (fun protocol' h => ?_) (by decide +kernel)
  rwa [Below, Below, segments_protocolId] at h

/-- A kind below a stored one is dropped, and one above the stored ones takes their place. -/
theorem insert_blocked : family.Reachable ∧ ¬ family.InsertsOne "/ma/a/v2" ⟨"bafyC"⟩ ∧
    ¬ family.InsertsOne "/ma" ⟨"bafyC"⟩ := by
  refine ⟨family_reachable, fun h => ?_, fun h => ?_⟩
  · exact absurd h.1 (by decide +kernel)
  · exact absurd (h.2 "/ma/a" (by decide +kernel)) (by decide +kernel)

/-- The flag of a removal says whether something is bound at or below its path. -/
theorem kindTreeRemove_flag : ∀ (path : List String) {map : List (String × KindTreeNode)},
    path ≠ [] → WellFormedEntries map → ((kindTreeRemove path map).2 = true ↔
      ∃ path' link, path <+: path' ∧ kindTreeGet path' map = some link)
  | [], _, hne, _ => absurd rfl hne
  | [key], map, _, h => by
    rw [kindTreeRemove, Option.isSome_iff_exists]
    constructor
    · rintro ⟨node, hlookup⟩
      obtain ⟨path', link, hget⟩ := exists_nodeGet (h.lookup hlookup)
      refine ⟨key :: path', link, List.cons_prefix_cons.mpr ⟨rfl, List.nil_prefix⟩, ?_⟩
      rwa [kindTreeGet_cons, hlookup, Option.bind_some]
    · rintro ⟨path', link, hpre, hget⟩
      obtain ⟨rest, rfl⟩ := hpre
      rw [List.singleton_append, kindTreeGet_cons] at hget
      obtain ⟨node, hlookup, -⟩ := Option.bind_eq_some_iff.mp hget
      exact ⟨node, hlookup⟩
  | key :: k2 :: rest, map, _, h => by
    have below {path' : List String} (hpre : key :: k2 :: rest <+: path') :
        ∃ rest', path' = key :: k2 :: rest' ∧ k2 :: rest <+: k2 :: rest' := by
      obtain ⟨rest', rfl⟩ := hpre
      exact ⟨rest ++ rest', rfl, List.cons_prefix_cons.mpr ⟨rfl, List.prefix_append _ _⟩⟩
    cases hlookup : map.lookup key with
    | none =>
      simp only [kindTreeRemove, hlookup]
      refine iff_of_false (by simp) ?_
      rintro ⟨path', link, hpre, hget⟩
      obtain ⟨rest', rfl, -⟩ := below hpre
      rw [kindTreeGet_none hlookup] at hget
      exact absurd hget (by simp)
    | some node =>
      cases node with
      | leaf link' =>
        simp only [kindTreeRemove, hlookup]
        refine iff_of_false (by simp) ?_
        rintro ⟨path', link, hpre, hget⟩
        obtain ⟨rest', rfl, -⟩ := below hpre
        exact absurd hget (by simp [kindTreeGet, hlookup])
      | branch inner =>
        have ih := kindTreeRemove_flag (k2 :: rest) (by simp) (h.inner hlookup)
        have hflag : (kindTreeRemove (key :: k2 :: rest) map).2 =
            (kindTreeRemove (k2 :: rest) inner).2 := by
          simp only [kindTreeRemove, hlookup]
          split <;> rfl
        rw [hflag, ih]
        constructor
        · rintro ⟨path', link, hpre, hget⟩
          refine ⟨key :: path', link, List.cons_prefix_cons.mpr ⟨rfl, hpre⟩, ?_⟩
          rwa [kindTreeGet_branch hlookup]
        · rintro ⟨path', link, hpre, hget⟩
          obtain ⟨rest', rfl, hpre'⟩ := below hpre
          rw [kindTreeGet_branch hlookup] at hget
          exact ⟨_, link, hpre', hget⟩

/-- **A removal removes one kind, iff no stored ID is strictly below its ID.** -/
theorem removesOne_iff (h : t.Reachable) (protocol : String) :
    t.RemovesOne protocol ↔ ∀ protocol', (t.getProtocol protocol').isSome = true →
      ¬ Below protocol protocol' := by
  constructor
  · rintro ⟨-, -, hothers⟩ protocol' hbound ⟨hpre, hne⟩
    have hsame := hothers protocol' fun heq => hne (segments_inj.mpr heq)
    rw [getProtocol_remove_below hpre] at hsame
    rw [← hsame] at hbound
    exact absurd hbound (by simp)
  · intro hfree
    have hflag := kindTreeRemove_flag _ (segments_ne_nil protocol) h.invariant.wellFormed
    refine ⟨hflag.trans ⟨?_, ?_⟩, getProtocol_remove_below (List.prefix_refl _), ?_⟩
    · rintro ⟨path, link, hpre, hget⟩
      obtain ⟨protocol', rfl⟩ := h.invariant.named path link hget
      have hbound : (t.getProtocol protocol').isSome = true :=
        Option.isSome_iff_exists.mpr ⟨link, hget⟩
      have hsegments : KindTree.segments protocol' = KindTree.segments protocol :=
        by_contra fun hne => hfree protocol' hbound ⟨hpre, hne⟩
      rwa [← getProtocol_congr hsegments]
    · intro hbound
      obtain ⟨link, hget⟩ := Option.isSome_iff_exists.mp hbound
      exact ⟨_, link, List.prefix_refl _, hget⟩
    · intro protocol' hne
      by_cases hpre : KindTree.segments protocol <+: KindTree.segments protocol'
      · have hbelow : Below protocol protocol' := ⟨hpre, fun heq => hne (segments_inj.mp heq)⟩
        rw [getProtocol_remove_below hpre]
        cases hget : t.getProtocol protocol' with
        | none => rfl
        | some link => exact absurd hbelow (hfree protocol' (by rw [hget]; rfl))
      · exact getProtocol_remove_of_not_isPrefix hpre

/-- One kind of the family goes, the other stays. -/
theorem removesOne_family : family.RemovesOne "/ma/a" := by
  refine (@removesOne_iff family family_reachable "/ma/a").mpr ?_
  refine family_reachable.invariant.forall_stored (fun protocol' h => ?_) (by decide +kernel)
  rwa [Below, segments_protocolId] at h

/-- The removal of an ID that names no kind wipes the family, and says something was removed. -/
theorem remove_wipes : family.Reachable ∧ family.getProtocol "/ma" = none ∧
    family.removed "/ma" = true ∧ (family.removeProtocol "/ma").protocolIds = [] ∧
    ¬ family.RemovesOne "/ma" := by
  refine ⟨family_reachable, by decide +kernel, by decide +kernel, by decide +kernel, fun h => ?_⟩
  exact absurd (h.2.2 "/ma/a" (by decide +kernel)) (by decide +kernel)

end Writes

end MaRuntime
