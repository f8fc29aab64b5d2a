import MaRuntime.EntityForest
import MaRuntime.Crud.Effect

/-!
# Deletes over CRUD

A CRUD delete of an entity takes it out of the registry and out of the manifest, and asks for the
capability only: not for children, as a plugin's deletion request does.

* `entityDelete_whole_iff`: a delete that went through leaves no orphan, iff the entity was
  childless.
* **`crud_deletes_keep_tree`**: over any sequence of deletes of childless entities no orphan
  appears.
* `delete_leaves_orphan`: a delete of a parent leaves one, in the registry and in the manifest.
-/

namespace MaRuntime

open Lib (Cbor Proc Run)

/-- The entities of a manifest and their parents, as far as their nodes can be read. -/
def manifestParents (env : Env) (m : RuntimeManifest) : Lib.Parents String :=
  fun name => m.entities[name]?.map fun link =>
    (env.kubo.entities.denotes link.cid).bind (·.parent)

/-- Every parent exists: in the registry, and in the manifest at the root. -/
structure TreeWhole (env : Env) (rt : Runtime) : Prop where
  registry : (parentsOf rt.entityRegistry).Closed
  manifest : ∀ m, AtRoot env rt m → (manifestParents env m).Closed

/-- No other entity has it as its parent, in the registry or in the manifest at the root. -/
structure Childless (env : Env) (rt : Runtime) (name : String) : Prop where
  registry : ∀ child, child ≠ name → ¬ (parentsOf rt.entityRegistry).ChildOf child name
  manifest : ∀ m, AtRoot env rt m →
    ∀ child, child ≠ name → ¬ (manifestParents env m).ChildOf child name

/-- The message asks for the deletion of the entity. -/
def AsksDelete (env : Env) (message : Message) (name : String) : Prop :=
  crudRequest env message = some ("entities", [name], .put [])

/-- The sender gets past the gate and holds what a deletion takes. -/
def Privileged (env : Env) (rt : Runtime) (sender : String) : Prop :=
  PassesCrudGate env rt sender ∧
    checkFullNoGroups env.core rt.rootAcl sender ["delete", "entities"] = .ok ()

/-- A delete, of a childless entity if its sender is privileged. -/
inductive ChildlessDelete (env : Env) (w : World) (message : Message) : World → Prop
  | intro {name : String} (hasks : AsksDelete env message name)
      (hchildless : Privileged env w.rt message.from → Childless env w.rt name) :
      ChildlessDelete env w message (crudTurn env message [] w).2

section Deletes

variable {env : Env}

theorem manifestParents_erase (m : RuntimeManifest) (name : String) :
    manifestParents env { m with entities := m.entities.erase name } =
      Function.update (manifestParents env m) name none :=
  map_getElem?_erase m.entities _ name

/-- The registry entry is gone and the manifest is rewritten: whole, iff the entity was
childless. -/
theorem whole_of_erased_iff {name : String} {newCid : Cid} {rt rt' : Runtime}
    (hwhole : TreeWhole env rt)
    (hw : ManifestWrite env (fun m => { m with entities := m.entities.erase name })
      { rt with entityRegistry := rt.entityRegistry.erase name } newCid rt') :
    TreeWhole env rt' ↔ Childless env rt name := by
  have hregistry : parentsOf rt'.entityRegistry =
      Function.update (parentsOf rt.entityRegistry) name none := by
    rw [hw.frame]
    exact parentsOf_erase name
  obtain ⟨m, hm, hm'⟩ := hw.atRoot
  have hm : AtRoot env rt m := hm
  have hpruned := (hwhole.registry.prune_iff name)
  have hpruned' := ((hwhole.manifest m hm).prune_iff name)
  rw [← hregistry] at hpruned
  rw [← manifestParents_erase] at hpruned'
  constructor
  · rintro ⟨hr, hmanifest⟩
    refine ⟨hpruned.mp hr, fun m1 hm1 => ?_⟩
    obtain rfl := hm1.eq hm
    exact hpruned'.mp (hmanifest _ hm')
  · rintro ⟨hr, hmanifest⟩
    refine ⟨hpruned.mpr hr, fun m1 hm1 => ?_⟩
    obtain rfl := hm1.eq hm'
    exact hpruned'.mpr (hmanifest m hm)

theorem deleteEntity_ok {message : Message} {name : String} {w w' : World}
    (h : deleteEntity env message name [] w = (.ok (), w')) :
    ∃ newCid, ManifestWrite env (fun m => { m with entities := m.entities.erase name })
      { w.rt with entityRegistry := w.rt.entityRegistry.erase name } newCid w'.rt := by
  obtain ⟨_, w1, hcap, h⟩ := Proc.bind_ok h
  have h1 : w1.rt = w.rt := ((calm_checkEntityManagementCap message _).of_run hcap).2
  obtain ⟨_, w2, hwrite, h⟩ := Proc.bind_ok h
  obtain ⟨newCid, w3, hmanifest, h⟩ := Proc.bind_ok h
  have h4 : w'.rt = w3.rt := ((calm_sendCrudReply message _).of_run h).2
  have h2 : w2.rt = { w.rt with entityRegistry := w.rt.entityRegistry.erase name } := by
    rw [← h1]
    exact congrArg (fun p => p.2.rt) hwrite.symm
  rcases withManifestCrud_run hmanifest with ⟨newCid', -, hw⟩ | ⟨e, herr, -⟩
  · rw [h2] at hw
    exact ⟨newCid', h4 ▸ hw⟩
  · exact absurd herr (by simp)

/-- The manifest without the entity. -/
def withoutEntity (name : String) (m : RuntimeManifest) : RuntimeManifest :=
  { m with entities := m.entities.erase name }

/-- **What a delete does**: without the capability nothing, else the registry entry goes, and the
manifest follows if Kubo lets it through. -/
theorem deleteEntity_cases {message : Message} {name : String} {w : World} :
    (deleteEntity env message name).Sat [] w fun _ w' =>
      checkFullNoGroups env.core w.rt.rootAcl message.from ["delete", "entities"] ≠ .ok () ∧
          Idle w w' ∨
        checkFullNoGroups env.core w.rt.rootAcl message.from ["delete", "entities"] = .ok () ∧
          (Rewritable env (withoutEntity name) w ∧
              (∃ newCid, ManifestWrite env (withoutEntity name)
                { w.rt with entityRegistry := w.rt.entityRegistry.erase name } newCid w'.rt) ∨
            ¬ Rewritable env (withoutEntity name) w ∧
              w'.rt = { w.rt with entityRegistry := w.rt.entityRegistry.erase name }) := by
  by_cases hcap : checkFullNoGroups env.core w.rt.rootAcl message.from ["delete", "entities"] =
    .ok ()
  · have hgate :
        checkEntityManagementCap env message ["delete", "entities"] [] w = (.ok (), w) := by
      unfold checkEntityManagementCap reading
      rw [Proc.holding_run rfl, Proc.bind_of_ok (a := w.rt.rootAcl) (t := w) rfl, hcap]
      rfl
    refine Proc.sat_bind_of_ok hgate (writing_bind rfl ?_)
    refine Proc.sat_bind ((withManifestCrud_rewrites (f := withoutEntity name)).mono
      fun o w' h => ?_)
    rcases h with ⟨hkubo, newCid, rfl, hw⟩ | ⟨hkubo, ⟨e, rfl⟩, hidle⟩
    · refine (calm_sendCrudReply message _).sat fun _ w2 _ h2 => ?_
      rw [show w2.rt = w'.rt from h2]
      exact .inr ⟨hcap, .inl ⟨hkubo, newCid, hw⟩⟩
    · exact .inr ⟨hcap, .inr ⟨hkubo, hidle⟩⟩
  · refine (calm_checkEntityManagementCap message _).sat_bind (fun e w1 h1 => .inl ⟨hcap, h1⟩)
      fun _ w1 hrun _ => absurd (checkEntityManagementCap_ok hrun) hcap

/-- **What a turn with a delete does.** -/
theorem deleteTurn_cases {message : Message} {name : String} {w : World}
    (hasks : AsksDelete env message name) :
    ¬ Privileged env w.rt message.from ∧ (crudTurn env message [] w).2.rt = w.rt ∨
      Privileged env w.rt message.from ∧
        (Rewritable env (withoutEntity name) w ∧
            (∃ newCid, ManifestWrite env (withoutEntity name)
              { w.rt with entityRegistry := w.rt.entityRegistry.erase name } newCid
              (crudTurn env message [] w).2.rt) ∨
          ¬ Rewritable env (withoutEntity name) w ∧ (crudTurn env message [] w).2.rt =
            { w.rt with entityRegistry := w.rt.entityRegistry.erase name }) := by
  by_cases hgate : PassesCrudGate env w.rt message.from
  · have hdelete := @deleteEntity_cases env message name w
    rw [crudTurn_of_request hasks hgate]
    rcases hdelete with ⟨hcap, hidle⟩ | ⟨hcap, h⟩
    · exact .inl ⟨fun h => hcap h.2, hidle⟩
    · exact .inr ⟨⟨hgate, hcap⟩, h⟩
  · rcases crudTurn_cases env message w with ⟨hgate', -⟩ | ⟨e, hturn⟩
    · exact absurd hgate' hgate
    · exact .inl ⟨fun h => hgate h.1, by rw [hturn]⟩

/-- **A delete that went through leaves no orphan, iff the entity was childless.** -/
theorem entityDelete_whole_iff {message : Message} {name : String} {w w' : World}
    (hwhole : TreeWhole env w.rt) (hasks : AsksDelete env message name)
    (hturn : crudTurn env message [] w = (.ok (), w')) :
    TreeWhole env w'.rt ↔ Childless env w.rt name := by
  obtain ⟨newCid, hw⟩ := deleteEntity_ok (crudTurn_ok hasks hturn)
  exact whole_of_erased_iff hwhole hw

/-- One delete: it is refused, or takes a childless entity away, from the registry at least. -/
theorem ChildlessDelete.whole {w w' : World} {message : Message} (hwhole : TreeWhole env w.rt)
    (h : ChildlessDelete env w message w') : TreeWhole env w'.rt := by
  obtain @⟨name, hasks, hchildless⟩ := h
  have heffect := (crudTurn_effect env message w).2
  generalize (crudTurn env message [] w).2.rt = rt' at heffect ⊢
  cases heffect with
  | idle h => rwa [h]
  | request hreq hgate heff =>
    have hreq := hasks.symm.trans hreq
    cases heff
    case idle => exact hwhole
    case entityDelete hcap hw =>
      cases hreq
      exact (whole_of_erased_iff hwhole hw).mpr (hchildless ⟨hgate, hcap⟩)
    case entityDeleteCut hcap =>
      cases hreq
      have hleaf := hchildless ⟨hgate, hcap⟩
      refine ⟨?_, fun m hm => hwhole.manifest m hm⟩
      have hpruned := (hwhole.registry.prune_iff name).mpr hleaf.registry
      rwa [← parentsOf_erase] at hpruned
    all_goals exact absurd hreq (by simp)

/-- **Deletes of childless entities leave no orphan**, in the registry or in the manifest. -/
theorem crud_deletes_keep_tree {w w' : World} {messages : List Message}
    (hwhole : TreeWhole env w.rt) (hrun : Run (ChildlessDelete env) w messages w') :
    TreeWhole env w'.rt :=
  Run.invariant (I := fun w => TreeWhole env w.rt) (fun h hs => ChildlessDelete.whole h hs) hwhole
    hrun

end Deletes

/-- The two entities, as a manifest links them. -/
def gardenLinks : StrMap IpldLink :=
  ((∅ : StrMap IpldLink).insert "garden" ⟨"bafygarden"⟩).insert "rose" ⟨"bafyrose"⟩

/-- A manifest with the two entities, and those without one of them. -/
def gardenTables : Tables where
  manifests :=
    [("bafyroot", { entities := gardenLinks }),
      ("bafypruned", { entities := gardenLinks.erase "rose" }),
      ("bafyorphaned", { entities := gardenLinks.erase "garden" })]
  entities :=
    [("bafygarden", { kind := "/ma/plot/0.0.1", behaviour := none, acl := "open" }),
      ("bafyrose", { kind := "/ma/plant/0.0.1", behaviour := none, acl := "open",
                     parent := some "garden" })]

/-- The daemon with the two, in the registry and in the manifest. The owner may do everything. -/
def gardenStart : World where
  rt :=
    { gardenWorld.rt with
      stats := { rootCid := some "bafyroot", owners := ["did:ma:alice"] }
      rootAcl := (∅ : AclMap).insert "did:ma:alice" (.allow (.ofList ["*"])) }
  io := { calls := 0 }

/-- The owner deletes an entity. -/
def deleteMessage (name : String) : Message :=
  crudMessage "did:ma:alice" ":delete" (.text (":entities." ++ name))

theorem gardenStart_manifest {m : RuntimeManifest} (hm : AtRoot gardenTables.env gardenStart.rt m) :
    manifestParents gardenTables.env m = gardenParents := by
  have hroot : manifestAt gardenTables.env gardenStart.rt = some { entities := gardenLinks } := by
    decide +kernel
  obtain rfl := hm.eq (manifestAt_eq_some.mp hroot)
  unfold manifestParents gardenLinks
  rw [map_getElem?_insert, map_getElem?_insert]
  rfl

theorem gardenStart_whole : TreeWhole gardenTables.env gardenStart.rt := by
  refine ⟨gardenWorld_forest.closed, fun m hm => ?_⟩
  rw [gardenStart_manifest hm]
  exact gardenParents_forest.closed

theorem gardenParents_rose (child : String) : ¬ gardenParents.ChildOf child "rose" := by
  unfold Lib.Parents.ChildOf gardenParents
  by_cases hrose : child = "rose"
  · rw [hrose, Function.update_self]
    simp
  · rw [Function.update_of_ne hrose]
    by_cases hgarden : child = "garden"
    · rw [hgarden, Function.update_self]
      simp
    · rw [Function.update_of_ne hgarden]
      simp

set_option maxRecDepth 100000

/-- The owner deletes the child: nothing is left without its parent. -/
theorem crud_deletes_keep_tree_rose :
    TreeWhole gardenTables.env
      (crudTurn gardenTables.env (deleteMessage "rose") [] gardenStart).2.rt := by
  have hasks : AsksDelete gardenTables.env (deleteMessage "rose") "rose" := by
    unfold AsksDelete
    decide +kernel
  have hchildless : Childless gardenTables.env gardenStart.rt "rose" := by
    refine ⟨fun child _ => ?_, fun m hm child _ => ?_⟩
    · show ¬ (parentsOf gardenWorld.rt.entityRegistry).ChildOf child "rose"
      rw [gardenWorld_parents]
      exact gardenParents_rose child
    · rw [gardenStart_manifest hm]
      exact gardenParents_rose child
  exact crud_deletes_keep_tree gardenStart_whole (.cons (.intro hasks fun _ => hchildless) (.nil _))

/-- **The owner deletes the parent**: it is done, and the child is left, in the registry and in the
manifest. -/
theorem delete_leaves_orphan :
    TreeWhole gardenTables.env gardenStart.rt ∧
      AsksDelete gardenTables.env (deleteMessage "garden") "garden" ∧
      Privileged gardenTables.env gardenStart.rt (deleteMessage "garden").from ∧
      (crudTurn gardenTables.env (deleteMessage "garden") [] gardenStart).1 = .ok () ∧
      ¬ TreeWhole gardenTables.env
        (crudTurn gardenTables.env (deleteMessage "garden") [] gardenStart).2.rt := by
  have hasks : AsksDelete gardenTables.env (deleteMessage "garden") "garden" := by
    unfold AsksDelete
    decide +kernel
  have hok : (crudTurn gardenTables.env (deleteMessage "garden") [] gardenStart).1 = .ok () := by
    decide +kernel
  refine ⟨gardenStart_whole, hasks, ⟨.inl (by decide +kernel), by decide +kernel⟩, hok, fun h => ?_⟩
  have hchildless := (entityDelete_whole_iff gardenStart_whole hasks (Prod.ext hok rfl)).mp h
  refine hchildless.registry "rose" (by decide) ?_
  show parentsOf gardenWorld.rt.entityRegistry "rose" = _
  rw [gardenWorld_parents]
  rfl

end MaRuntime
