import MaRuntime.Lib.Run
import MaRuntime.Plugin

/-!
# Startup and shutdown of the entities (`src/bootstrap.rs`)

`loadEntities` fills the registry from a root manifest; `saveAllEntityStates` writes the states of
the stateful entities back into one.
-/

namespace MaRuntime

open Lib (Proc Run)

/-- One entity of `load_entities`: whether it was loaded. Every failure skips the entity. -/
def loadEntity (env : Env) (manifest : RuntimeManifest) (name : String) (link : IpldLink) :
    M Bool := do
  match ← (dagGet env.kubo.entities link.cid).attempt with
  | .error _ => pure false
  | .ok node =>
    match manifest.kinds.getProtocol node.kind with
    | none => pure false
    | some kindLink =>
      match ← (dagGet env.kubo.kinds kindLink.cid).attempt with
      | .error _ => pure false
      | .ok kindNode =>
        match ← (load env name node kindNode).attempt with
        | .error _ => pure false
        | .ok (ep, _) => do
          writing .entityRegistry (modifyRt fun rt =>
            { rt with entityRegistry := rt.entityRegistry.insert name ep })
          pure true

/-- `load_entities`: how many were loaded. -/
def loadEntities (env : Env) (rootCid : Cid) : M Nat := do
  match ← (dagGet env.kubo.manifests rootCid).attempt with
  | .error _ => pure 0
  | .ok manifest =>
    Proc.fold manifest.entities.toList 0 fun loaded (name, link) => do
      pure (if ← loadEntity env manifest name link then loaded + 1 else loaded)

/-- The node of an entity whose state was saved. -/
def savedNode (node : EntityNode) (stateCid : Cid) : EntityNode :=
  { node with
    state := some ⟨stateCid⟩
    lifecycle := if node.lifecycle = .running then .stopped else node.lifecycle }

/-- One entity of `save_all_entity_states`, where the loop carries a manifest in `s` and `relink`
links the entity anew. Every failure skips the entity. -/
def saveEntityStateWith {σ : Type} (manifestOf : σ → RuntimeManifest)
    (relink : σ → String → Cid → σ) (env : Env) (s : σ) (name : String) (entity : EntityPlugin) :
    M σ :=
  if entity.kind = .stateless then pure s
  else do
    match ← (triggerSave env entity).attempt with
    | .ok (some stateCid) =>
      match (manifestOf s).entities[name]? with
      | none => pure s
      | some entityLink =>
        match ← (dagGet env.kubo.entities entityLink.cid).attempt with
        | .error _ => pure s
        | .ok entityNode =>
          match ← (dagPut env.kubo.entities (savedNode entityNode stateCid)).attempt with
          | .ok newCid => pure (relink s name newCid)
          | .error _ => pure s
    | .ok none => pure s
    | .error _ => pure s

/-- One entity of `save_all_entity_states`: the loop carries the manifest. -/
def saveEntityState (env : Env) : RuntimeManifest → String → EntityPlugin → M RuntimeManifest :=
  saveEntityStateWith (fun manifest => manifest)
    (fun manifest name newCid =>
      { manifest with entities := manifest.entities.insert name ⟨newCid⟩ }) env

/-- `save_all_entity_states`, by what its loop starts from, does for one entity, and what is done
(`publish`) with the outcome. -/
def saveAllEntityStatesWith {σ α : Type} (start : RuntimeManifest → σ)
    (step : σ → String → EntityPlugin → M σ) (publish : σ → M α) (env : Env) (rootCid : Cid) :
    M α := do
  let manifest ← withContext "fetching current runtime manifest"
    (dagGet env.kubo.manifests rootCid)
  let snapshot ← reading .entityRegistry (getRt fun rt => rt.entityRegistry.toList)
  let s ← Proc.fold snapshot (start manifest) fun s (name, entity) => step s name entity
  publish s

/-- `save_all_entity_states`: the new root. -/
def saveAllEntityStates (env : Env) (rootCid : Cid) : M Cid :=
  saveAllEntityStatesWith (fun manifest => manifest) (saveEntityState env) (fun manifest => do
    let newRootCid ← withContext "dag_put updated manifest" (dagPut env.kubo.manifests manifest)
    let _ ← (pinUpdate env rootCid newRootCid).attempt
    pure newRootCid) env rootCid

/-! ## Frames -/

section Frames

variable {g : Lib.Guards Lock}

theorem calm_loadEntity (env : Env) (hg : g.excludes .entityRegistry .write = false)
    (manifest : RuntimeManifest) (name : String) (link : IpldLink) :
    Proc.Calm g PluginsOnly (loadEntity env manifest name link) := by
  have idle {α : Type} {p : M α} (h : Proc.Calm g Idle p) : Proc.Calm g PluginsOnly p :=
    h.mono fun _ _ h => h.cellsOnly.pluginsOnly
  refine (idle (calm_dagGet _ _).attempt).bind fun r => ?_
  split
  · exact Proc.calm_pure _
  · split
    · exact Proc.calm_pure _
    · refine (idle (calm_dagGet _ _).attempt).bind fun r => ?_
      split
      · exact Proc.calm_pure _
      · refine ((calm_load env _ _ _).attempt.mono fun _ _ h => h.pluginsOnly).bind fun r => ?_
        split
        · exact Proc.calm_pure _
        · refine (calm_writing (R := PluginsOnly) hg fun _ => ?_).bind fun _ => Proc.calm_pure _
          rfl

theorem calm_loadEntities (env : Env) (hg : g.excludes .entityRegistry .write = false)
    (rootCid : Cid) : Proc.Calm g PluginsOnly (loadEntities env rootCid) := by
  refine ((calm_dagGet _ _).attempt.mono fun _ _ h => h.cellsOnly.pluginsOnly).bind fun r => ?_
  split
  · exact Proc.calm_pure _
  · exact Proc.Calm.fold (fun _ _ _ => (calm_loadEntity env hg _ _ _).bind fun _ =>
      Proc.calm_pure _) _

end Frames

/-! ## What a load does -/

/-- The end of the load of an entity: it is skipped, or its plugin is registered. -/
inductive LoadOutcome (env : Env) (name : String) (link : IpldLink) (w : World) :
    Bool → World → Prop where
  | skipped {w' : World} (h : Idle w w') : LoadOutcome env name link w false w'
  | loaded {node : EntityNode} {kindNode : KindNode} {ep : EntityPlugin} {lifecycle : Lifecycle}
      {w1 : World} (hnode : env.kubo.entities.denotes link.cid = some node)
      (hload : load env name node kindNode [] (w.afterCalls 2) = (.ok (ep, lifecycle), w1)) :
      LoadOutcome env name link w true
        { w1 with rt := { w1.rt with entityRegistry := w1.rt.entityRegistry.insert name ep } }

/-- **What a load does.** -/
theorem loadEntity_run (env : Env) (manifest : RuntimeManifest) (name : String) (link : IpldLink)
    (w : World) : ∃ loaded w', loadEntity env manifest name link [] w = (.ok loaded, w') ∧
      LoadOutcome env name link w loaded w' := by
  suffices hsat : (loadEntity env manifest name link).Sat [] w fun o w' =>
      ∃ loaded, o = .ok loaded ∧ LoadOutcome env name link w loaded w' by
    obtain ⟨loaded, ho, hloaded⟩ := hsat
    exact ⟨loaded, _, Prod.ext ho rfl, hloaded⟩
  refine (calm_dagGet env.kubo.entities link.cid).sat_attempt_bind fun r w1 hget h1 => ?_
  split
  · exact ⟨false, rfl, .skipped h1⟩
  · rename_i node
    have hnode := dagGet_ok (Proc.attempt_ok hget)
    obtain ⟨-, rfl⟩ := dagGet_run_ok (Proc.attempt_ok hget)
    split
    · exact ⟨false, rfl, .skipped h1⟩
    · rename_i kindLink _
      refine (calm_dagGet env.kubo.kinds kindLink.cid).sat_attempt_bind fun r w2 hget h2 => ?_
      have h12 := trans_of Idle h1 h2
      split
      · exact ⟨false, rfl, .skipped h12⟩
      · rename_i kindNode
        obtain ⟨-, rfl⟩ := dagGet_run_ok (Proc.attempt_ok hget)
        refine (calm_load env name node kindNode).sat_attempt_bind fun r w3 hload _ => ?_
        split
        · rcases load_sat.of_run (Proc.attempt_error hload) with ⟨_, hok⟩ | hidle
          · exact absurd hok (by simp)
          · exact ⟨false, rfl, .skipped (trans_of Idle h12 hidle)⟩
        · exact writing_bind rfl ⟨true, rfl, .loaded hnode (Proc.attempt_ok hload)⟩

/-- **What holds of the registry, and still with each entity of the manifest that loads, holds after
the loads.** -/
theorem loadEntities_keeps {env : Env} {I : StrMap EntityPlugin → Prop} {rc : Cid} {w : World}
    (hinsert : ∀ {m : RuntimeManifest} {name : String} {link : IpldLink} {node : EntityNode}
      {kindNode : KindNode} {ep : EntityPlugin} {lifecycle : Lifecycle} {w1 w2 : World}
      {registry : StrMap EntityPlugin}, env.kubo.manifests.denotes rc = some m →
      m.entities[name]? = some link → env.kubo.entities.denotes link.cid = some node →
      load env name node kindNode [] w1 = (.ok (ep, lifecycle), w2) → I registry →
      I (registry.insert name ep))
    (h : I w.rt.entityRegistry) :
    (loadEntities env rc).Sat [] w fun _ w' => I w'.rt.entityRegistry := by
  have idle {w w' : World} (h : I w.rt.entityRegistry) (hidle : Idle w w') :
      I w'.rt.entityRegistry := by
    rwa [show w'.rt = w.rt from hidle]
  refine (calm_dagGet env.kubo.manifests rc).sat_attempt_bind fun r w1 hget h1 => ?_
  have h1 := idle h h1
  split
  · exact h1
  · rename_i m
    have hm := dagGet_ok (Proc.attempt_ok hget)
    refine Proc.sat_fold (I := fun _ w => I w.rt.entityRegistry) (fun _ _ h => h) _ ?_ 0 w1 h1
    rintro n ⟨name, link⟩ hentry w2 h2
    have hlink := Std.ExtTreeMap.mem_toList_iff_getElem?_eq_some.mp hentry
    obtain ⟨loaded, w3, hrun, hload⟩ := loadEntity_run env m name link w2
    refine Proc.sat_bind_of_ok hrun ?_
    cases hload with
    | skipped hidle => exact idle h2 hidle
    | @loaded node kindNode ep lifecycle w4 hnode hload =>
      have hcells := ((calm_load env name node kindNode).of_run hload).2
      have h4 : I w4.rt.entityRegistry := by
        rw [hcells.entityRegistry]
        exact h2
      exact hinsert hm hlink hnode hload h4

/-! ## What a save writes -/

/-- One entity is linked anew: its node has the saved state. -/
inductive Relink (env : Env) : RuntimeManifest → String × Cid → RuntimeManifest → Prop where
  | intro {m : RuntimeManifest} {name : String} {cid stateCid : Cid} {link : IpldLink}
      {node : EntityNode} (hlink : m.entities[name]? = some link)
      (hnode : env.kubo.entities.denotes link.cid = some node)
      (hcid : env.kubo.entities.denotes cid = some (savedNode node stateCid)) :
      Relink env m (name, cid) { m with entities := m.entities.insert name ⟨cid⟩ }

/-- Links anew keep the names. -/
theorem relinks_names {env : Env} {m m' : RuntimeManifest} {links : List (String × Cid)}
    (h : Run (Relink env) m links m') (name : String) : name ∈ m'.entities ↔ name ∈ m.entities := by
  refine h.invariant (I := fun m' => name ∈ m'.entities ↔ name ∈ m.entities)
    (fun {m1 _ m2} h1 hstep => ?_) Iff.rfl
  obtain ⟨hlink, -, -⟩ := hstep
  rename_i name' _ _ _ _
  rw [← h1, mem_insert_iff]
  refine ⟨?_, .inr⟩
  rintro (rfl | hmem)
  · exact Std.ExtTreeMap.mem_iff_isSome_getElem?.mpr (by rw [hlink]; rfl)
  · exact hmem

/-- Saving an entity moves along whatever the save of its state and Kubo's requests move along. -/
theorem keeps_saveEntityState {env : Env} {R : World → World → Prop} [IsPreorder World R]
    {entity : EntityPlugin}
    (hkubo : ∀ {α : Type} (call : Nat → Except Error α), Proc.Keeps R (kuboCall call))
    (hsave : entity.kind = .stateful → Proc.Keeps R (triggerSave env entity))
    (manifest : RuntimeManifest) (name : String) :
    Proc.Keeps R (saveEntityState env manifest name entity) := by
  unfold saveEntityState saveEntityStateWith
  split
  · exact Proc.keeps_pure _
  · rename_i hkind
    have hstateful : entity.kind = .stateful := by
      cases h : entity.kind with
      | stateless => exact absurd h hkind
      | stateful => rfl
    refine (hsave hstateful).attempt.bind fun r => ?_
    split
    · split
      · exact Proc.keeps_pure _
      · refine (hkubo _).attempt.bind fun r => ?_
        split
        · exact Proc.keeps_pure _
        · refine (hkubo _).attempt.bind fun r => ?_
          split
          · exact Proc.keeps_pure _
          · exact Proc.keeps_pure _
    · exact Proc.keeps_pure _
    · exact Proc.keeps_pure _

section Saves

variable {env : Env}

/-- Saving an entity links it anew, or leaves the manifest. -/
theorem saveEntityState_sat {manifest : RuntimeManifest} {name : String} {ep : EntityPlugin}
    {w : World} : (saveEntityState env manifest name ep).Sat [] w fun o w' => CellsOnly w w' ∧
      ∃ m, o = .ok m ∧ (m = manifest ∨ ∃ link, Relink env manifest link m) := by
  unfold saveEntityState saveEntityStateWith
  split
  · exact ⟨refl_of CellsOnly w, _, rfl, .inl rfl⟩
  · obtain ⟨r, w1, hsave⟩ := (calm_triggerSave (g := []) env ep).frees.attempt_run w
    have h1 := ((calm_triggerSave env ep).attempt.of_run hsave).2
    refine Proc.sat_bind_of_ok hsave ?_
    split
    · rename_i stateCid
      split
      · exact ⟨h1, _, rfl, .inl rfl⟩
      · rename_i link hlink
        obtain ⟨r, w2, hget⟩ :=
            (calm_dagGet (g := []) env.kubo.entities link.cid).frees.attempt_run w1
        have h2 := ((calm_dagGet env.kubo.entities link.cid).attempt.of_run hget).2
        have h12 := trans_of CellsOnly h1 h2.cellsOnly
        refine Proc.sat_bind_of_ok hget ?_
        split
        · exact ⟨h12, _, rfl, .inl rfl⟩
        · rename_i node
          obtain ⟨r, w3, hput⟩ := (calm_dagPut (g := []) env.kubo.entities
            (savedNode node stateCid)).frees.attempt_run w2
          have h3 := ((calm_dagPut env.kubo.entities
            (savedNode node stateCid)).attempt.of_run hput).2
          have h13 := trans_of CellsOnly h12 h3.cellsOnly
          refine Proc.sat_bind_of_ok hput ?_
          split
          · rename_i cid
            exact ⟨h13, _, rfl, .inr ⟨(name, cid), .intro hlink
              (dagGet_ok (Proc.attempt_ok hget)) (dagPut_ok (Proc.attempt_ok hput))⟩⟩
          · exact ⟨h13, _, rfl, .inl rfl⟩
    · exact ⟨h1, _, rfl, .inl rfl⟩
    · exact ⟨h1, _, rfl, .inl rfl⟩

/-- **What `save_all_entity_states` does**: it moves plugin cells, and the new root is the old one
with entities linked anew. -/
theorem saveAllEntityStates_sat {root : Cid} {w : World} :
    (saveAllEntityStates env root).Sat [] w fun o w' => CellsOnly w w' ∧
      ∀ newRoot, o = .ok newRoot → ∃ m links m', env.kubo.manifests.denotes root = some m ∧
        Run (Relink env) m links m' ∧ env.kubo.manifests.denotes newRoot = some m' := by
  have hget := calm_withContext "fetching current runtime manifest"
    (calm_dagGet (g := []) env.kubo.manifests root)
  refine hget.sat_bind (fun e w1 h1 => ⟨h1.cellsOnly, by simp⟩) fun m w1 hrun h1 => ?_
  have hm := dagGet_ok (withContext_ok hrun)
  refine Proc.sat_bind_of_ok (a := w1.rt.entityRegistry.toList) (t := w1) rfl ?_
  have hloop := Proc.sat_fold (f := fun manifest (entry : String × EntityPlugin) =>
      saveEntityState env manifest entry.1 entry.2) (g := [])
    (I := fun manifest w' => CellsOnly w w' ∧ ∃ links, Run (Relink env) m links manifest)
    (Q := fun o w' => CellsOnly w w' ∧
      ∃ manifest links, o = .ok manifest ∧ Run (Relink env) m links manifest)
    (fun manifest w' ⟨h, links, hlinks⟩ => ⟨h, manifest, links, rfl, hlinks⟩)
    w1.rt.entityRegistry.toList
    (fun manifest entry _ w2 ⟨h2, links, hlinks⟩ =>
      saveEntityState_sat.mono fun o w3 ⟨h3, manifest', ho, hstep⟩ => by
        subst ho
        refine ⟨trans_of CellsOnly h2 h3, ?_⟩
        rcases hstep with rfl | ⟨link, hlink⟩
        · exact ⟨links, hlinks⟩
        · exact ⟨links ++ [link], hlinks.append (.cons hlink (.nil _))⟩)
    m w1 ⟨h1.cellsOnly, [], .nil m⟩
  refine Proc.sat_bind (hloop.mono fun o w2 ⟨h2, manifest, links, ho, hlinks⟩ => ?_)
  subst ho
  have hput := calm_withContext "dag_put updated manifest"
    (calm_dagPut (g := []) env.kubo.manifests manifest)
  refine hput.sat_bind (fun e w3 h3 => ⟨trans_of CellsOnly h2 h3.cellsOnly, by simp⟩)
    fun newRoot w3 hrun h3 => ?_
  have hnew := dagPut_ok (withContext_ok hrun)
  refine (calm_pinUpdate env root newRoot).sat_attempt_bind fun r w4 _ h4 => ?_
  refine ⟨trans_of CellsOnly h2 (trans_of CellsOnly h3.cellsOnly h4.cellsOnly), ?_⟩
  intro newRoot' ho
  obtain rfl : newRoot = newRoot' := by simpa using ho
  exact ⟨m, links, manifest, hm, hlinks, hnew⟩

end Saves

end MaRuntime
