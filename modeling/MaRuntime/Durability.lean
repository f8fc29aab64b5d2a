import MaRuntime.Bootstrap
import MaRuntime.FiniteEnv
import MaRuntime.Snapshot

/-!
# State from one run to the next

A dispatch saves the bytes of a changed state, but links them nowhere; the shutdown asks every
stateful plugin for its state once more and links what it gets into the entity's node. As the host
ignores bytes that equal the snapshot, a state that a dispatch has saved is not handed over again,
and stays unlinked.

* `saveEntityState_saves`: what the shutdown does for one entity; `saveAll_saves` finds it among
  the others.
* `state_durable_iff`: after any run of dispatches the shutdown links the state exactly when it
  differs from the snapshot, or nothing is pending and the node links it already.
* `saved_state_is_lost`: one dispatch, a clean shutdown, and the state is gone.
-/

namespace MaRuntime

open Lib (Proc Run)

/-! ## Frames -/

/-- The cells in `S` are as before, and a failed Kubo call is not forgotten. -/
def SameCells (S : Nat → Prop) (w w' : World) : Prop :=
  (∀ i, S i → w'.rt.cells i = w.rt.cells i) ∧ (w.io.kuboFailed = true → w'.io.kuboFailed = true)

instance (S : Nat → Prop) : IsPreorder World (SameCells S) where
  refl _ := ⟨fun _ _ => rfl, id⟩
  trans _ _ _ h h' := ⟨fun i hi => (h'.1 i hi).trans (h.1 i hi), fun hf => h'.2 (h.2 hf)⟩

section Frames

variable {env : Env} {g : Lib.Guards Lock} {S : Nat → Prop}

theorem calm_kuboCall_cells {α : Type} (call : Nat → Except Error α) :
    Proc.Calm g (SameCells S) (kuboCall call) :=
  ⟨(calm_kuboCall call).frees, fun g w =>
    ⟨fun i _ => congrArg (fun rt : Runtime => rt.cells i) ((calm_kuboCall (g := g) call).keeps g w),
      (keeps_kuboCall_called call g w).kuboFailed⟩⟩

theorem calm_modifyCell_cells {j : Nat} (hj : ¬ S j) (f : PluginCell → PluginCell) :
    Proc.Calm g (SameCells S) (modifyCell j f) :=
  calm_modifyRt fun _ => ⟨fun i hi => Function.update_of_ne (fun h : i = j => hj (h ▸ hi)) _ _, id⟩

theorem calm_callExport_cells {j : Nat} (hj : ¬ S j) (ep : EntityPlugin) (exportName : String)
    (input : Bytes) : Proc.Calm g (SameCells S) (callExport env ep j exportName input) := by
  refine ⟨(calm_callExport env ep j exportName input).frees, fun g w => ⟨fun i hi => ?_, ?_⟩⟩
  · rcases hplay : playExport env w.io.calls exportName input (w.rt.cells j)
      { w.io with calls := w.io.calls + 1 } with ⟨result, cell, io⟩
    rw [callExport_run env ep j exportName input w hplay]
    exact Function.update_of_ne (fun h : i = j => hj (h ▸ hi)) _ _
  · exact (keeps_callExport_called ep j exportName input g w).kuboFailed

theorem calm_pinUpdate_cells (oldCid newCid : Cid) :
    Proc.Calm g (SameCells S) (pinUpdate env oldCid newCid) := by
  have pins (f : Io → Io) (hf : ∀ io, (f io).kuboFailed = io.kuboFailed) :
      Proc.Calm g (SameCells S) (modifyIo f) :=
    Proc.calm_update fun w => ⟨fun _ _ => rfl, fun h => (hf w.io).trans h⟩
  refine (calm_kuboCall_cells _).bind fun _ => (Proc.calm_look _).bind fun b => ?_
  split
  · exact pins _ fun _ => rfl
  · exact (calm_kuboCall_cells _).bind fun _ => pins _ fun _ => rfl

/-- A save touches the entity's own cell only. -/
theorem keeps_triggerSave_cells {ep : EntityPlugin} (hep : ∀ j, ep.backend = .extism j → ¬ S j) :
    Proc.Keeps (SameCells S) (triggerSave env ep) :=
  have hcell (j : Nat) (hj : ep.backend = .extism j) (f : PluginCell → PluginCell) :
      Proc.Keeps (SameCells S) (modifyCell j f) :=
    (calm_modifyCell_cells (g := []) (hep j hj) f).keeps
  keeps_triggerSave (fun call => (calm_kuboCall_cells (g := []) call).keeps)
    (fun j hj => (calm_callExport_cells (g := []) (hep j hj) _ _ _).keeps)
    (fun j hj => keeps_takePending (hcell j hj)) (keeps_markSaved hcell)

theorem keeps_saveEntityState_cells {ep : EntityPlugin}
    (hep : ∀ j, ep.backend = .extism j → ¬ S j) (manifest : RuntimeManifest) (name : String) :
    Proc.Keeps (SameCells S) (saveEntityState env manifest name ep) :=
  keeps_saveEntityState (fun call => (calm_kuboCall_cells (g := []) call).keeps)
    (fun _ => keeps_triggerSave_cells hep) manifest name

/-- Saving one entity leaves the links of the others. -/
theorem saveEntityState_other {ep : EntityPlugin} {manifest : RuntimeManifest}
    {name name' : String} (hname : name' ≠ name) {w : World} :
    (saveEntityState env manifest name' ep).Sat g w fun o _ =>
      ∃ m, o = .ok m ∧ m.entities[name]? = manifest.entities[name]? := by
  unfold saveEntityState saveEntityStateWith
  split
  · exact ⟨manifest, rfl, rfl⟩
  · refine (calm_triggerSave env ep).sat_attempt_bind fun r w1 _ _ => ?_
    split
    · split
      · exact ⟨manifest, rfl, rfl⟩
      · refine (calm_dagGet _ _).sat_attempt_bind fun r w2 _ _ => ?_
        split
        · exact ⟨manifest, rfl, rfl⟩
        · refine (calm_dagPut _ _).sat_attempt_bind fun r w3 _ _ => ?_
          split
          · refine ⟨_, rfl, ?_⟩
            simp [Std.ExtTreeMap.getElem?_insert, hname]
          · exact ⟨manifest, rfl, rfl⟩
    · exact ⟨manifest, rfl, rfl⟩
    · exact ⟨manifest, rfl, rfl⟩

end Frames

/-! ## Saving at shutdown -/

/-- The `save_state` export of the plugin in the cell hands over `state`, whenever it is called. -/
def SavesState (env : Env) (cell : PluginCell) (state : Bytes) : Prop :=
  ∀ n io, (∃ output, (playExport env n "save_state" [] cell io).1 = .ok output) ∧
    handedStates env n "save_state" [] cell io = [state]

/-- The bytes in the store under a link of a node. -/
def LinksState (env : Env) (node : EntityNode) (state : Bytes) : Prop :=
  ∃ link, node.state = some link ∧ env.kubo.blobs.denotes link.cid = some state

/-- The manifest names the entity, and Kubo holds its node. -/
def NamesNode (env : Env) (manifest : RuntimeManifest) (name : String) (node : EntityNode) : Prop :=
  ∃ link, manifest.entities[name]? = some link ∧ env.kubo.entities.denotes link.cid = some node

/-- The node of the entity under the root links `state`. -/
def Durable (env : Env) (root : Cid) (name : String) (state : Bytes) : Prop :=
  ∃ manifest node, env.kubo.manifests.denotes root = some manifest ∧
    NamesNode env manifest name node ∧ LinksState env node state

theorem NamesNode.unique {env : Env} {m : RuntimeManifest} {name : String}
    {node node' : EntityNode}
    (h : NamesNode env m name node) (h' : NamesNode env m name node') : node = node' := by
  obtain ⟨link, hlink, hnode⟩ := h
  obtain ⟨link', hlink', hnode'⟩ := h'
  obtain rfl := Option.some.inj (hlink.symm.trans hlink')
  exact Option.some.inj (hnode.symm.trans hnode')

theorem NamesNode.congr {env : Env} {m m' : RuntimeManifest} {name : String}
    {node : EntityNode}
    (h : NamesNode env m name node) (hlink : m'.entities[name]? = m.entities[name]?) :
    NamesNode env m' name node := by
  obtain ⟨link, hm, hnode⟩ := h
  exact ⟨link, hlink.trans hm, hnode⟩

/-- Under one root there is one node of a name. -/
theorem durable_iff {env : Env} {root : Cid} {name : String} {state : Bytes}
    {manifest : RuntimeManifest} {node : EntityNode}
    (hroot : env.kubo.manifests.denotes root = some manifest)
    (hnode : NamesNode env manifest name node) :
    Durable env root name state ↔ LinksState env node state := by
  refine ⟨fun ⟨m, n, hm, hn, h⟩ => ?_, fun h => ⟨manifest, node, hroot, hnode, h⟩⟩
  obtain rfl := Option.some.inj (hm.symm.trans hroot)
  obtain rfl := hn.unique hnode
  exact h

section Saving

variable {env : Env} {g : Lib.Guards Lock} {ep : EntityPlugin} {i : Nat} {w : World}
  {snapshot state : Bytes}

/-- The call of `save_state` hands the state over. -/
theorem callExport_saves (hsaves : SavesState env (w.rt.cells i) state) :
    ∃ output w1, callExport env ep i "save_state" [] g w = (.ok output, w1) ∧
      (w1.rt.cells i).state = (w.rt.cells i).state.setState state := by
  obtain ⟨⟨output, hok⟩, hhanded⟩ := hsaves w.io.calls { w.io with calls := w.io.calls + 1 }
  rcases hplay : playExport env w.io.calls "save_state" [] (w.rt.cells i)
    { w.io with calls := w.io.calls + 1 } with ⟨result, cell, io⟩
  rw [hplay] at hok
  obtain rfl : result = .ok output := hok
  have hcall := callExport_run (g := g) env ep i "save_state" [] w hplay
  refine ⟨output, _, hcall, ?_⟩
  rw [callExport_state hcall]
  exact congrArg (List.foldl _ _) hhanded

/-- What the save takes: the bytes that are pending once the plugin handed its state over. -/
def takenState (ctx : StateCtx) (state : Bytes) : Option Bytes := (ctx.setState state).pending

/-- The node after a save that took the bytes. -/
def SavedAs (env : Env) (node : EntityNode) (taken : Option Bytes) (node' : EntityNode) : Prop :=
  match taken with
  | none => node' = node
  | some bytes => ∃ cid, env.kubo.blobs.denotes cid = some bytes ∧ node' = savedNode node cid

/-- **What a save takes is saved**, if Kubo lets it through. -/
theorem triggerSave_takes (hbackend : ep.backend = .extism i)
    (hsaves : SavesState env (w.rt.cells i) state) :
    (triggerSave env ep).Sat g w fun o w1 =>
      match takenState (w.rt.cells i).state state with
      | none => o = .ok none
      | some bytes => (∃ cid, o = .ok (some cid) ∧ env.kubo.blobs.denotes cid = some bytes) ∨
          ∃ e, o = .err e ∧ w1.io.kuboFailed = true := by
  obtain ⟨output, w1, hcall, hstate⟩ := @callExport_saves env g ep _ _ _ hsaves
  unfold triggerSave takenState
  simp only [hbackend]
  refine Proc.sat_bind_of_ok hcall (Proc.sat_bind_of_ok takePending_run ?_)
  rw [← hstate]
  cases hpending : (w1.rt.cells i).state.pending with
  | none => exact rfl
  | some bytes =>
    refine Proc.sat_bind (Proc.sat_mapErr ((dagPut_sat _ _).mono fun o w2 h => ?_))
    rcases h.2 with ⟨cid, hcid, rfl⟩ | ⟨e, rfl, hfailed⟩
    · exact Proc.sat_bind_of_ok (markSaved_run hbackend) (.inl ⟨cid, rfl, hcid⟩)
    · exact .inr ⟨_, rfl, hfailed⟩

/-- **What the shutdown does for one entity**: the bytes it takes get linked. -/
theorem saveEntityState_saves {manifest : RuntimeManifest} {name : String} {node : EntityNode}
    (hkind : ep.kind = .stateful) (hbackend : ep.backend = .extism i)
    (hsaves : SavesState env (w.rt.cells i) state) (hnode : NamesNode env manifest name node) :
    (saveEntityState env manifest name ep).Sat g w fun o w' => ∃ manifest', o = .ok manifest' ∧
      (w'.io.kuboFailed = true ∨
        ∃ node', NamesNode env manifest' name node' ∧
          SavedAs env node (takenState (w.rt.cells i).state state) node') := by
  obtain ⟨link, hlink, hdenotes⟩ := hnode
  unfold saveEntityState saveEntityStateWith
  rw [if_neg (by simp [hkind])]
  refine Proc.sat_bind (Proc.sat_attempt
    ((triggerSave_takes hbackend hsaves).mono fun o w1 h => ?_))
  cases htaken : takenState (w.rt.cells i).state state with
  | none =>
    rw [htaken] at h
    obtain rfl : o = .ok none := h
    exact ⟨manifest, rfl, .inr ⟨node, ⟨link, hlink, hdenotes⟩, rfl⟩⟩
  | some bytes =>
    rw [htaken] at h
    rcases h with ⟨stateCid, rfl, hstate⟩ | ⟨e, rfl, hfailed⟩
    · simp only [hlink]
      refine Proc.sat_bind (Proc.sat_attempt ((dagGet_sat _ _).mono fun o w2 h => ?_))
      rcases h.2 with ⟨node', hget, rfl⟩ | ⟨e, rfl, hfailed⟩
      · obtain rfl : node' = node := Option.some.inj (hget.symm.trans hdenotes)
        refine Proc.sat_bind (Proc.sat_attempt ((dagPut_sat _ _).mono fun o w3 h => ?_))
        rcases h.2 with ⟨newCid, hput, rfl⟩ | ⟨e, rfl, hfailed⟩
        · exact ⟨_, rfl, .inr ⟨savedNode node' stateCid, ⟨⟨newCid⟩, by simp, hput⟩,
            stateCid, hstate, rfl⟩⟩
        · exact ⟨_, rfl, .inl hfailed⟩
      · exact ⟨_, rfl, .inl hfailed⟩
    · exact ⟨_, rfl, .inl hfailed⟩

end Saving

/-! ## The shutdown -/

/-- The entity is registered under its name, and no other entity is a handle into its cell. -/
structure RegisteredAs (w : World) (name : String) (ep : EntityPlugin) (i : Nat) : Prop where
  entity : w.rt.entityRegistry[name]? = some ep
  stateful : ep.kind = .stateful
  backend : ep.backend = .extism i
  own : ∀ name' ep', w.rt.entityRegistry[name']? = some ep' → ep'.backend = .extism i → name' = name

/-- Kubo's failures so far no longer count. -/
def World.unmarked (w : World) : World := { w with io := { w.io with kuboFailed := false } }

section Shutdown

variable {env : Env} {g : Lib.Guards Lock} {ep : EntityPlugin} {i : Nat} {w w' : World}
  {name : String} {snapshot state : Bytes}

/-- Saving other entities leaves the link of this one and the cells that are not theirs. -/
theorem saveOthers {S : Nat → Prop} {l : List (String × EntityPlugin)}
    (hl : ∀ e ∈ l, e.1 ≠ name ∧ ∀ j, e.2.backend = .extism j → ¬ S j)
    (manifest : RuntimeManifest) :
    (Proc.fold l manifest fun m (n, e) => saveEntityState env m n e).Sat g w fun o w' =>
      ∃ m, o = .ok m ∧ m.entities[name]? = manifest.entities[name]? ∧ SameCells S w w' := by
  refine Proc.sat_fold
    (I := fun m w' => m.entities[name]? = manifest.entities[name]? ∧ SameCells S w w')
    (fun m w' h => ⟨m, rfl, h⟩) l (fun m e he w1 h => ?_) manifest w
    ⟨rfl, refl_of (SameCells S) w⟩
  obtain ⟨hne, hcell⟩ := hl e he
  obtain ⟨n, e⟩ := e
  have hsat : (saveEntityState env m n e).Sat g w1 fun o w2 =>
      (∃ m', o = .ok m' ∧ m'.entities[name]? = m.entities[name]?) ∧ SameCells S w1 w2 :=
    ⟨saveEntityState_other hne, keeps_saveEntityState_cells hcell m n g w1⟩
  refine hsat.mono fun o w2 ⟨⟨m', ho, hm'⟩, hcells⟩ => ?_
  subst ho
  exact ⟨hm'.trans h.1, trans_of _ h.2 hcells⟩

/-- The save fetches the manifest, goes through the registry and publishes what that leaves. -/
theorem saveAll_stages {root newRoot : Cid}
    (hsave : saveAllEntityStates env root [] w = (.ok newRoot, w')) :
    ∃ m w1 m' w2,
      withContext "fetching current runtime manifest" (dagGet env.kubo.manifests root) [] w =
        (.ok m, w1) ∧
      (Proc.fold w.rt.entityRegistry.toList m fun m (n, e) => saveEntityState env m n e) [] w1 =
        (.ok m', w2) ∧ env.kubo.manifests.denotes newRoot = some m' ∧
      (w2.io.kuboFailed = true → w'.io.kuboFailed = true) := by
  unfold saveAllEntityStates saveAllEntityStatesWith at hsave
  obtain ⟨m, w1, hget, hsave⟩ := Proc.bind_ok hsave
  have hidle : w1.rt = w.rt := ((calm_withContext _ (calm_dagGet _ _)).of_run hget).2
  obtain ⟨entities, w2, hentities, hsave⟩ := Proc.bind_ok hsave
  simp only [reading, Proc.holding_run (show Lib.Guards.excludes [] _ _ = false from rfl), getRt,
    Proc.look_run, Prod.mk.injEq, Lib.Outcome.ok.injEq] at hentities
  obtain ⟨rfl, rfl⟩ := hentities
  obtain ⟨m', w3, hfold, hsave⟩ := Proc.bind_ok hsave
  obtain ⟨rc, w4, hput, hsave⟩ := Proc.bind_ok hsave
  obtain ⟨_, w5, hpin, hsave⟩ := Proc.bind_ok hsave
  simp only [Proc.pure_run, Prod.mk.injEq, Lib.Outcome.ok.injEq] at hsave
  obtain ⟨rfl, rfl⟩ := hsave
  refine ⟨m, w1, m', w3, hget, hidle ▸ hfold, dagPut_ok (withContext_ok hput), fun h3 => ?_⟩
  have h4 := ((calm_withContext _ (calm_kuboCall_cells (S := fun _ => False) _)).of_run hput).2.2 h3
  exact ((calm_pinUpdate_cells (S := fun _ => False) _ _).attempt.of_run hpin).2.2 h4

/-- The manifest that it fetches is the one at the root. -/
theorem saveAll_ok {root newRoot : Cid}
    (hsave : saveAllEntityStates env root [] w = (.ok newRoot, w')) :
    ∃ m w1 m' w2, env.kubo.manifests.denotes root = some m ∧ w1.rt = w.rt ∧
      (Proc.fold w.rt.entityRegistry.toList m fun m (n, e) => saveEntityState env m n e) [] w1 =
        (.ok m', w2) ∧ env.kubo.manifests.denotes newRoot = some m' ∧
      (w2.io.kuboFailed = true → w'.io.kuboFailed = true) := by
  obtain ⟨m, w1, m', w2, hget, hfold, hnew, hmark⟩ := saveAll_stages hsave
  have hidle : w1.rt = w.rt := ((calm_withContext _ (calm_dagGet _ _)).of_run hget).2
  exact ⟨m, w1, m', w2, dagGet_ok (withContext_ok hget), hidle, hfold, hnew, hmark⟩

/-- An entity that is not registered keeps its link. -/
theorem saveAll_unregistered {root newRoot : Cid} {manifest : RuntimeManifest}
    (hnone : w.rt.entityRegistry[name]? = none)
    (hroot : env.kubo.manifests.denotes root = some manifest)
    (hsave : saveAllEntityStates env root [] w = (.ok newRoot, w')) :
    ∃ manifest', env.kubo.manifests.denotes newRoot = some manifest' ∧
      manifest'.entities[name]? = manifest.entities[name]? := by
  obtain ⟨m0, w1, m', w2, hm0, -, hfold, hnew, -⟩ := saveAll_ok hsave
  obtain rfl := Option.some.inj (hm0.symm.trans hroot)
  refine ⟨m', hnew, ?_⟩
  have hothers : ∀ e ∈ w.rt.entityRegistry.toList, e.1 ≠ name := by
    rintro ⟨n, e⟩ he rfl
    rw [Std.ExtTreeMap.mem_toList_iff_getElem?_eq_some, hnone] at he
    exact absurd he (by simp)
  obtain ⟨m1, hm1, hlink, -⟩ := (saveOthers (S := fun _ => False)
    (fun e he => ⟨hothers e he, fun _ _ => id⟩) m0).of_run hfold
  obtain rfl := Lib.Outcome.ok.inj hm1
  exact hlink

/-- **What the shutdown does for an entity**, among all the others. -/
theorem saveAll_saves {root newRoot : Cid} {manifest : RuntimeManifest} {node : EntityNode}
    (hreg : RegisteredAs w name ep i) (hsaves : SavesState env (w.rt.cells i) state)
    (hroot : env.kubo.manifests.denotes root = some manifest)
    (hnode : NamesNode env manifest name node)
    (hsave : saveAllEntityStates env root [] w = (.ok newRoot, w'))
    (hkubo : w'.io.kuboFailed = false) :
    ∃ manifest' node', env.kubo.manifests.denotes newRoot = some manifest' ∧
      NamesNode env manifest' name node' ∧
      SavedAs env node (takenState (w.rt.cells i).state state) node' := by
  obtain ⟨m0, w1, m3, w3, hm0, hidle1, hfold, hnew, hmark⟩ := saveAll_ok hsave
  obtain rfl := Option.some.inj (hm0.symm.trans hroot)
  -- the entity among the others
  have hmem : (name, ep) ∈ w.rt.entityRegistry.toList :=
    Std.ExtTreeMap.mem_toList_iff_getElem?_eq_some.mpr hreg.entity
  have hothers : ∀ e ∈ w.rt.entityRegistry.toList, e.1 ≠ name →
      ∀ j, e.2.backend = .extism j → j ≠ i := by
    rintro ⟨n, e⟩ he hne j hj rfl
    rw [Std.ExtTreeMap.mem_toList_iff_getElem?_eq_some] at he
    exact hne (hreg.own n e he hj)
  obtain ⟨pre, post, hsplit⟩ := List.append_of_mem hmem
  obtain ⟨hbefore, hafter⟩ := toList_split hsplit
  rw [hsplit] at hfold hothers
  have hpre : ∀ e ∈ pre, e.1 ≠ name ∧ ∀ j, e.2.backend = .extism j → j ≠ i := fun e he =>
    ⟨hbefore e he, hothers e (List.mem_append_left _ he) (hbefore e he)⟩
  have hpost : ∀ e ∈ post, e.1 ≠ name ∧ ∀ j, e.2.backend = .extism j → j ≠ i := fun e he =>
    ⟨hafter e he, hothers e (List.mem_append_right _ (List.mem_cons_of_mem _ he)) (hafter e he)⟩
  rw [Proc.fold_append] at hfold
  obtain ⟨ma, wa, hfoldpre, hfold⟩ := Proc.bind_ok hfold
  obtain ⟨mb, wb, hself, hfoldpost⟩ := Proc.bind_ok (p := saveEntityState env ma name ep) hfold
  obtain ⟨m, hm, hlinka, hcellsa⟩ := (saveOthers hpre m0).of_run hfoldpre
  obtain rfl := Lib.Outcome.ok.inj hm
  obtain ⟨m, hm, hlinkb, hcellsb⟩ := (saveOthers hpost mb).of_run hfoldpost
  obtain rfl := Lib.Outcome.ok.inj hm
  have hcella : wa.rt.cells i = w.rt.cells i :=
    (hcellsa.1 i rfl).trans (congrFun (congrArg Runtime.cells hidle1) i)
  have hnamed : NamesNode env ma name node := hnode.congr hlinka
  obtain ⟨m, hm, hself⟩ := (saveEntityState_saves hreg.stateful hreg.backend
    (hcella.symm ▸ hsaves) hnamed).of_run hself
  obtain rfl := Lib.Outcome.ok.inj hm
  rw [hcella] at hself
  rcases hself with hfailed | ⟨node', hnode', hsaved⟩
  · exact absurd ((hmark (hcellsb.2 hfailed)).symm.trans hkubo) (by simp)
  · exact ⟨_, node', hnew, hnode'.congr hlinkb, hsaved⟩

/-- What is neither saved nor superseded: the state if it differs from the snapshot, else what is
pending. -/
def unsaved (snapshot : Bytes) (pending : Option Bytes) (state : Bytes) : Option Bytes :=
  if snapshot ≠ state then some state else pending

theorem takenState_eq {ctx : StateCtx} (h : ctx.persisted = some snapshot) :
    takenState ctx state = unsaved snapshot ctx.pending state := by
  by_cases hne : snapshot = state <;> simp [takenState, unsaved, StateCtx.setState, h, hne]

/-- **What the shutdown links**, by what the host keeps: the state, if the snapshot is another one
or the state itself is pending; if neither, what is pending; and if nothing is, the link stays. -/
theorem saveAll_links {root newRoot : Cid} {manifest : RuntimeManifest} {node : EntityNode}
    {pending : Option Bytes} (hreg : RegisteredAs w name ep i)
    (hkeeps : HostKeeps w i snapshot pending) (hsaves : SavesState env (w.rt.cells i) state)
    (hroot : env.kubo.manifests.denotes root = some manifest)
    (hnode : NamesNode env manifest name node)
    (hsave : saveAllEntityStates env root [] w = (.ok newRoot, w'))
    (hkubo : w'.io.kuboFailed = false) :
    ∃ manifest' node', env.kubo.manifests.denotes newRoot = some manifest' ∧
      NamesNode env manifest' name node' ∧
      (LinksState env node' state ↔ snapshot ≠ state ∨ pending = some state ∨
        pending = none ∧ LinksState env node state) := by
  obtain ⟨manifest', node', hnew, hnode', hsaved⟩ :=
    saveAll_saves hreg hsaves hroot hnode hsave hkubo
  refine ⟨manifest', node', hnew, hnode', ?_⟩
  rw [takenState_eq hkeeps.persisted, hkeeps.pending] at hsaved
  by_cases hne : snapshot = state
  · rw [unsaved, if_neg (not_not_intro hne)] at hsaved
    cases pending with
    | none =>
      obtain rfl : node' = node := hsaved
      simp [hne]
    | some bytes =>
      obtain ⟨cid, hcid, rfl⟩ := hsaved
      have hlinks : LinksState env (savedNode node cid) state ↔ bytes = state := by
        refine ⟨fun ⟨link, hlink, hdenotes⟩ => ?_, fun h => ⟨⟨cid⟩, rfl, h ▸ hcid⟩⟩
        obtain rfl : (⟨cid⟩ : IpldLink) = link := Option.some.inj hlink
        exact Option.some.inj (hcid.symm.trans hdenotes)
      simp [hne, hlinks]
  · rw [unsaved, if_pos hne] at hsaved
    obtain ⟨cid, hcid, rfl⟩ := hsaved
    exact iff_of_true ⟨⟨cid⟩, rfl, hcid⟩ (.inl hne)

/-- The next load of a node that links `state` fetches it, if Kubo answers. -/
theorem initState_links {node : EntityNode} {bytes : Bytes} (h : LinksState env node state)
    (hrun : initState env .stateful node g w = (.ok bytes, w'))
    (hkubo : w'.io.kuboFailed = false) : bytes = state := by
  obtain ⟨link, hlink, hdenotes⟩ := h
  unfold initState at hrun
  simp only [hlink] at hrun
  obtain ⟨r, w1, hget, hrun⟩ := Proc.bind_ok hrun
  simp only [Proc.pure_run, Prod.mk.injEq, Lib.Outcome.ok.injEq] at hrun
  obtain ⟨rfl, rfl⟩ := hrun
  have hsat : (dagGet env.kubo.blobs link.cid).attempt.Sat g w fun o w1 =>
      o = .ok (.ok state) ∨ w1.io.kuboFailed = true := by
    refine Proc.sat_attempt ((dagGet_sat _ _).mono fun o w1 h => ?_)
    rcases h.2 with ⟨v, hv, rfl⟩ | ⟨e, rfl, hfailed⟩
    · obtain rfl := Option.some.inj (hv.symm.trans hdenotes)
      exact .inl rfl
    · exact .inr hfailed
  rcases hsat.of_run hget with hr | hfailed
  · obtain rfl := Lib.Outcome.ok.inj hr
    rfl
  · exact absurd (hfailed.symm.trans hkubo) (by simp)

/-- **A clean shutdown after any run of dispatches links the state exactly when** the snapshot the
run leaves is another one, or nothing is pending and the node linked this state before. What was
pending before the run counts as the first state handed over; it is still pending after a run
without a dispatch, and then it has to be the state. Where the state is linked, the next load of the
entity fetches it. -/
theorem state_durable_iff {w0 : World} {pending : Option Bytes} {runs : List (Option (List Bytes))}
    {root newRoot : Cid} {manifest : RuntimeManifest} {node : EntityNode}
    (hreg : RegisteredAs w name ep i) (hkeeps : HostKeeps w0 i snapshot pending)
    (hrun : Run (DispatchStep env ep i) w0 runs w)
    (hroot : env.kubo.manifests.denotes root = some manifest)
    (hnode : NamesNode env manifest name node) (hsaves : SavesState env (w.rt.cells i) state)
    (hsave : saveAllEntityStates env root [] w.unmarked = (.ok newRoot, w'))
    (hkubo : w'.io.kuboFailed = false) :
    (Durable env newRoot name state ↔
        (keptAfter snapshot pending runs.reduceOption).1 ≠ state ∨
          (keptAfter snapshot pending runs.reduceOption).2 = some state ∨
          (keptAfter snapshot pending runs.reduceOption).2 = none ∧ LinksState env node state) ∧
      (Durable env newRoot name state → ∃ manifest' node',
        env.kubo.manifests.denotes newRoot = some manifest' ∧ NamesNode env manifest' name node' ∧
          ∀ g v v' bytes, initState env .stateful node' g v = (.ok bytes, v') →
            v'.io.kuboFailed = false → bytes = state) := by
  have hafter := snapshot_run hreg.stateful hreg.backend hkeeps hrun
  obtain ⟨manifest', node', hnew, hnode', hlinks⟩ := saveAll_links (w := w.unmarked)
    ⟨hreg.entity, hreg.stateful, hreg.backend, hreg.own⟩ ⟨hafter.pending, hafter.persisted⟩ hsaves
    hroot hnode hsave hkubo
  exact ⟨(durable_iff hnew hnode').trans hlinks, fun h => ⟨manifest', node', hnew, hnode',
    fun g v v' bytes hrun hk => initState_links ((durable_iff hnew hnode').mp h) hrun hk⟩⟩

end Shutdown

/-! ## A notebook -/

/-- A stateful kind that the janitor can snapshot. -/
def notesKind : KindNode :=
  { protocol := "/ma/notes/0.0.1", api := ["handle_call", "save_state"]
    attributes := (∅ : StrMap Json).insert "stateful" (.bool true)
    hostFunctions := ["ma_set_state"] }

/-- An entity of that kind, without a state yet. -/
def notesNode : EntityNode :=
  { kind := "/ma/notes/0.0.1", behaviour := some ⟨"bafynoteswasm"⟩, acl := "open" }

/-- The manifest with the entity. -/
def notesManifest : RuntimeManifest :=
  { kinds := KindTree.insertProtocol {} "/ma/notes/0.0.1" ⟨"bafynoteskind"⟩
    entities := (∅ : StrMap IpldLink).insert "notes" ⟨"bafynotesnode"⟩
    acls := (∅ : StrMap IpldLink).insert "open" ⟨"bafyopenacl"⟩ }

/-- Kubo with the entity before and after its first note. -/
def notesTables : Tables where
  manifests :=
    [("bafyroot", notesManifest),
      ("bafysaved",
        { notesManifest with entities := (∅ : StrMap IpldLink).insert "notes" ⟨"bafysavednode"⟩ })]
  entities := [("bafynotesnode", notesNode), ("bafysavednode", savedNode notesNode "bafynote")]
  kinds := [("bafynoteskind", notesKind)]
  acls := [("bafyopenacl", (∅ : AclMap).insert "*" (.fromCaps ["*"]))]
  blobs := [("bafynoteswasm", [0]), ("bafynote", [1])]

/-- Every call appends a note in the memory, and an eager plugin hands the notes over at once. -/
def notesGuest (eager : Bool) (memory : Bytes) : String → GuestCall
  | "handle_call" =>
    let notes := memory ++ [1]
    if eager then .call (.maSetState, notes) (.error "trap", notes) fun _ => .done (.ok [], notes)
    else .done (.ok [], notes)
  | "save_state" =>
    .call (.maSetState, memory) (.error "trap", memory) fun _ => .done (.ok [], memory)
  | _ => .done (.error "no such export", memory)

/-- The daemon's surroundings with that plugin. -/
def notesEnv (eager : Bool) : Env :=
  { notesTables.live with
    guest := fun _ plugin exportName _ => notesGuest eager plugin.memory exportName }

theorem notesEnv_saves (eager : Bool) {cell : PluginCell} {notes : Bytes}
    (h : cell.hostFns = [.maSetState]) (hmemory : cell.plugin.memory = notes) :
    SavesState (notesEnv eager) cell notes := by
  subst hmemory
  intro n io
  refine ⟨⟨[], ?_⟩, ?_⟩
  · simp [playExport, notesEnv, notesGuest, Lib.Interaction.run, hostFn, h]
  · simp [handedStates, notesEnv, notesGuest, Lib.Interaction.trace, hostFn, h]

/-- The daemon with the entity loaded. -/
def notesStart (eager : Bool) : World := started (notesEnv eager) (some "bafyroot") []

/-- The handle of the entity. -/
def notesPlugin : EntityPlugin :=
  { fragment := "notes", kind := .stateful, acl := "open", parent := none, backend := .extism 0 }

/-- A message that appends a note. -/
def appendNote : CastInput :=
  { msg := { id := "m1", «from» := "did:ma:alice", «to» := "did:ma:runtime#notes", createdAt := 0
             expires := 0, replyTo := none, contentType := "application/cbor", content := [] } }

/-- The daemon after the note and its save. -/
def notesAppended (eager : Bool) (pending : Option Bytes) : World :=
  (persistPending (notesEnv eager) notesPlugin pending []
    (dispatch (notesEnv eager) notesPlugin appendNote [] (notesStart eager)).2).2

set_option maxRecDepth 100000

theorem notesStart_atRest (eager : Bool) : AtRest (notesStart eager) 0 [] := by
  cases eager <;> exact ⟨by decide +kernel, by decide +kernel⟩

theorem notesAppended_eager : DispatchStep (notesEnv true) notesPlugin 0 (notesStart true)
    (some [[1]]) (notesAppended true (some [1])) := by
  have hstates : handedNext (notesEnv true) "handle_call"
      ((notesEnv true).codec.encode appendNote.toCbor) 0 (notesStart true) = [[1]] := by
    decide +kernel
  have hdispatch : (dispatch (notesEnv true) notesPlugin appendNote [] (notesStart true)).1 =
      .ok ⟨[], some [1], [], []⟩ := by decide +kernel
  have hput : (dagPut (notesEnv true).kubo.blobs [1] []
      (dispatch (notesEnv true) notesPlugin appendNote [] (notesStart true)).2).1 =
      .ok "bafynote" := by decide +kernel
  have hsave : (persistPending (notesEnv true) notesPlugin (some [1]) []
      (dispatch (notesEnv true) notesPlugin appendNote [] (notesStart true)).2).1 = .ok () := by
    decide +kernel
  rw [← hstates]
  exact .dispatch (Proc.run_of_outcome hdispatch)
    (fun state h => by
      obtain rfl := Option.some.inj h
      exact ⟨"bafynote", _, Proc.run_of_outcome hput⟩) (Proc.run_of_outcome hsave)

theorem notesAppended_lazy : DispatchStep (notesEnv false) notesPlugin 0 (notesStart false)
    (some []) (notesAppended false none) := by
  have hstates : handedNext (notesEnv false) "handle_call"
      ((notesEnv false).codec.encode appendNote.toCbor) 0 (notesStart false) = [] := by
    decide +kernel
  have hdispatch : (dispatch (notesEnv false) notesPlugin appendNote [] (notesStart false)).1 =
      .ok ⟨[], none, [], []⟩ := by decide +kernel
  have hsave : (persistPending (notesEnv false) notesPlugin none []
      (dispatch (notesEnv false) notesPlugin appendNote [] (notesStart false)).2).1 = .ok () := rfl
  rw [← hstates]
  exact .dispatch (Proc.run_of_outcome hdispatch) (fun state h => absurd h (by simp))
    (Proc.run_of_outcome hsave)

theorem registered_notes {w : World} (hentity : w.rt.entityRegistry["notes"]? = some notesPlugin)
    (hown : ∀ e ∈ w.rt.entityRegistry.toList, e.2.backend = .extism 0 → e.1 = "notes") :
    RegisteredAs w "notes" notesPlugin 0 where
  entity := hentity
  stateful := rfl
  backend := rfl
  own name ep h hep :=
    hown (name, ep) (Std.ExtTreeMap.mem_toList_iff_getElem?_eq_some.mpr h) hep

theorem notesManifest_root {eager : Bool} :
    (notesEnv eager).kubo.manifests.denotes "bafyroot" = some notesManifest := rfl

theorem notesManifest_names (eager : Bool) :
    NamesNode (notesEnv eager) notesManifest "notes" notesNode :=
  ⟨⟨"bafynotesnode"⟩, by decide +kernel, rfl⟩

/-- A state that no dispatch handed over is durable after the shutdown. -/
theorem state_durable_iff_lazy :
    ∃ w w', Run (DispatchStep (notesEnv false) notesPlugin 0) (notesStart false) [some []] w ∧
      saveAllEntityStates (notesEnv false) "bafyroot" [] w.unmarked = (.ok "bafysaved", w') ∧
      Durable (notesEnv false) "bafysaved" "notes" [1] := by
  have hrun := Run.cons notesAppended_lazy (.nil _)
  have hsave : (saveAllEntityStates (notesEnv false) "bafyroot" []
      (notesAppended false none).unmarked).1 = .ok "bafysaved" := by decide +kernel
  have hkubo : (saveAllEntityStates (notesEnv false) "bafyroot" []
      (notesAppended false none).unmarked).2.io.kuboFailed = false := by decide +kernel
  have hreg : RegisteredAs (notesAppended false none) "notes" notesPlugin 0 :=
    registered_notes (by decide +kernel) (by decide +kernel)
  have hsaves : SavesState (notesEnv false) ((notesAppended false none).rt.cells 0) [1] :=
    notesEnv_saves false (by decide +kernel) (by decide +kernel)
  have hdurable := (state_durable_iff hreg (notesStart_atRest false) hrun notesManifest_root
    (notesManifest_names false) hsaves (Proc.run_of_outcome hsave) hkubo).1
  exact ⟨_, _, hrun, Proc.run_of_outcome hsave, hdurable.mpr (.inl (by decide))⟩

/-- **A state that a dispatch saved is lost**: the daemon shuts down cleanly, the plugin hands its
state over, and the node under the new root links nothing. -/
theorem saved_state_is_lost :
    ∃ w w', Run (DispatchStep (notesEnv true) notesPlugin 0) (notesStart true) [some [[1]]] w ∧
      RegisteredAs w "notes" notesPlugin 0 ∧ SavesState (notesEnv true) (w.rt.cells 0) [1] ∧
      saveAllEntityStates (notesEnv true) "bafyroot" [] w = (.ok "bafyroot", w') ∧
      w'.io.kuboFailed = false ∧ ¬ Durable (notesEnv true) "bafyroot" "notes" [1] := by
  have hsave : (saveAllEntityStates (notesEnv true) "bafyroot" []
      (notesAppended true (some [1]))).1 = .ok "bafyroot" := by decide +kernel
  have hkubo : (saveAllEntityStates (notesEnv true) "bafyroot" []
      (notesAppended true (some [1]))).2.io.kuboFailed = false := by decide +kernel
  have hreg : RegisteredAs (notesAppended true (some [1])) "notes" notesPlugin 0 :=
    registered_notes (by decide +kernel) (by decide +kernel)
  have hsaves : SavesState (notesEnv true) ((notesAppended true (some [1])).rt.cells 0) [1] :=
    notesEnv_saves true (by decide +kernel) (by decide +kernel)
  refine ⟨_, _, .cons notesAppended_eager (.nil _), hreg, hsaves, Proc.run_of_outcome hsave, hkubo,
    ?_⟩
  rw [durable_iff notesManifest_root (notesManifest_names true)]
  rintro ⟨stateLink, hstate, -⟩
  exact absurd hstate (by simp [notesNode])

end MaRuntime
