import MaRuntime.Crud.Effect
import MaRuntime.Durability
import MaRuntime.Mediation
import MaRuntime.Startup

/-!
# A state that cannot be fetched

`load` takes a state that Kubo does not answer for an empty one and starts the plugin on it. The
node keeps its link until the shutdown, which links whatever the plugin has by then.

* `booted_unfetched`: the plugin is up, with an empty snapshot.
* `unfetched_run`: what any dispatches leave, whether they succeed and whether Kubo takes their
  state.
* **`unfetched_state_iff`**: when the state outlives the shutdown.
* `unfetched_state_is_lost`: one message after a failed fetch, and the state is gone.
-/

namespace MaRuntime

open Lib (Proc Run)

/-! ## The load -/

/-- Every plugin has a cell below the next one. -/
def FreshCells (rt : Runtime) : Prop :=
  ∀ (name : String) (ep : EntityPlugin) (i : Nat), rt.entityRegistry[name]? = some ep →
    ep.backend = .extism i → i < rt.nextCell

/-- The entity is not registered. -/
structure Unloaded (name : String) (rt : Runtime) : Prop where
  fresh : FreshCells rt
  entity : rt.entityRegistry[name]? = none

/-- The entity is registered on an empty snapshot, with a cell of its own. -/
structure Unfetched (name : String) (ep : EntityPlugin) (i : Nat) (rt : Runtime) : Prop where
  fresh : FreshCells rt
  entity : rt.entityRegistry[name]? = some ep
  backend : ep.backend = .extism i
  own : ∀ (name' : String) (ep' : EntityPlugin), rt.entityRegistry[name']? = some ep' →
    ep'.backend = .extism i → name' = name
  persisted : (rt.cells i).state.persisted = some []

section Load

variable {env : Env} {name name' : String} {link nodeLink : IpldLink} {w w' : World}
  {loaded : Bool}

/-- The state after a load that registered its plugin. -/
theorem LoadOutcome.effect (h : LoadOutcome env name link w loaded w') :
    Idle w w' ∨ ∃ (node : EntityNode) (kind : PluginKind) (ep : EntityPlugin) (cell : PluginCell),
      env.kubo.entities.denotes link.cid = some node ∧ ep.backend = .extism w.rt.nextCell ∧
      cell.state.persisted = some (fetchedState env kind node (w.io.calls + 3)) ∧
      w'.rt =
        { w.rt with
          cells := Function.update w.rt.cells w.rt.nextCell cell
          nextCell := w.rt.nextCell + 1
          entityRegistry := w.rt.entityRegistry.insert name ep } := by
  cases h with
  | skipped h => exact .inl h
  | @loaded node kindNode ep lifecycle w1 hnode hload =>
    obtain ⟨hbackend, cell, hrt, hpersisted⟩ := load_cell hload
    refine .inr ⟨node, kindNode.pluginKind, ep, cell, hnode, hbackend, hpersisted, ?_⟩
    show { w1.rt with entityRegistry := w1.rt.entityRegistry.insert name ep } = _
    rw [hrt]
    rfl

theorem FreshCells.insert {rt : Runtime} {ep : EntityPlugin} {cells : Nat → PluginCell}
    (h : FreshCells rt) (hbackend : ep.backend = .extism rt.nextCell) :
    FreshCells
      { rt with
        cells := cells, nextCell := rt.nextCell + 1
        entityRegistry := rt.entityRegistry.insert name ep } := by
  intro name' ep' i hep hi
  show i < rt.nextCell + 1
  rw [Std.ExtTreeMap.getElem?_insert] at hep
  split at hep
  · obtain rfl := Option.some.inj hep
    obtain rfl : rt.nextCell = i := by simpa [hbackend] using hi
    omega
  · have := h name' ep' i hep hi
    omega

/-- Another entity is loaded. -/
theorem Unloaded.other (h : Unloaded name w.rt) (hne : name' ≠ name)
    (hload : LoadOutcome env name' link w loaded w') : Unloaded name w'.rt := by
  rcases hload.effect with hidle | ⟨node, kind, ep, cell, -, hbackend, -, hrt⟩
  · rwa [show w'.rt = w.rt from hidle]
  · rw [hrt]
    refine ⟨h.fresh.insert hbackend, ?_⟩
    show (w.rt.entityRegistry.insert name' ep)[name]? = none
    rw [getElem?_insert_of_ne hne.symm]
    exact h.entity

theorem Unfetched.other {ep : EntityPlugin} {i : Nat} (h : Unfetched name ep i w.rt)
    (hne : name' ≠ name) (hload : LoadOutcome env name' link w loaded w') :
    Unfetched name ep i w'.rt := by
  rcases hload.effect with hidle | ⟨node, kind, ep', cell, -, hbackend, -, hrt⟩
  · rwa [show w'.rt = w.rt from hidle]
  · have hbelow : i < w.rt.nextCell := h.fresh name ep i h.entity h.backend
    rw [hrt]
    refine ⟨h.fresh.insert hbackend, ?_, h.backend, fun name2 ep2 hep2 hi => ?_, ?_⟩
    · show (w.rt.entityRegistry.insert name' ep')[name]? = some ep
      rw [getElem?_insert_of_ne hne.symm]
      exact h.entity
    · rw [Std.ExtTreeMap.getElem?_insert] at hep2
      split at hep2
      · obtain rfl := Option.some.inj hep2
        have heq : w.rt.nextCell = i := by simpa [hbackend] using hi
        omega
      · exact h.own name2 ep2 hep2 hi
    · show (Function.update w.rt.cells w.rt.nextCell cell i).state.persisted = some []
      rw [Function.update_of_ne (by omega)]
      exact h.persisted

/-- **The entity itself is loaded**, and its state does not get through. -/
theorem Unloaded.load {node : EntityNode} {e : Error} (h : Unloaded name w.rt)
    (hnode : env.kubo.entities.denotes nodeLink.cid = some node) (hlink : node.state = some link)
    (hfetch : env.kubo.blobs.get (w.io.calls + 3) link.cid = .error e)
    (hload : LoadOutcome env name nodeLink w loaded w') :
    Unloaded name w'.rt ∨ ∃ ep i, Unfetched name ep i w'.rt := by
  rcases hload.effect with hidle | ⟨node', kind, ep, cell, hnode', hbackend, hcell, hrt⟩
  · exact .inl (by rwa [show w'.rt = w.rt from hidle])
  · obtain rfl := Option.some.inj (hnode.symm.trans hnode')
    have hempty : fetchedState env kind node (w.io.calls + 3) = [] := by
      unfold fetchedState
      rw [hlink]
      cases kind with
      | stateless => rfl
      | stateful =>
        dsimp only
        rw [hfetch]
        rfl
    rw [hempty] at hcell
    rw [hrt]
    refine .inr ⟨ep, w.rt.nextCell, h.fresh.insert hbackend, ?_, hbackend,
      fun name2 ep2 hep2 hi => ?_, ?_⟩
    · exact Std.ExtTreeMap.getElem?_insert_self
    · rw [Std.ExtTreeMap.getElem?_insert] at hep2
      split at hep2
      · rename_i heq
        exact (Std.LawfulEqCmp.compare_eq_iff_eq.mp heq).symm
      · exact absurd (h.fresh name2 ep2 _ hep2 hi) (lt_irrefl _)
    · show (Function.update w.rt.cells w.rt.nextCell cell w.rt.nextCell).state.persisted = some []
      rw [Function.update_self]
      exact hcell

end Load

/-! ## Startup -/

/-- One round of the loop of `load_entities`. -/
def loadRound (env : Env) (m : RuntimeManifest) (loaded : Nat) (entry : String × IpldLink) :
    M Nat := do
  pure (if ← loadEntity env m entry.1 entry.2 then loaded + 1 else loaded)

/-- The world in which startup comes to an entity: the manifest was fetched, and the entities before
it were loaded. -/
def worldAtLoad (env : Env) (m : RuntimeManifest) (name : String) (w : World) : World :=
  (Proc.fold (m.entities.toList.takeWhile fun entry => entry.1 ≠ name) 0 (loadRound env m) []
    (w.afterCalls 1)).2

section Startup

variable {env : Env} {m : RuntimeManifest} {name : String} {nodeLink link : IpldLink}
  {node : EntityNode} {w w' : World}

/-- Loading other entities keeps what their loads keep. -/
theorem loadRounds_keep {I : Runtime → Prop}
    (hkeep : ∀ {name' nodeLink' loaded w w'}, name' ≠ name → I w.rt →
      LoadOutcome env name' nodeLink' w loaded w' → I w'.rt) :
    ∀ (l : List (String × IpldLink)) (n : Nat) (w : World), (∀ e ∈ l, e.1 ≠ name) → I w.rt →
      ∃ n' w', Proc.fold l n (loadRound env m) [] w = (.ok n', w') ∧ I w'.rt
  | [], n, w, _, h => ⟨n, w, rfl, h⟩
  | (name', nodeLink') :: l, n, w, hl, h => by
    obtain ⟨loaded, w1, hrun, hload⟩ := loadEntity_run env m name' nodeLink' w
    have h1 := hkeep (hl _ List.mem_cons_self) h hload
    obtain ⟨n', w', hrest, h'⟩ := loadRounds_keep hkeep l (if loaded then n + 1 else n) w1
      (fun e he => hl e (List.mem_cons_of_mem _ he)) h1
    refine ⟨n', w', ?_, h'⟩
    have hround : loadRound env m n (name', nodeLink') [] w =
        (.ok (if loaded then n + 1 else n), w1) := Proc.bind_of_ok hrun
    exact (Proc.bind_of_ok hround).trans hrest

/-- The entities around one of them. -/
theorem entities_split (hentity : m.entities[name]? = some nodeLink) :
    ∃ post, m.entities.toList =
        (m.entities.toList.takeWhile fun entry => entry.1 ≠ name) ++ (name, nodeLink) :: post ∧
      (∀ e ∈ m.entities.toList.takeWhile fun entry => entry.1 ≠ name, e.1 ≠ name) ∧
      ∀ e ∈ post, e.1 ≠ name := by
  have hmem := Std.ExtTreeMap.mem_toList_iff_getElem?_eq_some.mpr hentity
  obtain ⟨pre, post, hsplit⟩ := List.append_of_mem hmem
  obtain ⟨hpre, hpost⟩ := toList_split hsplit
  have htake : (m.entities.toList.takeWhile fun entry => entry.1 ≠ name) = pre := by
    rw [hsplit, List.takeWhile_append_of_pos fun e he => by simpa using hpre e he,
      List.takeWhile_cons_of_neg (by simp), List.append_nil]
  rw [htake]
  exact ⟨post, hsplit, hpre, hpost⟩

/-- **After the load of the entities**, if the state did not get through: the entity is not up, or
it is on an empty snapshot. -/
theorem loadEntities_unfetched {rc : Cid} {e : Error} (hempty : w.rt.entityRegistry = ∅)
    (hroot : env.kubo.manifests.denotes rc = some m)
    (hentity : m.entities[name]? = some nodeLink)
    (hnode : env.kubo.entities.denotes nodeLink.cid = some node) (hlink : node.state = some link)
    (hfetch : env.kubo.blobs.get ((worldAtLoad env m name w).io.calls + 3) link.cid = .error e) :
    (loadEntities env rc).Sat [] w fun _ w' =>
      Unloaded name w'.rt ∨ ∃ ep i, Unfetched name ep i w'.rt := by
  have hstart : Unloaded name w.rt := by
    refine ⟨fun name' ep i hep => ?_, ?_⟩
    · rw [hempty, Std.ExtTreeMap.getElem?_empty] at hep
      exact absurd hep (by simp)
    · rw [hempty, Std.ExtTreeMap.getElem?_empty]
  refine (calm_dagGet _ _).sat_attempt_bind fun r w1 hget h1 => ?_
  split
  · refine .inl ?_
    show Unloaded name w1.rt
    rwa [show w1.rt = w.rt from h1]
  · rename_i m'
    have hgot := Proc.attempt_ok hget
    obtain rfl := Option.some.inj (hroot.symm.trans (dagGet_ok hgot))
    obtain ⟨-, rfl⟩ := dagGet_run_ok hgot
    obtain ⟨post, hsplit, hpre, hpost⟩ := entities_split hentity
    obtain ⟨n2, w2, hbefore, h2⟩ := loadRounds_keep (I := Unloaded name)
      (fun hne h hload => h.other hne hload) _ 0 (w.afterCalls 1) hpre hstart
    have hworld : worldAtLoad env m name w = w2 := congrArg Prod.snd hbefore
    rw [hworld] at hfetch
    obtain ⟨loaded, w3, hrun, hload⟩ := loadEntity_run env m name nodeLink w2
    have h3 := h2.load hnode hlink hfetch hload
    obtain ⟨n4, w4, hafter, h4⟩ := loadRounds_keep
      (I := fun rt => Unloaded name rt ∨ ∃ ep i, Unfetched name ep i rt)
      (fun hne h hload => h.imp (·.other hne hload) fun ⟨ep, i, h⟩ => ⟨ep, i, h.other hne hload⟩)
      post (if loaded then n2 + 1 else n2) w3 hpost h3
    have hround : loadRound env m n2 (name, nodeLink) [] w2 =
        (.ok (if loaded then n2 + 1 else n2), w3) := Proc.bind_of_ok hrun
    have hall : Proc.fold m.entities.toList 0 (loadRound env m) [] (w.afterCalls 1) =
        (.ok n4, w4) := by
      rw [hsplit, Proc.fold_append, Proc.bind_of_ok hbefore]
      exact (Proc.bind_of_ok hround).trans hafter
    have hsat : (Proc.fold m.entities.toList 0 (loadRound env m)).Sat [] (w.afterCalls 1)
        fun _ w' => Unloaded name w'.rt ∨ ∃ ep i, Unfetched name ep i w'.rt := by
      unfold Proc.Sat
      rw [hall]
      exact h4
    exact hsat

/-- The entity's node at the root links its state as before, and its plugin is its own. -/
structure Linked (env : Env) (name : String) (ep : EntityPlugin) (i : Nat) (link : IpldLink)
    (rt : Runtime) : Prop where
  node : ∃ m node, AtRoot env rt m ∧ NamesNode env m name node ∧ node.state = some link
  entity : rt.entityRegistry[name]? = some ep ∨ rt.entityRegistry[name]? = none
  own : ∀ (name' : String) (ep' : EntityPlugin), rt.entityRegistry[name']? = some ep' →
    ep'.backend = .extism i → name' = name

/-- **A stateful entity that came up without its state** has an empty snapshot. -/
theorem booted_unfetched {config : Config} {files : StrMap (Except Error Config)}
    {cells : Nat → PluginCell} {rc : Cid} {cliOwners : List String} {e : Error} {ep : EntityPlugin}
    (hroot : env.kubo.manifests.denotes rc = some m)
    (hentity : m.entities[name]? = some nodeLink)
    (hnode : env.kubo.entities.denotes nodeLink.cid = some node) (hlink : node.state = some link)
    (hfetch : env.kubo.blobs.get ((worldAtLoad env m name
      ⟨blankRuntime config files cells, {}⟩).io.calls + 3) link.cid = .error e)
    (hstarted : (booted env config files cells (some rc) cliOwners).rt.entityRegistry[name]? =
      some ep) (hkind : ep.kind = .stateful) :
    ∃ i, ep.backend = .extism i ∧
      Linked env name ep i link (booted env config files cells (some rc) cliOwners).rt ∧
      ((booted env config files cells (some rc) cliOwners).rt.cells i).state.persisted =
        some [] := by
  obtain ⟨root, w1, w2, w3, ⟨h1, -⟩, ⟨h2, -⟩, ⟨-, h3⟩, hrun⟩ :=
    startup_run env (some rc) cliOwners ⟨blankRuntime config files cells, {}⟩
  obtain ⟨rfl, rfl⟩ : some rc = root ∧ _ = w1 := by simpa [initialRoot] using h1
  obtain ⟨n, w2', hload, h2⟩ := Proc.bind_ok h2
  obtain rfl : w2' = w2 := by simpa using h2
  have hloaded := (loadEntities_unfetched rfl hroot hentity hnode hlink hfetch).of_run hload
  have hrt : (booted env config files cells (some rc) cliOwners).rt =
      w3.rt.settled (some rc) cliOwners := congrArg (fun r => r.2.rt) hrun
  rw [hrt] at hstarted ⊢
  have hregistry : (w3.rt.settled (some rc) cliOwners).entityRegistry =
      w2'.rt.entityRegistry.insert schedulerFragment
        (newNative schedulerFragment schedulerNode).1 :=
    h3.entityRegistry
  have hcells : (w3.rt.settled (some rc) cliOwners).cells = w2'.rt.cells := by
    have h3 : w3.rt = _ := h3
    show w3.rt.cells = _
    rw [h3]
    rfl
  have hne : name ≠ schedulerFragment := by
    rintro rfl
    rw [hregistry, Std.ExtTreeMap.getElem?_insert_self] at hstarted
    obtain rfl := Option.some.inj hstarted
    exact absurd hkind (by simp [newNative])
  have hother {name' : String} (hne' : name' ≠ schedulerFragment) :
      (w3.rt.settled (some rc) cliOwners).entityRegistry[name']? =
        w2'.rt.entityRegistry[name']? := by
    rw [hregistry, getElem?_insert_of_ne hne']
  rw [hother hne] at hstarted
  rcases hloaded with hunloaded | ⟨ep', i, hunfetched⟩
  · exact absurd (hstarted.symm.trans hunloaded.entity) (by simp)
  · obtain rfl := Option.some.inj (hstarted.symm.trans hunfetched.entity)
    refine ⟨i, hunfetched.backend, ⟨⟨m, node, ⟨rc, rfl, hroot⟩, ⟨nodeLink, hentity, hnode⟩, hlink⟩,
      .inl ((hother hne).trans hstarted), fun name' ep2 hep2 hi => ?_⟩, ?_⟩
    · by_cases hne' : name' = schedulerFragment
      · subst hne'
        rw [hregistry, Std.ExtTreeMap.getElem?_insert_self] at hep2
        obtain rfl := Option.some.inj hep2
        exact absurd hi (by simp [newNative])
      · rw [hother hne'] at hep2
        exact hunfetched.own name' ep2 hep2 hi
    · rw [hcells]
      exact hunfetched.persisted

end Startup

/-! ## Dispatches -/

/-- What a dispatch gets saved: the bytes it queued, if Kubo takes them. -/
def savedBytes (env : Env) (result : DispatchResult) (g : Lib.Guards Lock) (w : World) :
    Option Bytes :=
  result.pendingState.filter fun bytes =>
    match (dagPut env.kubo.blobs bytes g w).1 with
    | .ok _ => true
    | _ => false

/-- A dispatch to the entity, labelled by what it saved, or anything else that leaves its plugin
alone and the link of its node. -/
inductive ServiceStep (env : Env) (name : String) (ep : EntityPlugin) (i : Nat)
    (link : IpldLink) : World → Option Bytes → World → Prop where
  | dispatch {g : Lib.Guards Lock} {input : CastInput} {w w1 : World} {result : DispatchResult}
      (hrun : dispatch env ep input g w = (.ok result, w1)) :
      ServiceStep env name ep i link w (savedBytes env result g w1)
        (persistPending env ep result.pendingState g w1).2
  | failed {g : Lib.Guards Lock} {input : CastInput} {w : World}
      (h : ∀ result, (dispatch env ep input g w).1 ≠ .ok result) :
      ServiceStep env name ep i link w none (dispatch env ep input g w).2
  | elsewhere {w w' : World} (hcell : w'.rt.cells i = w.rt.cells i)
      (h : Linked env name ep i link w.rt → Linked env name ep i link w'.rt) :
      ServiceStep env name ep i link w none w'

section Dispatches

variable {env : Env} {name : String} {ep : EntityPlugin} {i : Nat} {link : IpldLink} {w w' : World}

theorem Linked.congr {rt rt' : Runtime} (h : Linked env name ep i link rt)
    (hregistry : rt'.entityRegistry = rt.entityRegistry) (hstats : rt'.stats = rt.stats) :
    Linked env name ep i link rt' := by
  obtain ⟨m, node, hm, hnode, hlink⟩ := h.node
  refine ⟨⟨m, node, (atRoot_congr (congrArg Stats.rootCid hstats)).mpr hm, hnode, hlink⟩, ?_, ?_⟩
  · rw [hregistry]
    exact h.entity
  · rw [hregistry]
    exact h.own

/-- What the save after a dispatch leaves. -/
theorem persistPending_snapshot {g : Lib.Guards Lock} (hbackend : ep.backend = .extism i)
    (result : DispatchResult) (w : World) :
    (persistPending env ep result.pendingState g w).2.rt.cells i =
        (w.rt.cells i) ∧ savedBytes env result g w = none ∨
      ∃ bytes, savedBytes env result g w = some bytes ∧
        ((persistPending env ep result.pendingState g w).2.rt.cells i).state.persisted =
          some bytes := by
  unfold persistPending savedBytes
  cases hpending : result.pendingState with
  | none => exact .inl ⟨rfl, rfl⟩
  | some bytes =>
    rcases hput : dagPut env.kubo.blobs bytes g w with ⟨o, w1⟩
    have hidle : w1.rt = w.rt := ((calm_dagPut _ _).of_run hput).2
    cases o with
    | ok cid =>
      refine .inr ⟨bytes, by simp [hput], ?_⟩
      dsimp only
      rw [Proc.bind_of_ok (Proc.attempt_of_ok hput)]
      dsimp only
      rw [markSaved_run hbackend, World.withCell_self]
      rfl
    | err e =>
      refine .inl ⟨?_, by simp [hput]⟩
      dsimp only
      rw [Proc.bind_of_ok (Proc.attempt_of_err hput)]
      exact congrFun (congrArg Runtime.cells hidle) i
    | stuck =>
      refine .inl ⟨?_, by simp [hput]⟩
      dsimp only
      rw [Proc.bind_of_stuck (Proc.attempt_of_stuck hput)]
      exact congrFun (congrArg Runtime.cells hidle) i

/-- **One step**: the link stays, and the snapshot is what was saved, if anything was. -/
theorem ServiceStep.keeps {saved : Option Bytes} {snapshot : Bytes}
    (hbackend : ep.backend = .extism i) (h : ServiceStep env name ep i link w saved w')
    (hlinked : Linked env name ep i link w.rt)
    (hsnapshot : (w.rt.cells i).state.persisted = some snapshot) :
    Linked env name ep i link w'.rt ∧
      (w'.rt.cells i).state.persisted = some (saved.getD snapshot) := by
  cases h with
  | @dispatch g input _ w1 result hrun =>
    have h1 : SnapshotsKept w w1 := ((calm_dispatch_snapshots ep input).of_run hrun).2
    have h2 : CellsOnly w1 (persistPending env ep result.pendingState g w1).2 :=
      (calm_persistPending (g := g) ep result.pendingState).keeps g w1
    have h12 := trans_of CellsOnly h1.1 h2
    refine ⟨hlinked.congr h12.entityRegistry h12.stats, ?_⟩
    rcases @persistPending_snapshot env ep i g hbackend result w1 with
      ⟨hcell, hnone⟩ | ⟨bytes, hsome, hcell⟩
    · rw [hnone, hcell]
      exact (h1.2 i).trans hsnapshot
    · rw [hsome, hcell]
      rfl
  | @failed g input _ =>
    have h1 : SnapshotsKept w (MaRuntime.dispatch env ep input g w).2 :=
      (calm_dispatch_snapshots (g := g) ep input).keeps g w
    exact ⟨hlinked.congr h1.1.entityRegistry h1.1.stats, (h1.2 i).trans hsnapshot⟩
  | elsewhere hcell h => exact ⟨h hlinked, hcell ▸ hsnapshot⟩

/-- **Any dispatches**: the snapshot is what was saved last. -/
theorem unfetched_run {saves : List (Option Bytes)} {snapshot : Bytes}
    (hbackend : ep.backend = .extism i)
    (hrun : Run (ServiceStep env name ep i link) w saves w')
    (hlinked : Linked env name ep i link w.rt)
    (hsnapshot : (w.rt.cells i).state.persisted = some snapshot) :
    Linked env name ep i link w'.rt ∧ (w'.rt.cells i).state.persisted =
      some (saves.foldl (fun snapshot saved => saved.getD snapshot) snapshot) := by
  induction hrun generalizing snapshot with
  | nil w => exact ⟨hlinked, hsnapshot⟩
  | @cons w w1 w2 saved saves hstep _ ih =>
    obtain ⟨hlinked1, hsnapshot1⟩ := hstep.keeps hbackend hlinked hsnapshot
    exact ih hlinked1 hsnapshot1

end Dispatches

/-! ## The shutdown -/

/-- The state under the root: the link is the old one, or to the same bytes, or to a state made from
those bytes, since they are what the plugin was started on. -/
def StateKept (env : Env) (root : Cid) (name : String) (link : IpldLink) (startedOn : Bytes) :
    Prop :=
  ∃ m node link', env.kubo.manifests.denotes root = some m ∧ NamesNode env m name node ∧
    node.state = some link' ∧
    (link' = link ∨
      (∃ bytes, env.kubo.blobs.denotes link.cid = some bytes ∧
        env.kubo.blobs.denotes link'.cid = some bytes) ∨
      env.kubo.blobs.denotes link.cid = some startedOn)

/-- **A state that could not be fetched outlives the shutdown, iff** the plugin is not there any
more, or nothing is left to save, or what is left are the bytes that could not be fetched, or these
are empty: for every startup, every run of dispatches and every shutdown in which Kubo answers. -/
theorem unfetched_state_iff {env : Env} {config : Config} {files : StrMap (Except Error Config)}
    {cells : Nat → PluginCell} {rc root newRoot : Cid} {cliOwners : List String}
    {m : RuntimeManifest} {name : String} {nodeLink link : IpldLink} {node : EntityNode} {e : Error}
    {ep : EntityPlugin} {i : Nat} {saves : List (Option Bytes)} {w w' : World} {state : Bytes}
    (hm : env.kubo.manifests.denotes rc = some m) (hentity : m.entities[name]? = some nodeLink)
    (hnode : env.kubo.entities.denotes nodeLink.cid = some node) (hlink : node.state = some link)
    (hfetch : env.kubo.blobs.get ((worldAtLoad env m name
      ⟨blankRuntime config files cells, {}⟩).io.calls + 3) link.cid = .error e)
    (hstarted : (booted env config files cells (some rc) cliOwners).rt.entityRegistry[name]? =
      some ep) (hkind : ep.kind = .stateful) (hbackend : ep.backend = .extism i)
    (hrun : Run (ServiceStep env name ep i link)
      (booted env config files cells (some rc) cliOwners) saves w)
    (hsaves : SavesState env (w.rt.cells i) state) (hroot : w.rt.stats.rootCid = some root)
    (hsave : saveAllEntityStates env root [] w.unmarked = (.ok newRoot, w'))
    (hkubo : w'.io.kuboFailed = false) :
    StateKept env newRoot name link [] ↔
      w.rt.entityRegistry[name]? = none ∨
        ∀ bytes, unsaved (saves.foldl (fun snapshot saved => saved.getD snapshot) [])
            (w.rt.cells i).state.pending state = some bytes →
          env.kubo.blobs.denotes link.cid = some bytes ∨
            env.kubo.blobs.denotes link.cid = some [] := by
  obtain ⟨i', hbackend', hlinked, hsnapshot⟩ :=
    booted_unfetched hm hentity hnode hlink hfetch hstarted hkind
  obtain rfl : i = i' := by simpa [hbackend] using hbackend'
  obtain ⟨hlinked, hsnapshot⟩ := unfetched_run hbackend hrun hlinked hsnapshot
  obtain ⟨m1, node1, ⟨root1, hroot1, hm1⟩, hnode1, hlink1⟩ := hlinked.node
  obtain rfl : root1 = root := Option.some.inj (hroot1.symm.trans hroot)
  cases hregistered : w.rt.entityRegistry[name]? with
  | none =>
    refine iff_of_true ?_ (.inl rfl)
    obtain ⟨m2, hm2, hsame⟩ := saveAll_unregistered (w := w.unmarked) hregistered hm1 hsave
    exact ⟨m2, node1, link, hm2, hnode1.congr hsame, hlink1, .inl rfl⟩
  | some ep1 =>
    obtain rfl : ep1 = ep := by
      rcases hlinked.entity with hsome | hnone
      · exact Option.some.inj (hregistered.symm.trans hsome)
      · exact absurd (hregistered.symm.trans hnone) (by simp)
    obtain ⟨m2, node2, hm2, hnode2, hsaved⟩ := saveAll_saves (w := w.unmarked)
      ⟨hregistered, hkind, hbackend, hlinked.own⟩ hsaves hm1 hnode1 hsave hkubo
    have htaken : takenState (w.unmarked.rt.cells i).state state = unsaved
        (saves.foldl (fun snapshot saved => saved.getD snapshot) [])
        (w.rt.cells i).state.pending state := takenState_eq hsnapshot
    rw [htaken] at hsaved
    -- what the node under the new root links, by what was left to save
    cases hleft : unsaved (saves.foldl (fun snapshot saved => saved.getD snapshot) [])
        (w.rt.cells i).state.pending state with
    | none =>
      rw [hleft] at hsaved
      obtain rfl : node2 = node1 := hsaved
      exact iff_of_true ⟨m2, node2, link, hm2, hnode2, hlink1, .inl rfl⟩ (.inr (by simp))
    | some bytes =>
      rw [hleft] at hsaved
      obtain ⟨cid, hcid, rfl⟩ := hsaved
      simp only [reduceCtorEq, false_or, Option.some.injEq, forall_eq']
      constructor
      · rintro ⟨m3, node3, link3, hm3, hnode3, hlink3, hkept⟩
        obtain rfl := Option.some.inj (hm3.symm.trans hm2)
        obtain ⟨l2, hl2, hd2⟩ := hnode2
        obtain ⟨l3, hl3, hd3⟩ := hnode3
        obtain rfl := Option.some.inj (hl3.symm.trans hl2)
        obtain rfl := Option.some.inj (hd3.symm.trans hd2)
        obtain rfl : link3 = ⟨cid⟩ := (Option.some.inj hlink3).symm
        rcases hkept with rfl | ⟨bytes', hold, hnew⟩ | hempty
        · exact .inl hcid
        · obtain rfl := Option.some.inj (hnew.symm.trans hcid)
          exact .inl hold
        · exact .inr hempty
      · intro hkept
        refine ⟨m2, _, ⟨cid⟩, hm2, hnode2, rfl, .inr ?_⟩
        exact hkept.imp_left fun hold => ⟨bytes, hold, hcid⟩

/-! ## A diary -/

/-- A notebook with a page in it. -/
def diaryNode : EntityNode := { notesNode with state := some ⟨"bafypage"⟩ }

/-- The manifest after a save of the new note. -/
def diarySaved : RuntimeManifest :=
  { notesManifest with entities := (∅ : StrMap IpldLink).insert "notes" ⟨"bafysavednode"⟩ }

/-- Kubo with the diary, and with a new note in the place of its page. -/
def diaryTables : Tables where
  manifests := [("bafyroot", notesManifest), ("bafysaved", diarySaved)]
  entities := [("bafynotesnode", diaryNode), ("bafysavednode", savedNode diaryNode "bafynote")]
  kinds := [("bafynoteskind", notesKind)]
  acls := [("bafyopenacl", (∅ : AclMap).insert "*" (.fromCaps ["*"]))]
  blobs := [("bafynoteswasm", [0]), ("bafypage", [7]), ("bafynote", [1])]

/-- The daemon's surroundings. Kubo does not answer the fetch of the page at startup. -/
def diaryEnv : Env :=
  { diaryTables.live with
    kubo := { diaryTables.kubo with blobs := diaryTables.kubo.blobs.failingAt 4 ["timed out"] }
    guest := fun _ plugin exportName _ => notesGuest false plugin.memory exportName }

theorem diaryEnv_saves {cell : PluginCell} (h : cell.hostFns = [.maSetState]) :
    SavesState diaryEnv cell cell.plugin.memory := by
  intro n io
  refine ⟨⟨[], ?_⟩, ?_⟩
  · simp [playExport, diaryEnv, notesGuest, Lib.Interaction.run, hostFn, h]
  · simp [handedStates, diaryEnv, notesGuest, Lib.Interaction.trace, hostFn, h]

/-- The daemon with the diary loaded. -/
def diaryStart : World := started diaryEnv (some "bafyroot") []

set_option maxRecDepth 100000

theorem diary_unfetched : diaryEnv.kubo.blobs.get ((worldAtLoad diaryEnv notesManifest "notes"
    ⟨blankRuntime plainConfig ∅ fun _ => emptyCell, {}⟩).io.calls + 3) "bafypage" =
      .error ["timed out"] := by
  decide +kernel

/-- Without a message in between, the page is still there after the shutdown. -/
theorem unfetched_state_iff_idle : StateKept diaryEnv "bafyroot" "notes" ⟨"bafypage"⟩ [] := by
  have hentity : notesManifest.entities["notes"]? = some ⟨"bafynotesnode"⟩ := by decide +kernel
  have hstarted : diaryStart.rt.entityRegistry["notes"]? = some notesPlugin := by decide +kernel
  have hsaves : SavesState diaryEnv (diaryStart.rt.cells 0) [] := by
    have hmemory : (diaryStart.rt.cells 0).plugin.memory = [] := by decide +kernel
    exact hmemory ▸ diaryEnv_saves (by decide +kernel)
  have hsave : (saveAllEntityStates diaryEnv "bafyroot" [] diaryStart.unmarked).1 =
      .ok "bafyroot" := by decide +kernel
  have hpending : (diaryStart.rt.cells 0).state.pending = none := by decide +kernel
  have hrun : Run (ServiceStep diaryEnv "notes" notesPlugin 0 ⟨"bafypage"⟩) diaryStart
      [] diaryStart :=
    .nil _
  have hroot : diaryStart.rt.stats.rootCid = some "bafyroot" := by decide +kernel
  have hkubo : (saveAllEntityStates diaryEnv "bafyroot" [] diaryStart.unmarked).2.io.kuboFailed =
      false := by decide +kernel
  have hiff := @unfetched_state_iff diaryEnv plainConfig ∅ (fun _ => emptyCell) "bafyroot"
    "bafyroot" "bafyroot" [] notesManifest "notes" ⟨"bafynotesnode"⟩ ⟨"bafypage"⟩ diaryNode
    ["timed out"] notesPlugin 0 [] diaryStart _ [] rfl hentity rfl rfl diary_unfetched hstarted rfl
    rfl hrun hsaves hroot (Proc.run_of_outcome hsave) hkubo
  refine hiff.mpr (.inr fun bytes hleft => ?_)
  simp [unsaved, hpending] at hleft

/-- **The state is lost**: after one message and a shutdown in which Kubo answers every call, the
node links a state that was made from the empty one. -/
theorem unfetched_state_is_lost :
    ∃ result w w', dispatch diaryEnv notesPlugin appendNote [] diaryStart = (.ok result, w) ∧
      diaryEnv.kubo.blobs.denotes "bafypage" = some [7] ∧
      saveAllEntityStates diaryEnv "bafyroot" [] w.unmarked = (.ok "bafysaved", w') ∧
      w'.io.kuboFailed = false ∧
      Durable diaryEnv "bafysaved" "notes" [1] ∧
      ¬ StateKept diaryEnv "bafysaved" "notes" ⟨"bafypage"⟩ [] := by
  have hdispatch : (dispatch diaryEnv notesPlugin appendNote [] diaryStart).1 =
      .ok ⟨[], none, [], []⟩ := by decide +kernel
  have hsave : (saveAllEntityStates diaryEnv "bafyroot" []
      (dispatch diaryEnv notesPlugin appendNote [] diaryStart).2.unmarked).1 = .ok "bafysaved" := by
    decide +kernel
  have hkubo : (saveAllEntityStates diaryEnv "bafyroot" []
      (dispatch diaryEnv notesPlugin appendNote [] diaryStart).2.unmarked).2.io.kuboFailed =
      false := by decide +kernel
  have hlinked : diarySaved.entities["notes"]? = some ⟨"bafysavednode"⟩ := by decide +kernel
  refine ⟨_, _, _, Proc.run_of_outcome hdispatch, rfl, Proc.run_of_outcome hsave, hkubo,
    ⟨diarySaved, savedNode diaryNode "bafynote", rfl, ⟨_, hlinked, rfl⟩, ⟨"bafynote"⟩,
      rfl, rfl⟩, ?_⟩
  rintro ⟨m, node, link, hm, ⟨nodeLink, hentity, hnode⟩, hlink, hkept⟩
  obtain rfl : diarySaved = m := Option.some.inj hm
  obtain rfl := Option.some.inj (hlinked.symm.trans hentity)
  obtain rfl : savedNode diaryNode "bafynote" = node := Option.some.inj hnode
  obtain rfl : (⟨"bafynote"⟩ : IpldLink) = link := Option.some.inj hlink
  rcases hkept with heq | ⟨bytes, hold, hnew⟩ | hempty
  · exact absurd heq (by decide)
  · have hpage : [7] = bytes := Option.some.inj hold
    have hnote : [1] = bytes := Option.some.inj hnew
    exact absurd (hpage.trans hnote.symm) (by decide)
  · have hpage : ([7] : Bytes) = [] := Option.some.inj hempty
    exact absurd hpage (by decide)

end MaRuntime
