import MaRuntime.DispatchPaths
import MaRuntime.EntityNames
import MaRuntime.LiveAcl

/-!
# The lifecycle in the manifest (`src/entity.rs`, `src/bootstrap.rs`)

A load reports the lifecycle that `init` gave the entity, and no caller writes it to the manifest.
The shutdown writes `stopped`, to the nodes of the entities that hand over a new state, and over
`running` only.

* `Watched`: the daemon with what each entity's last load told of its `init`; `NextInits` keeps it
  from turn to turn.
* `LifecyclesRight`: what the lifecycle table says of the manifest after a clean shutdown.
* `saveAll_node`: what the shutdown does to the node of one entity.
* **`lifecycles_right_iff`**: the manifest follows the table, iff its nodes say so already, but for
  the running ones that hand over a new state.
* `idle_entity_stays_running`: an entity without a new state.
-/

namespace MaRuntime

open Lib (Proc Run)

/-! ## What a load tells of `init` -/

/-- What became of `init` in a load. -/
inductive InitResult where
  /-- It returned, and not `[:error, …]`. -/
  | completed
  /-- The kind declares none. -/
  | absent
  /-- It reported an error, or trapped. -/
  | failed
  deriving DecidableEq, Repr

/-- What the result of a load tells of `init`. -/
def initResult (name : String) (kindNode : KindNode) :
    Lib.Outcome Error (EntityPlugin × Lifecycle) → Option InitResult
  | .ok (_, .error) => some .failed
  | .ok _ => some (if kindNode.api.contains "init" then .completed else .absent)
  | .err (e :: _) =>
    if Text.startsWith e s!"init() failed for '{name}'" then some .failed else none
  | _ => none

/-- The results so far, by entity. -/
abbrev Inits := StrMap InitResult

/-- A result is kept, where there is one. -/
def recordInit (inits : Inits) (name : String) (result : Option InitResult) : Inits :=
  match result with
  | none => inits
  | some r => inits.insert name r

/-- The load of an entity at startup. -/
def entityInit (env : Env) (manifest : RuntimeManifest) (name : String) (link : IpldLink)
    (w : World) : Option InitResult :=
  match dagGet env.kubo.entities link.cid [] w with
  | (.ok node, w1) =>
    match manifest.kinds.getProtocol node.kind with
    | none => none
    | some kindLink =>
      match dagGet env.kubo.kinds kindLink.cid [] w1 with
      | (.ok kindNode, w2) => initResult name kindNode (load env name node kindNode [] w2).1
      | _ => none
  | _ => none

/-- The loads of the entities of a manifest, one after the other. -/
def entityInits (env : Env) (manifest : RuntimeManifest) :
    List (String × IpldLink) → World → Inits → Inits
  | [], _, inits => inits
  | (name, link) :: l, w, inits =>
    entityInits env manifest l (loadEntity env manifest name link [] w).2
      (recordInit inits name (entityInit env manifest name link w))

/-- The loads of the entities of the root. -/
def rootInits (env : Env) (root : Option Cid) (w : World) : Inits :=
  match root with
  | none => ∅
  | some rc =>
    match dagGet env.kubo.manifests rc [] w with
    | (.ok manifest, w1) => entityInits env manifest manifest.entities.toList w1 ∅
    | _ => ∅

/-- The loads of a startup. -/
def bootInits (env : Env) (config : Config) (files : StrMap (Except Error Config))
    (cells : Nat → PluginCell) (rootCid : Option Cid) : Inits :=
  match initialRoot env rootCid [] ⟨blankRuntime config files cells, {}⟩ with
  | (.ok root, w) => rootInits env root w
  | _ => ∅

/-- The load of an upsert, from its registration on. -/
def upsertInit (env : Env) (name : String) (node : EntityNode) (w : World) : Option InitResult :=
  match lookupKind env node.kind [] w with
  | (.ok (some kindNode), w1) => initResult name kindNode (load env name node kindNode [] w1).1
  | _ => none

/-- The results after a turn: an upsert loads its entity, and a delete takes one away. No other turn
loads any, as no kind is known to the RPC handler. -/
inductive NextInits (env : Env) (w : World) (inits : Inits) : Turn → Inits → Prop
  | upsert {message : Message} {name path : String} {cid : Cid} {node : EntityNode} {w1 : World}
      (hreq : crudRequest env message = some ("entities", [name], .put [.text path]))
      (hreach : Reaches env message name path w cid node w1) :
      NextInits env w inits (.crud message) (recordInit inits name (upsertInit env name node w1))
  | delete {message : Message} {name : String} (hasks : AsksDelete env message name)
      (hpriv : Privileged env w.rt message.from) :
      NextInits env w inits (.crud message) (inits.erase name)
  | other {t : Turn}
      (hupsert : ∀ message name path cid node w1, t = .crud message →
        crudRequest env message = some ("entities", [name], .put [.text path]) →
          ¬ Reaches env message name path w cid node w1)
      (hdelete : ∀ message name, t = .crud message → AsksDelete env message name →
        ¬ Privileged env w.rt message.from) :
      NextInits env w inits t inits

/-- The daemon, with the results of its loads. -/
structure Watched where
  world : World
  inits : Inits

/-- The daemon after startup. -/
def watched (env : Env) (config : Config) (files : StrMap (Except Error Config))
    (cells : Nat → PluginCell) (rootCid : Option Cid) (cliOwners : List String) : Watched where
  world := booted env config files cells rootCid cliOwners
  inits := bootInits env config files cells rootCid

/-- What the daemon does: a turn, or a job of the scheduler. -/
inductive Work where
  | turn (t : Turn)
  | job (nowNanos : UInt64) (id fragment : String) (content : Bytes)

/-- A piece of work. A job loads no entity. -/
inductive WatchedStep (env : Env) : Watched → Work → Watched → Prop
  | turn {d d' : Watched} {t : Turn} (hstep : Step env d.world t d'.world)
      (hnext : NextInits env d.world d.inits t d'.inits) : WatchedStep env d (.turn t) d'
  | job {d : Watched} {nowNanos : UInt64} {id fragment : String} {content : Bytes} :
      WatchedStep env d (.job nowNanos id fragment content)
        { d with world := (dispatchScheduled env nowNanos id fragment content [] d.world).2 }

/-! ## The lifecycle table -/

/-- The manifest under a root stores the node of the entity. -/
def Stores (env : Env) (root : Cid) (name : String) (node : EntityNode) : Prop :=
  ∃ m, env.kubo.manifests.denotes root = some m ∧ NamesNode env m name node

/-- An entity is running: it is registered, and its `init` did not fail. The native scheduler is
none of the manifest's. -/
def IsRunning (d : Watched) (name : String) : Prop :=
  Registers d.world.rt name ∧
    (d.inits[name]? = some .completed ∨ d.inits[name]? = some .absent)

/-- **The manifest follows the lifecycle table.** -/
structure LifecyclesRight (env : Env) (d : Watched) (root : Cid) : Prop where
  completed : ∀ name node, d.inits[name]? = some .completed → Stores env root name node →
    node.lifecycle ≠ .new
  running : ∀ name, IsRunning d name →
    ∃ node, Stores env root name node ∧ node.lifecycle = .stopped
  failed : ∀ name node, d.inits[name]? = some .failed → Stores env root name node →
    node.lifecycle = .error

/-- `save_state` returns, with a state to save. -/
def HandsOver (env : Env) (ep : EntityPlugin) (w : World) : Prop :=
  ep.kind = .stateful ∧ ∃ i output, ep.backend = .extism i ∧
    (playExport env w.io.calls "save_state" [] (w.rt.cells i)
      { w.io with calls := w.io.calls + 1 }).1 = .ok output ∧
    (playExport env w.io.calls "save_state" [] (w.rt.cells i)
      { w.io with calls := w.io.calls + 1 }).2.1.state.pending ≠ none

/-- The shutdown from `w` gets to the entity in `w1`. -/
def SavedFrom (env : Env) (root : Cid) (w : World) (name : String) (ep : EntityPlugin)
    (w1 : World) : Prop :=
  ∃ m w0 pre post m1,
    withContext "fetching current runtime manifest" (dagGet env.kubo.manifests root) [] w =
      (.ok m, w0) ∧
    w.rt.entityRegistry.toList = pre ++ (name, ep) :: post ∧
    (Proc.fold pre m fun m (n, e) => saveEntityState env m n e) [] w0 = (.ok m1, w1)

/-- **What makes the shutdown follow the table**: the nodes say so already, but for the running ones
that hand over a state. -/
structure LifecyclesDue (env : Env) (d : Watched) (root : Cid) : Prop where
  completed : ∀ name node, d.inits[name]? = some .completed → Stores env root name node →
    node.lifecycle ≠ .new
  running : ∀ name node, IsRunning d name → Stores env root name node →
    node.lifecycle = .stopped ∨ node.lifecycle = .running ∧
      ∀ ep w1, SavedFrom env root d.world name ep w1 → HandsOver env ep w1
  failed : ∀ name node, d.inits[name]? = some .failed → Stores env root name node →
    node.lifecycle = .error

/-! ## The shutdown -/

/-- The node of an entity before and after its save: it is kept, or its state was handed over. -/
inductive NodeSaved (env : Env) (hands : Prop) (name : String) (m m' : RuntimeManifest) : Prop
  | kept (hlink : m'.entities[name]? = m.entities[name]?) (hnot : hands → m.entities[name]? = none)
  | saved {node : EntityNode} {cid : Cid} (hhands : hands) (hnode : NamesNode env m name node)
      (hsaved : NamesNode env m' name (savedNode node cid))

section Shutdown

variable {env : Env} {g : Lib.Guards Lock} {ep : EntityPlugin} {name : String} {w w' : World}
  {root newRoot : Cid}

theorem Stores.unique {node node' : EntityNode} (h : Stores env root name node)
    (h' : Stores env root name node') : node = node' := by
  obtain ⟨m, hm, hnode⟩ := h
  obtain ⟨m', hm', hnode'⟩ := h'
  obtain rfl := Option.some.inj (hm.symm.trans hm')
  exact hnode.unique hnode'

/-- **A save takes a state exactly where one is handed over**, unless Kubo fails. -/
theorem triggerSave_handsOver (hkind : ep.kind = .stateful) :
    (triggerSave env ep).Sat g w fun o w1 => o ≠ .stuck ∧
      (∀ cid, o = .ok (some cid) → HandsOver env ep w) ∧
      ((∀ cid, o ≠ .ok (some cid)) → HandsOver env ep w → w1.io.kuboFailed = true) := by
  unfold triggerSave HandsOver
  cases hbackend : ep.backend with
  | native =>
    refine ⟨by simp, fun cid h => absurd h (by simp), fun _ h => ?_⟩
    obtain ⟨-, i, -, hi, -⟩ := h
    exact absurd hi (by simp)
  | extism i =>
    rcases hplay : playExport env w.io.calls "save_state" [] (w.rt.cells i)
      { w.io with calls := w.io.calls + 1 } with ⟨result, cell, io⟩
    have hcall := callExport_run (g := g) env ep i "save_state" [] w hplay
    have played {P : Except String Bytes × PluginCell × Io → Prop} :
        (∃ j output, EntityBackend.extism i = .extism j ∧
          (playExport env w.io.calls "save_state" [] (w.rt.cells j)
            { w.io with calls := w.io.calls + 1 }).1 = .ok output ∧
          P (playExport env w.io.calls "save_state" [] (w.rt.cells j)
            { w.io with calls := w.io.calls + 1 })) ↔
          (∃ output, result = .ok output) ∧ P (result, cell, io) := by
      constructor
      · rintro ⟨j, output, hj, ho, hp⟩
        obtain rfl := EntityBackend.extism.inj hj
        rw [hplay] at ho hp
        exact ⟨⟨output, ho⟩, hp⟩
      · rintro ⟨⟨output, ho⟩, hp⟩
        exact ⟨i, output, rfl, by rw [hplay]; exact ho, by rw [hplay]; exact hp⟩
    rw [hkind, played (P := fun r => r.2.1.state.pending ≠ none)]
    cases result with
    | error e =>
      refine Proc.sat_bind_of_err hcall ⟨by simp, fun cid h => absurd h (by simp), fun _ h => ?_⟩
      obtain ⟨-, ⟨output, ho⟩, -⟩ := h
      exact absurd ho (by simp)
    | ok output =>
      refine Proc.sat_bind_of_ok hcall (Proc.sat_bind_of_ok takePending_run ?_)
      dsimp only
      rw [Function.update_self]
      cases hpending : cell.state.pending with
      | none => exact ⟨by simp, fun cid h => absurd h (by simp), fun _ h => absurd rfl h.2.2⟩
      | some bytes =>
        refine Proc.sat_bind (Proc.sat_mapErr ((dagPut_sat _ _).mono fun o w2 h => ?_))
        rcases h.2 with ⟨cid, hcid, rfl⟩ | ⟨e, rfl, hfailed⟩
        · refine Proc.sat_bind_of_ok (markSaved_run hbackend) ⟨by simp, fun _ _ => ?_, fun h => ?_⟩
          · exact ⟨rfl, ⟨output, rfl⟩, by simp⟩
          · exact absurd rfl (h cid)
        · exact ⟨by simp, fun cid h => absurd h (by simp), fun _ _ => hfailed⟩

/-- **The save of one entity**, if Kubo lets it through. -/
theorem saveEntityState_node {manifest : RuntimeManifest} :
    (saveEntityState env manifest name ep).Sat g w fun o w1 => ∃ m, o = .ok m ∧
      (w1.io.kuboFailed = false → NodeSaved env (HandsOver env ep w) name manifest m) := by
  have skipped {w1 : World} (h : HandsOver env ep w → w1.io.kuboFailed = true) :
      ∃ m, Lib.Outcome.ok (ε := Error) manifest = .ok m ∧
        (w1.io.kuboFailed = false → NodeSaved env (HandsOver env ep w) name manifest m) :=
    ⟨manifest, rfl, fun hf => .kept rfl fun hhands => absurd ((h hhands).symm.trans hf) (by simp)⟩
  unfold saveEntityState saveEntityStateWith
  split
  · rename_i hkind
    exact skipped fun hhands => absurd (hhands.1.symm.trans hkind) (by simp)
  · rename_i hkind
    have hkind : ep.kind = .stateful := by
      cases h : ep.kind with
      | stateful => rfl
      | stateless => exact absurd h hkind
    refine Proc.sat_bind (Proc.sat_attempt ((triggerSave_handsOver hkind).mono fun o w1 h => ?_))
    obtain ⟨hfree, hsome, hnone⟩ := h
    cases o with
    | stuck => exact absurd rfl hfree
    | err e => exact skipped (hnone fun cid => by simp)
    | ok saved =>
      cases saved with
      | none => exact skipped (hnone fun cid => by simp)
      | some stateCid =>
        have hhands := hsome stateCid rfl
        dsimp only
        cases hlink : manifest.entities[name]? with
        | none => exact ⟨manifest, rfl, fun _ => .kept rfl fun _ => hlink⟩
        | some link =>
          refine Proc.sat_bind (Proc.sat_attempt ((dagGet_sat _ _).mono fun o w2 h => ?_))
          rcases h.2 with ⟨node, hget, rfl⟩ | ⟨e, rfl, hfailed⟩
          · refine Proc.sat_bind (Proc.sat_attempt ((dagPut_sat _ _).mono fun o w3 h => ?_))
            rcases h.2 with ⟨newCid, hput, rfl⟩ | ⟨e, rfl, hfailed⟩
            · exact ⟨_, rfl, fun _ => .saved hhands ⟨link, hlink, hget⟩ ⟨⟨newCid⟩, by simp, hput⟩⟩
            · exact skipped fun _ => hfailed
          · exact skipped fun _ => hfailed

/-- Saving other entities leaves the link of this one. -/
theorem saveEntities_other {l : List (String × EntityPlugin)} (hl : ∀ e ∈ l, e.1 ≠ name)
    (manifest : RuntimeManifest) :
    (Proc.fold l manifest fun m (n, e) => saveEntityState env m n e).Sat g w fun o w1 =>
      ∃ m, o = .ok m ∧ m.entities[name]? = manifest.entities[name]? ∧
        (w.io.kuboFailed = true → w1.io.kuboFailed = true) :=
  (saveOthers (S := fun _ => False) (fun e he => ⟨hl e he, fun _ _ => id⟩) manifest).mono
    fun _ _ ⟨m, ho, hlink, hcells⟩ => ⟨m, ho, hlink, hcells.2⟩

/-- **What the shutdown does to the node of one entity**, among all the others. -/
theorem saveAll_node (hsave : saveAllEntityStates env root [] w = (.ok newRoot, w'))
    (hkubo : w'.io.kuboFailed = false) {w1 : World} (hfrom : SavedFrom env root w name ep w1) :
    ∃ m m', env.kubo.manifests.denotes root = some m ∧
      env.kubo.manifests.denotes newRoot = some m' ∧
      NodeSaved env (HandsOver env ep w1) name m m' := by
  obtain ⟨m, w0, m', w2, hget, hfold, hnew, hmark⟩ := saveAll_stages hsave
  obtain ⟨m0, w0', pre, post, m1, hget', hsplit, hpre⟩ := hfrom
  obtain ⟨hm0, rfl⟩ := Prod.mk.inj (hget.symm.trans hget')
  obtain rfl := Lib.Outcome.ok.inj hm0
  refine ⟨m, m', dagGet_ok (withContext_ok hget), hnew, ?_⟩
  obtain ⟨hbefore, hafter⟩ := toList_split hsplit
  rw [hsplit, Proc.fold_append, Proc.bind_of_ok hpre] at hfold
  obtain ⟨m2, w3, hself, hpost⟩ := Proc.bind_ok (p := saveEntityState env m1 name ep) hfold
  obtain ⟨m1', hm1, hlink1, -⟩ := (saveEntities_other hbefore m).of_run hpre
  obtain rfl := Lib.Outcome.ok.inj hm1
  obtain ⟨m2', hm2, hnode⟩ := saveEntityState_node.of_run hself
  obtain rfl := Lib.Outcome.ok.inj hm2
  obtain ⟨m', hm', hlink', hfailed⟩ := (saveEntities_other hafter m2).of_run hpost
  obtain rfl := Lib.Outcome.ok.inj hm'
  have hf : w3.io.kuboFailed = false := by
    by_contra hf
    have h3 := hmark (hfailed (by simpa using hf))
    exact absurd (h3.symm.trans hkubo) (by simp)
  cases hnode hf with
  | kept hlink hnot =>
    exact .kept (hlink'.trans (hlink.trans hlink1)) fun hhands => hlink1 ▸ hnot hhands
  | saved hhands hnode hsaved => exact .saved hhands (hnode.congr hlink1.symm) (hsaved.congr hlink')

/-- The shutdown gets to every registered entity. -/
theorem exists_savedFrom (hsave : saveAllEntityStates env root [] w = (.ok newRoot, w'))
    (hentity : w.rt.entityRegistry[name]? = some ep) : ∃ w1, SavedFrom env root w name ep w1 := by
  obtain ⟨m, w0, m', w2, hget, -, -, -⟩ := saveAll_stages hsave
  obtain ⟨pre, post, hsplit⟩ :=
    List.append_of_mem (Std.ExtTreeMap.mem_toList_iff_getElem?_eq_some.mpr hentity)
  obtain ⟨hbefore, -⟩ := toList_split hsplit
  rcases hfold : (Proc.fold pre m fun m (n, e) => saveEntityState env m n e) [] w0 with ⟨o, w1⟩
  obtain ⟨m1, rfl, -⟩ := (saveEntities_other hbefore m).of_run hfold
  exact ⟨w1, m, w0, pre, post, m1, hget, hsplit, hfold⟩

/-- **Every node in the manifest that it publishes is one of the root**, saved or as it was. -/
theorem stored_from (hsave : saveAllEntityStates env root [] w = (.ok newRoot, w'))
    (hkubo : w'.io.kuboFailed = false) {node' : EntityNode}
    (h : Stores env newRoot name node') :
    ∃ node, Stores env root name node ∧ (node' = node ∨ ∃ cid, node' = savedNode node cid) := by
  obtain ⟨m', hm', hnode'⟩ := h
  have kept {m : RuntimeManifest} (hm : env.kubo.manifests.denotes root = some m)
      (hlink : m'.entities[name]? = m.entities[name]?) :
      ∃ node, Stores env root name node ∧ (node' = node ∨ ∃ cid, node' = savedNode node cid) :=
    ⟨node', ⟨m, hm, hnode'.congr hlink.symm⟩, .inl rfl⟩
  cases hentity : w.rt.entityRegistry[name]? with
  | none =>
    obtain ⟨m, -, -, -, hm, -⟩ := saveAll_ok hsave
    obtain ⟨m1, hm1, hlink⟩ := saveAll_unregistered hentity hm hsave
    obtain rfl := Option.some.inj (hm1.symm.trans hm')
    exact kept hm hlink
  | some ep =>
    obtain ⟨w1, hfrom⟩ := exists_savedFrom hsave hentity
    obtain ⟨m, m1, hm, hm1, hsaved⟩ := saveAll_node hsave hkubo hfrom
    obtain rfl := Option.some.inj (hm1.symm.trans hm')
    cases hsaved with
    | kept hlink hnot => exact kept hm hlink
    | @saved node cid hhands hnode hsaved =>
      exact ⟨node, ⟨m, hm, hnode⟩, .inr ⟨cid, hnode'.unique hsaved⟩⟩

/-- Every node of the root is there after the shutdown: saved, if a state was handed over. -/
theorem stored_to (hsave : saveAllEntityStates env root [] w = (.ok newRoot, w'))
    (hkubo : w'.io.kuboFailed = false) {node : EntityNode} (h : Stores env root name node) :
    (∃ node', Stores env newRoot name node' ∧
      (node' = node ∨ ∃ cid, node' = savedNode node cid)) ∧
    ∀ ep w1, SavedFrom env root w name ep w1 →
      HandsOver env ep w1 ∧ (∃ cid, Stores env newRoot name (savedNode node cid)) ∨
        ¬ HandsOver env ep w1 ∧ Stores env newRoot name node := by
  obtain ⟨m, hm, hnode⟩ := h
  have reached {ep : EntityPlugin} {w1 : World} (hfrom : SavedFrom env root w name ep w1) :
      HandsOver env ep w1 ∧ (∃ cid, Stores env newRoot name (savedNode node cid)) ∨
        ¬ HandsOver env ep w1 ∧ Stores env newRoot name node := by
    obtain ⟨m1, m', hm1, hm', hsaved⟩ := saveAll_node hsave hkubo hfrom
    obtain rfl := Option.some.inj (hm1.symm.trans hm)
    cases hsaved with
    | kept hlink hnot =>
      refine .inr ⟨fun hhands => ?_, m', hm', hnode.congr hlink⟩
      obtain ⟨link, hlink, -⟩ := hnode
      exact absurd ((hnot hhands).symm.trans hlink) (by simp)
    | @saved node1 cid hhands hnode1 hsaved =>
      obtain rfl := hnode.unique hnode1
      exact .inl ⟨hhands, cid, m', hm', hsaved⟩
  refine ⟨?_, fun ep w1 hfrom => reached hfrom⟩
  cases hentity : w.rt.entityRegistry[name]? with
  | none =>
    obtain ⟨m', hm', hlink⟩ := saveAll_unregistered hentity hm hsave
    exact ⟨node, ⟨m', hm', hnode.congr hlink⟩, .inl rfl⟩
  | some ep =>
    obtain ⟨w1, hfrom⟩ := exists_savedFrom hsave hentity
    rcases reached hfrom with ⟨-, cid, hsaved⟩ | ⟨-, hkept⟩
    · exact ⟨_, hsaved, .inr ⟨cid, rfl⟩⟩
    · exact ⟨node, hkept, .inl rfl⟩

end Shutdown

/-! ## The table at shutdown -/

section Table

variable {env : Env} {d : Watched} {w' : World} {root newRoot : Cid} {node node' : EntityNode}

/-- A save writes over `running` only. -/
theorem lifecycle_saved (h : node' = node ∨ ∃ cid, node' = savedNode node cid) :
    node'.lifecycle = node.lifecycle ∨ node.lifecycle = .running ∧ node'.lifecycle = .stopped := by
  rcases h with rfl | ⟨cid, rfl⟩
  · exact .inl rfl
  · by_cases hrunning : node.lifecycle = .running
    · exact .inr ⟨hrunning, if_pos hrunning⟩
    · exact .inl (if_neg hrunning)

/-- **The table is followed iff it is due**, where the running entities are those of the root. -/
theorem lifecyclesRight_iff (hsave : saveAllEntityStates env root [] d.world = (.ok newRoot, w'))
    (hkubo : w'.io.kuboFailed = false)
    (hlisted : ∀ name, IsRunning d name → ∃ node, Stores env root name node) :
    LifecyclesRight env d newRoot ↔ LifecyclesDue env d root := by
  constructor
  · intro h
    refine ⟨fun name node hinit hnode => ?_, fun name node hrunning hnode => ?_,
      fun name node hinit hnode => ?_⟩
    · obtain ⟨⟨node', hnode', hsaved⟩, -⟩ := stored_to hsave hkubo hnode
      have hnew := h.completed name node' hinit hnode'
      rcases lifecycle_saved hsaved with hsame | ⟨hsame, -⟩
      · rwa [hsame] at hnew
      · simp [hsame]
    · obtain ⟨⟨node', hnode', hsaved⟩, hreached⟩ := stored_to hsave hkubo hnode
      obtain ⟨node1, hnode1, hstopped⟩ := h.running name hrunning
      obtain rfl := hnode'.unique hnode1
      by_cases hdone : node.lifecycle = .stopped
      · exact .inl hdone
      · rcases lifecycle_saved hsaved with hsame | ⟨hsame, -⟩
        · exact absurd (hsame.symm.trans hstopped) hdone
        · refine .inr ⟨hsame, fun ep w1 hfrom => ?_⟩
          by_contra hnot
          obtain ⟨-, hkept⟩ := (hreached ep w1 hfrom).resolve_left fun h => hnot h.1
          exact hdone (hkept.unique hnode' ▸ hstopped)
    · obtain ⟨⟨node', hnode', hsaved⟩, -⟩ := stored_to hsave hkubo hnode
      have herror := h.failed name node' hinit hnode'
      rcases lifecycle_saved hsaved with hsame | ⟨-, hstopped⟩
      · exact hsame.symm.trans herror
      · exact absurd (herror.symm.trans hstopped) (by simp)
  · intro h
    refine ⟨fun name node' hinit hnode' => ?_, fun name hrunning => ?_,
      fun name node' hinit hnode' => ?_⟩
    · obtain ⟨node, hnode, hsaved⟩ := stored_from hsave hkubo hnode'
      have hnew := h.completed name node hinit hnode
      rcases lifecycle_saved hsaved with hsame | ⟨-, hstopped⟩
      · rwa [hsame]
      · simp [hstopped]
    · obtain ⟨node, hnode⟩ := hlisted name hrunning
      obtain ⟨⟨node', hnode', hsaved⟩, hreached⟩ := stored_to hsave hkubo hnode
      rcases h.running name node hrunning hnode with hstopped | ⟨hnow, hhands⟩
      · refine ⟨node', hnode', ?_⟩
        rcases lifecycle_saved hsaved with hsame | ⟨-, hdone⟩
        · exact hsame.trans hstopped
        · exact hdone
      · obtain ⟨ep, hentity⟩ : ∃ ep, d.world.rt.entityRegistry[name]? = some ep :=
          Option.isSome_iff_exists.mp (Std.ExtTreeMap.mem_iff_isSome_getElem?.mp hrunning.1.2)
        obtain ⟨w1, hfrom⟩ := exists_savedFrom hsave hentity
        obtain ⟨-, cid, hwritten⟩ :=
          (hreached ep w1 hfrom).resolve_right fun h => h.1 (hhands ep w1 hfrom)
        exact ⟨_, hwritten, if_pos hnow⟩
    · obtain ⟨node, hnode, hsaved⟩ := stored_from hsave hkubo hnode'
      have herror := h.failed name node hinit hnode
      rcases lifecycle_saved hsaved with hsame | ⟨hnow, -⟩
      · exact hsame.trans herror
      · exact absurd (herror.symm.trans hnow) (by simp)

end Table

/-! ## Runs -/

/-- Every registered entity is stored in the root manifest. -/
def Listed (env : Env) (rt : Runtime) : Prop :=
  ∀ m, AtRoot env rt m → ∀ name, Registers rt name → ∃ node, NamesNode env m name node

/-- Of every registered entity it is known what became of its `init`. -/
def Recorded (d : Watched) : Prop :=
  ∀ name, Registers d.world.rt name → name ∈ d.inits

section Listed

variable {env : Env} {rt rt' : Runtime}

theorem Listed.of_write {f : RuntimeManifest → RuntimeManifest} {newCid : Cid}
    (hw : ManifestWrite env f rt newCid rt')
    (h : ∀ m name, AtRoot env rt m → Registers rt name → ∃ node, NamesNode env (f m) name node) :
    Listed env rt' := by
  intro m' hroot name hname
  obtain ⟨m, hm, hm'⟩ := hw.atRoot
  obtain rfl := hm'.eq hroot
  refine h m name hm ?_
  rwa [hw.frame] at hname

/-- A write that leaves the entities alone. -/
theorem Listed.kept {f : RuntimeManifest → RuntimeManifest} {newCid : Cid} (h : Listed env rt)
    (hw : ManifestWrite env f rt newCid rt') (hf : ∀ m, (f m).entities = m.entities) :
    Listed env rt' :=
  .of_write hw fun m name hm hname => by
    obtain ⟨node, hnode⟩ := h m hm name hname
    exact ⟨node, hnode.congr (by rw [hf])⟩

/-- Where fewer entities are registered. -/
theorem Listed.shrunk (h : Listed env rt) (hroot : rt'.stats.rootCid = rt.stats.rootCid)
    (hnames : ∀ name, Registers rt' name → Registers rt name) : Listed env rt' :=
  fun m hm name hname => h m ((atRoot_congr hroot).mp hm) name (hnames name hname)

/-- A node that is linked is stored, and so is what was stored before. -/
theorem namesNode_insert {m : RuntimeManifest} {name name' : String} {cid : Cid} {node : EntityNode}
    (hcid : env.kubo.entities.denotes cid = some node)
    (hold : name' ≠ name → ∃ node, NamesNode env m name' node) :
    ∃ node, NamesNode env { m with entities := m.entities.insert name ⟨cid⟩ } name' node := by
  by_cases hname : name' = name
  · subst hname
    exact ⟨node, ⟨cid⟩, Std.ExtTreeMap.getElem?_insert_self, hcid⟩
  · obtain ⟨node', hnode'⟩ := hold hname
    exact ⟨node', hnode'.congr (getElem?_insert_of_ne hname)⟩

theorem registers_erase {name name' : String}
    (h : Registers { rt with entityRegistry := rt.entityRegistry.erase name } name') :
    name' ≠ name ∧ Registers rt name' := by
  obtain ⟨hscheduler, hmem⟩ := h
  obtain ⟨hne, hmem⟩ := mem_erase_iff.mp hmem
  exact ⟨hne, hscheduler, hmem⟩

/-- **Every CRUD request keeps the registered entities stored.** -/
theorem CrudEffect.listed {sender : String} {req : CrudRequest}
    (heff : CrudEffect env sender req rt rt') (h : Listed env rt) : Listed env rt' := by
  cases heff with
  | idle => exact h
  | configDelete hw => exact h.kept hw fun _ => rfl
  | configSet hkey hw => exact h.kept hw fun _ => rfl
  | daemonSet hkey => exact h
  | aclSet hdoc hw => exact (h.kept hw fun _ => rfl).shrunk rfl fun _ => id
  | aclsSet hw hcache => exact (h.kept hw fun _ => rfl).shrunk rfl fun _ => id
  | aclsDelete hw => exact (h.kept hw fun _ => rfl).shrunk rfl fun _ => id
  | kindSet hw => exact h.kept hw fun _ => rfl
  | kindDelete hw => exact h.kept hw fun _ => rfl
  | @entityDelete _ _ erased _ hcap hw =>
    refine .of_write hw fun m name hm hname => ?_
    obtain ⟨hne, hname⟩ := registers_erase hname
    obtain ⟨node, hnode⟩ := h m hm name hname
    exact ⟨node, hnode.congr (getElem?_erase_of_ne hne)⟩
  | entityDeleteCut hcap => exact h.shrunk rfl fun name hname => (registers_erase hname).2
  | @entityUpsert _ rt1 _ linked _ _ _ _ hcid hnode hname hcap hw hreg =>
    have hlinked (hroot : rt'.stats = rt1.stats)
        (hnames : ∀ name, Registers rt' name → name = linked ∨ Registers rt name) :
        Listed env rt' := by
      intro m' hm' name hname
      obtain ⟨m, hm, hm1⟩ := hw.atRoot
      obtain rfl := hm1.eq ((atRoot_congr (congrArg Stats.rootCid hroot)).mp hm')
      refine namesNode_insert hnode fun hne => ?_
      exact h m hm name ((hnames name hname).resolve_left hne)
    have hregistry : rt1.entityRegistry = rt.entityRegistry := by rw [hw.frame]
    cases hreg with
    | skipped => exact hlinked rfl fun name hname => .inr ⟨hname.1, hregistry ▸ hname.2⟩
    | loaded =>
      refine hlinked rfl fun name hname => ?_
      obtain ⟨hscheduler, hmem⟩ := hname
      rw [hregistry, mem_insert_iff] at hmem
      exact hmem.imp_right fun hmem => ⟨hscheduler, hmem⟩
  | entityAcl hargs hroot hold hlink hnode hcid hw =>
    exact .of_write hw fun m name hm hname => namesNode_insert hcid fun _ => h m hm name hname

/-- A request that is not an upsert registers nothing. -/
theorem CrudEffect.shrinks {sender : String} {req : CrudRequest} {name : String}
    (heff : CrudEffect env sender req rt rt')
    (hupsert : ∀ name path, req ≠ ("entities", [name], .put [.text path]))
    (h : Registers rt' name) : Registers rt name := by
  have written {f : RuntimeManifest → RuntimeManifest} {newCid : Cid} {rt rt' : Runtime}
      (hw : ManifestWrite env f rt newCid rt') (h : Registers rt' name) : Registers rt name := by
    rwa [hw.frame] at h
  cases heff with
  | idle => exact h
  | configDelete hw => exact written hw h
  | configSet hkey hw => exact written hw h
  | daemonSet hkey => exact h
  | aclSet hdoc hw => exact written hw h
  | aclsSet hw hcache => exact written hw h
  | aclsDelete hw => exact written hw h
  | kindSet hw => exact written hw h
  | kindDelete hw => exact written hw h
  | entityDelete hcap hw => exact (registers_erase (written hw h)).2
  | entityDeleteCut hcap => exact (registers_erase h).2
  | entityUpsert hcid hnode hname hcap hw hreg => exact absurd rfl (hupsert _ _)
  | entityAcl hargs hroot hold hlink hnode hcid hw => exact written hw h

end Listed

section Recorded

variable {env : Env} {w : World} {name : String}

theorem initResult_ok (kindNode : KindNode) (r : EntityPlugin × Lifecycle) :
    ∃ result, initResult name kindNode (.ok r) = some result := by
  obtain ⟨ep, lifecycle⟩ := r
  cases lifecycle <;> exact ⟨_, rfl⟩

theorem mem_recordInit {inits : Inits} {name' : String} {result : Option InitResult}
    (h : name' ∈ inits ∨ name' = name ∧ ∃ r, result = some r) :
    name' ∈ recordInit inits name result := by
  cases result with
  | none => exact h.resolve_right fun h => by simp at h
  | some r =>
    exact mem_insert_iff.mpr (h.symm.imp_left And.left)

/-- A plugin that an upsert registers has a result. -/
theorem upsertInit_some {node : EntityNode}
    (h : ∃ ep, (pluginToRegister env name node [] w).1 = .ok (some ep)) :
    ∃ r, upsertInit env name node w = some r := by
  obtain ⟨ep, ho⟩ := h
  obtain ⟨k, w1, hkind, h⟩ := Proc.bind_ok (Proc.run_of_outcome ho)
  cases k with
  | none => exact absurd (congrArg Prod.fst h) (by simp)
  | some kindNode =>
    obtain ⟨r, w2, hload, h⟩ := Proc.bind_ok h
    cases r with
    | error e => exact absurd (congrArg Prod.fst h) (by simp)
    | ok r =>
      unfold upsertInit
      rw [hkind]
      dsimp only
      rw [Proc.attempt_ok hload]
      exact initResult_ok kindNode r

/-- An entity that startup loads has a result. -/
theorem entityInit_some {manifest : RuntimeManifest} {link : IpldLink} {w' : World}
    (h : loadEntity env manifest name link [] w = (.ok true, w')) :
    ∃ r, entityInit env manifest name link w = some r := by
  unfold loadEntity at h
  obtain ⟨r, w1, hget, h⟩ := Proc.bind_ok h
  cases r with
  | error e => exact absurd (congrArg Prod.fst h) (by simp)
  | ok node =>
    unfold entityInit
    rw [Proc.attempt_ok hget]
    dsimp only at h ⊢
    cases hkind : manifest.kinds.getProtocol node.kind with
    | none =>
      rw [hkind] at h
      exact absurd (congrArg Prod.fst h) (by simp)
    | some kindLink =>
      rw [hkind] at h
      obtain ⟨r, w2, hget, h⟩ := Proc.bind_ok h
      cases r with
      | error e => exact absurd (congrArg Prod.fst h) (by simp)
      | ok kindNode =>
        obtain ⟨r, w3, hload, h⟩ := Proc.bind_ok h
        cases r with
        | error e => exact absurd (congrArg Prod.fst h) (by simp)
        | ok r =>
          dsimp only
          rw [Proc.attempt_ok hget]
          dsimp only
          rw [Proc.attempt_ok hload]
          exact initResult_ok kindNode r

/-- **The loads of a startup are recorded.** -/
theorem entityInits_covers {manifest : RuntimeManifest} :
    ∀ (l : List (String × IpldLink)) (n : Nat) (w : World) (inits : Inits),
      (∀ name, name ∈ w.rt.entityRegistry → name ∈ inits) →
        (Proc.fold l n fun loaded (name, link) => do
          pure (if ← loadEntity env manifest name link then loaded + 1 else loaded)).Sat [] w
          fun _ w' => ∀ name, name ∈ w'.rt.entityRegistry →
            name ∈ entityInits env manifest l w inits
  | [], _, _, _, h => h
  | (name, link) :: l, n, w, inits, h => by
    obtain ⟨loaded, w1, hrun, hload⟩ := loadEntity_run env manifest name link w
    have hcovered : ∀ name', name' ∈ w1.rt.entityRegistry →
        name' ∈ recordInit inits name (entityInit env manifest name link w) := by
      intro name' hmem
      cases hload with
      | skipped hidle =>
        rw [show w1.rt = w.rt from hidle] at hmem
        exact mem_recordInit (.inl (h name' hmem))
      | @loaded node kindNode ep lifecycle w2 hnode hload =>
        have hcells := ((calm_load env name node kindNode).of_run hload).2
        have hregistry : w2.rt.entityRegistry = w.rt.entityRegistry := hcells.entityRegistry
        have hmem : name' ∈ w2.rt.entityRegistry.insert name ep := hmem
        rw [hregistry, mem_insert_iff] at hmem
        exact mem_recordInit (hmem.symm.imp (h name') fun heq => ⟨heq, entityInit_some hrun⟩)
    have hrest := @entityInits_covers manifest l (if loaded then n + 1 else n) w1 _ hcovered
    unfold entityInits
    rw [hrun]
    exact Proc.sat_bind_of_ok ((Proc.bind_of_ok hrun).trans rfl) hrest

/-- Startup records the load of every entity that it registers. -/
theorem rootInits_covers {root : Option Cid} {w' : World} (hempty : w.rt.entityRegistry = ∅)
    (hrun : loadRootEntities env root [] w = (.ok (), w')) :
    ∀ name, name ∈ w'.rt.entityRegistry → name ∈ rootInits env root w := by
  have unregistered {w1 : World} (h : Idle w w1) (name : String) :
      name ∉ w1.rt.entityRegistry := by
    rw [show w1.rt = w.rt from h, hempty]
    exact Std.ExtTreeMap.not_mem_empty
  cases root with
  | none =>
    obtain rfl : w = w' := congrArg Prod.snd hrun
    exact fun name hmem => absurd hmem (unregistered rfl name)
  | some rc =>
    obtain ⟨n, w1, hload, hdone⟩ := Proc.bind_ok (p := loadEntities env rc) hrun
    obtain rfl : w1 = w' := congrArg Prod.snd hdone
    obtain ⟨r, w2, hget, hload⟩ :=
      Proc.bind_ok (p := (dagGet env.kubo.manifests rc).attempt) hload
    have hidle : Idle w w2 := ((calm_dagGet env.kubo.manifests rc).attempt.of_run hget).2
    cases r with
    | error e =>
      obtain rfl : w2 = w1 := congrArg Prod.snd hload
      exact fun name hmem => absurd hmem (unregistered hidle name)
    | ok manifest =>
      unfold rootInits
      dsimp only
      rw [Proc.attempt_ok hget]
      exact (entityInits_covers manifest.entities.toList 0 w2 ∅ fun name hmem =>
        absurd hmem (unregistered hidle name)).of_run hload

end Recorded

section Tracked

variable {env : Env} {w w' : World} {d d' : Watched} {t : Turn}

theorem calm_dispatchScheduled (nowNanos : UInt64) (id fragment : String) (content : Bytes) :
    Proc.Calm [] CellsOnly (dispatchScheduled env nowNanos id fragment content) := by
  refine (Proc.Calm.holding rfl (calm_getRt _)).bind fun plugin => ?_
  split
  · exact Proc.calm_pure _
  · refine (calm_dispatch _ _).attempt.bind fun r => ?_
    split
    · exact calm_persistPending _ _
    · exact Proc.calm_pure _

/-- What the loads leave: the registered entities are stored and their results recorded, and no kind
is known. -/
structure Tracked (env : Env) (d : Watched) : Prop where
  listed : Listed env d.world.rt
  recorded : Recorded d
  kinds : d.world.rt.kindRegistry = ∅

/-- **Startup keeps track of its loads.** -/
theorem watched_tracked (env : Env) (config : Config) (files : StrMap (Except Error Config))
    (cells : Nat → PluginCell) (rootCid : Option Cid) (cliOwners : List String) :
    Tracked env (watched env config files cells rootCid cliOwners) := by
  obtain ⟨root, w1, w2, w3, ⟨hinitial, h1⟩, ⟨hload, -⟩, ⟨-, h3⟩, hrun⟩ :=
    startup_run env rootCid cliOwners ⟨blankRuntime config files cells, {}⟩
  have hempty : w1.rt.entityRegistry = ∅ := congrArg Runtime.entityRegistry h1
  have hbooted : booted env config files cells rootCid cliOwners =
      { w3 with rt := w3.rt.settled root cliOwners } := congrArg Prod.snd hrun
  have hinits : bootInits env config files cells rootCid = rootInits env root w1 := by
    unfold bootInits
    rw [hinitial]
  have loaded {name : String}
      (h : Registers (booted env config files cells rootCid cliOwners).rt name) :
      name ∈ w2.rt.entityRegistry := by
    obtain ⟨hscheduler, hmem⟩ := h
    have hregistry : w3.rt.entityRegistry = w2.rt.entityRegistry.insert schedulerFragment
        (newNative schedulerFragment schedulerNode).1 := h3.entityRegistry
    rw [hbooted] at hmem
    have hmem : name ∈ w3.rt.entityRegistry := hmem
    rw [hregistry, mem_insert_iff] at hmem
    exact hmem.resolve_left hscheduler
  refine ⟨fun m hroot name hname => ?_, fun name hname => ?_, ?_⟩
  · obtain ⟨ep, hep⟩ : ∃ ep, w2.rt.entityRegistry[name]? = some ep :=
      Option.isSome_iff_exists.mp (Std.ExtTreeMap.mem_iff_isSome_getElem?.mp (loaded hname))
    have hroot : AtRoot env (booted env config files cells rootCid cliOwners).rt m := hroot
    rw [hbooted] at hroot
    obtain ⟨rc, hrc, hm⟩ := hroot
    obtain ⟨link, node, hlink, hnode, -⟩ :=
      (loadRootEntities_loaded hempty hload rc m hrc hm name ep hep).resolve_left hname.1
    exact ⟨node, link, hlink, hnode⟩
  · show name ∈ bootInits env config files cells rootCid
    rw [hinits]
    exact rootInits_covers hempty hload name (loaded hname)
  · exact (@calm_startup env rootCid cliOwners).keeps [] _

/-- **No turn but an upsert registers an entity.** -/
theorem turn_shrinks {name : String} (hkinds : w.rt.kindRegistry = ∅)
    (ht : ∀ message name path, t = .crud message →
      crudRequest env message ≠ some ("entities", [name], .put [.text path]))
    (h : Registers (t.run env [] w).2.rt name) : Registers w.rt name := by
  cases t with
  | crud message =>
    have h : Registers (crudTurn env message [] w).2.rt name := h
    cases (crudTurn_effect env message w).2 with
    | idle heq => rwa [heq] at h
    | request hreq hgate heff =>
      refine heff.shrinks (fun name path heq => ?_) h
      exact ht message name path rfl (hreq.trans (congrArg some heq))
  | rpc message =>
    obtain ⟨hscheduler, hmem⟩ := h
    refine ⟨hscheduler, ?_⟩
    have hmem : name ∈ (rpcTurn env message [] w).2.rt.entityRegistry := hmem
    rcases rpcTurn_cases env message w with ⟨entity, result, w', hresult⟩ | ⟨-, hcells⟩
    · rw [hresult.run_unknown hkinds] at hmem
      by_contra hnot
      exact foldl_afterDelete_not_mem result.deleteRequests hnot hmem
    · rw [hcells.entityRegistry] at hmem
      exact hmem
  | ipfs message =>
    have h : Registers (ipfsTurn env message [] w).2.rt name := h
    rw [ipfsTurn_counted] at h
    exact h
  | claim owner =>
    exact claimTurn_cases (P := fun rt => Registers rt name → Registers w.rt name) id
      (fun _ _ => id) h

/-- Every turn keeps the registered entities stored. -/
theorem listed_step (hkinds : w.rt.kindRegistry = ∅) (h : Listed env w.rt)
    (hstep : Step env w t w') : Listed env w'.rt := by
  obtain ⟨-⟩ := hstep
  by_cases ht : ∃ message, t = .crud message
  · obtain ⟨message, rfl⟩ := ht
    show Listed env (crudTurn env message [] w).2.rt
    cases (crudTurn_effect env message w).2 with
    | idle heq => rwa [heq]
    | request hreq hgate heff => exact heff.listed h
  · have hother : ∀ message, t ≠ .crud message := fun message heq => ht ⟨message, heq⟩
    exact h.shrunk (sameStores_of_turn env w hother).rootCid fun name =>
      turn_shrinks hkinds fun message _ _ heq => absurd heq (hother message)

/-- Every turn records its load. -/
theorem recorded_step (hkinds : d.world.rt.kindRegistry = ∅) (h : Recorded d)
    (hstep : Step env d.world t d'.world) (hnext : NextInits env d.world d.inits t d'.inits) :
    Recorded d' := by
  obtain ⟨w, inits⟩ := d
  obtain ⟨w', inits'⟩ := d'
  obtain ⟨-⟩ := hstep
  intro other hother
  cases hnext with
  | @upsert message name path cid node w1 hreq hreach =>
    obtain ⟨hscheduler, hmem⟩ := hother
    have hmem : other ∈ (crudTurn env message [] w).2.rt.entityRegistry := hmem
    obtain ⟨hbefore, -, ⟨-, hkept⟩ | ⟨ep, hsome, hinsert⟩⟩ := hreach.registry hreq
    · rw [hkept, hbefore] at hmem
      exact mem_recordInit (.inl (h other ⟨hscheduler, hmem⟩))
    · rw [hinsert, hbefore, mem_insert_iff] at hmem
      refine mem_recordInit (hmem.symm.imp (fun hmem => h other ⟨hscheduler, hmem⟩) fun heq => ?_)
      exact ⟨heq, upsertInit_some ⟨ep, hsome⟩⟩
  | @delete message name hasks hpriv =>
    have hother : Registers (crudTurn env message [] w).2.rt other := hother
    have hleft : Registers
        { w.rt with entityRegistry := w.rt.entityRegistry.erase name } other := by
      rcases deleteTurn_cases (w := w) hasks with
        ⟨hnot, -⟩ | ⟨-, ⟨-, newCid, hw⟩ | ⟨-, hrt⟩⟩
      · exact absurd hpriv hnot
      · rwa [hw.frame] at hother
      · rwa [hrt] at hother
    obtain ⟨hne, hother⟩ := registers_erase hleft
    exact mem_erase_iff.mpr ⟨hne, h other hother⟩
  | other hupsert hdelete =>
    refine h other ?_
    by_cases hreq : ∃ message name path, t = .crud message ∧
        crudRequest env message = some ("entities", [name], .put [.text path])
    · obtain ⟨message, name, path, rfl, hreq⟩ := hreq
      have hother : Registers (crudTurn env message [] w).2.rt other := hother
      rwa [unreached_idle hreq fun ⟨cid, node, w1, hreach⟩ =>
        hupsert message name path cid node w1 rfl hreq hreach] at hother
    · exact turn_shrinks hkinds
        (fun message name path heq hreq' => hreq ⟨message, name, path, heq, hreq'⟩) hother

/-- **Every piece of work keeps track of the loads.** -/
theorem tracked_step {e : Work} (h : Tracked env d) (hstep : WatchedStep env d e d') :
    Tracked env d' := by
  cases hstep with
  | turn hstep hnext => exact {
      listed := listed_step h.kinds h.listed hstep
      recorded := recorded_step h.kinds h.recorded hstep hnext
      kinds := kindRegistry_run (.cons hstep (.nil _)) h.kinds }
  | @job nowNanos id fragment content =>
    have hcells : CellsOnly d.world
        (dispatchScheduled env nowNanos id fragment content [] d.world).2 :=
      (calm_dispatchScheduled nowNanos id fragment content).keeps [] d.world
    have names {name : String}
        (h : Registers (dispatchScheduled env nowNanos id fragment content [] d.world).2.rt name) :
        Registers d.world.rt name := by
      obtain ⟨hscheduler, hmem⟩ := h
      exact ⟨hscheduler, hcells.entityRegistry ▸ hmem⟩
    exact {
      listed := h.listed.shrunk (congrArg Stats.rootCid hcells.stats) fun _ => names
      recorded := fun name hname => h.recorded name (names hname)
      kinds := hcells.pluginsOnly.sameKinds.trans h.kinds }

/-- **Every run keeps track of the loads.** -/
theorem tracked_run {config : Config} {files : StrMap (Except Error Config)}
    {cells : Nat → PluginCell} {rootCid : Option Cid} {cliOwners : List String} {es : List Work}
    (hrun : Run (WatchedStep env) (watched env config files cells rootCid cliOwners) es d) :
    Tracked env d :=
  hrun.invariant (I := Tracked env) tracked_step
    (watched_tracked env config files cells rootCid cliOwners)

/-- **The registered entities run, or their `init` failed**, after every run. -/
theorem registers_runs {config : Config} {files : StrMap (Except Error Config)}
    {cells : Nat → PluginCell} {rootCid : Option Cid} {cliOwners : List String} {es : List Work}
    (hrun : Run (WatchedStep env) (watched env config files cells rootCid cliOwners) es d)
    {name : String} (hname : Registers d.world.rt name) :
    IsRunning d name ∨ d.inits[name]? = some .failed := by
  obtain ⟨result, hresult⟩ : ∃ result, d.inits[name]? = some result := by
    have hmem := (tracked_run hrun).recorded name hname
    rw [Std.ExtTreeMap.mem_iff_isSome_getElem?] at hmem
    exact Option.isSome_iff_exists.mp hmem
  cases result with
  | completed => exact .inl ⟨hname, .inl hresult⟩
  | absent => exact .inl ⟨hname, .inr hresult⟩
  | failed => exact .inr hresult

/-- Every turn has its results. -/
theorem exists_nextInits (env : Env) (w : World) (inits : Inits) (t : Turn) :
    ∃ inits', NextInits env w inits t inits' := by
  by_cases hupsert : ∃ message name path cid node w1, t = .crud message ∧
      crudRequest env message = some ("entities", [name], .put [.text path]) ∧
      Reaches env message name path w cid node w1
  · obtain ⟨message, name, path, cid, node, w1, rfl, hreq, hreach⟩ := hupsert
    exact ⟨_, .upsert hreq hreach⟩
  · by_cases hdelete : ∃ message name, t = .crud message ∧ AsksDelete env message name ∧
        Privileged env w.rt message.from
    · obtain ⟨message, name, rfl, hasks, hpriv⟩ := hdelete
      exact ⟨_, .delete hasks hpriv⟩
    · exact ⟨inits, .other
        (fun message name path cid node w1 heq hreq hreach =>
          hupsert ⟨message, name, path, cid, node, w1, heq, hreq, hreach⟩)
        fun message name heq hasks hpriv => hdelete ⟨message, name, heq, hasks, hpriv⟩⟩

/-- **Every run of the daemon can be watched.** -/
theorem exists_watchedRun {ts : List Turn} (hrun : Run (Step env) w ts w') (inits : Inits) :
    ∃ inits', Run (WatchedStep env) ⟨w, inits⟩ (ts.map .turn) ⟨w', inits'⟩ := by
  induction hrun generalizing inits with
  | nil w => exact ⟨inits, .nil _⟩
  | @cons w w1 w' t ts hstep hrest ih =>
    obtain ⟨inits1, hnext⟩ := exists_nextInits env w inits t
    obtain ⟨inits', hrun⟩ := ih inits1
    exact ⟨inits', .cons (.turn hstep hnext) hrun⟩

/-- **After any run, the manifest that the shutdown publishes follows the lifecycle table, iff** the
one of the root did, but for the running entities that hand over a state. -/
theorem lifecycles_right_iff {config : Config} {files : StrMap (Except Error Config)}
    {cells : Nat → PluginCell} {rootCid : Option Cid} {cliOwners : List String} {es : List Work}
    {root newRoot : Cid}
    (hrun : Run (WatchedStep env) (watched env config files cells rootCid cliOwners) es d)
    (hroot : d.world.rt.stats.rootCid = some root)
    (hsave : saveAllEntityStates env root [] d.world = (.ok newRoot, w'))
    (hkubo : w'.io.kuboFailed = false) :
    LifecyclesRight env d newRoot ↔ LifecyclesDue env d root := by
  refine lifecyclesRight_iff hsave hkubo fun name hrunning => ?_
  obtain ⟨m, -, -, -, hm, -⟩ := saveAll_ok hsave
  obtain ⟨node, hnode⟩ := (tracked_run hrun).listed m ⟨root, hroot, hm⟩ name hrunning.1
  exact ⟨node, m, hm, hnode⟩

end Tracked

/-! ## A notebook that is not used -/

/-- The daemon with the notebook loaded, and an owner. -/
def notesWatched : Watched :=
  watched (notesEnv false) plainConfig ∅ (fun _ => emptyCell) (some "bafyroot") ["did:ma:alice"]

/-- The owner writes a note. -/
def writeNote : Message where
  id := "m1"
  «from» := "did:ma:alice"
  «to» := "did:ma:runtime#notes"
  messageType := "application/x-ma-rpc"
  contentType := "application/x-ma-term"
  createdAt := 0
  exp := 0
  replyTo := none
  payload := Lib.rfcCodec.encode (.array [.text ":write"])

/-- The daemon after the note. -/
def noteWritten : Watched where
  world := ((Turn.rpc writeNote).run (notesEnv false) [] notesWatched.world).2
  inits := notesWatched.inits

theorem writeNote_step :
    WatchedStep (notesEnv false) notesWatched (.turn (.rpc writeNote)) noteWritten := by
  refine .turn (.turn (by decide +kernel)) (.other ?_ ?_)
  · exact fun _ _ _ _ _ _ h => absurd h (by simp)
  · exact fun _ _ h => absurd h (by simp)

set_option maxRecDepth 100000

/-- The notebook is the only entity of the manifest, and its kind declares no `init`. -/
theorem noteWritten_inits {name : String} {result : InitResult}
    (h : noteWritten.inits[name]? = some result) : result = .absent := by
  have hall : ∀ e ∈ noteWritten.inits.toList, e.2 = .absent := by decide +kernel
  exact hall (name, result) (Std.ExtTreeMap.mem_toList_iff_getElem?_eq_some.mpr h)

/-- **A notebook with a new note is stored as stopped.** -/
theorem lifecycles_right_iff_written :
    ∃ d w', Run (WatchedStep (notesEnv false)) notesWatched [.turn (.rpc writeNote)] d ∧
      saveAllEntityStates (notesEnv false) "bafyroot" [] d.world = (.ok "bafysaved", w') ∧
      w'.io.kuboFailed = false ∧ LifecyclesRight (notesEnv false) d "bafysaved" ∧
      LifecyclesDue (notesEnv false) d "bafyroot" := by
  have hrun := Run.cons writeNote_step (.nil _)
  have hsave : (saveAllEntityStates (notesEnv false) "bafyroot" [] noteWritten.world).1 =
      .ok "bafysaved" := by decide +kernel
  have hkubo : (saveAllEntityStates (notesEnv false) "bafyroot" []
      noteWritten.world).2.io.kuboFailed = false := by decide +kernel
  have hnames : ∀ name ∈ noteWritten.world.rt.entityRegistry.keys,
      name = "notes" ∨ name = schedulerFragment := by decide +kernel
  have hstored : Stores (notesEnv false) "bafysaved" "notes" (savedNode notesNode "bafynote") :=
    ⟨_, rfl, ⟨"bafysavednode"⟩, by decide +kernel, rfl⟩
  have hright : LifecyclesRight (notesEnv false) noteWritten "bafysaved" :=
    { completed := fun name node h => absurd (noteWritten_inits h) (by simp)
      running := fun name h => by
        obtain rfl : name = "notes" :=
          (hnames name (Std.ExtTreeMap.mem_keys.mpr h.1.2)).resolve_right h.1.1
        exact ⟨_, hstored, rfl⟩
      failed := fun name node h => absurd (noteWritten_inits h) (by simp) }
  exact ⟨_, _, hrun, Proc.run_of_outcome hsave, hkubo, hright,
    (lifecycles_right_iff hrun (by decide +kernel) (Proc.run_of_outcome hsave) hkubo).mp hright⟩

/-- **A notebook that nobody wrote in stays `running` in the manifest**: the daemon starts and shuts
down cleanly, and the plugin has no new state. -/
theorem idle_entity_stays_running :
    ∃ w', Run (WatchedStep (notesEnv false)) notesWatched [] notesWatched ∧
      notesWatched.world.rt.stats.rootCid = some "bafyroot" ∧
      saveAllEntityStates (notesEnv false) "bafyroot" [] notesWatched.world =
        (.ok "bafyroot", w') ∧
      w'.io.kuboFailed = false ∧ IsRunning notesWatched "notes" ∧
      Stores (notesEnv false) "bafyroot" "notes" notesNode ∧ notesNode.lifecycle = .running ∧
      ¬ LifecyclesRight (notesEnv false) notesWatched "bafyroot" := by
  have hsave : (saveAllEntityStates (notesEnv false) "bafyroot" [] notesWatched.world).1 =
      .ok "bafyroot" := by decide +kernel
  have hstored : Stores (notesEnv false) "bafyroot" "notes" notesNode :=
    ⟨notesManifest, rfl, notesManifest_names false⟩
  have hrunning : IsRunning notesWatched "notes" :=
    ⟨⟨by decide, by decide +kernel⟩, .inr (by decide +kernel)⟩
  refine ⟨_, .nil _, by decide +kernel, Proc.run_of_outcome hsave, by decide +kernel, hrunning,
    hstored, rfl, fun hright => ?_⟩
  obtain ⟨node, hnode, hstopped⟩ := hright.running "notes" hrunning
  obtain rfl := hstored.unique hnode
  exact absurd hstopped (by decide)

end MaRuntime
