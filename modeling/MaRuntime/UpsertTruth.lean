import MaRuntime.Atomicity
import MaRuntime.EntitySync
import MaRuntime.Replies

/-!
# The answer to an upsert

An upsert publishes the manifest, then registers the plugin, then answers `[":ok", cid]`. Each
failure of the registration is logged and forgotten.

* `Loadable`: every exit of `EntityPlugin::load` is passed, by the answers of Kubo and the guest.
* `PluginLoads`: the kind is found and the plugin loads, in the state that the link leaves.
* `truthful_iff`: the answer says what was done exactly where the plugin loads.
* `stray_upsert_answered`: an entity of an unknown kind is answered `:ok` and not registered.
-/

namespace MaRuntime

open Lib (Cbor Proc)

/-! ## The kind -/

/-- The kind is registered, or the manifest at the root binds it and Kubo answers both gets. -/
inductive KindFound (env : Env) (w : World) (protocol : String) : KindNode → World → Prop where
  | registered {kindNode : KindNode} (h : w.rt.kindRegistry[protocol]? = some kindNode) :
      KindFound env w protocol kindNode w
  | fetched {root : Cid} {manifest : RuntimeManifest} {link : IpldLink} {kindNode : KindNode}
      (hnone : w.rt.kindRegistry[protocol]? = none) (hroot : w.rt.stats.rootCid = some root)
      (hmanifest : env.kubo.manifests.get w.io.calls root = .ok manifest)
      (hlink : manifest.kinds.getProtocol protocol = some link)
      (hkind : env.kubo.kinds.get (w.io.calls + 1) link.cid = .ok kindNode) :
      KindFound env w protocol kindNode (w.afterCalls 2)

section Loading

variable {env : Env}

/-- **A lookup finds a kind** exactly so. -/
theorem lookupKind_iff {protocol : String} {kindNode : KindNode} {w w' : World} :
    lookupKind env protocol [] w = (.ok (some kindNode), w') ↔
      KindFound env w protocol kindNode w' := by
  unfold lookupKind reading
  rw [Proc.holding_run rfl, Proc.bind_of_ok (a := w.rt.kindRegistry[protocol]?) (t := w) rfl]
  cases hkind : w.rt.kindRegistry[protocol]? with
  | some kindNode' =>
    constructor
    · intro h
      obtain ⟨rfl, rfl⟩ : kindNode' = kindNode ∧ w = w' := by simpa using h
      exact .registered hkind
    · rintro (h | ⟨hnone, -, -, -, -⟩)
      · obtain rfl : kindNode' = kindNode := Option.some.inj (hkind.symm.trans h)
        rfl
      · exact absurd (hkind.symm.trans hnone) (by simp)
  | none =>
    constructor
    · intro h
      obtain ⟨r, w1, hload, h⟩ := Proc.bind_ok h
      cases r with
      | error e => exact absurd h (by simp)
      | ok manifest =>
        obtain ⟨root, hroot, hmanifest, rfl⟩ := (loadManifest_iff rfl).mp (Proc.attempt_ok hload)
        dsimp only at h
        cases hlink : manifest.kinds.getProtocol protocol with
        | none =>
          rw [hlink] at h
          exact absurd h (by simp)
        | some link =>
          rw [hlink] at h
          obtain ⟨r, w2, hget, h⟩ := Proc.bind_ok h
          cases r with
          | error e => exact absurd h (by simp [Except.toOption])
          | ok kindNode' =>
            obtain ⟨rfl, rfl⟩ : kindNode' = kindNode ∧ w2 = w' := by
              simpa [Except.toOption] using h
            obtain ⟨hanswer, rfl⟩ := dagGet_run_ok (Proc.attempt_ok hget)
            exact .fetched hkind hroot hmanifest hlink hanswer
    · rintro (h | ⟨-, hroot, hmanifest, hlink, hanswer⟩)
      · exact absurd (hkind.symm.trans h) (by simp)
      · have hload := (loadManifest_iff (g := [(.kindRegistry, .read)]) rfl).mpr
          ⟨_, hroot, hmanifest, rfl⟩
        refine (Proc.bind_of_ok (Proc.attempt_of_ok hload)).trans ?_
        dsimp only
        rw [hlink]
        exact Proc.bind_of_ok (Proc.attempt_of_ok (dagGet_of_get hanswer))

/-! ## The load -/

/-- How many calls the fetch of the state takes. -/
def fetchCalls (kind : PluginKind) (node : EntityNode) : Nat :=
  match kind, node.state with
  | .stateful, some _ => 1
  | _, _ => 0

/-- The guest's `init` returns, where the kind declares it. -/
def InitReturns (env : Env) (fragment : String) (node : EntityNode) (kindNode : KindNode)
    (wasm memory state : Bytes) (io : Io) : Prop :=
  kindNode.api.contains "init" = true →
    ∃ output, (playExport env io.calls "init"
      (env.codec.encode (InitPayload.toCbor { ctx := initCtx env fragment node, state }))
      { plugin := ⟨wasm, memory⟩, hostFns := linkedHostFns kindNode, fragment
        state := .new state, createQueue := [], deleteQueue := [] }
      { io with calls := io.calls + 1 }).1 = .ok output

/-- **Every exit of a load is passed**: the evaluator is Extism, the node has a behaviour, Kubo
serves the module, it instantiates, and `init` returns. -/
def Loadable (env : Env) (fragment : String) (node : EntityNode) (kindNode : KindNode) (io : Io) :
    Prop :=
  kindNode.evaluator = .extism ∧ ∃ behaviour wasm memory,
    node.behaviour = some behaviour ∧
    env.kubo.blobs.get io.calls behaviour.cid = .ok wasm ∧
    env.instantiate (io.calls + 1 + fetchCalls kindNode.pluginKind node) wasm
      (linkedHostFns kindNode) kindNode.wasi = .ok memory ∧
    InitReturns env fragment node kindNode wasm memory
      (fetchedState env kindNode.pluginKind node (io.calls + 1))
      { io with calls := io.calls + 1 + fetchCalls kindNode.pluginKind node + 1 }

/-- The fetch of the state always ends, and tells no more than whether Kubo failed. -/
theorem initState_runs (kind : PluginKind) (node : EntityNode) (w : World) :
    ∃ failed, initState env kind node [] w =
      (.ok (fetchedState env kind node w.io.calls),
        { w with io := { w.io with calls := w.io.calls + fetchCalls kind node
                                   kuboFailed := failed } }) := by
  cases kind with
  | stateless => exact ⟨w.io.kuboFailed, rfl⟩
  | stateful =>
    unfold initState fetchedState fetchCalls
    cases node.state with
    | none => exact ⟨w.io.kuboFailed, rfl⟩
    | some link =>
      have hrun : dagGet env.kubo.blobs link.cid [] w = _ := kuboCall_run
      cases hget : env.kubo.blobs.get w.io.calls link.cid with
      | ok bytes =>
        rw [hget] at hrun
        dsimp only
        rw [hget]
        exact ⟨w.io.kuboFailed, Proc.bind_of_ok (Proc.attempt_of_ok hrun)⟩
      | error e =>
        rw [hget] at hrun
        dsimp only
        rw [hget]
        exact ⟨true, Proc.bind_of_ok (Proc.attempt_of_err hrun)⟩

/-- The host does not ask whether Kubo failed. -/
theorem playExport_failed (n : Nat) (exportName : String) (input : Bytes) (cell : PluginCell)
    (io : Io) (failed : Bool) :
    (playExport env n exportName input cell { io with kuboFailed := failed }).1 =
      (playExport env n exportName input cell io).1 := by
  have hop (op : HostFn × Bytes) (s : PluginCell × Io) :
      hostFn env op (s.1, { s.2 with kuboFailed := failed }) =
        ((hostFn env op s).1,
          ((hostFn env op s).2.1, { (hostFn env op s).2.2 with kuboFailed := failed })) := by
    obtain ⟨fn, input⟩ := op
    obtain ⟨cell, io⟩ := s
    unfold hostFn
    dsimp only
    split
    · rfl
    · cases fn <;> dsimp only
      all_goals split <;> rfl
  have hmap := Lib.Interaction.run_map hop (env.guest n cell.plugin exportName input) (cell, io)
  unfold playExport
  rw [hmap]

/-- `init` goes through exactly where the guest returns. -/
theorem runInit_iff {fragment : String} {node : EntityNode} {kindNode : KindNode}
    {wasm memory state : Bytes} {w : World} :
    (∃ r w', runInit env fragment node kindNode state
        { plugin := ⟨wasm, memory⟩, hostFns := linkedHostFns kindNode, fragment
          state := .new state, createQueue := [], deleteQueue := [] } [] w = (.ok r, w')) ↔
      InitReturns env fragment node kindNode wasm memory state w.io := by
  unfold InitReturns
  by_cases hinit : kindNode.api.contains "init" = true
  · rcases hplay : playExport env w.io.calls "init"
      (env.codec.encode (InitPayload.toCbor { ctx := initCtx env fragment node, state }))
      { plugin := ⟨wasm, memory⟩, hostFns := linkedHostFns kindNode, fragment
        state := .new state, createQueue := [], deleteQueue := [] }
      { w.io with calls := w.io.calls + 1 } with ⟨result, cell, io⟩
    rw [runInit_run hinit hplay]
    cases result with
    | ok output => exact ⟨fun _ _ => ⟨output, rfl⟩, fun _ => ⟨_, _, rfl⟩⟩
    | error e => exact ⟨fun ⟨_, _, h⟩ => absurd h (by simp), fun h => absurd (h hinit) (by simp)⟩
  · rw [runInit_none hinit]
    exact ⟨fun _ h => absurd h hinit, fun _ => ⟨_, _, rfl⟩⟩

theorem initReturns_failed {fragment : String} {node : EntityNode} {kindNode : KindNode}
    {wasm memory state : Bytes} {io : Io} (failed : Bool) :
    InitReturns env fragment node kindNode wasm memory state { io with kuboFailed := failed } ↔
      InitReturns env fragment node kindNode wasm memory state io := by
  unfold InitReturns
  refine imp_congr_right fun _ => exists_congr fun output => ?_
  have hplay := @playExport_failed env io.calls "init"
    (env.codec.encode (InitPayload.toCbor { ctx := initCtx env fragment node, state }))
    { plugin := ⟨wasm, memory⟩, hostFns := linkedHostFns kindNode, fragment
      state := .new state, createQueue := [], deleteQueue := [] }
    { io with calls := io.calls + 1 } failed
  exact Eq.congr_left hplay

theorem total_allocate (cell : PluginCell) : Proc.Total [] (allocate cell) := fun w =>
  ⟨w.rt.nextCell, _, rfl⟩

/-- A plugin is loaded where its module is served and instantiates, and `init` returns. -/
theorem loadExtism_iff {fragment : String} {node : EntityNode} {kindNode : KindNode}
    {behaviourCid : Cid} {w : World} :
    (∃ r w', loadExtism env fragment node kindNode behaviourCid [] w = (.ok r, w')) ↔
      ∃ wasm memory, env.kubo.blobs.get w.io.calls behaviourCid = .ok wasm ∧
        env.instantiate (w.io.calls + 1 + fetchCalls kindNode.pluginKind node) wasm
          (linkedHostFns kindNode) kindNode.wasi = .ok memory ∧
        InitReturns env fragment node kindNode wasm memory
          (fetchedState env kindNode.pluginKind node (w.io.calls + 1))
          { w.io with calls := w.io.calls + 1 + fetchCalls kindNode.pluginKind node + 1 } := by
  have hwasm : dagGet env.kubo.blobs behaviourCid [] w = _ := kuboCall_run
  cases hget : env.kubo.blobs.get w.io.calls behaviourCid with
  | error e =>
    rw [hget] at hwasm
    refine iff_of_false (fun ⟨r, w', h⟩ => ?_) fun ⟨_, _, h, _⟩ => absurd h (by simp)
    obtain ⟨wasm, w1, h1, -⟩ := Proc.bind_ok h
    exact absurd (hwasm.symm.trans (withContext_ok h1)) (by simp)
  | ok wasm =>
    rw [hget] at hwasm
    obtain ⟨failed, hstate⟩ := @initState_runs env kindNode.pluginKind node (w.afterCalls 1)
    unfold loadExtism
    dsimp only
    rw [Proc.bind_of_ok (withContext_of_ok hwasm), Proc.bind_of_ok hstate, Proc.bind_of_ok rfl]
    show (∃ r w', (withContext _ (Proc.ofExcept (env.instantiate
      (w.io.calls + 1 + fetchCalls kindNode.pluginKind node) wasm (linkedHostFns kindNode)
        kindNode.wasi)) >>= _) [] _ = (.ok r, w')) ↔ _
    cases hinst : env.instantiate (w.io.calls + 1 + fetchCalls kindNode.pluginKind node) wasm
      (linkedHostFns kindNode) kindNode.wasi with
    | error e =>
      refine iff_of_false (fun ⟨r, w', h⟩ => ?_) fun ⟨_, _, hwasm, h, _⟩ => ?_
      · obtain ⟨memory, w1, h1, -⟩ := Proc.bind_ok h
        exact absurd (Proc.ofExcept_ok (withContext_ok h1)) (by simp)
      · obtain rfl := Except.ok.inj hwasm
        exact absurd (hinst.symm.trans h) (by simp)
    | ok memory =>
      rw [Proc.bind_of_ok (a := memory) rfl]
      rw [Proc.Total.bind_ok_iff fun _ => (total_allocate _).bind fun _ => Proc.total_pure _]
      rw [runInit_iff]
      constructor
      · intro hinit
        exact ⟨wasm, memory, rfl, hinst, (initReturns_failed failed).mp hinit⟩
      · rintro ⟨wasm', memory', hwasm', hmemory', hinit⟩
        obtain rfl := Except.ok.inj hwasm'
        obtain rfl := Except.ok.inj (hinst.symm.trans hmemory')
        exact (initReturns_failed failed).mpr hinit

/-- **A load succeeds** exactly where its exits are passed. -/
theorem load_iff {fragment : String} {node : EntityNode} {kindNode : KindNode} {w : World} :
    (∃ r w', load env fragment node kindNode [] w = (.ok r, w')) ↔
      Loadable env fragment node kindNode w.io := by
  unfold load Loadable
  split
  · rename_i hnative
    exact iff_of_false (by simp) fun h => absurd (hnative.symm.trans h.1) (by simp)
  · split
    · rename_i hevaluator
      exact iff_of_false (by simp) fun h => hevaluator h.1
    · rename_i hevaluator
      cases node.behaviour with
      | none => exact iff_of_false (by simp) fun ⟨_, _, _, _, hnone, _⟩ => absurd hnone (by simp)
      | some behaviour =>
        rw [loadExtism_iff]
        constructor
        · rintro ⟨wasm, memory, hloads⟩
          exact ⟨not_not.mp hevaluator, behaviour, wasm, memory, rfl, hloads⟩
        · rintro ⟨-, behaviour', wasm, memory, hb, hloads⟩
          obtain rfl : behaviour = behaviour' := Option.some.inj hb
          exact ⟨wasm, memory, hloads⟩

/-! ## The registration -/

/-- The kind of the node is found, and its plugin loads. -/
def PluginLoads (env : Env) (name : String) (node : EntityNode) (w : World) : Prop :=
  ∃ kindNode w1, KindFound env w node.kind kindNode w1 ∧ Loadable env name node kindNode w1.io

/-- The kind lookup or the load fails. -/
def RegistrationFails (env : Env) (name : String) (node : EntityNode) (w : World) : Prop :=
  (lookupKind env node.kind [] w).1 = .ok none ∨
    ∃ kindNode w1 e, lookupKind env node.kind [] w = (.ok (some kindNode), w1) ∧
      (load env name node kindNode [] w1).1 = .err e

/-- The plugin was loaded from the node, under a kind that was looked up for it, and the instance
behind it is the one that the load left. -/
def LoadedFromNode (env : Env) (name : String) (node : EntityNode) (ep : EntityPlugin)
    (rt : Runtime) : Prop :=
  ∃ u v v' kindNode lifecycle, lookupKind env node.kind [] u = (.ok (some kindNode), v) ∧
    load env name node kindNode [] v = (.ok (ep, lifecycle), v') ∧ rt.cells = v'.rt.cells

theorem registrationFails_iff {name : String} {node : EntityNode} {w : World} :
    RegistrationFails env name node w ↔ ¬ PluginLoads env name node w := by
  constructor
  · rintro (hnone | ⟨kindNode, w1, e, hkind, hload⟩) ⟨kindNode', w1', hfound, hloadable⟩
    · rw [lookupKind_iff.mpr hfound] at hnone
      exact absurd hnone (by simp)
    · obtain ⟨rfl, rfl⟩ : kindNode = kindNode' ∧ w1 = w1' := by
        simpa using hkind.symm.trans (lookupKind_iff.mpr hfound)
      obtain ⟨r, w2, hr⟩ := load_iff.mpr hloadable
      rw [hr] at hload
      exact absurd hload (by simp)
  · intro hnot
    obtain ⟨k, w1, hkind⟩ := total_lookupKind node.kind w
    cases k with
    | none => exact .inl (congrArg Prod.fst hkind)
    | some kindNode =>
      have hload : ¬ Loadable env name node kindNode w1.io := fun h =>
        hnot ⟨kindNode, w1, lookupKind_iff.mp hkind, h⟩
      refine .inr ⟨kindNode, w1, ?_⟩
      rcases hrun : load env name node kindNode [] w1 with ⟨o, w2⟩
      cases o with
      | ok r => exact absurd (load_iff.mp ⟨r, w2, hrun⟩) hload
      | err e => exact ⟨e, hkind, rfl⟩
      | stuck => exact absurd rfl ((calm_load env name node kindNode).of_run hrun).1

/-- There is a plugin to register exactly where it loads. -/
theorem pluginToRegister_some_iff {name : String} {node : EntityNode} {w : World} :
    (∃ ep, (pluginToRegister env name node [] w).1 = .ok (some ep)) ↔
      PluginLoads env name node w := by
  constructor
  · rintro ⟨ep, ho⟩
    obtain ⟨k, w1, hkind, h⟩ := Proc.bind_ok (Proc.run_of_outcome ho)
    cases k with
    | none => exact absurd (congrArg Prod.fst h) (by simp)
    | some kindNode =>
      obtain ⟨r, w2, hload, h⟩ := Proc.bind_ok h
      cases r with
      | error e => exact absurd (congrArg Prod.fst h) (by simp)
      | ok r => exact ⟨kindNode, w1, lookupKind_iff.mp hkind,
          load_iff.mp ⟨r, w2, Proc.attempt_ok hload⟩⟩
  · rintro ⟨kindNode, w1, hfound, hloadable⟩
    obtain ⟨⟨ep, lifecycle⟩, w2, hload⟩ := load_iff.mpr hloadable
    have hplugin : pluginToRegister env name node [] w = (.ok (some ep), w2) :=
      (Proc.bind_of_ok (lookupKind_iff.mpr hfound)).trans
        (Proc.bind_of_ok (Proc.attempt_of_ok hload))
    exact ⟨ep, congrArg Prod.fst hplugin⟩

/-- A plugin that loads is registered. -/
theorem registerEntityPlugin_loads {name : String} {node : EntityNode} {w : World}
    (h : PluginLoads env name node w) :
    ∃ ep w1, registerEntityPlugin env name node [] w = (.ok (), w1) ∧
      w1.rt.stats = w.rt.stats ∧ w1.rt.entityRegistry[name]? = some ep ∧
      LoadedFromNode env name node ep w1.rt := by
  obtain ⟨kindNode, w1, hfound, hloadable⟩ := h
  obtain ⟨⟨ep, lifecycle⟩, w2, hload⟩ := load_iff.mpr hloadable
  have hkind := lookupKind_iff.mpr hfound
  have hplugin : pluginToRegister env name node [] w = (.ok (some ep), w2) :=
    (Proc.bind_of_ok hkind).trans (Proc.bind_of_ok (Proc.attempt_of_ok hload))
  have hcells := ((calm_pluginToRegister name node).of_run hplugin).2
  refine ⟨ep, _, (Proc.bind_of_ok hplugin).trans rfl, hcells.stats, ?_, w, w1, w2, kindNode,
    lifecycle, hkind, hload, rfl⟩
  exact Std.ExtTreeMap.getElem?_insert_self

end Loading

/-! ## The turn -/

/-- The caller gets an error: the handler fails before its reply, or the reply is one. -/
def GetsError (env : Env) (message : Message) (w : World) : Prop :=
  FailsEarly env message w ∨ ∃ key args, AnsweredWith env message w (.i18nError key args)

/-- The upsert gets to the registration: the sender passes the gate, the name is allowed, and the
node at the path is linked. -/
structure Reaches (env : Env) (message : Message) (name path : String) (w : World) (cid : Cid)
    (node : EntityNode) (w1 : World) : Prop where
  gate : PassesCrudGate env w.rt message.from
  legal : name.toList.any Text.isControl = false
  unreserved : reservedEntityNames.contains name = false
  link : linkEntity env message name path [] w = (.ok (cid, node), w1)

/-- **The answer tells the truth**: `:ok` with a CID says that the manifest links it under the name
and that its plugin is registered; a registration that fails is an error and changes nothing. -/
structure TellsTruth (env : Env) (message : Message) (name path : String) (w : World) : Prop where
  done : ∀ cid, AnsweredWith env message w (.okCid cid) →
    ∃ m node ep, AtRoot env (crudTurn env message [] w).2.rt m ∧
      m.entities[name]? = some ⟨cid⟩ ∧ env.kubo.entities.denotes cid = some node ∧
      (crudTurn env message [] w).2.rt.entityRegistry[name]? = some ep ∧
      LoadedFromNode env name node ep (crudTurn env message [] w).2.rt
  refused : ∀ cid node w1, Reaches env message name path w cid node w1 →
    RegistrationFails env name node w1 →
      GetsError env message w ∧
        manifestAt env (crudTurn env message [] w).2.rt = manifestAt env w.rt ∧
        (crudTurn env message [] w).2.rt.entityRegistry = w.rt.entityRegistry

section Turn

variable {env : Env} {message : Message} {name path : String} {w : World}

/-- From the registration on. -/
theorem Reaches.turn (hreq : crudRequest env message = some ("entities", [name], .put [.text path]))
    {cid : Cid} {node : EntityNode} {w1 : World} (h : Reaches env message name path w cid node w1) :
    ∃ w2, registerEntityPlugin env name node [] w1 = (.ok (), w2) ∧ NoReply w w2 ∧
      crudTurn env message [] w = sendCrudReply env message (.okCid cid) [] w2 := by
  obtain ⟨⟨⟩, w2, hregister⟩ := @total_registerEntityPlugin env name node w1
  have hlink := @mute_linkEntity env message name path [] w
  have hplugin := @mute_registerEntityPlugin env name node [] w1
  rw [h.link] at hlink
  rw [hregister] at hplugin
  refine ⟨w2, hregister, (trans_of Mute hlink hplugin).noReply, ?_⟩
  rw [crudTurn_of_request hreq h.gate]
  show upsertEntity env message name path [] w = _
  unfold upsertEntity upsertEntityWith
  rw [h.legal, if_neg Bool.false_ne_true, h.unreserved, if_neg Bool.false_ne_true]
  exact (Proc.bind_of_ok h.link).trans (Proc.bind_of_ok hregister)

/-- **What a linked upsert makes of the registry**: the plugin goes into it, if it loads. -/
theorem Reaches.registry
    (hreq : crudRequest env message = some ("entities", [name], .put [.text path])) {cid : Cid}
    {node : EntityNode} {w1 : World} (h : Reaches env message name path w cid node w1) :
    w1.rt.entityRegistry = w.rt.entityRegistry ∧
      (crudTurn env message [] w).2.rt.stats = w1.rt.stats ∧
      (¬ PluginLoads env name node w1 ∧
          (crudTurn env message [] w).2.rt.entityRegistry = w1.rt.entityRegistry ∨
        ∃ ep, (pluginToRegister env name node [] w1).1 = .ok (some ep) ∧
          (crudTurn env message [] w).2.rt.entityRegistry =
            w1.rt.entityRegistry.insert name ep) := by
  obtain ⟨-, -, -, newCid, hw⟩ := (linkEntity_sat name path).of_run h.link
  obtain ⟨w2, hregister, -, hturn⟩ := h.turn hreq
  have hdone : (crudTurn env message [] w).2.rt = w2.rt := by
    rw [hturn]
    exact (@calm_sendCrudReply env [] message (.okCid cid)).keeps [] w2
  obtain ⟨hstats, hplugin⟩ := registerEntityPlugin_registry.of_run hregister
  rw [hdone, ← pluginToRegister_some_iff]
  refine ⟨by rw [hw.frame], hstats, hplugin.imp id ?_⟩
  exact fun ⟨ep, hsome, _, hinsert⟩ => ⟨ep, hsome, hinsert⟩

/-- An upsert that does not get that far changes nothing. -/
theorem unreached_idle
    (hreq : crudRequest env message = some ("entities", [name], .put [.text path]))
    (h : ¬ ∃ cid node w1, Reaches env message name path w cid node w1) :
    (crudTurn env message [] w).2.rt = w.rt := by
  by_cases hgate : PassesCrudGate env w.rt message.from
  · rw [crudTurn_of_request hreq hgate]
    suffices hidle : (upsertEntity env message name path).Sat [] w fun _ w' => Idle w w' from hidle
    unfold upsertEntity upsertEntityWith
    split
    · exact (calm_sendCrudI18nError _).sat fun _ _ _ hi => hi
    · rename_i hlegal
      split
      · exact (calm_sendCrudI18nErrorf _ _).sat fun _ _ _ hi => hi
      · rename_i hunreserved
        have hlink := @linkEntity_sat env message w name path
        refine Proc.sat_bind_run (fun r w1 hrun => ?_) (fun e w1 hrun => hlink.of_run hrun)
          fun w1 hrun => (hlink.of_run hrun).elim
        have hreach : Reaches env message name path w r.1 r.2 w1 :=
          ⟨hgate, by simpa using hlegal, by simpa using hunreserved, hrun⟩
        exact absurd ⟨r.1, r.2, w1, hreach⟩ h
  · rcases crudTurn_cases env message w with ⟨hgate', -⟩ | ⟨e, hturn⟩
    · exact absurd hgate' hgate
    · rw [hturn]

/-- An upsert that is answered `:ok` was linked. -/
theorem reaches_of_answered
    (hreq : crudRequest env message = some ("entities", [name], .put [.text path])) {cid : Cid}
    (h : AnsweredWith env message w (.okCid cid)) :
    ∃ node w1, Reaches env message name path w cid node w1 := by
  obtain ⟨reply, hbody, hreply⟩ := h
  obtain ⟨hgate, hreply⟩ := hreply.handler hreq
  change Replied (upsertEntity env message name path) w reply at hreply
  unfold upsertEntity upsertEntityWith at hreply
  split at hreply
  · exact absurd (hreply.body.symm.trans hbody) (by simp)
  · rename_i hlegal
    split at hreply
    · exact absurd (hreply.body.symm.trans hbody) (by simp)
    · rename_i hunreserved
      obtain ⟨⟨cid', node⟩, w1, hlink, hreply⟩ := hreply.bind (mute_linkEntity name path)
      obtain ⟨u, w2, -, hreply⟩ := hreply.bind (mute_registerEntityPlugin name node)
      obtain rfl : cid' = cid := by simpa using hreply.body.symm.trans hbody
      exact ⟨node, w1, hgate, by simpa using hlegal, by simpa using hunreserved, hlink⟩

/-- Where replies go out, an upsert that got to the registration is answered `:ok`. -/
theorem Reaches.answered
    (hreq : crudRequest env message = some ("entities", [name], .put [.text path])) {cid : Cid}
    {node : EntityNode} {w1 : World} (h : Reaches env message name path w cid node w1)
    (hsender : (env.parseDid message.from).isNone = false) (hsent : ∀ n, env.deliver n = .sent) :
    AnsweredWith env message w (.okCid cid) := by
  obtain ⟨w2, -, hsilent, hturn⟩ := h.turn hreq
  unfold AnsweredWith Replied
  rw [hturn, ← show w2.io.replies = w.io.replies from hsilent]
  exact exists_replied (.okCid cid) w2 hsender hsent

/-- **An upsert that gets to the registration is never an error**, whether the plugin loads or
not. -/
theorem Reaches.not_error
    (hreq : crudRequest env message = some ("entities", [name], .put [.text path])) {cid : Cid}
    {node : EntityNode} {w1 : World} (h : Reaches env message name path w cid node w1) :
    ¬ GetsError env message w := by
  rintro (⟨e, he⟩ | ⟨key, args, reply, hbody, hreply⟩)
  · have hreplying : Reaches env.replying message name path w cid node w1 :=
      ⟨h.gate, h.legal, h.unreserved, h.link⟩
    obtain ⟨w2, -, -, hturn⟩ :=
      @Reaches.turn env.replying message name path w hreq cid node w1 hreplying
    rw [hturn, sendCrudReply_replying] at he
    exact absurd he (by simp)
  · obtain ⟨w2, -, hsilent, hturn⟩ := h.turn hreq
    rw [Replied, hturn, ← show w2.io.replies = w.io.replies from hsilent] at hreply
    exact absurd ((show Replied (sendCrudReply env message (.okCid cid)) w2 reply from
      hreply).body.symm.trans hbody) (by simp)

/-- **An upsert tells the truth exactly where the plugin loads**, whenever it gets so far. -/
theorem truthful_iff
    (hreq : crudRequest env message = some ("entities", [name], .put [.text path])) :
    TellsTruth env message name path w ↔
      ∀ cid node w1, Reaches env message name path w cid node w1 →
        PluginLoads env name node w1 := by
  constructor
  · intro h cid node w1 hreach
    by_contra hloads
    exact hreach.not_error hreq (h.refused cid node w1 hreach (registrationFails_iff.mpr hloads)).1
  · intro hloads
    refine ⟨fun cid hanswer => ?_, fun cid node w1 hreach hfails => ?_⟩
    · obtain ⟨node, w1, hreach⟩ := reaches_of_answered hreq hanswer
      obtain ⟨w2, hregister, -, hturn⟩ := hreach.turn hreq
      obtain ⟨ep, w2', hregister', hstats, hep, hfrom⟩ :=
        registerEntityPlugin_loads (hloads cid node w1 hreach)
      obtain rfl : w2 = w2' := congrArg Prod.snd (hregister.symm.trans hregister')
      obtain ⟨-, hnode, -, newCid, hw⟩ := (linkEntity_sat name path).of_run hreach.link
      obtain ⟨m, -, hm⟩ := hw.atRoot
      have hreply : (crudTurn env message [] w).2.rt = w2.rt := by
        rw [hturn]
        exact (@calm_sendCrudReply env [] message (.okCid cid)).keeps [] w2
      rw [hreply]
      refine ⟨_, node, ep, (atRoot_congr (congrArg Stats.rootCid hstats)).mpr hm, ?_, hnode, hep,
        hfrom⟩
      exact Std.ExtTreeMap.getElem?_insert_self
    · exact absurd (hloads cid node w1 hreach) (registrationFails_iff.mp hfails)

end Turn

/-! ## A kind and no kind -/

set_option maxRecDepth 100000

/-- An entity of a kind that the manifest binds: the answer is `:ok`, and true. -/
theorem truthful_iff_twin :
    AnsweredWith leafEnv plantTwin leafStart (.okCid "bafyleafnode") ∧
      TellsTruth leafEnv plantTwin "twin" "bafyleafnode" leafStart := by
  have hreq : crudRequest leafEnv plantTwin =
      some ("entities", ["twin"], .put [.text "bafyleafnode"]) := by decide +kernel
  have hlink : (linkEntity leafEnv plantTwin "twin" "bafyleafnode" [] leafStart).1 =
      .ok ("bafyleafnode", leafNode) := by decide +kernel
  have hreach :
      Reaches leafEnv plantTwin "twin" "bafyleafnode" leafStart "bafyleafnode" leafNode _ :=
    ⟨.inl (by decide +kernel), by decide, by decide, Proc.run_of_outcome hlink⟩
  refine ⟨hreach.answered hreq (by decide +kernel) fun _ => rfl, (truthful_iff hreq).mpr ?_⟩
  intro cid node w1 h
  rw [h.link] at hlink
  obtain ⟨rfl, rfl⟩ : cid = "bafyleafnode" ∧ node = leafNode := by simpa using hlink
  obtain rfl := congrArg Prod.snd h.link
  have hkind : (lookupKind leafEnv leafNode.kind []
      (linkEntity leafEnv plantTwin "twin" "bafyleafnode" [] leafStart).2).1 =
        .ok (some leafKind) := by decide +kernel
  refine ⟨leafKind, _, lookupKind_iff.mp (Proc.run_of_outcome hkind), ?_⟩
  exact load_iff.mp ⟨({ fragment := "twin", kind := .stateless, acl := "open", parent := none
                        backend := .extism 1 }, .running), _,
    Proc.run_of_outcome (by decide +kernel)⟩

/-- An entity whose kind nothing binds. -/
def strayNode : EntityNode :=
  { kind := "/ma/stray/0.0.1", behaviour := some ⟨"bafyleafwasm"⟩, acl := "open" }

/-- Kubo with its node, and with the manifest that links it. -/
def strayTables : Tables :=
  { leafTables with
    manifests := leafTables.manifests ++
      [("bafystray",
        { leafManifest with entities := leafManifest.entities.insert "stray" ⟨"bafystraynode"⟩ })]
    entities := leafTables.entities ++ [("bafystraynode", strayNode)] }

/-- The daemon without it. -/
def strayStart : World := started strayTables.live (some "bafyroot") ["did:ma:alice"]

/-- The owner links it. -/
def plantStray : Message := crudMessage "did:ma:alice" ":entities.stray" (.text "bafystraynode")

/-- **An upsert that registered nothing is answered `:ok`**: the kind is unknown, and the manifest
has the entity now. -/
theorem stray_upsert_answered :
    AnsweredWith strayTables.live plantStray strayStart (.okCid "bafystraynode") ∧
      (crudTurn strayTables.live plantStray [] strayStart).2.rt.stats.rootCid = some "bafystray" ∧
      "stray" ∉ (crudTurn strayTables.live plantStray [] strayStart).2.rt.entityRegistry ∧
      ¬ TellsTruth strayTables.live plantStray "stray" "bafystraynode" strayStart := by
  have hreq : crudRequest strayTables.live plantStray =
      some ("entities", ["stray"], .put [.text "bafystraynode"]) := by decide +kernel
  have hlink : (linkEntity strayTables.live plantStray "stray" "bafystraynode" [] strayStart).1 =
      .ok ("bafystraynode", strayNode) := by decide +kernel
  have hreach : Reaches strayTables.live plantStray "stray" "bafystraynode" strayStart
      "bafystraynode" strayNode _ :=
    ⟨.inl (by decide +kernel), by decide, by decide, Proc.run_of_outcome hlink⟩
  have hanswer := hreach.answered hreq (by decide +kernel) fun _ => rfl
  have hgone : "stray" ∉
      (crudTurn strayTables.live plantStray [] strayStart).2.rt.entityRegistry := by decide +kernel
  refine ⟨hanswer, by decide +kernel, hgone, fun htruth => hgone ?_⟩
  obtain ⟨m, node, ep, -, -, -, hep, -⟩ := htruth.done _ hanswer
  exact Std.ExtTreeMap.mem_iff_isSome_getElem?.mpr (by rw [hep]; rfl)

end MaRuntime
