import MaRuntime.Scheduler

/-!
# Plugins (`src/plugin.rs`)

`EntityPlugin` wraps a Wasm module loaded from IPFS, or the compiled-in `#scheduler`. A call of an
export is played against the host functions (`playExport`): they forward envelopes, keep the state
a plugin hands over in its `StateCtx`, and queue entity creations and deletions for the caller of
the dispatch to take.
-/

namespace MaRuntime

open Lib (Cbor Proc)

/-! ## Host functions -/

/-- What `ma_set_state` does with the bytes: only a change of the persisted snapshot is queued. -/
def StateCtx.setState (ctx : StateCtx) (input : Bytes) : StateCtx :=
  if ctx.persisted ≠ some input then { ctx with pending := some input, dirty := true } else ctx

/-- `mark_saved`. -/
def StateCtx.markSaved (ctx : StateCtx) (savedBytes : Bytes) : StateCtx :=
  { ctx with persisted := some savedBytes, dirty := false }

/-- The envelope `ma_reply` sends: to the sender of the message, in reply to it. -/
def ReplyRequest.envelope (req : ReplyRequest) : SendEnvelope :=
  { «to» := req.msg.from, contentType := req.contentType, content := req.content
    replyTo := some req.msg.id }

/-- `CreateEntityInput`: the kind and the behaviour. -/
def createEntityInput : Cbor → Option (String × Cid)
  | .map e => do pure (← textField e "kind", ← textField e "behaviour")
  | _ => none

/-- The host functions. One that was not linked, or whose input does not decode, traps. -/
def hostFn (env : Env) : HostFn × Bytes → PluginCell × Io → Option Bytes × PluginCell × Io
  | (fn, input), (cell, io) =>
    if fn ∉ cell.hostFns then (none, cell, io)
    else
      match fn with
      | .maSend =>
        match (env.codec.decode input).bind SendEnvelope.ofCbor with
        | none => (none, cell, io)
        | some envelope =>
          (some [], cell, { io with envelopes := io.envelopes ++ [(cell.fragment, envelope)] })
      | .maReply =>
        match (env.codec.decode input).bind ReplyRequest.ofCbor with
        | none => (none, cell, io)
        | some req =>
          (some [], cell, { io with envelopes := io.envelopes ++ [(cell.fragment, req.envelope)] })
      | .maSetState => (some [], { cell with state := cell.state.setState input }, io)
      | .maCreateEntity =>
        match (env.codec.decode input).bind createEntityInput with
        | none => (none, cell, io)
        | some (kind, behaviour) =>
          let fragment := env.generateFragment io.calls
          let request : CreateEntityRequest :=
            { fragment := fragment, kindProtocol := kind, behaviourCid := behaviour
              parent := cell.fragment }
          (some (env.codec.encode (.text fragment)),
            { cell with createQueue := cell.createQueue ++ [request] },
            { io with calls := io.calls + 1 })
      | .maDeleteEntity =>
        match env.codec.decode input with
        | some (.text target) =>
          (some (env.codec.encode (.text ":queued")),
            { cell with deleteQueue := cell.deleteQueue ++ [target] }, io)
        | _ => (none, cell, io)

/-- `Plugin::call`: what the export returned, and the cell and the record it leaves. -/
def playExport (env : Env) (n : Nat) (exportName : String) (input : Bytes) (cell : PluginCell)
    (io : Io) : Except String Bytes × PluginCell × Io :=
  let ((result, memory), cell', io') :=
    (env.guest n cell.plugin exportName input).run (hostFn env) (cell, io)
  (result, { cell' with plugin := { cell'.plugin with memory := memory } }, io')

/-! ## Dispatch -/

/-- Change one cell. -/
def modifyCell (i : Nat) (f : PluginCell → PluginCell) : M Unit :=
  modifyRt fun rt => { rt with cells := Function.update rt.cells i (f (rt.cells i)) }

/-- Call an export of a loaded plugin. -/
def callExport (env : Env) (ep : EntityPlugin) (i : Nat) (exportName : String) (input : Bytes) :
    M Bytes := do
  let n ← nextCall
  let (cell, io) ← Proc.look fun w => (w.rt.cells i, w.io)
  let (result, cell, io) := playExport env n exportName input cell io
  modifyCell i fun _ => cell
  modifyIo fun _ => io
  match result with
  | .ok output => pure output
  | .error e =>
    let fragment := ep.fragment
    Proc.fail [s!"{exportName}() failed for '{fragment}': {e}"]

/-- Take the state bytes that were queued. -/
def takePending (i : Nat) : M (Option Bytes) := do
  let pending ← getRt fun rt => (rt.cells i).state.pending
  modifyCell i fun cell => { cell with state := { cell.state with pending := none } }
  pure pending

/-- `EntityPlugin::dispatch_to`. -/
def dispatchTo (env : Env) (ep : EntityPlugin) (exportName : String) (input : CastInput) :
    M DispatchResult :=
  match ep.backend with
  | .native => schedulerDispatch env input
  | .extism i => do
    let output ← callExport env ep i exportName (env.codec.encode input.toCbor)
    let pendingState ← takePending i
    let (createRequests, deleteRequests) ←
      getRt fun rt => ((rt.cells i).createQueue, (rt.cells i).deleteQueue)
    modifyCell i fun cell => { cell with createQueue := [], deleteQueue := [] }
    pure { output, pendingState, createRequests, deleteRequests }

/-- `EntityPlugin::handle_cast`. -/
def handleCast (env : Env) (ep : EntityPlugin) (input : CastInput) : M DispatchResult :=
  dispatchTo env ep "handle_cast" input

/-- `EntityPlugin::handle_call`. -/
def handleCall (env : Env) (ep : EntityPlugin) (input : CastInput) : M DispatchResult :=
  dispatchTo env ep "handle_call" input

/-- `EntityPlugin::mark_saved`. -/
def markSaved (ep : EntityPlugin) (savedBytes : Bytes) : M Unit :=
  match ep.backend with
  | .native => pure ()
  | .extism i => modifyCell i fun cell => { cell with state := cell.state.markSaved savedBytes }

/-- `EntityPlugin::trigger_save`. -/
def triggerSave (env : Env) (ep : EntityPlugin) : M (Option Cid) :=
  match ep.backend with
  | .native => pure none
  | .extism i => do
    let _ ← callExport env ep i "save_state" []
    match ← takePending i with
    | none => pure none
    | some bytes => do
      let fragment := ep.fragment
      let cid ← withContext s!"ipfs_add for '{fragment}' state" (dagPut env.kubo.blobs bytes)
      markSaved ep bytes
      pure (some cid)

/-! ## Loading -/

/-- What `init` reported: only an `[:error, …]` array is a failure. -/
def initLifecycle (codec : Lib.CborCodec) (initResult : Bytes) : Lifecycle :=
  match codec.decode initResult with
  | some (.array (.text ":error" :: _)) => .error
  | _ => .running

/-- The host functions a kind declares. -/
def linkedHostFns (kindNode : KindNode) : List HostFn :=
  [.maSend, .maReply, .maSetState, .maCreateEntity, .maDeleteEntity].filter
    fun fn => kindNode.hostFunctions.contains fn.name

/-- The context `init` gets. -/
def initCtx (env : Env) (fragment : String) (node : EntityNode) : EntityCtx :=
  let ourDid := env.ourDid
  { selfDid := s!"{ourDid}#{fragment}", fragment := fragment, kind := node.kind
    parent := node.parent, lifecycle := node.lifecycle }

/-- The persisted state of a stateful entity; one that cannot be fetched is empty. -/
def initState (env : Env) (kind : PluginKind) (node : EntityNode) : M Bytes :=
  match kind, node.state with
  | .stateful, some link => do
    pure ((← (dagGet env.kubo.blobs link.cid).attempt).toOption.getD [])
  | _, _ => pure []

/-- Call `init` of a fresh instance, where the kind declares it. -/
def runInit (env : Env) (fragment : String) (node : EntityNode) (kindNode : KindNode)
    (state : Bytes) (cell : PluginCell) : M (PluginCell × Lifecycle) :=
  if kindNode.api.contains "init" then do
    let payload : InitPayload := { ctx := initCtx env fragment node, state }
    let n ← nextCall
    let io ← Proc.look fun w => w.io
    let (result, cell, io) := playExport env n "init" (env.codec.encode payload.toCbor) cell io
    modifyIo fun _ => io
    match result with
    | .ok output => pure (cell, initLifecycle env.codec output)
    | .error e => Proc.fail [s!"init() failed for '{fragment}': {e}"]
  else pure (cell, .running)

/-- Give the plugin a cell. -/
def allocate (cell : PluginCell) : M Nat := do
  let i ← getRt fun rt => rt.nextCell
  modifyRt fun rt => { rt with cells := Function.update rt.cells i cell, nextCell := i + 1 }
  pure i

/-- Fetch, instantiate and initialise an Extism plugin. -/
def loadExtism (env : Env) (fragment : String) (node : EntityNode) (kindNode : KindNode)
    (behaviourCid : Cid) : M (EntityPlugin × Lifecycle) := do
  let kind := kindNode.pluginKind
  let wasm ← withContext s!"fetching wasm for '{fragment}' from {behaviourCid}"
    (dagGet env.kubo.blobs behaviourCid)
  let state ← initState env kind node
  let hostFns := linkedHostFns kindNode
  let n ← nextCall
  let memory ← withContext s!"failed to create extism plugin for '{fragment}'"
    (Proc.ofExcept (env.instantiate n wasm hostFns kindNode.wasi))
  let (cell, lifecycle) ← runInit env fragment node kindNode state
    { plugin := ⟨wasm, memory⟩, hostFns, fragment, state := .new state
      createQueue := [], deleteQueue := [] }
  let i ← allocate cell
  pure
    ({ fragment, kind, acl := node.acl, parent := node.parent, backend := .extism i }, lifecycle)

/-- `EntityPlugin::load`. -/
def load (env : Env) (fragment : String) (node : EntityNode) (kindNode : KindNode) :
    M (EntityPlugin × Lifecycle) :=
  if kindNode.evaluator = .native then
    Proc.fail [s!"entity '{fragment}' has evaluator 'native': use EntityPlugin::new_native() " ++
      "instead of load()"]
  else if kindNode.evaluator ≠ .extism then
    let evaluator := kindNode.evaluator.debug
    Proc.fail [s!"unsupported evaluator {evaluator} for '{fragment}'"]
  else
    match node.behaviour with
    | none => Proc.fail [s!"entity '{fragment}' has evaluator 'extism' but no behaviour CID"]
    | some behaviour => loadExtism env fragment node kindNode behaviour.cid

/-- `EntityPlugin::new_native`. -/
def newNative (fragment : String) (node : EntityNode) : EntityPlugin × Lifecycle :=
  ({ fragment, kind := .stateless, acl := node.acl, parent := node.parent, backend := .native },
    .running)

/-! ## Frames -/

section Frames

variable {g : Lib.Guards Lock}

theorem calm_modifyCell (i : Nat) (f : PluginCell → PluginCell) :
    Proc.Calm g CellsOnly (modifyCell i f) :=
  calm_modifyRt fun _ => rfl

theorem calm_callExport (env : Env) (ep : EntityPlugin) (i : Nat) (exportName : String)
    (input : Bytes) : Proc.Calm g CellsOnly (callExport env ep i exportName input) := by
  refine (calm_nextCall.mono fun _ _ h => h.cellsOnly).bind fun n => ?_
  refine (Proc.calm_look _).bind fun s => ?_
  refine (calm_modifyCell _ _).bind fun _ => ?_
  refine ((calm_modifyIo _).mono fun _ _ h => h.cellsOnly).bind fun _ => ?_
  split
  · exact Proc.calm_pure _
  · exact Proc.calm_fail _

theorem calm_takePending (i : Nat) : Proc.Calm g CellsOnly (takePending i) :=
  (calm_getRt _).bind fun _ => (calm_modifyCell _ _).bind fun _ => Proc.calm_pure _

theorem calm_schedulerDispatch (env : Env) (input : CastInput) :
    Proc.Calm g Idle (schedulerDispatch env input) := by
  unfold schedulerDispatch
  split
  · exact Proc.calm_fail _
  · exact (Proc.calm_ofExcept _).bind fun _ => (calm_modifyIo _).bind fun _ => Proc.calm_pure _

theorem calm_dispatchTo (env : Env) (ep : EntityPlugin) (exportName : String)
    (input : CastInput) : Proc.Calm g CellsOnly (dispatchTo env ep exportName input) := by
  unfold dispatchTo
  split
  · exact (calm_schedulerDispatch env input).mono fun _ _ h => h.cellsOnly
  · rename_i i _
    exact (calm_callExport env ep i exportName _).bind fun _ =>
      (calm_takePending i).bind fun _ => (calm_getRt _).bind fun _ =>
        (calm_modifyCell _ _).bind fun _ => Proc.calm_pure _

theorem calm_handleCall (env : Env) (ep : EntityPlugin) (input : CastInput) :
    Proc.Calm g CellsOnly (handleCall env ep input) := calm_dispatchTo env ep _ input

theorem calm_markSaved (ep : EntityPlugin) (savedBytes : Bytes) :
    Proc.Calm g CellsOnly (markSaved ep savedBytes) := by
  unfold markSaved
  split
  · exact Proc.calm_pure _
  · exact calm_modifyCell _ _

theorem calm_triggerSave (env : Env) (ep : EntityPlugin) :
    Proc.Calm g CellsOnly (triggerSave env ep) := by
  unfold triggerSave
  split
  · exact Proc.calm_pure _
  · refine (calm_callExport _ _ _ _ _).bind fun _ => (calm_takePending _).bind fun pending => ?_
    split
    · exact Proc.calm_pure _
    · exact ((calm_withContext _ (calm_dagPut _ _)).mono fun _ _ h => h.cellsOnly).bind fun _ =>
        (calm_markSaved _ _).bind fun _ => Proc.calm_pure _

theorem calm_initState (env : Env) (kind : PluginKind) (node : EntityNode) :
    Proc.Calm g Idle (initState env kind node) := by
  unfold initState
  split
  · exact (calm_dagGet _ _).attempt.bind fun _ => Proc.calm_pure _
  · exact Proc.calm_pure _

theorem calm_runInit (env : Env) (fragment : String) (node : EntityNode) (kindNode : KindNode)
    (state : Bytes) (cell : PluginCell) :
    Proc.Calm g Idle (runInit env fragment node kindNode state cell) := by
  unfold runInit
  split
  · refine calm_nextCall.bind fun n => (Proc.calm_look _).bind fun io => ?_
    refine (calm_modifyIo _).bind fun _ => ?_
    split
    · exact Proc.calm_pure _
    · exact Proc.calm_fail _
  · exact Proc.calm_pure _

theorem calm_allocate (cell : PluginCell) : Proc.Calm g CellsOnly (allocate cell) := by
  refine (calm_getRt _).bind fun i => ?_
  refine Proc.Calm.bind ?_ fun _ => Proc.calm_pure _
  exact calm_modifyRt fun _ => rfl

theorem calm_load (env : Env) (fragment : String) (node : EntityNode) (kindNode : KindNode) :
    Proc.Calm g CellsOnly (load env fragment node kindNode) := by
  have idle {α : Type} {p : M α} (h : Proc.Calm g Idle p) : Proc.Calm g CellsOnly p :=
    h.mono fun _ _ h => h.cellsOnly
  unfold load
  split
  · exact Proc.calm_fail _
  · split
    · exact Proc.calm_fail _
    · split
      · exact Proc.calm_fail _
      · exact (idle (calm_withContext _ (calm_dagGet _ _))).bind fun _ =>
          (idle (calm_initState _ _ _)).bind fun _ => (idle calm_nextCall).bind fun _ =>
          (calm_withContext _ (Proc.calm_ofExcept _)).bind fun _ =>
          (idle (calm_runInit _ _ _ _ _ _)).bind fun _ =>
          (calm_allocate _).bind fun _ => Proc.calm_pure _

end Frames

/-! ## Saving, along any relation -/

section Along

variable {env : Env} {R : World → World → Prop} [IsPreorder World R] {ep : EntityPlugin}

theorem keeps_takePending {i : Nat} (hcell : ∀ f, Proc.Keeps R (modifyCell i f)) :
    Proc.Keeps R (takePending i) :=
  (Proc.keeps_look _).bind fun _ => (hcell _).bind fun _ => Proc.keeps_pure _

theorem keeps_markSaved (hcell : ∀ i, ep.backend = .extism i → ∀ f, Proc.Keeps R (modifyCell i f))
    (savedBytes : Bytes) : Proc.Keeps R (markSaved ep savedBytes) := by
  unfold markSaved
  split
  · exact Proc.keeps_pure _
  · rename_i i hi
    exact hcell i hi _

/-- A save moves along whatever its stages move along. -/
theorem keeps_triggerSave
    (hkubo : ∀ {α : Type} (call : Nat → Except Error α), Proc.Keeps R (kuboCall call))
    (hcall : ∀ i, ep.backend = .extism i →
      Proc.Keeps R (callExport env ep i "save_state" []))
    (htake : ∀ i, ep.backend = .extism i → Proc.Keeps R (takePending i))
    (hmark : ∀ savedBytes, Proc.Keeps R (markSaved ep savedBytes)) :
    Proc.Keeps R (triggerSave env ep) := by
  unfold triggerSave
  split
  · exact Proc.keeps_pure _
  · rename_i i hi
    refine (hcall i hi).bind fun _ => (htake i hi).bind fun pending => ?_
    split
    · exact Proc.keeps_pure _
    · exact ((hkubo _).mapErr _).bind fun _ => (hmark _).bind fun _ => Proc.keeps_pure _

end Along

/-! ## What an export does -/

/-- What host functions do to the record: envelopes are sent and calls counted. -/
def HostIo (io io' : Io) : Prop :=
  ∃ envelopes k, io' = { io with envelopes := envelopes, calls := io.calls + k }

theorem hostFn_io (env : Env) (op : HostFn × Bytes) (s : PluginCell × Io) :
    HostIo s.2 (hostFn env op s).2.2 := by
  obtain ⟨fn, input⟩ := op
  obtain ⟨cell, io⟩ := s
  have hidle : HostIo io io := ⟨io.envelopes, 0, rfl⟩
  unfold hostFn
  dsimp only
  split
  · exact hidle
  · cases fn with
    | maSetState => exact hidle
    | maDeleteEntity => dsimp only; split <;> exact hidle
    | maSend =>
      dsimp only
      split
      · exact hidle
      · exact ⟨_, 0, rfl⟩
    | maReply =>
      dsimp only
      split
      · exact hidle
      · exact ⟨_, 0, rfl⟩
    | maCreateEntity =>
      dsimp only
      split
      · exact hidle
      · exact ⟨io.envelopes, 1, rfl⟩

/-- A call of an export does no more to the record. -/
theorem playExport_io (env : Env) (n : Nat) (exportName : String) (input : Bytes)
    (cell : PluginCell) (io : Io) :
    HostIo io (playExport env n exportName input cell io).2.2 := by
  refine Lib.Interaction.run_keeps (R := fun s s' : PluginCell × Io => HostIo s.2 s'.2)
    (fun s => ⟨s.2.envelopes, 0, rfl⟩) (fun s1 s2 s3 h h' => ?_) (hostFn_io env) _ (cell, io)
  obtain ⟨envelopes, k, h⟩ := h
  obtain ⟨envelopes', k', h'⟩ := h'
  refine ⟨envelopes', k + k', ?_⟩
  rw [h', h, Nat.add_assoc]

/-- A call of an export is its play against the host functions. -/
theorem callExport_run {g : Lib.Guards Lock} (env : Env) (ep : EntityPlugin) (i : Nat)
    (exportName : String) (input : Bytes) (w : World) {result : Except String Bytes}
    {cell : PluginCell} {io : Io}
    (hplay : playExport env w.io.calls exportName input (w.rt.cells i)
      { w.io with calls := w.io.calls + 1 } = (result, cell, io)) :
    callExport env ep i exportName input g w =
      (match result with
        | .ok output => .ok output
        | .error e =>
          let fragment := ep.fragment
          .err [s!"{exportName}() failed for '{fragment}': {e}"],
      { rt := { w.rt with cells := Function.update w.rt.cells i cell }, io := io }) := by
  unfold callExport
  rw [nextCall_bind]
  rw [Proc.bind_of_ok (a := (w.rt.cells i, { w.io with calls := w.io.calls + 1 })) rfl]
  simp only [hplay]
  cases result with
  | ok output => rfl
  | error e => rfl

/-- `init` is its play, where the kind declares it. -/
theorem runInit_run {g : Lib.Guards Lock} {env : Env} {fragment : String} {node : EntityNode}
    {kindNode : KindNode} {state : Bytes} {cell cell' : PluginCell} {w : World}
    {result : Except String Bytes} {io : Io} (hinit : kindNode.api.contains "init" = true)
    (hplay : playExport env w.io.calls "init"
      (env.codec.encode (InitPayload.toCbor { ctx := initCtx env fragment node, state })) cell
      { w.io with calls := w.io.calls + 1 } = (result, cell', io)) :
    runInit env fragment node kindNode state cell g w =
      (match result with
        | .ok output => .ok (cell', initLifecycle env.codec output)
        | .error e => .err [s!"init() failed for '{fragment}': {e}"],
      { w with io := io }) := by
  unfold runInit
  rw [if_pos hinit, nextCall_bind]
  rw [Proc.bind_of_ok (a := { w.io with calls := w.io.calls + 1 }) rfl]
  simp only [hplay]
  cases result with
  | ok output => rfl
  | error e => rfl

/-- Where the kind declares no `init`, nothing runs. -/
theorem runInit_none {g : Lib.Guards Lock} {env : Env} {fragment : String} {node : EntityNode}
    {kindNode : KindNode} {state : Bytes} {cell : PluginCell} {w : World}
    (hinit : ¬ kindNode.api.contains "init" = true) :
    runInit env fragment node kindNode state cell g w = (.ok (cell, .running), w) := by
  unfold runInit
  rw [if_neg hinit]
  rfl

/-! ## Loads and exports make calls only -/

section Called

variable {env : Env}

theorem HostIo.called {w w' : World} (h : HostIo { w.io with calls := w.io.calls + 1 } w'.io) :
    Called w w' := by
  obtain ⟨envelopes, k, h⟩ := h
  refine ⟨envelopes, 1 + k, w.io.kuboFailed, id, ?_⟩
  rw [h, Nat.add_assoc]

theorem keeps_callExport_called (ep : EntityPlugin) (i : Nat) (exportName : String)
    (input : Bytes) : Proc.Keeps Called (callExport env ep i exportName input) := by
  intro g w
  have hio := playExport_io env w.io.calls exportName input (w.rt.cells i)
    { w.io with calls := w.io.calls + 1 }
  rcases hplay : playExport env w.io.calls exportName input (w.rt.cells i)
    { w.io with calls := w.io.calls + 1 } with ⟨result, cell, io⟩
  rw [hplay] at hio
  rw [callExport_run env ep i exportName input w hplay]
  exact HostIo.called hio

theorem keeps_runInit_called (fragment : String) (node : EntityNode) (kindNode : KindNode)
    (state : Bytes) (cell : PluginCell) :
    Proc.Keeps Called (runInit env fragment node kindNode state cell) := by
  intro g w
  by_cases hinit : kindNode.api.contains "init" = true
  · have hio := playExport_io env w.io.calls "init"
      (env.codec.encode (InitPayload.toCbor { ctx := initCtx env fragment node, state })) cell
      { w.io with calls := w.io.calls + 1 }
    rcases hplay : playExport env w.io.calls "init"
      (env.codec.encode (InitPayload.toCbor { ctx := initCtx env fragment node, state })) cell
      { w.io with calls := w.io.calls + 1 } with ⟨result, cell', io⟩
    rw [hplay] at hio
    rw [runInit_run hinit hplay]
    exact HostIo.called hio
  · rw [runInit_none hinit]
    exact refl_of Called w

theorem keeps_load_called (fragment : String) (node : EntityNode) (kindNode : KindNode) :
    Proc.Keeps Called (load env fragment node kindNode) := by
  unfold load
  split
  · exact Proc.keeps_fail _
  · split
    · exact Proc.keeps_fail _
    · split
      · exact Proc.keeps_fail _
      · have hstate : Proc.Keeps Called (initState env kindNode.pluginKind node) := by
          unfold initState
          split
          · exact (keeps_kuboCall_called _).attempt.bind fun _ => Proc.keeps_pure _
          · exact Proc.keeps_pure _
        exact ((keeps_kuboCall_called _).mapErr _).bind fun _ => hstate.bind fun _ =>
          keeps_nextCall_called.bind fun _ => ((Proc.keeps_ofExcept _).mapErr _).bind fun _ =>
            (keeps_runInit_called _ _ _ _ _).bind fun _ =>
              ((Proc.keeps_look _).bind fun _ => (keeps_modifyRt_called _).bind fun _ =>
                Proc.keeps_pure _).bind fun _ => Proc.keeps_pure _

end Called

/-! ## What a loaded plugin is -/

/-- The stages of a load that succeeds, from the fetch of the module to the cell. -/
inductive LoadRun (env : Env) (fragment : String) (node : EntityNode) (kindNode : KindNode)
    (g : Lib.Guards Lock) (w : World) : EntityPlugin → Lifecycle → World → Prop
  | run {behaviour : IpldLink} {wasm state memory : Bytes} {n i : Nat} {cell : PluginCell}
      {lifecycle : Lifecycle} {w1 w2 w3 w4 : World} (hbehaviour : node.behaviour = some behaviour)
      (hwasm : env.kubo.blobs.denotes behaviour.cid = some wasm)
      (hstate : initState env kindNode.pluginKind node g (w.afterCalls 1) = (.ok state, w1))
      (hmemory : env.instantiate n wasm (linkedHostFns kindNode) kindNode.wasi = .ok memory)
      (hidle : Idle w1 w2)
      (hinit : runInit env fragment node kindNode state
        { plugin := ⟨wasm, memory⟩, hostFns := linkedHostFns kindNode, fragment, state := .new state
          createQueue := [], deleteQueue := [] } g w2 = (.ok (cell, lifecycle), w3))
      (hallocate : allocate cell g w3 = (.ok i, w4)) :
      LoadRun env fragment node kindNode g w
        { fragment, kind := kindNode.pluginKind, acl := node.acl, parent := node.parent
          backend := .extism i } lifecycle w4

/-- **A load that succeeds went through its stages.** -/
theorem load_run {env : Env} {fragment : String} {node : EntityNode} {kindNode : KindNode}
    {g : Lib.Guards Lock} {w w' : World} {ep : EntityPlugin} {lifecycle : Lifecycle}
    (h : load env fragment node kindNode g w = (.ok (ep, lifecycle), w')) :
    LoadRun env fragment node kindNode g w ep lifecycle w' := by
  unfold load at h
  split at h
  · exact absurd h (by simp)
  · split at h
    · exact absurd h (by simp)
    · cases hbehaviour : node.behaviour with
      | none => simp only [hbehaviour, Proc.fail_run, Prod.mk.injEq, reduceCtorEq, false_and] at h
      | some behaviour =>
        simp only [hbehaviour] at h
        obtain ⟨wasm, w1, hwasm, h⟩ := Proc.bind_ok h
        obtain ⟨-, rfl⟩ := dagGet_run_ok (withContext_ok hwasm)
        obtain ⟨state, w2, hstate, h⟩ := Proc.bind_ok h
        obtain ⟨n, w3, hcall, h⟩ := Proc.bind_ok h
        obtain ⟨memory, w4, hmemory, h⟩ := Proc.bind_ok h
        have h3 : Idle w2 w3 := (calm_nextCall.of_run hcall).2
        have h4 : Idle w3 w4 :=
          ((calm_withContext (R := Idle) _ (Proc.calm_ofExcept _)).of_run hmemory).2
        obtain ⟨⟨cell, lifecycle'⟩, w5, hinit, h⟩ := Proc.bind_ok h
        obtain ⟨i, w6, hallocate, h⟩ := Proc.bind_ok h
        simp only [Proc.pure_run, Prod.mk.injEq, Lib.Outcome.ok.injEq] at h
        obtain ⟨⟨rfl, rfl⟩, rfl⟩ := h
        exact .run hbehaviour (dagGet_ok (withContext_ok hwasm)) hstate
          (Proc.ofExcept_ok (withContext_ok hmemory)) (trans_of Idle h3 h4) hinit hallocate

/-- **A loaded plugin copies its node**: its name, its ACL and its parent are those of the
entity. -/
theorem load_ok {env : Env} {fragment : String} {node : EntityNode} {kindNode : KindNode}
    {g : Lib.Guards Lock} {w w' : World} {ep : EntityPlugin} {lifecycle : Lifecycle}
    (h : load env fragment node kindNode g w = (.ok (ep, lifecycle), w')) :
    ep.fragment = fragment ∧ ep.kind = kindNode.pluginKind ∧ ep.acl = node.acl ∧
      ep.parent = node.parent := by
  cases load_run h with
  | run => exact ⟨rfl, rfl, rfl, rfl⟩

/-- A load that fails leaves the shared state. -/
theorem load_sat {env : Env} {fragment : String} {node : EntityNode} {kindNode : KindNode}
    {g : Lib.Guards Lock} {w : World} :
    (load env fragment node kindNode).Sat g w
      fun o w' => (∃ loaded, o = .ok loaded) ∨ Idle w w' := by
  unfold load
  split
  · exact .inr (refl_of Idle w)
  · split
    · exact .inr (refl_of Idle w)
    · split
      · exact .inr (refl_of Idle w)
      · refine (calm_withContext _ (calm_dagGet _ _)).sat_bind (fun _ _ h => .inr h)
          fun _ w1 _ h1 => ?_
        refine (calm_initState _ _ _).sat_bind (fun _ _ h => .inr (trans_of Idle h1 h))
          fun _ w2 _ h2 => ?_
        have h2 := trans_of Idle h1 h2
        refine calm_nextCall.sat_bind (fun _ _ h => .inr (trans_of Idle h2 h)) fun _ w3 _ h3 => ?_
        have h3 := trans_of Idle h2 h3
        refine (calm_withContext _ (Proc.calm_ofExcept _)).sat_bind
          (fun _ _ h => .inr (trans_of Idle h3 h)) fun _ w4 _ h4 => ?_
        have h4 := trans_of Idle h3 h4
        refine (calm_runInit _ _ _ _ _ _).sat_bind (fun _ _ h => .inr (trans_of Idle h4 h))
          fun _ w5 _ _ => ?_
        exact .inl ⟨_, rfl⟩

end MaRuntime
