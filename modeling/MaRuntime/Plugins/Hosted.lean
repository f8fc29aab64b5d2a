import MaRuntime.FiniteEnv
import MaRuntime.Plugins.Session
import MaRuntime.Plugins.Set

/-!
# Shipped plugins in the daemon

What `EntityPlugin::load` makes of a module that behaves like a shipped plugin: the memory of its
cell holds a session of the plugin, with the identity that the host handed to `init`
(`load_hosted`). `playExport_performs` is any call of it. `setEnv` is an environment that runs the
set plugin.
-/

namespace MaRuntime.Plugins

open Lib (Cbor CborCodec Proc)

/-! ## `init` -/

section Init

variable {S : Type} {codec : CborCodec} {readState : Bytes → Option S}

/-- What a plugin reads of the host's payload. -/
theorem InitPayload.ofCbor_toCbor (p : MaRuntime.InitPayload) :
    InitPayload.ofCbor p.toCbor =
      some { ctx := { selfDid := p.ctx.selfDid, fragment := p.ctx.fragment, parent := p.ctx.parent }
             state := p.state } := by
  obtain ⟨⟨selfDid, fragment, kind, parent, lifecycle⟩, state⟩ := p
  cases parent <;> cases state <;> rfl

/-- The guest reads the payload that the host wrote. -/
theorem InitPayload.decode_encode (codec : Lib.CborCodec) (p : MaRuntime.InitPayload) :
    (codec.decode (codec.encode p.toCbor)).bind InitPayload.ofCbor =
      some { ctx := { selfDid := p.ctx.selfDid, fragment := p.ctx.fragment, parent := p.ctx.parent }
             state := p.state } := by
  rw [codec.decode_encode, Option.bind_some, InitPayload.ofCbor_toCbor]

theorem restoreWith_run (bytes : Bytes) (s : Guest S) :
    ∃ state, restoreWith readState bytes [] s =
      (.ok (), { s with locals := { s.locals with state } }) := by
  unfold restoreWith
  generalize (if bytes.isEmpty then none else readState bytes) = restored
  cases restored with
  | some state => exact ⟨state, rfl⟩
  | none => exact ⟨s.locals.state, rfl⟩

/-- **`init` takes over the identity** that the payload carries. -/
theorem initWith_run {input : Bytes} {payload : InitPayload} (locals : Locals S)
    (h : (codec.decode input).bind InitPayload.ofCbor = some payload) :
    ∃ state, initWith codec readState input [] { locals } =
      (.ok (cborOkUnit codec),
        { locals := { state, selfDid := payload.ctx.selfDid, parent := payload.ctx.parent } }) := by
  obtain ⟨state, hstate⟩ := @restoreWith_run S readState payload.state
    { locals := { locals with selfDid := payload.ctx.selfDid, parent := payload.ctx.parent } }
  refine ⟨state, ?_⟩
  unfold initWith
  simp only [h]
  rw [Proc.bind_of_ok (a := ()) rfl, Proc.bind_of_ok (a := ()) rfl, Proc.bind_of_ok hstate]
  rfl

end Init

/-! ## Calls and loads -/

section Load

variable {S : Type} {env : Env} {program : Program S} {keeps : Bool} {wasm : Bytes}
  {sessionIn : Bytes → Option (Session S)}

/-- The plugin in a cell is an instance of the module, with the session in its memory. -/
def HoldsSession (wasm : Bytes) (sessionIn : Bytes → Option (Session S)) (cell : PluginCell)
    (s : Session S) : Prop :=
  cell.plugin.wasm = wasm ∧ sessionIn cell.plugin.memory = some s

/-- **A call of a module that behaves like its program**, if the host answers what it asks for. -/
theorem playExport_performs {exportName : String} {input : Bytes} {n : Nat}
    {cell cell' : PluginCell} {io io' : Io} {s : Session S} {f : PluginM S Bytes}
    (hperforms : Performs sessionIn keeps s f (env.guest n cell.plugin exportName input))
    (hanswered : Lib.Interaction.answered (hostFn env) (f s.guards { locals := s.locals }).2.calls
      (cell, io) = some (cell', io')) :
    ∃ result memory, playExport env n exportName input cell io =
        (result, { cell' with plugin := { cell'.plugin with memory } }, io') ∧
      Told (f s.guards { locals := s.locals }).1 result ∧
      sessionIn memory = some (s.call keeps f) := by
  obtain ⟨result, memory, hmakes, htold, hsession⟩ := hperforms
  refine ⟨result, memory, ?_, htold, hsession⟩
  unfold playExport
  rw [hmakes.run hanswered]

/-- An `init` that can be read, of an instance in which nothing is borrowed, if it makes no call of
the host. -/
theorem playExport_init (hosts : Hosts env program keeps wasm sessionIn) {cell : PluginCell}
    {before after : Locals S} (hcell : HoldsSession wasm sessionIn cell { locals := before })
    {input output : Bytes} {payload : InitPayload}
    (hinput : (env.codec.decode input).bind InitPayload.ofCbor = some payload)
    (hinit : program.init input [] { locals := before } = (.ok output, { locals := after }))
    (n : Nat) (io : Io) :
    ∃ memory, playExport env n "init" input cell io =
        (.ok output, { cell with plugin := { cell.plugin with memory } }, io) ∧
      sessionIn memory = some { locals := after } := by
  obtain ⟨rfl, hmemory⟩ := hcell
  let s : Session S := { locals := before }
  have hrun : program.init input s.guards { locals := s.locals } =
      (.ok output, { locals := after }) := hinit
  have hanswered : Lib.Interaction.answered (hostFn env)
      (program.init input s.guards { locals := s.locals }).2.calls (cell, io) =
        some (cell, io) := by
    rw [hrun]
    rfl
  obtain ⟨result, memory, hplay, htold, hsession⟩ :=
    playExport_performs (hosts.init (n := n) hmemory hinput) hanswered
  rw [hrun] at htold
  obtain rfl : result = .ok output := htold
  refine ⟨memory, hplay, hsession.trans ?_⟩
  unfold Session.call
  rw [hrun]

/-- `runInit` leaves the identity in the memory, where the kind declares an `init`. -/
theorem runInit_hosted {readState : Bytes → Option S}
    (hosts : Hosts env program keeps wasm sessionIn)
    (hinit : program.init = initWith env.codec readState) {g : Lib.Guards Lock} {w w' : World}
    {fragment : String} {node : EntityNode} {kindNode : KindNode} {state : Bytes}
    {cell cell' : PluginCell} {lifecycle : Lifecycle} {l : Locals S}
    (hcell : HoldsSession wasm sessionIn cell { locals := l })
    (h : runInit env fragment node kindNode state cell g w = (.ok (cell', lifecycle), w')) :
    ∃ state, HoldsSession wasm sessionIn cell'
      { locals := if kindNode.api.contains "init" then
          { state, selfDid := (initCtx env fragment node).selfDid, parent := node.parent }
        else l } := by
  by_cases hapi : kindNode.api.contains "init" = true
  · have hinput := InitPayload.decode_encode env.codec { ctx := initCtx env fragment node, state }
    obtain ⟨s, hrun⟩ := @initWith_run S env.codec readState _ _ l hinput
    obtain ⟨memory, hplay, hsession⟩ := playExport_init hosts hcell hinput (by rw [hinit, hrun])
      w.io.calls { w.io with calls := w.io.calls + 1 }
    rw [runInit_run hapi hplay] at h
    simp only [Prod.mk.injEq, Lib.Outcome.ok.injEq] at h
    obtain ⟨⟨rfl, -⟩, -⟩ := h
    refine ⟨s, hcell.1, ?_⟩
    rw [if_pos hapi]
    exact hsession
  · rw [runInit_none hapi] at h
    simp only [Prod.mk.injEq, Lib.Outcome.ok.injEq] at h
    obtain ⟨⟨rfl, -⟩, -⟩ := h
    exact ⟨l.state, by rw [if_neg hapi]; exact hcell⟩

theorem allocate_cell {cell : PluginCell} {g : Lib.Guards Lock} {w w' : World} {i : Nat}
    (h : allocate cell g w = (.ok i, w')) : w'.rt.cells i = cell := by
  unfold allocate at h
  rw [Proc.bind_of_ok (a := w.rt.nextCell) rfl, Proc.bind_of_ok (a := ()) rfl] at h
  simp only [Proc.pure_run, Prod.mk.injEq, Lib.Outcome.ok.injEq] at h
  obtain ⟨rfl, rfl⟩ := h
  simp

/-- **A loaded plugin knows itself by its DID-URL and its parent as the node names it**, where its
kind declares an `init`; otherwise it knows neither. -/
theorem load_hosted {readState : Bytes → Option S}
    (hosts : Hosts env program keeps wasm sessionIn)
    (hinit : program.init = initWith env.codec readState) {g : Lib.Guards Lock} {w w' : World}
    {fragment : String} {node : EntityNode} {kindNode : KindNode} {behaviour : IpldLink}
    {ep : EntityPlugin} {lifecycle : Lifecycle} (hnode : node.behaviour = some behaviour)
    (hwasm : env.kubo.blobs.denotes behaviour.cid = some wasm)
    (h : load env fragment node kindNode g w = (.ok (ep, lifecycle), w')) :
    ∃ i state, ep.backend = .extism i ∧ HoldsSession wasm sessionIn (w'.rt.cells i)
      { locals := if kindNode.api.contains "init" then
          { state, selfDid := (initCtx env fragment node).selfDid, parent := node.parent }
        else { state := program.initial } } := by
  cases load_run h with
  | run hbehaviour hdenotes _ hmemory _ hrun hallocate =>
    obtain rfl := Option.some.inj (hnode.symm.trans hbehaviour)
    obtain rfl := Option.some.inj (hwasm.symm.trans hdenotes)
    obtain ⟨s, hcell⟩ := runInit_hosted hosts hinit (l := { state := program.initial })
      ⟨rfl, (hosts.instantiate hmemory).1⟩ hrun
    refine ⟨_, s, rfl, ?_⟩
    rw [allocate_cell hallocate]
    exact hcell

end Load

/-! ## An environment with the set plugin -/

/-- A layout of a session of the set plugin in memory. -/
def memoryOf (s : Session (List String)) : Bytes :=
  Lib.rfcCodec.encode (.array
    [.array (s.locals.state.map .text), .text s.locals.selfDid, textOrNull s.locals.parent,
      .bool s.borrowed])

/-- The session that a memory holds. -/
def readMemory (memory : Bytes) : Option (Session (List String)) :=
  match Lib.rfcCodec.decode memory with
  | some (.array [.array items, .text selfDid, parent, .bool borrowed]) =>
    some
      { locals :=
          { state := items.filterMap Set.asText, selfDid
            parent := match parent with | .text p => some p | _ => none }
        borrowed }
  | _ => none

theorem readMemory_memoryOf (s : Session (List String)) : readMemory (memoryOf s) = some s := by
  obtain ⟨⟨members, selfDid, parent⟩, borrowed⟩ := s
  unfold readMemory memoryOf
  rw [Lib.rfcCodec.decode_encode]
  cases parent <;> simp only [textOrNull, Set.filterMap_asText]

/-- The environment over the tables in which every module is the set plugin, whose instances live on
after a trap. -/
def setEnv (t : Tables) : Env :=
  { t.env with
    instantiate := fun _ _ hostFns _ =>
      if .maReply ∈ hostFns ∧ .maSetState ∈ hostFns then
        .ok (memoryOf { locals := { state := [] } })
      else .error ["unknown import"]
    guest := fun _ plugin exportName input =>
      match readMemory plugin.memory, exportName with
      | some s, "init" => s.interaction true memoryOf (Set.init Lib.rfcCodec input)
      | some s, "handle_call" => s.interaction true memoryOf (Set.handleCall Lib.rfcCodec input)
      | _, _ => .done (.error "no such export", plugin.memory) }

theorem setEnv_hosts (t : Tables) (wasm : Bytes) :
    Hosts (setEnv t) (Set.program (setEnv t).codec) true wasm readMemory where
  instantiate h := by
    simp only [setEnv] at h
    split at h
    · rename_i hlinked
      obtain rfl := Except.ok.inj h
      exact ⟨readMemory_memoryOf _, hlinked⟩
    · exact absurd h (by simp)
  init {n memory s input payload} hmemory _ := by
    simp only [setEnv, hmemory]
    exact Session.interaction_performs readMemory_memoryOf s _
  handleCall {n memory s input} hmemory := by
    simp only [setEnv, hmemory]
    exact Session.interaction_performs readMemory_memoryOf s _

/-- The kind of the set plugin. -/
def setKind : KindNode :=
  { protocol := "/ma/set/0.0.1", api := ["init", "handle_call"]
    attributes := (∅ : StrMap Json).insert "stateful" (.bool true)
    hostFunctions := ["ma_reply", "ma_set_state"] }

end MaRuntime.Plugins
