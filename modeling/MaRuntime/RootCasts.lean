import MaRuntime.Confinement
import MaRuntime.Plugins.Root

/-!
# Casts to the root plugin

What becomes of a message that gets past the gates to an entity that runs the root plugin
(`GetsTo`). The plugin answers before its requests are taken up, so its answers tell what was asked
for, not what was done.

* **`root_casts`**: the answer goes to the sender and depends on the command alone. A creation is
  always answered with a name that no entity gets, a deletion always with `:ok`.
-/

namespace MaRuntime

open Lib (Cbor CborCodec Proc Run)

/-- An RPC message gets to an entity, past the gates. The last state is the one in which it is
dispatched. -/
inductive GetsTo (env : Env) (message : Message) (w : World) :
    EntityPlugin → Cbor → World → Prop
  | intro {w1 w2 : World} {term : Cbor} {fragment : String} {entity : EntityPlugin}
      (hgate : rpcGate env message w.rt.rootAcl rpcGuards (counted w) = (.ok (), w1))
      (htype : message.messageType = env.messageTypeRpc)
      (hterm : env.codec.decode message.payload = some term)
      (hfragment : Text.stripPrefix message.to (env.ourDid ++ "#") = some fragment)
      (hentity : w1.rt.entityRegistry[fragment]? = some entity)
      (hauth : authorizeEntity env message term entity rpcGuards w1 = (.ok (), w2)) :
      GetsTo env message w entity term w2

section GetsTo

variable {env : Env} {message : Message} {w w2 : World} {entity : EntityPlugin} {term : Cbor}

/-- What is dispatched with a result gets as far as its queues. -/
theorem GetsTo.result (h : GetsTo env message w entity term w2) {result : DispatchResult}
    {w3 w4 : World} (hdispatch : dispatch env entity { msg := localMessage env message term }
      rpcGuards w2 = (.ok result, w3))
    (hpersist : persistPending env entity result.pendingState rpcGuards w3 = (.ok (), w4)) :
    RpcResult env message w entity result w4 := by
  obtain @⟨w1, _, _, fragment, _, hgate, htype, hterm, hfragment, hentity, hauth⟩ := h
  exact .intro hgate htype hterm hfragment hentity (.intro hauth hdispatch hpersist)

/-- Up to the dispatch plugins move as in a group query. -/
theorem GetsTo.moves (h : GetsTo env message w entity term w2)
    {started : List (String × KindNode)} (hw : Wired env (w.plugins started)) :
    ∃ started2, Wired env (w2.plugins started2) ∧
      Endures .all (w.plugins started) (w2.plugins started2) ∧
      w2.rt.entityRegistry = w.rt.entityRegistry ∧ IsHosted entity (w.plugins started) := by
  obtain @⟨w1, _, _, fragment, _, hgate, -, -, -, hentity, hauth⟩ := h
  have hsame : w1.plugins started = w.plugins started :=
    Proc.Sat.of_run (Q := fun _ w1 => Quiet (counted w) w1) (quiet_rpcGate message _ _ _) hgate
      started
  have hw1 : Wired env (w1.plugins started) := hsame ▸ hw
  obtain ⟨hhosted, -⟩ := (hw1.entities fragment entity hentity).isHosted
  obtain ⟨started2, -, hsteps2⟩ := Proc.Sat.of_run
    (Q := fun _ w2 => Moves env .all (IsHosted entity) w1 w2)
    (moves_authorizeEntity (lasting_isHosted entity) fun _ _ => trivial) hauth started hw1 hhosted
  have hcells := ((calm_authorizeEntity rfl rfl message term entity).of_run hauth).2
  have hregistry : w1.rt.entityRegistry = w.rt.entityRegistry := congrArg PluginHost.registry hsame
  rw [hsame] at hhosted
  exact ⟨started2, hsteps2.wired hw1, hsame ▸ hsteps2.endures,
    hcells.entityRegistry.trans hregistry, hhosted⟩

end GetsTo

namespace Plugins.Root

/-- The module behaves like the root plugin, whatever is in its memory. -/
def Hosts (env : Env) (store : Cells → Bytes → Bytes) (wasm : Bytes) : Prop :=
  ∀ n memory exportName input, env.guest n ⟨wasm, memory⟩ exportName input =
    interaction env.codec store exportName input memory

section Casts

variable {env : Env} {store : Cells → Bytes → Bytes} {wasm : Bytes} {w : World}

/-- **A dispatch to the root plugin** returns, with what the command queued, and its reply is in the
channel. -/
theorem dispatch_root (hosts : Hosts env store wasm) {entity : EntityPlugin}
    (hkind : entity.kind = .stateless) {i : Nat} (hbackend : entity.backend = .extism i)
    (hwasm : (w.rt.cells i).plugin.wasm = wasm) (hfns : (w.rt.cells i).hostFns = hostFns)
    (msg : LocalMessage) :
    let command := commandOf env.codec msg.content
    let fresh := env.generateFragment (w.io.calls + 1)
    let cell := command.queued fresh (w.rt.cells i)
    ∃ w', dispatch env entity { msg } rpcGuards w =
        (.ok
          { output := [], pendingState := cell.state.pending
            createRequests := cell.createQueue, deleteRequests := cell.deleteQueue }, w') ∧
      w'.io.envelopes = w.io.envelopes ++ [((w.rt.cells i).fragment,
        replyEnvelope msg (command.answer env.codec fresh))] := by
  intro command fresh cell
  have hdecode : (env.codec.decode (env.codec.encode (CastInput.toCbor { msg }))).bind
      castInputOfCbor = some { msg } := by
    rw [env.codec.decode_encode, Option.bind_some, castInputOfCbor_toCbor]
  have hguest : env.guest w.io.calls (w.rt.cells i).plugin "handle_cast"
      (env.codec.encode (CastInput.toCbor { msg })) =
        handleCast env.codec (w.rt.cells i).plugin.memory
          (env.codec.encode (CastInput.toCbor { msg })) := by
    have hplugin : (w.rt.cells i).plugin = ⟨wasm, (w.rt.cells i).plugin.memory⟩ := by rw [← hwasm]
    rw [hplugin, hosts]
    rfl
  have hplay := @play_handleCast _ env _ { w.io with calls := w.io.calls + 1 } _ _ hfns hdecode
    hguest
  let w1 : World :=
    { rt := { w.rt with cells := Function.update w.rt.cells i cell }
      io := command.replied env (w.rt.cells i).fragment msg
        { w.io with calls := w.io.calls + 1 } }
  have hcall : callExport env entity i "handle_cast" (env.codec.encode (CastInput.toCbor { msg }))
      rpcGuards w = (.ok [], w1) := callExport_run env entity i "handle_cast" _ w hplay
  have hdispatch : dispatch env entity { msg } rpcGuards w =
      dispatchTo env entity "handle_cast" { msg } rpcGuards w := by
    unfold dispatch
    rw [hkind]
    rfl
  have hcell : w1.rt.cells i = cell := Function.update_self i cell w.rt.cells
  refine ⟨w1.withCell i cell.drained, ?_, rfl⟩
  rw [hdispatch, dispatchTo_run hbackend hcall, hcell]

/-- **What the root plugin answers**, in every reachable state, to a message that gets to it: one
reply, to the sender, that depends on the command alone. `:create` is answered with the name of an
entity that is not created, `:delete` with `:ok`, granted or not; the registry loses what the
deletions grant. Of the rest only plugin cells and request counters may move. -/
theorem root_casts {config : Config} {files : StrMap (Except Error Config)}
    {cells : Nat → PluginCell} {rootCid : Option Cid} {cliOwners : List String}
    {es : List HostEvent} {message : Message} {entity : EntityPlugin} {term : Cbor} {w2 : World}
    {i : Nat} (hosts : Hosts env store wasm)
    (hrun : Run (HostStep env) (booted env config files cells rootCid cliOwners) es w)
    (hmessage : GetsTo env message w entity term w2) (hkind : entity.kind = .stateless)
    (hbackend : entity.backend = .extism i) (hwasm : (w.rt.cells i).plugin.wasm = wasm)
    (hfns : (w.rt.cells i).hostFns = hostFns) :
    ∃ fresh, Generated env fresh ∧ (rpcTurn env message [] w).1 = .ok () ∧
      (rpcTurn env message [] w).2.io.envelopes = w2.io.envelopes ++ [(entity.fragment,
        replyEnvelope (localMessage env message term)
          ((commandOf env.codec (env.codec.encode term)).answer env.codec fresh))] ∧
      (rpcTurn env message [] w).2.rt.entityRegistry =
        ((w2.rt.cells i).deleteQueue ++ (commandOf env.codec (env.codec.encode term)).deletes).foldl
          (afterDelete entity) w.rt.entityRegistry ∧
      Sandboxed w (rpcTurn env message [] w).2 ∧ Thinned w (rpcTurn env message [] w).2 := by
  obtain ⟨started, hw, hkinds, -⟩ := booted_run hrun
  obtain ⟨started2, hw2, hf, -, hhosted⟩ := hmessage.moves hw
  obtain ⟨hi, hfragment⟩ := hhosted i hbackend
  have hwasm2 : (w2.rt.cells i).plugin.wasm = wasm := (hf.wasm i hi).trans hwasm
  have hfns2 : (w2.rt.cells i).hostFns = hostFns := (hf.hostFns i hi).trans hfns
  have hfragment2 : (w2.rt.cells i).fragment = entity.fragment :=
    (hf.fragment i hi).trans hfragment
  obtain ⟨w3, hdispatch, hsent⟩ := dispatch_root hosts hkind hbackend hwasm2 hfns2
    (localMessage env message term)
  have hno : HostFn.maSetState ∉ (w2.rt.cells i).hostFns := by
    rw [hfns2]
    decide
  have hpending : (w2.rt.cells i).state.pending = none :=
    ((hw2.rights i (Nat.lt_of_lt_of_le hi hf.nextCell)).state hno).1
  have hpersist : persistPending env entity (w2.rt.cells i).state.pending rpcGuards w3 =
      (.ok (), w3) := by
    rw [hpending]
    rfl
  have hresult := hmessage.result hdispatch hpersist
  have hcells := hresult.cellsOnly
  have hkind3 (protocol : String) : w3.rt.kindRegistry[protocol]? = none := by
    unfold CellsOnly at hcells
    rw [hcells]
    change w.rt.kindRegistry[protocol]? = none
    rw [hkinds]
    exact Std.ExtTreeMap.getElem?_empty
  have hturn := hresult.run
  unfold processQueues at hturn
  rw [Proc.bind_of_ok (createRequests_unknown rfl hkind3 _), deleteRequests_run] at hturn
  have hstep : UnmanagedStep env w (.turn (.rpc message)) (rpcTurn env message [] w).2 :=
    ⟨.run, trivial⟩
  obtain ⟨hconfined, hthin⟩ := plugins_confined hrun (.cons hstep (.nil _))
  refine ⟨env.generateFragment (w2.io.calls + 1), ⟨_, rfl⟩, congrArg Prod.fst hturn, ?_, ?_,
    hconfined, hthin⟩
  · rw [hturn, ← hfragment2]
    exact hsent
  · rw [hturn]
    exact congrArg (List.foldl (afterDelete entity) · _) hcells.entityRegistry

end Casts

/-! ## A root plugin -/

/-- The shipped kind. -/
def rootKind : KindNode :=
  { protocol := "/ma/root/0.0.1", api := ["init", "handle_cast"]
    hostFunctions := ["ma_send", "ma_reply", "ma_create_entity", "ma_delete_entity"] }

/-- The root entity. -/
def rootNode : EntityNode :=
  { kind := "/ma/root/0.0.1", behaviour := some ⟨"bafyrootwasm"⟩, acl := "open" }

/-- Kubo with the entity. -/
def rootTables : Tables where
  manifests :=
    [("bafyroot",
      { kinds := KindTree.insertProtocol {} "/ma/root/0.0.1" ⟨"bafyrootkind"⟩
        entities := (∅ : StrMap IpldLink).insert "root" ⟨"bafyrootnode"⟩
        acls := (∅ : StrMap IpldLink).insert "open" ⟨"bafyopenacl"⟩ })]
  entities := [("bafyrootnode", rootNode)]
  kinds := [("bafyrootkind", rootKind)]
  acls := [("bafyopenacl", (∅ : AclMap).insert "*" (.fromCaps ["*"]))]
  blobs := [("bafyrootwasm", [0])]

/-- A layout of the cells in memory. -/
def storeCells (cells : Cells) (_ : Bytes) : Bytes :=
  Lib.rfcCodec.encode (.array [.text cells.selfDid, textOrNull cells.parent])

/-- The environment in which every module is the root plugin. -/
def rootEnv : Env :=
  { rootTables.live with
    guest := fun _ plugin exportName input =>
      interaction Lib.rfcCodec storeCells exportName input plugin.memory }

/-- The request for a new entity. -/
def createTerm : Cbor := .array [.text ":create", .text "/ma/root/0.0.1", .text "bafyrootwasm"]

/-- The owner asks for it. -/
def askCreate : Message where
  id := "m1"
  «from» := "did:ma:alice"
  «to» := "did:ma:runtime#root"
  messageType := "application/x-ma-rpc"
  contentType := "application/cbor"
  createdAt := 0
  exp := 0
  replyTo := none
  payload := Lib.rfcCodec.encode createTerm

/-- The daemon with the entity loaded. -/
def rootStart : World := MaRuntime.started rootEnv (some "bafyroot") ["did:ma:alice"]

set_option maxRecDepth 100000 in
/-- The owner is told the name of an entity that is not there. -/
theorem root_casts_create :
    ∃ w2 : World, (rpcTurn rootEnv askCreate [] rootStart).2.io.envelopes =
        w2.io.envelopes ++ [("root", replyEnvelope (localMessage rootEnv askCreate createTerm)
          (cborOk Lib.rfcCodec (.text "a1b2c3d4")))] ∧
      (rpcTurn rootEnv askCreate [] rootStart).2.rt.entityRegistry["a1b2c3d4"]? = none := by
  let entity : EntityPlugin :=
    { fragment := "root", kind := .stateless, acl := "open", parent := none, backend := .extism 0 }
  have hgate : (rpcGate rootEnv askCreate rootStart.rt.rootAcl rpcGuards
      (counted rootStart)).1 = .ok () := by decide +kernel
  have hauth : (authorizeEntity rootEnv askCreate createTerm entity rpcGuards
      (rpcGate rootEnv askCreate rootStart.rt.rootAcl rpcGuards (counted rootStart)).2).1 =
        .ok () := by decide +kernel
  have hfragment : Text.stripPrefix askCreate.to (rootEnv.ourDid ++ "#") = some "root" := by
    decide +kernel
  have hmessage := GetsTo.intro (Prod.ext hgate rfl) rfl (Lib.rfcCodec.decode_encode createTerm)
    hfragment (by decide +kernel) (Prod.ext hauth rfl)
  have hosts : Hosts rootEnv storeCells [0] := fun _ _ _ _ => rfl
  have hcommand : commandOf rootEnv.codec (rootEnv.codec.encode createTerm) =
      .create "/ma/root/0.0.1" "bafyrootwasm" none := by decide +kernel
  obtain ⟨fresh, ⟨n, rfl⟩, -, hsent, -, -, hthin⟩ := root_casts hosts (.nil rootStart) hmessage rfl
    rfl (by decide +kernel) (by decide +kernel)
  rw [hcommand] at hsent
  exact ⟨_, hsent, hthin.unknown "a1b2c3d4" (by decide +kernel)⟩

end Plugins.Root

end MaRuntime
