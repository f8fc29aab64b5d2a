import MaRuntime.Crud.Effect
import MaRuntime.FiniteEnv

/-!
# Waiting for oneself

A handler runs in one task. If it asks for a guard while it holds one that excludes it, nobody is
left to release that guard, and the daemon hangs: the run ends in `stuck`. CRUD handlers never get
there. An RPC handler does on one path: `recordNewEntity` keeps its read guard on `stats` over
`persistNewEntity`, which ends by writing `stats`.

* `createRequested_stuck_iff`: a creation request wedges the daemon exactly when its kind is
  registered, its plugin loads and starts, a root is known and the new root was stored.
* `handlers_finish_iff`: every message is handled to its end, but for the RPC messages whose
  dispatch queued such a request.
* `create_request_hangs`: one of those.
-/

namespace MaRuntime

open Lib (Cbor Proc)

/-! ## Creation requests -/

/-- The request creates an entity whose record was stored, with the guard on `stats` still held. -/
inductive Wedges (env : Env) (entity : EntityPlugin) (req : CreateEntityRequest) (w : World) : Prop
  | intro {kindNode : KindNode} {ep : EntityPlugin} {w1 : World} {root newRoot : Cid}
      (hkind : w.rt.kindRegistry[req.kindProtocol]? = some kindNode)
      (hload : load env req.fragment (requestedNode entity req) kindNode rpcGuards w =
        (.ok (ep, .running), w1))
      (hroot : w1.rt.stats.rootCid = some root)
      (hpublish : (publishNewEntity env root req.fragment
        { requestedNode entity req with lifecycle := .running } ((.stats, .read) :: rpcGuards)
        { w1 with rt := { w1.rt with
          entityRegistry := w1.rt.entityRegistry.insert req.fragment ep } }).1 = .ok newRoot)

/-- One of the requests wedges when its turn comes. -/
def CreatesWedge (env : Env) (entity : EntityPlugin) : List CreateEntityRequest → World → Prop
  | [], _ => False
  | req :: rest, w => Wedges env entity req w ∨
      CreatesWedge env entity rest (createRequested env entity req rpcGuards w).2

section Create

variable {env : Env} {g : Lib.Guards Lock}

/-- Under a guard on `stats` the record of a new entity never gets past its last write. -/
theorem persistNewEntity_stuck_iff {root : Cid} {fragment : String} {node : EntityNode} {w : World}
    (hg : g.excludes .stats .write = true) :
    (persistNewEntity env root fragment node g w).1 = .stuck ↔
      ∃ newRoot, (publishNewEntity env root fragment node g w).1 = .ok newRoot := by
  unfold persistNewEntity
  rw [(calm_publishNewEntity root fragment node).frees.bind_stuck_iff]
  refine ⟨fun ⟨newRoot, w1, hrun, _⟩ => ⟨newRoot, by rw [hrun]⟩, fun ⟨newRoot, hok⟩ => ?_⟩
  refine ⟨newRoot, _, Prod.ext hok rfl, ?_⟩
  rw [(calm_pinUpdate env _ _).attempt.frees.bind_stuck_iff]
  obtain ⟨r, w2, hpin⟩ := (calm_pinUpdate (g := g) env root newRoot).frees.attempt_run
    (publishNewEntity env root fragment node g w).2
  refine ⟨r, w2, hpin, ?_⟩
  unfold writeStats writing Proc.holding
  rw [if_pos hg]

theorem recordNewEntity_stuck_iff {fragment : String} {node : EntityNode} {w : World} :
    (recordNewEntity env fragment node rpcGuards w).1 = .stuck ↔
      ∃ root newRoot, w.rt.stats.rootCid = some root ∧
        (publishNewEntity env root fragment { node with lifecycle := .running }
          ((.stats, .read) :: rpcGuards) w).1 = .ok newRoot := by
  unfold recordNewEntity reading
  rw [Proc.holding_run rfl, Proc.bind_of_ok (a := w.rt.stats.rootCid) (t := w) rfl]
  cases hroot : w.rt.stats.rootCid with
  | none => simp
  | some root =>
    rw [Proc.attempt_bind_stuck_iff fun _ => Proc.frees_pure (), persistNewEntity_stuck_iff rfl]
    exact ⟨fun ⟨newRoot, h⟩ => ⟨root, newRoot, rfl, h⟩, fun ⟨root', newRoot, heq, h⟩ =>
      ⟨newRoot, Option.some.inj heq ▸ h⟩⟩

/-- **When a creation request wedges the daemon.** -/
theorem createRequested_stuck_iff {entity : EntityPlugin} {req : CreateEntityRequest} {w : World} :
    (createRequested env entity req rpcGuards w).1 = .stuck ↔ Wedges env entity req w := by
  unfold createRequested
  rw [Proc.bind_of_ok (a := w.rt.kindRegistry[req.kindProtocol]?) (t := w) rfl]
  cases hkind : w.rt.kindRegistry[req.kindProtocol]? with
  | none =>
    refine ⟨fun h => absurd h (by simp), fun ⟨hkind', _, _, _⟩ => ?_⟩
    exact absurd (hkind.symm.trans hkind') (by simp)
  | some kindNode =>
    dsimp only
    rw [(calm_load env _ _ _).attempt.frees.bind_stuck_iff]
    constructor
    · rintro ⟨r, w1, hload, h⟩
      split at h
      · rw [Proc.bind_of_ok (a := ()) rfl, recordNewEntity_stuck_iff] at h
        obtain ⟨root, newRoot, hroot, hpublish⟩ := h
        exact .intro hkind (Proc.attempt_ok hload) hroot hpublish
      · exact absurd h (by simp [modifyIo])
      · exact absurd h (by simp)
      · exact absurd h (by simp)
    · rintro ⟨hkind', hload, hroot, hpublish⟩
      obtain rfl := Option.some.inj (hkind.symm.trans hkind')
      refine ⟨_, _, Proc.attempt_of_ok hload, ?_⟩
      dsimp only
      rw [Proc.bind_of_ok (a := ()) rfl, recordNewEntity_stuck_iff]
      exact ⟨_, _, hroot, hpublish⟩

theorem each_createRequested_stuck_iff {entity : EntityPlugin} :
    ∀ {reqs : List CreateEntityRequest} {w : World},
      (Proc.each reqs (createRequested env entity) rpcGuards w).1 = .stuck ↔
        CreatesWedge env entity reqs w
  | [], w => by
    unfold Proc.each CreatesWedge
    simp
  | req :: reqs, w => by
    have hstuck := @createRequested_stuck_iff env entity req w
    have herr := @createRequested_ne_err env entity req w
    unfold Proc.each CreatesWedge
    rw [Proc.bind_run, ← hstuck]
    rcases hrun : createRequested env entity req rpcGuards w with ⟨o, w1⟩
    cases o with
    | ok u =>
      rw [← each_createRequested_stuck_iff]
      simp
    | err e => exact absurd (congrArg Prod.fst hrun) (herr e)
    | stuck => simp

end Create

/-! ## Messages -/

section Messages

variable {env : Env}

/-- The deletions at the end never wait. -/
theorem processQueues_stuck_iff {entity : EntityPlugin} {result : DispatchResult} {w : World} :
    (processQueues env entity result rpcGuards w).1 = .stuck ↔
      CreatesWedge env entity result.createRequests w := by
  unfold processQueues
  rw [← each_createRequested_stuck_iff, Proc.bind_run]
  rcases Proc.each result.createRequests (createRequested env entity) rpcGuards w with ⟨o, w1⟩
  cases o with
  | ok u =>
    have h := (Proc.Calm.each (calm_deleteRequested (g := rpcGuards) rfl rfl entity)
      result.deleteRequests).frees w1
    simp [h]
  | err e => simp
  | stuck => simp

/-- **When an RPC message hangs the daemon.** -/
theorem rpcTurn_stuck_iff {message : Message} {w : World} :
    (rpcTurn env message [] w).1 = .stuck ↔
      ∃ entity result w', RpcResult env message w entity result w' ∧
        CreatesWedge env entity result.createRequests w' := by
  constructor
  · intro h
    rcases rpcTurn_cases env message w with ⟨entity, result, w', hresult⟩ | ⟨ho, -⟩
    · rw [hresult.run] at h
      exact ⟨entity, result, w', hresult, processQueues_stuck_iff.mp h⟩
    · exact absurd h ho
  · rintro ⟨entity, result, w', hresult, hwedge⟩
    rw [hresult.run]
    exact processQueues_stuck_iff.mpr hwedge

/-- **Every message is handled to its end**, but for the RPC messages whose dispatch queued a
creation request that wedges. -/
theorem handlers_finish_iff (env : Env) (message : Message) (w : World) :
    (crudTurn env message [] w).1 ≠ .stuck ∧
      ((rpcTurn env message [] w).1 ≠ .stuck ↔
        ∀ entity result w', RpcResult env message w entity result w' →
          ¬ CreatesWedge env entity result.createRequests w') := by
  refine ⟨(crudTurn_effect env message w).1, ?_⟩
  simp only [ne_eq, rpcTurn_stuck_iff, not_exists, not_and]

end Messages

/-! ## A creation -/

/-- A kind whose plugins may create entities. -/
def makerKind : KindNode :=
  { protocol := "/ma/maker/0.0.1", api := ["handle_cast"], hostFunctions := ["ma_create_entity"] }

/-- An entity of that kind. -/
def makerNode : EntityNode :=
  { kind := "/ma/maker/0.0.1", behaviour := some ⟨"bafymakerwasm"⟩, acl := "open" }

/-- The manifest with the entity. -/
def makerManifest : RuntimeManifest :=
  { kinds := KindTree.insertProtocol {} "/ma/maker/0.0.1" ⟨"bafymakerkind"⟩
    entities := (∅ : StrMap IpldLink).insert "maker" ⟨"bafymakernode"⟩
    acls := (∅ : StrMap IpldLink).insert "open" ⟨"bafyopenacl"⟩ }

/-- Kubo with the entity, the one it creates and the manifests before and after. -/
def makerTables : Tables where
  manifests :=
    [("bafyroot", makerManifest),
      ("bafycreated",
        { makerManifest with
          entities := makerManifest.entities.insert "a1b2c3d4" ⟨"bafynewnode"⟩ })]
  entities :=
    [("bafymakernode", makerNode),
      ("bafynewnode", { makerNode with parent := some "maker", lifecycle := .running })]
  kinds := [("bafymakerkind", makerKind)]
  acls := [("bafyopenacl", (∅ : AclMap).insert "*" (.fromCaps ["*"]))]
  blobs := [("bafymakerwasm", [0])]

/-- Every cast to the plugin asks for one more of its kind. -/
def makerEnv : Env :=
  { makerTables.live with
    guest := fun _ _ _ _ =>
      .call (.maCreateEntity, Lib.rfcCodec.encode (.map
          [(.text "kind", .text "/ma/maker/0.0.1"), (.text "behaviour", .text "bafymakerwasm")]))
        (.error "trap", []) fun _ => .done (.ok [], []) }

/-- The daemon with the entity loaded and its kind registered. -/
def makerStart : World :=
  let w := started makerEnv (some "bafyroot") ["did:ma:alice"]
  { w with rt := { w.rt with
    kindRegistry := (∅ : StrMap KindNode).insert "/ma/maker/0.0.1" makerKind } }

/-- The owner casts to the entity. -/
def makeEntity : Message where
  id := "m1"
  «from» := "did:ma:alice"
  «to» := "did:ma:runtime#maker"
  messageType := "application/x-ma-rpc"
  contentType := "application/cbor"
  createdAt := 0
  exp := 0
  replyTo := none
  payload := Lib.rfcCodec.encode (.text ":make")

set_option maxRecDepth 100000 in
/-- **The daemon hangs on a cast that creates an entity of a registered kind.** -/
theorem create_request_hangs : (rpcTurn makerEnv makeEntity [] makerStart).1 = .stuck := by
  decide +kernel

end MaRuntime
