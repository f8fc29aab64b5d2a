import MaRuntime.World

/-!
# The IPFS publisher service (`src/ipfs.rs`)

`/ma/ipfs/0.0.1` publishes DID documents and stores content for callers with the `ipfs`
capability. Requests are validated by `ma_core`.
-/

namespace MaRuntime

open Lib (Proc)

/-- The reply with the CID, to the `#rpc` fragment of the sender. -/
def sendIpfsReply (env : Env) (incoming : Message) (cid : Cid) : M Unit := do
  let sender := incoming.from
  match env.parseDid sender with
  | none => Proc.fail [s!"invalid sender DID: {sender}"]
  | some ipns => do
    let n ← nextCall
    match env.deliver n with
    | .buildFailed e => Proc.fail ("failed to build ipfs reply" :: e)
    | .noOutbox => pure ()
    | .sendFailed e => Proc.fail ("ipfs reply send failed" :: e)
    | .sent =>
      modifyIo fun io =>
        { io with
          replies := io.replies ++
            [{ «to» := s!"did:ma:{ipns}#rpc", replyType := env.messageTypeRpcReply
               replyTo := incoming.id, body := .okCid cid }] }

/-- What a validated request hands to Kubo. -/
def publish (env : Env) : ValidatedIpfsRequest → M Cid
  | .didDocumentPublish documentBytes => do
    match ← withContext "kubo DID publish failed"
        (kuboCall fun n => env.kubo.publishDocument n documentBytes) with
    | some cid => pure cid
    | none => Proc.fail ["publisher returned no CID"]
  | .store contentType content =>
    if contentType = "application/vnd.ipld.dag-cbor" then
      withContext "dag put failed" (kuboCall fun n => env.kubo.dagPutCbor n content)
    else withContext "ipfs add failed" (dagPut env.kubo.blobs content)

/-- The gate of `handle_ipfs_message`. Owners have no bypass here. -/
def ipfsGate (env : Env) (message : Message) (acl : AclMap) : M Unit :=
  Proc.ofExcept (checkFullNoGroups env.core acl message.from [capIpfs])

/-- `handle_ipfs_message`. -/
def handleIpfsMessage (env : Env) (message : Message) (acl : AclMap) : M Unit := do
  ipfsGate env message acl
  let n ← nextCall
  withContext "replay or invalid headers" (Proc.ofExcept (env.replayCheck n message))
  let validated ← withContext "invalid /ma/ipfs/0.0.1 request"
    (Proc.ofExcept (env.validateIpfsRequest message))
  let cid ← publish env validated
  sendIpfsReply env message cid

/-- The main loop's turn for one IPFS message, under the read guard on the root ACL. -/
def ipfsTurn (env : Env) (message : Message) : M Unit := do
  writeStats fun s => { s with ipfsRequests := s.ipfsRequests + 1 }
  reading .rootAcl do
    let acl ← getRt fun rt => rt.rootAcl
    handleIpfsMessage env message acl

/-! ## Frames -/

section Frames

variable {g : Lib.Guards Lock} {env : Env}

theorem calm_sendIpfsReply (incoming : Message) (cid : Cid) :
    Proc.Calm g Idle (sendIpfsReply env incoming cid) := by
  unfold sendIpfsReply
  dsimp only
  split
  · exact Proc.calm_fail _
  · refine calm_nextCall.bind fun n => ?_
    split
    · exact Proc.calm_fail _
    · exact Proc.calm_pure _
    · exact Proc.calm_fail _
    · exact calm_modifyIo _

theorem calm_publish (request : ValidatedIpfsRequest) :
    Proc.Calm g Idle (publish env request) := by
  unfold publish
  split
  · refine (calm_withContext _ (calm_kuboCall _)).bind fun o => ?_
    split
    · exact Proc.calm_pure _
    · exact Proc.calm_fail _
  · split
    · exact calm_withContext _ (calm_kuboCall _)
    · exact calm_withContext _ (calm_dagPut _ _)

theorem calm_handleIpfsMessage (message : Message) (acl : AclMap) :
    Proc.Calm g Idle (handleIpfsMessage env message acl) := by
  refine (Proc.calm_ofExcept _).bind fun _ => calm_nextCall.bind fun n => ?_
  refine (calm_withContext _ (Proc.calm_ofExcept _)).bind fun _ => ?_
  refine (calm_withContext _ (Proc.calm_ofExcept _)).bind fun validated => ?_
  exact (calm_publish validated).bind fun _ => calm_sendIpfsReply _ _

/-- **What an IPFS message can do to the shared state**: it is counted. -/
theorem ipfsTurn_counted (env : Env) (message : Message) (w : World) :
    (ipfsTurn env message [] w).2.rt =
      { w.rt with stats := { w.rt.stats with ipfsRequests := w.rt.stats.ipfsRequests + 1 } } :=
  (@calm_handleIpfsMessage [(.rootAcl, .read)] env message w.rt.rootAcl).keeps _
    { w with rt := { w.rt with stats :=
      { w.rt.stats with ipfsRequests := w.rt.stats.ipfsRequests + 1 } } }

end Frames

end MaRuntime
