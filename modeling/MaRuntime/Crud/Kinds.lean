import MaRuntime.Crud.Helpers

/-!
# The `kinds` namespace (`src/crud/kinds.rs`)

Protocol IDs contain slashes, so an operation on one kind passes its ID in the value:
`[protocol, cid]` upserts, `[protocol]` deletes and `protocol` alone reads.
-/

namespace MaRuntime

open Lib (Proc)

/-- `handle_kinds_ns`, where `write` stands for `with_manifest_crud`. -/
def handleKindsNsWith (write : ManifestWriter) (env : Env) (message : Message) (rest : List String)
    (args : Args) : M Unit :=
  if !rest.isEmpty then
    Proc.fail ["kinds path segments not supported (protocol IDs use CBOR value args)"]
  else
    match args with
    | .get => do
      let manifest ← loadManifest env
      sendCrudReply env message (.names manifest.kinds.protocolIds)
    | .put [.array [.text protocol, .text cid]] =>
      if !isCidv1 cid then sendCrudI18nError env message "cidv1-required"
      else do
        let newRoot ← write fun m =>
          .ok { m with kinds := m.kinds.insertProtocol protocol ⟨cid⟩ }
        sendCrudReply env message (.okCid newRoot)
    | .put [.array [.text protocol]] => do
      let _ ← write fun m =>
        .ok { m with kinds := m.kinds.removeProtocol protocol }
      sendCrudReply env message .ok
    | .put [.array _] =>
      Proc.fail ["kinds upsert value must be [protocol_text, cid] or [protocol_text] for delete"]
    | .put [.text protocol] => do
      let manifest ← loadManifest env
      match manifest.kinds.getProtocol protocol with
      | some link => do
        let kind ← dagGet env.kubo.kinds link.cid
        sendCrudReply env message (.kind kind)
      | none => sendCrudI18nError env message "kind-not-found"
    | .put [] => sendCrudI18nError env message "refuse-delete-root"
    | _ => Proc.fail ["unknown kinds operation"]

/-- `handle_kinds_ns`. -/
def handleKindsNs (env : Env) : Message → List String → Args → M Unit :=
  handleKindsNsWith (withManifestCrud env) env

end MaRuntime
