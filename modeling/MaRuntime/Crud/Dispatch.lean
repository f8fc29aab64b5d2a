import MaRuntime.Crud.Config
import MaRuntime.Crud.Entities
import MaRuntime.Crud.Kinds
import MaRuntime.Crud.Namespaces

/-!
# The CRUD service (`src/crud/mod.rs`)

The entry point of `/ma/crud/0.0.1`: the `crud` gate, the payload and the namespaces.
-/

namespace MaRuntime

open Lib (Proc)

/-- One namespace. -/
def handleNsWith (write : ManifestWriter) (env : Env) (message : Message) (ns : String)
    (rest : List String) (args : Args) : M Unit :=
  match ns with
  | "entities" => handleEntitiesNsWith write env message rest args
  | "kinds" => handleKindsNsWith write env message rest args
  | "config" => handleConfigNsWith write env message rest args
  | "acl" => handleRootAclWith write env message args
  | "acls" => handleRootAclsWith write env message rest args
  | _ => sendCrudI18nError env message "unknown-rpc-atom"

/-- The same, with `with_manifest_crud`. -/
def handleNs (env : Env) : Message → String → List String → Args → M Unit :=
  handleNsWith (withManifestCrud env) env

/-- `dispatch_management`, where `write` stands for `with_manifest_crud`. -/
def dispatchManagementWith (write : ManifestWriter) (env : Env) (message : Message) : M Unit :=
  if message.messageType ≠ env.messageTypeCrud then
    sendCrudI18nErrorf env message "wrong-crud-protocol" [("type", message.messageType)]
  else do
    let op ← Proc.ofExcept (decodeCrudPayload env message.payload)
    let (ns, rest) ← Proc.ofExcept (parsePath op.target.1)
    handleNsWith write env message ns rest op.target.2

/-- `dispatch_management`. -/
def dispatchManagement (env : Env) : Message → M Unit :=
  dispatchManagementWith (withManifestCrud env) env

/-- The gate of `handle_crud_message`. Owners pass it unconditionally. -/
def crudGate (env : Env) (message : Message) (acl : AclMap) : M Unit := do
  let owners ← readStats fun s => s.owners
  unless isOwner env.core owners message.from do
    Proc.ofExcept (checkFullNoGroups env.core acl message.from [capCrud])

/-- `handle_crud_message`, where `write` stands for `with_manifest_crud`, on a snapshot of the root
ACL. -/
def handleCrudMessageWith (write : ManifestWriter) (env : Env) (message : Message) (acl : AclMap) :
    M Unit := do
  crudGate env message acl
  dispatchManagementWith write env message

/-- `handle_crud_message`. -/
def handleCrudMessage (env : Env) : Message → AclMap → M Unit :=
  handleCrudMessageWith (withManifestCrud env) env

/-- The main loop's turn for one CRUD message: the read guard on the root ACL is dropped before
the handler runs. -/
def crudTurnWith (write : ManifestWriter) (env : Env) (message : Message) : M Unit := do
  let aclSnapshot ← reading .rootAcl (getRt fun rt => rt.rootAcl)
  handleCrudMessageWith write env message aclSnapshot

/-- The same, with `with_manifest_crud`. -/
def crudTurn (env : Env) : Message → M Unit :=
  crudTurnWith (withManifestCrud env) env

end MaRuntime
