import MaRuntime.Crud.Helpers

/-!
# The `entities` namespace (`src/crud/entities.rs`)

Upsert and delete of an entity ask the root ACL for more than the `crud` capability; the `acl`
field of an entity node does not.
-/

namespace MaRuntime

open Lib (Cbor Proc)

/-- `check_entity_management_cap`: there is no bypass for owners here. -/
def checkEntityManagementCap (env : Env) (message : Message) (caps : List String) : M Unit :=
  reading .rootAcl do
    let acl ← getRt fun rt => rt.rootAcl
    let sender := message.from
    let required := Text.debugStrings caps
    withContext s!"entity management denied for {sender}: requires {required}"
      (Proc.ofExcept (checkFullNoGroups env.core acl message.from caps))

/-- `fetch_entity_node`. -/
def fetchEntityNode (env : Env) (name : String) : M EntityNode := do
  let manifest ← loadManifest env
  match manifest.entities[name]? with
  | none => Proc.fail [s!"entity not found: {name}"]
  | some link =>
    let cid := link.cid
    withContext s!"fetching entity {name} from {cid}" (dagGet env.kubo.entities cid)

/-- `update_entity_node`, where `write` stands for `with_manifest_crud`. -/
def updateEntityNodeWith (write : ManifestWriter) (env : Env) (name : String)
    (entity : EntityNode) : M Cid := do
  let entityCid ← withContext s!"publishing updated entity {name}"
    (dagPut env.kubo.entities entity)
  let _ ← write fun m =>
    .ok { m with entities := m.entities.insert name ⟨entityCid⟩ }
  pure entityCid

/-- `update_entity_node`. -/
def updateEntityNode (env : Env) : String → EntityNode → M Cid :=
  updateEntityNodeWith (withManifestCrud env) env

/-- `handle_entity_acl_field`, where `write` stands for `with_manifest_crud`. -/
def handleEntityAclFieldWith (write : ManifestWriter) (env : Env) (message : Message)
    (name : String) (subPath : List String) (args : Args) : M Unit :=
  if !subPath.isEmpty then
    let path := ".".intercalate subPath
    Proc.fail [s!"entity field 'acl' sub-path '{path}' not yet implemented"]
  else
    match args with
    | .get => do
      let entity ← fetchEntityNode env name
      sendCrudReply env message (.text entity.acl)
    | .put [.text aclName] => do
      let manifest ← loadManifest env
      if !manifest.acls.contains aclName then
        let available := Text.debugStrings manifest.acls.keys
        Proc.fail [s!"ACL name '{aclName}' not found in manifest; available: {available}"]
      else do
        let entity ← fetchEntityNode env name
        let entityCid ← updateEntityNodeWith write env name { entity with acl := aclName }
        sendCrudReply env message (.okCid entityCid)
    | .put [] => do
      let entity ← fetchEntityNode env name
      let entityCid ← updateEntityNodeWith write env name { entity with acl := "" }
      sendCrudReply env message (.okCid entityCid)
    | _ => Proc.fail [s!"unknown entities.{name}.acl operation"]

/-- `handle_entity_acl_field`. -/
def handleEntityAclField (env : Env) : Message → String → List String → Args → M Unit :=
  handleEntityAclFieldWith (withManifestCrud env) env

/-- `handle_entity_field`, where `write` stands for `with_manifest_crud`: a plain GET works for
every field, the rest is for `acl` only. -/
def handleEntityFieldWith (write : ManifestWriter) (env : Env) (message : Message)
    (name field : String) (subPath : List String) (args : Args) : M Unit :=
  match args, subPath with
  | .get, [] => do
    let entity ← fetchEntityNode env name
    match Cbor.field entity.entries field with
    | some value => sendCrudReply env message (.value value)
    | none => Proc.fail [s!"field '{field}' not found in entity '{name}'"]
  | _, _ =>
    if field = "acl" then handleEntityAclFieldWith write env message name subPath args
    else Proc.fail [s!"unknown entity field '{field}' in entity.{name}"]

/-- `handle_entity_field`. -/
def handleEntityField (env : Env) : Message → String → String → List String → Args → M Unit :=
  handleEntityFieldWith (withManifestCrud env) env

/-- Delete of an entity: the registry entry goes before the manifest is written. -/
def deleteEntityWith (write : ManifestWriter) (env : Env) (message : Message) (name : String) :
    M Unit := do
  checkEntityManagementCap env message ["delete", "entities"]
  writing .entityRegistry
    (modifyRt fun rt => { rt with entityRegistry := rt.entityRegistry.erase name })
  let _ ← write fun m => .ok { m with entities := m.entities.erase name }
  sendCrudReply env message .ok

/-- The same, with `with_manifest_crud`. -/
def deleteEntity (env : Env) : Message → String → M Unit :=
  deleteEntityWith (withManifestCrud env) env

/-- The upsert up to the manifest: the node at a path is linked under the name. The caller needs
the node's kind as a capability. -/
def linkEntityWith (write : ManifestWriter) (env : Env) (message : Message) (name path : String) :
    M (Cid × EntityNode) := do
  let cid ← withContext s!"resolving path {path}" (dagResolve env path)
  let entityNode ← withContext s!"fetching entity node from {cid}" (dagGet env.kubo.entities cid)
  checkEntityManagementCap env message [entityNode.kind]
  let _ ← write fun m => .ok { m with entities := m.entities.insert name ⟨cid⟩ }
  pure (cid, entityNode)

/-- The same, with `with_manifest_crud`. -/
def linkEntity (env : Env) : Message → String → String → M (Cid × EntityNode) :=
  linkEntityWith (withManifestCrud env) env

/-- Upsert of an entity. -/
def upsertEntityWith (write : ManifestWriter) (env : Env) (message : Message) (name path : String) :
    M Unit :=
  if name.toList.any Text.isControl then sendCrudI18nError env message "entity-name-invalid"
  else if reservedEntityNames.contains name then
    sendCrudI18nErrorf env message "reserved-entity-name" [("name", name)]
  else do
    let (cid, entityNode) ← linkEntityWith write env message name path
    registerEntityPlugin env name entityNode
    sendCrudReply env message (.okCid cid)

/-- The same, with `with_manifest_crud`. -/
def upsertEntity (env : Env) : Message → String → String → M Unit :=
  upsertEntityWith (withManifestCrud env) env

/-- `handle_single_entity`, where `write` stands for `with_manifest_crud`. -/
def handleSingleEntityWith (write : ManifestWriter) (env : Env) (message : Message) (name : String)
    (args : Args) : M Unit :=
  match args with
  | .get => do
    let manifest ← loadManifest env
    match manifest.entities[name]? with
    | none => Proc.fail [s!"entity not found: {name}"]
    | some link => do
      let entity ← dagGet env.kubo.entities link.cid
      sendCrudReply env message (.entity entity)
  | .put [] => deleteEntityWith write env message name
  | .put [.text path] => upsertEntityWith write env message name path
  | _ => Proc.fail [s!"unknown entities.{name} operation"]

/-- `handle_entities_ns`, where `write` stands for `with_manifest_crud`. -/
def handleEntitiesNsWith (write : ManifestWriter) (env : Env) (message : Message)
    (rest : List String) (args : Args) : M Unit :=
  match rest with
  | [] =>
    match args with
    | .get => do
      let names ← reading .entityRegistry (getRt fun rt => rt.entityRegistry.keys)
      sendCrudReply env message (.names names)
    | .put _ => sendCrudI18nError env message "refuse-delete-root"
  | [name] => handleSingleEntityWith write env message name args
  | name :: field :: subPath => handleEntityFieldWith write env message name field subPath args

/-- `handle_entities_ns`. -/
def handleEntitiesNs (env : Env) : Message → List String → Args → M Unit :=
  handleEntitiesNsWith (withManifestCrud env) env

end MaRuntime
