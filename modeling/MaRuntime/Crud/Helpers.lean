import MaRuntime.Plugin

/-!
# Paths, payloads and the manifest (`src/crud/helpers.rs`)

The paths and payloads of `/ma/crud/0.0.1`, and the helpers every operation goes through:
`loadManifest` reads the manifest at `stats.root_cid`, `withManifestCrud` rewrites it.
-/

namespace MaRuntime

open Lib (Cbor Proc)

/-! ## Paths and payloads -/

/-- `parse_path`: `:ns.seg1.seg2` is `("ns", ["seg1", "seg2"])`. -/
def parsePath (path : String) : Except Error (String × List String) :=
  match Text.stripPrefix path ":" with
  | none => .error [s!"CRUD path must start with ':' — got: {path}"]
  | some body =>
    let (ns, rest) := (Text.splitOnce body '.').getD (body, "")
    if ns = "" then .error [s!"CRUD path has no namespace: {path}"]
    else .ok (ns, (Text.split rest '.').filter (· ≠ ""))

/-- A decoded operation. -/
inductive CrudOp where
  /-- `[":get", ":path"]`. -/
  | get (path : String)
  /-- `[":path", value]`. -/
  | set (path : String) (value : Cbor)
  /-- `[":delete", ":path"]`. -/
  | delete (path : String)

/-- `decode_crud_payload`. -/
def decodeCrudPayload (env : Env) (content : Bytes) : Except Error CrudOp :=
  match env.codec.decode content with
  | none => .error ["invalid CBOR in CRUD payload"]
  | some (.array [.text verb, second]) =>
    if verb = ":get" then
      match second with
      | .text path => .ok (.get path)
      | _ => .error ["CRUD get: path must be a text string"]
    else if verb = ":delete" then
      match second with
      | .text path => .ok (.delete path)
      | _ => .error ["CRUD delete: path must be a text string"]
    else .ok (.set verb second)
  | some (.array [_, _]) => .error ["CRUD payload: first element must be a text path or verb"]
  | some (.array items) =>
    let n := toString items.length
    .error [s!"CRUD payload must be a 2-element CBOR array, got {n}"]
  | some _ => .error ["CRUD payload must be a 2-element CBOR array"]

/-- What the handlers see of an operation, as `(tail, args)`: `(None, [])` for a GET,
`(Some(""), args)` for a SET with one argument and a DELETE with none. -/
inductive Args where
  | get
  | put (args : List Cbor)

/-- The path and the arguments of an operation. -/
def CrudOp.target : CrudOp → String × Args
  | .get path => (path, .get)
  | .set path value => (path, .put [value])
  | .delete path => (path, .put [])

/-- `is_cidv1`. -/
def isCidv1 (s : String) : Bool := Text.startsWith s "b" && s.utf8ByteSize > 10

/-! ## Replies -/

/-- `send_crud_reply_raw`. An outbox that cannot be opened is only logged. -/
def sendCrudReply (env : Env) (incoming : Message) (body : ReplyBody) : M Unit := do
  let sender := incoming.from
  if (env.parseDid sender).isNone then Proc.fail [s!"invalid sender DID: {sender}"]
  else do
    let n ← nextCall
    match env.deliver n with
    | .buildFailed e => Proc.fail ("failed to build CRUD reply" :: e)
    | .noOutbox => pure ()
    | .sendFailed e => Proc.fail ("CRUD reply send failed" :: e)
    | .sent =>
      modifyIo fun io =>
        { io with
          replies := io.replies ++
            [{ «to» := sender, replyType := env.messageTypeCrudReply, replyTo := incoming.id,
               body }] }

/-- `send_crud_i18n_errorf`. -/
def sendCrudI18nErrorf (env : Env) (incoming : Message) (key : String)
    (args : List (String × String)) : M Unit :=
  sendCrudReply env incoming (.i18nError key args)

/-- `send_crud_i18n_error`. -/
def sendCrudI18nError (env : Env) (incoming : Message) (key : String) : M Unit :=
  sendCrudI18nErrorf env incoming key []

/-! ## The manifest -/

/-- `current_root_cid`. -/
def currentRootCid : M Cid := do
  match ← readStats fun s => s.rootCid with
  | some cid => pure cid
  | none => Proc.fail ["no manifest root CID available"]

/-- `load_manifest`. -/
def loadManifest (env : Env) : M RuntimeManifest := do
  dagGet env.kubo.manifests (← currentRootCid)

/-- `update_stats_entities`. -/
def updateStatsEntities : M Unit := do
  let names ← reading .entityRegistry (getRt fun rt => rt.entityRegistry.keys)
  writeStats fun s => { s with entityNames := names }

/-- The owners that `stats` takes over from a manifest: the text entries of its `owners` list. -/
def manifestOwners (m : RuntimeManifest) : Option (List String) :=
  match m.config["owners"]? with
  | some (.sequence items) => some (items.filterMap Yaml.asStr)
  | _ => none

/-- `with_manifest_crud`. A pin that fails to move is only logged. -/
def withManifestCrud (env : Env) (f : RuntimeManifest → Except Error RuntimeManifest) :
    M Cid := do
  let oldCid ← currentRootCid
  let manifest ← dagGet env.kubo.manifests oldCid
  let manifest ← Proc.ofExcept (f manifest)
  let newCid ← dagPut env.kubo.manifests manifest
  let _ ← (pinUpdate env oldCid newCid).attempt
  updateStatsEntities
  writeStats fun s =>
    { s with rootCid := some newCid, owners := (manifestOwners manifest).getD s.owners }
  pure newCid

/-- What may stand in the place of `with_manifest_crud` in a handler. -/
abbrev ManifestWriter := (RuntimeManifest → Except Error RuntimeManifest) → M Cid

/-! ## Caches and plugins -/

/-- `load_acl_from_cid` of `src/acl.rs`. -/
def loadAclFromCid (env : Env) (cid : Cid) : M AclMap := do
  let acl ← withContext s!"fetching ACL document {cid}" (dagGet env.kubo.acls cid)
  pure (injectOwners acl)

theorem calm_loadAclFromCid {g : Lib.Guards Lock} (env : Env) (cid : Cid) :
    Proc.Calm g Idle (loadAclFromCid env cid) :=
  (calm_withContext _ (calm_dagGet _ _)).bind fun _ => Proc.calm_pure _

/-- `acl_cache_update`. -/
def aclCacheUpdate (env : Env) (cacheKey : String) (cid : Cid) : M Unit := do
  match ← (loadAclFromCid env cid).attempt with
  | .ok aclMap =>
    writing .aclCache (modifyRt fun rt =>
      { rt with aclCache := rt.aclCache.insert cacheKey aclMap })
  | .error _ => pure ()

/-- The kind of an entity about to be registered: from the registry, else from the manifest. The
registry's guard lives through the fetch. -/
def lookupKind (env : Env) (protocol : String) : M (Option KindNode) :=
  reading .kindRegistry do
    match ← getRt fun rt => rt.kindRegistry[protocol]? with
    | some k => pure (some k)
    | none =>
      match ← (loadManifest env).attempt with
      | .error _ => pure none
      | .ok manifest =>
        match manifest.kinds.getProtocol protocol with
        | none => pure none
        | some kindLink => do
          pure (← (dagGet env.kubo.kinds kindLink.cid).attempt).toOption

/-- The plugin that `register_entity_plugin` will insert: none if its kind is not found or it does
not load. -/
def pluginToRegister (env : Env) (name : String) (entityNode : EntityNode) :
    M (Option EntityPlugin) := do
  match ← lookupKind env entityNode.kind with
  | none => pure none
  | some kindNode =>
    match ← (load env name entityNode kindNode).attempt with
    | .ok (ep, _) => pure (some ep)
    | .error _ => pure none

/-- `register_entity_plugin`: every failure is only logged. -/
def registerEntityPlugin (env : Env) (name : String) (entityNode : EntityNode) : M Unit := do
  match ← pluginToRegister env name entityNode with
  | some ep =>
    writing .entityRegistry
      (modifyRt fun rt => { rt with entityRegistry := rt.entityRegistry.insert name ep })
  | none => pure ()

end MaRuntime
