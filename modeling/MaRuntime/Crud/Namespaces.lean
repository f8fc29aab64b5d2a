import MaRuntime.Crud.Helpers

/-!
# The `acl` and `acls` namespaces (`src/crud/namespaces.rs`)

`:acls` is the library of named ACLs, cached for the entity gate. `:acl` is the transport gate.
-/

namespace MaRuntime

open Lib (Proc)

/-- The key of a named ACL in the cache. -/
def aclCacheKey (aclName : String) : String := s!"acls.{aclName}"

/-- `handle_root_acls`, where `write` stands for `with_manifest_crud`. -/
def handleRootAclsWith (write : ManifestWriter) (env : Env) (message : Message) (rest : List String)
    (args : Args) : M Unit :=
  match rest, args with
  | [], .get => do
    let manifest ← loadManifest env
    sendCrudReply env message (.okNames manifest.acls.keys)
  | [aclName], .get => do
    let manifest ← loadManifest env
    match manifest.acls[aclName]? with
    | some link => sendCrudReply env message (.text link.cid)
    | none => Proc.fail [s!"ACL not found: acls.{aclName}"]
  | [aclName], .put [.text cid] =>
    if !isCidv1 cid then sendCrudI18nError env message "cidv1-required"
    else do
      let newRoot ← write fun m => .ok { m with acls := m.acls.insert aclName ⟨cid⟩ }
      aclCacheUpdate env (aclCacheKey aclName) cid
      sendCrudReply env message (.okCid newRoot)
  | [aclName], .put [] => do
    let newRoot ← write fun m => .ok { m with acls := m.acls.erase aclName }
    writing .aclCache (modifyRt fun rt =>
      { rt with aclCache := rt.aclCache.erase (aclCacheKey aclName) })
    sendCrudReply env message (.okCid newRoot)
  | _, _ => Proc.fail ["unknown :acls operation"]

/-- `handle_root_acls`. -/
def handleRootAcls (env : Env) : Message → List String → Args → M Unit :=
  handleRootAclsWith (withManifestCrud env) env

/-- `handle_root_acl`, where `write` stands for `with_manifest_crud`. -/
def handleRootAclWith (write : ManifestWriter) (env : Env) (message : Message) (args : Args) :
    M Unit :=
  match args with
  | .get => do
    let manifest ← loadManifest env
    sendCrudReply env message (.text ((manifest.acl.map IpldLink.cid).getD ""))
  | .put [.text cid] =>
    if !isCidv1 cid then sendCrudI18nError env message "cidv1-required"
    else do
      let aclMap ← withContext s!"loading root ACL from {cid}" (loadAclFromCid env cid)
      let newRoot ← write fun m => .ok { m with acl := some ⟨cid⟩ }
      writing .rootAcl (modifyRt fun rt => { rt with rootAcl := aclMap })
      sendCrudReply env message (.okCid newRoot)
  | .put [] => sendCrudI18nError env message "refuse-delete-root"
  | _ => Proc.fail ["unknown :acl operation"]

/-- `handle_root_acl`. -/
def handleRootAcl (env : Env) : Message → Args → M Unit :=
  handleRootAclWith (withManifestCrud env) env

end MaRuntime
