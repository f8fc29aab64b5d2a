import MaRuntime.Lib.CborCodec
import MaRuntime.Main

/-!
# Environments over finite tables

An environment whose Kubo knows exactly the listed documents, whose codec is CBOR's own, and whose
`ma_core` reads ACLs as its interface says (`tableCore_lawful`). No guest module is known to it
unless one is given. It is what the development evaluates concrete runs against.
-/

namespace MaRuntime

open Lib (ContentStore Interaction)

deriving instance DecidableEq for Args

/-- `normalize_principal` and `check_cap` as their interface describes them: the fragment of a DID
is dropped, then the caller's entry decides, else the wildcard's. -/
def tableCore : MaCore where
  normalizePrincipal p :=
    if Text.startsWith p "did:" then ((Text.splitOnce p '#').map Prod.fst).getD p else p
  checkCap acl caller cap :=
    let normalized :=
      if Text.startsWith caller "did:" then ((Text.splitOnce caller '#').map Prod.fst).getD caller
      else caller
    (acl[normalized]? <|> acl["*"]?).any (·.grants cap)

theorem tableCore_lawful : tableCore.Lawful := fun _ _ _ => rfl

/-- Of ACLs without the entry `#`. -/
theorem tableCore_looksUp :
    tableCore.LooksUp fun caller => [tableCore.normalizePrincipal caller, "*"] where
  decides acl caller cap := by
    show (acl[tableCore.normalizePrincipal caller]? <|> acl["*"]?).any _ = _
    cases hown : acl[tableCore.normalizePrincipal caller]? with
    | some entry => simp [hown]
    | none => cases hwild : acl["*"]? <;> simp [hown, hwild]
  remote _ _ := rfl
  entity caller _ key hkey := by
    rcases List.mem_cons.mp hkey with hown | hwild
    · exact .inl hown
    · exact .inr (.inr (List.mem_singleton.mp hwild))

/-- The documents Kubo holds, by CID. -/
structure Tables where
  manifests : List (Cid × RuntimeManifest) := []
  entities : List (Cid × EntityNode) := []
  kinds : List (Cid × KindNode) := []
  acls : List (Cid × AclMap) := []
  blobs : List (Cid × Bytes) := []
  /-- The floats that are read as other ones. -/
  floats : List (UInt64 × UInt64) := []

/-- Kubo over the tables. -/
def Tables.kubo (t : Tables) : Kubo where
  manifests := .ofList t.manifests ["not found"]
  entities := .ofList t.entities ["not found"]
  kinds := .ofList t.kinds ["not found"]
  acls := .ofList t.acls ["not found"]
  blobs := .ofList t.blobs ["not found"]
  resolve _ _ := .error ["not found"]
  pin _ := .ok ()
  publishDocument _ _ := .ok none
  dagPutCbor _ _ := .error ["not found"]

/-- The environment over the tables. Every reply is delivered and every file is written. -/
def Tables.env (t : Tables) : Env where
  ourDid := "did:ma:runtime"
  core := tableCore
  codec := Lib.rfcCodec
  kubo := t.kubo
  instantiate _ _ _ _ := .error ["unknown module"]
  guest _ _ _ _ := .done (.error "unknown module", [])
  generateFragment _ := "a1b2c3d4"
  now _ := 0
  parseDid s := Text.stripPrefix s "did:ma:"
  deliver _ := .sent
  replayCheck _ _ := .ok ()
  validateIpfsRequest _ := .error ["unknown message type"]
  writeFile _ := .ok ()
  debugValue _ := ""
  emptyConfig := .error ["kubo_rpc_url is missing"]
  readFloat bits := .float ((t.floats.lookup bits).getD bits)
  messageTypeRpc := "application/x-ma-rpc"
  messageTypeRpcReply := "application/x-ma-rpc-reply"
  messageTypeCrud := "application/x-ma-crud"
  messageTypeCrudReply := "application/x-ma-crud-reply"
  contentTypeTerm := "application/x-ma-term"

/-- The environment over the tables, where every module instantiates. -/
def Tables.live (t : Tables) : Env :=
  { t.env with instantiate := fun _ _ _ _ => .ok [] }

/-- A config without a file. -/
def plainConfig : Config where
  kuboRpcUrl := "http://127.0.0.1:5001"
  kuboKeyAlias := "ma"
  logLevel := "info"
  logLevelStdout := "info"
  didResolverPositiveTtlSecs := 60
  didResolverNegativeTtlSecs := 10
  logFile := none
  configPath := none
  extra := ∅

/-- A cell no plugin was given. -/
def emptyCell : PluginCell where
  plugin := ⟨[], []⟩
  hostFns := []
  fragment := ""
  state := .new []
  createQueue := []
  deleteQueue := []

/-- The daemon after startup with a plain config, from a root CID or from the manifest it
bootstraps. -/
def started (env : Env) (rootCid : Option Cid) (cliOwners : List String) : World :=
  booted env plainConfig ∅ (fun _ => emptyCell) rootCid cliOwners

/-- A CRUD message with the payload `[first, second]`. -/
def crudMessage (sender : String) (first : String) (second : Lib.Cbor) : Message where
  id := "m1"
  «from» := sender
  «to» := "did:ma:runtime"
  messageType := "application/x-ma-crud"
  contentType := "application/cbor"
  createdAt := 0
  exp := 0
  replyTo := none
  payload := Lib.rfcCodec.encode (.array [.text first, second])

end MaRuntime
