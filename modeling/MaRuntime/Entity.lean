import Mathlib.Data.String.Basic
import Std.Data.ExtTreeMap
import MaRuntime.Lib.Cbor
import MaRuntime.Lib.Sorted
import MaRuntime.Text
import MaRuntime.Value

/-!
# Entities, kinds and the manifest (`src/entity.rs`)

The IPLD schema types (`KindTree`, `KindNode`, `EntityNode`, `RuntimeManifest`), the intra-runtime
message and the plugin I/O types. A `HashMap` or `BTreeMap` keyed by strings is a `StrMap`; the
nested kinds tree is an inductive type whose branches list their entries by ascending key.
-/

namespace MaRuntime

open Lib (Cbor)

/-- A map keyed by strings, extensional and enumerated by ascending key. -/
abbrev StrMap (α : Type) := Std.ExtTreeMap String α compare

section StrMap

variable {α : Type} {m : StrMap α} {key key' : String} {v : α}

theorem getElem?_insert_of_ne (h : key' ≠ key) : (m.insert key v)[key']? = m[key']? := by
  rw [Std.ExtTreeMap.getElem?_insert, if_neg (by simpa using Ne.symm h)]

theorem getElem?_erase_of_ne (h : key' ≠ key) : (m.erase key)[key']? = m[key']? := by
  rw [Std.ExtTreeMap.getElem?_erase, if_neg (by simpa using Ne.symm h)]

theorem mem_insert_iff : key' ∈ m.insert key v ↔ key' = key ∨ key' ∈ m := by
  rw [Std.ExtTreeMap.mem_insert, Std.LawfulEqCmp.compare_eq_iff_eq, eq_comm]

theorem mem_erase_iff : key' ∈ m.erase key ↔ key' ≠ key ∧ key' ∈ m := by
  rw [Std.ExtTreeMap.mem_erase, ne_eq, Std.LawfulEqCmp.compare_eq_iff_eq, eq_comm]

/-- The entries around one of them have other keys. -/
theorem toList_split {before after : List (String × α)}
    (hsplit : m.toList = before ++ (key, v) :: after) :
    (∀ e ∈ before, e.1 ≠ key) ∧ ∀ e ∈ after, e.1 ≠ key := by
  have hdistinct := m.distinct_keys_toList
  rw [hsplit, List.pairwise_append, List.pairwise_cons] at hdistinct
  obtain ⟨-, ⟨hafter, -⟩, hbefore⟩ := hdistinct
  exact ⟨fun e he => by simpa using hbefore e he _ List.mem_cons_self,
    fun e he heq => by simpa [heq] using hafter e he⟩

end StrMap

/-- A CID as the source holds it: its text. -/
abbrev Cid := String

/-! ## The kinds tree -/

/-- An IPLD link. -/
structure IpldLink where
  cid : Cid
  deriving DecidableEq, Repr

/-- A node of the kinds tree: a link to a published kind, or a branch. -/
inductive KindTreeNode where
  | leaf (link : IpldLink)
  | branch (entries : List (String × KindTreeNode))

namespace KindTreeNode

mutual

def decEq : (a b : KindTreeNode) → Decidable (a = b)
  | .leaf x, b => match b with
    | .leaf y => decidable_of_iff (x = y) ⟨congrArg _, fun h => by injection h⟩
    | .branch _ => isFalse nofun
  | .branch x, b => match b with
    | .branch y => @decidable_of_iff _ (x = y) ⟨congrArg _, fun h => by injection h⟩
        (decEqEntries x y)
    | .leaf _ => isFalse nofun

def decEqEntries : (x y : List (String × KindTreeNode)) → Decidable (x = y)
  | [], [] => isTrue rfl
  | [], _ :: _ => isFalse nofun
  | _ :: _, [] => isFalse nofun
  | (k, v) :: x, (k', v') :: y =>
    @decidable_of_iff _ ((k = k' ∧ v = v') ∧ x = y)
      ⟨fun h => by rw [h.1.1, h.1.2, h.2], fun h => by
        injection h with h h'; injection h with h1 h2; exact ⟨⟨h1, h2⟩, h'⟩⟩
      (@instDecidableAnd _ _ (@instDecidableAnd _ _ inferInstance (decEq v v')) (decEqEntries x y))

end

instance : DecidableEq KindTreeNode := decEq

end KindTreeNode

/-- `kind_tree_insert`. A leaf in the way of the path stays, and nothing is inserted. -/
def kindTreeInsert (link : IpldLink) :
    List String → List (String × KindTreeNode) → List (String × KindTreeNode)
  | [], map => map
  | [key], map => Lib.Sorted.insert key (.leaf link) map
  | key :: rest, map =>
    match map.lookup key with
    | none => Lib.Sorted.insert key (.branch (kindTreeInsert link rest [])) map
    | some (.branch inner) => Lib.Sorted.insert key (.branch (kindTreeInsert link rest inner)) map
    | some (.leaf _) => map

/-- `kind_tree_get`. -/
def kindTreeGet : List String → List (String × KindTreeNode) → Option IpldLink
  | [], _ => none
  | [key], map =>
    match map.lookup key with
    | some (.leaf link) => some link
    | _ => none
  | key :: rest, map =>
    match map.lookup key with
    | some (.branch inner) => kindTreeGet rest inner
    | _ => none

/-- `kind_tree_remove`: the map without the path, and whether something was removed. The last
segment is removed whether it is a leaf or a branch; a branch left empty is pruned. -/
def kindTreeRemove :
    List String → List (String × KindTreeNode) → List (String × KindTreeNode) × Bool
  | [], map => (map, false)
  | [key], map => (Lib.Sorted.erase key map, (map.lookup key).isSome)
  | key :: rest, map =>
    match map.lookup key with
    | some (.branch inner) =>
      let (inner', removed) := kindTreeRemove rest inner
      if inner'.isEmpty then (Lib.Sorted.erase key map, removed)
      else (Lib.Sorted.insert key (.branch inner') map, removed)
    | _ => (map, false)

mutual

/-- `kind_tree_collect_ids`, one entry. -/
def kindTreeNodeIds (path : String) : KindTreeNode → List String
  | .leaf _ => [path]
  | .branch inner => kindTreeCollectIds path inner

/-- `kind_tree_collect_ids`. -/
def kindTreeCollectIds (pre : String) : List (String × KindTreeNode) → List String
  | [] => []
  | (key, node) :: rest =>
    kindTreeNodeIds (pre ++ "/" ++ key) node ++ kindTreeCollectIds pre rest

end

/-- The nested kinds tree. -/
structure KindTree where
  entries : List (String × KindTreeNode) := []
  deriving DecidableEq

namespace KindTree

/-- The path of a protocol ID: `protocol.trim_start_matches('/').split('/')`. -/
def segments (protocol : String) : List String :=
  Text.split (Text.trimStartMatches protocol '/') '/'

/-- `KindTree::insert_protocol`. -/
def insertProtocol (t : KindTree) (protocol : String) (link : IpldLink) : KindTree :=
  ⟨kindTreeInsert link (segments protocol) t.entries⟩

/-- `KindTree::get_protocol`. -/
def getProtocol (t : KindTree) (protocol : String) : Option IpldLink :=
  kindTreeGet (segments protocol) t.entries

/-- `KindTree::remove_protocol`, the tree only: every caller drops the flag. -/
def removeProtocol (t : KindTree) (protocol : String) : KindTree :=
  ⟨(kindTreeRemove (segments protocol) t.entries).1⟩

/-- `KindTree::protocol_ids`. -/
def protocolIds (t : KindTree) : List String := kindTreeCollectIds "" t.entries

end KindTree

/-! ## Kinds and entities -/

/-- Which ABI a plugin kind implements. -/
inductive PluginKind where
  | stateless
  | stateful
  deriving DecidableEq, Repr

/-- How the runtime executes the plugin bytes of a kind. -/
inductive Evaluator where
  | extism
  | native
  | bash
  | lua
  deriving DecidableEq, Repr

/-- The `Debug` text of an evaluator. -/
def Evaluator.debug : Evaluator → String
  | .extism => "Extism"
  | .native => "Native"
  | .bash => "Bash"
  | .lua => "Lua"

/-- IPLD node of a kind. -/
structure KindNode where
  protocol : String
  api : List String
  hostFunctions : List String
  evaluator : Evaluator := .extism
  attributes : StrMap Json := ∅
  allow : List String := []
  deriving DecidableEq

namespace KindNode

/-- `KindNode::wasi`. -/
def wasi (k : KindNode) : Bool := (k.attributes["wasi"]?.bind Json.asBool).getD false

/-- `KindNode::plugin_kind`. -/
def pluginKind (k : KindNode) : PluginKind :=
  if (k.attributes["stateful"]?.bind Json.asBool).getD false then .stateful else .stateless

end KindNode

/-- Lifecycle state of an entity. -/
inductive Lifecycle where
  | new
  | running
  | error
  | stopped
  deriving DecidableEq, Repr

/-- The text of a lifecycle state, displayed and serialised alike. -/
def Lifecycle.text : Lifecycle → String
  | .new => "new"
  | .running => "running"
  | .error => "error"
  | .stopped => "stopped"

/-- IPLD node of an entity. -/
structure EntityNode where
  kind : String
  behaviour : Option IpldLink := none
  acl : String := ""
  state : Option IpldLink := none
  parent : Option String := none
  label : Option String := none
  lifecycle : Lifecycle := .running
  deriving DecidableEq, Repr

/-- `RESERVED_ENTITY_NAMES`. -/
def reservedEntityNames : List String := ["root", "acl", "scheduler", "logger", "runtime"]

/-- Root IPLD node of a runtime. -/
structure RuntimeManifest where
  acl : Option IpldLink := none
  acls : StrMap IpldLink := ∅
  protocol : String := ""
  kinds : KindTree := {}
  entities : StrMap IpldLink := ∅
  i18n : StrMap IpldLink := ∅
  config : StrMap Yaml := ∅
  deriving DecidableEq

/-- What a call makes of the manifest. -/
abbrev Mutation := RuntimeManifest → RuntimeManifest

/-! ## Messages and plugin I/O -/

/-- An intra-runtime message. -/
structure LocalMessage where
  id : String
  «from» : String
  «to» : String
  createdAt : UInt64
  expires : UInt64
  replyTo : Option String
  contentType : String
  content : Bytes
  deriving DecidableEq, Repr

/-- Context of an entity, handed to `init`. -/
structure EntityCtx where
  selfDid : String
  fragment : String
  kind : String
  parent : Option String
  lifecycle : Lifecycle
  deriving DecidableEq, Repr

/-- Input of `handle_cast` and `handle_call`. -/
structure CastInput where
  msg : LocalMessage
  deriving DecidableEq, Repr

/-- Payload of `init`. -/
structure InitPayload where
  ctx : EntityCtx
  state : Bytes
  deriving DecidableEq, Repr

/-- Input of the `ma_reply` host function. -/
structure ReplyRequest where
  msg : LocalMessage
  contentType : String
  content : Bytes
  deriving DecidableEq, Repr

/-- Outbound message queued by a plugin. -/
structure SendEnvelope where
  «to» : String
  contentType : String
  content : Bytes
  replyTo : Option String
  deriving DecidableEq, Repr

/-- A request to create an entity, queued by `ma_create_entity`. -/
structure CreateEntityRequest where
  fragment : String
  kindProtocol : String
  behaviourCid : Cid
  parent : String
  deriving DecidableEq, Repr

/-! ### What serde makes of them -/

/-- An optional text: `null` when absent. -/
def textOrNull : Option String → Cbor
  | some s => .text s
  | none => .null

/-- The map serde writes for a `LocalMessage`. -/
def LocalMessage.toCbor (m : LocalMessage) : Cbor :=
  .map [(.text "id", .text m.id), (.text "from", .text m.from), (.text "to", .text m.«to»),
    (.text "created_at", .unsigned m.createdAt), (.text "expires", .unsigned m.expires),
    (.text "reply_to", textOrNull m.replyTo), (.text "content_type", .text m.contentType),
    (.text "content", .bytes m.content)]

/-- The map serde writes for a `CastInput`. -/
def CastInput.toCbor (i : CastInput) : Cbor := .map [(.text "msg", i.msg.toCbor)]

/-- The map serde writes for an `EntityCtx`: an absent parent is skipped. -/
def EntityCtx.toCbor (c : EntityCtx) : Cbor :=
  .map ([(.text "self", .text c.selfDid), (.text "fragment", .text c.fragment),
      (.text "kind", .text c.kind)] ++
    (match c.parent with
      | some p => [(.text "parent", .text p)]
      | none => []) ++
    [(.text "lifecycle", .text c.lifecycle.text)])

/-- The map serde writes for an `InitPayload`: an empty state is skipped. -/
def InitPayload.toCbor (p : InitPayload) : Cbor :=
  .map ((.text "ctx", p.ctx.toCbor) ::
    (if p.state.isEmpty then [] else [(.text "state", .bytes p.state)]))

/-- The map serde writes for a link. -/
def IpldLink.toCbor (l : IpldLink) : Cbor := .map [(.text "/", .text l.cid)]

/-- The entries serde writes for an `EntityNode`: absent options are skipped. -/
def EntityNode.entries (e : EntityNode) : List (Cbor × Cbor) :=
  let link (key : String) (l : Option IpldLink) : List (Cbor × Cbor) :=
    (l.map fun l => (.text key, l.toCbor)).toList
  let text (key : String) (s : Option String) : List (Cbor × Cbor) :=
    (s.map fun s => (.text key, .text s)).toList
  [(.text "kind", .text e.kind)] ++ link "behaviour" e.behaviour ++ [(.text "acl", .text e.acl)] ++
    link "state" e.state ++ text "parent" e.parent ++ text "label" e.label ++
    [(.text "lifecycle", .text e.lifecycle.text)]

/-! ### What serde reads back -/

/-- A required text field. -/
def textField (entries : List (Cbor × Cbor)) (key : String) : Option String :=
  match Cbor.field entries key with
  | some (.text s) => some s
  | _ => none

/-- An optional text field: absent and `null` are `None`. -/
def optTextField (entries : List (Cbor × Cbor)) (key : String) : Option (Option String) :=
  match Cbor.field entries key with
  | none => some none
  | some .null => some none
  | some (.text s) => some (some s)
  | _ => none

/-- A required byte-string field. -/
def bytesField (entries : List (Cbor × Cbor)) (key : String) : Option Bytes :=
  match Cbor.field entries key with
  | some (.bytes b) => some b
  | _ => none

/-- A required `u64` field. -/
def u64Field (entries : List (Cbor × Cbor)) (key : String) : Option UInt64 :=
  match Cbor.field entries key with
  | some (.unsigned n) => some n
  | _ => none

/-- `LocalMessage` from a CBOR value. -/
def LocalMessage.ofCbor : Cbor → Option LocalMessage
  | .map e => do
    pure
      { id := ← textField e "id", «from» := ← textField e "from", «to» := ← textField e "to"
        createdAt := ← u64Field e "created_at", expires := ← u64Field e "expires"
        replyTo := ← optTextField e "reply_to", contentType := ← textField e "content_type"
        content := ← bytesField e "content" }
  | _ => none

/-- `SendEnvelope` from a CBOR value. -/
def SendEnvelope.ofCbor : Cbor → Option SendEnvelope
  | .map e => do
    pure
      { «to» := ← textField e "to", contentType := ← textField e "content_type"
        content := ← bytesField e "content", replyTo := ← optTextField e "reply_to" }
  | _ => none

/-- `ReplyRequest` from a CBOR value. -/
def ReplyRequest.ofCbor : Cbor → Option ReplyRequest
  | .map e => do
    pure
      { msg := ← (Cbor.field e "msg").bind LocalMessage.ofCbor
        contentType := ← textField e "content_type", content := ← bytesField e "content" }
  | _ => none

/-- The map serde writes for a `ReplyRequest`. -/
def ReplyRequest.toCbor (r : ReplyRequest) : Cbor :=
  .map [(.text "msg", r.msg.toCbor), (.text "content_type", .text r.contentType),
    (.text "content", .bytes r.content)]

/-- A `LocalMessage` survives the wire. -/
@[simp] theorem LocalMessage.ofCbor_toCbor (m : LocalMessage) :
    LocalMessage.ofCbor m.toCbor = some m := by
  obtain ⟨id, sender, recipient, createdAt, expires, replyTo, contentType, content⟩ := m
  cases replyTo <;> rfl

/-- A `ReplyRequest` survives the wire. -/
@[simp] theorem ReplyRequest.ofCbor_toCbor (r : ReplyRequest) :
    ReplyRequest.ofCbor r.toCbor = some r := by
  obtain ⟨msg, contentType, content⟩ := r
  have hmsg : (Cbor.field [(.text "msg", msg.toCbor), (.text "content_type", .text contentType),
      (.text "content", .bytes content)] "msg").bind LocalMessage.ofCbor = some msg :=
    LocalMessage.ofCbor_toCbor msg
  unfold ReplyRequest.toCbor ReplyRequest.ofCbor
  simp only [hmsg]
  rfl

end MaRuntime
