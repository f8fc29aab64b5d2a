import MaRuntime.KindTree
import MaRuntime.World

/-!
# The bootstrap YAML (`src/bootstrap.rs`)

`buildManifest` publishes the nodes that a YAML file describes and the manifest over them;
`exportBootstrapYaml` goes the other way. The YAML schema names fewer fields than the nodes have.
-/

namespace MaRuntime

open Lib (Proc)

/-! ## The schema -/

/-- `BootstrapKind`. -/
structure BootstrapKind where
  api : List String
  hostFunctions : List String
  evaluator : Evaluator
  attributes : StrMap Json
  allow : List String
  deriving DecidableEq

/-- `BootstrapEntity`: a pre-published node, or an inline descriptor. -/
inductive BootstrapEntity where
  | cid (cid : Cid)
  | inline (kind : String) (behaviour : Option IpldLink) (acl : String) (state : Option IpldLink)
  deriving DecidableEq

/-- `BootstrapRuntime`. -/
structure BootstrapRuntime where
  kinds : StrMap BootstrapKind := ∅
  acl : Option AclMap := none
  entities : StrMap BootstrapEntity := ∅
  acls : StrMap AclMap := ∅
  deriving DecidableEq

/-- `serde_yaml` on a `BootstrapYaml`: what was written is read back. -/
structure BootstrapYamlCodec where
  toString : BootstrapRuntime → Except Error String
  fromStr : String → Except Error BootstrapRuntime
  fromStr_toString : ∀ {cfg text}, toString cfg = .ok text → fromStr text = .ok cfg

/-- The node of a kind. -/
def BootstrapKind.node (bk : BootstrapKind) (protocol : String) : KindNode :=
  { protocol, api := bk.api, hostFunctions := bk.hostFunctions, evaluator := bk.evaluator
    attributes := bk.attributes, allow := bk.allow }

/-- The descriptor of a kind. -/
def BootstrapKind.ofNode (node : KindNode) : BootstrapKind :=
  { api := node.api, hostFunctions := node.hostFunctions, evaluator := node.evaluator
    attributes := node.attributes, allow := node.allow }

/-- The node of an inline descriptor. -/
def inlineNode (kind : String) (behaviour : Option IpldLink) (acl : String)
    (state : Option IpldLink) : EntityNode :=
  { kind, behaviour, acl, state, parent := none, label := none, lifecycle := .new }

/-- The descriptor of an entity. -/
def BootstrapEntity.ofNode (node : EntityNode) : BootstrapEntity :=
  .inline node.kind node.behaviour node.acl node.state

/-! ## Bootstrap -/

/-- The entry of a map: `map.insert(key, f(key, value).await?)`. -/
def insertFrom {α β : Type} (f : String → α → M β) (map : StrMap β) (entry : String × α) :
    M (StrMap β) := do
  pure (map.insert entry.1 (← f entry.1 entry.2))

/-- Publish a kind node. -/
def publishKind (env : Env) (kinds : KindTree) (entry : String × BootstrapKind) : M KindTree := do
  let protocol := entry.1
  let cid ← withContext s!"dag_put kind {protocol}"
    (dagPut env.kubo.kinds (entry.2.node protocol))
  pure (kinds.insertProtocol protocol ⟨cid⟩)

/-- Publish an entity node, unless it is published already. -/
def publishEntity (env : Env) (name : String) : BootstrapEntity → M IpldLink
  | .cid cid => pure ⟨cid⟩
  | .inline kind behaviour acl state => do
    pure ⟨← withContext s!"dag_put entity {name}"
      (dagPut env.kubo.entities (inlineNode kind behaviour acl state))⟩

/-- Publish a named ACL. -/
def publishAcl (env : Env) (name : String) (acl : AclMap) : M IpldLink := do
  pure ⟨← withContext s!"dag_put acl {name}" (dagPut env.kubo.acls acl)⟩

/-- Pin the new root, by a swap where there was one before. -/
def pinRoot (env : Env) (oldRootCid : Option Cid) (rootCid : Cid) : M Unit :=
  match oldRootCid with
  | some old => do
    let _ ← (pinUpdate env old rootCid).attempt
  | none => withContext "pinning new root manifest" (pinAdd env rootCid)

/-- `build_manifest`; `langs` is `i18n::bundled_lang_map()`. -/
def buildManifest (env : Env) (langs : StrMap IpldLink) (cfg : BootstrapRuntime)
    (runtimeConfig : StrMap Yaml) (activeLang : String) (oldRootCid : Option Cid) : M Cid := do
  let kinds ← Proc.fold cfg.kinds.toList ({} : KindTree) (publishKind env)
  let entities ← Proc.fold cfg.entities.toList (∅ : StrMap IpldLink)
    (insertFrom (publishEntity env))
  let acls ← Proc.fold cfg.acls.toList (∅ : StrMap IpldLink) (insertFrom (publishAcl env))
  let aclCid ← withContext "dag_put root acl" (dagPut env.kubo.acls (cfg.acl.getD ∅))
  let config := if langs.contains activeLang then runtimeConfig.insert "i18n" (.string activeLang)
    else runtimeConfig
  let root : RuntimeManifest :=
    { acl := some ⟨aclCid⟩, acls, protocol := "/ma/runtime/0.1.0", kinds, entities, i18n := langs
      config }
  let rootCid ← withContext "dag_put root manifest" (dagPut env.kubo.manifests root)
  pinRoot env oldRootCid rootCid
  pure rootCid

/-- `run_bootstrap`, on the text of the file. -/
def runBootstrap (env : Env) (codec : BootstrapYamlCodec) (langs : StrMap IpldLink) (text : String)
    (runtimeConfig : StrMap Yaml) (activeLang : String) (oldRootCid : Option Cid) : M Cid := do
  let cfg ← withContext "parsing bootstrap YAML" (Proc.ofExcept (codec.fromStr text))
  buildManifest env langs cfg runtimeConfig activeLang oldRootCid

/-! ## Export -/

/-- `KindTree::iter_protocols`. -/
def KindTree.iterProtocols (t : KindTree) : List (String × IpldLink) :=
  t.protocolIds.filterMap fun id => (t.getProtocol id).map fun link => (id, link)

section Enumeration

variable {t : KindTree}

theorem mem_iterProtocols {id : String} {link : IpldLink} :
    (id, link) ∈ t.iterProtocols ↔ id ∈ t.protocolIds ∧ t.getProtocol id = some link := by
  unfold KindTree.iterProtocols
  rw [List.mem_filterMap]
  constructor
  · rintro ⟨id', hid, hmap⟩
    obtain ⟨link', hget, heq⟩ := Option.map_eq_some_iff.mp hmap
    cases heq
    exact ⟨hid, hget⟩
  · rintro ⟨hid, hget⟩
    exact ⟨id, hid, by rw [hget]; rfl⟩

/-- A bound protocol is listed under its ID. -/
theorem protocolId_mem_iterProtocols {protocol : String} {link : IpldLink}
    (h : t.getProtocol protocol = some link) : (protocolId protocol, link) ∈ t.iterProtocols := by
  refine mem_iterProtocols.mpr ⟨mem_kindTreeCollectIds_of_get _ h, ?_⟩
  rwa [getProtocol_congr (segments_protocolId protocol)]

end Enumeration

/-- Fetch a kind. -/
def exportKind (env : Env) (protocol : String) (link : IpldLink) : M BootstrapKind := do
  pure (.ofNode (← withContext s!"fetching kind {protocol}" (dagGet env.kubo.kinds link.cid)))

/-- Fetch an entity. -/
def exportEntity (env : Env) (name : String) (link : IpldLink) : M BootstrapEntity := do
  pure (.ofNode (← withContext s!"fetching entity {name}" (dagGet env.kubo.entities link.cid)))

/-- Fetch a named ACL. -/
def exportAcl (env : Env) (name : String) (link : IpldLink) : M AclMap :=
  withContext s!"fetching acl {name}" (dagGet env.kubo.acls link.cid)

/-- Fetch the root ACL. -/
def exportRootAcl (env : Env) : Option IpldLink → M (Option AclMap)
  | some link => do
    pure (some (← withContext "fetching root acl" (dagGet env.kubo.acls link.cid)))
  | none => pure none

/-- `export_bootstrap_yaml`, up to the text. -/
def exportBootstrap (env : Env) (rootCid : Cid) : M BootstrapRuntime := do
  let manifest ← withContext "fetching root manifest" (dagGet env.kubo.manifests rootCid)
  let kinds ← Proc.fold manifest.kinds.iterProtocols (∅ : StrMap BootstrapKind)
    (insertFrom (exportKind env))
  let entities ← Proc.fold manifest.entities.toList (∅ : StrMap BootstrapEntity)
    (insertFrom (exportEntity env))
  let acls ← Proc.fold manifest.acls.toList (∅ : StrMap AclMap) (insertFrom (exportAcl env))
  let acl ← exportRootAcl env manifest.acl
  pure { kinds, acl, entities, acls }

/-- `export_bootstrap_yaml`. -/
def exportBootstrapYaml (env : Env) (codec : BootstrapYamlCodec) (rootCid : Cid) : M String := do
  let cfg ← exportBootstrap env rootCid
  withContext "serializing bootstrap YAML" (Proc.ofExcept (codec.toString cfg))

/-! ## What a run yields -/

section Runs

variable {env : Env} {g : Lib.Guards Lock}

/-- **A map filled entry by entry** holds, under the keys of the list, what the entries gave. -/
theorem fold_insertFrom_ok {α β : Type} {f : String → α → M β} {R : String → α → β → Prop}
    (hf : ∀ {k a w b w'}, f k a g w = (.ok b, w') → R k a b) :
    ∀ (l : List (String × α)) {t t' : StrMap β} {w w' : World},
      Proc.fold l t (insertFrom f) g w = (.ok t', w') →
      (∀ (k : String) (b : β), t'[k]? = some b → t[k]? = some b ∨ ∃ a, (k, a) ∈ l ∧ R k a b) ∧
        ∀ k : String, k ∈ t ∨ (∃ a, (k, a) ∈ l) → k ∈ t'
  | [], t, t', w, w', h => by
    simp only [Proc.fold, Proc.pure_run, Prod.mk.injEq, Lib.Outcome.ok.injEq] at h
    obtain ⟨rfl, -⟩ := h
    exact ⟨fun _ _ h => .inl h, fun k h => h.elim id fun ⟨_, h⟩ => absurd h (by simp)⟩
  | (key, a) :: l, t, t', w, w', h => by
    obtain ⟨t1, w1, h1, h⟩ := Proc.bind_ok h
    obtain ⟨b, w2, hb, h1⟩ := Proc.bind_ok h1
    simp only [Proc.pure_run, Prod.mk.injEq, Lib.Outcome.ok.injEq] at h1
    obtain ⟨rfl, rfl⟩ := h1
    obtain ⟨hfrom, hkeys⟩ := fold_insertFrom_ok hf l h
    refine ⟨fun k b' hk => ?_, fun k hk => hkeys k ?_⟩
    · rcases hfrom k b' hk with hold | ⟨a', hmem, hR⟩
      · rw [Std.ExtTreeMap.getElem?_insert] at hold
        split at hold
        · rename_i heq
          obtain rfl := Std.LawfulEqCmp.compare_eq_iff_eq.mp heq
          obtain rfl := Option.some.inj hold
          exact .inr ⟨a, List.mem_cons_self, hf hb⟩
        · exact .inl hold
      · exact .inr ⟨a', List.mem_cons_of_mem _ hmem, hR⟩
    · rcases hk with hold | ⟨a', hmem⟩
      · exact .inl (Std.ExtTreeMap.mem_insert.mpr (.inr hold))
      · rcases List.mem_cons.mp hmem with heq | hmem
        · cases heq
          exact .inl Std.ExtTreeMap.mem_insert_self
        · exact .inr ⟨a', hmem⟩

/-- A map filled from the entries of another. -/
theorem fold_map_ok {α β : Type} {f : String → α → M β} {R : String → α → β → Prop}
    (hf : ∀ {k a w b w'}, f k a g w = (.ok b, w') → R k a b) {s : StrMap α} {t : StrMap β}
    {w w' : World} (h : Proc.fold s.toList (∅ : StrMap β) (insertFrom f) g w = (.ok t, w'))
    (k : String) : Option.Rel (R k) s[k]? t[k]? := by
  obtain ⟨hfrom, hkeys⟩ := fold_insertFrom_ok hf s.toList h
  cases hs : s[k]? with
  | none =>
    cases ht : t[k]? with
    | none => exact .none
    | some b =>
      rcases hfrom k b ht with hempty | ⟨a, hmem, -⟩
      · exact absurd hempty (by simp)
      · rw [Std.ExtTreeMap.mem_toList_iff_getElem?_eq_some, hs] at hmem
        exact absurd hmem (by simp)
  | some a =>
    have hmem : (k, a) ∈ s.toList := Std.ExtTreeMap.mem_toList_iff_getElem?_eq_some.mpr hs
    have hk := Std.ExtTreeMap.mem_iff_isSome_getElem?.mp (hkeys k (.inr ⟨a, hmem⟩))
    obtain ⟨b, hb⟩ := Option.isSome_iff_exists.mp hk
    rcases hfrom k b hb with hempty | ⟨a', hmem', hR⟩
    · exact absurd hempty (by simp)
    · rw [Std.ExtTreeMap.mem_toList_iff_getElem?_eq_some, hs] at hmem'
      obtain rfl := Option.some.inj hmem'
      rw [hb]
      exact .some hR

end Runs

end MaRuntime
