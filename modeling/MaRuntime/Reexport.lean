import MaRuntime.BootstrapYaml
import MaRuntime.FiniteEnv
import MaRuntime.ManifestHistory

/-!
# Export and bootstrap

An export of the manifest is a bootstrap file, "so it can be edited and re-bootstrapped". The YAML
has no field for an entity's parent and label, and takes the protocol of a kind from its key.

* `ReachableManifest`: what bootstrap, CRUD and creations make; `reachable_shaped` is what they
  keep.
* `Exports.reexported`: what a bootstrap from an export makes of the nodes.
* **`reexport_iff`**: nothing is lost, iff no entity has a parent or a label and every kind is bound
  under its own protocol.
* `reexport_loses_parent`: an entity that CRUD binds with its parent comes back without it.
-/

namespace MaRuntime

open Lib (Cbor Proc Run)

/-! ## Manifests and their nodes -/

/-- The kind node bound under a protocol; `some none` is a link that cannot be read. -/
def kindAt (env : Env) (m : RuntimeManifest) (protocol : String) : Option (Option KindNode) :=
  (m.kinds.getProtocol protocol).map fun link => env.kubo.kinds.denotes link.cid

/-- The entity node bound under a name. -/
def entityAt (env : Env) (m : RuntimeManifest) (name : String) : Option (Option EntityNode) :=
  m.entities[name]?.map fun link => env.kubo.entities.denotes link.cid

/-- The ACL bound under a name. -/
def aclAt (env : Env) (m : RuntimeManifest) (name : String) : Option (Option AclMap) :=
  m.acls[name]?.map fun link => env.kubo.acls.denotes link.cid

/-- The root ACL. -/
def rootAclAt (env : Env) (m : RuntimeManifest) : Option (Option AclMap) :=
  m.acl.map fun link => env.kubo.acls.denotes link.cid

/-- A node up to its lifecycle: the kind, the behaviour, the ACL, the state, the parent and the
label. -/
def EntityNode.described (node : EntityNode) : EntityNode := { node with lifecycle := .new }

/-- **The second manifest binds what the first one does**, entities up to their lifecycle. -/
structure Preserved (env : Env) (m m' : RuntimeManifest) : Prop where
  kinds : ∀ protocol, kindAt env m' protocol = kindAt env m protocol
  entities : ∀ name, (entityAt env m' name).map (Option.map EntityNode.described) =
    (entityAt env m name).map (Option.map EntityNode.described)
  acls : ∀ name, aclAt env m' name = aclAt env m name
  acl : rootAclAt env m' = rootAclAt env m

/-- No entity has a parent or a label, and every kind is bound under its own protocol. -/
structure Portable (env : Env) (m : RuntimeManifest) : Prop where
  entities : ∀ name node, entityAt env m name = some (some node) →
    node.parent = none ∧ node.label = none
  kinds : ∀ protocol node, kindAt env m protocol = some (some node) →
    node.protocol = protocolId protocol

/-- What a bootstrap from an export makes of the nodes. -/
structure Reexported (env : Env) (m m' : RuntimeManifest) : Prop where
  kinds : ∀ protocol, kindAt env m' protocol =
    (kindAt env m protocol).map
      (Option.map fun node => { node with protocol := protocolId protocol })
  entities : ∀ name, entityAt env m' name = (entityAt env m name).map
    (Option.map fun node => inlineNode node.kind node.behaviour node.acl node.state)
  acls : ∀ name, aclAt env m' name = aclAt env m name
  acl : rootAclAt env m' = rootAclAt env m

/-- Every link of the manifest can be read. -/
structure Readable (env : Env) (m : RuntimeManifest) : Prop where
  kinds : ∀ protocol, kindAt env m protocol ≠ some none
  entities : ∀ name, entityAt env m name ≠ some none

section Laws

variable {env : Env} {m m' : RuntimeManifest}

theorem inlineNode_described {node : EntityNode} :
    (inlineNode node.kind node.behaviour node.acl node.state).described = node.described ↔
      node.parent = none ∧ node.label = none := by
  obtain ⟨kind, behaviour, acl, state, parent, label, lifecycle⟩ := node
  simp only [inlineNode, EntityNode.described, EntityNode.mk.injEq, true_and, and_true]
  exact ⟨fun h => ⟨h.1.symm, h.2.symm⟩, fun h => ⟨h.1.symm, h.2.symm⟩⟩

/-- **When nothing is lost.** -/
theorem Reexported.preserved_iff (h : Reexported env m m') (hread : Readable env m) :
    Preserved env m m' ↔ Portable env m := by
  constructor
  · intro hp
    refine ⟨fun name node hnode => ?_, fun protocol node hnode => ?_⟩
    · have hsame := hp.entities name
      rw [h.entities, hnode] at hsame
      exact inlineNode_described.mp (Option.some.inj (Option.some.inj hsame))
    · have hsame := hp.kinds protocol
      rw [h.kinds, hnode] at hsame
      generalize protocolId protocol = id at hsame ⊢
      exact (congrArg KindNode.protocol (Option.some.inj (Option.some.inj hsame))).symm
  · intro hp
    refine ⟨fun protocol => ?_, fun name => ?_, h.acls, h.acl⟩
    · rw [h.kinds]
      cases hkind : kindAt env m protocol with
      | none => rfl
      | some o =>
        cases o with
        | none => exact absurd hkind (hread.kinds protocol)
        | some node =>
          rw [← hp.kinds protocol node hkind]
          rfl
    · rw [h.entities]
      cases hentity : entityAt env m name with
      | none => rfl
      | some o =>
        cases o with
        | none => exact absurd hentity (hread.entities name)
        | some node =>
          exact congrArg (some ∘ some) (inlineNode_described.mpr (hp.entities name node hentity))

end Laws

/-! ## The kinds of a bootstrap -/

/-- Every listed ID is the one that its path gives. -/
def KindTree.Canonical (t : KindTree) : Prop := ∀ id ∈ t.protocolIds, protocolId id = id

section Kinds

variable {env : Env} {t : KindTree}

theorem KindTree.Canonical.insert (h : t.Canonical) (protocol : String) (link : IpldLink) :
    (t.insertProtocol protocol link).Canonical := by
  intro id hid
  rw [KindTree.protocolIds, KindTree.entries_insertProtocol] at hid
  rcases collectIds_insert _ hid with heq | hold
  · rw [heq]
    exact congrArg (joined "") (segments_protocolId protocol)
  · exact h id hold

theorem KindTree.Canonical.remove (h : t.Canonical) (protocol : String) :
    (t.removeProtocol protocol).Canonical := by
  intro id hid
  rw [KindTree.protocolIds, KindTree.entries_removeProtocol] at hid
  exact h id (collectIds_remove _ hid)

theorem KindTree.Canonical.empty : KindTree.Canonical {} :=
  fun _ h => absurd h (by simp [KindTree.protocolIds, kindTreeCollectIds])

/-- Listed IDs are not in each other's way. -/
theorem KindTree.Canonical.free (h : t.Canonical) {id id' : String} {link link' : IpldLink}
    (hid : (id, link) ∈ t.iterProtocols) (hid' : (id', link') ∈ t.iterProtocols)
    (hpre : KindTree.segments id <+: KindTree.segments id') : id = id' := by
  obtain ⟨hmem, hget⟩ := mem_iterProtocols.mp hid
  obtain ⟨hmem', hget'⟩ := mem_iterProtocols.mp hid'
  have hsegments : KindTree.segments id' = KindTree.segments id := by
    by_contra hne
    have hnone := kindTreeGet_below_leaf _ _ hget hpre hne
    rw [show kindTreeGet _ _ = _ from hget'] at hnone
    exact absurd hnone (by simp)
  rw [← h id hmem, ← h id' hmem']
  exact congrArg (joined "") hsegments.symm

/-- The tree binds the listed descriptors, each at the path of its ID, and nothing else. -/
def Binds (env : Env) (done : List (String × BootstrapKind)) (t : KindTree) : Prop :=
  ∀ path, (∀ link, kindTreeGet path t.entries = some link → ∃ id bk, (id, bk) ∈ done ∧
      KindTree.segments id = path ∧ env.kubo.kinds.denotes link.cid = some (bk.node id)) ∧
    ∀ id bk, (id, bk) ∈ done → KindTree.segments id = path →
      ∃ link, kindTreeGet path t.entries = some link

/-- One more descriptor, whose path no other one is in the way of. -/
theorem Binds.insert {done : List (String × BootstrapKind)} {id : String} {bk : BootstrapKind}
    {cid : Cid} (h : Binds env done t)
    (hfree : ∀ e ∈ done, KindTree.segments e.1 <+: KindTree.segments id ∨
      KindTree.segments id <+: KindTree.segments e.1 → e.1 = id)
    (hcid : env.kubo.kinds.denotes cid = some (bk.node id)) :
    Binds env (done ++ [(id, bk)]) (t.insertProtocol id ⟨cid⟩) := by
  intro path
  by_cases hpath : KindTree.segments id = path
  · subst hpath
    have hself : kindTreeGet (KindTree.segments id) (t.insertProtocol id ⟨cid⟩).entries =
        some ⟨cid⟩ := by
      rw [KindTree.entries_insertProtocol]
      refine kindTreeGet_insert_self _ (segments_ne_nil id) fun path' hpre hne => ?_
      by_contra hbound
      obtain ⟨link, hlink⟩ := Option.ne_none_iff_exists'.mp hbound
      obtain ⟨id', bk', hmem, rfl, -⟩ := (h path').1 link hlink
      exact hne (congrArg KindTree.segments (hfree (id', bk') hmem (.inl hpre)))
    refine ⟨fun link hlink => ?_, fun _ _ _ _ => ⟨_, hself⟩⟩
    obtain rfl := Option.some.inj (hself.symm.trans hlink)
    exact ⟨id, bk, List.mem_append_right _ List.mem_cons_self, rfl, hcid⟩
  · have later {id' : String} {bk' : BootstrapKind} (hmem : (id', bk') ∈ done ++ [(id, bk)])
        (hid' : KindTree.segments id' = path) : (id', bk') ∈ done := by
      rcases List.mem_append.mp hmem with hold | hnew
      · exact hold
      · cases List.mem_singleton.mp hnew
        exact absurd hid' hpath
    by_cases hpre : KindTree.segments id <+: path
    · have hnone : kindTreeGet path (t.insertProtocol id ⟨cid⟩).entries = none := by
        rw [KindTree.entries_insertProtocol]
        exact kindTreeGet_insert_below _ _ (segments_ne_nil id) hpre fun h => hpath h.symm
      refine ⟨fun link hlink => absurd (hnone.symm.trans hlink) (by simp),
        fun id' bk' hmem hid' => ?_⟩
      subst hid'
      have heq := hfree (id', bk') (later hmem rfl) (.inr hpre)
      exact absurd (congrArg KindTree.segments heq).symm hpath
    · have hkept : kindTreeGet path (t.insertProtocol id ⟨cid⟩).entries =
          kindTreeGet path t.entries := by
        rw [KindTree.entries_insertProtocol]
        exact kindTreeGet_insert_of_not_isPrefix _ _ hpre
      rw [hkept]
      refine ⟨fun link hlink => ?_, fun id' bk' hmem hid' =>
        (h path).2 id' bk' (later hmem hid') hid'⟩
      obtain ⟨id', bk', hmem, hrest⟩ := (h path).1 link hlink
      exact ⟨id', bk', List.mem_append_left _ hmem, hrest⟩

/-- **The kinds loop of a bootstrap** binds its descriptors, if no ID is in another's way. -/
theorem publishKinds_ok {g : Lib.Guards Lock} : ∀ (rest done : List (String × BootstrapKind))
    {t t' : KindTree} {w w' : World},
    (∀ e ∈ done ++ rest, ∀ e' ∈ done ++ rest,
      KindTree.segments e.1 <+: KindTree.segments e'.1 → e.1 = e'.1) →
    Binds env done t → Proc.fold rest t (publishKind env) g w = (.ok t', w') →
    Binds env (done ++ rest) t'
  | [], done, t, t', w, w', _, h, hrun => by
    simp only [Proc.fold, Proc.pure_run, Prod.mk.injEq, Lib.Outcome.ok.injEq] at hrun
    obtain ⟨rfl, -⟩ := hrun
    rwa [List.append_nil]
  | (id, bk) :: rest, done, t, t', w, w', hfree, h, hrun => by
    obtain ⟨t1, w1, h1, hrun⟩ := Proc.bind_ok hrun
    obtain ⟨cid, w2, hput, h1⟩ := Proc.bind_ok h1
    simp only [Proc.pure_run, Prod.mk.injEq, Lib.Outcome.ok.injEq] at h1
    obtain ⟨rfl, rfl⟩ := h1
    have hcid := dagPut_ok (withContext_ok hput)
    have hid : (id, bk) ∈ done ++ (id, bk) :: rest := List.mem_append_right _ List.mem_cons_self
    have hstep := @Binds.insert env t done id bk cid h (fun e he hpre => by
      have hmem := List.mem_append_left ((id, bk) :: rest) he
      rcases hpre with hpre | hpre
      · exact hfree e hmem (id, bk) hid hpre
      · exact (hfree (id, bk) hid e hmem hpre).symm) hcid
    have hall := publishKinds_ok rest (done ++ [(id, bk)])
      (by rwa [List.append_assoc, List.singleton_append]) hstep hrun
    rwa [List.append_assoc, List.singleton_append] at hall

theorem publishKinds_canonical {g : Lib.Guards Lock} : ∀ (rest : List (String × BootstrapKind))
    {t t' : KindTree} {w w' : World}, t.Canonical →
    Proc.fold rest t (publishKind env) g w = (.ok t', w') → t'.Canonical
  | [], _, _, _, _, h, hrun => by
    simp only [Proc.fold, Proc.pure_run, Prod.mk.injEq, Lib.Outcome.ok.injEq] at hrun
    obtain ⟨rfl, -⟩ := hrun
    exact h
  | (id, bk) :: rest, t, t', w, w', h, hrun => by
    obtain ⟨t1, w1, h1, hrun⟩ := Proc.bind_ok hrun
    obtain ⟨cid, w2, hput, h1⟩ := Proc.bind_ok h1
    simp only [Proc.pure_run, Prod.mk.injEq, Lib.Outcome.ok.injEq] at h1
    obtain ⟨rfl, rfl⟩ := h1
    exact publishKinds_canonical rest (h.insert id ⟨cid⟩) hrun

end Kinds

/-! ## What an export says -/

/-- The link is to the ACL. -/
def LinksAcl (env : Env) (link : IpldLink) (acl : AclMap) : Prop :=
  env.kubo.acls.denotes link.cid = some acl

/-- The link is to a node with the descriptor. -/
def Describes (env : Env) (link : IpldLink) (be : BootstrapEntity) : Prop :=
  ∃ node, env.kubo.entities.denotes link.cid = some node ∧ be = .ofNode node

/-- The link is to what the descriptor says. -/
def Publishes (env : Env) (be : BootstrapEntity) (link : IpldLink) : Prop :=
  match be with
  | .cid cid => link = ⟨cid⟩
  | .inline kind behaviour acl state => env.kubo.entities.denotes link.cid =
      some (inlineNode kind behaviour acl state)

/-- The descriptors are those of the nodes. -/
structure Exports (env : Env) (m : RuntimeManifest) (cfg : BootstrapRuntime) : Prop where
  kinds : ∀ id bk, cfg.kinds[id]? = some bk → ∃ link node, (id, link) ∈ m.kinds.iterProtocols ∧
    env.kubo.kinds.denotes link.cid = some node ∧ bk = .ofNode node
  listed : ∀ id link, (id, link) ∈ m.kinds.iterProtocols → id ∈ cfg.kinds
  entities : ∀ name : String, Option.Rel (Describes env) m.entities[name]? cfg.entities[name]?
  acls : ∀ name : String, Option.Rel (LinksAcl env) m.acls[name]? cfg.acls[name]?
  acl : Option.Rel (LinksAcl env) m.acl cfg.acl

/-- What a bootstrap makes of the descriptors. -/
structure Builds (env : Env) (cfg : BootstrapRuntime) (m : RuntimeManifest) : Prop where
  kinds : (∀ e ∈ cfg.kinds.toList, ∀ e' ∈ cfg.kinds.toList,
    KindTree.segments e.1 <+: KindTree.segments e'.1 → e.1 = e'.1) →
    Binds env cfg.kinds.toList m.kinds
  canonical : m.kinds.Canonical
  entities : ∀ name : String, Option.Rel (Publishes env) cfg.entities[name]? m.entities[name]?
  acls : ∀ name : String, Option.Rel (fun acl link => LinksAcl env link acl)
    cfg.acls[name]? m.acls[name]?
  acl : ∃ link, m.acl = some link ∧ LinksAcl env link (cfg.acl.getD ∅)

section Runs

variable {env : Env} {codec : BootstrapYamlCodec} {g : Lib.Guards Lock}

theorem exportRootAcl_ok {link : Option IpldLink} {w w' : World} {acl : Option AclMap}
    (h : exportRootAcl env link g w = (.ok acl, w')) :
    Option.Rel (LinksAcl env) link acl := by
  cases link with
  | none =>
    obtain ⟨rfl, -⟩ : none = acl ∧ w = w' := by simpa [exportRootAcl] using h
    exact .none
  | some link =>
    obtain ⟨doc, w1, hget, h⟩ := Proc.bind_ok h
    obtain ⟨rfl, -⟩ : some doc = acl ∧ w1 = w' := by simpa using h
    exact .some (dagGet_ok (withContext_ok hget))

theorem exportKind_ok {protocol : String} {link : IpldLink} {w w' : World} {bk : BootstrapKind}
    (h : exportKind env protocol link g w = (.ok bk, w')) :
    ∃ node, env.kubo.kinds.denotes link.cid = some node ∧ bk = .ofNode node := by
  obtain ⟨node, w1, hget, h⟩ := Proc.bind_ok h
  obtain ⟨rfl, -⟩ : BootstrapKind.ofNode node = bk ∧ w1 = w' := by simpa using h
  exact ⟨node, dagGet_ok (withContext_ok hget), rfl⟩

theorem exportEntity_ok {name : String} {link : IpldLink} {w w' : World} {be : BootstrapEntity}
    (h : exportEntity env name link g w = (.ok be, w')) : Describes env link be := by
  obtain ⟨node, w1, hget, h⟩ := Proc.bind_ok h
  obtain ⟨rfl, -⟩ : BootstrapEntity.ofNode node = be ∧ w1 = w' := by simpa using h
  exact ⟨node, dagGet_ok (withContext_ok hget), rfl⟩

/-- **An export describes the nodes.** -/
theorem exportBootstrap_ok {root : Cid} {w w' : World} {cfg : BootstrapRuntime}
    (h : exportBootstrap env root g w = (.ok cfg, w')) :
    ∃ m, env.kubo.manifests.denotes root = some m ∧ Exports env m cfg := by
  obtain ⟨m, w1, hget, h⟩ := Proc.bind_ok h
  obtain ⟨kinds, w2, hkinds, h⟩ := Proc.bind_ok h
  obtain ⟨entities, w3, hentities, h⟩ := Proc.bind_ok h
  obtain ⟨acls, w4, hacls, h⟩ := Proc.bind_ok h
  obtain ⟨acl, w5, hacl, h⟩ := Proc.bind_ok h
  obtain ⟨rfl, -⟩ : { kinds, acl, entities, acls : BootstrapRuntime } = cfg ∧ w5 = w' := by
    simpa using h
  obtain ⟨hfrom, hkeys⟩ := fold_insertFrom_ok (f := exportKind env) (R := fun _ link bk => ∃ node,
    env.kubo.kinds.denotes link.cid = some node ∧ bk = BootstrapKind.ofNode node)
    (fun h => exportKind_ok h) _ hkinds
  refine ⟨m, dagGet_ok (withContext_ok hget), ⟨fun id bk hbk => ?_, fun id link hlink => ?_, ?_, ?_,
    exportRootAcl_ok hacl⟩⟩
  · rcases hfrom id bk hbk with hempty | ⟨link, hlink, node, hnode, heq⟩
    · exact absurd hempty (by simp)
    · exact ⟨link, node, hlink, hnode, heq⟩
  · exact hkeys id (.inr ⟨link, hlink⟩)
  · exact fold_map_ok (f := exportEntity env) (R := fun _ => Describes env)
      (fun h => exportEntity_ok h) hentities
  · exact fold_map_ok (f := exportAcl env) (R := fun _ => LinksAcl env)
      (fun h => dagGet_ok (withContext_ok h)) hacls

theorem publishEntity_ok {name : String} {be : BootstrapEntity} {w w' : World} {link : IpldLink}
    (h : publishEntity env name be g w = (.ok link, w')) : Publishes env be link := by
  cases be with
  | cid cid =>
    obtain ⟨rfl, -⟩ : (⟨cid⟩ : IpldLink) = link ∧ w = w' := by simpa [publishEntity] using h
    rfl
  | inline kind behaviour acl state =>
    obtain ⟨cid, w1, hput, h⟩ := Proc.bind_ok h
    obtain ⟨rfl, -⟩ : (⟨cid⟩ : IpldLink) = link ∧ w1 = w' := by simpa using h
    exact dagPut_ok (withContext_ok hput)

theorem publishAcl_ok {name : String} {acl : AclMap} {w w' : World} {link : IpldLink}
    (h : publishAcl env name acl g w = (.ok link, w')) : LinksAcl env link acl := by
  obtain ⟨cid, w1, hput, h⟩ := Proc.bind_ok h
  obtain ⟨rfl, -⟩ : (⟨cid⟩ : IpldLink) = link ∧ w1 = w' := by simpa using h
  exact dagPut_ok (withContext_ok hput)

/-- **A bootstrap publishes what the descriptors say.** -/
theorem buildManifest_ok {langs : StrMap IpldLink} {cfg : BootstrapRuntime}
    {runtimeConfig : StrMap Yaml} {activeLang : String} {oldRootCid : Option Cid} {w w' : World}
    {root : Cid}
    (h : buildManifest env langs cfg runtimeConfig activeLang oldRootCid g w = (.ok root, w')) :
    ∃ m, env.kubo.manifests.denotes root = some m ∧ Builds env cfg m := by
  obtain ⟨kinds, w1, hkinds, h⟩ := Proc.bind_ok h
  obtain ⟨entities, w2, hentities, h⟩ := Proc.bind_ok h
  obtain ⟨acls, w3, hacls, h⟩ := Proc.bind_ok h
  obtain ⟨aclCid, w4, hacl, h⟩ := Proc.bind_ok h
  obtain ⟨rootCid, w5, hput, h⟩ := Proc.bind_ok h
  obtain ⟨_, w6, -, h⟩ := Proc.bind_ok h
  obtain ⟨rfl, -⟩ : rootCid = root ∧ w6 = w' := by simpa using h
  refine ⟨_, dagPut_ok (withContext_ok hput), ⟨fun hfree => ?_, ?_, ?_, ?_,
    ⟨aclCid⟩, rfl, dagPut_ok (withContext_ok hacl)⟩⟩
  · refine @publishKinds_ok env g _ [] {} _ _ _ hfree
      (fun path => ⟨fun link hlink => ?_, ?_⟩) hkinds
    · exact absurd hlink (by rw [kindTreeGet_nil]; simp)
    · exact fun _ _ hmem _ => absurd hmem (by simp)
  · exact publishKinds_canonical _ .empty hkinds
  · exact fold_map_ok (f := publishEntity env) (R := fun _ => Publishes env)
      (fun h => publishEntity_ok h) hentities
  · exact fold_map_ok (f := publishAcl env) (R := fun _ acl link => LinksAcl env link acl)
      (fun h => publishAcl_ok h) hacls

end Runs

/-! ## Export, then bootstrap -/

section Both

variable {env : Env} {m m' : RuntimeManifest} {cfg : BootstrapRuntime}

/-- The IDs of an export are not in each other's way. -/
theorem Exports.free (h : Exports env m cfg) (hcanonical : m.kinds.Canonical) :
    ∀ e ∈ cfg.kinds.toList, ∀ e' ∈ cfg.kinds.toList,
      KindTree.segments e.1 <+: KindTree.segments e'.1 → e.1 = e'.1 := by
  intro (id, bk) hmem (id', bk') hmem' hpre
  rw [Std.ExtTreeMap.mem_toList_iff_getElem?_eq_some] at hmem hmem'
  obtain ⟨link, -, hid, -⟩ := h.kinds id bk hmem
  obtain ⟨link', -, hid', -⟩ := h.kinds id' bk' hmem'
  exact hcanonical.free hid hid' hpre

theorem Exports.kindAt_eq (h : Exports env m cfg) (hcanonical : m.kinds.Canonical)
    (hbinds : Binds env cfg.kinds.toList m'.kinds) (protocol : String) : kindAt env m' protocol =
      (kindAt env m protocol).map
        (Option.map fun node => { node with protocol := protocolId protocol }) := by
  unfold kindAt
  cases hget' : m'.kinds.getProtocol protocol with
  | some link' =>
    obtain ⟨id, bk, hmem, hsegments, hnode'⟩ := (hbinds _).1 link' hget'
    rw [Std.ExtTreeMap.mem_toList_iff_getElem?_eq_some] at hmem
    obtain ⟨link, node, hlisted, hnode, rfl⟩ := h.kinds id bk hmem
    obtain ⟨hid, hget⟩ := mem_iterProtocols.mp hlisted
    have hname : protocolId protocol = id :=
      (congrArg (joined "") hsegments).symm.trans (hcanonical id hid)
    rw [← getProtocol_congr hsegments, hget, hname]
    simp only [Option.map_some, hnode, hnode']
    rfl
  | none =>
    cases hget : m.kinds.getProtocol protocol with
    | none => rfl
    | some link =>
      have hin := h.listed _ _ (protocolId_mem_iterProtocols hget)
      have hsome := Std.ExtTreeMap.mem_iff_isSome_getElem?.mp hin
      obtain ⟨bk, hbk⟩ := Option.isSome_iff_exists.mp hsome
      obtain ⟨link', hlink'⟩ := (hbinds _).2 (protocolId protocol) bk
        (Std.ExtTreeMap.mem_toList_iff_getElem?_eq_some.mpr hbk) (segments_protocolId protocol)
      exact absurd (hget'.symm.trans hlink') (by simp)

theorem Exports.entityAt_eq (h : Exports env m cfg) (h' : Builds env cfg m') (name : String) :
    entityAt env m' name = (entityAt env m name).map
      (Option.map fun node => inlineNode node.kind node.behaviour node.acl node.state) := by
  have hdescribes := h.entities name
  have hpublishes := h'.entities name
  unfold entityAt
  generalize m.entities[name]? = o at hdescribes ⊢
  generalize m'.entities[name]? = o' at hpublishes ⊢
  generalize cfg.entities[name]? = oe at hdescribes hpublishes
  cases hdescribes with
  | none =>
    cases hpublishes
    rfl
  | some hlink =>
    obtain ⟨node, hnode, rfl⟩ := hlink
    cases hpublishes with
    | some hlink' =>
      simp only [Option.map_some, hnode]
      exact congrArg some hlink'

theorem Exports.aclAt_eq (h : Exports env m cfg) (h' : Builds env cfg m') (name : String) :
    aclAt env m' name = aclAt env m name := by
  have hlinks := h.acls name
  have hlinks' := h'.acls name
  unfold aclAt
  generalize m.acls[name]? = o at hlinks ⊢
  generalize m'.acls[name]? = o' at hlinks' ⊢
  generalize cfg.acls[name]? = oa at hlinks hlinks'
  cases hlinks with
  | none =>
    cases hlinks'
    rfl
  | some hlink =>
    cases hlinks' with
    | some hlink' => exact congrArg some (Eq.trans hlink' (Eq.symm hlink))

/-- **What a bootstrap from an export makes**, where the kinds have their own IDs and there is a
root ACL. -/
theorem Exports.reexported (h : Exports env m cfg) (h' : Builds env cfg m')
    (hcanonical : m.kinds.Canonical) (hacl : m.acl ≠ none) : Reexported env m m' := by
  refine ⟨h.kindAt_eq hcanonical (h'.kinds (h.free hcanonical)), h.entityAt_eq h',
    h.aclAt_eq h', ?_⟩
  obtain ⟨link, hlink⟩ := Option.ne_none_iff_exists'.mp hacl
  obtain ⟨link', hlink', hdoc'⟩ := h'.acl
  have hdoc := h.acl
  unfold rootAclAt
  rw [hlink] at hdoc ⊢
  rw [hlink']
  cases hcfg : cfg.acl with
  | none =>
    rw [hcfg] at hdoc
    cases hdoc
  | some acl =>
    rw [hcfg] at hdoc hdoc'
    cases hdoc with
    | some hdoc => exact congrArg some (Eq.trans hdoc' (Eq.symm hdoc))

/-- What was exported could be read. -/
theorem Exports.readable (h : Exports env m cfg) : Readable env m := by
  refine ⟨fun protocol hnone => ?_, fun name hnone => ?_⟩
  · obtain ⟨link, hget, hden⟩ := Option.map_eq_some_iff.mp hnone
    have hlisted := protocolId_mem_iterProtocols hget
    have hsome := Std.ExtTreeMap.mem_iff_isSome_getElem?.mp (h.listed _ _ hlisted)
    obtain ⟨bk, hbk⟩ := Option.isSome_iff_exists.mp hsome
    obtain ⟨link', node, hlisted', hnode, -⟩ := h.kinds _ bk hbk
    obtain rfl : link = link' := Option.some.inj
      ((mem_iterProtocols.mp hlisted).2.symm.trans (mem_iterProtocols.mp hlisted').2)
    exact absurd (hden.symm.trans hnode) (by simp)
  · obtain ⟨link, hget, hden⟩ := Option.map_eq_some_iff.mp hnone
    have hdescribes := h.entities name
    rw [hget] at hdescribes
    generalize cfg.entities[name]? = oe at hdescribes
    cases hdescribes with
    | some hlink =>
      obtain ⟨node, hnode, -⟩ := hlink
      exact absurd (hden.symm.trans hnode) (by simp)

end Both

/-! ## Reachable manifests -/

/-- There is a root ACL, and every kind is listed under the ID of its path. -/
structure Shaped (m : RuntimeManifest) : Prop where
  acl : m.acl ≠ none
  kinds : m.kinds.Canonical

/-- The manifest at the root is shaped. -/
def RootShaped (env : Env) (rt : Runtime) : Prop := ∀ m, AtRoot env rt m → Shaped m

/-- What bootstrap makes, and the work of the event loop from it: CRUD, creations and saves. -/
inductive ReachableManifest (env : Env) : RuntimeManifest → Prop where
  | built {langs : StrMap IpldLink} {cfg : BootstrapRuntime} {runtimeConfig : StrMap Yaml}
      {activeLang : String} {oldRootCid : Option Cid} {w w' : World} {root : Cid}
      {m : RuntimeManifest}
      (h : buildManifest env langs cfg runtimeConfig activeLang oldRootCid [] w = (.ok root, w'))
      (hm : env.kubo.manifests.denotes root = some m) : ReachableManifest env m
  | minimal {owners : List String} {w w' : World} {root : Cid} {m : RuntimeManifest}
      (h : bootstrapMinimalManifest env owners [] w = (.ok root, w'))
      (hm : env.kubo.manifests.denotes root = some m) : ReachableManifest env m
  | run {m m' : RuntimeManifest} {w w' : World} {es : List LoopEvent}
      (h : ReachableManifest env m) (hm : AtRoot env w.rt m) (hrun : Run (LoopStep env) w es w')
      (hm' : AtRoot env w'.rt m') : ReachableManifest env m'

section Reachable

variable {env : Env}

/-- A manifest write that keeps the shape. -/
theorem ManifestWrite.rootShaped {f : RuntimeManifest → RuntimeManifest} {rt rt' : Runtime}
    {newCid : Cid} (hw : ManifestWrite env f rt newCid rt') (hf : ∀ m, Shaped m → Shaped (f m))
    (h : RootShaped env rt) : RootShaped env rt' := by
  obtain ⟨m, hm, hm'⟩ := hw.atRoot
  intro m' hroot
  obtain rfl := hm'.eq hroot
  exact hf m (h m hm)

theorem CrudEffect.rootShaped {sender : String} {req : CrudRequest} {rt rt' : Runtime}
    (heff : CrudEffect env sender req rt rt') (h : RootShaped env rt) : RootShaped env rt' := by
  cases heff with
  | idle => exact h
  | configDelete hw => exact hw.rootShaped (fun _ hm => ⟨hm.acl, hm.kinds⟩) h
  | configSet hkey hw => exact hw.rootShaped (fun _ hm => ⟨hm.acl, hm.kinds⟩) h
  | daemonSet hkey => exact h
  | aclSet hdoc hw => exact hw.rootShaped (fun _ hm => ⟨by simp, hm.kinds⟩) h
  | aclsSet hw hcache => exact hw.rootShaped (fun _ hm => ⟨hm.acl, hm.kinds⟩) h
  | aclsDelete hw => exact hw.rootShaped (fun _ hm => ⟨hm.acl, hm.kinds⟩) h
  | kindSet hw => exact hw.rootShaped (fun _ hm => ⟨hm.acl, hm.kinds.insert _ _⟩) h
  | kindDelete hw => exact hw.rootShaped (fun _ hm => ⟨hm.acl, hm.kinds.remove _⟩) h
  | entityDelete hcap hw => exact hw.rootShaped (fun _ hm => ⟨hm.acl, hm.kinds⟩) h
  | entityDeleteCut hcap => exact h
  | entityUpsert hcid hnode hname hcap hw hreg =>
    have h1 := hw.rootShaped (fun _ hm => ⟨hm.acl, hm.kinds⟩) h
    cases hreg with
    | skipped => exact h1
    | loaded => exact h1
  | entityAcl hargs hroot hold hlink hnode hcid hw =>
    exact hw.rootShaped (fun _ hm => ⟨hm.acl, hm.kinds⟩) h

/-- Links anew keep the shape. -/
theorem Shaped.relinks {m m' : RuntimeManifest} {links : List (String × Cid)} (h : Shaped m)
    (hlinks : Run (Relink env) m links m') : Shaped m' := by
  refine hlinks.invariant (I := Shaped) (fun h hstep => ?_) h
  obtain ⟨-, -, -⟩ := hstep
  exact ⟨h.acl, h.kinds⟩

/-- **Every event of the loop keeps the shape.** -/
theorem LoopStep.rootShaped {w w' : World} {e : LoopEvent} (hstep : LoopStep env w e w')
    (h : RootShaped env w.rt) : RootShaped env w'.rt := by
  have kept {w' : World} (hsame : SameRoot w w') : RootShaped env w'.rt :=
    fun m hm => h m ((atRoot_congr hsame).mp hm)
  cases hstep with
  | @crud message =>
    obtain ⟨-, heff⟩ := crudTurn_effect env message w
    cases heff with
    | idle heq => exact heq ▸ h
    | request hreq hgate heff => exact heff.rootShaped h
  | turn ht hturn =>
    cases hturn with
    | turn ho => exact kept (sameStores_of_turn env w ht).rootCid
  | plugins hplugins => exact kept (congrArg Stats.rootCid hplugins.stats)
  | @create root fragment node hroot =>
    by_cases ho : (persistNewEntity env root fragment node rpcGuards w).1 = .ok ()
    · obtain ⟨f, w2, m, newRoot, hcall, hold, hnew, hroot'⟩ :=
        persistNewEntity_ok (Proc.run_of_outcome ho)
      obtain ⟨_, w3, -, hcall⟩ := Proc.bind_ok hcall
      obtain ⟨cid, w4, -, hcall⟩ := Proc.bind_ok hcall
      obtain rfl : linkedAs fragment cid = f :=
        Lib.Outcome.ok.inj (congrArg Prod.fst hcall)
      intro m' hm'
      obtain rfl := AtRoot.eq ⟨newRoot, hroot', hnew⟩ hm'
      have hm := h m ⟨root, hroot, hold⟩
      exact ⟨hm.acl, hm.kinds⟩
    · exact kept (persistNewEntity_sameRoot ho)
  | save =>
    rcases shutdown_root w with ⟨root, newRoot, w1, hroot, -, hok, hsaved⟩ | ⟨-, hsame⟩
    · obtain ⟨-, hlinks⟩ := saveAllEntityStates_sat.of_run hok
      obtain ⟨m, links, m1, hold, hrun, hnew⟩ := hlinks newRoot rfl
      intro m' hm'
      obtain rfl := AtRoot.eq ⟨newRoot, hsaved, hnew⟩ hm'
      exact (h m ⟨root, hroot, hold⟩).relinks hrun
    · exact kept hsame

/-- **Every reachable manifest is shaped.** -/
theorem reachable_shaped {m : RuntimeManifest} (h : ReachableManifest env m) : Shaped m := by
  induction h with
  | built h hm =>
    obtain ⟨m, hm', hbuilds⟩ := buildManifest_ok h
    obtain rfl := Option.some.inj (hm'.symm.trans hm)
    obtain ⟨link, hlink, -⟩ := hbuilds.acl
    exact ⟨by rw [hlink]; simp, hbuilds.canonical⟩
  | minimal h hm =>
    obtain ⟨aclCid, w1, -, h⟩ := Proc.bind_ok h
    obtain ⟨rootCid, w2, hput, h⟩ := Proc.bind_ok h
    obtain ⟨_, w3, -, h⟩ := Proc.bind_ok h
    simp only [Proc.pure_run, Prod.mk.injEq, Lib.Outcome.ok.injEq] at h
    obtain ⟨rfl, -⟩ := h
    obtain rfl := Option.some.inj ((dagPut_ok (withContext_ok hput)).symm.trans hm)
    exact ⟨by simp, .empty⟩
  | run h hm hrun hm' ih =>
    refine hrun.invariant (I := fun w => RootShaped env w.rt)
      (fun hshaped hstep => hstep.rootShaped hshaped) (fun m1 hm1 => ?_) _ hm'
    obtain rfl := hm.eq hm1
    exact ih

end Reachable

/-- **Nothing is lost by an export and a bootstrap from it, iff** no entity has a parent or a label
and every kind is bound under its own protocol. -/
theorem reexport_iff {env : Env} {codec : BootstrapYamlCodec} {langs : StrMap IpldLink}
    {runtimeConfig : StrMap Yaml} {activeLang text : String} {oldRootCid : Option Cid}
    {m m' : RuntimeManifest} {root root' : Cid} {w1 w1' w2 w2' : World}
    (hreach : ReachableManifest env m) (hm : env.kubo.manifests.denotes root = some m)
    (hexport : exportBootstrapYaml env codec root [] w1 = (.ok text, w1'))
    (hboot : runBootstrap env codec langs text runtimeConfig activeLang oldRootCid [] w2 =
      (.ok root', w2'))
    (hm' : env.kubo.manifests.denotes root' = some m') : Preserved env m m' ↔ Portable env m := by
  obtain ⟨cfg, w3, hcfg, htext⟩ := Proc.bind_ok hexport
  obtain ⟨m1, hm1, hexports⟩ := exportBootstrap_ok hcfg
  obtain rfl := Option.some.inj (hm1.symm.trans hm)
  obtain ⟨cfg', w4, hparse, hbuild⟩ := Proc.bind_ok hboot
  have hwritten : codec.toString cfg = .ok text := Proc.ofExcept_ok (withContext_ok htext)
  have hread : codec.fromStr text = .ok cfg' := Proc.ofExcept_ok (withContext_ok hparse)
  obtain rfl : cfg = cfg' := by simpa [codec.fromStr_toString hwritten] using hread
  obtain ⟨m2, hm2, hbuilds⟩ := buildManifest_ok hbuild
  obtain rfl := Option.some.inj (hm2.symm.trans hm')
  have hshaped := reachable_shaped hreach
  exact (hexports.reexported hbuilds hshaped.kinds hshaped.acl).preserved_iff hexports.readable

/-! ## An egg in a nest -/

/-- An entity without a parent. -/
def shellNode : EntityNode := inlineNode "/ma/egg/0.0.1" (some ⟨"bafycode"⟩) "open" none

/-- The same with a parent. -/
def eggNode : EntityNode := { shellNode with parent := some "nest" }

/-- The owner binds it. -/
def upsertEgg : Message := crudMessage "did:ma:alice" ":entities.egg" (.text "bafyegg")

/-- The descriptor of both. -/
def eggYaml : BootstrapRuntime :=
  { acl := some ∅
    entities := (∅ : StrMap BootstrapEntity).insert "egg" (.ofNode eggNode) }

/-- The file. -/
def eggText : String := "entities: {egg: {kind: /ma/egg/0.0.1}}"

/-- A codec that knows the file. -/
def eggCodec : BootstrapYamlCodec where
  toString cfg := if cfg = eggYaml then .ok eggText else .error ["unknown document"]
  fromStr text := if text = eggText then .ok eggYaml else .error ["unknown document"]
  fromStr_toString := by
    intro cfg text h
    split at h
    · rename_i heq
      rw [if_pos (Except.ok.inj h).symm, heq]
    · exact absurd h (by simp)

/-- The manifest that a bootstrap makes. -/
def eggManifest (cid : Cid) : RuntimeManifest :=
  { acl := some ⟨"bafyacl"⟩, protocol := "/ma/runtime/0.1.0"
    entities := (∅ : StrMap IpldLink).insert "egg" ⟨cid⟩ }

/-- The minimal manifest. -/
def emptyNest : RuntimeManifest :=
  { acl := some ⟨"bafyacl"⟩, config := (∅ : StrMap Yaml).insert "owners" (Yaml.strings []) }

/-- What Kubo holds. -/
def nestTables : Tables where
  acls := [("bafyacl", ∅)]
  entities := [("bafyegg", eggNode), ("bafyshell", shellNode),
    ("bafyrunning", { shellNode with lifecycle := .running })]
  manifests := [("bafyempty", emptyNest), ("bafynest", linkedAs "egg" "bafyegg" emptyNest),
    ("bafyfirst", eggManifest "bafyrunning"), ("bafysecond", eggManifest "bafyshell")]

set_option maxRecDepth 100000

/-- An entity without a parent comes back, in another lifecycle state. -/
theorem reexport_iff_egg :
    Preserved nestTables.env (eggManifest "bafyrunning") (eggManifest "bafyshell") := by
  have hbuilt : (buildManifest nestTables.env ∅
      { entities := (∅ : StrMap BootstrapEntity).insert "egg" (.cid "bafyrunning") } ∅ "en" none []
      (started nestTables.env none [])).1 = .ok "bafyfirst" := by decide +kernel
  have hexport : (exportBootstrapYaml nestTables.env eggCodec "bafyfirst" []
      (started nestTables.env none [])).1 = .ok eggText := by decide +kernel
  have hboot : (runBootstrap nestTables.env eggCodec ∅ eggText ∅ "en" none []
      (started nestTables.env none [])).1 = .ok "bafysecond" := by decide +kernel
  refine (reexport_iff (.built (Prod.ext hbuilt rfl) rfl) rfl (Prod.ext hexport rfl)
    (Prod.ext hboot rfl) rfl).mpr ⟨fun name node hnode => ?_, fun protocol node hnode => ?_⟩
  · unfold entityAt at hnode
    obtain ⟨link, hlink, hden⟩ := Option.map_eq_some_iff.mp hnode
    unfold eggManifest at hlink
    rw [Std.ExtTreeMap.getElem?_insert] at hlink
    split at hlink
    · obtain rfl := Option.some.inj hlink
      obtain rfl := Option.some.inj (Eq.trans (by decide +kernel : some { shellNode with
        lifecycle := .running } = nestTables.env.kubo.entities.denotes "bafyrunning") hden)
      exact ⟨rfl, rfl⟩
    · exact absurd hlink (by simp)
  · unfold kindAt at hnode
    obtain ⟨link, hlink, -⟩ := Option.map_eq_some_iff.mp hnode
    rw [show (eggManifest "bafyrunning").kinds.getProtocol protocol = none from
      kindTreeGet_nil _] at hlink
    exact absurd hlink (by simp)

/-- **An entity that CRUD binds with its parent comes back without it**: the upsert, the export and
the bootstrap succeed. -/
theorem reexport_loses_parent :
    ReachableManifest nestTables.env (linkedAs "egg" "bafyegg" emptyNest) ∧
      (exportBootstrapYaml nestTables.env eggCodec "bafynest" []
        (started nestTables.env none [])).1 = .ok eggText ∧
      (runBootstrap nestTables.env eggCodec ∅ eggText ∅ "en" (some "bafynest") []
        (started nestTables.env none [])).1 = .ok "bafysecond" ∧
      nestTables.env.kubo.manifests.denotes "bafynest" =
        some (linkedAs "egg" "bafyegg" emptyNest) ∧
      nestTables.env.kubo.manifests.denotes "bafysecond" = some (eggManifest "bafyshell") ∧
      ¬ Preserved nestTables.env (linkedAs "egg" "bafyegg" emptyNest)
        (eggManifest "bafyshell") := by
  have hminimal : (bootstrapMinimalManifest nestTables.env [] [] ⟨blankRuntime plainConfig ∅
      fun _ => emptyCell, {}⟩).1 = .ok "bafyempty" := by decide +kernel
  refine ⟨?_, by decide +kernel, by decide +kernel, rfl, rfl, fun h => ?_⟩
  · refine .run (.minimal (Prod.ext hminimal rfl) rfl)
      (w := started nestTables.env none ["did:ma:alice"])
      ⟨"bafyempty", by decide +kernel, rfl⟩
      (.cons (@LoopStep.crud _ _ upsertEgg) (.nil _))
      ⟨"bafynest", by decide +kernel, rfl⟩
  · exact absurd (h.entities "egg") (by decide +kernel)

end MaRuntime
