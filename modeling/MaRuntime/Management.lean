import MaRuntime.Ownership

/-!
# What a holder of `crud` can reach

Upsert and delete of an entity ask the root ACL for more than `crud`. The root ACL and the owner
list themselves are written with `crud` alone, and so is an entity whose kind happens to be called
`crud`. `ConfinedStep` leaves out what these three can do.

* `CrudEffect.entitiesKept`: who holds at most `crud` touches no entity but its ACL name, unless
  by an upsert of kind `crud`.
* `management_gate_holds`: along a run of other messages the caller stays confined.
* `crud_holder_escapes`: each of the three messages breaks out.
-/

namespace MaRuntime

open Lib (Cbor Proc Run)

/-! ## Confinement -/

/-- The caller has no capability but `crud`. -/
def AtMostCrud (core : MaCore) (acl : AclMap) (caller : String) : Prop :=
  ∀ cap, checkFullNoGroups core acl caller [cap] = .ok () → cap = capCrud

/-- The same link, or one to the same node up to its ACL name. -/
def NodeKept (env : Env) (l l' : Option IpldLink) : Prop :=
  l' = l ∨ ∃ link link' node acl, l = some link ∧ l' = some link' ∧
    env.kubo.entities.denotes link.cid = some node ∧
    env.kubo.entities.denotes link'.cid = some { node with acl := acl }

/-- No entity was created, replaced or deleted, in the registry or in the manifest. -/
structure EntitiesKept (env : Env) (rt rt' : Runtime) : Prop where
  registry : rt'.entityRegistry = rt.entityRegistry
  manifest : Option.Rel (fun m m' : RuntimeManifest =>
    ∀ name : String, NodeKept env m.entities[name]? m'.entities[name]?)
    (manifestAt env rt) (manifestAt env rt')

section Kept

variable {env : Env}

theorem NodeKept.trans {l l1 l2 : Option IpldLink} (h : NodeKept env l l1)
    (h' : NodeKept env l1 l2) : NodeKept env l l2 := by
  rcases h' with rfl | ⟨link1, link2, node1, acl2, rfl, rfl, hn1, hn2⟩
  · exact h
  · right
    rcases h with h | ⟨link, link1', node, acl, rfl, h1, hn, hn1'⟩
    · exact ⟨link1, link2, node1, acl2, h.symm, rfl, hn1, hn2⟩
    · obtain rfl := Option.some.inj h1
      obtain rfl := Option.some.inj (hn1.symm.trans hn1')
      exact ⟨link, link2, node, acl2, rfl, rfl, hn, hn2⟩

theorem EntitiesKept.refl (rt : Runtime) : EntitiesKept env rt rt where
  registry := rfl
  manifest := by
    cases manifestAt env rt with
    | none => exact .none
    | some m => exact .some fun _ => .inl rfl

theorem EntitiesKept.trans {rt rt1 rt2 : Runtime} (h : EntitiesKept env rt rt1)
    (h' : EntitiesKept env rt1 rt2) : EntitiesKept env rt rt2 where
  registry := h'.registry.trans h.registry
  manifest := by
    obtain ⟨-, h⟩ := h
    obtain ⟨-, h'⟩ := h'
    generalize manifestAt env rt1 = o1 at h h'
    generalize manifestAt env rt = o, manifestAt env rt2 = o2 at h h'
    cases h with
    | none => exact h'
    | some h =>
      cases h' with
      | some h' => exact .some fun name => (h name).trans (h' name)

theorem EntitiesKept.of_eq {rt rt1 rt2 : Runtime} (h : EntitiesKept env rt rt1)
    (hregistry : rt2.entityRegistry = rt1.entityRegistry) (hstats : rt2.stats = rt1.stats) :
    EntitiesKept env rt rt2 where
  registry := hregistry.trans h.registry
  manifest := by
    rw [show manifestAt env rt2 = manifestAt env rt1 by
      unfold manifestAt; rw [hstats]]
    exact h.manifest

/-- A manifest write that keeps the nodes. -/
theorem ManifestWrite.entitiesKept {f : RuntimeManifest → RuntimeManifest} {rt rt' : Runtime}
    {newCid : Cid} (hw : ManifestWrite env f rt newCid rt')
    (hf : ∀ m, AtRoot env rt m → ∀ name : String,
      NodeKept env m.entities[name]? (f m).entities[name]?) : EntitiesKept env rt rt' where
  registry := by rw [hw.frame]
  manifest := by
    obtain ⟨m, hm, hm'⟩ := hw.atRoot
    rw [manifestAt_eq_some.mpr hm, manifestAt_eq_some.mpr hm']
    exact .some (hf m hm)

/-- What the caller's checks pass, one of its capabilities passes. -/
theorem AtMostCrud.caps {core : MaCore} {acl : AclMap} {caller : String}
    (h : AtMostCrud core acl caller) {caps : List String}
    (hcaps : checkFullNoGroups core acl caller caps = .ok ()) : capCrud ∈ caps := by
  obtain ⟨h1, h2, cap, hcap, hcheck⟩ := checkFullNoGroups_ok_iff.mp hcaps
  obtain rfl := h cap (checkFullNoGroups_ok_iff.mpr
      ⟨h1, h2, cap, List.mem_singleton_self _, hcheck⟩)
  exact hcap

/-- A caller whose entry is `crud` alone. -/
theorem atMostCrud_of_entry {core : MaCore} (hcore : core.Lawful) {acl : AclMap} {caller : String}
    (h : core.entryFor acl caller = some (.fromCaps [capCrud])) : AtMostCrud core acl caller := by
  intro cap hcap
  obtain ⟨-, -, cap', hmem, hcheck⟩ := checkFullNoGroups_ok_iff.mp hcap
  obtain rfl := List.mem_singleton.mp hmem
  rw [hcore, h, Option.any_some] at hcheck
  have hcrud : capCrud = cap' := by
    simpa [CapabilityEntry.grants, CapabilityEntry.fromCaps, capCrud] using hcheck
  exact hcrud.symm

/-- **Who holds at most `crud` keeps every entity**, but by an upsert of kind `crud`. -/
theorem CrudEffect.entitiesKept {sender : String} {req : CrudRequest} {rt rt' : Runtime}
    (heff : CrudEffect env sender req rt rt') (hcaps : AtMostCrud env.core rt.rootAcl sender)
    (hkind : ∀ name path cid node, req = ("entities", [name], .put [.text path]) →
      ResolvesTo env path cid → env.kubo.entities.denotes cid = some node →
      node.kind ≠ capCrud) : EntitiesKept env rt rt' := by
  cases heff with
  | idle => exact .refl _
  | configDelete hw => exact hw.entitiesKept fun _ _ _ => .inl rfl
  | configSet hkey hw => exact hw.entitiesKept fun _ _ _ => .inl rfl
  | daemonSet hkey => exact (EntitiesKept.refl rt).of_eq rfl rfl
  | aclSet hdoc hw => exact (hw.entitiesKept fun _ _ _ => .inl rfl).of_eq rfl rfl
  | aclsSet hw hcache => exact (hw.entitiesKept fun _ _ _ => .inl rfl).of_eq rfl rfl
  | aclsDelete hw => exact (hw.entitiesKept fun _ _ _ => .inl rfl).of_eq rfl rfl
  | kindSet hw => exact hw.entitiesKept fun _ _ _ => .inl rfl
  | kindDelete hw => exact hw.entitiesKept fun _ _ _ => .inl rfl
  | entityDelete hcap hw => exact absurd (hcaps.caps hcap) (by decide)
  | entityDeleteCut hcap => exact absurd (hcaps.caps hcap) (by decide)
  | entityUpsert hcid hnode hname hcap hw hreg =>
    have hcrud := List.mem_singleton.mp (hcaps.caps hcap)
    exact absurd hcrud.symm (hkind _ _ _ _ rfl hcid hnode)
  | entityAcl hargs hroot hold hlink hnode hcid hw =>
    refine hw.entitiesKept fun m hm name => ?_
    rename_i name' aclName _ _ cid _ m' link node
    obtain rfl := hm.eq ⟨_, hroot, hold⟩
    by_cases hname : name = name'
    · subst hname
      rw [Std.ExtTreeMap.getElem?_insert_self]
      exact .inr ⟨link, ⟨cid⟩, node, aclName, hlink, rfl, hnode, hcid⟩
    · left
      simp [Std.ExtTreeMap.getElem?_insert, Ne.symm hname]

/-- What a request does to the root ACL. -/
theorem CrudEffect.rootAcl {sender : String} {req : CrudRequest} {rt rt' : Runtime}
    (heff : CrudEffect env sender req rt rt') :
    rt'.rootAcl = rt.rootAcl ∨ ∃ rest cid doc, req = ("acl", rest, .put [.text cid]) ∧
      env.kubo.acls.denotes cid = some doc ∧ rt'.rootAcl = injectOwners doc := by
  cases heff with
  | idle => exact .inl rfl
  | configDelete hw => exact .inl (by rw [hw.frame])
  | configSet hkey hw => exact .inl (by rw [hw.frame])
  | daemonSet hkey => exact .inl rfl
  | aclSet hdoc hw => exact .inr ⟨_, _, _, rfl, hdoc, rfl⟩
  | aclsSet hw hcache => exact .inl (by rw [hw.frame])
  | aclsDelete hw => exact .inl (by rw [hw.frame])
  | kindSet hw => exact .inl (by rw [hw.frame])
  | kindDelete hw => exact .inl (by rw [hw.frame])
  | entityDelete hcap hw => exact .inl (by rw [hw.frame])
  | entityDeleteCut hcap => exact .inl rfl
  | entityUpsert hcid hnode hname hcap hw hreg =>
    left
    cases hreg with
    | skipped => rw [hw.frame]
    | loaded => rw [hw.frame]
  | entityAcl hargs hroot hold hlink hnode hcid hw => exact .inl (by rw [hw.frame])

end Kept

/-! ## Runs -/

/-- A message of the caller that neither changes the owner list, nor installs an ACL giving the
caller more than `crud`, nor upserts an entity whose kind is `crud`. -/
inductive ConfinedStep (env : Env) (caller : String) (w : World) : Turn → World → Prop where
  | crud {message : Message} {w' : World} (hstep : Step env w (.crud message) w')
      (hfrom : message.from = caller) (hsync : OwnersGuard env w.rt message)
      (howners : ∀ value items,
        crudRequest env message = some ("config", ["owners"], .put [value]) →
        cborToYaml value = .sequence items → items.filterMap Yaml.asStr = w.rt.stats.owners)
      (hacl : ∀ rest cid doc, crudRequest env message = some ("acl", rest, .put [.text cid]) →
        env.kubo.acls.denotes cid = some doc → AtMostCrud env.core (injectOwners doc) caller)
      (hkind : ∀ name path cid node,
        crudRequest env message = some ("entities", [name], .put [.text path]) →
        ResolvesTo env path cid → env.kubo.entities.denotes cid = some node →
        node.kind ≠ capCrud) :
      ConfinedStep env caller w (.crud message) w'

/-- What a caller confined to `crud` leaves as it was. -/
structure Confined (env : Env) (caller : String) (rt rt' : Runtime) : Prop where
  owners : rt'.stats.owners = rt.stats.owners
  caps : AtMostCrud env.core rt'.rootAcl caller
  entities : EntitiesKept env rt rt'

/-- One confined message. -/
theorem confined_step {env : Env} {caller : String} {w w' : World} {t : Turn}
    (hstep : ConfinedStep env caller w t w') (hcaps : AtMostCrud env.core w.rt.rootAcl caller) :
    Confined env caller w.rt w'.rt := by
  obtain ⟨hstep, rfl, hsync, howners, hacl, hkind⟩ := hstep
  rename_i message
  obtain ⟨-⟩ := hstep
  obtain ⟨-, heff⟩ := crudTurn_effect env message w
  show Confined env message.from w.rt (crudTurn env message [] w).2.rt
  generalize (crudTurn env message [] w).2.rt = rt' at heff ⊢
  cases heff with
  | idle heq =>
    subst heq
    exact ⟨rfl, hcaps, .refl _⟩
  | request hreq hgate heff =>
    refine ⟨?_, ?_, heff.entitiesKept hcaps fun name path cid node h =>
      hkind name path cid node (h ▸ hreq)⟩
    · rcases heff.owners fun ns rest args h => hsync ns rest args (h ▸ hreq) hgate with
        h | ⟨value, items, rfl, hvalue, h⟩
      · exact h
      · rw [h, howners value items hreq hvalue]
    · rcases heff.rootAcl with h | ⟨rest, cid, doc, rfl, hdoc, h⟩
      · rwa [h]
      · rw [h]
        exact hacl rest cid doc hreq hdoc

/-- **A caller with `crud` alone stays confined** along every run of such messages: the owners stay,
it gains no capability, and no entity is created, replaced or deleted. -/
theorem management_gate_holds {env : Env} {caller : String} {w w' : World} {ts : List Turn}
    (hcaps : AtMostCrud env.core w.rt.rootAcl caller)
    (hrun : Run (ConfinedStep env caller) w ts w') : Confined env caller w.rt w'.rt := by
  refine hrun.invariant (I := fun w' => Confined env caller w.rt w'.rt)
    (fun {w1 t w2} h hstep => ?_) ⟨rfl, hcaps, .refl _⟩
  have h1 := confined_step hstep h.caps
  exact ⟨h1.owners.trans h.owners, h1.caps, h.entities.trans h1.entities⟩

/-! ## Ways out -/

/-- A root manifest with an ACL that gives `did:ma:mallory` the capability `crud`, an ACL that gives
it everything, an entity node of kind `crud`, and the manifests that link them. -/
def escapeTables : Tables where
  manifests :=
    [("bafyroot", { acl := some ⟨"bafycrudonlyacl"⟩ }),
      ("bafynamedacl",
        { acl := some ⟨"bafycrudonlyacl"⟩
          acls := (∅ : StrMap IpldLink).insert "open" ⟨"bafyopenacl"⟩ }),
      ("bafyowned",
        { acl := some ⟨"bafycrudonlyacl"⟩
          config := (∅ : StrMap Yaml).insert "owners" (Yaml.strings ["did:ma:mallory"]) }),
      ("bafyopened", { acl := some ⟨"bafyeverythingacl"⟩ }),
      ("bafyentity",
        { acl := some ⟨"bafycrudonlyacl"⟩
          entities := (∅ : StrMap IpldLink).insert "backdoor" ⟨"bafycrudnode"⟩ })]
  entities := [("bafycrudnode", { kind := "crud", acl := "" })]
  acls :=
    [("bafycrudonlyacl", (∅ : AclMap).insert "did:ma:mallory" (.fromCaps ["crud"])),
      ("bafyeverythingacl", (∅ : AclMap).insert "did:ma:mallory" (.fromCaps ["*"]))]

/-- `did:ma:alice` owns the runtime. -/
def escapeStart : World := started escapeTables.env (some "bafyroot") ["did:ma:alice"]

/-- A write of the caller that holds `crud` alone. -/
def malloryWrites (path : String) (value : Cbor) : Message :=
  crudMessage "did:ma:mallory" path value

set_option maxRecDepth 100000

/-- Naming an ACL in the library is within the rules. -/
theorem management_gate_holds_named_acl :
    ∃ w, Run (ConfinedStep escapeTables.env "did:ma:mallory") escapeStart
        [.crud (malloryWrites ":acls.open" (.text "bafyopenacl"))] w ∧
      w.rt.stats.rootCid = some "bafynamedacl" ∧
      Confined escapeTables.env "did:ma:mallory" escapeStart.rt w.rt := by
  have hns : (crudRequest escapeTables.env (malloryWrites ":acls.open" (.text "bafyopenacl"))).map
      Prod.fst = some "acls" := by decide +kernel
  have hcaps : AtMostCrud tableCore escapeStart.rt.rootAcl "did:ma:mallory" :=
    atMostCrud_of_entry tableCore_lawful (by decide +kernel)
  have hsync : OwnersInSync escapeTables.env escapeStart.rt :=
    ownersInSync_of_root (m := { acl := some ⟨"bafycrudonlyacl"⟩ })
      ⟨"bafyroot", by decide +kernel, rfl⟩ (.inl (by decide))
  have hwrite : Step escapeTables.env escapeStart
      (.crud (malloryWrites ":acls.open" (.text "bafyopenacl"))) _ := .turn (by decide +kernel)
  have hrun := Run.cons (ConfinedStep.crud hwrite rfl (fun _ _ _ _ _ _ => hsync)
    (fun _ _ h => absurd (h ▸ hns) (by simp)) (fun _ _ _ h => absurd (h ▸ hns) (by simp))
    fun _ _ _ _ h => absurd (h ▸ hns) (by simp)) (.nil _)
  exact ⟨_, hrun, by decide +kernel, management_gate_holds hcaps hrun⟩

/-- **`crud` alone is enough** to become the owner, to be given everything and to create an
entity. -/
theorem crud_holder_escapes :
    AtMostCrud tableCore escapeStart.rt.rootAcl "did:ma:mallory" ∧
      escapeStart.rt.stats.owners = ["did:ma:alice"] ∧
      ∃ w1 w2 w3,
        Step escapeTables.env escapeStart
          (.crud (malloryWrites ":config.owners" (.array [.text "did:ma:mallory"]))) w1 ∧
        w1.rt.stats.owners = ["did:ma:mallory"] ∧
        Step escapeTables.env escapeStart
          (.crud (malloryWrites ":acl" (.text "bafyeverythingacl"))) w2 ∧
        checkFullNoGroups tableCore w2.rt.rootAcl "did:ma:mallory" ["delete"] = .ok () ∧
        Step escapeTables.env escapeStart
          (.crud (malloryWrites ":entities.backdoor" (.text "bafycrudnode"))) w3 ∧
        (manifestAt escapeTables.env w3.rt).any
          (fun m => m.entities.contains "backdoor") = true := by
  exact ⟨atMostCrud_of_entry tableCore_lawful (by decide +kernel), by decide +kernel, _, _, _,
    .turn (by decide +kernel), by decide +kernel, .turn (by decide +kernel), by decide +kernel,
    .turn (by decide +kernel), by decide +kernel⟩

end MaRuntime
