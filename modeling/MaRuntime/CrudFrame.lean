import MaRuntime.KindMirror

/-!
# What a CRUD operation leaves alone

A path addresses at most one component of the manifest. `Frame` says that nothing else changed:
the rest of the manifest, and of the root ACL, the ACL cache and the two registries what does not
belong to the component.

* `CrudEffect.frame`: the effects of all namespaces but two kinds of request are framed.
* **`crud_frame_iff`**: an operation that succeeded is framed, unless it sets `:acl` under surplus
  segments, which the dispatcher does not hand on, or writes a protocol that is the beginning of a
  bound one.
-/

namespace MaRuntime

open Lib (Cbor Proc)

/-! ## Components -/

/-- What a path can address. -/
inductive Component where
  | rootAcl
  | acl (name : String)
  | entity (name : String)
  | kind (protocol : String)
  | config (key : String)
  deriving DecidableEq

/-- The component a request may write. A GET, and the read of one kind, may write none. -/
def component : CrudRequest → Option Component
  | ("acl", [], .put _) => some .rootAcl
  | ("acls", [name], .put _) => some (.acl name)
  | ("entities", [name], .put _) => some (.entity name)
  | ("entities", [name, "acl"], .put _) => some (.entity name)
  | ("kinds", [], .put [.array (.text protocol :: _)]) => some (.kind protocol)
  | ("config", [key], .put _) => some (.config key)
  | _ => none

/-- The component a message may write. -/
def addressed (env : Env) (message : Message) : Option Component :=
  (crudRequest env message).bind component

/-- Two manifests differ at most in the component. -/
def Component.DifferAtMost (m m' : RuntimeManifest) : Component → Prop
  | .rootAcl => m' = { m with acl := m'.acl }
  | .acl name => m' = { m with acls := m'.acls } ∧
      ∀ name' : String, name' ≠ name → m'.acls[name']? = m.acls[name']?
  | .entity name => m' = { m with entities := m'.entities } ∧
      ∀ name' : String, name' ≠ name → m'.entities[name']? = m.entities[name']?
  | .kind protocol => m' = { m with kinds := m'.kinds } ∧
      ∀ protocol', KindTree.segments protocol' ≠ KindTree.segments protocol →
        m'.kinds.getProtocol protocol' = m.kinds.getProtocol protocol'
  | .config key => m' = { m with config := m'.config } ∧
      ∀ key' : String, key' ≠ key → m'.config[key']? = m.config[key']?

/-- **Nothing changed outside the component**, and nothing at all where there is none. -/
structure Frame (env : Env) (c : Option Component) (rt rt' : Runtime) : Prop where
  manifest : manifestAt env rt' = manifestAt env rt ∨ ∃ comp m m', c = some comp ∧
    manifestAt env rt = some m ∧ manifestAt env rt' = some m' ∧ comp.DifferAtMost m m'
  rootAcl : c ≠ some .rootAcl → rt'.rootAcl = rt.rootAcl
  aclCache : ∀ key : String, (∀ name, c = some (.acl name) → key ≠ aclCacheKey name) →
    rt'.aclCache[key]? = rt.aclCache[key]?
  entityRegistry : ∀ name : String, c ≠ some (.entity name) →
    rt'.entityRegistry[name]? = rt.entityRegistry[name]?
  kindRegistry : rt'.kindRegistry = rt.kindRegistry

/-- The protocol is the beginning of a bound one. -/
def Shadows (env : Env) (rt : Runtime) (protocol : String) : Prop :=
  ∃ m protocol' link, manifestAt env rt = some m ∧ m.kinds.getProtocol protocol' = some link ∧
    KindTree.segments protocol <+: KindTree.segments protocol' ∧
    KindTree.segments protocol' ≠ KindTree.segments protocol

/-- The requests that reach beyond their path: a new root ACL under surplus segments, and a write of
a protocol that is the beginning of a bound one. -/
def Strays (env : Env) (rt : Runtime) : CrudRequest → Prop
  | ("acl", _ :: _, .put [.text cid]) => isCidv1 cid = true ∧ ∃ m, manifestAt env rt = some m ∧
      (m.acl ≠ some ⟨cid⟩ ∨
        ∃ doc, env.kubo.acls.denotes cid = some doc ∧ rt.rootAcl ≠ injectOwners doc)
  | ("kinds", [], .put [.array [.text protocol, .text cid]]) =>
      isCidv1 cid = true ∧ Shadows env rt protocol
  | ("kinds", [], .put [.array [.text protocol]]) => Shadows env rt protocol
  | _ => False

/-! ## The effects -/

section Effects

variable {env : Env} {sender : String} {rt rt' : Runtime}

theorem Frame.refl (c : Option Component) (rt : Runtime) : Frame env c rt rt :=
  ⟨.inl rfl, fun _ => rfl, fun _ _ => rfl, fun _ _ => rfl, rfl⟩

theorem ManifestWrite.manifests {f : RuntimeManifest → RuntimeManifest} {newCid : Cid}
    (h : ManifestWrite env f rt newCid rt') :
    ∃ m, manifestAt env rt = some m ∧ manifestAt env rt' = some (f m) := by
  obtain ⟨m, hm, hm'⟩ := h.atRoot
  exact ⟨m, manifestAt_eq_some.mpr hm, manifestAt_eq_some.mpr hm'⟩

/-- A manifest write of one component touches nothing else. -/
theorem ManifestWrite.framed_at {f : RuntimeManifest → RuntimeManifest} {newCid : Cid}
    {comp : Component} {m : RuntimeManifest} (h : ManifestWrite env f rt newCid rt')
    (hm : manifestAt env rt = some m) (hf : comp.DifferAtMost m (f m)) :
    Frame env (some comp) rt rt' := by
  obtain ⟨m0, hm0, hm'⟩ := h.manifests
  obtain rfl : m = m0 := Option.some.inj (hm.symm.trans hm0)
  have hframe := h.frame
  refine ⟨.inr ⟨comp, m, f m, rfl, hm, hm', hf⟩, fun _ => ?_, fun _ _ => ?_, fun _ _ => ?_, ?_⟩
  · rw [hframe]
  · rw [hframe]
  · rw [hframe]
  · rw [hframe]

theorem ManifestWrite.framed {f : RuntimeManifest → RuntimeManifest} {newCid : Cid}
    {comp : Component} (h : ManifestWrite env f rt newCid rt')
    (hf : ∀ m, comp.DifferAtMost m (f m)) : Frame env (some comp) rt rt' := by
  obtain ⟨m, hm, -⟩ := h.manifests
  exact h.framed_at hm (hf m)

/-- A request that can stray: another root ACL under surplus segments, or a write of a kind. -/
def MayStray : CrudRequest → Prop
  | ("acl", _ :: _, .put [.text _]) => True
  | ("kinds", [], .put [.array [.text _, .text _]]) => True
  | ("kinds", [], .put [.array [.text _]]) => True
  | _ => False

/-- **All other requests are framed**, on the error paths too. -/
theorem CrudEffect.frame {req : CrudRequest} (h : CrudEffect env sender req rt rt')
    (hreq : ¬ MayStray req) : Frame env (component req) rt rt' := by
  cases h with
  | idle => exact .refl _ rt
  | configDelete hw =>
    refine hw.framed fun m => ⟨rfl, fun key hkey => ?_⟩
    rw [getElem?_erase_of_ne (by simpa using hkey)]
  | configSet hkey hw =>
    refine hw.framed fun m => ⟨rfl, fun key hkey => ?_⟩
    rw [getElem?_insert_of_ne (by simpa using hkey)]
  | daemonSet hkey => exact ⟨.inl rfl, fun _ => rfl, fun _ _ => rfl, fun _ _ => rfl, rfl⟩
  | @aclSet _ rt1 rest cid newCid doc hdoc hw =>
    cases rest with
    | cons seg rest => exact absurd trivial hreq
    | nil =>
      obtain ⟨hmanifest, -, hcache, hregistry, hkinds⟩ :=
        @ManifestWrite.framed env rt rt1 _ _ .rootAcl hw fun m => rfl
      exact ⟨hmanifest, fun hne => absurd rfl hne, hcache, hregistry, hkinds⟩
  | @aclsSet _ rt1 aclName cid newCid cache hw hcache =>
    obtain ⟨hmanifest, hacl, -, hregistry, hkinds⟩ :=
      @ManifestWrite.framed env rt rt1 _ _ (.acl aclName) hw fun m => ⟨rfl, fun name hname => by
        rw [getElem?_insert_of_ne (by simpa using hname)]⟩
    refine ⟨hmanifest, hacl, fun key hkey => ?_, hregistry, hkinds⟩
    rcases hcache with rfl | ⟨doc, -, rfl⟩
    · rfl
    · show (rt.aclCache.insert (aclCacheKey aclName) _)[key]? = _
      rw [getElem?_insert_of_ne (hkey aclName rfl)]
  | @aclsDelete _ rt1 aclName newCid hw =>
    obtain ⟨hmanifest, hacl, -, hregistry, hkinds⟩ :=
      @ManifestWrite.framed env rt rt1 _ _ (.acl aclName) hw fun m => ⟨rfl, fun name hname => by
        rw [getElem?_erase_of_ne (by simpa using hname)]⟩
    refine ⟨hmanifest, hacl, fun key hkey => ?_, hregistry, hkinds⟩
    show (rt.aclCache.erase (aclCacheKey aclName))[key]? = _
    rw [getElem?_erase_of_ne (hkey aclName rfl)]
  | kindSet hw => exact absurd trivial hreq
  | kindDelete hw => exact absurd trivial hreq
  | @entityDelete _ _ name newCid hcap hw =>
    obtain ⟨hmanifest, hacl, hcache, hregistry, hkinds⟩ :=
      @ManifestWrite.framed env _ rt' _ _ (.entity name) hw fun m => ⟨rfl, fun name' hname => by
        rw [getElem?_erase_of_ne (by simpa using hname)]⟩
    refine ⟨hmanifest, hacl, hcache, fun name' hname => ?_, hkinds⟩
    rw [hregistry name' hname]
    show (rt.entityRegistry.erase name)[name']? = _
    rw [getElem?_erase_of_ne]
    rintro rfl
    exact hname rfl
  | @entityDeleteCut _ name hcap =>
    refine ⟨.inl rfl, fun _ => rfl, fun _ _ => rfl, fun name' hname => ?_, rfl⟩
    show (rt.entityRegistry.erase name)[name']? = _
    rw [getElem?_erase_of_ne]
    rintro rfl
    exact hname rfl
  | @entityUpsert _ rt1 _ name path cid newCid node hcid hnode hname hcap hw hreg =>
    obtain ⟨hmanifest, hacl, hcache, hregistry, hkinds⟩ :=
      @ManifestWrite.framed env rt rt1 _ _ (.entity name) hw fun m => ⟨rfl, fun name' hname => by
        rw [getElem?_insert_of_ne (by simpa using hname)]⟩
    cases hreg with
    | skipped => exact ⟨hmanifest, hacl, hcache, hregistry, hkinds⟩
    | @loaded ep cells nextCell hfragment hacl' hparent =>
      refine ⟨hmanifest, hacl, hcache, fun name' hname => ?_, hkinds⟩
      show (rt1.entityRegistry.insert name ep)[name']? = _
      rw [getElem?_insert_of_ne, hregistry name' hname]
      rintro rfl
      exact hname rfl
  | @entityAcl _ _ name aclName args _ _ _ _ _ _ hargs hroot hold hlink hnode hcid hw =>
    have hcomp : component ("entities", [name, "acl"], args) = some (.entity name) := by
      rcases hargs with rfl | ⟨rfl, -⟩
      · rfl
      · rfl
    rw [hcomp]
    refine hw.framed fun m => ⟨rfl, fun name' hname => ?_⟩
    rw [getElem?_insert_of_ne (by simpa using hname)]

end Effects

/-! ## The requests that can stray -/

section Stray

variable {env : Env} {message : Message} {w w' : World}

/-- A SET of the root ACL that succeeded was refused, or took the ACL over. -/
theorem handleRootAcl_ok {cid : Cid}
    (h : handleRootAcl env message (.put [.text cid]) [] w = (.ok (), w')) :
    isCidv1 cid = false ∧ Idle w w' ∨
      isCidv1 cid = true ∧ ∃ doc newCid rt1, env.kubo.acls.denotes cid = some doc ∧
        ManifestWrite env (fun m => { m with acl := some ⟨cid⟩ }) w.rt newCid rt1 ∧
        w'.rt = { rt1 with rootAcl := injectOwners doc } := by
  have hsat : (handleRootAcl env message (.put [.text cid])).Sat [] w fun o w' => o = .ok () →
      isCidv1 cid = false ∧ Idle w w' ∨
        isCidv1 cid = true ∧ ∃ doc newCid rt1, env.kubo.acls.denotes cid = some doc ∧
          ManifestWrite env (fun m => { m with acl := some ⟨cid⟩ }) w.rt newCid rt1 ∧
          w'.rt = { rt1 with rootAcl := injectOwners doc } := by
    unfold handleRootAcl handleRootAclWith
    dsimp only
    split
    · rename_i hcid
      exact (calm_sendCrudI18nError _).sat fun o w' _ hidle _ => .inl ⟨by simpa using hcid, hidle⟩
    · rename_i hcid
      refine (calm_withContext _ (calm_loadAclFromCid _ _)).sat_bind
        (fun e w1 _ ho => by simp at ho)
        fun acl w1 hacl h1 => ?_
      obtain ⟨doc, hdoc, rfl⟩ := loadAclFromCid_ok (withContext_ok hacl)
      refine withManifestCrud_bind (fun e w1 _ ho => by simp at ho) fun newCid w2 hw => ?_
      rw [show w1.rt = w.rt from h1] at hw
      refine writing_bind rfl ((calm_sendCrudReply _ _).sat fun o w3 _ h3 _ => ?_)
      exact .inr ⟨by simpa using hcid, doc, newCid, w2.rt, hdoc, hw, h3⟩
  exact hsat.of_run h rfl

/-- An upsert of a kind that succeeded was refused, or bound the kind. -/
theorem handleKindsNs_upsert_ok {protocol : String} {cid : Cid}
    (h : handleKindsNs env message [] (.put [.array [.text protocol, .text cid]]) [] w =
      (.ok (), w')) :
    isCidv1 cid = false ∧ Idle w w' ∨
      isCidv1 cid = true ∧ ∃ newCid, ManifestWrite env
        (fun m => { m with kinds := m.kinds.insertProtocol protocol ⟨cid⟩ }) w.rt newCid w'.rt := by
  have hsat : (handleKindsNs env message [] (.put [.array [.text protocol, .text cid]])).Sat [] w
      fun o w' => o = .ok () → isCidv1 cid = false ∧ Idle w w' ∨
        isCidv1 cid = true ∧ ∃ newCid, ManifestWrite env
          (fun m => { m with kinds := m.kinds.insertProtocol protocol ⟨cid⟩ })
          w.rt newCid w'.rt := by
    show (if !isCidv1 cid then _ else _ : M Unit).Sat [] w _
    split
    · rename_i hcid
      exact (calm_sendCrudI18nError _).sat fun o w' _ hidle _ => .inl ⟨by simpa using hcid, hidle⟩
    · rename_i hcid
      refine withManifestCrud_bind (fun e w1 _ ho => by simp at ho) fun newCid w1 hw => ?_
      refine (calm_sendCrudReply _ _).sat fun o w2 _ h2 _ => .inr ⟨by simpa using hcid, newCid, ?_⟩
      rw [show w2.rt = w1.rt from h2]
      exact hw
  exact hsat.of_run h rfl

/-- A deletion of a kind that succeeded removed it. -/
theorem handleKindsNs_delete_ok {protocol : String}
    (h : handleKindsNs env message [] (.put [.array [.text protocol]]) [] w = (.ok (), w')) :
    ∃ newCid, ManifestWrite env (fun m => { m with kinds := m.kinds.removeProtocol protocol })
      w.rt newCid w'.rt := by
  have hsat : (handleKindsNs env message [] (.put [.array [.text protocol]])).Sat [] w
      fun o w' => o = .ok () → ∃ newCid, ManifestWrite env
        (fun m => { m with kinds := m.kinds.removeProtocol protocol }) w.rt newCid w'.rt := by
    refine withManifestCrud_bind (fun e w1 _ ho => by simp at ho) fun newCid w1 hw => ?_
    refine (calm_sendCrudReply _ _).sat fun o w2 _ h2 _ => ⟨newCid, ?_⟩
    rw [show w2.rt = w1.rt from h2]
    exact hw
  exact hsat.of_run h rfl

/-- A write of the kinds at one path is framed iff it loses no kind below the path. -/
theorem frame_kind_iff {protocol : String} {f : KindTree → KindTree} {rt rt' : Runtime}
    {newCid : Cid}
    (hw : ManifestWrite env (fun m => { m with kinds := f m.kinds }) rt newCid rt')
    (hkeeps : ∀ t protocol', ¬ KindTree.segments protocol <+: KindTree.segments protocol' →
      (f t).getProtocol protocol' = t.getProtocol protocol')
    (hloses : ∀ t protocol', KindTree.segments protocol <+: KindTree.segments protocol' →
      KindTree.segments protocol' ≠ KindTree.segments protocol →
        (f t).getProtocol protocol' = none) :
    Frame env (some (.kind protocol)) rt rt' ↔ ¬ Shadows env rt protocol := by
  obtain ⟨m, hm, hm'⟩ := hw.manifests
  constructor
  · rintro hframe ⟨m0, protocol', link, hm0, hbound, hpre, hne⟩
    obtain rfl : m = m0 := Option.some.inj (hm.symm.trans hm0)
    have hlost := hloses m.kinds protocol' hpre hne
    have hkept : (f m.kinds).getProtocol protocol' = m.kinds.getProtocol protocol' := by
      rcases hframe.manifest with heq | ⟨comp, m1, m2, hcomp, hm1, hm2, hdiff⟩
      · rw [hm', hm] at heq
        exact congrArg (fun m : RuntimeManifest => m.kinds.getProtocol protocol')
          (Option.some.inj heq)
      · obtain rfl := Option.some.inj hcomp
        obtain rfl := Option.some.inj (hm.symm.trans hm1)
        obtain rfl := Option.some.inj (hm'.symm.trans hm2)
        exact hdiff.2 protocol' hne
    rw [hlost, hbound] at hkept
    exact absurd hkept (by simp)
  · intro hshadows
    refine hw.framed_at hm ⟨rfl, fun protocol' hne => ?_⟩
    by_cases hpre : KindTree.segments protocol <+: KindTree.segments protocol'
    · rw [show (f m.kinds).getProtocol protocol' = none from hloses _ _ hpre hne]
      cases hbound : m.kinds.getProtocol protocol' with
      | none => rfl
      | some link => exact absurd ⟨m, protocol', link, hm, hbound, hpre, hne⟩ hshadows
    · exact hkeeps _ _ hpre

/-- An upsert of a kind. -/
theorem frame_kindSet_iff {protocol : String} {cid newCid : Cid} {rt rt' : Runtime}
    (hw : ManifestWrite env (fun m => { m with kinds := m.kinds.insertProtocol protocol ⟨cid⟩ })
      rt newCid rt') : Frame env (some (.kind protocol)) rt rt' ↔ ¬ Shadows env rt protocol :=
  @frame_kind_iff env protocol (fun t => t.insertProtocol protocol ⟨cid⟩) rt rt' newCid hw
    (fun _ _ hpre => getProtocol_insert_of_not_isPrefix hpre)
    fun _ _ hpre hne => getProtocol_insert_below hpre hne

/-- A deletion of a kind. -/
theorem frame_kindDelete_iff {protocol : String} {newCid : Cid} {rt rt' : Runtime}
    (hw : ManifestWrite env (fun m => { m with kinds := m.kinds.removeProtocol protocol })
      rt newCid rt') : Frame env (some (.kind protocol)) rt rt' ↔ ¬ Shadows env rt protocol :=
  @frame_kind_iff env protocol (fun t => t.removeProtocol protocol) rt rt' newCid hw
    (fun _ _ hpre => getProtocol_remove_of_not_isPrefix hpre)
    fun _ _ hpre _ => getProtocol_remove_below hpre

/-- A new root ACL, where the path names none. -/
theorem frame_aclSet_iff {cid newCid : Cid} {doc : AclMap} {rt rt1 : Runtime}
    (hdoc : env.kubo.acls.denotes cid = some doc)
    (hw : ManifestWrite env (fun m => { m with acl := some ⟨cid⟩ }) rt newCid rt1) :
    Frame env none rt { rt1 with rootAcl := injectOwners doc } ↔
      ¬ ∃ m, manifestAt env rt = some m ∧ (m.acl ≠ some ⟨cid⟩ ∨
        ∃ doc, env.kubo.acls.denotes cid = some doc ∧ rt.rootAcl ≠ injectOwners doc) := by
  obtain ⟨m, hm, hm'⟩ := hw.manifests
  constructor
  · rintro hframe ⟨m0, hm0, hchange⟩
    obtain rfl : m = m0 := Option.some.inj (hm.symm.trans hm0)
    rcases hchange with hacl | ⟨doc0, hdoc0, hroot⟩
    · rcases hframe.manifest with heq | ⟨_, _, _, hnone, -⟩
      · have hsame : ({ m with acl := some ⟨cid⟩ } : RuntimeManifest) = m :=
          Option.some.inj (hm'.symm.trans (heq.trans hm))
        exact hacl (by rw [← hsame])
      · exact absurd hnone (by simp)
    · obtain rfl : doc = doc0 := Option.some.inj (hdoc.symm.trans hdoc0)
      exact hroot (hframe.rootAcl (by simp)).symm
  · intro hsame
    have hacl : m.acl = some ⟨cid⟩ := by
      by_contra hacl
      exact hsame ⟨m, hm, .inl hacl⟩
    have hroot : rt.rootAcl = injectOwners doc := by
      by_contra hroot
      exact hsame ⟨m, hm, .inr ⟨doc, hdoc, hroot⟩⟩
    have hframe := hw.frame
    refine ⟨.inl ?_, fun _ => hroot.symm, fun key _ => ?_, fun name _ => ?_, ?_⟩
    · show manifestAt env rt1 = _
      rw [hm', hm, ← hacl]
    · show rt1.aclCache[key]? = _
      rw [hframe]
    · show rt1.entityRegistry[name]? = _
      rw [hframe]
    · show rt1.kindRegistry = _
      rw [hframe]

theorem Strays.mayStray {req : CrudRequest} {rt : Runtime} (h : Strays env rt req) :
    MayStray req := by
  unfold Strays at h
  split at h
  · trivial
  · trivial
  · trivial
  · exact h.elim

theorem handleNs_frame_iff {ns : String} {rest : List String} {args : Args}
    (h : handleNs env message ns rest args [] w = (.ok (), w')) :
    Frame env (component (ns, rest, args)) w.rt w'.rt ↔ ¬ Strays env w.rt (ns, rest, args) := by
  have refused {c : Option Component} {cid : Cid} {P : Prop} (hcid : isCidv1 cid = false)
      (hidle : Idle w w') : Frame env c w.rt w'.rt ↔ ¬ (isCidv1 cid = true ∧ P) := by
    rw [show w'.rt = w.rt from hidle]
    exact ⟨fun _ hstray => by simp [hcid] at hstray, fun _ => .refl _ _⟩
  by_cases hmay : MayStray (ns, rest, args)
  · unfold MayStray at hmay
    split at hmay
    · rename_i seg rest cid heq
      cases heq
      rcases handleRootAcl_ok h with ⟨hcid, hidle⟩ | ⟨hcid, doc, newCid, rt1, hdoc, hw, h1⟩
      · exact refused hcid hidle
      · rw [h1]
        refine (frame_aclSet_iff hdoc hw).trans (not_congr ?_)
        exact ⟨fun hchange => ⟨hcid, hchange⟩, And.right⟩
    · rename_i protocol cid heq
      cases heq
      rcases handleKindsNs_upsert_ok h with ⟨hcid, hidle⟩ | ⟨hcid, newCid, hw⟩
      · exact refused hcid hidle
      · refine (frame_kindSet_iff hw).trans (not_congr ?_)
        exact ⟨fun hshadows => ⟨hcid, hshadows⟩, And.right⟩
    · rename_i protocol heq
      cases heq
      obtain ⟨newCid, hw⟩ := handleKindsNs_delete_ok h
      exact frame_kindDelete_iff hw
    · exact hmay.elim
  · have heff := ((handleNs_effects ns rest args).of_run h : Effects env message.from _ w _ _).2
    exact ⟨fun _ hstray => hmay hstray.mayStray, fun _ => heff.frame hmay⟩

end Stray

/-- **An operation that succeeded touched only what its path names, unless its request strays.** -/
theorem crud_frame_iff {env : Env} {message : Message} {w w' : World}
    (hrun : crudTurn env message [] w = (.ok (), w')) :
    Frame env (addressed env message) w.rt w'.rt ↔
      ∀ req, crudRequest env message = some req → ¬ Strays env w.rt req := by
  rcases crudTurn_cases env message w with ⟨-, hturn⟩ | ⟨e, hturn⟩
  · rcases dispatchManagement_cases env message w with
      ⟨ns, rest, args, hreq, hdispatch⟩ | ⟨hreq, hdispatch⟩
    · have hns : handleNs env message ns rest args [] w = (.ok (), w') := by
        rw [← hdispatch, ← hturn, hrun]
      have haddressed : addressed env message = component (ns, rest, args) := by
        unfold addressed
        rw [hreq]
        rfl
      rw [haddressed, handleNs_frame_iff hns, hreq]
      exact ⟨fun h req heq => Option.some.inj heq ▸ h, fun h => h _ rfl⟩
    · have hidle : Idle w w' := (hdispatch.of_run (hturn.symm.trans hrun)).2
      rw [show w'.rt = w.rt from hidle, hreq]
      exact ⟨fun _ req heq => absurd heq (by simp), fun _ => .refl _ _⟩
  · rw [hrun] at hturn
    exact absurd (congrArg Prod.fst hturn) (by simp)

/-! ## A new root ACL -/

/-- Kubo with an ACL, an empty manifest, and the manifest that links the ACL. -/
def draftTables : Tables where
  manifests := [("bafyroot", {}), ("bafywithacl", { acl := some ⟨"bafyaliceonly"⟩ })]
  acls := [("bafyaliceonly", (∅ : AclMap).insert "did:ma:alice" (.fromCaps ["*"]))]

/-- The daemon before either message. -/
def draftStart : World := started draftTables.env (some "bafyroot") ["did:ma:alice"]

/-- The owner sets the root ACL. -/
def setAclMessage : Message := crudMessage "did:ma:alice" ":acl" (.text "bafyaliceonly")

/-- The owner sets something below it. -/
def aclDraftMessage : Message := crudMessage "did:ma:alice" ":acl.draft" (.text "bafyaliceonly")

set_option maxRecDepth 100000

/-- Under its own path the new root ACL is framed, and all else is as it was. -/
theorem crud_frame_set_acl :
    (crudTurn draftTables.env setAclMessage [] draftStart).2.rt.stats.rootCid = some "bafywithacl" ∧
      Frame draftTables.env (some .rootAcl) draftStart.rt
        (crudTurn draftTables.env setAclMessage [] draftStart).2.rt := by
  have hreq : crudRequest draftTables.env setAclMessage =
      some ("acl", [], .put [.text "bafyaliceonly"]) := by decide +kernel
  have hframe := (@crud_frame_iff draftTables.env setAclMessage draftStart _
    (Proc.run_of_outcome (by decide +kernel))).mpr fun req h => by
      rw [hreq] at h
      obtain rfl := Option.some.inj h
      exact id
  have haddressed : addressed draftTables.env setAclMessage = some .rootAcl := by
    unfold addressed
    rw [hreq]
    rfl
  rw [haddressed] at hframe
  exact ⟨by decide +kernel, hframe⟩

/-- **A surplus segment is not looked at**: the path `:acl.draft` names no component, and a SET of
it replaces the root ACL, in the manifest and live. -/
theorem acl_draft_sets_root_acl :
    (crudTurn draftTables.env aclDraftMessage [] draftStart).1 = .ok () ∧
      crudRequest draftTables.env aclDraftMessage =
        some ("acl", ["draft"], .put [.text "bafyaliceonly"]) ∧
      addressed draftTables.env aclDraftMessage = none ∧
      manifestAt draftTables.env draftStart.rt = some {} ∧
      manifestAt draftTables.env (crudTurn draftTables.env aclDraftMessage [] draftStart).2.rt =
        some { acl := some ⟨"bafyaliceonly"⟩ } ∧
      ¬ Frame draftTables.env none draftStart.rt
        (crudTurn draftTables.env aclDraftMessage [] draftStart).2.rt := by
  have hbefore : manifestAt draftTables.env draftStart.rt = some {} := by decide +kernel
  have hafter : manifestAt draftTables.env
      (crudTurn draftTables.env aclDraftMessage [] draftStart).2.rt =
      some { acl := some ⟨"bafyaliceonly"⟩ } := by decide +kernel
  refine ⟨by decide +kernel, by decide +kernel, by decide +kernel, hbefore, hafter, fun h => ?_⟩
  rcases h.manifest with heq | ⟨_, _, _, hnone, -⟩
  · rw [hbefore, hafter] at heq
    exact absurd heq (by decide)
  · exact absurd hnone (by simp)

end MaRuntime
