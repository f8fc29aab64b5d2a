import MaRuntime.AclCache
import MaRuntime.Bootstrap
import MaRuntime.Main

/-!
# The history of the manifest

Three functions advance `stats.root_cid`: `with_manifest_crud`, `persist_new_entity` and
`save_all_entity_states`, each by a cycle of fetching, changing and publishing the manifest.

* `Mutation`: what such a call makes of the manifest.
* `CrudCalls`: a CRUD message calls `with_manifest_crud` for a mutation, whatever stands for it.
* `Committed`: an event of the loop, with the mutations of its calls that returned a CID.
* `manifest_history`: the manifest at the root is the first one under these mutations, in order.
-/

namespace MaRuntime

open Lib (Cbor Proc Run)

/-! ## The call of a CRUD message -/

/-- The message gets to its call, for the mutation `f`, in the state `w1`: whatever stands for
`with_manifest_crud` is asked for `f` there, and the rest depends on its answer alone. -/
def CrudCalls (env : Env) (message : Message) (w : World) (f : Mutation) (w1 : World) : Prop :=
  ∃ post : Cid → M Unit, ∀ write : ManifestWriter,
    crudTurnWith write env message [] w = (write (fun m => .ok (f m)) >>= post) [] w1

/-- What the message calls for, and where, is determined. -/
theorem CrudCalls.unique {env : Env} {message : Message} {w w1 w2 : World} {f f' : Mutation}
    (h : CrudCalls env message w f w1) (h' : CrudCalls env message w f' w2) :
    f = f' ∧ w1 = w2 := by
  classical
  obtain ⟨post, hpost⟩ := h
  obtain ⟨post', hpost'⟩ := h'
  have hrun (write : ManifestWriter) := (hpost write).symm.trans (hpost' write)
  constructor
  · -- A stand-in that tells `f` from everything else.
    by_contra hne
    have hdiffers : (fun m => Except.ok (ε := Error) (f m)) ≠ fun m => .ok (f' m) :=
      fun heq => hne (funext fun m => Except.ok.inj (congrFun heq m))
    have hsame := hrun fun g => if g = fun m => .ok (f m) then Proc.fail [] else Proc.fail [""]
    simp [hdiffers.symm, Proc.bind_run] at hsame
  · exact congrArg Prod.snd (hrun fun _ => Proc.fail [])

/-- Nothing is called for where nothing depends on what stands for `with_manifest_crud`. -/
theorem not_crudCalls {env : Env} {message : Message} {w w1 : World} {f : Mutation}
    {r : Lib.Outcome Error Unit × World}
    (hturn : ∀ write, crudTurnWith write env message [] w = r) :
    ¬ CrudCalls env message w f w1 := by
  rintro ⟨post, hpost⟩
  have hrun (write : ManifestWriter) := (hturn write).symm.trans (hpost write)
  have hsame := (hrun fun _ => Proc.fail []).symm.trans (hrun fun _ => Proc.fail [""])
  simp [Proc.bind_run] at hsame

/-- The root CID is as before. -/
def SameRoot (w w' : World) : Prop := w'.rt.stats.rootCid = w.rt.stats.rootCid

instance : IsPreorder World SameRoot where
  refl _ := rfl
  trans _ _ _ h h' := Eq.trans h' h

theorem Idle.sameRoot {w w' : World} (h : Idle w w') : SameRoot w w' := by
  unfold SameRoot
  rw [show w'.rt = w.rt from h]

/-- The program makes one call at most, and otherwise leaves the root. -/
def Makes (p : ManifestWriter → M Unit) : Prop :=
  ∀ w,
    (∃ (f : Mutation) (w1 : World) (post : Cid → M Unit), SameRoot w w1 ∧
      (∀ cid, Proc.Keeps SameRoot (post cid)) ∧
      ∀ write, p write [] w = (write (fun m => .ok (f m)) >>= post) [] w1) ∨
    ∃ r, SameRoot w r.2 ∧ ∀ write, p write [] w = r

section Makes

variable {env : Env} {message : Message}

/-- No call. -/
theorem Makes.none {p : M Unit} (hp : Proc.Keeps SameRoot p) : Makes fun _ => p :=
  fun w => .inr ⟨_, hp [] w, fun _ => rfl⟩

theorem Makes.of_eq {p : ManifestWriter → M Unit} {q : M Unit} (h : ∀ write, p write = q)
    (hq : Proc.Keeps SameRoot q) : Makes p :=
  fun w => .inr ⟨_, hq [] w, fun write => congrFun (congrFun (h write) []) w⟩

/-- The call, and what follows it. -/
theorem Makes.write {f : Mutation} {post : Cid → M Unit}
    (hpost : ∀ cid, Proc.Keeps SameRoot (post cid)) :
    Makes fun write => write (fun m => .ok (f m)) >>= post :=
  fun w => .inl ⟨f, w, post, rfl, hpost, fun _ => rfl⟩

/-- What comes before. -/
theorem Makes.bind {α : Type} {r : M α} {p : α → ManifestWriter → M Unit}
    (hr : Proc.Keeps SameRoot r) (h : ∀ a, Makes (p a)) :
    Makes fun write => r >>= fun a => p a write := by
  intro w
  have hroot := hr [] w
  rcases hrun : r [] w with ⟨o, w1⟩
  rw [hrun] at hroot
  cases o with
  | ok a =>
    rcases h a w1 with ⟨f, w2, post, h2, hpost, hp⟩ | ⟨r', h2, hp⟩
    · exact .inl ⟨f, w2, post, trans_of SameRoot hroot h2, hpost, fun write =>
        (Proc.bind_of_ok hrun).trans (hp write)⟩
    · exact .inr ⟨r', trans_of SameRoot hroot h2, fun write =>
        (Proc.bind_of_ok hrun).trans (hp write)⟩
  | err e => exact .inr ⟨(.err e, w1), hroot, fun _ => Proc.bind_of_err hrun⟩
  | stuck => exact .inr ⟨(.stuck, w1), hroot, fun _ => Proc.bind_of_stuck hrun⟩

theorem keeps_idle {α : Type} {p : M α} (h : Proc.Calm [] Idle p) : Proc.Keeps SameRoot p :=
  h.keeps.mono fun _ _ h => h.sameRoot

theorem keeps_reply (body : ReplyBody) : Proc.Keeps SameRoot (sendCrudReply env message body) :=
  keeps_idle (calm_sendCrudReply _ _)

theorem keeps_failed (e : Error) : Proc.Keeps SameRoot (Proc.fail e : M Unit) := Proc.keeps_fail e

/-- A choice. -/
theorem Makes.ite {b : Prop} [Decidable b] {p p' : ManifestWriter → M Unit} (h : Makes p)
    (h' : Makes p') : Makes fun write => if b then p write else p' write := by
  by_cases hb : b
  · simpa only [if_pos hb] using h
  · simpa only [if_neg hb] using h'

/-- A change of another part of the shared state. -/
theorem keeps_writing (l : Lock) {f : Runtime → Runtime}
    (hf : ∀ rt, (f rt).stats.rootCid = rt.stats.rootCid) :
    Proc.Keeps SameRoot (writing l (modifyRt f)) := by
  refine Proc.Keeps.holding ?_ _ _
  exact fun g w => hf w.rt

theorem writeDaemonKey_keeps (key : String) (val : Yaml) :
    Proc.Keeps SameRoot (writeDaemonKey env key val) := by
  refine Proc.Keeps.bind (keeps_writing _ fun _ => rfl) fun _ => ?_
  refine Proc.Keeps.bind (Proc.Keeps.attempt ?_) fun _ => Proc.keeps_pure _
  refine Proc.Keeps.holding (Proc.Keeps.bind (Proc.keeps_look _) fun config => ?_) _ _
  refine (@calm_saveConfig [] env config).keeps.mono fun w w' h => ?_
  unfold SameRoot
  rw [show w'.rt = _ from h]

theorem keeps_loadManifest {k : RuntimeManifest → M Unit} (hk : ∀ m, Proc.Keeps SameRoot (k m)) :
    Proc.Keeps SameRoot (loadManifest env >>= k) :=
  Proc.Keeps.bind (keeps_idle (calm_loadManifest rfl)) hk

theorem handleConfigNs_makes (rest : List String) (args : Args) :
    Makes fun write => handleConfigNsWith write env message rest args := by
  unfold handleConfigNsWith
  match rest, args with
  | [], .get =>
    refine .none (keeps_loadManifest fun m => ?_)
    exact Proc.Keeps.bind (keeps_idle (Proc.Calm.holding rfl (calm_getRt _))) fun _ => keeps_reply _
  | [], .put _ => exact .none (keeps_reply _)
  | [key], .get =>
    refine .ite (.none (keeps_reply _)) (.none ?_)
    exact Proc.Keeps.bind (keeps_idle (calm_configValue key)) fun _ => keeps_reply _
  | [key], .put [] =>
    refine .ite (.none (keeps_reply _)) (.ite (.none (keeps_reply _)) ?_)
    exact .write fun _ => keeps_reply _
  | [key], .put [value] =>
    refine .ite (.none (keeps_reply _)) (.ite (.none ?_) (.ite (.none (keeps_reply _)) ?_))
    · exact Proc.Keeps.bind (writeDaemonKey_keeps key _) fun _ => keeps_reply _
    · exact .write fun _ => keeps_reply _
  | [key], .put (_ :: _ :: _) => exact .ite (.none (keeps_reply _)) (.none (keeps_failed _))
  | _ :: _ :: _, _ => exact .none (keeps_failed _)

theorem handleKindsNs_makes (rest : List String) (args : Args) :
    Makes fun write => handleKindsNsWith write env message rest args := by
  unfold handleKindsNsWith
  refine .ite (.none (keeps_failed _)) ?_
  match args with
  | .get => exact .none (keeps_loadManifest fun _ => keeps_reply _)
  | .put [] => exact .none (keeps_reply _)
  | .put [value] =>
    cases value with
    | text protocol =>
      refine .none (keeps_loadManifest fun m => ?_)
      split
      · exact Proc.Keeps.bind (keeps_idle (calm_dagGet _ _)) fun _ => keeps_reply _
      · exact keeps_reply _
    | array items =>
      rcases items with - | ⟨first, items⟩
      · exact .none (keeps_failed _)
      cases first with
      | text protocol =>
        rcases items with - | ⟨second, items⟩
        · exact .write fun _ => keeps_reply _
        cases second with
        | text cid =>
          rcases items with - | ⟨third, items⟩
          · exact .ite (.none (keeps_reply _)) (.write fun _ => keeps_reply _)
          · exact .none (keeps_failed _)
        | _ => exact .none (keeps_failed _)
      | _ => exact .none (keeps_failed _)
    | _ => exact .none (keeps_failed _)
  | .put (_ :: _ :: _) =>
    refine .of_eq (fun write => ?_) (keeps_failed ["unknown kinds operation"])
    split
    all_goals first | rfl | exact absurd ‹Args.put _ = _› (by simp)

theorem handleRootAcl_makes (args : Args) :
    Makes fun write => handleRootAclWith write env message args := by
  unfold handleRootAclWith
  match args with
  | .get => exact .none (keeps_loadManifest fun _ => keeps_reply _)
  | .put [] => exact .none (keeps_reply _)
  | .put [value] =>
    cases value with
    | text cid =>
      refine .ite (.none (keeps_reply _)) ?_
      refine .bind (keeps_idle (calm_withContext _ (calm_loadAclFromCid env cid))) fun acl => ?_
      exact .write fun _ => Proc.Keeps.bind (keeps_writing _ fun _ => rfl) fun _ => keeps_reply _
    | _ => exact .none (keeps_failed _)
  | .put (_ :: _ :: _) =>
    refine .of_eq (fun write => ?_) (keeps_failed ["unknown :acl operation"])
    split
    all_goals first | rfl | exact absurd ‹Args.put _ = _› (by simp)

theorem aclCacheUpdate_keeps (cacheKey : String) (cid : Cid) :
    Proc.Keeps SameRoot (aclCacheUpdate env cacheKey cid) := by
  refine Proc.Keeps.bind (keeps_idle (calm_loadAclFromCid env cid)).attempt fun r => ?_
  split
  · exact keeps_writing _ fun _ => rfl
  · exact Proc.keeps_pure _

theorem handleRootAcls_makes (rest : List String) (args : Args) :
    Makes fun write => handleRootAclsWith write env message rest args := by
  unfold handleRootAclsWith
  match rest, args with
  | [], .get => exact .none (keeps_loadManifest fun _ => keeps_reply _)
  | [], .put _ => exact .none (keeps_failed _)
  | [aclName], .get =>
    refine .none (keeps_loadManifest fun m => ?_)
    split
    · exact keeps_reply _
    · exact keeps_failed _
  | [aclName], .put [] =>
    exact .write fun _ => Proc.Keeps.bind (keeps_writing _ fun _ => rfl) fun _ => keeps_reply _
  | [aclName], .put [value] =>
    cases value with
    | text cid =>
      refine .ite (.none (keeps_reply _)) (.write fun _ => ?_)
      exact Proc.Keeps.bind (aclCacheUpdate_keeps _ _) fun _ => keeps_reply _
    | _ => exact .none (keeps_failed _)
  | [aclName], .put (_ :: _ :: _) =>
    refine .of_eq (fun write => ?_) (keeps_failed ["unknown :acls operation"])
    split
    all_goals first | rfl | exact absurd ‹Args.put _ = _› (by simp)
  | _ :: _ :: _, _ => exact .none (keeps_failed _)

/-- The node of the entity under another ACL. -/
theorem updateEntityNode_makes (name aclName : String) :
    Makes (fun write => do
      let entity ← fetchEntityNode env name
      let entityCid ← updateEntityNodeWith write env name { entity with acl := aclName }
      sendCrudReply env message (.okCid entityCid)) := by
  refine .bind (keeps_idle (calm_fetchEntityNode name)) fun entity => ?_
  unfold updateEntityNodeWith
  simp only [Proc.bind_assoc]
  refine .bind (keeps_idle (calm_withContext _ (calm_dagPut _ _))) fun cid => ?_
  exact .write fun _ => keeps_reply _

theorem handleEntityField_makes (name field : String) (subPath : List String) (args : Args) :
    Makes fun write => handleEntityFieldWith write env message name field subPath args := by
  unfold handleEntityFieldWith
  have acl : Makes fun write =>
      if field = "acl" then handleEntityAclFieldWith write env message name subPath args
      else Proc.fail [s!"unknown entity field '{field}' in entity.{name}"] := by
    refine .ite ?_ (.none (keeps_failed _))
    unfold handleEntityAclFieldWith
    refine .ite (.none (keeps_failed _)) ?_
    match args with
    | .get =>
      exact .none (Proc.Keeps.bind (keeps_idle (calm_fetchEntityNode name)) fun _ => keeps_reply _)
    | .put [] => exact updateEntityNode_makes name ""
    | .put [value] =>
      cases value with
      | text aclName =>
        refine .bind (keeps_idle (calm_loadManifest rfl)) fun m => ?_
        exact .ite (.none (keeps_failed _)) (updateEntityNode_makes name aclName)
      | _ => exact .none (keeps_failed _)
    | .put (_ :: _ :: _) =>
      refine .of_eq (fun write => ?_) (keeps_failed [s!"unknown entities.{name}.acl operation"])
      split
      all_goals first | rfl | exact absurd ‹Args.put _ = _› (by simp)
  match args, subPath with
  | .get, [] =>
    refine .none (Proc.Keeps.bind (keeps_idle (calm_fetchEntityNode name)) fun entity => ?_)
    split
    · exact keeps_reply _
    · exact keeps_failed _
  | .get, _ :: _ => exact acl
  | .put _, _ => exact acl

theorem registerEntityPlugin_keeps (name : String) (node : EntityNode) :
    Proc.Keeps SameRoot (registerEntityPlugin env name node) := by
  refine Proc.Keeps.bind ((calm_pluginToRegister name node).keeps.mono fun _ _ h => ?_) fun o => ?_
  · exact congrArg Stats.rootCid h.stats
  · split
    · exact keeps_writing _ fun _ => rfl
    · exact Proc.keeps_pure _

theorem deleteEntity_makes (name : String) :
    Makes fun write => deleteEntityWith write env message name := by
  refine .bind (keeps_idle (calm_checkEntityManagementCap message _)) fun _ => ?_
  refine .bind (keeps_writing _ fun _ => rfl) fun _ => ?_
  exact .write fun _ => keeps_reply _

theorem upsertEntity_makes (name path : String) :
    Makes fun write => upsertEntityWith write env message name path := by
  refine .ite (.none (keeps_reply _)) (.ite (.none (keeps_reply _)) ?_)
  unfold linkEntityWith
  simp only [Proc.bind_assoc]
  refine .bind (keeps_idle (calm_withContext _ (calm_dagResolve env _))) fun cid => ?_
  refine .bind (keeps_idle (calm_withContext _ (calm_dagGet _ _))) fun node => ?_
  refine .bind (keeps_idle (calm_checkEntityManagementCap message _)) fun _ => ?_
  refine .write fun _ => ?_
  refine Proc.Keeps.bind (Proc.keeps_pure _) fun (cid, node) => ?_
  exact Proc.Keeps.bind (registerEntityPlugin_keeps _ _) fun _ => keeps_reply _

theorem handleSingleEntity_makes (name : String) (args : Args) :
    Makes fun write => handleSingleEntityWith write env message name args := by
  unfold handleSingleEntityWith
  match args with
  | .get =>
    refine .none (keeps_loadManifest fun m => ?_)
    split
    · exact keeps_failed _
    · exact Proc.Keeps.bind (keeps_idle (calm_dagGet _ _)) fun _ => keeps_reply _
  | .put [] => exact deleteEntity_makes name
  | .put [value] =>
    cases value with
    | text path => exact upsertEntity_makes name path
    | _ => exact .none (keeps_failed _)
  | .put (_ :: _ :: _) =>
    refine .of_eq (fun write => ?_) (keeps_failed [s!"unknown entities.{name} operation"])
    split
    all_goals first | rfl | exact absurd ‹Args.put _ = _› (by simp)

theorem handleEntitiesNs_makes (rest : List String) (args : Args) :
    Makes fun write => handleEntitiesNsWith write env message rest args := by
  unfold handleEntitiesNsWith
  match rest, args with
  | [], .get =>
    exact .none (Proc.Keeps.bind (keeps_idle (Proc.Calm.holding rfl (calm_getRt _))) fun _ =>
      keeps_reply _)
  | [], .put _ => exact .none (keeps_reply _)
  | [name], _ => exact handleSingleEntity_makes name _
  | name :: field :: subPath, _ => exact handleEntityField_makes name field subPath _

theorem handleNs_makes (ns : String) (rest : List String) (args : Args) :
    Makes fun write => handleNsWith write env message ns rest args := by
  by_cases hns : ns ∈ ["entities", "kinds", "config", "acl", "acls"]
  · simp only [List.mem_cons, List.not_mem_nil, or_false] at hns
    rcases hns with rfl | rfl | rfl | rfl | rfl
    · exact handleEntitiesNs_makes rest args
    · exact handleKindsNs_makes rest args
    · exact handleConfigNs_makes rest args
    · exact handleRootAcl_makes args
    · exact handleRootAcls_makes rest args
  · refine .of_eq (fun write => ?_) (@keeps_reply env message (.i18nError "unknown-rpc-atom" []))
    unfold handleNsWith
    split
    all_goals first | rfl | exact absurd (by simp) hns

theorem dispatchManagement_makes :
    Makes fun write => dispatchManagementWith write env message := by
  refine .ite (.none (keeps_reply _)) ?_
  refine .bind (Proc.keeps_ofExcept _) fun op => ?_
  refine .bind (Proc.keeps_ofExcept _) fun (ns, rest) => ?_
  exact handleNs_makes ns rest op.target.2

/-- **A CRUD turn makes one call at most.** -/
theorem crudTurn_makes : Makes fun write => crudTurnWith write env message := by
  refine .bind (keeps_idle (Proc.Calm.holding rfl (calm_getRt _))) fun acl => ?_
  refine .bind (keeps_idle ?_) fun _ => dispatchManagement_makes
  refine (calm_readStats _ rfl).bind fun owners => ?_
  split
  · exact Proc.calm_pure _
  · exact Proc.calm_ofExcept _

end Makes

/-! ## The calls of a creation and of the final save -/

/-- An entity under a name. -/
def linkedAs (name : String) (cid : Cid) : Mutation :=
  fun m => { m with entities := m.entities.insert name ⟨cid⟩ }

/-- `persist_new_entity` up to its mutation. -/
def newEntityCall (env : Env) : Cid → String → EntityNode → M Mutation :=
  publishNewEntityWith (fun _ f => pure f) env

/-- Entities under their names. -/
def linkedAll (links : List (String × Cid)) : Mutation :=
  fun m => links.foldl (fun m (name, cid) => linkedAs name cid m) m

/-- One entity of `save_all_entity_states`: the loop carries the manifest it began with, and the
links that were made anew. -/
def saveLink (env : Env) : RuntimeManifest × List (String × Cid) → String → EntityPlugin →
    M (RuntimeManifest × List (String × Cid)) :=
  saveEntityStateWith (fun s => linkedAll s.2 s.1)
    (fun s name newCid => (s.1, s.2 ++ [(name, newCid)])) env

/-- `save_all_entity_states` up to its mutation. -/
def saveCall (env : Env) : Cid → M Mutation :=
  saveAllEntityStatesWith (fun manifest => (manifest, [])) (saveLink env)
    (fun s => pure (linkedAll s.2)) env

section Calls

variable {env : Env}

theorem linkedAll_append (links : List (String × Cid)) (name : String) (cid : Cid)
    (m : RuntimeManifest) :
    linkedAll (links ++ [(name, cid)]) m = linkedAs name cid (linkedAll links m) := by
  unfold linkedAll
  rw [List.foldl_append]
  rfl

/-- The loop may carry anything from which the manifest can be told. -/
theorem saveEntityStateWith_map {σ τ : Type} {manifestOf : σ → RuntimeManifest}
    {manifestOf' : τ → RuntimeManifest} {relink : σ → String → Cid → σ}
    {relink' : τ → String → Cid → τ} {h : σ → τ} (hmanifest : ∀ s, manifestOf' (h s) = manifestOf s)
    (hrelink : ∀ s name cid, h (relink s name cid) = relink' (h s) name cid) (s : σ)
    (name : String) (entity : EntityPlugin) :
    saveEntityStateWith manifestOf' relink' env (h s) name entity =
      saveEntityStateWith manifestOf relink env s name entity >>= fun s => pure (h s) := by
  unfold saveEntityStateWith
  split
  · rfl
  · rw [Proc.bind_assoc]
    refine congrArg _ (funext fun r => ?_)
    cases r with
    | error e => rfl
    | ok o =>
      cases o with
      | none => rfl
      | some stateCid =>
        dsimp only
        rw [hmanifest]
        cases (manifestOf s).entities[name]? with
        | none => rfl
        | some entityLink =>
          dsimp only
          rw [Proc.bind_assoc]
          refine congrArg _ (funext fun r => ?_)
          cases r with
          | error e => rfl
          | ok node =>
            dsimp only
            rw [Proc.bind_assoc]
            refine congrArg _ (funext fun r => ?_)
            cases r with
            | error e => rfl
            | ok cid => exact congrArg pure (hrelink s name cid).symm

theorem saveLink_map (s : RuntimeManifest × List (String × Cid)) (name : String)
    (entity : EntityPlugin) :
    saveEntityState env (linkedAll s.2 s.1) name entity =
      saveLink env s name entity >>= fun s => pure (linkedAll s.2 s.1) :=
  saveEntityStateWith_map (h := fun s : RuntimeManifest × List (String × Cid) =>
    linkedAll s.2 s.1) (fun _ => rfl) (fun s name cid => linkedAll_append s.2 name cid s.1) s name
    entity

/-- **The loop applies the links it makes.** -/
theorem saveLoop_eq (snapshot : List (String × EntityPlugin))
    (s : RuntimeManifest × List (String × Cid)) :
    (Proc.fold snapshot (linkedAll s.2 s.1) fun manifest (name, entity) =>
        saveEntityState env manifest name entity) =
      Proc.fold snapshot s (fun s (name, entity) => saveLink env s name entity) >>= fun s =>
        pure (linkedAll s.2 s.1) :=
  Proc.fold_map (h := fun s : RuntimeManifest × List (String × Cid) => linkedAll s.2 s.1)
    (fun s entry => saveLink_map s entry.1 entry.2) snapshot s

/-- The manifest it began with stays. -/
theorem saveLink_manifest (s : RuntimeManifest × List (String × Cid)) (name : String)
    (entity : EntityPlugin) {w : World} :
    (saveLink env s name entity).Sat [] w fun o _ => ∃ s', o = .ok s' ∧ s'.1 = s.1 := by
  unfold saveLink saveEntityStateWith
  split
  · exact ⟨s, rfl, rfl⟩
  · refine (calm_triggerSave env entity).sat_attempt_bind fun r w1 _ _ => ?_
    split
    · split
      · exact ⟨s, rfl, rfl⟩
      · refine (calm_dagGet _ _).sat_attempt_bind fun r w2 _ _ => ?_
        split
        · exact ⟨s, rfl, rfl⟩
        · refine (calm_dagPut _ _).sat_attempt_bind fun r w3 _ _ => ?_
          split
          · exact ⟨_, rfl, rfl⟩
          · exact ⟨s, rfl, rfl⟩
    · exact ⟨s, rfl, rfl⟩
    · exact ⟨s, rfl, rfl⟩

/-- A save that returns a CID published its mutation of the old manifest. -/
theorem saveAllEntityStates_ok {root newRoot : Cid} {w w' : World}
    (h : saveAllEntityStates env root [] w = (.ok newRoot, w')) :
    ∃ f w1 m, saveCall env root [] w = (.ok f, w1) ∧
      env.kubo.manifests.denotes root = some m ∧
      env.kubo.manifests.denotes newRoot = some (f m) := by
  obtain ⟨m, w1, hget, h⟩ := Proc.bind_ok h
  obtain ⟨snapshot, w2, hsnapshot, h⟩ := Proc.bind_ok h
  obtain ⟨m', w3, hloop, h⟩ := Proc.bind_ok h
  obtain ⟨cid, w4, hput, h⟩ := Proc.bind_ok h
  obtain ⟨r, w5, -, h⟩ := Proc.bind_ok h
  obtain ⟨rfl, -⟩ : cid = newRoot ∧ w5 = w' := by simpa using h
  have hloop := (congrFun (congrFun (saveLoop_eq snapshot (m, [])) []) w2).symm.trans hloop
  obtain ⟨s, w6, hlinks, hpure⟩ := Proc.bind_ok hloop
  obtain ⟨rfl, rfl⟩ : linkedAll s.2 s.1 = m' ∧ w6 = w3 := by simpa using hpure
  have hbegan : s.1 = m := by
    have hkept := Proc.sat_fold (f := fun s (entry : String × EntityPlugin) =>
        saveLink env s entry.1 entry.2) (g := []) (I := fun s _ => s.1 = m)
      (Q := fun o _ => ∀ s', o = .ok s' → s'.1 = m)
      (fun s _ hs s' ho => Lib.Outcome.ok.inj ho ▸ hs) snapshot
      (fun s entry _ w hs => (saveLink_manifest s entry.1 entry.2).mono fun o _ ⟨s', ho, hs'⟩ => by
        subst ho
        exact hs'.trans hs) (m, []) w2 rfl
    exact hkept.of_run hlinks s rfl
  rw [hbegan] at hput
  refine ⟨linkedAll s.2, w6, m, ?_, dagGet_ok (withContext_ok hget),
    dagPut_ok (withContext_ok hput)⟩
  exact (Proc.bind_of_ok hget).trans ((Proc.bind_of_ok hsnapshot).trans (Proc.bind_of_ok hlinks))

/-- A creation that returns published its mutation of the old manifest. -/
theorem persistNewEntity_ok {root : Cid} {fragment : String} {node : EntityNode} {w w' : World}
    (h : persistNewEntity env root fragment node rpcGuards w = (.ok (), w')) :
    ∃ f w1 m newRoot, newEntityCall env root fragment node rpcGuards w = (.ok f, w1) ∧
      env.kubo.manifests.denotes root = some m ∧
      env.kubo.manifests.denotes newRoot = some (f m) ∧ w'.rt.stats.rootCid = some newRoot := by
  obtain ⟨newRoot, w1, hpublish, h⟩ := Proc.bind_ok h
  obtain ⟨r, w2, -, h⟩ := Proc.bind_ok h
  obtain ⟨m, w3, hget, hpublish⟩ := Proc.bind_ok hpublish
  obtain ⟨cid, w4, hput, hpublish⟩ := Proc.bind_ok hpublish
  refine ⟨linkedAs fragment cid, w4, m, newRoot, ?_, dagGet_ok hget, dagPut_ok hpublish, ?_⟩
  · exact (Proc.bind_of_ok hget).trans (Proc.bind_of_ok hput)
  · have hwrite : w' = { w2 with rt := { w2.rt with stats :=
        { w2.rt.stats with rootCid := some newRoot } } } := (congrArg Prod.snd h).symm
    rw [hwrite]

end Calls

/-! ## Events -/

/-- A piece of the loop's work. -/
inductive LoopEvent where
  | crud (message : Message)
  /-- Any other message. -/
  | turn (t : Turn)
  /-- What an RPC message does around its creations. -/
  | plugins
  /-- An entity that a plugin asked for. -/
  | create (fragment : String) (node : EntityNode)
  /-- The way out. -/
  | save

/-- One event. The lock that a creation waits for is free. -/
inductive LoopStep (env : Env) : World → LoopEvent → World → Prop where
  | crud {w : World} {message : Message} :
      LoopStep env w (.crud message) (crudTurn env message [] w).2
  | turn {w w' : World} {t : Turn} (ht : ∀ message, t ≠ .crud message) (h : Step env w t w') :
      LoopStep env w (.turn t) w'
  | plugins {w w' : World} (h : PluginsOnly w w') : LoopStep env w .plugins w'
  | create {w : World} {root : Cid} {fragment : String} {node : EntityNode}
      (hroot : w.rt.stats.rootCid = some root) :
      LoopStep env w (.create fragment node) (persistNewEntity env root fragment node rpcGuards w).2
  | save {w : World} : LoopStep env w .save (shutdown env [] w).2

/-- One event, with the mutations of its calls that returned a CID. -/
inductive Committed (env : Env) : World → LoopEvent × List Mutation → World → Prop where
  | crud {w w1 w2 : World} {message : Message} {f : Mutation} {newCid : Cid}
      (hcall : CrudCalls env message w f w1)
      (hok : withManifestCrud env (fun m => .ok (f m)) [] w1 = (.ok newCid, w2)) :
      Committed env w (.crud message, [f]) (crudTurn env message [] w).2
  | crudErr {w : World} {message : Message}
      (hnone : ∀ f w1 newCid w2, CrudCalls env message w f w1 →
        withManifestCrud env (fun m => .ok (f m)) [] w1 ≠ (.ok newCid, w2)) :
      Committed env w (.crud message, []) (crudTurn env message [] w).2
  | turn {w w' : World} {t : Turn} (ht : ∀ message, t ≠ .crud message) (h : Step env w t w') :
      Committed env w (.turn t, []) w'
  | plugins {w w' : World} (h : PluginsOnly w w') : Committed env w (.plugins, []) w'
  | create {w w1 w' : World} {root : Cid} {fragment : String} {node : EntityNode} {f : Mutation}
      (hroot : w.rt.stats.rootCid = some root)
      (hcall : newEntityCall env root fragment node rpcGuards w = (.ok f, w1))
      (hok : persistNewEntity env root fragment node rpcGuards w = (.ok (), w')) :
      Committed env w (.create fragment node, [f]) w'
  | createErr {w : World} {root : Cid} {fragment : String} {node : EntityNode}
      (hroot : w.rt.stats.rootCid = some root)
      (hnone : (persistNewEntity env root fragment node rpcGuards w).1 ≠ .ok ()) :
      Committed env w (.create fragment node, [])
        (persistNewEntity env root fragment node rpcGuards w).2
  | save {w w1 w2 : World} {root newRoot : Cid} {f : Mutation}
      (hroot : w.rt.stats.rootCid = some root) (hsome : 0 < w.rt.entityRegistry.size)
      (hcall : saveCall env root [] w = (.ok f, w1))
      (hok : saveAllEntityStates env root [] w = (.ok newRoot, w2)) :
      Committed env w (.save, [f]) (shutdown env [] w).2
  | saveErr {w : World} (hnone : ∀ root newRoot w1, w.rt.stats.rootCid = some root →
        0 < w.rt.entityRegistry.size →
          saveAllEntityStates env root [] w ≠ (.ok newRoot, w1)) :
      Committed env w (.save, []) (shutdown env [] w).2

/-- The manifest after the mutations of an event. -/
def mutated (m : RuntimeManifest) (entry : LoopEvent × List Mutation) : RuntimeManifest :=
  entry.2.foldl (fun m f => f m) m

section Events

variable {env : Env}

/-- How a shutdown leaves the root. -/
theorem shutdown_root (w : World) :
    (∃ root newRoot w1, w.rt.stats.rootCid = some root ∧ 0 < w.rt.entityRegistry.size ∧
      saveAllEntityStates env root [] w = (.ok newRoot, w1) ∧
      (shutdown env [] w).2.rt.stats.rootCid = some newRoot) ∨
    (∀ root newRoot w1, w.rt.stats.rootCid = some root → 0 < w.rt.entityRegistry.size →
      saveAllEntityStates env root [] w ≠ (.ok newRoot, w1)) ∧
      SameRoot w (shutdown env [] w).2 := by
  have hread : readStats (fun s => s.rootCid) [] w = (.ok w.rt.stats.rootCid, w) := rfl
  unfold shutdown
  rw [Proc.bind_of_ok hread]
  cases hroot : w.rt.stats.rootCid with
  | none => exact .inr ⟨by simp, rfl⟩
  | some root =>
    dsimp only
    rw [Proc.bind_of_ok (a := w.rt.entityRegistry.size) (t := w) rfl]
    by_cases hsome : w.rt.entityRegistry.size > 0
    · rw [if_pos hsome]
      rcases hsave : saveAllEntityStates env root [] w with ⟨o, w1⟩
      have hcells : CellsOnly w w1 := ((saveAllEntityStates_sat).of_run hsave).1
      have hsame : SameRoot w w1 := congrArg Stats.rootCid hcells.stats
      cases o with
      | ok newRoot =>
        rw [Proc.bind_of_ok (Proc.attempt_of_ok hsave)]
        exact .inl ⟨root, newRoot, w1, rfl, hsome, hsave, rfl⟩
      | err e =>
        rw [Proc.bind_of_ok (Proc.attempt_of_err hsave)]
        refine .inr ⟨fun root' newRoot w2 h _ => ?_, hsame⟩
        obtain rfl := Option.some.inj h
        rw [hsave]
        simp
      | stuck =>
        rw [Proc.bind_of_stuck (Proc.attempt_of_stuck hsave)]
        refine .inr ⟨fun root' newRoot w2 h _ => ?_, hsame⟩
        obtain rfl := Option.some.inj h
        rw [hsave]
        simp
    · rw [if_neg hsome]
      exact .inr ⟨fun _ _ _ _ h => absurd h hsome, rfl⟩

/-- How a CRUD turn leaves the root: after its call if that returns a CID, else as it was. -/
theorem crudTurn_root (message : Message) (w : World) :
    (∃ f w1 newCid w2, CrudCalls env message w f w1 ∧ SameRoot w w1 ∧
      withManifestCrud env (fun m => .ok (f m)) [] w1 = (.ok newCid, w2) ∧
      SameRoot w2 (crudTurn env message [] w).2) ∨
    (∀ f w1 newCid w2, CrudCalls env message w f w1 →
      withManifestCrud env (fun m => .ok (f m)) [] w1 ≠ (.ok newCid, w2)) ∧
      SameRoot w (crudTurn env message [] w).2 := by
  rcases @crudTurn_makes env message w with ⟨f, w1, post, h1, hpost, hturn⟩ | ⟨r, hsame, hturn⟩
  · have hcall : CrudCalls env message w f w1 := ⟨post, hturn⟩
    have hturn : crudTurn env message [] w = _ := hturn (withManifestCrud env)
    rcases hrun : withManifestCrud env (fun m => .ok (f m)) [] w1 with ⟨o, w2⟩
    rcases withManifestCrud_run hrun with ⟨newCid, rfl, -⟩ | ⟨e, rfl, hidle⟩
    · refine .inl ⟨f, w1, newCid, w2, hcall, h1, hrun, ?_⟩
      rw [hturn, Proc.bind_of_ok hrun]
      exact hpost newCid [] w2
    · refine .inr ⟨fun f' w1' newCid w2' hcall' hok => ?_, ?_⟩
      · obtain ⟨rfl, rfl⟩ := hcall.unique hcall'
        exact absurd (hrun.symm.trans hok) (by simp)
      · rw [hturn, Proc.bind_of_err hrun]
        exact trans_of SameRoot h1 hidle.sameRoot
  · refine .inr ⟨fun f w1 _ _ hcall => absurd hcall (not_crudCalls hturn), ?_⟩
    rw [show crudTurn env message [] w = r from hturn (withManifestCrud env)]
    exact hsame

theorem persistNewEntity_sameRoot {root : Cid} {fragment : String} {node : EntityNode}
    {w : World} (h : (persistNewEntity env root fragment node rpcGuards w).1 ≠ .ok ()) :
    SameRoot w (persistNewEntity env root fragment node rpcGuards w).2 := by
  have hsat : (persistNewEntity env root fragment node).Sat rpcGuards w fun o w' =>
      o ≠ .ok () → SameRoot w w' := by
    refine (calm_publishNewEntity root fragment node).sat_bind
      (fun e w1 h1 _ => h1.sameRoot) fun newRoot w1 _ h1 => ?_
    exact (calm_pinUpdate env root newRoot).sat_attempt_bind fun r w2 _ h2 ho => absurd rfl ho
  exact hsat h

/-- The events of the loop are committed ones. -/
theorem committed_of_step {w w' : World} {e : LoopEvent} (h : LoopStep env w e w') :
    ∃ ms, Committed env w (e, ms) w' := by
  cases h with
  | @crud message =>
    rcases crudTurn_root message w with ⟨f, w1, newCid, w2, hcall, -, hok, -⟩ | ⟨hnone, -⟩
    · exact ⟨_, .crud hcall hok⟩
    · exact ⟨_, .crudErr hnone⟩
  | turn ht h => exact ⟨_, .turn ht h⟩
  | plugins h => exact ⟨_, .plugins h⟩
  | @create root fragment node hroot =>
    rcases hrun : persistNewEntity env root fragment node rpcGuards w with ⟨o, w1⟩
    by_cases ho : o = .ok ()
    · subst ho
      obtain ⟨f, w2, m, newRoot, hcall, -⟩ := persistNewEntity_ok hrun
      exact ⟨_, .create hroot hcall hrun⟩
    · have hnone : (persistNewEntity env root fragment node rpcGuards w).1 ≠ .ok () := by
        rw [hrun]
        exact ho
      have hcommitted := Committed.createErr hroot hnone
      rw [hrun] at hcommitted
      exact ⟨_, hcommitted⟩
  | save =>
    rcases shutdown_root w with ⟨root, newRoot, w1, hroot, hsome, hok, -⟩ | ⟨hnone, -⟩
    · obtain ⟨f, w2, m, hcall, -⟩ := saveAllEntityStates_ok hok
      exact ⟨_, .save hroot hsome hcall hok⟩
    · exact ⟨_, .saveErr hnone⟩

/-- **One event**: the manifest at the root goes through the mutations, and the root stays. -/
theorem Committed.atRoot {w w' : World} {entry : LoopEvent × List Mutation}
    (h : Committed env w entry w') {m : RuntimeManifest} (hm : AtRoot env w.rt m) :
    AtRoot env w'.rt (mutated m entry) := by
  have kept {w' : World} (hsame : SameRoot w w') : AtRoot env w'.rt m := (atRoot_congr hsame).mpr hm
  cases h with
  | @crud w1 w2 message f newCid hcall hok =>
    rcases crudTurn_root message w with ⟨f', w1', newCid', w2', hcall', h1, hok', h2⟩ | ⟨hnone, -⟩
    · obtain ⟨rfl, rfl⟩ := hcall'.unique hcall
      obtain ⟨rfl, rfl⟩ : newCid' = newCid ∧ w2' = w2 := by simpa using hok'.symm.trans hok
      rcases withManifestCrud_run hok' with ⟨_, -, hw⟩ | ⟨_, ho, -⟩
      · obtain ⟨m0, hm0, hm'⟩ := hw.atRoot
        obtain rfl := (kept h1).eq hm0
        exact (atRoot_congr h2).mpr hm'
      · exact absurd ho (by simp)
    · exact absurd hok (hnone _ _ _ _ hcall)
  | crudErr hnone =>
    rename_i message
    rcases crudTurn_root message w with ⟨f, w1, newCid, w2, hcall, -, hok, -⟩ | ⟨-, hsame⟩
    · exact absurd hok (hnone _ _ _ _ hcall)
    · exact kept hsame
  | turn ht h =>
    cases h with
    | turn ho => exact kept (sameStores_of_turn env w ht).rootCid
  | plugins h => exact kept (congrArg Stats.rootCid h.stats)
  | create hroot hcall hok =>
    obtain ⟨f', w2, m', newRoot, hcall', hold, hnew, hroot'⟩ := persistNewEntity_ok hok
    obtain ⟨rfl, rfl⟩ : f' = _ ∧ w2 = _ := by simpa [hcall'] using hcall
    obtain rfl := hm.eq ⟨_, hroot, hold⟩
    exact ⟨newRoot, hroot', hnew⟩
  | createErr hroot hnone => exact kept (persistNewEntity_sameRoot hnone)
  | @save w1 w2 root newRoot f hroot hsome hcall hok =>
    obtain ⟨f', w3, m', hcall', hold, hnew⟩ := saveAllEntityStates_ok hok
    obtain ⟨rfl, rfl⟩ : f' = f ∧ w3 = w1 := by simpa [hcall'] using hcall
    obtain rfl := hm.eq ⟨_, hroot, hold⟩
    rcases shutdown_root w with ⟨root', newRoot', w4, hroot', -, hok', hsaved⟩ | ⟨hnone, -⟩
    · obtain rfl : root = root' := Option.some.inj (hroot.symm.trans hroot')
      obtain ⟨rfl, rfl⟩ : newRoot' = newRoot ∧ w4 = w2 := by simpa using hok'.symm.trans hok
      exact ⟨_, hsaved, hnew⟩
    · exact absurd hok (hnone _ _ _ hroot hsome)
  | saveErr hnone =>
    rcases shutdown_root w with ⟨root, newRoot, w1, hroot, hsome, hok, -⟩ | ⟨-, hsame⟩
    · exact absurd hok (hnone _ _ _ hroot hsome)
    · exact kept hsame

/-- The root never goes away. -/
theorem LoopStep.rooted {w w' : World} {e : LoopEvent} (h : LoopStep env w e w')
    (hroot : w.rt.stats.rootCid ≠ none) : w'.rt.stats.rootCid ≠ none := by
  have kept {w' : World} (hsame : SameRoot w w') : w'.rt.stats.rootCid ≠ none := by
    rw [show w'.rt.stats.rootCid = _ from hsame]
    exact hroot
  cases h with
  | @crud message =>
    rcases crudTurn_root message w with ⟨f, w1, newCid, w2, -, -, hok, h2⟩ | ⟨-, hsame⟩
    · rcases withManifestCrud_run hok with ⟨_, -, hw⟩ | ⟨_, ho, -⟩
      · obtain ⟨m, -, ⟨root, hroot', -⟩⟩ := hw.atRoot
        rw [show (crudTurn env message [] w).2.rt.stats.rootCid = _ from h2, hroot']
        simp
      · exact absurd ho (by simp)
    · exact kept hsame
  | turn ht h =>
    cases h with
    | turn ho => exact kept (sameStores_of_turn env w ht).rootCid
  | plugins h => exact kept (congrArg Stats.rootCid h.stats)
  | @create root fragment node hroot =>
    by_cases ho : (persistNewEntity env root fragment node rpcGuards w).1 = .ok ()
    · obtain ⟨f, w2, m, newRoot, -, -, -, hnew⟩ := persistNewEntity_ok (Proc.run_of_outcome ho)
      rw [hnew]
      simp
    · exact kept (persistNewEntity_sameRoot ho)
  | save =>
    rcases shutdown_root w with ⟨root, newRoot, w1, -, -, -, hsaved⟩ | ⟨-, hsame⟩
    · rw [hsaved]
      simp
    · exact kept hsame

/-- **The history of the manifest is linear**: the manifest at the root is the first one under the
mutations of the calls that returned a CID, in order. -/
theorem manifest_history {w w' : World} {es : List LoopEvent} (hr : Run (LoopStep env) w es w') :
    ∃ history : List (LoopEvent × List Mutation), history.map Prod.fst = es ∧
      Run (Committed env) w history w' ∧
      (∀ m, AtRoot env w.rt m → AtRoot env w'.rt (history.foldl mutated m)) ∧
      (w.rt.stats.rootCid ≠ none → w'.rt.stats.rootCid ≠ none) := by
  obtain ⟨history, hes, hhistory⟩ := hr.labelled fun _ _ _ h => committed_of_step h
  refine ⟨history, hes, hhistory, fun m hm => ?_, fun hroot => ?_⟩
  · exact hhistory.refines (A := fun w m => AtRoot env w.rt m)
      (fun _ _ _ _ hstep hm => hstep.atRoot hm) hm
  · exact hr.invariant (I := fun w => w.rt.stats.rootCid ≠ none)
      (fun hroot hstep => hstep.rooted hroot) hroot

end Events

set_option maxRecDepth 100000 in
/-- An ACL is replaced and the daemon shuts down. -/
theorem manifest_history_guests :
    ∃ w history, Run (Committed guestTables.env) (guestStart guestTables.env) history w ∧
      history.map Prod.fst = [.crud closeGuests, .save] ∧
      w.rt.stats.rootCid = some "bafyrestricted" ∧
      AtRoot guestTables.env w.rt (history.foldl mutated (guestsManifest "bafyopenacl")) := by
  have hrun : Run (LoopStep guestTables.env) (guestStart guestTables.env)
      [.crud closeGuests, .save] _ := .cons .crud (.cons .save (.nil _))
  obtain ⟨history, hes, hhistory, hroot, -⟩ := manifest_history hrun
  exact ⟨_, history, hhistory, hes, by decide +kernel,
    hroot _ ⟨"bafyroot", by decide +kernel, rfl⟩⟩

end MaRuntime
