import MaRuntime.FiniteEnv
import MaRuntime.Lib.Run
import MaRuntime.Startup
import MaRuntime.Crud.Effect

/-!
# The ACL cache and the manifest

The entity gate reads named ACLs from a cache that startup fills and `:acls.<name>` writes keep up
to date. A SET links the new document in the manifest first and fetches it afterwards: where that
fetch fails, the cache keeps the document that was replaced.

* `CacheFresh`: what is cached under a name is the document that the root manifest links there.
* `cacheFresh_run`: it holds from startup on, in every run whose SETs of a cached name reach the
  cache.
* `stale_acl_after_set`: it is lost where the fetch of the new document fails.
-/

namespace MaRuntime

open Lib (Cbor ContentStore Proc Run)

/-! ## Freshness -/

/-- The document that the named ACLs of a manifest link, under its cache key. -/
def LinkedAcl (env : Env) (acls : StrMap IpldLink) (key : String) (acl : AclMap) : Prop :=
  ∃ aclName link doc, key = aclCacheKey aclName ∧ acls[aclName]? = some link ∧
    env.kubo.acls.denotes link.cid = some doc ∧ acl = injectOwners doc

/-- Whatever is cached is linked by the manifest at the root. -/
def CacheFresh (env : Env) (rt : Runtime) : Prop :=
  ∀ key acl, rt.aclCache[key]? = some acl → ∃ m, AtRoot env rt m ∧ LinkedAcl env m.acls key acl

/-- The manifest write of `:acls.<name>`. -/
def linkAcl (aclName : String) (cid : Cid) (m : RuntimeManifest) : RuntimeManifest :=
  { m with acls := m.acls.insert aclName ⟨cid⟩ }

/-- A SET that gets into the manifest finds nothing in the cache under its name, or the document it
links, or Kubo answers the fetch of that document. -/
def ReachesCache (env : Env) (w : World) (aclName : String) (cid : Cid) : Prop :=
  ∀ newRoot w1, withManifestCrud env (fun m => .ok (linkAcl aclName cid m)) [] w =
      (.ok newRoot, w1) →
    w.rt.aclCache[aclCacheKey aclName]? = none ∨
      (∃ doc, env.kubo.acls.denotes cid = some doc ∧
        w.rt.aclCache[aclCacheKey aclName]? = some (injectOwners doc)) ∨
      ∃ doc, env.kubo.acls.get w1.io.calls cid = .ok doc

theorem aclCacheKey_injective : Function.Injective aclCacheKey := by
  intro a b h
  unfold aclCacheKey at h
  simpa [toString] using h

section Fresh

variable {env : Env}

/-- A write that leaves the named ACLs alone. -/
theorem CacheFresh.kept {f : RuntimeManifest → RuntimeManifest} {rt rt' : Runtime} {newCid : Cid}
    (h : CacheFresh env rt) (hw : ManifestWrite env f rt newCid rt')
    (hf : ∀ m, (f m).acls = m.acls) : CacheFresh env rt' := by
  intro key acl hget
  obtain ⟨m, hm, hm'⟩ := hw.atRoot
  rw [hw.frame] at hget
  obtain ⟨m0, hm0, hlinked⟩ := h key acl hget
  obtain rfl := hm.eq hm0
  exact ⟨f m, hm', by rw [hf]; exact hlinked⟩

theorem CacheFresh.congr {rt rt' : Runtime} (h : CacheFresh env rt)
    (hroot : rt'.stats.rootCid = rt.stats.rootCid) (hcache : rt'.aclCache = rt.aclCache) :
    CacheFresh env rt' := by
  intro key acl hget
  rw [hcache] at hget
  obtain ⟨m, hm, hlinked⟩ := h key acl hget
  exact ⟨m, (atRoot_congr hroot).mpr hm, hlinked⟩

/-- The links of the other names stay. -/
theorem LinkedAcl.insert_other {acls : StrMap IpldLink} {key aclName : String} {acl : AclMap}
    (h : LinkedAcl env acls key acl) (hne : key ≠ aclCacheKey aclName) (link : IpldLink) :
    LinkedAcl env (acls.insert aclName link) key acl := by
  obtain ⟨aclName', link', doc, rfl, hlink, hdoc, hacl⟩ := h
  refine ⟨aclName', link', doc, rfl, ?_, hdoc, hacl⟩
  rw [getElem?_insert_of_ne (ne_of_apply_ne aclCacheKey hne), hlink]

theorem LinkedAcl.erase_other {acls : StrMap IpldLink} {key aclName : String} {acl : AclMap}
    (h : LinkedAcl env acls key acl) (hne : key ≠ aclCacheKey aclName) :
    LinkedAcl env (acls.erase aclName) key acl := by
  obtain ⟨aclName', link', doc, rfl, hlink, hdoc, hacl⟩ := h
  refine ⟨aclName', link', doc, rfl, ?_, hdoc, hacl⟩
  rw [getElem?_erase_of_ne (ne_of_apply_ne aclCacheKey hne), hlink]

/-! ## CRUD messages -/

/-- Every effect but a SET of a named ACL. -/
theorem CrudEffect.cacheFresh {sender : String} {req : CrudRequest} {rt rt' : Runtime}
    (heff : CrudEffect env sender req rt rt') (h : CacheFresh env rt)
    (hset : ∀ aclName cid, req ≠ ("acls", [aclName], .put [.text cid])) : CacheFresh env rt' := by
  cases heff with
  | idle => exact h
  | configDelete hw => exact h.kept hw fun _ => rfl
  | configSet hkey hw => exact h.kept hw fun _ => rfl
  | daemonSet hkey => exact h
  | aclSet hdoc hw => exact (h.kept hw fun _ => rfl).congr rfl rfl
  | aclsSet hw hcache => exact absurd rfl (hset _ _)
  | @aclsDelete _ rt1 aclName _ hw =>
    intro key acl hget
    obtain ⟨m, hm, hm'⟩ := hw.atRoot
    rw [Std.ExtTreeMap.getElem?_erase] at hget
    split at hget
    · exact absurd hget (by simp)
    · rename_i hne
      obtain ⟨m0, hm0, hlinked⟩ := h key acl hget
      obtain rfl := hm.eq hm0
      have hne : key ≠ aclCacheKey aclName := by
        rintro rfl
        simp at hne
      exact ⟨_, hm', hlinked.erase_other hne⟩
  | kindSet hw => exact h.kept hw fun _ => rfl
  | kindDelete hw => exact h.kept hw fun _ => rfl
  | @entityDelete _ _ name _ hcap hw =>
    have h1 : CacheFresh env { rt with entityRegistry := rt.entityRegistry.erase name } := h
    exact h1.kept hw fun _ => rfl
  | entityDeleteCut hcap => exact h
  | entityUpsert hcid hnode hname hcap hw hreg =>
    have h1 := h.kept hw fun _ => rfl
    cases hreg with
    | skipped => exact h1
    | loaded _ _ _ => exact h1
  | entityAcl hargs hroot hold hlink hnode hcid hw => exact h.kept hw fun _ => rfl

/-- A fetch that Kubo answers gets into the cache. -/
theorem aclCacheUpdate_of_get {key : String} {cid : Cid} {doc : AclMap} {w : World}
    (hget : env.kubo.acls.get w.io.calls cid = .ok doc) :
    (aclCacheUpdate env key cid).Sat [] w fun o w' => o = .ok () ∧
      w'.rt = { w.rt with aclCache := w.rt.aclCache.insert key (injectOwners doc) } := by
  have hload : loadAclFromCid env cid [] w =
      (.ok (injectOwners doc), { w with io := { w.io with calls := w.io.calls + 1 } }) :=
    (Proc.bind_of_ok (withContext_of_ok (dagGet_of_get hget))).trans rfl
  exact Proc.sat_bind_of_ok (Proc.attempt_of_ok hload) ⟨rfl, rfl⟩

/-- After the link of a name changed, a cache is fresh that has the new document there, or
nothing. -/
theorem CacheFresh.relinked {rt rt' : Runtime} {aclName : String} {cid newCid : Cid}
    {cache : StrMap AclMap} (h : CacheFresh env rt)
    (hw : ManifestWrite env (linkAcl aclName cid) rt newCid rt')
    (hself : ∀ acl, cache[aclCacheKey aclName]? = some acl →
      ∃ doc, env.kubo.acls.denotes cid = some doc ∧ acl = injectOwners doc)
    (hother : ∀ key, key ≠ aclCacheKey aclName → cache[key]? = rt.aclCache[key]?) :
    CacheFresh env { rt' with aclCache := cache } := by
  intro key acl hget
  have hget : cache[key]? = some acl := hget
  obtain ⟨m, hm, hm'⟩ := hw.atRoot
  refine ⟨linkAcl aclName cid m, hm', ?_⟩
  by_cases hkey : key = aclCacheKey aclName
  · subst hkey
    obtain ⟨doc, hdoc, hacl⟩ := hself acl hget
    exact ⟨aclName, ⟨cid⟩, doc, rfl, Std.ExtTreeMap.getElem?_insert_self, hdoc, hacl⟩
  · rw [hother key hkey] at hget
    obtain ⟨m0, hm0, hlinked⟩ := h key acl hget
    obtain rfl := hm.eq hm0
    exact hlinked.insert_other hkey _

/-- The cache after a SET that reaches it. -/
theorem reachesCache_sat {w w1 : World} {aclName : String} {cid newRoot : Cid}
    (hw : ManifestWrite env (linkAcl aclName cid) w.rt newRoot w1.rt) (h : CacheFresh env w.rt)
    (hreach : w.rt.aclCache[aclCacheKey aclName]? = none ∨
      (∃ doc, env.kubo.acls.denotes cid = some doc ∧
        w.rt.aclCache[aclCacheKey aclName]? = some (injectOwners doc)) ∨
      ∃ doc, env.kubo.acls.get w1.io.calls cid = .ok doc) :
    (aclCacheUpdate env (aclCacheKey aclName) cid).Sat [] w1 fun _ w2 => CacheFresh env w2.rt := by
  have hcache : w1.rt.aclCache = w.rt.aclCache := by rw [hw.frame]
  have inserted {doc : AclMap} (hdoc : env.kubo.acls.denotes cid = some doc) :
      CacheFresh env { w1.rt with
        aclCache := w.rt.aclCache.insert (aclCacheKey aclName) (injectOwners doc) } := by
    refine h.relinked hw (fun acl hget => ?_) fun key hkey => ?_
    · rw [Std.ExtTreeMap.getElem?_insert_self] at hget
      exact ⟨doc, hdoc, (Option.some.inj hget).symm⟩
    · rw [getElem?_insert_of_ne hkey]
  by_cases hanswer : ∃ doc, env.kubo.acls.get w1.io.calls cid = .ok doc
  · obtain ⟨doc, hget⟩ := hanswer
    refine (aclCacheUpdate_of_get hget).mono fun o w2 ⟨_, h2⟩ => ?_
    rw [h2, hcache]
    exact inserted (env.kubo.acls.get_denotes hget)
  · refine (aclCacheUpdate_sat _ _).mono fun o w2 ⟨_, cache, h2, hcases⟩ => ?_
    rw [h2]
    rw [hcache] at hcases
    rcases hcases with rfl | ⟨doc, hdoc, rfl⟩
    · refine h.relinked hw (fun acl hget => ?_) fun _ _ => rfl
      rcases hreach with hnone | ⟨doc, hdoc, hsame⟩ | hanswer'
      · exact absurd (hnone.symm.trans hget) (by simp)
      · exact ⟨doc, hdoc, Option.some.inj (hget.symm.trans hsame)⟩
      · exact absurd hanswer' hanswer
    · exact inserted hdoc

/-- **A SET of a named ACL that reaches the cache keeps it fresh.** -/
theorem setAcls_cacheFresh {message : Message} {w : World} {aclName : String} {cid : Cid}
    (h : CacheFresh env w.rt) (hreach : isCidv1 cid = true → ReachesCache env w aclName cid) :
    (handleRootAcls env message [aclName] (.put [.text cid])).Sat [] w fun _ w' =>
      CacheFresh env w'.rt := by
  have hprog : handleRootAcls env message [aclName] (.put [.text cid]) =
      (if !isCidv1 cid then sendCrudI18nError env message "cidv1-required"
      else do
        let newRoot ← withManifestCrud env fun m => .ok (linkAcl aclName cid m)
        aclCacheUpdate env (aclCacheKey aclName) cid
        sendCrudReply env message (.okCid newRoot)) := rfl
  have idle {w' : World} (hi : Idle w w') : CacheFresh env w'.rt := by
    rw [show w'.rt = w.rt from hi]
    exact h
  rw [hprog]
  split
  · exact (calm_sendCrudI18nError _).sat fun _ _ _ hi => idle hi
  · rename_i hcid
    have hreach := hreach (by simpa using hcid)
    refine Proc.sat_bind_run (fun newRoot w1 hrun => ?_) (fun e w1 hrun => ?_) fun w1 hrun => ?_
    · rcases withManifestCrud_run hrun with ⟨_, -, hw⟩ | ⟨_, he, -⟩
      · refine Proc.sat_bind ((reachesCache_sat hw h (hreach newRoot w1 hrun)).mono
          fun o w2 hfresh => ?_)
        cases o with
        | ok u =>
          exact (calm_sendCrudReply message _).sat fun _ w3 _ hi => by
            rw [show w3.rt = w2.rt from hi]
            exact hfresh
        | err e => exact hfresh
        | stuck => exact hfresh
      · exact absurd he (by simp)
    · rcases withManifestCrud_run hrun with ⟨_, he, -⟩ | ⟨_, -, hi⟩
      · exact absurd he (by simp)
      · exact idle hi
    · rcases withManifestCrud_run hrun with ⟨_, he, -⟩ | ⟨_, he, -⟩
      · exact absurd he (by simp)
      · exact absurd he (by simp)

/-! ## Startup -/

/-- The ACLs that load are linked ones. -/
theorem loadNamedAcls_sat (acls : StrMap IpldLink) (w : World) :
    (loadNamedAcls env acls.toList).Sat [] w fun o _ =>
      ∀ entries, o = .ok entries → ∀ (key : String) (acl : AclMap), entries[key]? = some acl →
        LinkedAcl env acls key acl := by
  refine Proc.sat_fold (I := fun (entries : StrMap AclMap) _ => ∀ (key : String) (acl : AclMap),
    entries[key]? = some acl → LinkedAcl env acls key acl) (fun entries _ h entries' he => ?_) _
    ?_ ∅ w fun key acl hget => absurd hget (by simp)
  · obtain rfl := Lib.Outcome.ok.inj he
    exact h
  · rintro entries ⟨aclName, link⟩ hentry w1 h
    have hlink := Std.ExtTreeMap.mem_toList_iff_getElem?_eq_some.mp hentry
    refine (calm_loadAclFromCid env link.cid).attempt.sat_bind
      (fun e w2 _ entries' he => absurd he (by simp)) fun r w2 hrun _ => ?_
    cases r with
    | error e => exact h
    | ok acl =>
      obtain ⟨doc, hdoc, rfl⟩ := loadAclFromCid_ok (Proc.attempt_ok hrun)
      intro key acl' hget
      rw [Std.ExtTreeMap.getElem?_insert] at hget
      split at hget
      · rename_i heq
        obtain rfl : aclCacheKey aclName = key := by simpa using heq
        exact ⟨aclName, link, doc, rfl, hlink, hdoc, (Option.some.inj hget).symm⟩
      · exact h key acl' hget

/-- What startup caches is linked by the manifest it read. -/
theorem loadAcls_cache {rc : Cid} {w : World} (hempty : w.rt.aclCache = ∅) :
    (loadAcls env rc).Sat [] w fun _ w' => ∀ (key : String) (acl : AclMap),
      w'.rt.aclCache[key]? = some acl →
        ∃ m, env.kubo.manifests.denotes rc = some m ∧ LinkedAcl env m.acls key acl := by
  have unfilled {w' : World} (h : w'.rt.aclCache = ∅) (key : String) (acl : AclMap)
      (hget : w'.rt.aclCache[key]? = some acl) :
      ∃ m, env.kubo.manifests.denotes rc = some m ∧ LinkedAcl env m.acls key acl := by
    rw [h] at hget
    exact absurd hget (by simp)
  refine (calm_dagGet _ _).attempt.sat_bind
    (fun e w1 h1 => unfilled (by rw [show w1.rt = w.rt from h1]; exact hempty))
      fun r w1 hrun h1 => ?_
  have hempty1 : w1.rt.aclCache = ∅ := by
    rw [show w1.rt = w.rt from h1]
    exact hempty
  cases r with
  | error e => exact unfilled hempty1
  | ok m =>
    have hm := dagGet_ok (Proc.attempt_ok hrun)
    obtain ⟨_, w2, h2⟩ := @total_loadRootAcl env m.acl w1
    obtain ⟨entries, w3, h3⟩ := @total_loadNamedAcls env m.acls.toList w2
    refine Proc.sat_bind_of_ok h2 (Proc.sat_bind_of_ok h3 ?_)
    exact fun key acl hget =>
      ⟨m, hm, (loadNamedAcls_sat m.acls w2).of_run h3 entries rfl key acl hget⟩

/-- **Startup fills the cache from the manifest at the root.** -/
theorem booted_cacheFresh {config : Config} {files : StrMap (Except Error Config)}
    {cells : Nat → PluginCell} {rootCid : Option Cid} {cliOwners : List String} :
    CacheFresh env (booted env config files cells rootCid cliOwners).rt := by
  obtain ⟨root, w1, w2, w3, ⟨-, h1⟩, ⟨-, h2⟩, ⟨h3, -⟩, hrun⟩ :=
    startup_run env rootCid cliOwners ⟨blankRuntime config files cells, {}⟩
  have hempty : w2.rt.withScheduler.aclCache = ∅ := by
    show w2.rt.aclCache = ∅
    rw [show w2.rt = _ from h2, show w1.rt = _ from h1]
    rfl
  unfold booted
  rw [hrun]
  intro key acl hget
  cases root with
  | none =>
    obtain rfl : { w2 with rt := w2.rt.withScheduler } = w3 := (Prod.mk.inj h3).2
    have hget : w2.rt.withScheduler.aclCache[key]? = some acl := hget
    rw [hempty] at hget
    exact absurd hget (by simp)
  | some rc =>
    have h3 : loadAcls env rc [] { w2 with rt := w2.rt.withScheduler } = (.ok (), w3) := h3
    have hcache := (loadAcls_cache (w := { w2 with rt := w2.rt.withScheduler }) hempty).of_run h3
    obtain ⟨m, hm, hlinked⟩ := hcache key acl hget
    exact ⟨m, ⟨rc, rfl, hm⟩, hlinked⟩

/-! ## Runs -/

/-- A turn whose SETs of named ACLs reach the cache. -/
def CacheKeepingStep (env : Env) (w : World) (t : Turn) (w' : World) : Prop :=
  (∀ message aclName cid, t = .crud message → PassesCrudGate env w.rt message.from →
    crudRequest env message = some ("acls", [aclName], .put [.text cid]) →
      isCidv1 cid = true → ReachesCache env w aclName cid) ∧ Step env w t w'

/-- **One turn keeps the cache fresh.** -/
theorem cacheFresh_step {w w' : World} {t : Turn} (h : CacheFresh env w.rt)
    (hstep : CacheKeepingStep env w t w') : CacheFresh env w'.rt := by
  obtain ⟨hreach, ⟨-⟩⟩ := hstep
  by_cases hcrud : ∃ message, t = .crud message
  · obtain ⟨message, rfl⟩ := hcrud
    show CacheFresh env (crudTurn env message [] w).2.rt
    rcases crudTurn_cases env message w with ⟨hgate, hturn⟩ | ⟨e, hturn⟩
    · rw [hturn]
      rcases dispatchManagement_cases env message w with
        ⟨ns, rest, args, hreq, hrun⟩ | ⟨-, -, hidle⟩
      · rw [hrun]
        by_cases hset : ∃ aclName cid, (ns, rest, args) = ("acls", [aclName], .put [.text cid])
        · obtain ⟨aclName, cid, heq⟩ := hset
          simp only [Prod.mk.injEq] at heq
          obtain ⟨rfl, rfl, rfl⟩ := heq
          exact setAcls_cacheFresh h (hreach message aclName cid rfl hgate hreq)
        · have heff := (@handleNs_effects env message w ns rest args).2
          exact heff.cacheFresh h fun aclName cid heq => hset ⟨aclName, cid, heq⟩
      · rwa [show _ = w.rt from hidle]
    · rwa [hturn]
  · have hsame := sameStores_of_turn env w fun message heq => hcrud ⟨message, heq⟩
    exact h.congr hsame.rootCid hsame.aclCache

/-- **The ACL cache is never stale** in a run from startup whose SETs of a cached name either leave
its document or have the new one fetched. -/
theorem cacheFresh_run {config : Config} {files : StrMap (Except Error Config)}
    {cells : Nat → PluginCell} {rootCid : Option Cid} {cliOwners : List String} {w' : World}
    {ts : List Turn}
    (hrun : Run (CacheKeepingStep env) (booted env config files cells rootCid cliOwners) ts w') :
    CacheFresh env w'.rt :=
  hrun.invariant (I := fun w => CacheFresh env w.rt) (fun h hstep => cacheFresh_step h hstep)
    booted_cacheFresh

end Fresh

/-! ## A SET whose fetch fails -/

/-- A root manifest with a named ACL. -/
def guestsManifest (cid : Cid) : RuntimeManifest :=
  { acls := (∅ : StrMap IpldLink).insert "guests" ⟨cid⟩ }

/-- The manifest before and after the SET, the ACL that lets everyone in and the one that lets
nobody in. -/
def guestTables : Tables where
  manifests := [("bafyroot", guestsManifest "bafyopenacl"),
    ("bafyrestricted", guestsManifest "bafyclosedacl")]
  acls := [("bafyopenacl", (∅ : AclMap).insert "*" (.fromCaps ["*"])), ("bafyclosedacl", ∅)]

/-- Kubo stops answering gets of ACL documents at call `n`. -/
def Tables.flakyFrom (t : Tables) (n : Nat) : Env :=
  { t.env with kubo := { t.kubo with acls := t.kubo.acls.failingFrom n ["timed out"] } }

/-- The owner replaces the ACL. -/
def closeGuests : Message := crudMessage "did:ma:alice" ":acls.guests" (.text "bafyclosedacl")

/-- The daemon with the open ACL in its cache, before Kubo stops answering. -/
def guestStart (env : Env) : World := started env (some "bafyroot") ["did:ma:alice"]

set_option maxRecDepth 100000

/-- A SET whose document is fetched replaces the entry. -/
theorem cacheFresh_run_closed :
    ∃ w, Run (CacheKeepingStep guestTables.env) (guestStart guestTables.env) [.crud closeGuests] w ∧
      w.rt.aclCache["acls.guests"]?.map (·.keys) = some ["+owners"] ∧
      CacheFresh guestTables.env w.rt := by
  have hreq : crudRequest guestTables.env closeGuests =
      some ("acls", ["guests"], .put [.text "bafyclosedacl"]) := by decide +kernel
  have hrun := @Run.cons _ _ (CacheKeepingStep guestTables.env) _ _ _ _ _
    ⟨fun message aclName cid heq _ hreq' _ newRoot w1 _ => by
      obtain rfl := Turn.crud.inj heq
      rw [hreq] at hreq'
      simp only [Option.some.injEq, Prod.mk.injEq, List.cons.injEq, Args.put.injEq,
        Cbor.text.injEq, and_true, true_and] at hreq'
      obtain ⟨rfl, rfl⟩ := hreq'
      exact .inr (.inr ⟨∅, rfl⟩),
      Step.turn (w := guestStart guestTables.env) (t := .crud closeGuests) (by decide +kernel)⟩
    (.nil _)
  exact ⟨_, hrun, by decide +kernel, cacheFresh_run hrun⟩

/-- **The replaced ACL stays in the cache**: the SET is acknowledged, the manifest links the ACL
that lets nobody in, and the cache has the one that lets everyone in. -/
theorem stale_acl_after_set :
    ∃ w, Run (Step (guestTables.flakyFrom 3)) (guestStart (guestTables.flakyFrom 3))
        [.crud closeGuests] w ∧
      w.io.replies.map (·.body.isSuccess) = [true] ∧
      AtRoot (guestTables.flakyFrom 3) w.rt (guestsManifest "bafyclosedacl") ∧
      (w.rt.aclCache["acls.guests"]?.map fun acl =>
        checkFullNoGroups tableCore acl "did:ma:mallory" ["enter"]) = some (.ok ()) ∧
      ¬ CacheFresh (guestTables.flakyFrom 3) w.rt := by
  have hroot : AtRoot (guestTables.flakyFrom 3)
      ((Turn.crud closeGuests).run (guestTables.flakyFrom 3) []
        (guestStart (guestTables.flakyFrom 3))).2.rt (guestsManifest "bafyclosedacl") :=
    ⟨"bafyrestricted", by decide +kernel, rfl⟩
  have hgrants : (((Turn.crud closeGuests).run (guestTables.flakyFrom 3) []
      (guestStart (guestTables.flakyFrom 3))).2.rt.aclCache["acls.guests"]?.map fun acl =>
        checkFullNoGroups tableCore acl "did:ma:mallory" ["enter"]) = some (.ok ()) := by
    decide +kernel
  refine ⟨_, .cons (.turn (by decide +kernel)) (.nil _), by decide +kernel, hroot, hgrants,
    fun h => ?_⟩
  obtain ⟨acl, hacl, hok⟩ := Option.map_eq_some_iff.mp hgrants
  obtain ⟨m, hm, aclName, link, doc, hkey, hlink, hdoc, rfl⟩ := h _ _ hacl
  obtain rfl := hm.eq hroot
  obtain rfl : "guests" = aclName := aclCacheKey_injective hkey
  obtain rfl := Option.some.inj (hlink.symm.trans (Std.ExtTreeMap.getElem?_insert_self))
  obtain rfl : ∅ = doc := Option.some.inj hdoc
  exact absurd hok (by decide +kernel)

end MaRuntime
