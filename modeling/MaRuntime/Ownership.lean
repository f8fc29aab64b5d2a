import MaRuntime.Crud.Effect
import MaRuntime.FiniteEnv
import MaRuntime.Lib.Run

/-!
# Who owns the runtime

The owner list in memory (`stats.owners`) is set by a claim and by every manifest write, which takes
it over from the manifest it wrote. `OwnerStep` is what ownership is meant to do: an empty list is
claimed, a written list replaces the old one, and nothing else changes it.

* `ownerStep_of_turn`: a turn follows `OwnerStep` whenever the manifest it rewrites names the owners
  in memory or none at all (`OwnersGuard`).
* `owners_stable`: so does every run of such turns, and then a claimed runtime stays claimed.
* `minimal_manifest_loses_claim`: the manifest a daemon bootstraps for itself names an empty list,
  so there the first write after a claim gives the runtime away again.
-/

namespace MaRuntime

open Lib (Cbor Proc Run)

/-! ## Ownership -/

/-- How the owner list may change: an empty list is claimed, a SET of `config.owners` replaces the
list by the written one. -/
inductive OwnerStep (env : Env) (owners : List String) : Turn → List String → Prop where
  | keep {t : Turn} : OwnerStep env owners t owners
  | claimed {owner : String} (h : owners = []) : OwnerStep env owners (.claim owner) [owner]
  | written {message : Message} {value : Cbor} {items : List Yaml}
      (hreq : crudRequest env message = some ("config", ["owners"], .put [value]))
      (hvalue : cborToYaml value = .sequence items) :
      OwnerStep env owners (.crud message) (items.filterMap Yaml.asStr)

/-- The manifest at the root names the owners in memory, or no owner list. -/
def OwnersInSync (env : Env) (rt : Runtime) : Prop :=
  ∀ m owners, AtRoot env rt m → manifestOwners m = some owners → owners = rt.stats.owners

/-- A CRUD message past the gate that may rewrite the manifest, other than one on `config.owners`,
finds the owners in sync. -/
def OwnersGuard (env : Env) (rt : Runtime) (message : Message) : Prop :=
  ∀ ns rest args, crudRequest env message = some (ns, rest, .put args) →
    PassesCrudGate env rt message.from → (ns, rest) ≠ ("config", ["owners"]) →
    OwnersInSync env rt

theorem manifestOwners_congr {m m' : RuntimeManifest}
    (h : m'.config["owners"]? = m.config["owners"]?) : manifestOwners m' = manifestOwners m := by
  unfold manifestOwners
  rw [h]

/-- A write that leaves the manifest's owner list alone keeps the owners, if they were in sync. -/
theorem ManifestWrite.owners_eq {env : Env} {f : RuntimeManifest → RuntimeManifest}
    {rt rt' : Runtime} {newCid : Cid} (hw : ManifestWrite env f rt newCid rt')
    (hsync : OwnersInSync env rt) (hf : ∀ m, (f m).config["owners"]? = m.config["owners"]?) :
    rt'.stats.owners = rt.stats.owners := by
  obtain ⟨hroot, hold, -⟩ := hw
  rename_i oldCid m
  show (manifestOwners (f m)).getD rt.stats.owners = rt.stats.owners
  rw [manifestOwners_congr (hf m)]
  cases ho : manifestOwners m with
  | none => rfl
  | some owners => exact hsync m owners ⟨oldCid, hroot, hold⟩ ho

/-- The owners after a write of `config.owners`: the text entries of a list, else as before. -/
theorem manifestOwners_insert (m : RuntimeManifest) (v : Yaml) :
    manifestOwners { m with config := m.config.insert "owners" v } =
      match v with
      | .sequence items => some (items.filterMap Yaml.asStr)
      | _ => none := by
  unfold manifestOwners
  rw [Std.ExtTreeMap.getElem?_insert_self]
  cases v <;> rfl

theorem manifestOwners_insert_viaJson (readFloat : UInt64 → Number) (m : RuntimeManifest)
    (v : Yaml) :
    manifestOwners { m with config := m.config.insert "owners" (v.viaJson readFloat) } =
      match v with
      | .sequence items => some (items.filterMap Yaml.asStr)
      | _ => none := by
  rw [manifestOwners_insert]
  cases v with
  | sequence items =>
    rw [Yaml.viaJson]
    exact congrArg some (Yaml.filterMap_asStr_viaJson readFloat items)
  | number n =>
    rw [Yaml.viaJson]
    cases n.isFinite with
    | true => rfl
    | false => rfl
  | _ => rfl

theorem manifestOwners_erase (m : RuntimeManifest) :
    manifestOwners { m with config := m.config.erase "owners" } = none := by
  unfold manifestOwners
  rw [Std.ExtTreeMap.getElem?_erase_self]

/-- **What a request does to the owners.** -/
theorem CrudEffect.owners {env : Env} {sender : String} {req : CrudRequest} {rt rt' : Runtime}
    (h : CrudEffect env sender req rt rt')
    (hsync : ∀ ns rest args, req = (ns, rest, .put args) → (ns, rest) ≠ ("config", ["owners"]) →
      OwnersInSync env rt) :
    rt'.stats.owners = rt.stats.owners ∨
      ∃ value items, req = ("config", ["owners"], .put [value]) ∧
        cborToYaml value = .sequence items ∧
        rt'.stats.owners = items.filterMap Yaml.asStr := by
  cases h with
  | idle => exact .inl rfl
  | configDelete hw =>
    rename_i key newCid
    left
    by_cases hkey : key = "owners"
    · subst hkey
      obtain ⟨-, -, -⟩ := hw
      exact congrArg (·.getD rt.stats.owners) (manifestOwners_erase _)
    · refine hw.owners_eq (hsync _ _ _ rfl (by simpa using hkey)) fun m => ?_
      simp [Std.ExtTreeMap.getElem?_erase, hkey]
  | configSet hkey hw =>
    rename_i key value newCid
    by_cases hkey : key = "owners"
    · subst hkey
      obtain ⟨-, -, -⟩ := hw
      rename_i oldCid m
      have howners :=
        congrArg (·.getD rt.stats.owners)
          (manifestOwners_insert_viaJson env.readFloat m (cborToYaml value))
      cases hv : cborToYaml value with
      | sequence items =>
        simp only [hv] at howners
        exact .inr ⟨value, items, rfl, hv, howners⟩
      | _ =>
        simp only [hv] at howners
        exact .inl howners
    · left
      refine hw.owners_eq (hsync _ _ _ rfl (by simpa using hkey)) fun m => ?_
      simp [Std.ExtTreeMap.getElem?_insert, hkey]
  | daemonSet hkey => exact .inl rfl
  | aclSet hdoc hw => exact .inl (hw.owners_eq (hsync _ _ _ rfl (by simp)) fun _ => rfl)
  | aclsSet hw hcache => exact .inl (hw.owners_eq (hsync _ _ _ rfl (by simp)) fun _ => rfl)
  | aclsDelete hw => exact .inl (hw.owners_eq (hsync _ _ _ rfl (by simp)) fun _ => rfl)
  | kindSet hw => exact .inl (hw.owners_eq (hsync _ _ _ rfl (by simp)) fun _ => rfl)
  | kindDelete hw => exact .inl (hw.owners_eq (hsync _ _ _ rfl (by simp)) fun _ => rfl)
  | entityDelete hcap hw => exact .inl (hw.owners_eq (hsync _ _ _ rfl (by simp)) fun _ => rfl)
  | entityDeleteCut hcap => exact .inl rfl
  | entityUpsert hcid hnode hname hcap hw hreg =>
    left
    have howners := hw.owners_eq (hsync _ _ _ rfl (by simp)) fun _ => rfl
    cases hreg with
    | skipped => exact howners
    | loaded => exact howners
  | entityAcl hargs hroot hold hlink hnode hcid hw =>
    left
    rcases hargs with rfl | ⟨rfl, -⟩
    · exact hw.owners_eq (hsync _ _ _ rfl (by simp)) fun _ => rfl
    · exact hw.owners_eq (hsync _ _ _ rfl (by simp)) fun _ => rfl

/-- A claim or a CRUD message that the guard lets pass. -/
def GuardedOwnership (env : Env) (w : World) : Turn → World → Prop
  | .claim owner, w' => Step env w (.claim owner) w'
  | .crud message, w' => OwnersGuard env w.rt message ∧ Step env w (.crud message) w'
  | _, _ => False

/-- One guarded turn follows `OwnerStep`. -/
theorem ownerStep_of_turn {env : Env} {w w' : World} {t : Turn}
    (h : GuardedOwnership env w t w') :
    Step env w t w' ∧ OwnerStep env w.rt.stats.owners t w'.rt.stats.owners := by
  cases t with
  | rpc message => exact h.elim
  | ipfs message => exact h.elim
  | claim owner =>
    refine ⟨h, ?_⟩
    obtain ⟨-⟩ := (show Step env w (.claim owner) w' from h)
    exact claimTurn_cases (P := fun rt => OwnerStep env _ _ rt.stats.owners) .keep
      fun _ hnone => .claimed hnone
  | crud message =>
    obtain ⟨hguard, hstep⟩ := h
    refine ⟨hstep, ?_⟩
    obtain ⟨-⟩ := hstep
    obtain ⟨-, heff⟩ := crudTurn_effect env message w
    show OwnerStep env _ _ (crudTurn env message [] w).2.rt.stats.owners
    cases heff with
    | idle h =>
      rw [h]
      exact .keep
    | request hreq hgate heff =>
      rcases heff.owners fun ns rest args h => hguard ns rest args (h ▸ hreq) hgate with
        h | ⟨value, items, rfl, hvalue, h⟩
      · rw [h]
        exact .keep
      · rw [h]
        exact .written hreq hvalue

/-- The turn is a SET of `config.owners`. -/
def WritesOwners (env : Env) (t : Turn) : Prop :=
  ∃ message value, t = .crud message ∧
    crudRequest env message = some ("config", ["owners"], .put [value])

/-- A claimed runtime keeps its owners in a step that is not a SET of `config.owners`. -/
theorem OwnerStep.owners_eq {env : Env} {owners owners' : List String} {t : Turn}
    (h : OwnerStep env owners t owners') (hclaimed : owners ≠ []) (ht : ¬ WritesOwners env t) :
    owners' = owners := by
  cases h with
  | keep => rfl
  | claimed hnone => exact absurd hnone hclaimed
  | written hreq hvalue => exact absurd ⟨_, _, rfl, hreq⟩ ht

/-- A claimed runtime refuses every claim. -/
theorem handleClaim_refused {env : Env} {w : World} (hclaimed : w.rt.stats.owners ≠ [])
    (owner : String) : (handleClaim env owner [] w).1 = .ok .alreadyClaimed := by
  obtain ⟨r, hr, heff⟩ := handleClaim_effect env owner w
  generalize (handleClaim env owner [] w).2.rt = rt' at heff
  cases heff with
  | refused _ => exact hr
  | claimed hnone => exact absurd hnone hclaimed

/-- **Ownership is stable** over every run of claims and CRUD messages that find the owners in sync
with the manifest they rewrite: every turn follows `OwnerStep`, and a runtime that is claimed stays
with its owners and refuses every claim until `config.owners` is written. -/
theorem owners_stable {env : Env} {w w' : World} {ts : List Turn}
    (hrun : Run (GuardedOwnership env) w ts w') :
    Run (fun w t w' => Step env w t w' ∧
        OwnerStep env w.rt.stats.owners t w'.rt.stats.owners) w ts w' ∧
      (w.rt.stats.owners ≠ [] → (∀ t ∈ ts, ¬ WritesOwners env t) →
        w'.rt.stats.owners = w.rt.stats.owners ∧
          ∀ owner, (handleClaim env owner [] w').1 = .ok .alreadyClaimed) := by
  refine ⟨hrun.mono ownerStep_of_turn, fun hclaimed hwrites => ?_⟩
  have howners : w'.rt.stats.owners = w.rt.stats.owners := by
    induction hrun with
    | nil w => rfl
    | cons hstep _ ih =>
      have h01 := (ownerStep_of_turn hstep).2.owners_eq hclaimed (hwrites _ List.mem_cons_self)
      rw [ih (h01 ▸ hclaimed) fun t ht => hwrites t (List.mem_cons_of_mem _ ht), h01]
  exact ⟨howners, handleClaim_refused (howners ▸ hclaimed)⟩

/-- The owners are in sync with a manifest that names them or none. -/
theorem ownersInSync_of_root {env : Env} {rt : Runtime} {m : RuntimeManifest}
    (hroot : AtRoot env rt m)
    (howners : manifestOwners m = none ∨ manifestOwners m = some rt.stats.owners) :
    OwnersInSync env rt := by
  intro m' owners hroot' ho
  obtain rfl := hroot.eq hroot'
  rcases howners with h | h
  · simp [h] at ho
  · simpa [h] using ho.symm

/-- Kubo with a root manifest that names no owners. -/
def ownerlessTables : Tables where
  manifests :=
    [("bafyroot", {}), ("bafywithacl",
      { acls := (∅ : StrMap IpldLink).insert "open" ⟨"bafyopenacl"⟩ })]

/-- The first owner names an ACL. -/
def nameAcl : Message := crudMessage "did:ma:alice" ":acls.open" (.text "bafyopenacl")

set_option maxRecDepth 100000

/-- Naming an ACL does not write the owners. -/
theorem nameAcl_not_writesOwners (t : Tables) : ¬ WritesOwners t.env (.crud nameAcl) := by
  have hns : (crudRequest ({} : Tables).env nameAcl).map Prod.fst = some "acls" := by
    decide +kernel
  rintro ⟨message, value, ⟨-⟩, hreq⟩
  rw [show crudRequest ({} : Tables).env nameAcl = _ from hreq] at hns
  exact absurd hns (by simp)

/-- Under a manifest that names no owners a claim outlives the next write. -/
theorem owners_stable_ownerless :
    ∃ w1 w2, Step ownerlessTables.env (started ownerlessTables.env (some "bafyroot") [])
        (.claim "did:ma:alice") w1 ∧
      Run (GuardedOwnership ownerlessTables.env) w1 [.crud nameAcl] w2 ∧
      w1.rt.stats.rootCid ≠ w2.rt.stats.rootCid ∧ w2.rt.stats.owners = ["did:ma:alice"] ∧
      (handleClaim ownerlessTables.env "did:ma:mallory" [] w2).1 = .ok .alreadyClaimed := by
  have hsync : OwnersInSync ownerlessTables.env ((Turn.claim "did:ma:alice").run
      ownerlessTables.env [] (started ownerlessTables.env (some "bafyroot") [])).2.rt :=
    ownersInSync_of_root (m := {}) ⟨"bafyroot", by decide +kernel, rfl⟩ (.inl (by decide))
  have hstep : GuardedOwnership ownerlessTables.env _ (.crud nameAcl) _ :=
    ⟨fun _ _ _ _ _ _ => hsync, .turn (by decide +kernel)⟩
  have hrun := Run.cons hstep (.nil _)
  have hstable := (owners_stable hrun).2 (by decide +kernel) fun t ht => by
    obtain rfl : t = .crud nameAcl := by simpa using ht
    exact nameAcl_not_writesOwners ownerlessTables
  exact ⟨_, _, .turn (by decide +kernel), hrun, by decide +kernel, hstable.1.trans
    (by decide +kernel), hstable.2 _⟩

/-! ## The bootstrapped manifest -/

/-- The manifest that `bootstrapMinimalManifest` writes for a daemon nobody owns. -/
def minimalManifest : RuntimeManifest :=
  { acl := some ⟨"bafyemptyacl"⟩
    config := (∅ : StrMap Yaml).insert "owners" (Yaml.strings []) }

/-- Kubo with room for the minimal manifest and for one named ACL in it. -/
def minimalTables : Tables where
  manifests :=
    [("bafyminimal", minimalManifest),
      ("bafywithacl",
        { minimalManifest with acls := (∅ : StrMap IpldLink).insert "open" ⟨"bafyopenacl"⟩ })]
  acls := [("bafyemptyacl", ∅)]

/-- **A daemon that bootstraps its own manifest is claimed twice**: the claimant's first write of
anything takes the empty list over from the manifest, and the next claim goes through. -/
theorem minimal_manifest_loses_claim :
    ∃ w1 w2, Step minimalTables.env (started minimalTables.env none []) (.claim "did:ma:alice") w1 ∧
      Step minimalTables.env w1 (.crud nameAcl) w2 ∧
      w1.rt.stats.owners = ["did:ma:alice"] ∧ w2.rt.stats.owners = [] ∧
      ¬ OwnerStep minimalTables.env w1.rt.stats.owners (.crud nameAcl) w2.rt.stats.owners ∧
      (handleClaim minimalTables.env "did:ma:mallory" [] w2).1 =
        .ok (.claimed ["did:ma:mallory"]) := by
  refine ⟨_, _, .turn (by decide +kernel), .turn (by decide +kernel), by decide +kernel,
    by decide +kernel, fun h => ?_, by decide +kernel⟩
  have howners := h.owners_eq (by decide +kernel) (nameAcl_not_writesOwners minimalTables)
  exact absurd howners (by decide +kernel)

end MaRuntime
