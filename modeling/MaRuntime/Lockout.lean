import MaRuntime.Crud.Effect
import MaRuntime.FiniteEnv
import MaRuntime.Lib.Run

/-!
# Owners at the gates

Five gates read the root ACL. Two of them let owners pass first (`rpcGate`, `crudGate`); entity
upsert, entity delete and the IPFS service do not, and `+owners` in the ACL is no member of anything
there. `NotLockedOut` is the promise that no gate ever refuses an owner.

* `notLockedOut_iff`: it holds exactly where the ACL itself grants every owner `*` and denies
  nobody through the wildcard (`OwnersHaveAll`).
* `owners_not_locked_out`: so it holds along every run of claims and `:acl` SETs that install such
  ACLs.
* `empty_acl_locks_owner_out`: an empty ACL document refuses the owner.
-/

namespace MaRuntime

open Lib (Cbor Proc Run)

/-! ## Gates -/

/-- The gates that read the root ACL. -/
inductive Gate where
  | rpc
  | crud
  /-- Upsert of an entity of this kind. -/
  | upsert (kind : String)
  | delete
  | ipfs

/-- Put the sender of a message before a gate. -/
def Gate.check (env : Env) (message : Message) : Gate → M Unit
  | .rpc => do rpcGate env message (← getRt fun rt => rt.rootAcl)
  | .crud => do crudGate env message (← getRt fun rt => rt.rootAcl)
  | .upsert kind => checkEntityManagementCap env message [kind]
  | .delete => checkEntityManagementCap env message ["delete", "entities"]
  | .ipfs => do ipfsGate env message (← getRt fun rt => rt.rootAcl)

/-- No gate refuses an owner. -/
def NotLockedOut (env : Env) (w : World) : Prop :=
  ∀ message : Message, isOwner env.core w.rt.stats.owners message.from = true →
    ∀ gate : Gate, (gate.check env message [] w).1 = .ok ()

/-- The ACL grants everything to the principal, and denies nobody through the wildcard. -/
def GrantsAll (core : MaCore) (acl : AclMap) (principal : String) : Prop :=
  acl["*"]? ≠ some .deny ∧ (core.entryFor acl principal).any (·.grants "*") = true

instance (core : MaCore) (acl : AclMap) (principal : String) :
    Decidable (GrantsAll core acl principal) := inferInstanceAs (Decidable (_ ∧ _))

/-- The root ACL grants everything to every owner. -/
def OwnersHaveAll (env : Env) (rt : Runtime) : Prop :=
  ∀ owner ∈ rt.stats.owners, GrantsAll env.core rt.rootAcl owner

instance (env : Env) (rt : Runtime) : Decidable (OwnersHaveAll env rt) :=
  inferInstanceAs (Decidable (∀ owner ∈ rt.stats.owners, GrantsAll env.core rt.rootAcl owner))

/-! ## What the gates decide -/

section Gates

variable {env : Env} {message : Message} {w : World}

theorem ofExcept_ok_iff {x : Except Error Unit} {g : Lib.Guards Lock} :
    ((Proc.ofExcept x : M Unit) g w).1 = .ok () ↔ x = .ok () := by
  cases x with
  | ok u => exact ⟨fun _ => rfl, fun _ => rfl⟩
  | error e => exact ⟨fun h => absurd h (by simp [Proc.ofExcept]), fun h => absurd h (by simp)⟩

theorem rpcGate_owner (ho : isOwner env.core w.rt.stats.owners message.from = true) (acl : AclMap) :
    (rpcGate env message acl [] w).1 = .ok () := by
  unfold rpcGate
  split
  · rfl
  · rw [Proc.bind_of_ok (a := w.rt.stats.owners) (t := w) rfl, if_pos ho]
    rfl

theorem crudGate_owner (ho : isOwner env.core w.rt.stats.owners message.from = true)
    (acl : AclMap) : (crudGate env message acl [] w).1 = .ok () := by
  rw [crudGate_run, if_pos ho]
  rfl

/-- Who is granted everything passes every check. -/
theorem GrantsAll.passes {core : MaCore} (hcore : core.Lawful) {acl : AclMap} {caller : String}
    (h : GrantsAll core acl caller) {caps : List String} (hcaps : caps ≠ []) :
    checkFullNoGroups core acl caller caps = .ok () := by
  obtain ⟨hstar, hentry⟩ := h
  obtain ⟨entry, hfor, hgrants⟩ := (Option.any_eq_true _ _).mp hentry
  obtain ⟨cap, hcap⟩ := List.exists_mem_of_ne_nil caps hcaps
  refine checkFullNoGroups_ok_iff.mpr ⟨fun hdeny => ?_, hstar, cap, hcap, ?_⟩
  · have hentry : core.entryFor acl caller = some .deny := by
      unfold MaCore.entryFor
      rw [hdeny]
      rfl
    obtain rfl : CapabilityEntry.deny = entry := Option.some.inj (hentry.symm.trans hfor)
    exact absurd hgrants (by simp [CapabilityEntry.grants])
  · rw [hcore, hfor, Option.any_some]
    exact CapabilityEntry.grants_of_all hgrants cap

/-- Owners are compared, and looked up, by their normalised DID. -/
theorem grantsAll_congr {core : MaCore} {acl : AclMap} {o o' : String}
    (h : core.normalizePrincipal o = core.normalizePrincipal o') :
    GrantsAll core acl o ↔ GrantsAll core acl o' := by
  unfold GrantsAll MaCore.entryFor
  rw [h]

/-- **No gate refuses an owner exactly where the ACL grants every owner everything.** -/
theorem notLockedOut_iff (hcore : env.core.Lawful) :
    NotLockedOut env w ↔ OwnersHaveAll env w.rt := by
  constructor
  · intro h owner howner
    have ho : isOwner env.core w.rt.stats.owners owner = true :=
      List.any_eq_true.mpr ⟨owner, howner, by simp⟩
    have hpass := h { (default : Message) with «from» := owner } ho (.upsert "*")
    obtain ⟨-, hstar, cap, hcap, hcheck⟩ :=
      checkFullNoGroups_ok_iff.mp (checkEntityManagementCap_ok_iff.mp hpass)
    obtain rfl := List.mem_singleton.mp hcap
    rw [hcore] at hcheck
    exact ⟨hstar, hcheck⟩
  · intro h message ho gate
    obtain ⟨owner, howner, heq⟩ := List.any_eq_true.mp ho
    have hall : GrantsAll env.core w.rt.rootAcl message.from :=
      (grantsAll_congr (of_decide_eq_true heq)).mp (h owner howner)
    cases gate with
    | rpc => exact rpcGate_owner ho _
    | crud => exact crudGate_owner ho _
    | upsert kind => exact checkEntityManagementCap_ok_iff.mpr (hall.passes hcore (by simp))
    | delete => exact checkEntityManagementCap_ok_iff.mpr (hall.passes hcore (by simp))
    | ipfs => exact ofExcept_ok_iff.mpr (hall.passes hcore (by simp))

end Gates

/-! ## Runs -/

/-- A claim that leaves the claimant with everything, or a SET of `:acl` to a document that grants
everything to every owner the manifest leaves. -/
inductive GrantingStep (env : Env) (w : World) : Turn → World → Prop where
  | claim {owner : String} {w' : World} (hstep : Step env w (.claim owner) w')
      (hgrants : w.rt.stats.owners = [] →
        GrantsAll env.core (w.rt.rootAcl.insert owner (.fromCaps ["*"])) owner) :
      GrantingStep env w (.claim owner) w'
  | set {message : Message} {w' : World} {rest : List String} {cid : Cid}
      (hstep : Step env w (.crud message) w')
      (hreq : crudRequest env message = some ("acl", rest, .put [.text cid]))
      (hgrants : ∀ doc m, env.kubo.acls.denotes cid = some doc → AtRoot env w.rt m →
        ∀ owner ∈ (manifestOwners m).getD w.rt.stats.owners,
          GrantsAll env.core (injectOwners doc) owner) :
      GrantingStep env w (.crud message) w'

/-- A SET of `:acl` installs the document and takes the owners over from the manifest. -/
theorem CrudEffect.aclSet_inv {env : Env} {sender cid : String} {rest : List String}
    {rt rt' : Runtime} (h : CrudEffect env sender ("acl", rest, .put [.text cid]) rt rt') :
    rt' = rt ∨ ∃ doc m, env.kubo.acls.denotes cid = some doc ∧ AtRoot env rt m ∧
      rt'.rootAcl = injectOwners doc ∧
      rt'.stats.owners = (manifestOwners m).getD rt.stats.owners := by
  generalize hreq : ("acl", rest, Args.put [.text cid]) = req at h
  cases h with
  | idle => exact .inl rfl
  | aclSet hdoc hw =>
    obtain ⟨hroot, hold, -⟩ := hw
    simp only [Prod.mk.injEq, Args.put.injEq, List.cons.injEq, Cbor.text.injEq] at hreq
    obtain ⟨-, -, rfl, -⟩ := hreq
    exact .inr ⟨_, _, hdoc, ⟨_, hroot, hold⟩, rfl, rfl⟩
  | _ => simp at hreq

theorem ownersHaveAll_step {env : Env} {w w' : World} {t : Turn} (hstep : GrantingStep env w t w')
    (h : OwnersHaveAll env w.rt) : OwnersHaveAll env w'.rt := by
  cases hstep with
  | claim hstep hgrants =>
    rename_i owner
    obtain ⟨-⟩ := hstep
    refine claimTurn_cases h fun files hnone o ho => ?_
    obtain rfl := List.mem_singleton.mp ho
    exact hgrants hnone
  | set hstep hreq hgrants =>
    rename_i message rest cid
    obtain ⟨-⟩ := hstep
    obtain ⟨-, heff⟩ := crudTurn_effect env message w
    show OwnersHaveAll env (crudTurn env message [] w).2.rt
    generalize (crudTurn env message [] w).2.rt = rt' at heff ⊢
    cases heff with
    | idle heq => exact heq ▸ h
    | request hreq' hgate heff =>
      rw [hreq, Option.some.injEq] at hreq'
      subst hreq'
      rcases heff.aclSet_inv with rfl | ⟨doc, m, hcid, hroot, hacl, howners⟩
      · exact h
      · intro owner howner
        rw [howners] at howner
        rw [hacl]
        exact hgrants doc m hcid hroot owner howner

/-- **Owners are never locked out** along a run of claims and `:acl` SETs that install ACLs granting
every owner everything, and in no other state: no gate refuses an owner exactly where the root ACL
grants everything to all of them. -/
theorem owners_not_locked_out {env : Env} (hcore : env.core.Lawful) :
    (∀ w, NotLockedOut env w ↔ OwnersHaveAll env w.rt) ∧
      ∀ {w w' : World} {ts : List Turn}, OwnersHaveAll env w.rt →
        Run (GrantingStep env) w ts w' → NotLockedOut env w' :=
  ⟨fun _ => notLockedOut_iff hcore, fun h hrun => (notLockedOut_iff hcore).mpr
    (hrun.invariant (I := fun w => OwnersHaveAll env w.rt)
      (fun h hstep => ownersHaveAll_step hstep h) h)⟩

/-! ## An empty document -/

/-- Kubo with a manifest that names no owners, an empty ACL and one for the owner. -/
def aclTables : Tables where
  manifests :=
    [("bafyroot", {}), ("bafyemptied", { acl := some ⟨"bafyemptyacl"⟩ }),
      ("bafyowned", { acl := some ⟨"bafyowneracl"⟩ })]
  acls := [("bafyemptyacl", ∅),
    ("bafyowneracl", (∅ : AclMap).insert "did:ma:alice" (.fromCaps ["*"]))]

/-- The owner sets the root ACL. -/
def setAcl (cid : Cid) : Message := crudMessage "did:ma:alice" ":acl" (.text cid)

set_option maxRecDepth 100000

/-- A claimant who installs an ACL with an entry for herself stays admitted everywhere. -/
theorem owners_not_locked_out_own_entry :
    ∃ w, Run (GrantingStep aclTables.env) (started aclTables.env (some "bafyroot") [])
        [.claim "did:ma:alice", .crud (setAcl "bafyowneracl")] w ∧
      w.rt.stats.owners = ["did:ma:alice"] ∧ NotLockedOut aclTables.env w := by
  let w0 := started aclTables.env (some "bafyroot") []
  let w1 := ((Turn.claim "did:ma:alice").run aclTables.env [] w0).2
  have hclaim : GrantingStep aclTables.env w0 (.claim "did:ma:alice") w1 :=
    .claim (.turn (by decide +kernel)) fun _ => ⟨by decide +kernel, by decide +kernel⟩
  have hreq : crudRequest aclTables.env (setAcl "bafyowneracl") =
      some ("acl", [], .put [.text "bafyowneracl"]) := by decide +kernel
  have hrun := Run.cons hclaim (.cons (.set (.turn (by decide +kernel)) hreq
    fun doc m hdoc hroot owner howner => ?_) (.nil _))
  · exact ⟨_, hrun, by decide +kernel,
      (owners_not_locked_out tableCore_lawful).2 (by decide +kernel) hrun⟩
  · obtain rfl := hroot.eq ⟨"bafyroot", by decide +kernel, rfl⟩
    obtain rfl := Option.some.inj (hdoc.symm.trans rfl)
    have hall : ∀ owner ∈ ["did:ma:alice"], GrantsAll tableCore
        (injectOwners ((∅ : AclMap).insert "did:ma:alice" (.fromCaps ["*"]))) owner := by
      decide +kernel
    refine hall owner ?_
    rwa [show (manifestOwners {}).getD _ = ["did:ma:alice"] by decide +kernel] at howner

/-- **An empty ACL document locks its owner out** of the IPFS service and of entity management. -/
theorem empty_acl_locks_owner_out :
    ∃ w1 w2, Step aclTables.env (started aclTables.env (some "bafyroot") [])
        (.claim "did:ma:alice") w1 ∧
      Step aclTables.env w1 (.crud (setAcl "bafyemptyacl")) w2 ∧
      isOwner tableCore w2.rt.stats.owners "did:ma:alice" = true ∧
      (Gate.ipfs.check aclTables.env (setAcl "bafyemptyacl") [] w2).1 ≠ .ok () ∧
      (Gate.delete.check aclTables.env (setAcl "bafyemptyacl") [] w2).1 ≠ .ok () ∧
      ¬ NotLockedOut aclTables.env w2 := by
  refine ⟨_, _, .turn (by decide +kernel), .turn (by decide +kernel), by decide +kernel,
    by decide +kernel, by decide +kernel, fun h => ?_⟩
  exact absurd (h (setAcl "bafyemptyacl") (by decide +kernel) .ipfs) (by decide +kernel)

end MaRuntime
