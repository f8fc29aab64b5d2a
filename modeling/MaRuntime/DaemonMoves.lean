import MaRuntime.DispatchPaths
import MaRuntime.PluginMoves
import MaRuntime.Startup

/-!
# The daemon as a plugin host

Every piece of the daemon's work takes its plugins along steps of the plugin host, whatever its
outcome, and within the scope of that work: an RPC message touches the plugins it concerns
(`Concerns`), a CRUD message none, a shutdown those of stateful entities.
-/

namespace MaRuntime

open Lib (Cbor Proc)

section Daemon

variable {env : Env} {S : Scope} {P : PluginHost → Prop}

/-! ## CRUD -/

/-- The kind that is looked up is declared. -/
theorem tells_lookupKind (protocol : String) :
    Tells env P (lookupKind env protocol) fun o _ =>
      ∀ kindNode, o = some kindNode → Declares env protocol kindNode := by
  rintro g w w' started started' o hw hpre hrun kindNode rfl
  unfold lookupKind reading Proc.holding at hrun
  split at hrun
  · exact absurd (congrArg Prod.fst hrun) (by simp)
  · rw [Proc.bind_of_ok (a := w.rt.kindRegistry[protocol]?) (t := w) rfl] at hrun
    cases hkind : w.rt.kindRegistry[protocol]? with
    | some k =>
      rw [hkind] at hrun
      obtain rfl := Option.some.inj (Lib.Outcome.ok.inj (congrArg Prod.fst hrun))
      exact hw.kinds protocol k hkind
    | none =>
      rw [hkind] at hrun
      obtain ⟨r, w1, hmanifest, hrun⟩ := Proc.bind_ok hrun
      cases r with
      | error e => exact absurd (congrArg Prod.fst hrun) (by simp)
      | ok m =>
        obtain ⟨root, w2, -, hm⟩ := Proc.bind_ok (Proc.attempt_ok hmanifest)
        cases hlink : m.kinds.getProtocol protocol with
        | none => exact absurd (congrArg Prod.fst hrun) (by simp [hlink])
        | some link =>
          simp only [hlink] at hrun
          obtain ⟨r, w3, hget, hrun⟩ := Proc.bind_ok hrun
          cases r with
          | error e => exact absurd (congrArg Prod.fst hrun) (by simp [Except.toOption])
          | ok k =>
            obtain rfl := Option.some.inj (Lib.Outcome.ok.inj (congrArg Prod.fst hrun))
            exact ⟨root, m, link, dagGet_ok hm, hlink, dagGet_ok (Proc.attempt_ok hget)⟩

/-- A stored node is loaded and registered under the name. -/
theorem moves_registerEntityPlugin (hP : Lasting P) {node : EntityNode}
    (hnode : NodeOrigin env node) {name : String}
    (hstarts : ∀ kindNode, Declares env node.kind kindNode → S.starts name kindNode) :
    Proc.Keeps (Moves env S P) (registerEntityPlugin env name node) := by
  unfold registerEntityPlugin pluginToRegister
  rw [Proc.bind_assoc]
  refine Moves.bind_tells (moves_quiet (quiet_lookupKind _)) (tells_lookupKind _) fun o => ?_
  cases o with
  | none => exact Proc.keeps_pure _
  | some kindNode =>
    have hfact : Lasting fun p => P p ∧ ∀ k, some kindNode = some k →
        Declares env node.kind k := hP.and ⟨fun _ h => h⟩
    refine moves_of_fact (fun _ h => h.2 kindNode rfl) fun hkind => ?_
    dsimp only
    rw [Proc.bind_assoc]
    refine moves_load_bind hfact hnode hkind (hstarts kindNode hkind) (fun e => Proc.keeps_pure _)
      fun ep lifecycle => ?_
    exact moves_register (hfact.and (lasting_sound _ _)) fun _ h => h.2

variable {message : Message}

/-- The kind under which the node at a path starts. -/
inductive StartsAt (env : Env) (path : String) : KindNode → Prop where
  | intro {cid : Cid} {node : EntityNode} {kindNode : KindNode}
      (hcid : ResolvesTo env path cid)
      (hnode : env.kubo.entities.denotes cid = some node)
      (hkind : Declares env node.kind kindNode) : StartsAt env path kindNode

theorem moves_upsertEntity (hP : Lasting P) {name path : String}
    (hstarts : ∀ kindNode, StartsAt env path kindNode → S.starts name kindNode) :
    Proc.Keeps (Moves env S P) (upsertEntity env message name path) := by
  unfold upsertEntity upsertEntityWith
  split
  · exact moves_quiet (quiet_sendCrudReply _ _)
  · split
    · exact moves_quiet (quiet_sendCrudReply _ _)
    · unfold linkEntityWith
      rw [Proc.bind_assoc]
      refine (moves_quiet ((quiet_dagResolve _).mapErr _)).bind_run fun cid hresolve => ?_
      obtain ⟨g1, w1, w1', hresolve⟩ := hresolve
      have hcid := dagResolve_ok (withContext_ok hresolve)
      rw [Proc.bind_assoc]
      refine (moves_quiet ((quiet_kuboCall _).mapErr _)).bind_run fun node hget => ?_
      obtain ⟨g2, w2, w2', hget⟩ := hget
      have hnode := dagGet_ok (withContext_ok hget)
      rw [Proc.bind_assoc]
      refine (moves_quiet (quiet_checkEntityManagementCap _)).bind fun _ => ?_
      rw [Proc.bind_assoc]
      refine (moves_quiet (quiet_withManifestCrud _)).bind fun _ => ?_
      refine (moves_registerEntityPlugin hP (.stored hnode) fun kindNode hkind => ?_).bind
        fun _ => moves_quiet (quiet_sendCrudReply _ _)
      exact hstarts kindNode (.intro hcid hnode hkind)

theorem moves_handleEntitiesNs (hP : Lasting P) {rest : List String} {args : Args}
    (hstarts : ∀ name path kindNode, rest = [name] → args = .put [.text path] →
      StartsAt env path kindNode → S.starts name kindNode) :
    Proc.Keeps (Moves env S P) (handleEntitiesNs env message rest args) := by
  unfold handleEntitiesNs handleEntitiesNsWith
  split
  · split
    · exact moves_quiet ((quiet_reading _ _).bind fun _ => quiet_sendCrudReply _ _)
    · exact moves_quiet (quiet_sendCrudReply _ _)
  · rename_i name
    unfold handleSingleEntityWith
    split
    · refine moves_quiet (quiet_loadManifest.bind fun m => ?_)
      split
      · exact Proc.keeps_fail _
      · exact (quiet_kuboCall _).bind fun _ => quiet_sendCrudReply _ _
    · exact (moves_quiet (quiet_checkEntityManagementCap _)).bind fun _ =>
        (moves_erase hP _).bind fun _ => moves_quiet ((quiet_withManifestCrud _).bind fun _ =>
          quiet_sendCrudReply _ _)
    · exact moves_upsertEntity hP fun kindNode => hstarts _ _ kindNode rfl rfl
    · exact Proc.keeps_fail _
  · exact moves_quiet (quiet_handleEntityField _ _ _ _)

/-- What a CRUD message may do to plugins: it starts the one that it upserts. -/
def crudScope (env : Env) (message : Message) : Scope where
  touches _ := False
  starts name kindNode := ∃ path,
    crudRequest env message = some ("entities", [name], .put [.text path]) ∧
      StartsAt env path kindNode

/-- **A CRUD message touches no plugin**: it starts and registers one, or takes one away. -/
theorem moves_crudTurn (hP : Lasting P) (message : Message) :
    Proc.Keeps (Moves env (crudScope env message) P) (crudTurn env message) := by
  refine (moves_quiet (quiet_reading _ _)).bind fun acl => ?_
  have hgate : Proc.Keeps Quiet (crudGate env message acl) := by
    refine (quiet_reading _ _).bind fun owners => ?_
    split
    · exact Proc.keeps_pure _
    · exact Proc.keeps_ofExcept _
  refine (moves_quiet hgate).bind fun _ => ?_
  unfold dispatchManagementWith
  split
  · exact moves_quiet (quiet_sendCrudReply _ _)
  · rename_i htype
    refine (Proc.keeps_ofExcept _).bind_run fun op hop => ?_
    obtain ⟨_, _, _, hop⟩ := hop
    have hop := Proc.ofExcept_ok hop
    refine (Proc.keeps_ofExcept _).bind_run fun target htarget => ?_
    obtain ⟨_, _, _, htarget⟩ := htarget
    have htarget := Proc.ofExcept_ok htarget
    obtain ⟨ns, rest⟩ := target
    dsimp only
    unfold handleNsWith
    split
    · refine moves_handleEntitiesNs hP fun name path kindNode hrest hargs hkind =>
        ⟨path, ?_, hkind⟩
      subst hrest
      unfold crudRequest
      rw [if_neg htype, hop]
      simp only [htarget, hargs]
    · exact moves_quiet (quiet_handleKindsNs _ _)
    · exact moves_quiet (quiet_handleConfigNs _ _)
    · exact moves_quiet (quiet_handleRootAcl _)
    · exact moves_quiet (quiet_handleRootAcls _ _)
    · exact moves_quiet (quiet_sendCrudReply _ _)

/-! ## RPC -/

/-- The entity could ask for the creation. -/
structure MayCreate (env : Env) (entity : EntityPlugin) (req : CreateEntityRequest)
    (p : PluginHost) : Prop where
  parent : req.parent = entity.fragment
  generated : Generated env req.fragment
  plugin : ∃ i < p.nextCell, (p.cells i).fragment = entity.fragment ∧
    .maCreateEntity ∈ (p.cells i).hostFns

theorem lasting_mayCreate (entity : EntityPlugin) (req : CreateEntityRequest) :
    Lasting (MayCreate env entity req) where
  keep hf h := by
    obtain ⟨i, hi, hfragment, hfns⟩ := h.plugin
    refine ⟨h.parent, h.generated, i, Nat.lt_of_lt_of_le hi hf.nextCell, ?_, ?_⟩
    · rw [hf.fragment i hi]
      exact hfragment
    · rw [hf.hostFns i hi]
      exact hfns

/-- The plugin of the entity may delete entities. -/
def MayErase (entity : EntityPlugin) (p : PluginHost) : Prop :=
  ∃ i < p.nextCell, entity.backend = .extism i ∧ .maDeleteEntity ∈ (p.cells i).hostFns

/-- Plugins of the registered kinds may be started, under names that the daemon generates. -/
def Scope.creates (env : Env) (S : Scope) (kinds : StrMap KindNode) : Prop :=
  ∀ (fragment protocol : String) (kindNode : KindNode), Generated env fragment →
    kinds[protocol]? = some kindNode → S.starts fragment kindNode

theorem lasting_kinds (kinds : StrMap KindNode) : Lasting fun p => p.kinds = kinds :=
  ⟨fun hf h => hf.kinds.trans h⟩

theorem tells_kindRegistry (protocol : String) :
    Tells env P (reading .kindRegistry (getRt fun rt => rt.kindRegistry[protocol]?)) fun o p =>
      ∀ kindNode, o = some kindNode →
        Declares env protocol kindNode ∧ p.kinds[protocol]? = some kindNode := by
  rintro g w w' started started' o hw hpre hrun kindNode rfl
  unfold reading Proc.holding at hrun
  split at hrun
  · exact absurd (congrArg Prod.fst hrun) (by simp)
  · have hkind : w.rt.kindRegistry[protocol]? = some kindNode :=
      Lib.Outcome.ok.inj (congrArg Prod.fst hrun)
    obtain rfl : w = w' := congrArg Prod.snd hrun
    exact ⟨hw.kinds protocol kindNode hkind, hkind⟩

/-- One creation request. -/
theorem moves_createRequested (hP : Lasting P) {entity : EntityPlugin} {req : CreateEntityRequest}
    {kinds : StrMap KindNode} (hS : S.touches entity.fragment) (hcreates : S.creates env kinds)
    (hkinds : ∀ p, P p → p.kinds = kinds) (hreq : ∀ p, P p → MayCreate env entity req p) :
    Proc.Keeps (Moves env S P) (createRequested env entity req) := by
  refine Moves.bind_tells (moves_quiet (quiet_reading _ _)) (tells_kindRegistry _) fun o => ?_
  cases o with
  | none => exact Proc.keeps_pure _
  | some kindNode =>
    have hfact : Lasting fun p => P p ∧ ∀ k, some kindNode = some k →
        Declares env req.kindProtocol k ∧ p.kinds[req.kindProtocol]? = some k := by
      refine hP.and ⟨fun hf h k hk => ⟨(h k hk).1, ?_⟩⟩
      rw [hf.kinds]
      exact (h k hk).2
    refine moves_of_fact (fun _ h => (h.2 kindNode rfl).1) fun hkind => ?_
    refine moves_of_fact (fun p h => hkinds p h.1 ▸ (h.2 kindNode rfl).2) fun hregistered => ?_
    refine moves_of_fact (fun p h => (hreq p h.1).generated) fun hgenerated => ?_
    refine moves_load_bind hfact (.requested entity req) hkind
      (hcreates _ _ _ hgenerated hregistered) (fun e => Proc.keeps_pure _) fun ep lifecycle => ?_
    have hloaded := hfact.and (@lasting_sound env req.fragment ep)
    split
    · rename_i heq
      obtain ⟨rfl, rfl⟩ := Prod.mk.inj (Except.ok.inj heq)
      exact (moves_register hloaded fun _ h => h.2).bind fun _ =>
        moves_quiet (quiet_recordNewEntity _ _)
    · intro g w
      refine Moves.step hloaded fun started _ h => ⟨started, ?_⟩
      obtain ⟨hparent, -, i, hi, hfragment, hfns⟩ := hreq _ h.1.1
      exact .notice (p := w.plugins started) hi (hparent.trans hfragment.symm)
        (hfragment.symm ▸ hS) hfns
    · exact Proc.keeps_pure _
    · exact Proc.keeps_pure _

theorem moves_createRequests (hP : Lasting P) {entity : EntityPlugin} {kinds : StrMap KindNode}
    (hS : S.touches entity.fragment) (hcreates : S.creates env kinds)
    (hkinds : ∀ p, P p → p.kinds = kinds) :
    ∀ {reqs : List CreateEntityRequest}, (∀ p, P p → ∀ req ∈ reqs, MayCreate env entity req p) →
      Proc.Keeps (Moves env S P) (Proc.each reqs (createRequested env entity))
  | [], _ => Proc.keeps_pure ()
  | _ :: _, hreqs =>
    (moves_createRequested hP hS hcreates hkinds fun p hp =>
      hreqs p hp _ List.mem_cons_self).bind fun _ =>
        moves_createRequests hP hS hcreates hkinds fun p hp req hreq =>
          hreqs p hp req (List.mem_cons_of_mem _ hreq)

theorem moves_deleteRequested (hP : Lasting P) (entity : EntityPlugin) (target : String) :
    Proc.Keeps (Moves env S P) (deleteRequested entity target) := by
  refine (moves_quiet (quiet_reading _ _)).bind fun registry => ?_
  split
  · exact Proc.keeps_pure _
  · split
    · exact Proc.keeps_pure _
    · split
      · exact Proc.keeps_pure _
      · exact moves_erase hP _

/-- What a dispatch hands over, the plugin could ask for. -/
structure Entitled (env : Env) (entity : EntityPlugin) (result : DispatchResult) (p : PluginHost) :
    Prop where
  creates : ∀ req ∈ result.createRequests, MayCreate env entity req p
  deletes : ∀ target ∈ result.deleteRequests, MayErase entity p

/-- **A dispatch hands over only what the plugin could ask for.** -/
theorem tells_dispatch {ep : EntityPlugin} (input : CastInput) :
    Tells env (IsHosted ep) (dispatch env ep input) (Entitled env ep) := by
  intro g w w' started started' result hw hhosted hrun
  have hto (exportName : String)
      (hrun : dispatchTo env ep exportName input g w = (.ok result, w')) :
      Entitled env ep result (w'.plugins started') := by
    unfold dispatchTo at hrun
    cases hbackend : ep.backend with
    | native =>
      simp only [hbackend] at hrun
      obtain ⟨_, _, _, _, -, rfl⟩ := schedulerDispatch_ok hrun
      exact ⟨fun _ h => absurd h List.not_mem_nil, fun _ h => absurd h List.not_mem_nil⟩
    | extism i =>
      simp only [hbackend] at hrun
      obtain ⟨output, w1, hcall, hrun⟩ := Proc.bind_ok hrun
      obtain ⟨pending, w2, htake, hrun⟩ := Proc.bind_ok hrun
      obtain ⟨started1, hhosted1, hsteps1⟩ := Proc.Sat.of_run
        (Q := fun _ w1 => Moves env .all (IsHosted ep) w w1)
        (moves_callExport hbackend trivial _ _ g w) hcall started hw hhosted
      obtain ⟨started2, hhosted2, hsteps2⟩ := Proc.Sat.of_run
        (Q := fun _ w2 => Moves env .all (IsHosted ep) w1 w2)
        (moves_takePending hbackend trivial g w1) htake started1 (hsteps1.wired hw) hhosted1
      have hw2 := hsteps2.wired (hsteps1.wired hw)
      obtain ⟨hi, hfragment⟩ := hhosted2 i hbackend
      obtain ⟨queues, w3, hqueues, hrun⟩ := Proc.bind_ok hrun
      obtain ⟨_, w4, hempty, hrun⟩ := Proc.bind_ok hrun
      cases hqueues
      cases hrun
      obtain ⟨started3, -, hsteps3⟩ := Proc.Sat.of_run
        (Q := fun _ w4 => Moves env .all (IsHosted ep) w2 w4)
        (moves_drain hbackend trivial g w2) hempty started2 hw2 hhosted2
      have hlast := hsteps3.endures
      cases hempty
      refine ⟨fun req hreq => ?_, fun target htarget => ?_⟩
      · obtain ⟨hfn, hparent, hgenerated⟩ := (hw2.rights i hi).creates req hreq
        have hmay : MayCreate env ep req (w2.plugins started2) :=
          ⟨hparent.trans hfragment, hgenerated, i, hi, hfragment, hfn⟩
        obtain ⟨hparent, hgenerated, hplugin⟩ := (lasting_mayCreate ep req).keep hlast hmay
        exact ⟨hparent, hgenerated, hplugin⟩
      · have hfn := (hw2.rights i hi).deletes target htarget
        rw [← hlast.hostFns i hi] at hfn
        exact ⟨i, Nat.lt_of_lt_of_le hi hlast.nextCell, hbackend, hfn⟩
  unfold dispatch at hrun
  cases hkind : ep.kind with
  | stateless =>
    simp only [hkind] at hrun
    exact hto _ hrun
  | stateful =>
    simp only [hkind] at hrun
    exact hto _ hrun

/-- What follows a dispatch. -/
theorem moves_processResult {entity : EntityPlugin} {kinds : StrMap KindNode}
    (hS : S.touches entity.fragment) (hcreates : S.creates env kinds) (result : DispatchResult) :
    Proc.Keeps (Moves env S fun p => (IsHosted entity p ∧ p.kinds = kinds) ∧
        ∀ req ∈ result.createRequests, MayCreate env entity req p)
      (processResult env entity result) := by
  have hlasting : Lasting fun p => (IsHosted entity p ∧ p.kinds = kinds) ∧
      ∀ req ∈ result.createRequests, MayCreate env entity req p :=
    ((lasting_isHosted entity).and (lasting_kinds kinds)).and
      ⟨fun hf h req hreq => (lasting_mayCreate entity req).keep hf (h req hreq)⟩
  refine (moves_of_pre hlasting (fun _ h => h.1.1) (moves_persistPending hS _)).bind fun _ => ?_
  exact (moves_createRequests hlasting hS hcreates (fun _ h => h.1.2) fun _ h => h.2).bind fun _ =>
    Proc.Keeps.each (fun _ => moves_deleteRequested hlasting entity _) _

theorem tells_entityRegistry (name : String) :
    Tells env P (reading .entityRegistry (getRt fun rt => rt.entityRegistry[name]?)) fun o p =>
      ∀ ep, o = some ep → Sound env p name ep := by
  rintro g w w' started started' o hw hpre hrun ep rfl
  unfold reading Proc.holding at hrun
  split at hrun
  · exact absurd (congrArg Prod.fst hrun) (by simp)
  · have hep : w.rt.entityRegistry[name]? = some ep :=
      Lib.Outcome.ok.inj (congrArg Prod.fst hrun)
    obtain rfl : w = w' := congrArg Prod.snd hrun
    exact (hw.entities name ep hep).record _

/-- A set actor is asked. -/
theorem moves_queryActorGroup (hP : Lasting P) {groupRef caller : String}
    (hS : ∀ fragment, Text.stripPrefix groupRef "+#" = some fragment → S.touches fragment) :
    Proc.Keeps (Moves env S P) (queryActorGroup env groupRef caller) := by
  unfold queryActorGroup
  cases hfragment : Text.stripPrefix groupRef "+#" with
  | none => exact Proc.keeps_fail _
  | some fragment =>
    refine Moves.bind_tells (moves_quiet (quiet_reading _ _)) (tells_entityRegistry _) fun o => ?_
    cases o with
    | none => exact Proc.keeps_fail _
    | some ep =>
      have hlasting : Lasting fun p => P p ∧ ∀ ep', some ep = some ep' →
          Sound env p fragment ep' :=
        hP.and ⟨fun hf h ep' hep => (h ep' hep).endures hf⟩
      refine (moves_quiet quiet_nextCall).bind fun n => ?_
      refine Proc.Keeps.bind ?_ fun _ => Proc.keeps_pure _
      intro g w started hw hpre
      obtain ⟨hhosted, hname⟩ := (hpre.2 ep rfl).isHosted
      have htouched : S.touches ep.fragment := hname.symm ▸ hS fragment hfragment
      exact moves_of_pre hlasting (fun p h => (h.2 ep rfl).isHosted.1)
        (moves_dispatchTo htouched _ _) g w started hw hpre

section CheckFull

variable {R : World → World → Prop} [IsPreorder World R] {core : MaCore} {caller : String}
  {resolveGroup : String → M (Except Error (List String))}

theorem keeps_inGroup {key : String} (h : Proc.Keeps R (resolveGroup key)) :
    Proc.Keeps R (inGroup core caller resolveGroup key) := h.bind fun _ => Proc.keeps_pure _

theorem keeps_deniedGroup : ∀ l : List (String × CapabilityEntry),
    (∀ e ∈ l, Proc.Keeps R (resolveGroup e.1)) →
      Proc.Keeps R (deniedGroup core caller resolveGroup l)
  | [], _ => Proc.keeps_pure _
  | (key, .deny) :: rest, h => by
    have hrest := keeps_deniedGroup rest fun e he => h e (List.mem_cons_of_mem _ he)
    unfold deniedGroup
    split
    · refine (keeps_inGroup (h _ List.mem_cons_self)).bind fun b => ?_
      split
      · exact Proc.keeps_pure _
      · exact hrest
    · exact hrest
  | (_, .allow _) :: rest, h => by
    unfold deniedGroup
    exact keeps_deniedGroup rest fun e he => h e (List.mem_cons_of_mem _ he)

theorem keeps_allowedGroup (caps : List String) : ∀ l : List (String × CapabilityEntry),
    (∀ e ∈ l, Proc.Keeps R (resolveGroup e.1)) →
      Proc.Keeps R (allowedGroup core caller resolveGroup caps l)
  | [], _ => Proc.keeps_pure _
  | (key, .allow capSet) :: rest, h => by
    have hrest := keeps_allowedGroup caps rest fun e he => h e (List.mem_cons_of_mem _ he)
    unfold allowedGroup
    split
    · refine (keeps_inGroup (h _ List.mem_cons_self)).bind fun b => ?_
      split
      · exact Proc.keeps_pure _
      · exact hrest
    · exact hrest
  | (_, .deny) :: rest, h => by
    unfold allowedGroup
    exact keeps_allowedGroup caps rest fun e he => h e (List.mem_cons_of_mem _ he)

/-- `check_full` resolves no other groups than its ACL names. -/
theorem keeps_checkFull {acl : AclMap} (h : ∀ e ∈ acl.toList, Proc.Keeps R (resolveGroup e.1))
    (caps : List String) : Proc.Keeps R (checkFull core caller resolveGroup acl caps) := by
  unfold checkFull
  split
  · exact Proc.keeps_pure _
  · split
    · exact Proc.keeps_pure _
    · split
      · exact Proc.keeps_pure _
      · refine (keeps_deniedGroup _ h).bind fun o => ?_
        split
        · exact Proc.keeps_pure _
        · refine (keeps_allowedGroup _ _ h).bind fun b => ?_
          dsimp only
          split
          · exact Proc.keeps_pure _
          · exact Proc.keeps_pure _

end CheckFull

/-- The groups that the ACL of an entity asks about. -/
def AsksGroup (rt : Runtime) (entity : EntityPlugin) (fragment : String) : Prop :=
  ∃ acl key, rt.aclCache[s!"acls.{entity.acl}"]? = some acl ∧ key ∈ acl ∧
    Text.stripPrefix key "+#" = some fragment

/-- The gate of an entity asks the set actors that its ACL names. -/
theorem moves_authorizeEntity (hP : Lasting P) {term : Cbor} {entity : EntityPlugin}
    {g : Lib.Guards Lock} {w : World}
    (hS : ∀ fragment, AsksGroup w.rt entity fragment → S.touches fragment) :
    Moves env S P w (authorizeEntity env message term entity g w).2 := by
  unfold authorizeEntity
  dsimp only
  split
  · exact refl_of (Moves env S P) w
  · refine (moves_quiet (quiet_reading _ _)).sat_bind (Q := fun _ w' => Moves env S P w w')
      (fun _ _ h => h) (fun _ h => h) fun o w1 hlook h1 => ?_
    cases o with
    | none => exact h1
    | some aclMap =>
      have hacl : w.rt.aclCache[s!"acls.{entity.acl}"]? = some aclMap := by
        unfold reading Proc.holding at hlook
        split at hlook
        · exact absurd (congrArg Prod.fst hlook) (by simp)
        · exact Lib.Outcome.ok.inj (congrArg Prod.fst hlook)
      refine trans_of (Moves env S P) h1 (Proc.Keeps.mapErr ?_ _ g w1)
      refine (keeps_checkFull (fun e he => ?_) _).bind fun _ => Proc.keeps_ofExcept _
      refine (moves_queryActorGroup hP fun fragment hfragment => hS fragment ?_).attempt
      refine ⟨aclMap, e.1, hacl, ?_, hfragment⟩
      exact Std.ExtTreeMap.mem_iff_isSome_getElem?.mpr (by
        rw [Std.ExtTreeMap.mem_toList_iff_getElem?_eq_some.mp he]
        rfl)

/-- The plugins that an RPC message reaches: the entity it names, and the set actors that the ACL
of the entity asks about. -/
inductive Concerns (env : Env) (rt : Runtime) (message : Message) : String → Prop where
  | entity {fragment : String}
      (h : Text.stripPrefix message.to (env.ourDid ++ "#") = some fragment) :
      Concerns env rt message fragment
  | group {name fragment : String} {entity : EntityPlugin}
      (h : Text.stripPrefix message.to (env.ourDid ++ "#") = some name)
      (hentity : rt.entityRegistry[name]? = some entity) (hgroup : AsksGroup rt entity fragment) :
      Concerns env rt message fragment

/-- What an RPC message may do to plugins: it starts only such as the daemon names, of the kinds
that are registered. -/
def rpcScope (env : Env) (rt : Runtime) (message : Message) : Scope where
  touches := Concerns env rt message
  starts fragment kindNode :=
    Generated env fragment ∧ ∃ protocol : String, rt.kindRegistry[protocol]? = some kindNode

theorem moves_handleEntityPluginMessage {term : Cbor} {entity : EntityPlugin}
    {kinds : StrMap KindNode} {g : Lib.Guards Lock} {w : World} (hS : S.touches entity.fragment)
    (hgroups : ∀ fragment, AsksGroup w.rt entity fragment → S.touches fragment)
    (hcreates : S.creates env kinds) :
    Moves env S (fun p => IsHosted entity p ∧ p.kinds = kinds) w
      (handleEntityPluginMessage env message term entity g w).2 := by
  have hlasting := (lasting_isHosted entity).and (lasting_kinds kinds)
  refine Proc.Keeps.after (fun _ => ?_) (moves_authorizeEntity hlasting hgroups)
  refine Moves.bind_tells (moves_of_pre hlasting (fun _ h => h.1) (moves_dispatch hS _))
    (fun g w w' started started' result hw h hrun => ?_) fun result =>
      moves_processResult hS hcreates result
  exact (tells_dispatch _ g w w' started started' result hw h.1 hrun).creates

/-- A message to a fragment. -/
theorem moves_dispatchFragment (hP : Lasting P) {term : Cbor} {fragment : String}
    {g : Lib.Guards Lock} {w : World} (hS : S.touches fragment)
    (hgroups : ∀ entity, w.rt.entityRegistry[fragment]? = some entity →
      ∀ group, AsksGroup w.rt entity group → S.touches group)
    (hcreates : S.creates env w.rt.kindRegistry) :
    Moves env S P w (dispatchFragment env message term fragment g w).2 := by
  unfold dispatchFragment dispatchFragmentWith
  refine (moves_quiet (quiet_reading _ _)).sat_bind (Q := fun _ w' => Moves env S P w w')
    (fun _ _ h => h) (fun _ h => h) fun o w1 hlook h1 => ?_
  obtain ⟨rfl, rfl⟩ : w.rt.entityRegistry[fragment]? = o ∧ w = w1 := by
    unfold reading Proc.holding at hlook
    split at hlook
    · exact absurd (congrArg Prod.fst hlook) (by simp)
    · exact ⟨Lib.Outcome.ok.inj (congrArg Prod.fst hlook), congrArg Prod.snd hlook⟩
  cases hentity : w.rt.entityRegistry[fragment]? with
  | none => exact moves_quiet (quiet_sendRpcReply _ _) g w
  | some entity =>
    refine Proc.Keeps.after (fun r => ?_) ?_
    · split
      · exact Proc.keeps_pure _
      · exact moves_quiet (quiet_sendRpcReply _ _)
    · rw [Proc.attempt_snd]
      intro started hw hpre
      obtain ⟨hhosted, hname⟩ := (hw.entities fragment entity hentity).isHosted
      obtain ⟨started', -, hsteps⟩ := moves_handleEntityPluginMessage (g := g)
        (hname.symm ▸ hS) (hgroups entity hentity) hcreates started hw ⟨hhosted, rfl⟩
      exact ⟨started', hP.keep hsteps.endures hpre, hsteps⟩

theorem quiet_rpcGate (message : Message) (acl : AclMap) :
    Proc.Keeps Quiet (rpcGate env message acl) := by
  unfold rpcGate
  split
  · exact Proc.keeps_pure _
  · refine (quiet_reading _ _).bind fun owners => ?_
    split
    · exact Proc.keeps_pure _
    · exact Proc.keeps_ofExcept _

/-- **An RPC message touches the plugins that it concerns**, and no other. -/
theorem moves_rpcTurn (hP : Lasting P) (message : Message) (w : World) :
    Moves env (rpcScope env w.rt message) P w (rpcTurn env message [] w).2 := by
  have hcounted : Moves env (rpcScope env w.rt message) P w (counted w) :=
    Quiet.moves fun _ => rfl
  refine trans_of (Moves env _ P) hcounted ?_
  show Moves env (rpcScope env w.rt message) P (counted w)
    (handleRpcMessage env message w.rt.rootAcl rpcGuards (counted w)).2
  have hgate := (@calm_rpcGate rpcGuards env rfl message w.rt.rootAcl)
  have reply {w1 : World} (body : ReplyBody) :
      Moves env (rpcScope env w.rt message) P w1
        (sendRpcReply env message body rpcGuards w1).2 :=
    moves_quiet (quiet_sendRpcReply _ _) _ _
  refine (moves_quiet (quiet_rpcGate message _)).sat_bind
    (Q := fun _ w' => Moves env (rpcScope env w.rt message) P (counted w) w')
    (fun _ _ h => h) (fun _ h => h) fun _ w1 hrun h1 => trans_of (Moves env _ P) h1 ?_
  have hrt : w1.rt = (counted w).rt := (hgate.of_run hrun).2
  split
  · exact refl_of (Moves env _ P) w1
  · cases env.codec.decode message.payload with
    | none => exact refl_of (Moves env _ P) w1
    | some term =>
      cases hfragment : Text.stripPrefix message.to (env.ourDid ++ "#") with
      | some fragment =>
        refine moves_dispatchFragment hP (.entity hfragment) (fun entity hentity group hgroup => ?_)
          fun _ _ _ hname hkind => ?_
        · rw [hrt] at hentity hgroup
          exact .group hfragment hentity hgroup
        · rw [hrt] at hkind
          exact ⟨hname, _, hkind⟩
      | none =>
        dsimp only
        split
        · split
          · exact reply _
          · exact reply _
        · exact reply _

/-! ## The other pieces of work -/

/-- **A scheduled job touches its own entity.** -/
theorem moves_dispatchScheduled (hP : Lasting P) {fragment : String} (hS : S.touches fragment)
    (nowNanos : UInt64) (id : String) (content : Bytes) :
    Proc.Keeps (Moves env S P) (dispatchScheduled env nowNanos id fragment content) := by
  refine Moves.bind_tells (moves_quiet (quiet_reading _ _)) (tells_entityRegistry _) fun o => ?_
  cases o with
  | none => exact Proc.keeps_pure _
  | some plugin =>
    have hlasting : Lasting fun p => P p ∧ ∀ ep, some plugin = some ep →
        Sound env p fragment ep := hP.and ⟨fun hf h ep hep => (h ep hep).endures hf⟩
    intro g w started hw hpre
    obtain ⟨hhosted, hname⟩ := (hpre.2 plugin rfl).isHosted
    have htouched : S.touches plugin.fragment := hname.symm ▸ hS
    refine moves_of_pre hlasting (fun p h => (h.2 plugin rfl).isHosted.1) ?_ g w started hw hpre
    refine (moves_dispatch htouched _).attempt.bind fun r => ?_
    split
    · exact moves_persistPending htouched _
    · exact Proc.keeps_pure _

/-- One entity's state is saved. -/
theorem moves_saveEntityState {entity : EntityPlugin}
    (hS : entity.kind = .stateful → S.touches entity.fragment) (m : RuntimeManifest)
    (name : String) :
    Proc.Keeps (Moves env S (IsHosted entity)) (saveEntityState env m name entity) :=
  keeps_saveEntityState (fun call => moves_quiet (quiet_kuboCall call))
    (fun hstateful => moves_triggerSave (hS hstateful)) m name

/-- The name of a stateful entity. -/
def Stateful (rt : Runtime) (name : String) : Prop :=
  ∃ ep, rt.entityRegistry[name]? = some ep ∧ ep.kind = .stateful

/-- What a shutdown may do to plugins. -/
def shutdownScope (rt : Runtime) : Scope where
  touches := Stateful rt
  starts _ _ := False

theorem moves_saveAllEntityStates (hP : Lasting P) (rootCid : Cid) (w : World) :
    Moves env (shutdownScope w.rt) P w (saveAllEntityStates env rootCid [] w).2 := by
  have hfetch : Proc.Calm [] Idle (withContext "fetching current runtime manifest"
      (dagGet env.kubo.manifests rootCid)) := calm_withContext _ (calm_dagGet _ _)
  refine (moves_quiet ((quiet_kuboCall _).mapErr _)).sat_bind
    (Q := fun _ w' => Moves env (shutdownScope w.rt) P w w') (fun _ _ h => h) (fun _ h => h)
    fun m w1 hrun h1 => trans_of (Moves env _ P) h1 ?_
  have hrt : w1.rt = w.rt := (hfetch.of_run hrun).2
  rw [Proc.bind_of_ok (a := w1.rt.entityRegistry.toList) (t := w1) rfl]
  intro started hw hpre
  have hentry {e : String × EntityPlugin} (he : e ∈ w1.rt.entityRegistry.toList) :
      w1.rt.entityRegistry[e.1]? = some e.2 := Std.ExtTreeMap.mem_toList_iff_getElem?_eq_some.mp he
  -- The entities of the snapshot stay what they are while their states are saved.
  have hlasting : Lasting fun p => P p ∧ ∀ e ∈ w1.rt.entityRegistry.toList,
      Sound env p e.1 e.2 := hP.and ⟨fun hf h e he => (h e he).endures hf⟩
  refine moves_of_pre (P := fun p => P p ∧ ∀ e ∈ w1.rt.entityRegistry.toList, Sound env p e.1 e.2)
    hlasting (fun _ h => h) ?_ [] w1 started hw ⟨hpre, fun e he => hw.entities _ _ (hentry he)⟩
    |>.imp fun started' h => ⟨h.1.1, h.2⟩
  refine (Proc.Keeps.fold _ (fun m e he => ?_) _).bind fun m => ?_
  · obtain ⟨name, entity⟩ := e
    intro g w2 started hw hpre
    obtain ⟨hhosted, hname⟩ := (hpre.2 _ he).isHosted
    refine moves_of_pre hlasting (fun p h => (h.2 _ he).isHosted.1)
      (moves_saveEntityState (fun hkind => ?_) m name) g w2 started hw hpre
    refine ⟨entity, ?_, hkind⟩
    rw [← hrt, hname]
    exact hentry he
  · exact (moves_quiet ((quiet_kuboCall _).mapErr _)).bind fun newRoot =>
      (moves_quiet (quiet_pinUpdate _ _).attempt).bind fun _ => Proc.keeps_pure _

/-- **A shutdown touches plugins of stateful entities only.** -/
theorem moves_shutdown (hP : Lasting P) (w : World) :
    Moves env (shutdownScope w.rt) P w (shutdown env [] w).2 := by
  unfold shutdown
  rw [Proc.bind_of_ok (a := w.rt.stats.rootCid) (t := w) rfl]
  cases w.rt.stats.rootCid with
  | none => exact refl_of (Moves env _ P) w
  | some root =>
    dsimp only
    rw [Proc.bind_of_ok (a := w.rt.entityRegistry.size) (t := w) rfl]
    split
    · refine Proc.Keeps.after (fun r => ?_) ?_
      · split
        · exact moves_quiet (quiet_writeStats _)
        · exact Proc.keeps_pure _
      · rw [Proc.attempt_snd]
        exact moves_saveAllEntityStates hP root w
    · exact refl_of (Moves env _ P) w

/-- What the start of the daemon may do to plugins: it starts those of the root manifest. -/
def startupScope (env : Env) (rootCid : Option Cid) : Scope where
  touches _ := False
  starts name kindNode := ∃ root, rootCid = some root ∧ StartsFrom env root name kindNode

/-- The first root is the one that is named, or that of a manifest without entities. -/
theorem initialRoot_entities {rootCid : Option Cid} {g : Lib.Guards Lock} {w w' : World}
    {root : Cid} (h : initialRoot env rootCid g w = (.ok (some root), w')) :
    rootCid = some root ∨
      ∃ m, env.kubo.manifests.denotes root = some m ∧ m.entities = ∅ := by
  cases rootCid with
  | some cid => exact .inl (Lib.Outcome.ok.inj (congrArg Prod.fst h))
  | none =>
    obtain ⟨r, w1, hrun, h⟩ := Proc.bind_ok h
    cases r with
    | error e => exact absurd (congrArg Prod.fst h) (by simp [Except.toOption])
    | ok cid =>
      obtain rfl := Option.some.inj (Lib.Outcome.ok.inj (congrArg Prod.fst h))
      obtain ⟨aclCid, w2, -, hrun⟩ := Proc.bind_ok (Proc.attempt_ok hrun)
      obtain ⟨newRoot, w3, hput, hrun⟩ := Proc.bind_ok hrun
      obtain ⟨_, w4, -, hrun⟩ := Proc.bind_ok hrun
      obtain rfl := Lib.Outcome.ok.inj (congrArg Prod.fst hrun)
      exact .inr ⟨_, dagPut_ok (withContext_ok hput), rfl⟩

/-- The daemon starts. -/
theorem moves_startup (hP : Lasting P) (rootCid : Option Cid) (cliOwners : List String) :
    Proc.Keeps (Moves env (startupScope env rootCid) P) (startup env rootCid cliOwners) := by
  have hroot : Proc.Keeps Quiet (initialRoot env rootCid) := by
    unfold initialRoot
    split
    · exact Proc.keeps_pure _
    · refine Proc.Keeps.bind (Proc.Keeps.attempt ?_) fun _ => Proc.keeps_pure _
      exact ((quiet_kuboCall _).mapErr _).bind fun _ => ((quiet_kuboCall _).mapErr _).bind fun _ =>
        ((quiet_pinAdd _).mapErr _).bind fun _ => Proc.keeps_pure _
  have hacls (root : Cid) : Proc.Keeps Quiet (loadAcls env root) := by
    refine (quiet_kuboCall _).attempt.bind fun r => ?_
    split
    · exact Proc.keeps_pure _
    · refine (quiet_whenSome fun link => ?_).bind fun _ => ?_
      · refine (quiet_loadAclFromCid _).attempt.bind fun r => ?_
        split
        · exact quiet_writing _ fun _ _ => rfl
        · exact Proc.keeps_pure _
      · refine (Proc.Keeps.fold _ (fun _ _ _ => ?_) _).bind fun _ => quiet_writing _ fun _ _ => rfl
        refine (quiet_loadAclFromCid _).attempt.bind fun r => ?_
        split
        · exact Proc.keeps_pure _
        · exact Proc.keeps_pure _
  have hseed (owners : List String) : Proc.Keeps Quiet (seedOwners owners) := by
    unfold seedOwners
    split
    · exact Proc.keeps_pure _
    · exact quiet_grantOwnersInAcl _
  refine (moves_quiet hroot).bind_run fun found hfound => ?_
  obtain ⟨g, w, w', hfound⟩ := hfound
  refine Proc.Keeps.bind ?_ fun _ => ?_
  · cases found with
    | none => exact Proc.keeps_pure _
    | some root =>
      refine (moves_loadEntities hP fun name kindNode hstarts => ?_).bind fun _ =>
        Proc.keeps_pure _
      rcases initialRoot_entities hfound with hroot | ⟨m, hm, hnone⟩
      · exact ⟨root, hroot, hstarts⟩
      · obtain @⟨m', link, _, _, _, hm', hlink, -, -, -⟩ := hstarts
        obtain rfl := Option.some.inj (hm.symm.trans hm')
        rw [hnone] at hlink
        exact absurd hlink (by simp)
  · refine (moves_register hP fun _ _ => .native rfl).bind fun _ => moves_quiet ?_
    refine (quiet_whenSome hacls).bind fun _ => (Proc.keeps_look _).bind fun config => ?_
    exact (hseed _).bind fun _ => (quiet_reading _ _).bind fun names => quiet_writeStats _

/-- Before startup there is nothing. -/
theorem wired_blank (config : Config) (files : StrMap (Except Error Config))
    (cells : Nat → PluginCell) :
    Wired env (World.plugins ⟨blankRuntime config files cells, {}⟩ []) where
  entities name ep hep := absurd hep (by simp [World.plugins, blankRuntime])
  rights i hi := absurd hi (Nat.not_lt_zero i)
  cells i hi := absurd hi (Nat.not_lt_zero i)
  started e he := absurd he List.not_mem_nil
  kinds protocol kindNode hkind := absurd hkind (by simp [World.plugins, blankRuntime])
  envelopes e he := absurd he List.not_mem_nil

end Daemon

end MaRuntime
