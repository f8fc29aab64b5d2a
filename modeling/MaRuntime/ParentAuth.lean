import MaRuntime.Plugins.Hosted
import MaRuntime.Plugins.Register
import MaRuntime.Rpc

/-!
# Parents and their children

An entity that a plugin asks for gets the bare fragment of its parent in its node, and `init` hands
that on. The plugin compares it with the sender of a message, which is a DID-URL. So a child knows
itself, but takes no message of its parent for one; a sender with the bare name would pass.

* `loaded_accepts`: the senders that a child accepts.
* `parent_never_authorised`: whatever the runtime, the parent and the child are called, that is
  never the parent and the child.
* `parent_denied`: a child denies its parent.
-/

namespace MaRuntime

open Plugins (Locals Session Hosts HoldsSession IsWriter PluginM)

/-- The plugin takes a message of this sender for one of its parent or itself. -/
def Accepts {S : Type} (locals : Locals S) (sender : String) : Prop :=
  (Plugins.isWriter sender [] { locals }).1 = .ok true

theorem accepts_iff {S : Type} {locals : Locals S} {sender : String} :
    Accepts locals sender ↔ IsWriter locals sender := by
  unfold Accepts
  rw [Plugins.isWriter_run sender rfl rfl]
  simp

/-- The DID-URL under which the runtime sends an entity's messages. -/
def entityDid (env : Env) (fragment : String) : String :=
  let ourDid := env.ourDid
  s!"{ourDid}#{fragment}"

/-- The plugin accepts its parent and itself, under their DID-URLs, and no one else. -/
def ParentAuthorised {S : Type} (env : Env) (parent child : String) (locals : Locals S) : Prop :=
  ∀ sender, Accepts locals sender ↔ sender = entityDid env parent ∨ sender = entityDid env child

theorem length_entityDid (env : Env) (fragment : String) :
    (entityDid env fragment).length = env.ourDid.length + 1 + fragment.length := by
  show (env.ourDid ++ "#" ++ fragment).length = _
  rw [String.length_append, String.length_append]
  rfl

/-- A DID-URL is not its fragment. -/
theorem entityDid_ne (env : Env) (fragment : String) : entityDid env fragment ≠ fragment := by
  intro h
  have hlength := congrArg String.length h
  rw [length_entityDid] at hlength
  omega

/-- The plugin of an entity that `entity` asked for holds these cells after it was loaded. -/
structure LoadedChild {S : Type} (env : Env) (wasm : Bytes)
    (sessionIn : Bytes → Option (Session S)) (entity : EntityPlugin) (req : CreateEntityRequest)
    (kindNode : KindNode) (locals : Locals S) : Prop where
  module : env.kubo.blobs.denotes req.behaviourCid = some wasm
  loads : ∃ g w w' ep lifecycle i,
    load env req.fragment (requestedNode entity req) kindNode g w = (.ok (ep, lifecycle), w') ∧
      ep.backend = .extism i ∧ HoldsSession wasm sessionIn (w'.rt.cells i) { locals }

section Child

variable {S : Type} {env : Env} {program : Plugins.Program S} {keeps : Bool} {wasm : Bytes}
  {sessionIn : Bytes → Option (Session S)} {readState : Bytes → Option S} {entity : EntityPlugin}
  {req : CreateEntityRequest} {kindNode : KindNode} {locals : Locals S}

/-- **A child accepts itself, and the bare name of its parent**; without an `init`, only an empty
sender. -/
theorem loaded_accepts (hosts : Hosts env program keeps wasm sessionIn)
    (hinit : program.init = Plugins.initWith env.codec readState)
    (h : LoadedChild env wasm sessionIn entity req kindNode locals) (sender : String) :
    Accepts locals sender ↔
      if kindNode.api.contains "init" then
        sender = entityDid env req.fragment ∨ sender = entity.fragment
      else sender = "" := by
  obtain ⟨g, w, w', ep, lifecycle, i, hload, hbackend, hholds⟩ := h.loads
  have hbehaviour : (requestedNode entity req).behaviour = some ⟨req.behaviourCid⟩ := rfl
  obtain ⟨j, state, hbackend', hholds'⟩ :=
    Plugins.load_hosted hosts hinit hbehaviour h.module hload
  obtain rfl : i = j := EntityBackend.extism.inj (hbackend.symm.trans hbackend')
  have hsession := Option.some.inj (hholds.2.symm.trans hholds'.2)
  obtain rfl := congrArg Session.locals hsession
  rw [accepts_iff]
  unfold IsWriter
  split
  · exact or_congr ⟨Eq.symm, Eq.symm⟩
      ⟨fun h => (Option.some.inj h).symm, fun h => congrArg _ h.symm⟩
  · simp [eq_comm]

/-- **A child never accepts exactly its parent and itself.** -/
theorem not_parentAuthorised (hosts : Hosts env program keeps wasm sessionIn)
    (hinit : program.init = Plugins.initWith env.codec readState)
    (h : LoadedChild env wasm sessionIn entity req kindNode locals) :
    ¬ ParentAuthorised env entity.fragment req.fragment locals := by
  intro hauth
  have hbare := entityDid_ne env entity.fragment
  have hparent := (loaded_accepts hosts hinit h _).mp
    ((hauth (entityDid env entity.fragment)).mpr (.inl rfl))
  split at hparent
  · rename_i hapi
    -- the bare name is accepted too, so it would have to be one of the two DID-URLs
    have hname := (hauth entity.fragment).mp
      ((loaded_accepts hosts hinit h _).mpr (by rw [if_pos hapi]; exact .inr rfl))
    rcases hparent with hsame | hsame
    · rw [← hsame, or_self] at hname
      exact hbare hname.symm
    · exact hbare hsame
  · have hlength := congrArg String.length hparent
    rw [length_entityDid, String.length_empty] at hlength
    omega

end Child

/-- **Neither plugin authorises a parent as its host names it**, whatever the runtime's DID, the
parent and the child. -/
theorem parent_never_authorised (env : Env) (wasm : Bytes) (entity : EntityPlugin)
    (req : CreateEntityRequest) (kindNode : KindNode) :
    (∀ keeps sessionIn locals, Hosts env (Plugins.Set.program env.codec) keeps wasm sessionIn →
        LoadedChild env wasm sessionIn entity req kindNode locals →
        ¬ ParentAuthorised env entity.fragment req.fragment locals) ∧
      ∀ keeps sessionIn locals,
        Hosts env (Plugins.Register.program env.codec) keeps wasm sessionIn →
        LoadedChild env wasm sessionIn entity req kindNode locals →
        ¬ ParentAuthorised env entity.fragment req.fragment locals :=
  ⟨fun _ _ _ hosts h => not_parentAuthorised hosts rfl h,
    fun _ _ _ hosts h => not_parentAuthorised hosts rfl h⟩

/-! ## A club and its friends -/

/-- Kubo with the module of the set plugin. -/
def clubTables : Tables where
  blobs := [("bafysetwasm", [1])]

/-- An entity that asks for sets. -/
def clubPlugin : EntityPlugin :=
  { fragment := "club", kind := .stateful, acl := "open", parent := none, backend := .native }

/-- Its request for one. -/
def friendsRequest : CreateEntityRequest :=
  { fragment := "friends", kindProtocol := "/ma/set/0.0.1", behaviourCid := "bafysetwasm"
    parent := "club" }

/-- The cells of the new set. -/
def friendsLocals : Locals (List String) :=
  { state := [], selfDid := "did:ma:runtime#friends", parent := some "club" }

set_option maxRecDepth 100000 in
theorem friends_loaded : LoadedChild (Plugins.setEnv clubTables) [1] Plugins.readMemory clubPlugin
    friendsRequest Plugins.setKind friendsLocals := by
  have hload : (load (Plugins.setEnv clubTables) "friends" (requestedNode clubPlugin friendsRequest)
      Plugins.setKind [] (started (Plugins.setEnv clubTables) none [])).1 =
      .ok ({ fragment := "friends", kind := .stateful, acl := "open", parent := some "club"
             backend := .extism 0 }, .running) := by decide +kernel
  have hcell : HoldsSession [1] Plugins.readMemory ((load (Plugins.setEnv clubTables) "friends"
      (requestedNode clubPlugin friendsRequest) Plugins.setKind []
      (started (Plugins.setEnv clubTables) none [])).2.rt.cells 0) { locals := friendsLocals } := by
    unfold HoldsSession
    decide +kernel
  exact ⟨rfl, _, _, _, _, _, _, Lib.Proc.run_of_outcome hload, rfl, hcell⟩

/-- The new set does not authorise the club. -/
theorem parent_never_authorised_friends :
    ¬ ParentAuthorised (Plugins.setEnv clubTables) "club" "friends" friendsLocals :=
  (parent_never_authorised (Plugins.setEnv clubTables) [1] clubPlugin friendsRequest
    Plugins.setKind).1 true Plugins.readMemory friendsLocals (Plugins.setEnv_hosts clubTables [1])
    friends_loaded

/-- **A child denies its parent**, and would take anyone with the bare name for it. -/
theorem parent_denied :
    LoadedChild (Plugins.setEnv clubTables) [1] Plugins.readMemory clubPlugin friendsRequest
        Plugins.setKind friendsLocals ∧
      ¬ Accepts friendsLocals (entityDid (Plugins.setEnv clubTables) "club") ∧
      Accepts friendsLocals "club" ∧
      ¬ ParentAuthorised (Plugins.setEnv clubTables) "club" "friends" friendsLocals := by
  have hdenied : ¬ Accepts friendsLocals (entityDid (Plugins.setEnv clubTables) "club") := by
    unfold Accepts
    decide
  exact ⟨friends_loaded, hdenied, by unfold Accepts; decide,
    fun h => hdenied ((h _).mpr (.inl rfl))⟩

end MaRuntime
