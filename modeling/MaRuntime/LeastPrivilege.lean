import MaRuntime.DaemonMoves

/-!
# What plugins can do, over whole runs

A run of the daemon is a start and then messages, scheduled jobs and a shutdown, each whatever its
outcome (`HostStep`).

* **`entities_sound`**: in every state, what is registered runs the code and has the host functions
  that its documents name.
* **`least_privilege`**: no plugin holds more than its host functions give, and every envelope was
  sent by a plugin that may send it, or is the daemon's own notice.
* **`plugins_isolated`**: a plugin that no piece of work concerns stays exactly as it is, memory
  included, and says nothing.
-/

namespace MaRuntime

open Lib (Cbor Proc Run)

/-! ## Events -/

/-- What the daemon does, as its plugins see it. -/
inductive HostEvent where
  | turn (t : Turn)
  | scheduled (nowNanos : UInt64) (id fragment : String) (content : Bytes)
  | shutdown

/-- Do it. -/
def HostEvent.run (env : Env) : HostEvent → M Unit
  | .turn t => t.run env
  | .scheduled nowNanos id fragment content => dispatchScheduled env nowNanos id fragment content
  | .shutdown => MaRuntime.shutdown env

/-- One piece of work from the idle loop, whatever its outcome. -/
inductive HostStep (env : Env) : World → HostEvent → World → Prop where
  | run {w : World} {e : HostEvent} : HostStep env w e (e.run env [] w).2

/-- The plugins that an event may touch: those a message concerns, the target of a job, and at the
shutdown those of stateful entities. -/
def HostEvent.touches (env : Env) (rt : Runtime) : HostEvent → String → Prop
  | .turn (.rpc message) => Concerns env rt message
  | .scheduled _ _ fragment _ => fun f => f = fragment
  | .shutdown => Stateful rt
  | _ => fun _ => False

/-- The plugins that an event may start. -/
def HostEvent.starts (env : Env) (rt : Runtime) : HostEvent → String → KindNode → Prop
  | .turn (.rpc message) => (rpcScope env rt message).starts
  | .turn (.crud message) => (crudScope env message).starts
  | _ => fun _ _ => False

/-- What an event may do to plugins. -/
def HostEvent.scope (env : Env) (rt : Runtime) (e : HostEvent) : Scope where
  touches := e.touches env rt
  starts := e.starts env rt

/-- A CRUD message of the run upserts the entity. -/
def Upserted (env : Env) (es : List HostEvent) (fragment : String) (kindNode : KindNode) : Prop :=
  ∃ message, .turn (.crud message) ∈ es ∧ (crudScope env message).starts fragment kindNode

section Runs

variable {env : Env}

/-- Nothing is known beforehand. -/
theorem lasting_true : Lasting fun _ => True := ⟨fun _ _ => trivial⟩

/-- **Every event stays within its scope.** -/
theorem HostStep.moves {w w' : World} {e : HostEvent} (h : HostStep env w e w') :
    Moves env (e.scope env w.rt) (fun _ => True) w w' := by
  obtain @⟨e⟩ := h
  cases e with
  | turn t =>
    cases t with
    | rpc message => exact moves_rpcTurn lasting_true message w
    | crud message => exact moves_crudTurn lasting_true message [] w
    | ipfs message => exact moves_quiet (quiet_ipfsTurn message) [] w
    | claim owner =>
      exact moves_quiet ((quiet_handleClaim owner).bind fun _ => Proc.keeps_pure _) [] w
  | scheduled nowNanos id fragment content =>
    exact moves_dispatchScheduled lasting_true rfl nowNanos id content [] w
  | shutdown => exact moves_shutdown lasting_true w

/-- An event keeps the plugins wired up, and adds to the record what it may start. -/
theorem HostStep.wired {w w' : World} {e : HostEvent} (h : HostStep env w e w')
    {started : List (String × KindNode)} (hw : Wired env (w.plugins started)) :
    ∃ started', Wired env (w'.plugins started') ∧
      Endures (e.scope env w.rt) (w.plugins started) (w'.plugins started') := by
  obtain ⟨started', -, hsteps⟩ := h.moves started hw trivial
  exact ⟨started', hsteps.wired hw, hsteps.endures⟩

/-- No kind is registered, so an event starts what it upserts. -/
theorem upserted_of_starts {rt : Runtime} {e : HostEvent} {fragment : String} {kindNode : KindNode}
    (hkinds : rt.kindRegistry = ∅) (h : e.starts env rt fragment kindNode) :
    Upserted env [e] fragment kindNode := by
  cases e with
  | turn t =>
    cases t with
    | rpc message =>
      obtain ⟨-, protocol, hkind⟩ := h
      rw [hkinds, Std.ExtTreeMap.getElem?_empty] at hkind
      cases hkind
    | crud message => exact ⟨message, List.mem_singleton_self _, h⟩
    | ipfs message => exact h.elim
    | claim owner => exact h.elim
  | scheduled => exact h.elim
  | shutdown => exact h.elim

/-- An event keeps the plugins wired up, and adds to the record what it upserts. -/
theorem HostStep.records {w w' : World} {e : HostEvent} (h : HostStep env w e w')
    {started : List (String × KindNode)} (hw : Wired env (w.plugins started))
    (hkinds : w.rt.kindRegistry = ∅) :
    ∃ started', Wired env (w'.plugins started') ∧ w'.rt.kindRegistry = ∅ ∧
      ∀ s ∈ started', s ∈ started ∨ Upserted env [e] s.1 s.2 := by
  obtain ⟨started', hw', hendures⟩ := h.wired hw
  refine ⟨started', hw', hendures.kinds.trans hkinds, fun s hs => ?_⟩
  exact (hendures.starts s hs).imp id (upserted_of_starts hkinds)

/-- **A whole run** keeps the plugins wired up, and what was started is what it upserts. -/
theorem hosted_run {w w' : World} {es : List HostEvent} (hrun : Run (HostStep env) w es w')
    {started : List (String × KindNode)} (hw : Wired env (w.plugins started))
    (hkinds : w.rt.kindRegistry = ∅) :
    ∃ started', Wired env (w'.plugins started') ∧ w'.rt.kindRegistry = ∅ ∧
      ∀ s ∈ started', s ∈ started ∨ Upserted env es s.1 s.2 := by
  induction hrun generalizing started with
  | nil w => exact ⟨started, hw, hkinds, fun _ hs => .inl hs⟩
  | @cons w w1 w' e es hstep hrest ih =>
    obtain ⟨started1, hw1, hkinds1, hfirst⟩ := hstep.records hw hkinds
    obtain ⟨started', hw', hkinds', hmore⟩ := ih hw1 hkinds1
    refine ⟨started', hw', hkinds', fun s hs => ?_⟩
    rcases hmore s hs with hs | ⟨message, hmem, hstarts⟩
    · refine (hfirst s hs).imp id fun ⟨message, hmem, hstarts⟩ => ⟨message, ?_, hstarts⟩
      rw [List.mem_singleton.mp hmem]
      exact List.mem_cons_self
    · exact .inr ⟨message, List.mem_cons_of_mem _ hmem, hstarts⟩

/-- The start of the daemon wires its plugins up. -/
theorem booted_wired (env : Env) (config : Config) (files : StrMap (Except Error Config))
    (cells : Nat → PluginCell) (rootCid : Option Cid) (cliOwners : List String) :
    (booted env config files cells rootCid cliOwners).rt.kindRegistry = ∅ ∧
      ∃ started, Wired env ((booted env config files cells rootCid cliOwners).plugins started) ∧
        ∀ s ∈ started, ∃ root, rootCid = some root ∧ StartsFrom env root s.1 s.2 := by
  have hblank : Wired env (World.plugins ⟨blankRuntime config files cells, {}⟩ []) :=
    wired_blank config files cells
  obtain ⟨started, -, hsteps⟩ := moves_startup lasting_true rootCid cliOwners []
    ⟨blankRuntime config files cells, {}⟩ [] hblank trivial
  refine ⟨hsteps.endures.kinds, started, hsteps.wired hblank, fun s hs => ?_⟩
  rcases hsteps.endures.starts s hs with hs | hs
  · exact absurd hs List.not_mem_nil
  · exact hs

end Runs

/-! ## A parrot and an owl -/

/-- A kind whose plugins may send. -/
def birdKind : KindNode :=
  { protocol := "/ma/bird/0.0.1", api := ["handle_cast"], hostFunctions := ["ma_send"] }

/-- An entity of that kind. -/
def birdNode : EntityNode :=
  { kind := "/ma/bird/0.0.1", behaviour := some ⟨"bafybirdwasm"⟩, acl := "open" }

/-- The manifest with two of them. -/
def aviary : RuntimeManifest :=
  { kinds := KindTree.insertProtocol {} "/ma/bird/0.0.1" ⟨"bafybirdkind"⟩
    entities := (((∅ : StrMap IpldLink).insert "owl" ⟨"bafybirdnode"⟩).insert "parrot"
      ⟨"bafybirdnode"⟩)
    acls := (∅ : StrMap IpldLink).insert "open" ⟨"bafyopenacl"⟩ }

def birdTables : Tables where
  manifests := [("bafyroot", aviary)]
  entities := [("bafybirdnode", birdNode)]
  kinds := [("bafybirdkind", birdKind)]
  acls := [("bafyopenacl", (∅ : AclMap).insert "*" (.fromCaps ["*"]))]
  blobs := [("bafybirdwasm", [0])]

/-- What a bird says. -/
def chirp : SendEnvelope where
  «to» := "did:ma:alice"
  contentType := "text/plain"
  content := [99]
  replyTo := none

/-- Every cast to a bird makes it send. -/
def birdEnv : Env :=
  { birdTables.live with
    guest := fun _ _ _ _ =>
      .call (.maSend, Lib.rfcCodec.encode (.map [(.text "to", .text chirp.to),
          (.text "content_type", .text chirp.contentType), (.text "content", .bytes chirp.content),
          (.text "reply_to", .null)]))
        (.error "trap", []) fun _ => .done (.ok [], [1]) }

/-- The owner casts to the parrot. -/
def castParrot : Message where
  id := "m1"
  «from» := "did:ma:alice"
  «to» := "did:ma:runtime#parrot"
  messageType := "application/x-ma-rpc"
  contentType := "application/cbor"
  createdAt := 0
  exp := 0
  replyTo := none
  payload := Lib.rfcCodec.encode (.text ":sing")

/-- The daemon with both loaded. -/
def birdStart : World := started birdEnv (some "bafyroot") ["did:ma:alice"]

/-- The daemon after the cast. -/
def birdSung : World := (rpcTurn birdEnv castParrot [] birdStart).2

theorem cast_parrot : Run (HostStep birdEnv) birdStart [.turn (.rpc castParrot)] birdSung :=
  .cons .run (.nil _)

/-! ## Over whole runs -/

section Runs

variable {env : Env}

/-- How a plugin came to be started in a run: from the root manifest, or by an upsert. None is
created by another. -/
inductive StartedIn (env : Env) (rootCid : Option Cid) (es : List HostEvent) (fragment : String)
    (kindNode : KindNode) : Prop where
  | startup {root : Cid} (hroot : rootCid = some root)
      (h : StartsFrom env root fragment kindNode)
  | upserted (h : Upserted env es fragment kindNode)

/-- In every state of a run, with everything that was started. -/
theorem booted_run {config : Config} {files : StrMap (Except Error Config)}
    {cells : Nat → PluginCell} {rootCid : Option Cid} {cliOwners : List String}
    {es : List HostEvent} {w : World}
    (hrun : Run (HostStep env) (booted env config files cells rootCid cliOwners) es w) :
    ∃ started, Wired env (w.plugins started) ∧ w.rt.kindRegistry = ∅ ∧
      ∀ s ∈ started, StartedIn env rootCid es s.1 s.2 := by
  obtain ⟨hkinds, started, hw, hstartup⟩ := booted_wired env config files cells rootCid cliOwners
  obtain ⟨started', hw', hkinds', hmore⟩ := hosted_run hrun hw hkinds
  refine ⟨started', hw', hkinds', fun s hs => ?_⟩
  rcases hmore s hs with hs | hs
  · obtain ⟨root, hroot, h⟩ := hstartup s hs
    exact .startup hroot h
  · exact .upserted hs

/-- **What is registered runs what its documents name**, in every state of every run, and was
started by the startup or by an upsert of its name: no plugin ever gets an entity created. -/
theorem entities_sound {config : Config} {files : StrMap (Except Error Config)}
    {cells : Nat → PluginCell} {rootCid : Option Cid} {cliOwners : List String}
    {es : List HostEvent} {w : World}
    (hrun : Run (HostStep env) (booted env config files cells rootCid cliOwners) es w)
    {name : String} {ep : EntityPlugin} (hep : w.rt.entityRegistry[name]? = some ep) :
    Sound env (w.plugins []) name ep ∧ ∀ i, ep.backend = .extism i →
      ∃ kindNode, StartedIn env rootCid es name kindNode ∧
        (w.rt.cells i).hostFns = linkedHostFns kindNode := by
  obtain ⟨started, hw, -, hstarted⟩ := booted_run hrun
  have hsound := hw.entities name ep hep
  refine ⟨hsound.record [], fun i hbackend => ?_⟩
  cases hsound with
  | native h => cases hbackend
  | extism hnode hkind hbehaviour hi hwasm hfns hfragment =>
    obtain rfl := EntityBackend.extism.inj hbackend
    obtain ⟨kindNode, hmem, hlinked⟩ := hw.cells _ hi
    have hname : (w.rt.cells _).fragment = name := hfragment
    refine ⟨kindNode, ?_, hlinked⟩
    rw [← hname]
    exact hstarted _ hmem

set_option maxRecDepth 100000

/-- The parrot is what its node says, after the cast too. -/
theorem entities_sound_parrot :
    ∃ ep, birdSung.rt.entityRegistry["parrot"]? = some ep ∧
      Sound birdEnv (birdSung.plugins []) "parrot" ep ∧
      ∃ kindNode,
        StartedIn birdEnv (some "bafyroot") [.turn (.rpc castParrot)] "parrot" kindNode := by
  have hep : birdSung.rt.entityRegistry["parrot"]? = some
      { fragment := "parrot", kind := .stateless, acl := "open", parent := none
        backend := .extism 1 } := by decide +kernel
  obtain ⟨hsound, hstarted⟩ := entities_sound cast_parrot hep
  obtain ⟨kindNode, hstartedIn, -⟩ := hstarted 1 rfl
  exact ⟨_, hep, hsound, kindNode, hstartedIn⟩

/-- **Least privilege**: in every state of every run, each plugin was started in the run with a kind
that declares its host functions, holds no state and no request that they do not give it, and each
envelope was sent under the name of a plugin that was started with the right to send it. -/
theorem least_privilege {config : Config} {files : StrMap (Except Error Config)}
    {cells : Nat → PluginCell} {rootCid : Option Cid} {cliOwners : List String}
    {es : List HostEvent} {w : World}
    (hrun : Run (HostStep env) (booted env config files cells rootCid cliOwners) es w) :
    ∃ started : List (String × KindNode),
      (∀ s ∈ started, StartedIn env rootCid es s.1 s.2 ∧ ∃ protocol, Declares env protocol s.2) ∧
      (∀ i < w.rt.nextCell, WithinRights env (w.rt.cells i) ∧ Started started (w.rt.cells i)) ∧
      ∀ e ∈ w.io.envelopes, Authentic env started e := by
  obtain ⟨started, hw, -, hstarted⟩ := booted_run hrun
  exact ⟨started, fun s hs => ⟨hstarted s hs, hw.started s hs⟩,
    fun i hi => ⟨hw.rights i hi, hw.cells i hi⟩, hw.envelopes⟩

/-- What the parrot said was its own to say. -/
theorem least_privilege_parrot :
    birdSung.io.envelopes = [("parrot", chirp)] ∧
      ∃ started : List (String × KindNode),
        (∀ s ∈ started, StartedIn birdEnv (some "bafyroot") [.turn (.rpc castParrot)] s.1 s.2) ∧
        Authentic birdEnv started ("parrot", chirp) := by
  have hsent : birdSung.io.envelopes = [("parrot", chirp)] := by decide +kernel
  obtain ⟨started, hstarted, -, hauthentic⟩ := least_privilege cast_parrot
  refine ⟨hsent, started, fun s hs => (hstarted s hs).1, hauthentic _ ?_⟩
  rw [hsent]
  exact List.mem_singleton_self _

/-! ## Isolation -/

/-- An event that does not concern the plugins of one name. -/
def Apart (env : Env) (fragment : String) (w : World) (e : HostEvent) (w' : World) : Prop :=
  HostStep env w e w' ∧ ¬ (e.scope env w.rt).covers fragment

/-- What the plugins of one name sent. -/
def sentBy (fragment : String) (w : World) : List (String × SendEnvelope) :=
  w.io.envelopes.filter (·.1 = fragment)

/-- One event apart. -/
theorem Apart.step {fragment : String} {w w' : World} {e : HostEvent}
    (h : Apart env fragment w e w') {started : List (String × KindNode)}
    (hw : Wired env (w.plugins started)) :
    (∃ started', Wired env (w'.plugins started')) ∧ w.rt.nextCell ≤ w'.rt.nextCell ∧
      (∀ i < w.rt.nextCell, (w.rt.cells i).fragment = fragment →
        w'.rt.cells i = w.rt.cells i) ∧ sentBy fragment w' = sentBy fragment w := by
  obtain ⟨hstep, hapart⟩ := h
  obtain ⟨started', hw', hendures⟩ := hstep.wired hw
  refine ⟨⟨started', hw'⟩, hendures.nextCell, fun i hi hfragment => ?_, ?_⟩
  · refine hendures.untouched i hi fun htouch => hapart (.inl ?_)
    exact hfragment ▸ htouch
  · obtain ⟨sent, hsent, hcovers⟩ := hendures.envelopes
    have hsent : w'.io.envelopes = w.io.envelopes ++ sent := hsent
    have hnone : sent.filter (·.1 = fragment) = [] := by
      refine List.filter_eq_nil_iff.mpr fun e he hname => hapart ?_
      have hname : e.1 = fragment := by simpa using hname
      exact hname ▸ hcovers e he
    unfold sentBy
    rw [hsent, List.filter_append, hnone, List.append_nil]

/-- **Plugins are isolated**: through any run of events that do not concern the plugins of a name,
each of them stays exactly as it is, its linear memory, state and queues included, and sends
nothing. -/
theorem plugins_isolated {config : Config} {files : StrMap (Except Error Config)}
    {cells : Nat → PluginCell} {rootCid : Option Cid} {cliOwners : List String}
    {es es' : List HostEvent} {w w' : World} {fragment : String}
    (hrun : Run (HostStep env) (booted env config files cells rootCid cliOwners) es w)
    (hapart : Run (Apart env fragment) w es' w') :
    (∀ i < w.rt.nextCell, (w.rt.cells i).fragment = fragment → w'.rt.cells i = w.rt.cells i) ∧
      sentBy fragment w' = sentBy fragment w := by
  obtain ⟨started, hw, -⟩ := booted_run hrun
  clear hrun
  induction hapart generalizing started with
  | nil w => exact ⟨fun _ _ _ => rfl, rfl⟩
  | @cons w w1 w' e es hstep hrest ih =>
    obtain ⟨⟨started1, hw1⟩, hnext, hcells, hsent⟩ := hstep.step hw
    obtain ⟨hcells', hsent'⟩ := ih started1 hw1
    refine ⟨fun i hi hfragment => ?_, hsent'.trans hsent⟩
    have hsame := hcells i hi hfragment
    have hfragment1 : (w1.rt.cells i).fragment = fragment := by rw [hsame, hfragment]
    exact (hcells' i (Nat.lt_of_lt_of_le hi hnext) hfragment1).trans hsame

/-- The ACL of the parrot names no group. -/
theorem not_concerns_owl : ¬ Concerns birdEnv birdStart.rt castParrot "owl" := by
  intro h
  cases h with
  | entity h => exact absurd h (by decide +kernel)
  | @group name _ entity h hentity hgroup =>
    have hname : Text.stripPrefix castParrot.to (birdEnv.ourDid ++ "#") = some "parrot" := by
      decide +kernel
    obtain rfl := Option.some.inj (hname.symm.trans h)
    have hparrot : birdStart.rt.entityRegistry["parrot"]? = some
        { fragment := "parrot", kind := .stateless, acl := "open", parent := none
          backend := .extism 1 } := by decide +kernel
    obtain rfl := Option.some.inj (hparrot.symm.trans hentity)
    obtain ⟨acl, key, hacl, hkey, hgroup⟩ := hgroup
    have hcached : birdStart.rt.aclCache["acls.open"]?.all (fun acl =>
        acl.keys.all fun key => Text.stripPrefix key "+#" ≠ some "owl") = true := by
      decide +kernel
    have hacl : birdStart.rt.aclCache["acls.open"]? = some acl := hacl
    rw [hacl] at hcached
    have hnone := List.all_eq_true.mp hcached key (Std.ExtTreeMap.mem_keys.mpr hkey)
    exact of_decide_eq_true hnone hgroup

/-- The cast to the parrot leaves the owl alone. -/
theorem plugins_isolated_owl :
    (birdStart.rt.cells 0).fragment = "owl" ∧ birdSung.rt.cells 0 = birdStart.rt.cells 0 ∧
      sentBy "owl" birdSung = [] := by
  have hapart : Run (Apart birdEnv "owl") birdStart [.turn (.rpc castParrot)] birdSung := by
    refine .cons ⟨.run, ?_⟩ (.nil _)
    rintro (h | ⟨kindNode, ⟨n, hname⟩, -⟩)
    · exact not_concerns_owl h
    · have hname : "owl" = "a1b2c3d4" := hname
      exact absurd hname (by decide)
  have howl : (birdStart.rt.cells 0).fragment = "owl" := by decide +kernel
  obtain ⟨hcells, hsent⟩ := plugins_isolated (.nil _) hapart
  exact ⟨howl, hcells 0 (by decide +kernel) howl, hsent⟩

end Runs

end MaRuntime
