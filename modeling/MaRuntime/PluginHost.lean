import Mathlib.Logic.Relation
import MaRuntime.Rpc

/-!
# The plugin host

What plugins may do, as a machine of its own: `PluginHost` is what there is of them, with every
start on record, and `PluginStep` all that can happen to it. A plugin acts within the host functions
that its kind declares (`Acts`), and what it queued is taken or dropped (`Taken`).

* `Endures`: what is never taken back: code, rights and names of plugins, and what was sent. Plugins
  out of the scope of a step are not touched and do not speak.
* `Wired`: every entity runs the code that its node names (`Sound`), every plugin holds no more than
  its host functions give (`WithinRights`), and every envelope in the channel has a sender that may
  send it (`Authentic`). Every step keeps it (`PluginStep.wired`).
-/

namespace MaRuntime

open Lib (Cbor Proc)

/-! ## Rights -/

/-- Host functions under which the envelope can go out. -/
def MaySend (fns : List HostFn) (e : SendEnvelope) : Prop :=
  .maSend ∈ fns ∨ .maReply ∈ fns ∧ e.replyTo ≠ none

/-- The fragment comes from the generator. -/
def Generated (env : Env) (fragment : String) : Prop := ∃ n, fragment = env.generateFragment n

/-- What a plugin does in one call of an export, and what it sends. -/
structure Acts (env : Env) (cell cell' : PluginCell) (sent : List SendEnvelope) : Prop where
  wasm : cell'.plugin.wasm = cell.plugin.wasm
  hostFns : cell'.hostFns = cell.hostFns
  fragment : cell'.fragment = cell.fragment
  state : .maSetState ∉ cell.hostFns → cell'.state = cell.state
  creates : ∃ reqs, cell'.createQueue = cell.createQueue ++ reqs ∧
    ∀ req ∈ reqs, .maCreateEntity ∈ cell.hostFns ∧ req.parent = cell.fragment ∧
      Generated env req.fragment
  deletes : ∃ targets, cell'.deleteQueue = cell.deleteQueue ++ targets ∧
    ∀ target ∈ targets, .maDeleteEntity ∈ cell.hostFns
  sends : ∀ e ∈ sent, MaySend cell.hostFns e

/-- What the host makes of a plugin's queues and state: they are taken, or stay. -/
structure Taken (cell cell' : PluginCell) : Prop where
  plugin : cell'.plugin = cell.plugin
  hostFns : cell'.hostFns = cell.hostFns
  fragment : cell'.fragment = cell.fragment
  pending : cell'.state.pending = cell.state.pending ∨ cell'.state.pending = none
  dirty : cell'.state.dirty = cell.state.dirty ∨ cell'.state.dirty = false
  creates : cell'.createQueue = cell.createQueue ∨ cell'.createQueue = []
  deletes : cell'.deleteQueue = cell.deleteQueue ∨ cell'.deleteQueue = []

/-- The plugin holds no more than its host functions give it. -/
structure WithinRights (env : Env) (cell : PluginCell) : Prop where
  state : .maSetState ∉ cell.hostFns → cell.state.pending = none ∧ cell.state.dirty = false
  creates : ∀ req ∈ cell.createQueue, .maCreateEntity ∈ cell.hostFns ∧
    req.parent = cell.fragment ∧ Generated env req.fragment
  deletes : ∀ target ∈ cell.deleteQueue, .maDeleteEntity ∈ cell.hostFns

theorem Acts.refl (env : Env) (cell : PluginCell) : Acts env cell cell [] where
  wasm := rfl
  hostFns := rfl
  fragment := rfl
  state _ := rfl
  creates := ⟨[], (List.append_nil _).symm, by simp⟩
  deletes := ⟨[], (List.append_nil _).symm, by simp⟩
  sends := by simp

theorem Acts.trans {env : Env} {cell cell1 cell2 : PluginCell} {sent sent' : List SendEnvelope}
    (h : Acts env cell cell1 sent) (h' : Acts env cell1 cell2 sent') :
    Acts env cell cell2 (sent ++ sent') := by
  have hfns := h.hostFns
  obtain ⟨reqs, hreqs, hcreate⟩ := h.creates
  obtain ⟨reqs', hreqs', hcreate'⟩ := h'.creates
  obtain ⟨targets, htargets, hdelete⟩ := h.deletes
  obtain ⟨targets', htargets', hdelete'⟩ := h'.deletes
  rw [hfns, h.fragment] at hcreate'
  rw [hfns] at hdelete'
  refine ⟨h'.wasm.trans h.wasm, h'.hostFns.trans hfns, h'.fragment.trans h.fragment, fun hno => ?_,
    ⟨reqs ++ reqs', ?_, fun req hreq => ?_⟩, ⟨targets ++ targets', ?_, fun t ht => ?_⟩,
    fun e he => ?_⟩
  · have hno' : HostFn.maSetState ∉ cell1.hostFns := by rwa [hfns]
    exact (h'.state hno').trans (h.state hno)
  · rw [hreqs', hreqs, List.append_assoc]
  · exact (List.mem_append.mp hreq).elim (hcreate req) (hcreate' req)
  · rw [htargets', htargets, List.append_assoc]
  · exact (List.mem_append.mp ht).elim (hdelete t) (hdelete' t)
  · rcases List.mem_append.mp he with he | he
    · exact h.sends e he
    · have hmay := h'.sends e he
      rwa [hfns] at hmay

/-- A plugin that acts within its rights stays within them. -/
theorem Acts.withinRights {env : Env} {cell cell' : PluginCell} {sent : List SendEnvelope}
    (h : Acts env cell cell' sent) (hc : WithinRights env cell) : WithinRights env cell' := by
  obtain ⟨reqs, hreqs, hcreate⟩ := h.creates
  obtain ⟨targets, htargets, hdelete⟩ := h.deletes
  refine ⟨fun hno => ?_, fun req hreq => ?_, fun target htarget => ?_⟩
  · rw [h.hostFns] at hno
    rw [h.state hno]
    exact hc.state hno
  · rw [h.hostFns, h.fragment]
    rw [hreqs] at hreq
    exact (List.mem_append.mp hreq).elim (hc.creates req) (hcreate req)
  · rw [h.hostFns]
    rw [htargets] at htarget
    exact (List.mem_append.mp htarget).elim (hc.deletes target) (hdelete target)

theorem Taken.withinRights {env : Env} {cell cell' : PluginCell} (h : Taken cell cell')
    (hc : WithinRights env cell) : WithinRights env cell' := by
  refine ⟨fun hno => ⟨?_, ?_⟩, fun req hreq => ?_, fun target htarget => ?_⟩
  · rw [h.hostFns] at hno
    rcases h.pending with hp | hp
    · exact hp.trans (hc.state hno).1
    · exact hp
  · rw [h.hostFns] at hno
    rcases h.dirty with hd | hd
    · exact hd.trans (hc.state hno).2
    · exact hd
  · rw [h.hostFns, h.fragment]
    rcases h.creates with hq | hq
    · exact hc.creates req (hq ▸ hreq)
    · rw [hq] at hreq
      exact absurd hreq List.not_mem_nil
  · rw [h.hostFns]
    rcases h.deletes with hq | hq
    · exact hc.deletes target (hq ▸ htarget)
    · rw [hq] at htarget
      exact absurd htarget List.not_mem_nil

/-! ## The host -/

/-- What there is of plugins. -/
structure PluginHost where
  cells : Nat → PluginCell
  nextCell : Nat
  registry : StrMap EntityPlugin
  kinds : StrMap KindNode
  /-- The channel of envelopes. -/
  envelopes : List (String × SendEnvelope)
  /-- Every plugin that was started, under its name and its kind. -/
  started : List (String × KindNode)

/-- A manifest declares the kind for the protocol. -/
def Declares (env : Env) (protocol : String) (kindNode : KindNode) : Prop :=
  ∃ root m link, env.kubo.manifests.denotes root = some m ∧
    m.kinds.getProtocol protocol = some link ∧ env.kubo.kinds.denotes link.cid = some kindNode

/-- Where the node of an entity comes from. -/
inductive NodeOrigin (env : Env) : EntityNode → Prop where
  | stored {cid : Cid} {node : EntityNode} (h : env.kubo.entities.denotes cid = some node) :
      NodeOrigin env node
  | requested (entity : EntityPlugin) (req : CreateEntityRequest) :
      NodeOrigin env (requestedNode entity req)

/-- **The entity is what its documents say**: it runs the module at the behaviour of its node, with
the host functions of its kind, under its own name. `#scheduler` is compiled in. -/
inductive Sound (env : Env) (p : PluginHost) (name : String) : EntityPlugin → Prop where
  | native (h : name = schedulerFragment) :
      Sound env p name (newNative schedulerFragment schedulerNode).1
  | extism {node : EntityNode} {kindNode : KindNode} {behaviour : IpldLink} {i : Nat}
      (hnode : NodeOrigin env node) (hkind : Declares env node.kind kindNode)
      (hbehaviour : node.behaviour = some behaviour) (hi : i < p.nextCell)
      (hwasm : env.kubo.blobs.denotes behaviour.cid = some (p.cells i).plugin.wasm)
      (hfns : (p.cells i).hostFns = linkedHostFns kindNode)
      (hfragment : (p.cells i).fragment = name) :
      Sound env p name
        { fragment := name, kind := kindNode.pluginKind, acl := node.acl, parent := node.parent
          backend := .extism i }

/-- **The envelope has a sender**: a plugin of that name was started with a host function to send
it, or the daemon answers a creation that such a plugin could ask for. -/
inductive Authentic (env : Env) (started : List (String × KindNode)) :
    String × SendEnvelope → Prop where
  | sent {fragment : String} {kindNode : KindNode} {e : SendEnvelope}
      (h : (fragment, kindNode) ∈ started) (hmay : MaySend (linkedHostFns kindNode) e) :
      Authentic env started (fragment, e)
  | notice {kindNode : KindNode} {req : CreateEntityRequest}
      (h : (req.parent, kindNode) ∈ started)
      (hmay : .maCreateEntity ∈ linkedHostFns kindNode) :
      Authentic env started (req.parent, initFailedEnvelope env req)

/-- A plugin as it is linked, before `init`. -/
structure FreshCell (fragment : String) (kindNode : KindNode) (cell : PluginCell) : Prop where
  hostFns : cell.hostFns = linkedHostFns kindNode
  fragment : cell.fragment = fragment
  pending : cell.state.pending = none
  dirty : cell.state.dirty = false
  creates : cell.createQueue = []
  deletes : cell.deleteQueue = []

/-- What a piece of work may do to plugins. -/
structure Scope where
  /-- Plugins that it may touch, by their name. -/
  touches : String → Prop
  /-- Plugins that it may start, by their name and their kind. -/
  starts : String → KindNode → Prop

/-- What can happen to plugins within a scope. -/
inductive PluginStep (env : Env) (S : Scope) : PluginHost → PluginHost → Prop where
  /-- An export is called. -/
  | act {p : PluginHost} {i : Nat} {cell : PluginCell} {sent : List SendEnvelope}
      (hi : i < p.nextCell) (hS : S.touches (p.cells i).fragment)
      (h : Acts env (p.cells i) cell sent) :
      PluginStep env S p
        { p with
          cells := Function.update p.cells i cell
          envelopes := p.envelopes ++ sent.map fun e => ((p.cells i).fragment, e) }
  /-- The host takes what the plugin queued. -/
  | settle {p : PluginHost} {i : Nat} {cell : PluginCell} (hi : i < p.nextCell)
      (hS : S.touches (p.cells i).fragment) (h : Taken (p.cells i) cell) :
      PluginStep env S p { p with cells := Function.update p.cells i cell }
  /-- A plugin is started: it is linked, and acts in its `init`. -/
  | start {p : PluginHost} {fragment protocol : String} {kindNode : KindNode}
      {cell0 cell : PluginCell} {sent : List SendEnvelope} (hkind : Declares env protocol kindNode)
      (hstarts : S.starts fragment kindNode) (hlinked : FreshCell fragment kindNode cell0)
      (h : Acts env cell0 cell sent) :
      PluginStep env S p
        { p with
          cells := Function.update p.cells p.nextCell cell
          nextCell := p.nextCell + 1
          envelopes := p.envelopes ++ sent.map fun e => (fragment, e)
          started := p.started ++ [(fragment, kindNode)] }
  /-- A plugin whose `init` trapped is dropped. -/
  | trap {p : PluginHost} {fragment protocol : String} {kindNode : KindNode}
      {cell0 cell : PluginCell} {sent : List SendEnvelope} (hkind : Declares env protocol kindNode)
      (hstarts : S.starts fragment kindNode) (hlinked : FreshCell fragment kindNode cell0)
      (h : Acts env cell0 cell sent) :
      PluginStep env S p
        { p with
          envelopes := p.envelopes ++ sent.map fun e => (fragment, e)
          started := p.started ++ [(fragment, kindNode)] }
  /-- An entity is registered. -/
  | register {p : PluginHost} {name : String} {ep : EntityPlugin} (h : Sound env p name ep) :
      PluginStep env S p { p with registry := p.registry.insert name ep }
  /-- An entity goes. -/
  | erase {p : PluginHost} {name : String} :
      PluginStep env S p { p with registry := p.registry.erase name }
  /-- A plugin is told that what it created failed. -/
  | notice {p : PluginHost} {i : Nat} {req : CreateEntityRequest} (hi : i < p.nextCell)
      (hparent : req.parent = (p.cells i).fragment) (hS : S.touches (p.cells i).fragment)
      (hfns : .maCreateEntity ∈ (p.cells i).hostFns) :
      PluginStep env S p
        { p with envelopes := p.envelopes ++ [(req.parent, initFailedEnvelope env req)] }

/-- Some steps. -/
abbrev PluginSteps (env : Env) (S : Scope) : PluginHost → PluginHost → Prop :=
  Relation.ReflTransGen (PluginStep env S)

/-! ## What stays -/

/-- The plugin of that name may be touched or started. -/
def Scope.covers (S : Scope) (fragment : String) : Prop :=
  S.touches fragment ∨ ∃ kindNode, S.starts fragment kindNode

/-- What a host does not take back: plugins keep their code, their rights and their names, and what
was started and sent stays on record. Plugins out of the scope are not touched and do not speak. -/
structure Endures (S : Scope) (p p' : PluginHost) : Prop where
  nextCell : p.nextCell ≤ p'.nextCell
  wasm : ∀ i < p.nextCell, (p'.cells i).plugin.wasm = (p.cells i).plugin.wasm
  hostFns : ∀ i < p.nextCell, (p'.cells i).hostFns = (p.cells i).hostFns
  fragment : ∀ i < p.nextCell, (p'.cells i).fragment = (p.cells i).fragment
  untouched : ∀ i < p.nextCell, ¬ S.touches (p.cells i).fragment → p'.cells i = p.cells i
  kinds : p'.kinds = p.kinds
  envelopes : ∃ sent, p'.envelopes = p.envelopes ++ sent ∧ ∀ e ∈ sent, S.covers e.1
  started : p.started <+: p'.started
  starts : ∀ e ∈ p'.started, e ∈ p.started ∨ S.starts e.1 e.2

section Endures

variable {env : Env} {S : Scope} {p p' : PluginHost}

theorem Endures.refl (p : PluginHost) : Endures S p p where
  nextCell := Nat.le_refl _
  wasm _ _ := rfl
  hostFns _ _ := rfl
  fragment _ _ := rfl
  untouched _ _ _ := rfl
  kinds := rfl
  envelopes := ⟨[], (List.append_nil _).symm, by simp⟩
  started := List.prefix_refl _
  starts _ he := .inl he

theorem Endures.trans {p1 p2 : PluginHost} (h : Endures S p p1) (h' : Endures S p1 p2) :
    Endures S p p2 := by
  have hlt (i : Nat) (hi : i < p.nextCell) : i < p1.nextCell := Nat.lt_of_lt_of_le hi h.nextCell
  obtain ⟨sent, hsent, hcovers⟩ := h.envelopes
  obtain ⟨sent', hsent', hcovers'⟩ := h'.envelopes
  refine ⟨Nat.le_trans h.nextCell h'.nextCell, fun i hi => ?_, fun i hi => ?_, fun i hi => ?_,
    fun i hi htouch => ?_, h'.kinds.trans h.kinds, ⟨sent ++ sent', ?_, fun e he => ?_⟩,
    h.started.trans h'.started, fun e he => ?_⟩
  · exact (h'.wasm i (hlt i hi)).trans (h.wasm i hi)
  · exact (h'.hostFns i (hlt i hi)).trans (h.hostFns i hi)
  · exact (h'.fragment i (hlt i hi)).trans (h.fragment i hi)
  · have htouch' : ¬ S.touches (p1.cells i).fragment := by rwa [h.fragment i hi]
    exact (h'.untouched i (hlt i hi) htouch').trans (h.untouched i hi htouch)
  · rw [hsent', hsent, List.append_assoc]
  · exact (List.mem_append.mp he).elim (hcovers e) (hcovers' e)
  · rcases h'.starts e he with he | he
    · exact h.starts e he
    · exact .inr he

/-- A change of one plugin that keeps its code, its rights and its name. -/
theorem Endures.update {i : Nat} {cell : PluginCell} {sent : List (String × SendEnvelope)}
    (hS : S.touches (p.cells i).fragment) (hwasm : cell.plugin.wasm = (p.cells i).plugin.wasm)
    (hfns : cell.hostFns = (p.cells i).hostFns) (hfragment : cell.fragment = (p.cells i).fragment)
    (hsent : ∀ e ∈ sent, e.1 = (p.cells i).fragment) :
    Endures S p
      { p with cells := Function.update p.cells i cell, envelopes := p.envelopes ++ sent } := by
  refine ⟨Nat.le_refl _, fun j _ => ?_, fun j _ => ?_, fun j _ => ?_, fun j _ hj => ?_, rfl,
    ⟨sent, rfl, fun e he => .inl ?_⟩, List.prefix_refl _, fun _ he => .inl he⟩
  · by_cases hji : j = i
    · subst hji
      simpa using hwasm
    · simp [hji]
  · by_cases hji : j = i
    · subst hji
      simpa using hfns
    · simp [hji]
  · by_cases hji : j = i
    · subst hji
      simpa using hfragment
    · simp [hji]
  · by_cases hji : j = i
    · subst hji
      exact absurd hS hj
    · simp [hji]
  · rw [hsent e he]
    exact hS

/-- A change of the channel and the record only. -/
theorem Endures.record {registry : StrMap EntityPlugin} {sent : List (String × SendEnvelope)}
    {started : List (String × KindNode)} (hsent : ∀ e ∈ sent, S.covers e.1)
    (hstarts : ∀ e ∈ started, S.starts e.1 e.2) :
    Endures S p
      { p with
        registry := registry, envelopes := p.envelopes ++ sent
        started := p.started ++ started } := by
  refine ⟨Nat.le_refl _, fun _ _ => rfl, fun _ _ => rfl, fun _ _ => rfl, fun _ _ _ => rfl, rfl,
    ⟨sent, rfl, hsent⟩, List.prefix_append _ _, fun e he => ?_⟩
  exact (List.mem_append.mp he).imp id (hstarts e)

theorem eq_of_mem_sent {fragment : String} {sent : List SendEnvelope} :
    ∀ e ∈ sent.map fun e => (fragment, e), e.1 = fragment := by
  intro e he
  obtain ⟨e, -, rfl⟩ := List.mem_map.mp he
  rfl

/-- **What one step keeps.** -/
theorem PluginStep.endures (h : PluginStep env S p p') : Endures S p p' := by
  have nothing {registry : StrMap EntityPlugin} : Endures S p { p with registry := registry } := by
    have hendures : Endures S p
        { p with
          registry := registry, envelopes := p.envelopes ++ [], started := p.started ++ [] } :=
      .record (by simp) (by simp)
    rwa [List.append_nil, List.append_nil] at hendures
  cases h with
  | act hi hS h => exact .update hS h.wasm h.hostFns h.fragment eq_of_mem_sent
  | @settle i cell hi hS h =>
    have hendures : Endures S p
        { p with
          cells := Function.update p.cells i cell, envelopes := p.envelopes ++ [] } :=
      .update hS (congrArg Instance.wasm h.plugin) h.hostFns h.fragment (by simp)
    rwa [List.append_nil] at hendures
  | @start fragment protocol kindNode cell0 cell sent hkind hstarts hlinked h =>
    have hsame {i : Nat} (hi : i < p.nextCell) (cell : PluginCell) :
        Function.update p.cells p.nextCell cell i = p.cells i :=
      Function.update_of_ne (Nat.ne_of_lt hi) _ _
    refine ⟨Nat.le_succ _, fun i hi => ?_, fun i hi => ?_, fun i hi => ?_, fun i hi _ => hsame hi _,
      rfl, ⟨_, rfl, fun e he => .inr ⟨kindNode, ?_⟩⟩, List.prefix_append _ _, fun e he => ?_⟩
    · exact congrArg (fun cell => cell.plugin.wasm) (hsame hi _)
    · exact congrArg PluginCell.hostFns (hsame hi _)
    · exact congrArg PluginCell.fragment (hsame hi _)
    · rw [eq_of_mem_sent e he]
      exact hstarts
    · rcases List.mem_append.mp he with he | he
      · exact .inl he
      · rw [List.mem_singleton.mp he]
        exact .inr hstarts
  | @trap fragment protocol kindNode cell0 cell sent hkind hstarts hlinked h =>
    refine Endures.record (fun e he => .inr ⟨kindNode, ?_⟩) fun e he => ?_
    · rw [eq_of_mem_sent e he]
      exact hstarts
    · rw [List.mem_singleton.mp he]
      exact hstarts
  | register h => exact nothing
  | erase => exact nothing
  | @notice i req hi hparent hS hfns =>
    have hendures : Endures S p
        { p with
          registry := p.registry
          envelopes := p.envelopes ++ [(req.parent, initFailedEnvelope env req)]
          started := p.started ++ [] } := by
      refine .record (fun e he => ?_) (by simp)
      rw [List.mem_singleton.mp he]
      exact .inl (hparent.symm ▸ hS)
    rwa [List.append_nil] at hendures

/-- What some steps keep. -/
theorem PluginSteps.endures (h : PluginSteps env S p p') : Endures S p p' := by
  induction h with
  | refl => exact .refl p
  | tail _ hstep ih => exact ih.trans hstep.endures

/-- An entity stays what its documents say. -/
theorem Sound.endures {name : String} {ep : EntityPlugin} (h : Sound env p name ep)
    (hf : Endures S p p') : Sound env p' name ep := by
  cases h with
  | native h => exact .native h
  | extism hnode hkind hbehaviour hi hwasm hfns hfragment =>
    refine .extism hnode hkind hbehaviour (Nat.lt_of_lt_of_le hi hf.nextCell) ?_ ?_ ?_
    · rw [hf.wasm _ hi]
      exact hwasm
    · rw [hf.hostFns _ hi]
      exact hfns
    · rw [hf.fragment _ hi]
      exact hfragment

/-- An envelope keeps its sender. -/
theorem Authentic.mono {started started' : List (String × KindNode)} {e : String × SendEnvelope}
    (h : Authentic env started e) (hs : started <+: started') : Authentic env started' e := by
  cases h with
  | sent h hmay => exact .sent (hs.subset h) hmay
  | notice h hmay => exact .notice (hs.subset h) hmay

end Endures

/-! ## The invariant -/

/-- The plugin was started under its name and a kind that declares its host functions. -/
def Started (started : List (String × KindNode)) (cell : PluginCell) : Prop :=
  ∃ kindNode, (cell.fragment, kindNode) ∈ started ∧ cell.hostFns = linkedHostFns kindNode

/-- **The plugins are wired up as declared.** -/
structure Wired (env : Env) (p : PluginHost) : Prop where
  entities : ∀ name ep, p.registry[name]? = some ep → Sound env p name ep
  rights : ∀ i < p.nextCell, WithinRights env (p.cells i)
  cells : ∀ i < p.nextCell, Started p.started (p.cells i)
  started : ∀ e ∈ p.started, ∃ protocol, Declares env protocol e.2
  kinds : ∀ protocol kindNode, p.kinds[protocol]? = some kindNode → Declares env protocol kindNode
  envelopes : ∀ e ∈ p.envelopes, Authentic env p.started e

section Wired

variable {env : Env} {S : Scope} {p p' : PluginHost}

theorem FreshCell.withinRights {fragment : String} {kindNode : KindNode} {cell : PluginCell}
    (h : FreshCell fragment kindNode cell) : WithinRights env cell := by
  refine ⟨fun _ => ⟨h.pending, h.dirty⟩, fun req hreq => ?_, fun target htarget => ?_⟩
  · rw [h.creates] at hreq
    exact absurd hreq List.not_mem_nil
  · rw [h.deletes] at htarget
    exact absurd htarget List.not_mem_nil

/-- What a plugin sends within its rights has a sender. -/
theorem Acts.authentic {started : List (String × KindNode)} {cell cell' : PluginCell}
    {sent : List SendEnvelope} (h : Acts env cell cell' sent) (hstarted : Started started cell) :
    ∀ e ∈ sent.map fun e => (cell.fragment, e), Authentic env started e := by
  intro e he
  obtain ⟨kindNode, hmem, hfns⟩ := hstarted
  obtain ⟨e, hsent, rfl⟩ := List.mem_map.mp he
  refine .sent hmem ?_
  rw [← hfns]
  exact h.sends e hsent

/-- What the invariant says apart from the step's own change. -/
theorem Wired.step (h : Wired env p) (hf : Endures S p p')
    (hentities : ∀ name ep, p'.registry[name]? = some ep →
      p.registry[name]? = some ep ∨ Sound env p' name ep)
    (hcells : ∀ i < p'.nextCell, i < p.nextCell ∧ p'.cells i = p.cells i ∨
      WithinRights env (p'.cells i) ∧ Started p'.started (p'.cells i))
    (hstarted : ∀ e ∈ p'.started, e ∈ p.started ∨ ∃ protocol, Declares env protocol e.2)
    (henvelopes : ∀ e ∈ p'.envelopes, e ∈ p.envelopes ∨ Authentic env p'.started e) :
    Wired env p' := by
  refine ⟨fun name ep hep => ?_, fun i hi => ?_, fun i hi => ?_, fun e he => ?_, ?_, fun e he => ?_⟩
  · rcases hentities name ep hep with hold | hnew
    · exact (h.entities name ep hold).endures hf
    · exact hnew
  · rcases hcells i hi with ⟨hold, hsame⟩ | hnew
    · rw [hsame]
      exact h.rights i hold
    · exact hnew.1
  · rcases hcells i hi with ⟨hold, hsame⟩ | hnew
    · obtain ⟨kindNode, hmem, hfns⟩ := h.cells i hold
      rw [hsame]
      exact ⟨kindNode, hf.started.subset hmem, hfns⟩
    · exact hnew.2
  · exact (hstarted e he).elim (h.started e) id
  · rw [hf.kinds]
    exact h.kinds
  · rcases henvelopes e he with hold | hnew
    · exact (h.envelopes e hold).mono hf.started
    · exact hnew

theorem Started.mono {started started' : List (String × KindNode)} {cell cell' : PluginCell}
    (h : Started started cell) (hs : started <+: started') (hfns : cell'.hostFns = cell.hostFns)
    (hfragment : cell'.fragment = cell.fragment) : Started started' cell' := by
  obtain ⟨kindNode, hmem, hdeclared⟩ := h
  refine ⟨kindNode, ?_, hfns.trans hdeclared⟩
  rw [hfragment]
  exact hs.subset hmem

/-- A change of one plugin, as the invariant sees it. -/
theorem Wired.cells_update (h : Wired env p) {i : Nat} {cell : PluginCell} (hi : i < p.nextCell)
    (hrights : WithinRights env cell) (hfns : cell.hostFns = (p.cells i).hostFns)
    (hfragment : cell.fragment = (p.cells i).fragment) :
    ∀ j < p.nextCell, j < p.nextCell ∧ Function.update p.cells i cell j = p.cells j ∨
      WithinRights env (Function.update p.cells i cell j) ∧
        Started p.started (Function.update p.cells i cell j) := by
  intro j hj
  by_cases hji : j = i
  · subst hji
    rw [Function.update_self]
    exact .inr ⟨hrights, (h.cells j hi).mono (List.prefix_refl _) hfns hfragment⟩
  · exact .inl ⟨hj, Function.update_of_ne hji _ _⟩

/-- What is started is on record. -/
theorem FreshCell.started {fragment : String} {kindNode : KindNode} {cell cell0 : PluginCell}
    {sent : List SendEnvelope} (hlinked : FreshCell fragment kindNode cell0)
    (hacts : Acts env cell0 cell sent) (started : List (String × KindNode)) :
    Started (started ++ [(fragment, kindNode)]) cell := by
  refine ⟨kindNode, ?_, hacts.hostFns.trans hlinked.hostFns⟩
  rw [hacts.fragment, hlinked.fragment]
  exact List.mem_append_right _ (List.mem_singleton_self _)

/-- The record of a start, as the invariant sees it. -/
theorem mem_started {started : List (String × KindNode)} {fragment protocol : String}
    {kindNode : KindNode} (hkind : Declares env protocol kindNode) :
    ∀ e ∈ started ++ [(fragment, kindNode)],
      e ∈ started ∨ ∃ protocol, Declares env protocol e.2 := by
  intro e he
  rcases List.mem_append.mp he with he | he
  · exact .inl he
  · rw [List.mem_singleton.mp he]
    exact .inr ⟨protocol, hkind⟩

/-- What a plugin that is started sends in its `init` has a sender. -/
theorem FreshCell.authentic {fragment : String} {kindNode : KindNode} {cell cell0 : PluginCell}
    {sent : List SendEnvelope} {envelopes : List (String × SendEnvelope)}
    (hlinked : FreshCell fragment kindNode cell0) (hacts : Acts env cell0 cell sent)
    (started : List (String × KindNode)) :
    ∀ e ∈ envelopes ++ sent.map fun e => (fragment, e),
      e ∈ envelopes ∨ Authentic env (started ++ [(fragment, kindNode)]) e := by
  intro e he
  rcases List.mem_append.mp he with he | he
  · exact .inl he
  · obtain ⟨e, hsent, rfl⟩ := List.mem_map.mp he
    have hmay := hacts.sends e hsent
    rw [hlinked.hostFns] at hmay
    exact .inr (.sent (List.mem_append_right _ (List.mem_singleton_self _)) hmay)

/-- **Every step keeps the invariant.** -/
theorem PluginStep.wired (hstep : PluginStep env S p p') (h : Wired env p) : Wired env p' := by
  have hf := hstep.endures
  cases hstep with
  | @act i cell sent hi htouch hacts =>
    refine h.step hf (fun _ _ hep => .inl hep)
      (h.cells_update hi (hacts.withinRights (h.rights i hi)) hacts.hostFns hacts.fragment)
      (fun _ he => .inl he) fun e he => ?_
    exact (List.mem_append.mp he).imp id fun he => hacts.authentic (h.cells i hi) e he
  | @settle i cell hi htouch htaken =>
    exact h.step hf (fun _ _ hep => .inl hep)
      (h.cells_update hi (htaken.withinRights (h.rights i hi)) htaken.hostFns htaken.fragment)
      (fun _ he => .inl he) fun _ he => .inl he
  | @start fragment protocol kindNode cell0 cell sent hkind hstarts hlinked hacts =>
    refine h.step hf (fun _ _ hep => .inl hep) (fun i hi => ?_) (mem_started hkind)
      (hlinked.authentic hacts _)
    by_cases hnew : i = p.nextCell
    · subst hnew
      dsimp only
      rw [Function.update_self]
      exact .inr ⟨hacts.withinRights hlinked.withinRights, hlinked.started hacts _⟩
    · exact .inl ⟨Nat.lt_of_le_of_ne (Nat.le_of_lt_succ hi) hnew, Function.update_of_ne hnew _ _⟩
  | trap hkind hstarts hlinked hacts =>
    exact h.step hf (fun _ _ hep => .inl hep) (fun _ hi => .inl ⟨hi, rfl⟩) (mem_started hkind)
      (hlinked.authentic hacts _)
  | @register name ep hsound =>
    refine h.step hf (fun name' ep' hep => ?_) (fun _ hi => .inl ⟨hi, rfl⟩) (fun _ he => .inl he)
      fun _ he => .inl he
    by_cases hname : name' = name
    · subst hname
      obtain rfl := Option.some.inj (hep.symm.trans Std.ExtTreeMap.getElem?_insert_self)
      exact .inr (hsound.endures hf)
    · exact .inl ((getElem?_insert_of_ne hname).symm.trans hep)
  | @erase name =>
    refine h.step hf (fun name' ep' hep => ?_) (fun _ hi => .inl ⟨hi, rfl⟩) (fun _ he => .inl he)
      fun _ he => .inl he
    by_cases hname : name' = name
    · subst hname
      exact absurd (hep.symm.trans Std.ExtTreeMap.getElem?_erase_self) (by simp)
    · exact .inl ((getElem?_erase_of_ne hname).symm.trans hep)
  | @notice i req hi hparent hS hfns =>
    refine h.step hf (fun _ _ hep => .inl hep) (fun _ hi => .inl ⟨hi, rfl⟩) (fun _ he => .inl he)
      fun e he => ?_
    rcases List.mem_append.mp he with he | he
    · exact .inl he
    · obtain ⟨kindNode, hmem, hdeclared⟩ := h.cells i hi
      rw [← hparent] at hmem
      rw [hdeclared] at hfns
      rw [List.mem_singleton.mp he]
      exact .inr (.notice hmem hfns)

/-- Some steps keep it. -/
theorem PluginSteps.wired (hsteps : PluginSteps env S p p') (h : Wired env p) :
    Wired env p' := by
  induction hsteps with
  | refl => exact h
  | tail _ hstep ih => exact hstep.wired ih

end Wired

end MaRuntime
