import Mathlib.Data.List.Forall2
import MaRuntime.LeastPrivilege

/-!
# The outbox of the plugins (`src/main.rs`)

What plugins send waits in a channel until the event loop takes it out, one envelope at a time,
while scheduled jobs go on in between. `Outbox` is the daemon with what became of each envelope
that was taken, `popEnvelope` one turn of the loop.

* **`outbox_fifo`**: envelopes are taken in the order in which they were sent, each once, and what
  becomes of one is its own affair.
* **`outbox_authentic`**: a message that leaves in the name of an entity was sent by a plugin of
  that name with the right to send it.
-/

namespace MaRuntime

open Lib (Cbor Proc Run)

/-! ## The loop -/

/-- A message that the daemon sends for a plugin. -/
structure PluginMessage where
  «from» : String
  «to» : String
  messageType : String
  contentType : String
  content : Bytes
  replyTo : Option String
  deriving DecidableEq, Repr

/-- The message of an envelope: a reply if it answers something. -/
def pluginMessage (env : Env) (fragment : String) (e : SendEnvelope) : PluginMessage :=
  let ourDid := env.ourDid
  { «from» := s!"{ourDid}#{fragment}", «to» := e.to
    messageType := if e.replyTo.isSome then env.messageTypeRpcReply else env.messageTypeRpc
    contentType := e.contentType, content := e.content, replyTo := e.replyTo }

/-- What became of an envelope. All but the last are only logged. -/
inductive Fate where
  | invalidRecipient
  | notBuilt
  | noOutbox
  | notDelivered (message : PluginMessage)
  | sent (message : PluginMessage)
  deriving DecidableEq, Repr

/-- What the daemon does with an envelope. -/
def sendEnvelope (env : Env) (fragment : String) (e : SendEnvelope) : M Fate :=
  if (env.parseDid e.to).isNone then pure .invalidRecipient
  else do
    let n ← nextCall
    match env.deliver n with
    | .buildFailed _ => pure .notBuilt
    | .noOutbox => pure .noOutbox
    | .sendFailed _ => pure (.notDelivered (pluginMessage env fragment e))
    | .sent => pure (.sent (pluginMessage env fragment e))

/-- The daemon and what became of the envelopes taken so far. -/
structure Outbox where
  world : World
  fates : List Fate := []

/-- The next envelope in the channel (`envelope_rx.try_recv`). -/
def Outbox.next (o : Outbox) : Option (String × SendEnvelope) :=
  o.world.io.envelopes[o.fates.length]?

/-- One turn of the loop, unless the channel is empty. -/
def popEnvelope (env : Env) (o : Outbox) : Option Outbox :=
  match o.next with
  | none => none
  | some (fragment, e) =>
    match sendEnvelope env fragment e [] o.world with
    | (.ok fate, w) => some { world := w, fates := o.fates ++ [fate] }
    | (_, w) => some { o with world := w }

/-- An event of the daemon, or a turn of the loop. -/
inductive OutboxEvent where
  | host (e : HostEvent)
  | pop

/-- What the daemon and the loop do, in any order. -/
inductive OutboxStep (env : Env) : Outbox → OutboxEvent → Outbox → Prop where
  | host {o : Outbox} {e : HostEvent} {w' : World} (h : HostStep env o.world e w') :
      OutboxStep env o (.host e) { o with world := w' }
  | pop {o o' : Outbox} (h : popEnvelope env o = some o') : OutboxStep env o .pop o'

/-- The events of the daemon among these. -/
def hostEvents (es : List OutboxEvent) : List HostEvent :=
  es.filterMap fun
    | .host e => some e
    | .pop => none

/-- The turns of the loop among these. -/
def popCount (es : List OutboxEvent) : Nat :=
  es.countP fun
    | .host _ => false
    | .pop => true

/-! ## One envelope -/

/-- What can become of an envelope: it is refused for its recipient only, and what is handed over is
its own message. -/
structure Fated (env : Env) (entry : String × SendEnvelope) (fate : Fate) : Prop where
  invalid : fate = .invalidRecipient ↔ env.parseDid entry.2.to = none
  notDelivered : ∀ message, fate = .notDelivered message →
    message = pluginMessage env entry.1 entry.2
  sent : ∀ message, fate = .sent message → message = pluginMessage env entry.1 entry.2

section Loop

variable {env : Env}

/-- **Every envelope has a fate**, and it costs the daemon one call at most. -/
theorem sendEnvelope_fated (fragment : String) (e : SendEnvelope) (w : World) :
    ∃ fate calls, sendEnvelope env fragment e [] w =
        (.ok fate, { w with io := { w.io with calls } }) ∧ Fated env (fragment, e) fate := by
  unfold sendEnvelope
  by_cases hdid : (env.parseDid e.to).isNone
  · rw [if_pos hdid]
    refine ⟨.invalidRecipient, w.io.calls, rfl, ⟨fun _ => ?_, fun _ => rfl⟩, ?_, ?_⟩
    · exact Option.isNone_iff_eq_none.mp hdid
    · intro message h
      cases h
    · intro message h
      cases h
  · rw [if_neg hdid]
    have hsome : env.parseDid e.to ≠ none := fun h => hdid (Option.isNone_iff_eq_none.mpr h)
    have hrun (p : Nat → M Fate) : (nextCall >>= p) [] w =
        p w.io.calls [] { w with io := { w.io with calls := w.io.calls + 1 } } := rfl
    rw [hrun]
    cases env.deliver w.io.calls with
    | buildFailed => exact ⟨_, _, rfl, by simpa using hsome, by simp, by simp⟩
    | noOutbox => exact ⟨_, _, rfl, by simpa using hsome, by simp, by simp⟩
    | sendFailed => exact ⟨_, _, rfl, by simpa using hsome, by simp, by simp⟩
    | sent => exact ⟨_, _, rfl, by simpa using hsome, by simp, by simp⟩

/-- The loop stops at the end of the channel only. -/
theorem popEnvelope_eq_none_iff {o : Outbox} :
    popEnvelope env o = none ↔ o.world.io.envelopes.length ≤ o.fates.length := by
  rw [← List.getElem?_eq_none_iff]
  change popEnvelope env o = none ↔ o.next = none
  unfold popEnvelope
  split
  · rename_i hnext
    simp only [hnext]
  · rename_i fragment e hnext
    rw [hnext]
    split <;> simp

/-- **A turn of the loop** takes the next envelope, and leaves the daemon as it is. -/
theorem popEnvelope_spec {o o' : Outbox} (h : popEnvelope env o = some o') :
    ∃ entry fate calls, o.world.io.envelopes[o.fates.length]? = some entry ∧
      Fated env entry fate ∧ o' =
        { world := { o.world with io := { o.world.io with calls } }
          fates := o.fates ++ [fate] } := by
  unfold popEnvelope at h
  split at h
  · cases h
  · rename_i fragment e hentry
    obtain ⟨fate, calls, hsend, hfated⟩ := @sendEnvelope_fated env fragment e o.world
    rw [hsend] at h
    exact ⟨(fragment, e), fate, calls, hentry, hfated, (Option.some.inj h).symm⟩

/-! ## In every order -/

/-- The fates are those of the first envelopes in the channel. -/
structure Drained (env : Env) (o : Outbox) : Prop where
  length : o.fates.length ≤ o.world.io.envelopes.length
  fates : List.Forall₂ (Fated env) (o.world.io.envelopes.take o.fates.length) o.fates

/-- What is sent later changes nothing for what was taken. -/
theorem Drained.append {o : Outbox} (h : Drained env o) {w' : World}
    {sent : List (String × SendEnvelope)}
    (hsent : w'.io.envelopes = o.world.io.envelopes ++ sent) :
    Drained env { o with world := w' } := by
  refine ⟨?_, ?_⟩
  · dsimp only
    rw [hsent, List.length_append]
    exact Nat.le_add_right_of_le h.length
  · dsimp only
    rw [hsent, List.take_append_of_le_length h.length]
    exact h.fates

/-- A turn of the loop adds the fate of the next envelope. -/
theorem Drained.pop {o o' : Outbox} (h : Drained env o) (hpop : popEnvelope env o = some o') :
    Drained env o' := by
  obtain ⟨entry, fate, calls, hentry, hfated, rfl⟩ := popEnvelope_spec hpop
  have hlt : o.fates.length < o.world.io.envelopes.length :=
    (List.getElem?_eq_some_iff.mp hentry).1
  refine ⟨?_, ?_⟩
  · rw [List.length_append]
    exact hlt
  · dsimp only
    rw [List.length_append, List.length_singleton, List.take_add_one, hentry]
    exact List.rel_append h.fates (.cons hfated .nil)

theorem OutboxStep.records {o o' : Outbox} {e : OutboxEvent} (h : OutboxStep env o e o')
    {started : List (String × KindNode)} (hw : Wired env (o.world.plugins started))
    (hkinds : o.world.rt.kindRegistry = ∅) :
    ∃ started', Wired env (o'.world.plugins started') ∧ o'.world.rt.kindRegistry = ∅ ∧
      ∀ s ∈ started', s ∈ started ∨ Upserted env (hostEvents [e]) s.1 s.2 := by
  cases h with
  | host h => exact h.records hw hkinds
  | pop h =>
    obtain ⟨entry, fate, calls, -, -, rfl⟩ := popEnvelope_spec h
    exact ⟨started, hw, hkinds, fun _ hs => .inl hs⟩

theorem OutboxStep.drained {o o' : Outbox} {e : OutboxEvent} (h : OutboxStep env o e o')
    {started : List (String × KindNode)} (hw : Wired env (o.world.plugins started))
    (hd : Drained env o) :
    Drained env o' ∧ o'.fates.length = o.fates.length + popCount [e] := by
  cases h with
  | host h =>
    obtain ⟨started', -, hendures⟩ := h.wired hw
    obtain ⟨sent, hsent, -⟩ := hendures.envelopes
    exact ⟨hd.append hsent, rfl⟩
  | pop h =>
    refine ⟨hd.pop h, ?_⟩
    obtain ⟨entry, fate, calls, -, -, rfl⟩ := popEnvelope_spec h
    exact List.length_append

/-- What a run keeps. -/
theorem outbox_run {o o' : Outbox} {es : List OutboxEvent}
    (hrun : Run (OutboxStep env) o es o') {started : List (String × KindNode)}
    (hw : Wired env (o.world.plugins started)) (hkinds : o.world.rt.kindRegistry = ∅)
    (hd : Drained env o) :
    (∃ started', Wired env (o'.world.plugins started') ∧
      ∀ s ∈ started', s ∈ started ∨ Upserted env (hostEvents es) s.1 s.2) ∧
      Drained env o' ∧ o'.fates.length = o.fates.length + popCount es := by
  induction hrun generalizing started with
  | nil o => exact ⟨⟨started, hw, fun _ hs => .inl hs⟩, hd, rfl⟩
  | @cons o o1 o' e es hstep hrest ih =>
    obtain ⟨started1, hw1, hkinds1, hfirst⟩ := hstep.records hw hkinds
    obtain ⟨hd1, hcount⟩ := hstep.drained hw hd
    obtain ⟨⟨started', hw', hmore⟩, hd', hcount'⟩ := ih hw1 hkinds1 hd1
    have hevents : hostEvents (e :: es) = hostEvents [e] ++ hostEvents es :=
      @List.filterMap_append _ _ [e] es _
    have hpops : popCount (e :: es) = popCount [e] + popCount es :=
      @List.countP_append _ _ [e] es
    refine ⟨⟨started', hw', fun s hs => ?_⟩, hd', ?_⟩
    · rw [hevents]
      rcases hmore s hs with hs | ⟨message, hmem, h⟩
      · exact (hfirst s hs).imp id fun ⟨message, hmem, h⟩ =>
          ⟨message, List.mem_append_left _ hmem, h⟩
      · exact .inr ⟨message, List.mem_append_right _ hmem, h⟩
    · rw [hcount', hcount, hpops, Nat.add_assoc]

/-- Left alone, the loop empties the channel, in as many turns as envelopes are left. -/
theorem outbox_empties {n : Nat} {o : Outbox} (hd : Drained env o)
    (hn : o.world.io.envelopes.length = o.fates.length + n) :
    ∃ o', Run (OutboxStep env) o (.replicate n .pop) o' ∧ popEnvelope env o' = none ∧
      o'.world.rt = o.world.rt ∧ o.fates <+: o'.fates := by
  induction n generalizing o with
  | zero => exact ⟨o, .nil o, popEnvelope_eq_none_iff.mpr hn.le, rfl, List.prefix_refl _⟩
  | succ n ih =>
    cases hpop : popEnvelope env o with
    | none =>
      have hend := popEnvelope_eq_none_iff.mp hpop
      omega
    | some o1 =>
      have hd1 := hd.pop hpop
      obtain ⟨entry, fate, calls, -, -, rfl⟩ := popEnvelope_spec hpop
      have hn1 : o.world.io.envelopes.length = (o.fates ++ [fate]).length + n := by
        rw [List.length_append, List.length_singleton]
        omega
      obtain ⟨o', hrun, hend, hrt, hfates⟩ := ih hd1 hn1
      exact ⟨o', .cons (.pop hpop) hrun, hend, hrt, (List.prefix_append _ _).trans hfates⟩

/-- **First in, first out**: whatever else goes on, the envelopes that were taken are the first in
the channel, one for each turn of the loop, each with a fate of its own. Left alone, the loop takes
the rest. -/
theorem outbox_fifo {config : Config} {files : StrMap (Except Error Config)}
    {cells : Nat → PluginCell} {rootCid : Option Cid} {cliOwners : List String}
    {es : List OutboxEvent} {o : Outbox}
    (hrun : Run (OutboxStep env) { world := booted env config files cells rootCid cliOwners }
      es o) :
    List.Forall₂ (Fated env) (o.world.io.envelopes.take (popCount es)) o.fates ∧
      (popEnvelope env o = none ↔ popCount es = o.world.io.envelopes.length) ∧
      ∃ o', Run (OutboxStep env) o
          (.replicate (o.world.io.envelopes.length - popCount es) .pop) o' ∧
        popEnvelope env o' = none ∧ o'.world.rt = o.world.rt ∧ o.fates <+: o'.fates := by
  obtain ⟨hkinds, started, hw, -⟩ := booted_wired env config files cells rootCid cliOwners
  have hfresh : Drained env { world := booted env config files cells rootCid cliOwners } :=
    ⟨Nat.zero_le _, .nil⟩
  obtain ⟨-, hd, hcount⟩ := outbox_run hrun hw hkinds hfresh
  have hcount : o.fates.length = popCount es := hcount.trans (Nat.zero_add _)
  have hlength := hd.length
  rw [← hcount, popEnvelope_eq_none_iff]
  exact ⟨hd.fates, by omega, outbox_empties hd (by omega)⟩

/-- The outbox after the parrot's message. -/
def chirped : Outbox where
  world := { birdSung with io := { birdSung.io with calls := birdSung.io.calls + 1 } }
  fates := [.sent (pluginMessage birdEnv "parrot" chirp)]

set_option maxRecDepth 100000

theorem parrot_heard :
    Run (OutboxStep birdEnv) { world := birdStart } [.host (.turn (.rpc castParrot)), .pop]
      chirped := by
  have hsent : birdSung.io.envelopes = [("parrot", chirp)] := by decide +kernel
  refine .cons (.host .run) (.cons (.pop ?_) (.nil _))
  have hnext : Outbox.next { world := birdSung } = some ("parrot", chirp) := by
    unfold Outbox.next
    rw [hsent]
    rfl
  change popEnvelope birdEnv { world := birdSung } = some chirped
  unfold popEnvelope
  rw [hnext]
  rfl

/-- After the parrot's message the channel is empty. -/
theorem outbox_fifo_parrot :
    chirped.fates = [.sent (pluginMessage birdEnv "parrot" chirp)] ∧
      popEnvelope birdEnv chirped = none := by
  have hone : 1 = chirped.world.io.envelopes.length := by decide +kernel
  exact ⟨rfl, (outbox_fifo parrot_heard).2.1.mpr hone⟩

/-- Who may send a message through the outbox: a plugin may as its host functions let it, and the
daemon tells a plugin that an entity of its making failed. -/
inductive MaySendAs (env : Env) (fragment : String) (kindNode : KindNode)
    (message : PluginMessage) : Prop where
  | send (h : .maSend ∈ linkedHostFns kindNode)
  | reply (h : .maReply ∈ linkedHostFns kindNode)
      (htype : message.messageType = env.messageTypeRpcReply) (hto : message.replyTo ≠ none)
  | notice (h : .maCreateEntity ∈ linkedHostFns kindNode) (hto : message.to = message.from)

/-- The message of an authentic envelope. -/
theorem Authentic.message {started : List (String × KindNode)} {entry : String × SendEnvelope}
    (h : Authentic env started entry) :
    ∃ kindNode, (entry.1, kindNode) ∈ started ∧
      MaySendAs env entry.1 kindNode (pluginMessage env entry.1 entry.2) := by
  cases h with
  | @sent fragment kindNode e h hmay =>
    refine ⟨kindNode, h, ?_⟩
    rcases hmay with hsend | ⟨hreply, hto⟩
    · exact .send hsend
    · refine .reply hreply ?_ hto
      exact if_pos (Option.isSome_iff_ne_none.mpr hto)
  | @notice kindNode req h hmay => exact ⟨kindNode, h, .notice hmay rfl⟩

/-- Each fate is that of an envelope. -/
theorem exists_entry {entries : List (String × SendEnvelope)} {fates : List Fate} {fate : Fate}
    (h : List.Forall₂ (Fated env) entries fates) (hfate : fate ∈ fates) :
    ∃ entry ∈ entries, Fated env entry fate := by
  induction h with
  | nil => exact absurd hfate List.not_mem_nil
  | @cons entry fate' entries fates hfated _ ih =>
    rcases List.mem_cons.mp hfate with rfl | hrest
    · exact ⟨entry, List.mem_cons_self, hfated⟩
    · obtain ⟨entry', hmem, hfated'⟩ := ih hrest
      exact ⟨entry', List.mem_cons_of_mem _ hmem, hfated'⟩

/-- **Sent messages are authentic**: in every run, a message that left through the outbox is from a
fragment of the runtime under which a plugin was started, of a kind that may send it. -/
theorem outbox_authentic {config : Config} {files : StrMap (Except Error Config)}
    {cells : Nat → PluginCell} {rootCid : Option Cid} {cliOwners : List String}
    {es : List OutboxEvent} {o : Outbox} {message : PluginMessage}
    (hrun : Run (OutboxStep env) { world := booted env config files cells rootCid cliOwners } es o)
    (hsent : .sent message ∈ o.fates) :
    ∃ fragment kindNode, message.from = env.ourDid ++ "#" ++ fragment ∧
      StartedIn env rootCid (hostEvents es) fragment kindNode ∧
      (∃ protocol, Declares env protocol kindNode) ∧ MaySendAs env fragment kindNode message := by
  obtain ⟨hkinds, started, hw, hstartup⟩ := booted_wired env config files cells rootCid cliOwners
  have hfresh : Drained env { world := booted env config files cells rootCid cliOwners } :=
    ⟨Nat.zero_le _, .nil⟩
  obtain ⟨⟨started', hw', hmore⟩, hd, -⟩ := outbox_run hrun hw hkinds hfresh
  obtain ⟨entry, hentry, hfated⟩ := exists_entry hd.fates hsent
  obtain rfl := hfated.sent message rfl
  obtain ⟨kindNode, hstarted, hmay⟩ := (hw'.envelopes entry (List.mem_of_mem_take hentry)).message
  refine ⟨entry.1, kindNode, ?_, ?_, hw'.started _ hstarted, hmay⟩
  · rfl
  · rcases hmore _ hstarted with hold | hupserted
    · obtain ⟨root, hroot, h⟩ := hstartup _ hold
      exact .startup hroot h
    · exact .upserted hupserted

/-- The message is the parrot's. -/
theorem outbox_authentic_parrot :
    ∃ fragment kindNode,
      (pluginMessage birdEnv "parrot" chirp).from = birdEnv.ourDid ++ "#" ++ fragment ∧
      StartedIn birdEnv (some "bafyroot") [.turn (.rpc castParrot)] fragment kindNode ∧
      (∃ protocol, Declares birdEnv protocol kindNode) ∧
      MaySendAs birdEnv fragment kindNode (pluginMessage birdEnv "parrot" chirp) :=
  outbox_authentic parrot_heard (List.mem_singleton_self _)

end Loop

end MaRuntime
