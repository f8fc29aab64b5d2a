import MaRuntime.Plugins.Shared

/-!
# An instance over many calls

The modules are built to abort on a panic, so a call that traps unwinds nothing: the borrow it was
under stays in the memory, and each later call that needs the cell traps in turn. Whether it stays
is a parameter here (`keeps`): without it a trap would unwind, that is, keep what the call changed
in the cells and free the borrow. An instance whose memory is dropped is another one
(`Request.load`).

* `Session.call` is one call of an export, `Session.next` what the host asks of an instance: a
  message, an `init`, or a fresh instance with its `init`.
* `Hosts`: a module behaves like a program, whatever it has in its memory besides the session.
* `call_verb`, `call_other`, `call_init`: what a call leaves of the cells.
-/

namespace MaRuntime.Plugins

open Lib (Cbor CborCodec Proc)

/-- An instance between two calls. -/
structure Session (S : Type) where
  locals : Locals S
  /-- A call that panicked left its mutable borrow of the state. -/
  borrowed : Bool := false
  deriving DecidableEq, Repr

/-- The borrows that a call starts under. -/
def Session.guards {S : Type} (s : Session S) : Lib.Guards Local :=
  if s.borrowed then [(.state, .write)] else []

/-- What a call of an export makes of the instance. A panic keeps what the call changed in the
cells; its borrow stays (`keeps`) or is freed. -/
def Session.call {S : Type} (keeps : Bool) (s : Session S) (f : PluginM S Bytes) : Session S :=
  match f s.guards { locals := s.locals } with
  | (.stuck, guest) => { locals := guest.locals, borrowed := keeps }
  | (_, guest) => { s with locals := guest.locals }

/-- What the host asks for: `load` is an instance of its own, with its `init`. -/
inductive Request where
  | call (input : Bytes)
  | init (input : Bytes)
  | load (input : Bytes)
  deriving DecidableEq, Repr

/-- The instance after a request. -/
def Session.next {S : Type} (program : Program S) (keeps : Bool) (s : Session S) :
    Request → Session S
  | .call input => s.call keeps (program.handleCall input)
  | .init input => s.call keeps (program.init input)
  | .load input =>
    Session.call keeps { locals := { state := program.initial } } (program.init input)

/-! ## What the host sees -/

/-- What the host is told of a call: its output, or that it trapped. -/
def Told (outcome : Lib.Outcome Empty Bytes) (result : Except String Bytes) : Prop :=
  match outcome with
  | .ok output => result = .ok output
  | .stuck => ∃ trap, result = .error trap

/-- The module's call goes like the function in this session: it makes the same host calls, returns
the same or traps, and leaves the session after it in its memory. -/
def Performs {S : Type} (sessionIn : Bytes → Option (Session S)) (keeps : Bool) (s : Session S)
    (f : PluginM S Bytes) (call : GuestCall) : Prop :=
  ∃ result memory, call.Makes (result, memory) (f s.guards { locals := s.locals }).2.calls ∧
    Told (f s.guards { locals := s.locals }).1 result ∧ sessionIn memory = some (s.call keeps f)

/-- **The module behaves like the program**, where `sessionIn` finds the session in its memory. It
imports two host functions, and is not instantiated without them. What it answers to an `init` that
it cannot read, and what it leaves where a host function fails, is open. -/
structure Hosts {S : Type} (env : Env) (program : Program S) (keeps : Bool) (wasm : Bytes)
    (sessionIn : Bytes → Option (Session S)) : Prop where
  instantiate : ∀ {n hostFns wasi memory}, env.instantiate n wasm hostFns wasi = .ok memory →
    sessionIn memory = some { locals := { state := program.initial } } ∧
      .maReply ∈ hostFns ∧ .maSetState ∈ hostFns
  init : ∀ {n memory s input payload}, sessionIn memory = some s →
    (env.codec.decode input).bind InitPayload.ofCbor = some payload →
      Performs sessionIn keeps s (program.init input) (env.guest n ⟨wasm, memory⟩ "init" input)
  handleCall : ∀ {n memory s input}, sessionIn memory = some s →
    Performs sessionIn keeps s (program.handleCall input)
      (env.guest n ⟨wasm, memory⟩ "handle_call" input)

/-- A call of an export of a module whose memory is laid out by `repr`. -/
def Session.interaction {S : Type} (keeps : Bool) (repr : Session S → Bytes) (s : Session S)
    (f : PluginM S Bytes) : GuestCall :=
  let (outcome, guest) := f s.guards { locals := s.locals }
  let result := match outcome with
    | .ok output => .ok output
    | .stuck => .error "wasm trap: unreachable"
  let memory := repr (s.call keeps f)
  .ofOps (result, memory) (.error "host function failed", memory) guest.calls

theorem Session.interaction_performs {S : Type} {sessionIn : Bytes → Option (Session S)}
    {keeps : Bool} {repr : Session S → Bytes} (hrepr : ∀ s, sessionIn (repr s) = some s)
    (s : Session S) (f : PluginM S Bytes) :
    Performs sessionIn keeps s f (s.interaction keeps repr f) := by
  refine ⟨_, _, Lib.Interaction.makes_ofOps _ _ _, ?_, hrepr _⟩
  cases (f s.guards { locals := s.locals }).1 with
  | ok output => exact rfl
  | err e => exact e.elim
  | stuck => exact ⟨_, rfl⟩

/-! ## Requests -/

/-- An `init` is handed no state, or one that was persisted. -/
def Request.RestoresFrom (codec : CborCodec) (persisted : Bytes → Prop) : Request → Prop
  | .call _ => True
  | .init input | .load input => ∀ payload,
    (codec.decode input).bind InitPayload.ofCbor = some payload →
      payload.state = [] ∨ persisted payload.state

/-- The input of a `handle_call` carries a verb. -/
structure Carries (codec : CborCodec) (input : Bytes) (cast : CastInput) (verb : String)
    (args : List Cbor) : Prop where
  decodes : (codec.decode input).bind castInputOfCbor = some cast
  parses : parseVerb codec cast.msg.content = some (verb, args)

theorem Carries.unique {codec : CborCodec} {input : Bytes} {cast cast' : CastInput}
    {verb verb' : String} {args args' : List Cbor} (h : Carries codec input cast verb args)
    (h' : Carries codec input cast' verb' args') : cast = cast' ∧ verb = verb' ∧ args = args' := by
  obtain rfl : cast = cast' := Option.some.inj (h.decodes.symm.trans h'.decodes)
  have hsame := Option.some.inj (h.parses.symm.trans h'.parses)
  simp only [Prod.mk.injEq] at hsame
  exact ⟨rfl, hsame⟩

section Calls

variable {S : Type} {codec : CborCodec} {keeps : Bool} {s : Session S}
  {answer : String → List Cbor → String → PluginM S Bytes} {readState : Bytes → Option S}

/-- A writer gets through, any other sender changes nothing. -/
theorem asWriter_locals {sender : String} (p : PluginM S Bytes) {locals : Locals S} :
    (asWriter codec sender p [(.state, .write)] { locals }).2.locals =
      if IsWriter locals sender then (p [(.state, .write)] { locals }).2.locals else locals := by
  by_cases hwriter : IsWriter locals sender
  · rw [if_pos hwriter, asWriter_run rfl rfl hwriter]
  · unfold asWriter
    rw [if_neg hwriter, Proc.bind_of_ok (isWriter_run sender rfl rfl)]
    simp only [hwriter, decide_false, Bool.false_eq_true, if_false]
    rfl

theorem Session.call_locals (f : PluginM S Bytes) :
    (s.call keeps f).locals = (f s.guards { locals := s.locals }).2.locals := by
  unfold Session.call
  split <;> rename_i h <;> rw [h]

/-- A borrow stays after a call that got stuck. -/
theorem Session.call_borrowed (f : PluginM S Bytes) :
    (s.call keeps f).borrowed =
      if (f s.guards { locals := s.locals }).1 = .stuck then keeps else s.borrowed := by
  unfold Session.call
  split
  · rename_i h
    rw [h, if_pos rfl]
  · rename_i o guest hstuck h
    rw [h, if_neg hstuck]

/-- A verb waits for nobody: where the cell is taken, the call panics. -/
theorem handleCallWith_borrowed {input : Bytes} {cast : CastInput} {verb : String}
    {args : List Cbor} (h : Carries codec input cast verb args) (hborrowed : s.borrowed = true) :
    handleCallWith codec answer input s.guards { locals := s.locals } =
      (.stuck, { locals := s.locals }) := by
  unfold handleCallWith Session.guards borrowMut
  simp only [h.decodes, h.parses, hborrowed]
  rfl

/-- A verb that is answered without a change of the cells is replied to. -/
theorem handleCallWith_answered {input : Bytes} {cast : CastInput} {verb : String}
    {args : List Cbor} {result : Bytes} (h : Carries codec input cast verb args)
    (hfree : s.borrowed = false)
    (hanswer : answer verb args cast.msg.from [(.state, .write)] { locals := s.locals } =
      (.ok result, { locals := s.locals })) :
    handleCallWith codec answer input s.guards { locals := s.locals } =
      (.ok [], { locals := s.locals
                 calls := [(.maReply, codec.encode (ReplyRequest.toCbor
                   { msg := cast.msg, contentType := "application/cbor"
                     content := result }))] }) := by
  unfold handleCallWith Session.guards borrowMut
  simp only [h.decodes, h.parses, hfree, if_neg Bool.false_ne_true]
  rw [Proc.bind_of_ok ((Proc.holding_run rfl _ _).trans hanswer)]
  rfl

/-- **A verb is answered under the borrow of the state**, unless that is taken. -/
theorem Session.call_verb {input : Bytes} {cast : CastInput} {verb : String} {args : List Cbor}
    (h : Carries codec input cast verb args) :
    (s.call keeps (handleCallWith codec answer input)).locals =
      if s.borrowed then s.locals
      else (answer verb args cast.msg.from [(.state, .write)] { locals := s.locals }).2.locals := by
  rw [Session.call_locals]
  unfold handleCallWith Session.guards borrowMut
  simp only [h.decodes, h.parses]
  cases s.borrowed with
  | true => rfl
  | false =>
    simp only [if_neg Bool.false_ne_true]
    have hborrow := Proc.holding_run (l := Local.state) (m := .write) (g := []) rfl
      (answer verb args cast.msg.from) ({ locals := s.locals } : Guest S)
    rcases hrun : answer verb args cast.msg.from [(.state, .write)] { locals := s.locals }
      with ⟨o, guest⟩
    rw [hrun] at hborrow
    cases o with
    | ok result => rw [Proc.bind_of_ok hborrow]; rfl
    | err e => exact e.elim
    | stuck => rw [Proc.bind_of_stuck hborrow]

/-- A message without a verb changes nothing. -/
theorem Session.call_other {input : Bytes}
    (h : ¬ ∃ cast verb args, Carries codec input cast verb args) :
    (s.call keeps (handleCallWith codec answer input)).locals = s.locals := by
  rw [Session.call_locals]
  unfold handleCallWith
  cases hcast : (codec.decode input).bind castInputOfCbor with
  | none => rfl
  | some cast =>
    cases hverb : parseVerb codec cast.msg.content with
    | none => simp only [hverb]; rfl
    | some v => exact absurd ⟨cast, v.1, v.2, hcast, hverb⟩ h

/-- The state that `init` puts in place of `state`. -/
def restored (readState : Bytes → Option S) (bytes : Bytes) (state : S) : S :=
  (if bytes.isEmpty then none else readState bytes).getD state

@[simp] theorem restored_nil (state : S) : restored readState [] state = state := rfl

/-- Persisted bytes are never empty, so they are read. -/
theorem restored_encode {v : Cbor} {s' : S} (h : readState (codec.encode v) = some s') (state : S) :
    restored readState (codec.encode v) state = s' := by
  unfold restored
  rw [codec.encode_isEmpty, h]
  rfl

/-- **`init` takes over the identity, and the persisted state** if it can have the cell. -/
theorem Session.call_init {input : Bytes} {payload : InitPayload}
    (h : (codec.decode input).bind InitPayload.ofCbor = some payload) :
    (s.call keeps (initWith codec readState input)).locals =
      { state := if s.borrowed then s.locals.state
          else restored readState payload.state s.locals.state
        selfDid := payload.ctx.selfDid, parent := payload.ctx.parent } := by
  rw [Session.call_locals]
  unfold initWith Session.guards restored restoreWith
  simp only [h]
  generalize (if payload.state.isEmpty then none else readState payload.state) = persisted
  cases s.borrowed with
  | true => cases persisted <;> rfl
  | false => cases persisted <;> rfl

/-- An `init` that cannot read its input changes nothing. -/
theorem Session.call_init_none {input : Bytes}
    (h : (codec.decode input).bind InitPayload.ofCbor = none) :
    (s.call keeps (initWith codec readState input)).locals = s.locals := by
  rw [Session.call_locals]
  unfold initWith
  simp only [h]
  rfl

end Calls

end MaRuntime.Plugins
