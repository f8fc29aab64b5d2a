import MaRuntime.Plugin

/-!
# What the shipped plugins share (`src/plugins/shared/types.rs`)

A shipped plugin is one Wasm module: `thread_local!` cells, an `init` and a `handle_call`. Its
functions are processes whose resources are the cells. A `RefCell` counts its borrows at run time,
so `borrow()` and `borrow_mut()` are guards, and a borrow that one of the alive guards excludes
panics: the run is stuck, and the export traps.

* `initWith` and `handleCallWith` are `init` and `handle_call` up to what the plugins do
  differently; `isWriter` is the same function in each of them.
-/

namespace MaRuntime.Plugins

open Lib (Cbor CborCodec Proc)

/-! ## Cells -/

/-- The cells of a plugin that has a state, an identity and a parent. -/
inductive Local where
  | state
  | selfDid
  | parent
  deriving DecidableEq, Repr

/-- What the cells hold. -/
structure Locals (S : Type) where
  state : S
  selfDid : String := ""
  parent : Option String := none
  deriving DecidableEq, Repr

/-- A plugin in a call: its cells, and the host calls it made. -/
structure Guest (S : Type) where
  locals : Locals S
  calls : List (HostFn × Bytes) := []
  deriving DecidableEq, Repr

/-- A function of a plugin. It has no errors of its own. -/
abbrev PluginM (S : Type) := Proc Local (Guest S) Empty

section Functions

variable {S α : Type}

/-- `CELL.with(|c| …)` with a `borrow()` that lives as long as `p`. -/
def borrow (l : Local) (p : PluginM S α) : PluginM S α := p.holding l .read

/-- `CELL.with(|c| …)` with a `borrow_mut()` that lives as long as `p`. -/
def borrowMut (l : Local) (p : PluginM S α) : PluginM S α := p.holding l .write

/-- Look at the cells. -/
def getLocals (f : Locals S → α) : PluginM S α := Proc.look fun s => f s.locals

/-- Change the cells. -/
def modifyLocals (f : Locals S → Locals S) : PluginM S Unit :=
  Proc.update fun s => { s with locals := f s.locals }

/-- Change the state. -/
def modifyState (f : S → S) : PluginM S Unit :=
  modifyLocals fun l => { l with state := f l.state }

/-- Call the host; what it answers is not looked at. -/
def callHost (fn : HostFn) (input : Bytes) : PluginM S Unit :=
  Proc.update fun s => { s with calls := s.calls ++ [(fn, input)] }

/-! ## Wire types -/

/-- The plugin's `EntityCtx`; serde skips the other fields. -/
structure EntityCtx where
  selfDid : String
  fragment : String
  parent : Option String
  deriving DecidableEq, Repr

/-- The plugin's `InitPayload`. -/
structure InitPayload where
  ctx : EntityCtx
  state : Bytes
  deriving DecidableEq, Repr

/-- `EntityCtx` from a CBOR value. -/
def EntityCtx.ofCbor : Cbor → Option EntityCtx
  | .map e => do
    pure
      { selfDid := ← textField e "self", fragment := ← textField e "fragment"
        parent := ← optTextField e "parent" }
  | _ => none

/-- `InitPayload` from a CBOR value: an absent state is empty. -/
def InitPayload.ofCbor : Cbor → Option InitPayload
  | .map e => do
    let ctx ← (Cbor.field e "ctx").bind EntityCtx.ofCbor
    match Cbor.field e "state" with
    | none => pure { ctx, state := [] }
    | some (.bytes state) => pure { ctx, state }
    | some _ => none
  | _ => none

/-- `CastInput` from a CBOR value. -/
def castInputOfCbor : Cbor → Option CastInput
  | .map e => (Cbor.field e "msg").bind LocalMessage.ofCbor |>.map CastInput.mk
  | _ => none

/-! ## CBOR helpers -/

/-- `cbor_ok_unit`. -/
def cborOkUnit (codec : CborCodec) : Bytes := codec.encode (.text ":ok")

/-- `cbor_ok`. -/
def cborOk (codec : CborCodec) (val : Cbor) : Bytes := codec.encode (.array [.text ":ok", val])

/-- `cbor_error`. -/
def cborError (codec : CborCodec) (reason : String) : Bytes :=
  codec.encode (.array [.text ":error", .text reason])

/-- `send_reply`. -/
def sendReply (codec : CborCodec) (msg : LocalMessage) (content : Bytes) : PluginM S Unit :=
  let req : ReplyRequest := { msg, contentType := "application/cbor", content }
  callHost .maReply (codec.encode req.toCbor)

/-- `persist_state_bytes`. -/
def persistStateBytes (bytes : Bytes) : PluginM S Unit := callHost .maSetState bytes

/-- `parse_verb`: the verb and its arguments. -/
def parseVerb (codec : CborCodec) (content : Bytes) : Option (String × List Cbor) :=
  match codec.decode content with
  | some (.text s) => some (s, [])
  | some (.array (.text v :: args)) => some (v, args)
  | _ => none

/-- `arg_text`. -/
def argText (args : List Cbor) (idx : Nat) : Option String :=
  match args[idx]? with
  | some (.text s) => some s
  | _ => none

/-- `arg_i64`. -/
def argI64 (args : List Cbor) (idx : Nat) : Option Int64 :=
  match args[idx]? with
  | some n => n.toInt.bind int64OfInt
  | none => none

/-! ## The functions of each plugin -/

/-- `is_writer`. -/
def isWriter (sender : String) : PluginM S Bool := do
  let selfMatches ← borrow .selfDid (getLocals fun l => decide (l.selfDid = sender))
  let parentMatches ← borrow .parent (getLocals fun l => decide (l.parent = some sender))
  pure (selfMatches || parentMatches)

/-- `if !is_writer(&msg.from) { return cbor_error("permission denied"); }`, then `p`. -/
def asWriter (codec : CborCodec) (sender : String) (p : PluginM S Bytes) : PluginM S Bytes := do
  if ← isWriter sender then p else pure (cborError codec "permission denied")

/-- `persist`. -/
def persistWith (encodeState : S → Bytes) : PluginM S Unit :=
  borrow .state do
    let state ← getLocals Locals.state
    persistStateBytes (encodeState state)

/-- The persisted state, where there is one and it can be read. -/
def restoreWith (readState : Bytes → Option S) (state : Bytes) : PluginM S Unit :=
  match if state.isEmpty then none else readState state with
  | some s => borrowMut .state (modifyState fun _ => s)
  | none => pure ()

/-- `init`. The decoder's own message is left out of the error. -/
def initWith (codec : CborCodec) (readState : Bytes → Option S) (input : Bytes) :
    PluginM S Bytes :=
  match (codec.decode input).bind InitPayload.ofCbor with
  | none => pure (cborError codec "init decode")
  | some payload => do
    borrowMut .selfDid (modifyLocals fun l => { l with selfDid := payload.ctx.selfDid })
    borrowMut .parent (modifyLocals fun l => { l with parent := payload.ctx.parent })
    restoreWith readState payload.state
    pure (cborOkUnit codec)

/-- `handle_call`: the verb is answered under the mutable borrow of the state. -/
def handleCallWith (codec : CborCodec) (answer : String → List Cbor → String → PluginM S Bytes)
    (input : Bytes) : PluginM S Bytes :=
  match (codec.decode input).bind castInputOfCbor with
  | none => pure []
  | some cast =>
    match parseVerb codec cast.msg.content with
    | none => do
      sendReply codec cast.msg (cborError codec "invalid verb term")
      pure []
    | some (verb, args) => do
      let result ← borrowMut .state (answer verb args cast.msg.from)
      sendReply codec cast.msg result
      pure []

end Functions

/-! ## Programs -/

/-- A plugin: the initial content of its state cell, and its exports. -/
structure Program (S : Type) where
  initial : S
  init : Bytes → PluginM S Bytes
  handleCall : Bytes → PluginM S Bytes

/-! ## Lemmas -/

section Lemmas

variable {S : Type} {codec : CborCodec} {g : Lib.Guards Local} {s : Guest S}

/-- The senders that a plugin takes for its parent or itself. -/
def IsWriter (locals : Locals S) (sender : String) : Prop :=
  locals.selfDid = sender ∨ locals.parent = some sender

instance (locals : Locals S) (sender : String) : Decidable (IsWriter locals sender) :=
  inferInstanceAs (Decidable (_ ∨ _))

theorem isWriter_run (sender : String) (hself : g.excludes .selfDid .read = false)
    (hparent : g.excludes .parent .read = false) :
    isWriter sender g s = (.ok (decide (IsWriter s.locals sender)), s) := by
  unfold isWriter borrow
  rw [Proc.bind_of_ok (Proc.holding_run hself _ _), Proc.bind_of_ok (Proc.holding_run hparent _ _)]
  exact congrArg (fun b => (Lib.Outcome.ok b, s)) (Bool.decide_or _ _).symm

/-- A writer gets through. -/
theorem asWriter_run {sender : String} {p : PluginM S Bytes}
    (hself : g.excludes .selfDid .read = false) (hparent : g.excludes .parent .read = false)
    (hwriter : IsWriter s.locals sender) : asWriter codec sender p g s = p g s := by
  unfold asWriter
  rw [Proc.bind_of_ok (isWriter_run sender hself hparent)]
  simp [hwriter]

/-- **The state cannot be persisted while it is borrowed mutably.** -/
theorem persistWith_stuck (encodeState : S → Bytes) (h : g.excludes .state .read = true) :
    persistWith encodeState g s = (.stuck, s) := by
  unfold persistWith borrow Proc.holding
  rw [if_pos h]

@[simp] theorem castInputOfCbor_toCbor (input : CastInput) :
    castInputOfCbor input.toCbor = some input := by
  have hmsg : (Cbor.field [(.text "msg", input.msg.toCbor)] "msg").bind LocalMessage.ofCbor =
      some input.msg := LocalMessage.ofCbor_toCbor input.msg
  unfold CastInput.toCbor castInputOfCbor
  simp only [hmsg]
  rfl

end Lemmas

end MaRuntime.Plugins
