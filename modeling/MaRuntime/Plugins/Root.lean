import MaRuntime.Plugins.Shared

/-!
# The root plugin (`src/plugins/root/src/lib.rs`)

It keeps no state and takes casts: it creates and deletes entities for whoever may talk to it. The
answer of `ma_create_entity` is looked at, so a cast is a call played against its host.

* `Command` is what a message asks of the root plugin, `Command.answer` what it is told.
* `run_handleCast`: a cast queues what its command asks for, and is replied to, once.
-/

namespace MaRuntime.Plugins.Root

open Lib (Cbor CborCodec Interaction)

/-! ## The plugin -/

/-- The cells. Nothing reads them. -/
structure Cells where
  selfDid : String
  parent : Option String
  deriving DecidableEq, Repr

variable (codec : CborCodec)

/-- `init`: the answer, and the cells if they are set. The decoder's own message is left out of the
error. -/
def init (input : Bytes) : Bytes × Option Cells :=
  match (codec.decode input).bind InitPayload.ofCbor with
  | none => (cborError codec "init decode", none)
  | some payload =>
    (cborOkUnit codec, some { selfDid := payload.ctx.selfDid, parent := payload.ctx.parent })

/-- A host call; where it traps, so does the export. -/
def callHost (memory : Bytes) (fn : HostFn) (input : Bytes) (next : Bytes → GuestCall) :
    GuestCall :=
  .call (fn, input) (.error "host function failed", memory) next

/-- `send_reply`, and the end of the cast. -/
def reply (memory : Bytes) (msg : LocalMessage) (content : Bytes) : GuestCall :=
  let req : ReplyRequest := { msg, contentType := "application/cbor", content }
  callHost memory .maReply (codec.encode req.toCbor) fun _ => .done (.ok [], memory)

/-- The input of `ma_create_entity`. -/
def createInput (kind : String) (cid : Cid) : Cbor :=
  .map [(.text "kind", .text kind), (.text "behaviour", .text cid)]

/-- The new entity, with its label if it was given one. -/
def named (fragment : String) : Option String → Cbor
  | some label => .array [.text fragment, .text label]
  | none => .text fragment

/-- `:create`, past its arguments. -/
def create (memory : Bytes) (msg : LocalMessage) (kind : String) (cid : Cid)
    (label : Option String) : GuestCall :=
  callHost memory .maCreateEntity (codec.encode (createInput kind cid)) fun result =>
    if result.isEmpty then reply codec memory msg (cborError codec "create failed")
    else
      match codec.decode result with
      | some (.text fragment) => reply codec memory msg (cborOk codec (named fragment label))
      | _ => reply codec memory msg (cborError codec "create result decode")

/-- `handle_cast`. -/
def handleCast (memory input : Bytes) : GuestCall :=
  match (codec.decode input).bind castInputOfCbor with
  | none => .done (.ok [], memory)
  | some cast =>
    let msg := cast.msg
    match parseVerb codec msg.content with
    | none => reply codec memory msg (cborError codec "invalid verb term")
    | some (verb, args) =>
      match verb with
      | ":ping" => reply codec memory msg (codec.encode (.text ":pong"))
      | ":create" =>
        match argText args 0 with
        | none => reply codec memory msg (cborError codec ":create requires kind and cid")
        | some kind =>
          match argText args 1 with
          | none => reply codec memory msg (cborError codec ":create requires kind and cid")
          | some cid => create codec memory msg kind cid (argText args 2)
      | ":delete" =>
        match argText args 0 with
        | none => reply codec memory msg (cborError codec ":delete requires a fragment")
        | some fragment =>
          callHost memory .maDeleteEntity (codec.encode (.text fragment)) fun _ =>
            reply codec memory msg (cborOkUnit codec)
      | other => reply codec memory msg (cborError codec s!"unknown verb: {other}")

/-- A call of an export, in the terms of its host. `store` writes the cells to the memory. -/
def interaction (store : Cells → Bytes → Bytes) (exportName : String) (input memory : Bytes) :
    GuestCall :=
  match exportName with
  | "init" =>
    match init codec input with
    | (output, some cells) => .done (.ok output, store cells memory)
    | (output, none) => .done (.ok output, memory)
  | "handle_cast" => handleCast codec memory input
  | _ => .done (.error s!"function not found: {exportName}", memory)

/-! ## What a message asks for -/

/-- What a message asks of the root plugin. -/
inductive Command where
  | ping
  | create (kind : String) (cid : Cid) (label : Option String)
  | delete (fragment : String)
  | refused (reason : String)
  deriving DecidableEq, Repr

/-- The command of a message. -/
def commandOf (content : Bytes) : Command :=
  match parseVerb codec content with
  | none => .refused "invalid verb term"
  | some (verb, args) =>
    match verb with
    | ":ping" => .ping
    | ":create" =>
      match argText args 0 with
      | none => .refused ":create requires kind and cid"
      | some kind =>
        match argText args 1 with
        | none => .refused ":create requires kind and cid"
        | some cid => .create kind cid (argText args 2)
    | ":delete" =>
      match argText args 0 with
      | none => .refused ":delete requires a fragment"
      | some fragment => .delete fragment
    | other => .refused s!"unknown verb: {other}"

/-- The answer to a command, where the next new entity is `fresh`. -/
def Command.answer (fresh : String) : Command → Bytes
  | .ping => codec.encode (.text ":pong")
  | .create _ _ label => cborOk codec (named fresh label)
  | .delete _ => cborOkUnit codec
  | .refused reason => cborError codec reason

/-- The creations that a command queues. -/
def Command.creates (fresh parent : String) : Command → List CreateEntityRequest
  | .create kind cid _ =>
    [{ fragment := fresh, kindProtocol := kind, behaviourCid := cid, parent := parent }]
  | _ => []

/-- The deletions that a command queues. -/
def Command.deletes : Command → List String
  | .delete fragment => [fragment]
  | _ => []

/-- What the host sees of a command. -/
def Command.call (memory : Bytes) (msg : LocalMessage) : Command → GuestCall
  | .ping => reply codec memory msg (codec.encode (.text ":pong"))
  | .create kind cid label => Root.create codec memory msg kind cid label
  | .delete fragment =>
    callHost memory .maDeleteEntity (codec.encode (.text fragment)) fun _ =>
      reply codec memory msg (cborOkUnit codec)
  | .refused reason => reply codec memory msg (cborError codec reason)

section Cast

variable {codec : CborCodec} {memory input : Bytes}

/-- **A cast is the call of its command.** -/
theorem handleCast_eq {cast : CastInput}
    (h : (codec.decode input).bind castInputOfCbor = some cast) :
    handleCast codec memory input =
      (commandOf codec cast.msg.content).call codec memory cast.msg := by
  unfold handleCast commandOf
  simp only [h]
  cases parseVerb codec cast.msg.content with
  | none => rfl
  | some v =>
    obtain ⟨verb, args⟩ := v
    dsimp only
    split
    · rfl
    · cases argText args 0 with
      | none => rfl
      | some kind => cases argText args 1 <;> rfl
    · cases argText args 0 <;> rfl
    · rfl

/-- The host functions that the shipped kind declares. -/
def hostFns : List HostFn := [.maSend, .maReply, .maCreateEntity, .maDeleteEntity]

/-- The reply to a message. -/
def replyEnvelope (msg : LocalMessage) (content : Bytes) : SendEnvelope :=
  { «to» := msg.from, contentType := "application/cbor", content, replyTo := some msg.id }

variable {env : Env} {cell : PluginCell} {io : Io}

/-- A reply goes out. -/
theorem run_reply (hfns : cell.hostFns = hostFns) (msg : LocalMessage) (content : Bytes) :
    (reply env.codec memory msg content).run (hostFn env) (cell, io) =
      ((.ok [], memory), cell,
        { io with envelopes := io.envelopes ++ [(cell.fragment, replyEnvelope msg content)] }) := by
  unfold reply callHost Interaction.run hostFn
  simp only [hfns, hostFns, List.mem_cons, true_or, or_true, not_true_eq_false, if_false,
    env.codec.decode_encode, Option.bind_some, ReplyRequest.ofCbor_toCbor]
  rfl

/-- The plugin with what a command queues. -/
def Command.queued (fresh : String) (cell : PluginCell) (command : Command) : PluginCell :=
  { cell with
    createQueue := cell.createQueue ++ command.creates fresh cell.fragment
    deleteQueue := cell.deleteQueue ++ command.deletes }

/-- The record with the reply to a command. -/
def Command.replied (env : Env) (fragment : String) (msg : LocalMessage) (io : Io)
    (command : Command) : Io :=
  let fresh := env.generateFragment io.calls
  { io with
    calls := io.calls + (command.creates fresh fragment).length
    envelopes := io.envelopes ++
      [(fragment, replyEnvelope msg (command.answer env.codec fresh))] }

/-- **A command queues what it asks for, and is replied to.** -/
theorem Command.run (hfns : cell.hostFns = hostFns) (msg : LocalMessage) (command : Command) :
    (command.call env.codec memory msg).run (hostFn env) (cell, io) =
      ((.ok [], memory), command.queued (env.generateFragment io.calls) cell,
        command.replied env cell.fragment msg io) := by
  unfold Command.queued Command.replied
  have quiet (content : Bytes) :
      (reply env.codec memory msg content).run (hostFn env) (cell, io) =
        ((.ok [], memory),
          { cell with
            createQueue := cell.createQueue ++ [], deleteQueue := cell.deleteQueue ++ [] },
          { io with
            calls := io.calls + 0
            envelopes := io.envelopes ++ [(cell.fragment, replyEnvelope msg content)] }) := by
    rw [run_reply hfns, List.append_nil, List.append_nil, Nat.add_zero]
  cases command with
  | ping => exact quiet _
  | refused reason => exact quiet _
  | create kind cid label =>
    have hanswer :
        hostFn env (.maCreateEntity, env.codec.encode (createInput kind cid)) (cell, io) =
        (some (env.codec.encode (.text (env.generateFragment io.calls))),
          { cell with
            createQueue := cell.createQueue ++
              Command.creates (env.generateFragment io.calls) cell.fragment
                (.create kind cid label) },
          { io with calls := io.calls + 1 }) := by
      unfold hostFn
      simp only [hfns, hostFns, List.mem_cons, true_or, or_true, not_true_eq_false, if_false,
        env.codec.decode_encode, Option.bind_some]
      rfl
    unfold Command.call Root.create callHost Interaction.run
    simp only [hanswer, env.codec.encode_isEmpty, env.codec.decode_encode]
    rw [if_neg Bool.false_ne_true, run_reply]
    · simp [Command.creates, Command.deletes, Command.answer]
    · exact hfns
  | delete fragment =>
    have hanswer : hostFn env (.maDeleteEntity, env.codec.encode (.text fragment)) (cell, io) =
        (some (env.codec.encode (.text ":queued")),
          { cell with deleteQueue := cell.deleteQueue ++ [fragment] }, io) := by
      unfold hostFn
      simp only [hfns, hostFns, List.mem_cons, true_or, or_true, not_true_eq_false, if_false,
        env.codec.decode_encode]
    unfold Command.call callHost Interaction.run
    simp only [hanswer]
    rw [run_reply]
    · simp [Command.creates, Command.deletes, Command.answer]
    · exact hfns

/-- **A cast, played against its host.** -/
theorem play_handleCast {n : Nat} {cast : CastInput} (hfns : cell.hostFns = hostFns)
    (h : (env.codec.decode input).bind castInputOfCbor = some cast)
    (hguest : env.guest n cell.plugin "handle_cast" input =
      handleCast env.codec cell.plugin.memory input) :
    let command := commandOf env.codec cast.msg.content
    playExport env n "handle_cast" input cell io =
      (.ok [], command.queued (env.generateFragment io.calls) cell,
        command.replied env cell.fragment cast.msg io) := by
  intro command
  unfold playExport
  rw [hguest, handleCast_eq h, Command.run hfns]
  rfl

end Cast

end MaRuntime.Plugins.Root
