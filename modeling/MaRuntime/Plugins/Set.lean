import MaRuntime.Plugins.Shared

/-!
# The set plugin (`src/plugins/set/src/lib.rs`)

A list of distinct texts. Anyone may read it; the parent and the entity itself may change it.
-/

namespace MaRuntime.Plugins.Set

open Lib (Cbor CborCodec)

variable (codec : CborCodec)

/-- `persist`. -/
def persist : PluginM (List String) Unit :=
  persistWith fun members => codec.encode (.array (members.map .text))

/-- A text. -/
def asText : Cbor → Option String
  | .text s => some s
  | _ => none

/-- The members in a persisted state; what is no text is dropped. -/
def readMembers (state : Bytes) : Option (List String) :=
  match codec.decode state with
  | some (.array items) => some (items.filterMap asText)
  | _ => none

/-- `init`. -/
def init (input : Bytes) : PluginM (List String) Bytes := initWith codec (readMembers codec) input

/-- The answer of `handle_call` to a verb. -/
def answer (verb : String) (args : List Cbor) (sender : String) :
    PluginM (List String) Bytes :=
  match verb with
  | ":count" => do
    let members ← getLocals Locals.state
    pure (cborOk codec (.unsigned (.ofNat members.length)))
  | ":members" => do
    let members ← getLocals Locals.state
    pure (cborOk codec (.array (members.map .text)))
  | ":contains" =>
    match argText args 0 with
    | some val => do
      let members ← getLocals Locals.state
      pure (cborOk codec (.bool (members.contains val)))
    | none => pure (cborError codec ":contains requires a value")
  | ":add" =>
    asWriter codec sender <|
      match argText args 0 with
      | some val => do
        let members ← getLocals Locals.state
        if members.contains val then pure (cborOk codec .null)
        else do
          modifyState (· ++ [val])
          persist codec
          pure (cborOk codec .null)
      | none => pure (cborError codec ":add requires a value")
  | ":remove" =>
    asWriter codec sender <|
      match argText args 0 with
      | some val => do
        modifyState (·.filter (· ≠ val))
        persist codec
        pure (cborOk codec .null)
      | none => pure (cborError codec ":remove requires a value")
  | ":clear" =>
    asWriter codec sender do
      modifyState fun _ => []
      persist codec
      pure (cborOk codec .null)
  | other => pure (cborError codec s!"unknown verb: {other}")

theorem filterMap_asText (members : List String) :
    (members.map Cbor.text).filterMap asText = members := by
  induction members with
  | nil => rfl
  | cons s members ih =>
    simp only [List.map_cons, List.filterMap_cons, asText]
    rw [ih]

/-- A persisted set is restored as it was. -/
theorem readMembers_encode (members : List String) :
    readMembers codec (codec.encode (.array (members.map .text))) = some members := by
  unfold readMembers
  rw [codec.decode_encode]
  exact congrArg some (filterMap_asText members)

/-- `handle_call`. -/
def handleCall (input : Bytes) : PluginM (List String) Bytes :=
  handleCallWith codec (answer codec) input

/-- The plugin. -/
def program : Program (List String) where
  initial := []
  init := init codec
  handleCall := handleCall codec

end MaRuntime.Plugins.Set
