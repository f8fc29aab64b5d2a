import MaRuntime.Plugins.Shared

/-!
# The register plugin (`src/plugins/register/src/lib.rs`)

A map between keys and values that can be read both ways. Anyone may read it; the parent and the
entity itself may change it.
-/

namespace MaRuntime.Plugins.Register

open Lib (Cbor CborCodec)

/-- `RegisterState`. -/
structure RegisterState where
  fwd : StrMap String := ∅
  rev : StrMap String := ∅
  deriving DecidableEq

/-- The CBOR map of a `BTreeMap<String, String>`. -/
def mapToCbor (m : StrMap String) : Cbor := .map (m.toList.map fun e => (.text e.1, .text e.2))

/-- A `BTreeMap<String, String>` from its CBOR map. -/
def mapOfCbor : Cbor → Option (StrMap String)
  | .map entries => entries.foldlM (fun m e => match e with
    | (.text k, .text v) => some (m.insert k v)
    | _ => none) ∅
  | _ => none

/-- The map serde writes for a `RegisterState`. -/
def RegisterState.toCbor (s : RegisterState) : Cbor :=
  .map [(.text "fwd", mapToCbor s.fwd), (.text "rev", mapToCbor s.rev)]

/-- `RegisterState` from a CBOR value. -/
def RegisterState.ofCbor : Cbor → Option RegisterState
  | .map e => do
    pure
      { fwd := ← (Cbor.field e "fwd").bind mapOfCbor, rev := ← (Cbor.field e "rev").bind mapOfCbor }
  | _ => none

/-- `:set`: the pairs that the key or the value was in go first. -/
def RegisterState.set (s : RegisterState) (key val : String) : RegisterState :=
  let rev := match s.fwd[key]? with
    | some oldVal => s.rev.erase oldVal
    | none => s.rev
  let fwd := match rev[val]? with
    | some oldKey => s.fwd.erase oldKey
    | none => s.fwd
  { fwd := fwd.insert key val, rev := rev.insert val key }

/-- `:delete`. -/
def RegisterState.delete (s : RegisterState) (key : String) : RegisterState :=
  { fwd := s.fwd.erase key
    rev := match s.fwd[key]? with
      | some val => s.rev.erase val
      | none => s.rev }

/-- `:delete_value`. -/
def RegisterState.deleteValue (s : RegisterState) (val : String) : RegisterState :=
  { rev := s.rev.erase val
    fwd := match s.rev[val]? with
      | some key => s.fwd.erase key
      | none => s.fwd }

variable (codec : CborCodec)

/-- `persist`. -/
def persist : PluginM RegisterState Unit := persistWith fun state => codec.encode state.toCbor

/-- `init`. -/
def init (input : Bytes) : PluginM RegisterState Bytes :=
  initWith codec (fun state => (codec.decode state).bind RegisterState.ofCbor) input

/-- A lookup that can miss. -/
def found (o : Option String) : Bytes :=
  match o with
  | some s => cborOk codec (.text s)
  | none => cborError codec "not found"

/-- A change of the state and its save. -/
def update (f : RegisterState → RegisterState) : PluginM RegisterState Bytes := do
  modifyState f
  persist codec
  pure (cborOk codec .null)

/-- The answer of `handle_call` to a verb. -/
def answer (verb : String) (args : List Cbor) (sender : String) : PluginM RegisterState Bytes :=
  match verb with
  | ":count" => do
    let state ← getLocals Locals.state
    pure (cborOk codec (.unsigned (.ofNat state.fwd.size)))
  | ":keys" => do
    let state ← getLocals Locals.state
    pure (cborOk codec (.array (state.fwd.keys.map .text)))
  | ":values" => do
    let state ← getLocals Locals.state
    pure (cborOk codec (.array (state.fwd.values.map .text)))
  | ":get" =>
    match argText args 0 with
    | some key => do
      let state ← getLocals Locals.state
      pure (found codec state.fwd[key]?)
    | none => pure (cborError codec ":get requires a key")
  | ":reverse" =>
    match argText args 0 with
    | some val => do
      let state ← getLocals Locals.state
      pure (found codec state.rev[val]?)
    | none => pure (cborError codec ":reverse requires a value")
  | ":has" =>
    match argText args 0 with
    | some key => do
      let state ← getLocals Locals.state
      pure (cborOk codec (.bool (state.fwd.contains key)))
    | none => pure (cborError codec ":has requires a key")
  | ":has_value" =>
    match argText args 0 with
    | some val => do
      let state ← getLocals Locals.state
      pure (cborOk codec (.bool (state.rev.contains val)))
    | none => pure (cborError codec ":has_value requires a value")
  | ":set" =>
    asWriter codec sender <|
      match argText args 0, argText args 1 with
      | some key, some val => update codec (·.set key val)
      | _, _ => pure (cborError codec ":set requires key and value")
  | ":delete" =>
    asWriter codec sender <|
      match argText args 0 with
      | some key => update codec (·.delete key)
      | none => pure (cborError codec ":delete requires a key")
  | ":delete_value" =>
    asWriter codec sender <|
      match argText args 0 with
      | some val => update codec (·.deleteValue val)
      | none => pure (cborError codec ":delete_value requires a value")
  | ":clear" => asWriter codec sender (update codec fun _ => {})
  | other => pure (cborError codec s!"unknown verb: {other}")

/-- `handle_call`. -/
def handleCall (input : Bytes) : PluginM RegisterState Bytes :=
  handleCallWith codec (answer codec) input

/-- The plugin. -/
def program : Program RegisterState where
  initial := {}
  init := init codec
  handleCall := handleCall codec

end MaRuntime.Plugins.Register
