import MaRuntime.Plugins.Session

/-!
# The counter plugin (`src/plugins/counter/src/lib.rs`)

A 64-bit integer that saturates at both ends. Anyone may read and change it; the plugin has no
identity of its own.

* `CounterOp` is what a message asks of the counter, `CounterOp.apply` what it makes of the value,
  `CounterOp.act` the same in the integers (`apply_toInt`).
* `handleCall_run`: a message has its effect, hands the new value over if it wrote one, and is
  replied to. `init_run`: a persisted value is restored as it was.
-/

namespace MaRuntime.Plugins.Counter

open Lib (Cbor CborCodec Proc)

/-! ## The plugin -/

/-- `Value::Integer` of an `i64`. -/
def ofInt64 (n : Int64) : Cbor :=
  match n.toInt with
  | .ofNat k => .unsigned (.ofNat k)
  | .negSucc k => .negative (.ofNat k)

/-- The nearest `i64`. -/
def saturate (n : Int) : Int64 := .ofInt (max (-(2 ^ 63)) (min n (2 ^ 63 - 1)))

/-- `i64::saturating_add`. -/
def saturatingAdd (a b : Int64) : Int64 := saturate (a.toInt + b.toInt)

/-- `i64::saturating_sub`. -/
def saturatingSub (a b : Int64) : Int64 := saturate (a.toInt - b.toInt)

variable (codec : CborCodec)

/-- The state that a value is persisted as. -/
def stored (v : Int64) : Bytes := codec.encode (.map [(.text "value", ofInt64 v)])

/-- `persist_counter`. -/
def persistCounter (v : Int64) : PluginM Int64 Unit := persistStateBytes (stored codec v)

/-- One entry of a persisted state. -/
def restoreEntry : Cbor × Cbor → PluginM Int64 Unit
  | (.text k, v) =>
    if k = "value" then
      match v.toInt.bind int64OfInt with
      | some n64 => borrowMut .state (modifyState fun _ => n64)
      | none => pure ()
    else pure ()
  | _ => pure ()

/-- `init`. -/
def init (input : Bytes) : PluginM Int64 Bytes :=
  match (codec.decode input).bind InitPayload.ofCbor with
  | none => pure (cborError codec "init decode")
  | some payload => do
    match if payload.state.isEmpty then none else codec.decode payload.state with
    | some (.map entries) => Proc.each entries restoreEntry
    | _ => pure ()
    pure (cborOkUnit codec)

/-- A new value, saved and answered. -/
def write (f : Int64 → Int64) : PluginM Int64 Bytes := do
  modifyState f
  let val ← getLocals Locals.state
  persistCounter codec val
  pure (cborOk codec (ofInt64 val))

/-- The answer of `handle_call` to a verb, of any sender. -/
def answer (verb : String) (args : List Cbor) (_sender : String) : PluginM Int64 Bytes :=
  match verb with
  | ":get" => do
    let val ← getLocals Locals.state
    pure (cborOk codec (ofInt64 val))
  | ":reset" => write codec fun _ => 0
  | ":inc" =>
    let n := (argI64 args 0).getD 1
    write codec fun val => saturatingAdd val n
  | ":dec" =>
    let n := (argI64 args 0).getD 1
    write codec fun val => saturatingSub val n
  | ":set" =>
    match argI64 args 0 with
    | some n => write codec fun _ => n
    | none => pure (cborError codec ":set requires an integer argument")
  | other => pure (cborError codec s!"unknown verb: {other}")

/-- `handle_call`. -/
def handleCall (input : Bytes) : PluginM Int64 Bytes := handleCallWith codec (answer codec) input

/-- The plugin. -/
def program : Program Int64 where
  initial := 0
  init := init codec
  handleCall := handleCall codec

/-! ## What a message asks for -/

/-- A change of the value. -/
inductive CounterOp where
  | reset
  | add (n : Int64)
  | sub (n : Int64)
  | set (n : Int64)
  deriving DecidableEq, Repr

/-- The value after a change. -/
def CounterOp.apply (v : Int64) : CounterOp → Int64
  | .reset => 0
  | .add n => saturatingAdd v n
  | .sub n => saturatingSub v n
  | .set n => n

/-- The integer nearest to `n` between the ends. -/
def clamp (n : Int) : Int := max (-(2 ^ 63)) (min n (2 ^ 63 - 1))

/-- **The change, in the integers**: sums and differences stop at the ends. -/
def CounterOp.act (v : Int) : CounterOp → Int
  | .reset => 0
  | .add n => clamp (v + n.toInt)
  | .sub n => clamp (v - n.toInt)
  | .set n => n.toInt

/-- The change that a verb asks for. -/
def changeOf (verb : String) (args : List Cbor) : Option CounterOp :=
  match verb with
  | ":reset" => some .reset
  | ":inc" => some (.add ((argI64 args 0).getD 1))
  | ":dec" => some (.sub ((argI64 args 0).getD 1))
  | ":set" => (argI64 args 0).map .set
  | _ => none

/-- The change that a message asks for. -/
def opOf (content : Bytes) : Option CounterOp :=
  (parseVerb codec content).bind fun (verb, args) => changeOf verb args

/-! ## The value as an integer -/

section Arithmetic

theorem saturate_toInt (n : Int) : (saturate n).toInt = clamp n := by
  refine Int64.toInt_ofInt_of_le ?_ ?_
  · exact le_max_left _ _
  · have hmax : clamp n ≤ 2 ^ 63 - 1 := max_le (by decide) (min_le_right _ _)
    exact Int.lt_of_le_sub_one hmax

/-- **The value never wraps**: it changes as in the integers, up to the ends. -/
theorem apply_toInt (v : Int64) (op : CounterOp) : (op.apply v).toInt = op.act v.toInt := by
  cases op with
  | reset => rfl
  | add n => exact saturate_toInt _
  | sub n => exact saturate_toInt _
  | set n => rfl

/-- Every value is read back as it was written, the negative ones too. -/
theorem int64OfInt_ofInt64 (v : Int64) : (ofInt64 v).toInt.bind int64OfInt = some v := by
  have hlow : -2 ^ 63 ≤ v.toInt := Int64.le_toInt v
  have hhigh : v.toInt < 2 ^ 63 := Int64.toInt_lt v
  have hread : (ofInt64 v).toInt = some v.toInt := by
    unfold ofInt64
    cases hv : v.toInt with
    | ofNat k =>
      rw [hv] at hhigh
      have hk : k < UInt64.size := by
        have : (k : Int) < 2 ^ 63 := hhigh
        simp only [UInt64.size]
        omega
      simp only [Cbor.toInt, UInt64.toNat_ofNat_of_lt' hk]
      rfl
    | negSucc k =>
      rw [hv] at hlow
      have hk : k < UInt64.size := by
        have : -2 ^ 63 ≤ -((k : Int) + 1) := hlow
        simp only [UInt64.size]
        omega
      simp only [Cbor.toInt, UInt64.toNat_ofNat_of_lt' hk]
      rw [Int.negSucc_eq]
      congr 1
      omega
  rw [hread, Option.bind_some]
  unfold int64OfInt
  rw [if_pos ⟨hlow, hhigh⟩, Int64.ofInt_toInt]

end Arithmetic

/-! ## Messages -/

/-- The plugin after a change: the new value is in the cell and with the host. -/
def wrote (s : Guest Int64) (op : Option CounterOp) : Guest Int64 :=
  match op with
  | none => s
  | some op =>
    { locals := { s.locals with state := op.apply s.locals.state }
      calls := s.calls ++ [(.maSetState, stored codec (op.apply s.locals.state))] }

/-- The plugin after a message: its effect, and one reply. -/
def played (locals : Locals Int64) (msg : LocalMessage) (content : Bytes) : Guest Int64 :=
  let s := wrote codec { locals } (opOf codec msg.content)
  { s with
    calls := s.calls ++ [(.maReply, codec.encode (ReplyRequest.toCbor
      { msg, contentType := "application/cbor", content }))] }

section Messages

variable {codec} {g : Lib.Guards Local} {s : Guest Int64}

/-- Only the write verbs ask for a change. -/
theorem changeOf_none {verb : String} {args : List Cbor}
    (h : verb ∉ [":reset", ":inc", ":dec", ":set"]) : changeOf verb args = none := by
  unfold changeOf
  split
  · simp at h
  · simp at h
  · simp at h
  · simp at h
  · rfl

theorem write_run (op : CounterOp) {f : Int64 → Int64} (h : ∀ v, f v = op.apply v) :
    ∃ content, write codec f g s = (.ok content, wrote codec s (some op)) := by
  obtain rfl : f = op.apply := funext h
  exact ⟨_, rfl⟩

/-- **A verb has its effect and is answered**, of any sender and with any arguments. -/
theorem answer_run (verb : String) (args : List Cbor) (sender : String) :
    ∃ content, answer codec verb args sender g s =
      (.ok content, wrote codec s (changeOf verb args)) := by
  unfold answer
  split
  · exact ⟨_, rfl⟩
  · exact write_run .reset fun _ => rfl
  · exact write_run (.add _) fun _ => rfl
  · exact write_run (.sub _) fun _ => rfl
  · show ∃ content, _ = (_, wrote codec s ((argI64 args 0).map .set))
    cases argI64 args 0 with
    | none => exact ⟨_, rfl⟩
    | some n => exact write_run (.set n) fun _ => rfl
  · rename_i hget hreset hinc hdec hset
    rw [changeOf_none (by simpa using ⟨hreset, hinc, hdec, hset⟩)]
    exact ⟨_, rfl⟩

/-- **Every message is played to its end**: with its effect, and a reply. -/
theorem handleCall_run (msg : LocalMessage) (locals : Locals Int64) :
    ∃ content, handleCall codec (codec.encode (CastInput.toCbor { msg })) [] { locals } =
      (.ok [], played codec locals msg content) := by
  unfold handleCall handleCallWith
  rw [codec.decode_encode, Option.bind_some, castInputOfCbor_toCbor]
  unfold played opOf
  dsimp only
  cases hverb : parseVerb codec msg.content with
  | none => exact ⟨_, rfl⟩
  | some v =>
    obtain ⟨verb, args⟩ := v
    obtain ⟨content, hanswer⟩ := @answer_run codec [(.state, .write)] { locals } verb args msg.from
    refine ⟨content, ?_⟩
    dsimp only
    unfold borrowMut
    rw [Proc.bind_of_ok ((Proc.holding_run rfl _ _).trans hanswer)]
    rfl

end Messages

/-! ## Restoring -/

/-- The value after an entry of a persisted state. -/
def entryValue (v : Int64) : Cbor × Cbor → Int64
  | (.text k, n) => if k = "value" then (n.toInt.bind int64OfInt).getD v else v
  | _ => v

/-- The value that `init` of a fresh instance makes of a persisted state. -/
def restoredValue (bytes : Bytes) : Int64 :=
  match if bytes.isEmpty then none else codec.decode bytes with
  | some (.map entries) => entries.foldl entryValue 0
  | _ => 0

section Restoring

variable {codec} {s : Guest Int64}

@[simp] theorem restoredValue_nil : restoredValue codec [] = 0 := rfl

/-- **A value that was persisted is restored.** -/
@[simp] theorem restoredValue_stored (v : Int64) : restoredValue codec (stored codec v) = v := by
  have hvalue : entryValue 0 (.text "value", ofInt64 v) = v := by
    show ((ofInt64 v).toInt.bind int64OfInt).getD 0 = v
    rw [int64OfInt_ofInt64]
    rfl
  unfold restoredValue stored
  rw [codec.encode_isEmpty, codec.decode_encode]
  exact hvalue

theorem restoreEntry_run (e : Cbor × Cbor) :
    restoreEntry e [] s =
      (.ok (), { s with locals := { s.locals with state := entryValue s.locals.state e } }) := by
  unfold restoreEntry entryValue
  split
  · split
    · rename_i n hk
      cases n.toInt.bind int64OfInt <;> rfl
    · rfl
  · rfl

theorem restoreEntries_run (entries : List (Cbor × Cbor)) (s : Guest Int64) :
    Proc.each entries restoreEntry [] s =
      (.ok (), { s with
        locals := { s.locals with state := entries.foldl entryValue s.locals.state } }) := by
  induction entries generalizing s with
  | nil => rfl
  | cons e entries ih =>
    unfold Proc.each
    rw [Proc.bind_of_ok (restoreEntry_run e), ih]
    rfl

/-- **`init` of a fresh instance** restores the value, with no call of the host. -/
theorem init_run {input : Bytes} {payload : InitPayload}
    (h : (codec.decode input).bind InitPayload.ofCbor = some payload) :
    init codec input [] { locals := { state := 0 } } =
      (.ok (cborOkUnit codec), { locals := { state := restoredValue codec payload.state } }) := by
  unfold init restoredValue
  simp only [h]
  generalize (if payload.state.isEmpty then none else codec.decode payload.state) = v
  cases v with
  | none => rfl
  | some v =>
    cases v with
    | map entries =>
      simp only [Proc.bind_of_ok (restoreEntries_run entries _)]
      rfl
    | _ => rfl

end Restoring

end MaRuntime.Plugins.Counter
