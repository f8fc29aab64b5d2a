/-!
# The value types of the wire and of the manifest

`serde_yaml::Value` (the entries of `manifest.config` and of the daemon's config file),
`serde_json::Value` (kind attributes) and `ciborium::Value` (message payloads). Floats are kept by
their IEEE bits, and integers in the ranges the crates give them.
-/

namespace MaRuntime

/-- `Vec<u8>`. -/
abbrev Bytes := List UInt8

/-- `serde_yaml::Number` and `serde_json::Number`; `negInt` holds negative values only. -/
inductive Number where
  | posInt (n : UInt64)
  | negInt (n : Int64)
  | float (bits : UInt64)
  deriving DecidableEq, Repr

/-- `From<i64> for Number`. -/
def Number.ofInt64 (n : Int64) : Number :=
  if n < 0 then .negInt n else .posInt n.toUInt64

/-- `serde_yaml::Value`. -/
inductive Yaml where
  | null
  | bool (b : Bool)
  | number (n : Number)
  | string (s : String)
  | sequence (items : List Yaml)
  | mapping (entries : List (Yaml × Yaml))
  deriving Repr

namespace Yaml

/-- `Value::as_str`. -/
def asStr : Yaml → Option String
  | .string s => some s
  | _ => none

/-- `Value::as_u64`. -/
def asU64 : Yaml → Option UInt64
  | .number (.posInt n) => some n
  | _ => none

/-- `Value::is_null`. -/
def isNull : Yaml → Bool
  | .null => true
  | _ => false

/-- A sequence of strings. -/
def strings (l : List String) : Yaml := .sequence (l.map .string)

theorem filterMap_asStr_strings (l : List String) : (l.map Yaml.string).filterMap asStr = l := by
  induction l with
  | nil => rfl
  | cons s l ih =>
    simp only [List.map_cons, List.filterMap_cons, asStr]
    rw [ih]

mutual

def decEq : (a b : Yaml) → Decidable (a = b)
  | .null, b => match b with
    | .null => isTrue rfl
    | .bool _ | .number _ | .string _ | .sequence _ | .mapping _ => isFalse nofun
  | .bool x, b => match b with
    | .bool y => decidable_of_iff (x = y) ⟨congrArg _, fun h => by injection h⟩
    | .null | .number _ | .string _ | .sequence _ | .mapping _ => isFalse nofun
  | .number x, b => match b with
    | .number y => decidable_of_iff (x = y) ⟨congrArg _, fun h => by injection h⟩
    | .null | .bool _ | .string _ | .sequence _ | .mapping _ => isFalse nofun
  | .string x, b => match b with
    | .string y => decidable_of_iff (x = y) ⟨congrArg _, fun h => by injection h⟩
    | .null | .bool _ | .number _ | .sequence _ | .mapping _ => isFalse nofun
  | .sequence x, b => match b with
    | .sequence y => @decidable_of_iff _ (x = y) ⟨congrArg _, fun h => by injection h⟩
        (decEqItems x y)
    | .null | .bool _ | .number _ | .string _ | .mapping _ => isFalse nofun
  | .mapping x, b => match b with
    | .mapping y => @decidable_of_iff _ (x = y) ⟨congrArg _, fun h => by injection h⟩
        (decEqEntries x y)
    | .null | .bool _ | .number _ | .string _ | .sequence _ => isFalse nofun

def decEqItems : (x y : List Yaml) → Decidable (x = y)
  | [], [] => isTrue rfl
  | [], _ :: _ => isFalse nofun
  | _ :: _, [] => isFalse nofun
  | a :: x, b :: y =>
    @decidable_of_iff _ (a = b ∧ x = y)
      ⟨fun h => by rw [h.1, h.2], fun h => by injection h with h1 h2; exact ⟨h1, h2⟩⟩
      (@instDecidableAnd _ _ (decEq a b) (decEqItems x y))

def decEqEntries : (x y : List (Yaml × Yaml)) → Decidable (x = y)
  | [], [] => isTrue rfl
  | [], _ :: _ => isFalse nofun
  | _ :: _, [] => isFalse nofun
  | (k, v) :: x, (k', v') :: y =>
    @decidable_of_iff _ ((k = k' ∧ v = v') ∧ x = y)
      ⟨fun h => by rw [h.1.1, h.1.2, h.2], fun h => by
        injection h with h h'; injection h with h1 h2; exact ⟨⟨h1, h2⟩, h'⟩⟩
      (@instDecidableAnd _ _ (@instDecidableAnd _ _ (decEq k k') (decEq v v')) (decEqEntries x y))

end

instance : DecidableEq Yaml := decEq

end Yaml

/-- JSON has a text for the number: it has none for NaN and the infinities. -/
def Number.isFinite : Number → Bool
  | .float bits => (bits >>> 52) &&& 0x7ff != 0x7ff
  | _ => true

/-- The number that is read of the text of a number, given what is read of the text of a float. -/
def Number.viaText (readFloat : UInt64 → Number) : Number → Number
  | .posInt n => .posInt n
  | .negInt n => .negInt n
  | .float bits => readFloat bits

namespace Yaml

section ViaJson

variable (readFloat : UInt64 → Number)

mutual

/-- A value as it comes back from JSON: a number without a text was written as `null`. -/
def viaJson : Yaml → Yaml
  | .number n => if n.isFinite then .number (n.viaText readFloat) else .null
  | .sequence items => .sequence (viaJsonItems items)
  | .mapping entries => .mapping (viaJsonEntries entries)
  | .null => .null
  | .bool b => .bool b
  | .string s => .string s

def viaJsonItems : List Yaml → List Yaml
  | [] => []
  | v :: rest => viaJson v :: viaJsonItems rest

def viaJsonEntries : List (Yaml × Yaml) → List (Yaml × Yaml)
  | [] => []
  | (k, v) :: rest => (k, viaJson v) :: viaJsonEntries rest

end

theorem asStr_viaJson (v : Yaml) : (v.viaJson readFloat).asStr = v.asStr := by
  cases v with
  | number n =>
    rw [viaJson]
    split <;> rfl
  | _ => rfl

/-- JSON keeps the texts of a list. -/
theorem filterMap_asStr_viaJson : ∀ items : List Yaml,
    (viaJsonItems readFloat items).filterMap asStr = items.filterMap asStr
  | [] => rfl
  | v :: rest => by
    rw [viaJsonItems, List.filterMap_cons, List.filterMap_cons, asStr_viaJson,
      filterMap_asStr_viaJson rest]

end ViaJson

end Yaml

/-- `serde_json::Value`; an object lists its entries by ascending key. -/
inductive Json where
  | null
  | bool (b : Bool)
  | number (n : Number)
  | string (s : String)
  | array (items : List Json)
  | object (entries : List (String × Json))
  deriving Repr

namespace Json

/-- `Value::as_bool`. -/
def asBool : Json → Option Bool
  | .bool b => some b
  | _ => none

mutual

def decEq : (a b : Json) → Decidable (a = b)
  | .null, b => match b with
    | .null => isTrue rfl
    | .bool _ | .number _ | .string _ | .array _ | .object _ => isFalse nofun
  | .bool x, b => match b with
    | .bool y => decidable_of_iff (x = y) ⟨congrArg _, fun h => by injection h⟩
    | .null | .number _ | .string _ | .array _ | .object _ => isFalse nofun
  | .number x, b => match b with
    | .number y => decidable_of_iff (x = y) ⟨congrArg _, fun h => by injection h⟩
    | .null | .bool _ | .string _ | .array _ | .object _ => isFalse nofun
  | .string x, b => match b with
    | .string y => decidable_of_iff (x = y) ⟨congrArg _, fun h => by injection h⟩
    | .null | .bool _ | .number _ | .array _ | .object _ => isFalse nofun
  | .array x, b => match b with
    | .array y => @decidable_of_iff _ (x = y) ⟨congrArg _, fun h => by injection h⟩
        (decEqItems x y)
    | .null | .bool _ | .number _ | .string _ | .object _ => isFalse nofun
  | .object x, b => match b with
    | .object y => @decidable_of_iff _ (x = y) ⟨congrArg _, fun h => by injection h⟩
        (decEqEntries x y)
    | .null | .bool _ | .number _ | .string _ | .array _ => isFalse nofun

def decEqItems : (x y : List Json) → Decidable (x = y)
  | [], [] => isTrue rfl
  | [], _ :: _ => isFalse nofun
  | _ :: _, [] => isFalse nofun
  | a :: x, b :: y =>
    @decidable_of_iff _ (a = b ∧ x = y)
      ⟨fun h => by rw [h.1, h.2], fun h => by injection h with h1 h2; exact ⟨h1, h2⟩⟩
      (@instDecidableAnd _ _ (decEq a b) (decEqItems x y))

def decEqEntries : (x y : List (String × Json)) → Decidable (x = y)
  | [], [] => isTrue rfl
  | [], _ :: _ => isFalse nofun
  | _ :: _, [] => isFalse nofun
  | (k, v) :: x, (k', v') :: y =>
    @decidable_of_iff _ ((k = k' ∧ v = v') ∧ x = y)
      ⟨fun h => by rw [h.1.1, h.1.2, h.2], fun h => by
        injection h with h h'; injection h with h1 h2; exact ⟨⟨h1, h2⟩, h'⟩⟩
      (@instDecidableAnd _ _ (@instDecidableAnd _ _ inferInstance (decEq v v')) (decEqEntries x y))

end

instance : DecidableEq Json := decEq

end Json

end MaRuntime
