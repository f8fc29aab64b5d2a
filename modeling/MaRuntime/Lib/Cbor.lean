import Mathlib.Algebra.Group.Nat.Defs

/-!
# CBOR values and their codec

`Cbor` is the data model of RFC 8949 as a value type: integers are `n` or `-1 - n` for a 64-bit
`n`, floats are kept by their IEEE 754 binary64 bits. `CborCodec` is what a program relies on from
its encoder and decoder: what was encoded decodes to the same value, and no value decodes from
the empty input.
-/

namespace Lib

/-- A CBOR value. -/
inductive Cbor where
  | unsigned (n : UInt64)
  | negative (n : UInt64)
  | bytes (b : List UInt8)
  | text (s : String)
  | array (items : List Cbor)
  | map (entries : List (Cbor × Cbor))
  | tag (t : UInt64) (v : Cbor)
  | bool (b : Bool)
  | null
  | float (bits : UInt64)
  deriving Repr

namespace Cbor

/-- The integer a value holds. -/
def toInt : Cbor → Option Int
  | .unsigned n => some n.toNat
  | .negative n => some (-1 - n.toNat)
  | _ => none

/-- The first entry of a map under a text key. -/
def field (entries : List (Cbor × Cbor)) (key : String) : Option Cbor :=
  match entries with
  | [] => none
  | (.text k, v) :: rest => if k = key then some v else field rest key
  | _ :: rest => field rest key

end Cbor

/-- An encoder of CBOR values and a decoder that inverts it. -/
structure CborCodec where
  encode : Cbor → List UInt8
  decode : List UInt8 → Option Cbor
  decode_encode : ∀ v, decode (encode v) = some v
  decode_nil : decode [] = none

/-- No value is encoded as nothing. -/
theorem CborCodec.encode_isEmpty (codec : CborCodec) (v : Cbor) :
    (codec.encode v).isEmpty = false := by
  rw [List.isEmpty_eq_false_iff]
  intro hnil
  have hdecode := codec.decode_encode v
  rw [hnil, codec.decode_nil] at hdecode
  exact absurd hdecode (by simp)

end Lib
