import MaRuntime.Lib.Cbor

/-!
# The CBOR wire format

`encode` writes a value as RFC 8949 does: a head of a major type and an argument in the shortest
form, then the content. A float is written in 64 bits. `decode` reads one value off the front of
the input and ignores what follows it. Arguments from `2 ^ 64` on, which the format cannot write
and no input in memory needs, get the reserved additional information 28, so that the round trip
(`decode_encode`) holds for every value.
-/

namespace Lib.Cbor

/-! ## Heads -/

/-- The `k` low bytes of `n`, most significant first. -/
def bigEndian : Nat → Nat → List UInt8
  | 0, _ => []
  | k + 1, n => UInt8.ofNat (n / 256 ^ k) :: bigEndian k (n % 256 ^ k)

/-- An argument without bound, in base 255; the byte 255 ends it. -/
def unbounded (n : Nat) : List UInt8 :=
  if n = 0 then [255] else UInt8.ofNat (n % 255) :: unbounded (n / 255)
  termination_by n

/-- The head of major type `m` with the argument `n`. -/
def head (m n : Nat) : List UInt8 :=
  if n < 24 then [UInt8.ofNat (m * 32 + n)]
  else if n < 256 then UInt8.ofNat (m * 32 + 24) :: bigEndian 1 n
  else if n < 65536 then UInt8.ofNat (m * 32 + 25) :: bigEndian 2 n
  else if n < 4294967296 then UInt8.ofNat (m * 32 + 26) :: bigEndian 4 n
  else if n < 18446744073709551616 then UInt8.ofNat (m * 32 + 27) :: bigEndian 8 n
  else UInt8.ofNat (m * 32 + 28) :: unbounded n

/-- Read `k` bytes as a number. -/
def readBigEndian : Nat → List UInt8 → Option (Nat × List UInt8)
  | 0, rest => some (0, rest)
  | _ + 1, [] => none
  | k + 1, b :: rest => do
    let (n, rest) ← readBigEndian k rest
    some (b.toNat * 256 ^ k + n, rest)

/-- Read an argument without bound. -/
def readUnbounded : List UInt8 → Option (Nat × List UInt8)
  | [] => none
  | b :: rest =>
    if b = 255 then some (0, rest)
    else do
      let (n, rest) ← readUnbounded rest
      some (n * 255 + b.toNat, rest)

/-- Read the argument that additional information `i` announces. -/
def readArgument (i : Nat) (rest : List UInt8) : Option (Nat × List UInt8) :=
  if i < 24 then some (i, rest)
  else
    match i with
    | 24 => readBigEndian 1 rest
    | 25 => readBigEndian 2 rest
    | 26 => readBigEndian 4 rest
    | 27 => readBigEndian 8 rest
    | 28 => readUnbounded rest
    | _ => none

/-- Read a head: the major type, the argument and what follows. -/
def readHead : List UInt8 → Option (Nat × Nat × List UInt8)
  | [] => none
  | b :: rest => do
    let (n, rest) ← readArgument (b.toNat % 32) rest
    some (b.toNat / 32, n, rest)

theorem readBigEndian_bigEndian (rest : List UInt8) :
    ∀ (k n : Nat), n < 256 ^ k → readBigEndian k (bigEndian k n ++ rest) = some (n, rest)
  | 0, n, h => by
    have : n = 0 := by simpa using h
    subst this
    rfl
  | k + 1, n, h => by
    have hq : n / 256 ^ k < 256 :=
      Nat.div_lt_of_lt_mul (by rw [← Nat.pow_succ]; exact h)
    have hr : n % 256 ^ k < 256 ^ k := Nat.mod_lt _ (Nat.pow_pos (by decide))
    have hb : (UInt8.ofNat (n / 256 ^ k)).toNat = n / 256 ^ k := by
      rw [UInt8.toNat_ofNat']
      exact Nat.mod_eq_of_lt hq
    simp only [bigEndian, List.cons_append, readBigEndian,
      readBigEndian_bigEndian rest k _ hr, Option.bind_eq_bind, Option.bind_some, hb]
    rw [Nat.div_add_mod']

theorem readUnbounded_unbounded (rest : List UInt8) (n : Nat) :
    readUnbounded (unbounded n ++ rest) = some (n, rest) := by
  induction n using unbounded.induct with
  | case1 =>
    rw [unbounded]
    rfl
  | case2 n hn ih =>
    have hlt : n % 255 < 255 := Nat.mod_lt _ (by decide)
    have hb : (UInt8.ofNat (n % 255)).toNat = n % 255 := by
      rw [UInt8.toNat_ofNat']
      exact Nat.mod_eq_of_lt (by omega)
    have hne : UInt8.ofNat (n % 255) ≠ 255 := by
      intro h
      have := congrArg UInt8.toNat h
      rw [hb] at this
      have h255 : (255 : UInt8).toNat = 255 := rfl
      omega
    rw [unbounded, if_neg hn]
    simp only [List.cons_append, readUnbounded, if_neg hne, ih, Option.bind_eq_bind,
      Option.bind_some, hb]
    rw [Nat.div_add_mod']

theorem readHead_byte {m i : Nat} (hm : m < 8) (hi : i < 32) (rest : List UInt8) :
    readHead (UInt8.ofNat (m * 32 + i) :: rest) =
      (readArgument i rest).bind fun p => some (m, p.1, p.2) := by
  have hb : (UInt8.ofNat (m * 32 + i)).toNat = m * 32 + i := by
    rw [UInt8.toNat_ofNat']
    exact Nat.mod_eq_of_lt (by omega)
  have hmajor : (m * 32 + i) / 32 = m := by omega
  have hinfo : (m * 32 + i) % 32 = i := by omega
  simp only [readHead, hb, hmajor, hinfo]
  rfl

/-- **A head reads back.** -/
theorem readHead_head {m : Nat} (hm : m < 8) (n : Nat) (rest : List UInt8) :
    readHead (head m n ++ rest) = some (m, n, rest) := by
  unfold head
  split
  · rename_i h
    rw [List.cons_append, readHead_byte hm (by omega)]
    simp [readArgument, h]
  · split
    · rename_i h
      rw [List.cons_append, readHead_byte hm (by omega)]
      simp [readArgument, readBigEndian_bigEndian rest 1 n h]
    · split
      · rename_i h
        rw [List.cons_append, readHead_byte hm (by omega)]
        simp [readArgument, readBigEndian_bigEndian rest 2 n h]
      · split
        · rename_i h
          rw [List.cons_append, readHead_byte hm (by omega)]
          simp [readArgument, readBigEndian_bigEndian rest 4 n h]
        · split
          · rename_i h
            rw [List.cons_append, readHead_byte hm (by omega)]
            simp [readArgument, readBigEndian_bigEndian rest 8 n h]
          · rw [List.cons_append, readHead_byte hm (by omega)]
            simp [readArgument, readUnbounded_unbounded rest n]

/-! ## Values -/

/-- The UTF-8 bytes of a text. -/
def utf8 (s : String) : List UInt8 := s.toByteArray.data.toList

/-- The text of some UTF-8 bytes. -/
def ofUtf8 (b : List UInt8) : Option String := String.fromUTF8? ⟨⟨b⟩⟩

theorem ofUtf8_utf8 (s : String) : ofUtf8 (utf8 s) = some s := by
  unfold ofUtf8 utf8 String.fromUTF8?
  rw [dif_pos s.isValidUTF8]
  rfl

mutual

/-- The bytes of a value. -/
def encode : Cbor → List UInt8
  | .unsigned n => head 0 n.toNat
  | .negative n => head 1 n.toNat
  | .bytes b => head 2 b.length ++ b
  | .text s => head 3 (utf8 s).length ++ utf8 s
  | .array items => head 4 items.length ++ encodeItems items
  | .map entries => head 5 entries.length ++ encodeEntries entries
  | .tag t v => head 6 t.toNat ++ encode v
  | .bool false => [0xf4]
  | .bool true => [0xf5]
  | .null => [0xf6]
  | .float bits => 0xfb :: bigEndian 8 bits.toNat

/-- The bytes of the values of an array. -/
def encodeItems : List Cbor → List UInt8
  | [] => []
  | v :: rest => encode v ++ encodeItems rest

/-- The bytes of the keys and values of a map. -/
def encodeEntries : List (Cbor × Cbor) → List UInt8
  | [] => []
  | (k, v) :: rest => encode k ++ encode v ++ encodeEntries rest

end

/-- Read `n` times. -/
def readMany {α : Type} (read : List UInt8 → Option (α × List UInt8)) :
    Nat → List UInt8 → Option (List α × List UInt8)
  | 0, bs => some ([], bs)
  | n + 1, bs => do
    let (a, bs) ← read bs
    let (as, bs) ← readMany read n bs
    some (a :: as, bs)

/-- Read a key and a value. -/
def readEntry (read : List UInt8 → Option (Cbor × List UInt8)) (bs : List UInt8) :
    Option ((Cbor × Cbor) × List UInt8) := do
  let (k, bs) ← read bs
  let (v, bs) ← read bs
  some ((k, v), bs)

/-- Read `n` bytes. -/
def readBytes (n : Nat) (bs : List UInt8) : Option (List UInt8 × List UInt8) :=
  if n ≤ bs.length then some (bs.take n, bs.drop n) else none

/-- Read what follows the head of major type `m` with the argument `n`. -/
def readContent (read : List UInt8 → Option (Cbor × List UInt8)) (m n : Nat) (bs : List UInt8) :
    Option (Cbor × List UInt8) :=
  match m with
  | 0 => some (.unsigned (UInt64.ofNat n), bs)
  | 1 => some (.negative (UInt64.ofNat n), bs)
  | 2 => do
    let (content, bs) ← readBytes n bs
    some (.bytes content, bs)
  | 3 => do
    let (content, bs) ← readBytes n bs
    some (.text (← ofUtf8 content), bs)
  | 4 => do
    let (items, bs) ← readMany read n bs
    some (.array items, bs)
  | 5 => do
    let (entries, bs) ← readMany (readEntry read) n bs
    some (.map entries, bs)
  | 6 => do
    let (v, bs) ← read bs
    some (.tag (UInt64.ofNat n) v, bs)
  | _ => none

/-- Read one value, nested at most as deep as the fuel. -/
def readValue : Nat → List UInt8 → Option (Cbor × List UInt8)
  | 0, _ => none
  | _ + 1, [] => none
  | fuel + 1, b :: bs =>
    if b = 0xf4 then some (.bool false, bs)
    else if b = 0xf5 then some (.bool true, bs)
    else if b = 0xf6 then some (.null, bs)
    else if b = 0xfb then do
      let (n, bs) ← readBigEndian 8 bs
      some (.float (UInt64.ofNat n), bs)
    else do
      let (m, n, bs) ← readHead (b :: bs)
      readContent (readValue fuel) m n bs

/-- The value at the front of the input. -/
def decode (bs : List UInt8) : Option Cbor := (readValue bs.length bs).map Prod.fst

/-! ## The round trip -/

theorem head_cons {m : Nat} (hm : m < 8) (n : Nat) :
    ∃ b bs, head m n = b :: bs ∧ b.toNat / 32 = m := by
  have byte {i : Nat} (hi : i < 32) : (UInt8.ofNat (m * 32 + i)).toNat / 32 = m := by
    rw [UInt8.toNat_ofNat']
    omega
  unfold head
  split
  · exact ⟨_, _, rfl, byte (by omega)⟩
  · split
    · exact ⟨_, _, rfl, byte (by omega)⟩
    · split
      · exact ⟨_, _, rfl, byte (by omega)⟩
      · split
        · exact ⟨_, _, rfl, byte (by omega)⟩
        · split
          · exact ⟨_, _, rfl, byte (by omega)⟩
          · exact ⟨_, _, rfl, byte (by omega)⟩

theorem head_length_pos {m : Nat} (hm : m < 8) (n : Nat) : 0 < (head m n).length := by
  obtain ⟨b, bs, h, -⟩ := head_cons hm n
  rw [h]
  exact Nat.succ_pos _

/-- Behind a head below major type 7 stands its content. -/
theorem readValue_head {m : Nat} (hm : m < 7) (fuel n : Nat) (rest : List UInt8) :
    readValue (fuel + 1) (head m n ++ rest) = readContent (readValue fuel) m n rest := by
  have hread := readHead_head (by omega : m < 8) n rest
  obtain ⟨b, bs, h, hb⟩ := head_cons (by omega : m < 8) n
  have hne {c : UInt8} (hc : c.toNat / 32 = 7) : b ≠ c := by
    rintro rfl
    omega
  rw [h, List.cons_append] at hread ⊢
  simp only [readValue, if_neg (hne (c := 0xf4) rfl), if_neg (hne (c := 0xf5) rfl),
    if_neg (hne (c := 0xf6) rfl), if_neg (hne (c := 0xfb) rfl), hread, Option.bind_eq_bind,
    Option.bind_some]

theorem readBytes_append (b rest : List UInt8) :
    readBytes b.length (b ++ rest) = some (b, rest) := by
  unfold readBytes
  rw [if_pos (by simp), List.take_left, List.drop_left]

theorem encode_length_pos (v : Cbor) : 0 < (encode v).length := by
  have pos {m : Nat} (hm : m < 8) (n : Nat) (rest : List UInt8) :
      0 < (head m n ++ rest).length := by
    rw [List.length_append]
    exact Nat.add_pos_left (head_length_pos hm n) _
  cases v with
  | unsigned n => exact head_length_pos (by decide) _
  | negative n => exact head_length_pos (by decide) _
  | bytes b => exact pos (by decide) _ _
  | text s => exact pos (by decide) _ _
  | array items => exact pos (by decide) _ _
  | map entries => exact pos (by decide) _ _
  | tag t v => exact pos (by decide) _ _
  | bool b => cases b <;> exact Nat.succ_pos _
  | null => exact Nat.succ_pos _
  | float bits => exact Nat.succ_pos _

/-- Behind the head, fuel for one level less is enough. -/
theorem fuel_of_head {m n fuel : Nat} {content : List UInt8} (hm : m < 8)
    (h : (head m n ++ content).length ≤ fuel + 1) : content.length ≤ fuel := by
  have := head_length_pos hm n
  rw [List.length_append] at h
  omega

mutual

/-- **A value reads back**, whatever follows it. -/
theorem readValue_encode : ∀ (v : Cbor) (fuel : Nat) (rest : List UInt8),
    (encode v).length ≤ fuel → readValue fuel (encode v ++ rest) = some (v, rest)
  | v, 0, _, h => absurd h (Nat.not_le.mpr (encode_length_pos v))
  | .unsigned n, fuel + 1, rest, _ => by
    rw [encode, readValue_head (by decide), readContent, UInt64.ofNat_toNat]
  | .negative n, fuel + 1, rest, _ => by
    rw [encode, readValue_head (by decide), readContent, UInt64.ofNat_toNat]
  | .bytes b, fuel + 1, rest, _ => by
    rw [encode, List.append_assoc, readValue_head (by decide), readContent, readBytes_append]
    rfl
  | .text s, fuel + 1, rest, _ => by
    rw [encode, List.append_assoc, readValue_head (by decide), readContent, readBytes_append]
    simp only [Option.bind_eq_bind, Option.bind_some, ofUtf8_utf8]
  | .array items, fuel + 1, rest, h => by
    rw [encode] at h
    rw [encode, List.append_assoc, readValue_head (by decide), readContent,
      readMany_items items fuel rest (fuel_of_head (by decide) h)]
    rfl
  | .map entries, fuel + 1, rest, h => by
    rw [encode] at h
    rw [encode, List.append_assoc, readValue_head (by decide), readContent,
      readMany_entries entries fuel rest (fuel_of_head (by decide) h)]
    rfl
  | .tag t v, fuel + 1, rest, h => by
    rw [encode] at h
    rw [encode, List.append_assoc, readValue_head (by decide), readContent,
      readValue_encode v fuel rest (fuel_of_head (by decide) h)]
    simp only [Option.bind_eq_bind, Option.bind_some, UInt64.ofNat_toNat]
  | .bool false, fuel + 1, rest, _ => rfl
  | .bool true, fuel + 1, rest, _ => rfl
  | .null, fuel + 1, rest, _ => rfl
  | .float bits, fuel + 1, rest, _ => by
    rw [encode, List.cons_append]
    simp only [readValue]
    rw [if_neg (by decide), if_neg (by decide), if_neg (by decide), if_pos trivial,
      readBigEndian_bigEndian rest 8 bits.toNat bits.toNat_lt]
    simp only [Option.bind_eq_bind, Option.bind_some, UInt64.ofNat_toNat]

/-- The values of an array read back. -/
theorem readMany_items : ∀ (items : List Cbor) (fuel : Nat) (rest : List UInt8),
    (encodeItems items).length ≤ fuel →
      readMany (readValue fuel) items.length (encodeItems items ++ rest) = some (items, rest)
  | [], _, _, _ => rfl
  | v :: items, fuel, rest, h => by
    simp only [encodeItems, List.length_append] at h
    simp only [encodeItems, List.append_assoc, List.length_cons, readMany,
      readValue_encode v fuel _ (by omega), readMany_items items fuel rest (by omega),
      Option.bind_eq_bind, Option.bind_some]

/-- The entries of a map read back. -/
theorem readMany_entries : ∀ (entries : List (Cbor × Cbor)) (fuel : Nat) (rest : List UInt8),
    (encodeEntries entries).length ≤ fuel →
      readMany (readEntry (readValue fuel)) entries.length (encodeEntries entries ++ rest) =
        some (entries, rest)
  | [], _, _, _ => rfl
  | (k, v) :: entries, fuel, rest, h => by
    simp only [encodeEntries, List.length_append] at h
    simp only [encodeEntries, List.append_assoc, List.length_cons, readMany, readEntry,
      readValue_encode k fuel _ (by omega), readValue_encode v fuel _ (by omega),
      readMany_entries entries fuel rest (by omega), Option.bind_eq_bind, Option.bind_some]

end

theorem decode_encode (v : Cbor) : decode (encode v) = some v := by
  have h := readValue_encode v (encode v).length [] (Nat.le_refl _)
  rw [List.append_nil] at h
  unfold decode
  rw [h]
  rfl

end Lib.Cbor

namespace Lib

/-- The codec of the wire format. -/
def rfcCodec : CborCodec where
  encode := Cbor.encode
  decode := Cbor.decode
  decode_encode := Cbor.decode_encode
  decode_nil := rfl

/-- Values are compared by their encodings, from which they decode. -/
instance : DecidableEq Cbor := fun v v' =>
  decidable_of_iff (rfcCodec.encode v = rfcCodec.encode v')
    ⟨fun h => by simpa [rfcCodec.decode_encode] using congrArg rfcCodec.decode h, congrArg _⟩

end Lib
