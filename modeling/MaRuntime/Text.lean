import Mathlib.Data.List.DropRight

/-!
# The `str` methods the runtime uses

`starts_with`, `strip_prefix`, `split_once`, `split`, `trim`, `trim_start_matches`, `replace`,
`char::is_control` and the `Debug` text, on the characters of a string.
-/

namespace MaRuntime.Text

/-- `s.starts_with(p)`. -/
def startsWith (s p : String) : Bool := p.toList.isPrefixOf s.toList

/-- `s.strip_prefix(p)`. -/
def stripPrefix (s p : String) : Option String :=
  if startsWith s p then some (String.ofList (s.toList.drop p.toList.length)) else none

/-- `s.split_once(c)`: what stands before and after the first `c`. -/
def splitOnce (s : String) (c : Char) : Option (String × String) :=
  match s.toList.dropWhile (· ≠ c) with
  | [] => none
  | _ :: rest => some (String.ofList (s.toList.takeWhile (· ≠ c)), String.ofList rest)

/-- `s.split(c)`. -/
def split (s : String) (c : Char) : List String := (s.toList.splitOn c).map String.ofList

/-- `s.trim_start_matches(c)`. -/
def trimStartMatches (s : String) (c : Char) : String :=
  String.ofList (s.toList.dropWhile (· = c))

/-- `s.trim_start_matches(p)` on characters, dropping at most `n` times. -/
def dropMatches (p : List Char) : Nat → List Char → List Char
  | 0, s => s
  | n + 1, s => if p.isPrefixOf s then dropMatches p n (s.drop p.length) else s

/-- `s.trim_start_matches(p)` with a `str` that is not empty. -/
def trimStartMatchesStr (s p : String) : String :=
  String.ofList (dropMatches p.toList s.toList.length s.toList)

/-- `char::is_whitespace`: the property `White_Space`. -/
def isWhitespace (c : Char) : Bool :=
  (9 ≤ c.toNat && c.toNat ≤ 13) || (0x2000 ≤ c.toNat && c.toNat ≤ 0x200a) ||
    [0x20, 0x85, 0xa0, 0x1680, 0x2028, 0x2029, 0x202f, 0x205f, 0x3000].contains c.toNat

/-- `s.trim()`. -/
def trim (s : String) : String :=
  String.ofList ((s.toList.dropWhile isWhitespace).rdropWhile isWhitespace)

/-- `format!("{s:?}")` of a `str` without unprintable characters. -/
def debug (s : String) : String :=
  let escape (c : Char) : List Char :=
    if c = '"' then ['\\', '"']
    else if c = '\\' then ['\\', '\\']
    else if c = '\n' then ['\\', 'n']
    else if c = '\r' then ['\\', 'r']
    else if c = '\t' then ['\\', 't']
    else [c]
  String.ofList ('"' :: s.toList.flatMap escape ++ ['"'])

/-- `format!("{l:?}")` of a list of `str`. -/
def debugStrings (l : List String) : String :=
  "[" ++ ", ".intercalate (l.map debug) ++ "]"

/-- `char::is_control`: the general category `Cc`. -/
def isControl (c : Char) : Bool :=
  c.toNat < 0x20 || (0x7f ≤ c.toNat && c.toNat < 0xa0)

/-- `s.replace(p, t)` on characters, with a pattern that is not empty. The number is of those left
to skip of a match. -/
def replaceMatches (p t : List Char) : Nat → List Char → List Char
  | _, [] => []
  | n + 1, _ :: s => replaceMatches p t n s
  | 0, c :: s =>
    if p.isPrefixOf (c :: s) then t ++ replaceMatches p t (p.length - 1) s
    else c :: replaceMatches p t 0 s

/-- `s.replace(p, t)` with a pattern that is not empty. -/
def replace (s p t : String) : String :=
  String.ofList (replaceMatches p.toList t.toList 0 s.toList)

theorem startsWith_iff {s p : String} :
    startsWith s p = true ↔ ∃ t, s.toList = p.toList ++ t := by
  unfold startsWith
  rw [List.isPrefixOf_iff_prefix]
  exact ⟨fun ⟨t, h⟩ => ⟨t, h.symm⟩, fun ⟨t, h⟩ => ⟨t, h.symm⟩⟩

/-- Stripping the prefix a string was built with gives the rest back. -/
theorem stripPrefix_append (p t : String) : stripPrefix (p ++ t) p = some t := by
  have h : startsWith (p ++ t) p = true := startsWith_iff.mpr ⟨t.toList, String.toList_append⟩
  unfold stripPrefix
  rw [if_pos h, String.toList_append, List.drop_left, String.ofList_toList]

/-- What is left at the end of a trimmed list does not begin with white space either. -/
theorem dropWhile_rdropWhile_dropWhile {α : Type} (p : α → Bool) (l : List α) :
    ((l.dropWhile p).rdropWhile p).dropWhile p = (l.dropWhile p).rdropWhile p := by
  rw [List.dropWhile_eq_self_iff]
  intro hpos
  obtain ⟨t, ht⟩ := List.rdropWhile_prefix p (l := l.dropWhile p)
  have hne : l.dropWhile p ≠ [] := by
    intro hnil
    rw [hnil, List.rdropWhile_nil] at hpos
    exact absurd hpos (Nat.lt_irrefl 0)
  have hstart := List.dropWhile_get_zero_not p l (List.length_pos_of_ne_nil hne)
  rw [List.get_eq_getElem, List.getElem_of_eq ht.symm, List.getElem_append_left hpos] at hstart
  exact hstart

@[simp] theorem trim_trim (s : String) : trim (trim s) = trim s := by
  unfold trim
  rw [String.toList_ofList, dropWhile_rdropWhile_dropWhile, List.rdropWhile_idempotent]

/-- A text without white space is trimmed. -/
theorem trim_of_clean {s : String} (h : ∀ c ∈ s.toList, isWhitespace c = false) : trim s = s := by
  have hstart : s.toList.dropWhile isWhitespace = s.toList := by
    rw [List.dropWhile_eq_self_iff]
    intro hpos
    simp [h _ (List.getElem_mem hpos)]
  have hend : s.toList.rdropWhile isWhitespace = s.toList := by
    rw [List.rdropWhile_eq_self_iff]
    intro hne
    simp [h _ (List.getLast_mem hne)]
  unfold trim
  rw [hstart, hend, String.ofList_toList]

/-- A text without the first character of the pattern stays as it is. -/
theorem replace_of_notMem {s p t : String} {c : Char} {rest : List Char}
    (hp : p.toList = c :: rest) (h : c ∉ s.toList) : replace s p t = s := by
  have hsame : ∀ l : List Char, c ∉ l → replaceMatches p.toList t.toList 0 l = l := by
    intro l hl
    induction l with
    | nil => rfl
    | cons d l ih =>
      have hd : c ≠ d := fun heq => hl (heq ▸ List.mem_cons_self)
      have hmiss : p.toList.isPrefixOf (d :: l) = false := by
        rw [hp, List.isPrefixOf_cons_cons, beq_eq_false_iff_ne.mpr hd, Bool.false_and]
      rw [replaceMatches, hmiss, if_neg Bool.false_ne_true,
        ih fun hmem => hl (List.mem_cons_of_mem d hmem)]
  unfold replace
  rw [hsame s.toList h, String.ofList_toList]

end MaRuntime.Text
