import MaRuntime.KindLaws

/-!
# The JSON of the IPLD nodes

Nodes are published as the JSON that serde derives for them. A struct is an object of its fields,
without the skipped ones; it is read from an object, or from an array of its fields in turn. A node
of the kinds tree has no tag: it is a link if it reads as one, else a branch.

* `lookup_writeFields`: what is read of a struct as written.
* `KindTreeNode.ofJson_toJson`: a branch never reads as a link.
* **`nodes_survive`**: every node reads back as it was written.
-/

namespace MaRuntime

/-! ## Structs -/

/-- Write the fields of a struct in turn; a skipped field has no value. -/
def writeFields : List (String × Option Json) → List (String × Json) → List (String × Json)
  | [], entries => entries
  | (_, none) :: rest, entries => writeFields rest entries
  | (name, some value) :: rest, entries =>
    writeFields rest (Lib.Sorted.insert name value entries)

/-- The object serde writes for a struct. -/
def structJson (fields : List (String × Option Json)) : Json := .object (writeFields fields [])

/-- What serde reads a struct from: the entries of an object, or the items of an array under the
names of the fields. -/
def structEntries (names : List String) : Json → Option (List (String × Json))
  | .object entries => some entries
  | .array items => if items.length ≤ names.length then some (names.zip items) else none
  | _ => none

/-- A field without a default. -/
def requiredField {α : Type} (entries : List (String × Json)) (name : String)
    (read : Json → Option α) : Option α := (entries.lookup name).bind read

/-- A field with a default. -/
def defaultField {α : Type} (entries : List (String × Json)) (name : String)
    (read : Json → Option α) (default : α) : Option α :=
  match entries.lookup name with
  | some value => read value
  | none => some default

/-- **What is read of a struct as written**: the fields that were not skipped. -/
theorem lookup_writeFields (name : String) : ∀ (fields : List (String × Option Json))
    (entries : List (String × Json)), (fields.map Prod.fst).Nodup →
      (writeFields fields entries).lookup name =
        (fields.lookup name).join.or (entries.lookup name)
  | [], _, _ => rfl
  | (key, value) :: rest, entries, hnodup => by
    obtain ⟨hkey, hrest⟩ := List.nodup_cons.mp hnodup
    have hlater : rest.lookup key = none := by
      cases hlookup : rest.lookup key with
      | none => rfl
      | some v => exact absurd (List.mem_map_of_mem (Lib.Sorted.mem_of_lookup hlookup)) hkey
    rw [Lib.Sorted.lookup_cons]
    cases value with
    | none =>
      rw [writeFields, lookup_writeFields name rest entries hrest]
      by_cases hname : name = key
      · rw [if_pos hname, hname, hlater]
        rfl
      · rw [if_neg hname]
    | some v =>
      rw [writeFields, lookup_writeFields name rest _ hrest, Lib.Sorted.lookup_insert]
      by_cases hname : name = key
      · rw [if_pos hname, if_pos hname, hname, hlater]
        rfl
      · rw [if_neg hname, if_neg hname]

/-- A struct as written is read field by field. -/
theorem structEntries_structJson (names : List String) {fields : List (String × Option Json)}
    (hnodup : (fields.map Prod.fst).Nodup) :
    ∃ entries, structEntries names (structJson fields) = some entries ∧
      ∀ name, entries.lookup name = (fields.lookup name).join :=
  ⟨_, rfl, fun name => by simp [lookup_writeFields name fields [] hnodup]⟩

/-! ## Field values -/

/-- `Value::as_str`. -/
def Json.asStr : Json → Option String
  | .string s => some s
  | _ => none

/-- An `Option`: `null` is `None`. -/
def optionOfJson {α : Type} (read : Json → Option α) : Json → Option (Option α)
  | .null => some none
  | value => (read value).map some

/-- A `Vec<String>`. -/
def stringsOfJson : Json → Option (List String)
  | .array items => items.mapM Json.asStr
  | _ => none

def stringsJson (l : List String) : Json := .array (l.map .string)

/-- A `BTreeMap<String, serde_json::Value>`. -/
def valuesOfJson : Json → Option (StrMap Json)
  | .object entries => some (.ofList entries compare)
  | _ => none

def valuesJson (m : StrMap Json) : Json := .object m.toList

/-- The name of a unit variant: a text, or the key of an object with `null` as its only value. -/
def unitVariant : Json → Option String
  | .string name => some name
  | .object [(name, .null)] => some name
  | _ => none

@[simp] theorem stringsOfJson_stringsJson (l : List String) :
    stringsOfJson (stringsJson l) = some l := by
  rw [stringsJson, stringsOfJson]
  induction l with
  | nil => rfl
  | cons s l ih => simp [List.mapM_cons, Json.asStr, ih]

@[simp] theorem valuesOfJson_valuesJson (m : StrMap Json) :
    valuesOfJson (valuesJson m) = some m := by
  rw [valuesJson, valuesOfJson]
  refine congrArg some (Std.ExtTreeMap.ext_getElem? fun {key} => ?_)
  cases hvalue : m[key]? with
  | some value =>
    have hmem := Std.ExtTreeMap.mem_toList_iff_getElem?_eq_some.mpr hvalue
    exact Std.ExtTreeMap.getElem?_ofList_of_mem Std.ReflCmp.compare_self
      Std.ExtTreeMap.distinct_keys_toList hmem
  | none =>
    refine Std.ExtTreeMap.getElem?_ofList_of_contains_eq_false ?_
    rw [List.contains_eq_mem, decide_eq_false_iff_not, List.mem_map]
    rintro ⟨entry, hmem, rfl⟩
    rw [Std.ExtTreeMap.mem_toList_iff_getElem?_eq_some, hvalue] at hmem
    exact absurd hmem (by simp)

/-! ## Links, entities and kinds -/

/-- What serde writes for an `IpldLink`: its field is renamed `/`. -/
def IpldLink.toJson (link : IpldLink) : Json := structJson [("/", some (.string link.cid))]

/-- What serde reads of an `IpldLink`. -/
def IpldLink.ofJson (value : Json) : Option IpldLink := do
  let entries ← structEntries ["/"] value
  pure { cid := ← requiredField entries "/" Json.asStr }

/-- A lifecycle state from its text. -/
def Lifecycle.ofText : String → Option Lifecycle
  | "new" => some .new
  | "running" => some .running
  | "error" => some .error
  | "stopped" => some .stopped
  | _ => none

/-- The text of an evaluator, as serde writes it. -/
def Evaluator.text : Evaluator → String
  | .extism => "extism"
  | .native => "native"
  | .bash => "bash"
  | .lua => "lua"

/-- An evaluator from its text. -/
def Evaluator.ofText : String → Option Evaluator
  | "extism" => some .extism
  | "native" => some .native
  | "bash" => some .bash
  | "lua" => some .lua
  | _ => none

/-- The fields of an `EntityNode`: absent options are skipped. -/
def EntityNode.fields (node : EntityNode) : List (String × Option Json) :=
  [("kind", some (.string node.kind)), ("behaviour", node.behaviour.map IpldLink.toJson),
    ("acl", some (.string node.acl)), ("state", node.state.map IpldLink.toJson),
    ("parent", node.parent.map .string), ("label", node.label.map .string),
    ("lifecycle", some (.string node.lifecycle.text))]

/-- What serde writes for an `EntityNode`. -/
def EntityNode.toJson (node : EntityNode) : Json := structJson node.fields

/-- What serde reads of an `EntityNode`: only the kind has no default. -/
def EntityNode.ofJson (value : Json) : Option EntityNode := do
  let entries ← structEntries
    ["kind", "behaviour", "acl", "state", "parent", "label", "lifecycle"] value
  pure
    { kind := ← requiredField entries "kind" Json.asStr
      behaviour := ← defaultField entries "behaviour" (optionOfJson IpldLink.ofJson) none
      acl := ← defaultField entries "acl" Json.asStr ""
      state := ← defaultField entries "state" (optionOfJson IpldLink.ofJson) none
      parent := ← defaultField entries "parent" (optionOfJson Json.asStr) none
      label := ← defaultField entries "label" (optionOfJson Json.asStr) none
      lifecycle := ← defaultField entries "lifecycle"
        (fun value => (unitVariant value).bind Lifecycle.ofText) .running }

/-- The fields of a `KindNode`. -/
def KindNode.fields (node : KindNode) : List (String × Option Json) :=
  [("protocol", some (.string node.protocol)), ("api", some (stringsJson node.api)),
    ("host_functions", some (stringsJson node.hostFunctions)),
    ("evaluator", some (.string node.evaluator.text)),
    ("attributes", some (valuesJson node.attributes)), ("allow", some (stringsJson node.allow))]

/-- What serde writes for a `KindNode`. -/
def KindNode.toJson (node : KindNode) : Json := structJson node.fields

/-- What serde reads of a `KindNode`. -/
def KindNode.ofJson (value : Json) : Option KindNode := do
  let entries ← structEntries
    ["protocol", "api", "host_functions", "evaluator", "attributes", "allow"] value
  pure
    { protocol := ← requiredField entries "protocol" Json.asStr
      api := ← requiredField entries "api" stringsOfJson
      hostFunctions := ← requiredField entries "host_functions" stringsOfJson
      evaluator := ← defaultField entries "evaluator"
        (fun value => (unitVariant value).bind Evaluator.ofText) .extism
      attributes := ← defaultField entries "attributes" valuesOfJson ∅
      allow := ← defaultField entries "allow" stringsOfJson [] }

@[simp] theorem Lifecycle.ofText_text (l : Lifecycle) : Lifecycle.ofText l.text = some l := by
  cases l <;> rfl

@[simp] theorem Evaluator.ofText_text (e : Evaluator) : Evaluator.ofText e.text = some e := by
  cases e <;> rfl

/-- **A link reads back.** -/
@[simp] theorem IpldLink.ofJson_toJson (link : IpldLink) :
    IpldLink.ofJson link.toJson = some link := rfl

/-- An option that is skipped when absent reads back: what is written is not `null`. -/
theorem defaultField_option {α : Type} (write : α → Json) {read : Json → Option α}
    {entries : List (String × Json)} {name : String} {o : Option α}
    (hread : ∀ a, read (write a) = some a) (hnull : ∀ a, write a ≠ .null)
    (hlookup : entries.lookup name = o.map write) :
    defaultField entries name (optionOfJson read) none = some o := by
  unfold defaultField
  rw [hlookup]
  cases o with
  | none => rfl
  | some a =>
    have hvalue : optionOfJson read (write a) = (read (write a)).map some := by
      cases hwrite : write a with
      | null => exact absurd hwrite (hnull a)
      | _ => rfl
    exact hvalue.trans (by rw [hread, Option.map_some])

/-- **An entity node reads back**, whichever of its options are absent. -/
theorem EntityNode.ofJson_toJson (node : EntityNode) :
    EntityNode.ofJson node.toJson = some node := by
  have hnodup : (node.fields.map Prod.fst).Nodup := by simp [EntityNode.fields]
  obtain ⟨entries, hentries, hlookup⟩ := structEntries_structJson
    ["kind", "behaviour", "acl", "state", "parent", "label", "lifecycle"] hnodup
  simp only [fields, Lib.Sorted.lookup_cons] at hlookup
  have hbehaviour : defaultField entries "behaviour" (optionOfJson IpldLink.ofJson) none =
      some node.behaviour :=
    defaultField_option IpldLink.toJson IpldLink.ofJson_toJson (fun _ => Json.noConfusion)
      (by simp [hlookup])
  have hstate : defaultField entries "state" (optionOfJson IpldLink.ofJson) none =
      some node.state :=
    defaultField_option IpldLink.toJson IpldLink.ofJson_toJson (fun _ => Json.noConfusion)
      (by simp [hlookup])
  have hparent : defaultField entries "parent" (optionOfJson Json.asStr) none = some node.parent :=
    defaultField_option Json.string (fun _ => rfl) (fun _ => Json.noConfusion) (by simp [hlookup])
  have hlabel : defaultField entries "label" (optionOfJson Json.asStr) none = some node.label :=
    defaultField_option Json.string (fun _ => rfl) (fun _ => Json.noConfusion) (by simp [hlookup])
  rw [EntityNode.toJson, EntityNode.ofJson, hentries]
  simp only [Option.bind_eq_bind, Option.bind_some, hbehaviour, hstate, hparent, hlabel]
  simp [requiredField, defaultField, hlookup, Json.asStr, unitVariant]

/-- **A kind node reads back.** -/
theorem KindNode.ofJson_toJson (node : KindNode) : KindNode.ofJson node.toJson = some node := by
  have hnodup : (node.fields.map Prod.fst).Nodup := by simp [KindNode.fields]
  obtain ⟨entries, hentries, hlookup⟩ := structEntries_structJson
    ["protocol", "api", "host_functions", "evaluator", "attributes", "allow"] hnodup
  simp only [fields, Lib.Sorted.lookup_cons] at hlookup
  rw [KindNode.toJson, KindNode.ofJson, hentries]
  simp [requiredField, defaultField, hlookup, Json.asStr, unitVariant]

/-! ## The kinds tree -/

mutual

/-- What serde writes for a node of the kinds tree, without a tag. -/
def KindTreeNode.toJson : KindTreeNode → Json
  | .leaf link => link.toJson
  | .branch inner => .object (kindEntriesJson inner)

/-- The object of a branch has its keys. -/
def kindEntriesJson : List (String × KindTreeNode) → List (String × Json)
  | [] => []
  | (key, node) :: rest => (key, node.toJson) :: kindEntriesJson rest

end

mutual

/-- What serde reads of an untagged node: a link if it reads as one, else a branch. -/
def KindTreeNode.ofJson : Json → Option KindTreeNode
  | .object entries =>
    match IpldLink.ofJson (.object entries) with
    | some link => some (.leaf link)
    | none => (kindEntriesOfJson entries []).map .branch
  | value => (IpldLink.ofJson value).map .leaf

/-- The entries of a branch, added in turn to the map read so far. -/
def kindEntriesOfJson :
    List (String × Json) → List (String × KindTreeNode) → Option (List (String × KindTreeNode))
  | [], map => some map
  | (key, value) :: rest, map => do
    let node ← KindTreeNode.ofJson value
    kindEntriesOfJson rest (Lib.Sorted.insert key node map)

end

/-- What serde writes for a `KindTree`. -/
def KindTree.toJson (t : KindTree) : Json := .object (kindEntriesJson t.entries)

/-- What serde reads of a `KindTree`. -/
def KindTree.ofJson : Json → Option KindTree
  | .object entries => (kindEntriesOfJson entries []).map KindTree.mk
  | _ => none

theorem lookup_kindEntriesJson (key : String) (map : List (String × KindTreeNode)) :
    (kindEntriesJson map).lookup key = (map.lookup key).map KindTreeNode.toJson := by
  induction map with
  | nil => rfl
  | cons entry rest ih =>
    obtain ⟨key', node⟩ := entry
    rw [kindEntriesJson, Lib.Sorted.lookup_cons, Lib.Sorted.lookup_cons, ih]
    split <;> rfl

/-- No node is a text. -/
theorem KindTreeNode.asStr_toJson (node : KindTreeNode) : Json.asStr node.toJson = none := by
  cases node with
  | leaf link => rw [KindTreeNode.toJson]; rfl
  | branch inner => rw [KindTreeNode.toJson]; rfl

/-- **A branch is not read as a link**, even one with a segment `/`: what is there is no text. -/
theorem IpldLink.ofJson_branch (inner : List (String × KindTreeNode)) :
    IpldLink.ofJson (.object (kindEntriesJson inner)) = none := by
  have hfield : requiredField (kindEntriesJson inner) "/" Json.asStr = none := by
    unfold requiredField
    rw [lookup_kindEntriesJson]
    cases inner.lookup "/" with
    | none => rfl
    | some node => exact node.asStr_toJson
  unfold IpldLink.ofJson structEntries
  simp only [Option.bind_eq_bind, Option.bind_some, hfield]
  rfl

mutual

/-- **A node of the tree reads back**: a leaf as a leaf, a branch as a branch. -/
theorem KindTreeNode.ofJson_toJson : ∀ {node : KindTreeNode}, node.WellFormed →
    KindTreeNode.ofJson node.toJson = some node
  | .leaf link, _ => by
    rw [KindTreeNode.toJson, IpldLink.toJson, structJson, KindTreeNode.ofJson]
    rfl
  | .branch inner, h => by
    rw [KindTreeNode.WellFormed] at h
    rw [KindTreeNode.toJson, KindTreeNode.ofJson, IpldLink.ofJson_branch]
    have hread := @kindEntriesOfJson_json inner h.2 [] fun _ hmem => absurd hmem List.not_mem_nil
    simp only [hread]
    rfl

theorem kindEntriesOfJson_json : ∀ {map : List (String × KindTreeNode)}, WellFormedEntries map →
    ∀ {done : List (String × KindTreeNode)}, (∀ entry ∈ done, ∀ later ∈ map, entry.1 < later.1) →
      kindEntriesOfJson (kindEntriesJson map) done = some (done ++ map)
  | [], _, done, _ => by rw [kindEntriesJson, kindEntriesOfJson, List.append_nil]
  | (key, node) :: rest, h, done, hbelow => by
    rw [WellFormedEntries] at h
    have hlast : Lib.Sorted.insert key node done = done ++ [(key, node)] :=
      Lib.Sorted.insert_last fun entry hmem => hbelow entry hmem _ List.mem_cons_self
    rw [kindEntriesJson, kindEntriesOfJson, KindTreeNode.ofJson_toJson h.2.1, Option.bind_eq_bind,
      Option.bind_some, hlast, kindEntriesOfJson_json h.2.2]
    · rw [List.append_assoc, List.singleton_append]
    · intro entry hmem later hlater
      rcases List.mem_append.mp hmem with hdone | hhead
      · exact hbelow entry hdone later (List.mem_cons_of_mem _ hlater)
      · rw [List.mem_singleton.mp hhead]
        exact h.1 later hlater

end

/-- A reachable kinds tree reads back. -/
theorem KindTree.Reachable.ofJson_toJson {t : KindTree} (h : t.Reachable) :
    KindTree.ofJson t.toJson = some t := by
  have hread := @kindEntriesOfJson_json t.entries h.invariant.wellFormed []
    fun _ hmem => absurd hmem List.not_mem_nil
  rw [KindTree.toJson, KindTree.ofJson, hread]
  rfl

/-- **IPLD nodes survive serialisation**: every reachable kinds tree and every node in it, every
entity node and every kind node. -/
theorem nodes_survive :
    (∀ t : KindTree, t.Reachable → KindTree.ofJson t.toJson = some t) ∧
    (∀ node : KindTreeNode, node.WellFormed → KindTreeNode.ofJson node.toJson = some node) ∧
    (∀ node : EntityNode, EntityNode.ofJson node.toJson = some node) ∧
    ∀ node : KindNode, KindNode.ofJson node.toJson = some node :=
  ⟨fun _ h => h.ofJson_toJson, fun _ h => KindTreeNode.ofJson_toJson h,
    EntityNode.ofJson_toJson, KindNode.ofJson_toJson⟩

/-- A branch with an empty segment, its leaves, and a node without its options. -/
theorem nodes_survive_family :
    KindTree.ofJson family.toJson = some family ∧
    KindTreeNode.ofJson (KindTreeNode.leaf ⟨"bafyA"⟩).toJson = some (.leaf ⟨"bafyA"⟩) ∧
    EntityNode.ofJson (EntityNode.toJson { kind := "/ma/a", label := some "A" }) =
      some { kind := "/ma/a", label := some "A" } := by
  have hleaf : (KindTreeNode.leaf ⟨"bafyA"⟩).WellFormed := by
    rw [KindTreeNode.WellFormed]
    trivial
  obtain ⟨htree, hnode, hentity, -⟩ := nodes_survive
  exact ⟨htree family family_reachable, hnode _ hleaf, hentity _⟩

end MaRuntime
