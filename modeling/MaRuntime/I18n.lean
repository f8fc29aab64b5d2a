import MaRuntime.Entity
import MaRuntime.Lib.CborCodec
import MaRuntime.Lib.Run

/-!
# Localised texts (`src/i18n.rs`)

The texts of a language are read from an FTL source when it is loaded, those of `MESSAGE_IDS` only;
any fetch may fail. `Langs` is what the two statics hold, `Compiled` what is built in.

* `parseFtl_getElem?`: a table has a text for each listed message, and for no other.
* `langs_run`: whatever is loaded, each table is that of a source, compiled in or fetched in the run
  (`Parsed`). So
  `tLang_of_unlisted`: a message that is not listed has its own id for a text, in every language.
* `tLang_of_loaded`: a message that is listed has the text of its source, or its id; the English
  text takes the place of a language, never of a message.
-/

namespace MaRuntime

open Lib (Run)

/-! ## Tables -/

/-- `MESSAGE_IDS`. -/
def messageIds : List String :=
  ["own-did-published", "own-did-publish-failed", "own-did-publish-timeout", "started",
   "shutdown-requested", "closing-endpoint", "shutdown-complete", "status-listening",
   "rpc-message-received", "rpc-message-rejected", "ipfs-message-rejected", "ctrlc-handler-failed",
   "node-connected", "received-encrypted-ma-msg", "unknown-rpc-atom", "rpc-reply-sent",
   "ping-received", "did-publish-request-received", "document-published",
   "did-publish-cid-reply-sent", "did-publish-resolve-failed", "ipfs-store-request-received",
   "ipfs-stored", "ipfs-store-cid-reply-sent", "ipfs-store-resolve-failed", "bootstrap-complete",
   "entity-loaded", "entity-load-failed", "entity-not-found", "entity-dispatched", "entity-replied",
   "root-create-entity", "root-list-entities", "root-delete-entity", "root-entity-updated",
   "entity-created", "entity-deleted", "entity-states-saving", "entity-state-saving",
   "entity-state-saved", "entity-state-empty", "entity-states-saved", "ftl-loaded",
   "no-config-found", "initialising-new-identity", "generated-headless-config", "runtime-claimed",
   "runtime-claim-persisted", "runtime-already-claimed", "acl-owners-access",
   "crud-message-received", "crud-acl-updated", "refuse-delete-root", "no-root-acl",
   "namespace-not-found", "no-ns-gate-acl", "namespace-created", "namespace-already-exists",
   "namespace-name-reserved", "namespace-create-denied", "namespace-create-usage",
   "rpc-not-text-atom", "rpc-unknown-verb", "blob-value-ipfs-path", "acl-value-ipfs-path",
   "kind-value-ipfs-path", "config-key-protected", "config-key-no-delete",
   "config-key-not-manifest", "wrong-crud-protocol"]

/-- What is compiled in. -/
structure Compiled where
  /-- `fluent`: the messages of a source, in a bundle for the language, with their formatted values.
  A source that does not parse, or clashes, has none. -/
  bundle : String → String → Option (String → Option (Option String))
  /-- `BUNDLED_LANGS`: language codes with their FTL sources. -/
  bundledLangs : List (String × String)
  /-- `bundled_lang_map`. -/
  bundledLangMap : StrMap IpldLink

/-- The texts of one language, by message id. -/
abbrev Texts := StrMap String

/-- The table of the ids, with a text for each. -/
def textsOf (text : String → String) : Texts :=
  messageIds.foldl (fun map id => map.insert id (text id)) ∅

/-- `key_name_fallback`. -/
def keyNameFallback : Texts := textsOf id

/-- The text of a message in a source, or its id. -/
def ftlText (C : Compiled) (ftl lang id : String) : String :=
  match C.bundle ftl lang with
  | none => id
  | some getMessage =>
    match getMessage id with
    | some (some value) => value
    | some none => id
    | none => id

/-- `parse_ftl`. -/
def parseFtl (C : Compiled) (ftl lang : String) : Texts :=
  match C.bundle ftl lang with
  | none => keyNameFallback
  | some _ => textsOf (ftlText C ftl lang)

/-- `bundled_messages`. -/
def bundledMessages (C : Compiled) : StrMap Texts :=
  C.bundledLangs.foldl (fun all lang => all.insert lang.1 (parseFtl C lang.2 lang.1)) ∅

/-! ## Languages -/

/-- What Kubo answers while languages are loaded. The number is of the fetch. -/
structure LangNet where
  langMap : Cid → Option (StrMap IpldLink)
  manifest : Cid → Option RuntimeManifest
  catBytes : Nat → Cid → Option Bytes

/-- A source, if Kubo has it and it is text. -/
def LangNet.ftl (net : LangNet) (n : Nat) (link : IpldLink) : Option String :=
  (net.catBytes n link.cid).bind Lib.Cbor.ofUtf8

/-- `MESSAGES` and `RUNTIME_LANG`, which are set by the first `init`. -/
structure Langs where
  messages : Option (StrMap Texts) := none
  runtimeLang : Option String := none

/-- `fetch_lang_map`. -/
def fetchLangMap (net : LangNet) (langCid rootCid : Option Cid) : StrMap IpldLink :=
  match langCid.bind net.langMap with
  | some map => map
  | none =>
    match rootCid.bind net.manifest with
    | some manifest => manifest.i18n
    | none => ∅

/-- `load_all_messages`. -/
def loadAllMessages (C : Compiled) (net : LangNet) (langCid rootCid : Option Cid) : StrMap Texts :=
  (fetchLangMap net langCid rootCid).toList.zipIdx.foldl
    (fun all entry =>
      match net.ftl entry.2 entry.1.2 with
      | some ftl => all.insert entry.1.1 (parseFtl C ftl entry.1.1)
      | none => all)
    (bundledMessages C)

/-- `init`. -/
def Langs.init (C : Compiled) (net : LangNet) (lang : String) (langCid rootCid : Option Cid) :
    Langs where
  messages := some (loadAllMessages C net langCid rootCid)
  runtimeLang := some lang

/-- The texts that `switch_lang` finds: those compiled in, or those of a source in Kubo. -/
def switchTexts (C : Compiled) (net : LangNet) (lang : String) : Option Texts :=
  match C.bundledLangs.find? fun bundled => bundled.1 = lang with
  | some bundled => some (parseFtl C bundled.2 lang)
  | none => ((C.bundledLangMap[lang]?).bind (net.ftl 0)).map fun ftl => parseFtl C ftl lang

/-- `switch_lang`. -/
def Langs.switch (C : Compiled) (net : LangNet) (lang : String) (l : Langs) : Langs :=
  match switchTexts C net lang with
  | none => l
  | some texts =>
    { messages := l.messages.map fun all => all.insert lang texts
      runtimeLang := l.runtimeLang.map fun _ => lang }

/-- `t_lang`. -/
def Langs.tLang (l : Langs) (lang id : String) : String :=
  match l.messages with
  | none => id
  | some all => (((all[lang]?).or all["en"]?).bind fun texts => texts[id]?).getD id

/-- The placeholders of a text, filled in. -/
def fillIn (s : String) (args : List (String × String)) : String :=
  args.foldl (fun s arg => Text.replace s ("%" ++ arg.1 ++ "%") arg.2) s

/-- `tf_lang`. -/
def Langs.tfLang (l : Langs) (lang id : String) (args : List (String × String)) : String :=
  fillIn (l.tLang lang id) args

/-- `has_lang`. -/
def Langs.hasLang (l : Langs) (lang : String) : Bool :=
  l.messages.any fun all => all.contains lang

/-- `runtime_lang`. -/
def Langs.current (l : Langs) : String := l.runtimeLang.getD "en"

/-- `caller_lang` and `rpc_caller_lang`; `docLang` is the language in the caller's DID document, if
that resolves and names one. -/
def Langs.callerLang (l : Langs) (docLang : Option String) : String :=
  match docLang with
  | some lang => if l.hasLang lang then lang else l.current
  | none => l.current

/-- `resolve_active_lang`. -/
def resolveActiveLang (net : LangNet) (rootCid : Cid) : Option String :=
  ((net.manifest rootCid).bind fun manifest => manifest.config["i18n"]?).bind Yaml.asStr

/-- The language that `main` starts with: that of the command line or the config, or of the
manifest. -/
def effectiveLang (base : Option String) (net : LangNet) (rootCid : Option Cid) : String :=
  match base with
  | some lang => lang
  | none => (rootCid.bind (resolveActiveLang net)).getD "nb"

/-- The languages are loaded, or the language is switched, with what Kubo answers. -/
inductive LangEvent where
  | init (base : Option String) (net net' : LangNet) (langCid rootCid : Option Cid)
  | switch (lang : String) (net : LangNet)

/-- It happens, whatever Kubo answers at each fetch. -/
inductive LangStep (C : Compiled) : Langs → LangEvent → Langs → Prop where
  | init {l : Langs} {base : Option String} {net net' : LangNet} {langCid rootCid : Option Cid} :
      LangStep C l (.init base net net' langCid rootCid)
        (.init C net' (effectiveLang base net rootCid) langCid rootCid)
  | switch {l : Langs} {lang : String} {net : LangNet} :
      LangStep C l (.switch lang net) (l.switch C net lang)

/-- Kubo answered with this source for the language. -/
def LangEvent.Fetched (C : Compiled) (code ftl : String) : LangEvent → Prop
  | .init _ _ net langCid rootCid =>
    ∃ link n, (fetchLangMap net langCid rootCid)[code]? = some link ∧ net.ftl n link = some ftl
  | .switch lang net =>
    code = lang ∧ ∃ link, C.bundledLangMap[lang]? = some link ∧ net.ftl 0 link = some ftl

/-- The source of the language is compiled in, or was fetched. -/
def SourceIn (C : Compiled) (es : List LangEvent) (code ftl : String) : Prop :=
  (code, ftl) ∈ C.bundledLangs ∨ ∃ e ∈ es, e.Fetched C code ftl

/-! ## What is in a table -/

theorem getElem?_textsOf (text : String → String) (id : String) :
    (textsOf text)[id]? = if id ∈ messageIds then some (text id) else none := by
  have hfold : ∀ (ids : List String) (map : Texts),
      (ids.foldl (fun map id => map.insert id (text id)) map)[id]? =
        if id ∈ ids then some (text id) else map[id]? := by
    intro ids
    induction ids with
    | nil =>
      intro map
      rfl
    | cons head ids ih =>
      intro map
      rw [List.foldl_cons, ih]
      by_cases hmem : id ∈ ids
      · rw [if_pos hmem, if_pos (List.mem_cons_of_mem head hmem)]
      · rw [if_neg hmem]
        by_cases heq : id = head
        · rw [if_pos (heq ▸ List.mem_cons_self), heq, Std.ExtTreeMap.getElem?_insert_self]
        · rw [if_neg (by simp [heq, hmem]), getElem?_insert_of_ne heq]
  exact (hfold messageIds ∅).trans (by simp)

/-- **A table has a text for each message that is listed**, and for no other. -/
theorem parseFtl_getElem? (C : Compiled) (ftl lang id : String) :
    (parseFtl C ftl lang)[id]? =
      if id ∈ messageIds then some (ftlText C ftl lang id) else none := by
  unfold parseFtl
  cases hbundle : C.bundle ftl lang with
  | none =>
    have htext : ftlText C ftl lang id = id := by
      unfold ftlText
      rw [hbundle]
    rw [htext]
    exact getElem?_textsOf _ id
  | some getMessage => exact getElem?_textsOf _ id

/-! ## Runs -/

/-- Each table is that of a source for its language. -/
def ParsedAll (C : Compiled) (es : List LangEvent) (all : StrMap Texts) : Prop :=
  ∀ (code : String) (texts : Texts), all[code]? = some texts →
    ∃ ftl, SourceIn C es code ftl ∧ texts = parseFtl C ftl code

/-- So are those that are loaded. -/
def Parsed (C : Compiled) (es : List LangEvent) (l : Langs) : Prop :=
  ∀ all, l.messages = some all → ParsedAll C es all

section Runs

variable {C : Compiled} {es : List LangEvent} {l l' : Langs}

theorem ParsedAll.insert {all : StrMap Texts} {ftl code : String} (h : ParsedAll C es all)
    (hftl : SourceIn C es code ftl) : ParsedAll C es (all.insert code (parseFtl C ftl code)) := by
  intro code' texts htexts
  by_cases heq : code' = code
  · subst heq
    rw [Std.ExtTreeMap.getElem?_insert_self] at htexts
    exact ⟨ftl, hftl, (Option.some.inj htexts).symm⟩
  · rw [getElem?_insert_of_ne heq] at htexts
    exact h code' texts htexts

theorem parsedAll_bundledMessages : ParsedAll C es (bundledMessages C) := by
  unfold bundledMessages
  refine List.foldlRecOn _ _ (fun code texts htexts => absurd htexts (by simp)) ?_
  intro all hall lang hlang
  exact hall.insert (.inl hlang)

theorem parsedAll_loadAllMessages {base : Option String} {net net' : LangNet}
    {langCid rootCid : Option Cid} (he : .init base net net' langCid rootCid ∈ es) :
    ParsedAll C es (loadAllMessages C net' langCid rootCid) := by
  unfold loadAllMessages
  refine List.foldlRecOn _ _ parsedAll_bundledMessages ?_
  intro all hall entry hentry
  have hlink : (fetchLangMap net' langCid rootCid)[entry.1.1]? = some entry.1.2 :=
    Std.ExtTreeMap.mem_toList_iff_getElem?_eq_some.mp (List.fst_mem_of_mem_zipIdx hentry)
  split
  · rename_i ftl hftl
    exact hall.insert (.inr ⟨_, he, entry.1.2, entry.2, hlink, hftl⟩)
  · exact hall

theorem switchTexts_parsed {lang : String} {net : LangNet} {texts : Texts}
    (he : .switch lang net ∈ es) (h : switchTexts C net lang = some texts) :
    ∃ ftl, SourceIn C es lang ftl ∧ texts = parseFtl C ftl lang := by
  unfold switchTexts at h
  split at h
  · rename_i bundled hfind
    obtain rfl : bundled.1 = lang := by simpa using List.find?_some hfind
    exact ⟨_, .inl (List.mem_of_find?_eq_some hfind), (Option.some.inj h).symm⟩
  · obtain ⟨ftl, hftl, htexts⟩ := Option.map_eq_some_iff.mp h
    obtain ⟨link, hlink, hftl⟩ := Option.bind_eq_some_iff.mp hftl
    exact ⟨ftl, .inr ⟨_, he, rfl, link, hlink, hftl⟩, htexts.symm⟩

/-- **What is loaded or switched to was parsed.** -/
theorem LangStep.parsed {e : LangEvent} (h : LangStep C l e l') (he : e ∈ es)
    (hl : Parsed C es l) : Parsed C es l' := by
  cases h with
  | init =>
    intro all hall
    obtain rfl := Option.some.inj hall
    exact parsedAll_loadAllMessages he
  | @switch lang net =>
    unfold Langs.switch
    cases htexts : switchTexts C net lang with
    | none => exact hl
    | some texts =>
      intro all hall
      obtain ⟨old, hold, rfl⟩ := Option.map_eq_some_iff.mp hall
      obtain ⟨ftl, hftl, rfl⟩ := switchTexts_parsed he htexts
      exact (hl old hold).insert hftl

theorem langs_run (hrun : Run (LangStep C) {} es l) : Parsed C es l :=
  Run.invariant (fun hl hstep => hstep.1.parsed hstep.2 hl)
    (fun all h => absurd h (by simp)) (hrun.restrict fun _ he => he)

/-- **A message that is not listed has its id for a text.** -/
theorem tLang_of_unlisted (hl : Parsed C es l) {id : String} (hid : id ∉ messageIds)
    (lang : String) : l.tLang lang id = id := by
  unfold Langs.tLang
  cases hall : l.messages with
  | none => rfl
  | some all =>
    dsimp only
    cases htexts : (all[lang]?).or all["en"]? with
    | none => rfl
    | some texts =>
      have hparsed : ∃ ftl code, texts = parseFtl C ftl code := by
        rcases Option.or_eq_some_iff.mp htexts with h | ⟨-, h⟩
        · obtain ⟨ftl, -, hftl⟩ := hl all hall _ _ h
          exact ⟨ftl, _, hftl⟩
        · obtain ⟨ftl, -, hftl⟩ := hl all hall _ _ h
          exact ⟨ftl, _, hftl⟩
      obtain ⟨ftl, code, rfl⟩ := hparsed
      rw [Option.bind_some, parseFtl_getElem?, if_neg hid]
      rfl

/-- **A message that is listed has the text of a source for the language**, if that is loaded. -/
theorem tLang_of_loaded (hl : Parsed C es l) {id lang : String} (hid : id ∈ messageIds)
    (hlang : l.hasLang lang = true) :
    ∃ ftl, SourceIn C es lang ftl ∧ l.tLang lang id = ftlText C ftl lang id := by
  unfold Langs.hasLang at hlang
  unfold Langs.tLang
  cases hall : l.messages with
  | none =>
    rw [hall] at hlang
    exact absurd hlang (by simp)
  | some all =>
    rw [hall] at hlang
    have hmem : lang ∈ all := hlang
    obtain ⟨texts, htexts⟩ : ∃ texts, all[lang]? = some texts :=
      Option.isSome_iff_exists.mp (Std.ExtTreeMap.mem_iff_isSome_getElem?.mp hmem)
    obtain ⟨ftl, hftl, rfl⟩ := hl all hall _ _ htexts
    refine ⟨ftl, hftl, ?_⟩
    dsimp only
    rw [htexts, Option.some_or, Option.bind_some, parseFtl_getElem?, if_pos hid]
    rfl

end Runs

end MaRuntime
