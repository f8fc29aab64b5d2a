import MaRuntime.FiniteEnv
import MaRuntime.Plugins.Register
import MaRuntime.Plugins.Session
import MaRuntime.Plugins.Set

/-!
# The write verbs of the shipped plugins

`handle_call` answers a verb under a mutable borrow of the state cell, and a write saves the state
through `persist`, which borrows that cell again. So a write that gets to `persist` panics: no
reply goes out and no state is handed over. The borrow stays in the instance, and from then on every
verb panics.

* `answer_stuck` and `answer_unchanged`, of the set and of the register: a write verb that saves
  panics, any other changes nothing.
* `writes_complete_iff`: the writes that run to their end are those that never save, of an instance
  without such a borrow.
* `add_panics`: the owner of a fresh set adds a first member.
-/

namespace MaRuntime.Plugins

open Lib (Cbor CborCodec Proc)

/-! ## What a write should do -/

/-- A message to a plugin: a write verb from its parent or from itself. -/
structure Write {S : Type} (codec : CborCodec) (verbs : List String) (locals : Locals S)
    (input : Bytes) (cast : CastInput) (verb : String) (args : List Cbor) : Prop where
  decodes : (codec.decode input).bind castInputOfCbor = some cast
  parses : parseVerb codec cast.msg.content = some (verb, args)
  writes : verb ∈ verbs
  authorised : IsWriter locals cast.msg.from

/-- The call returns, sends one reply, and hands a changed state over. -/
structure Completes {S : Type} (encodeState : S → Bytes) (f : PluginM S Bytes)
    (s : Session S) : Prop where
  returns : ∃ output, (f s.guards { locals := s.locals }).1 = .ok output
  oneReply : ((f s.guards { locals := s.locals }).2.calls.filter (·.1 = .maReply)).length = 1
  handsOver : (f s.guards { locals := s.locals }).2.locals.state ≠ s.locals.state →
    (.maSetState, encodeState (f s.guards { locals := s.locals }).2.locals.state) ∈
      (f s.guards { locals := s.locals }).2.calls

section Calls

variable {S : Type} {codec : CborCodec} {answer : String → List Cbor → String → PluginM S Bytes}
  {encodeState : S → Bytes} {verbs : List String} {locals : Locals S} {s : Session S}
  {input : Bytes} {cast : CastInput} {verb : String} {args : List Cbor}

/-- The guards that a verb is answered under. -/
abbrev answerGuards : Lib.Guards Local := [(.state, .write)]

theorem asWriter_answer {sender : String} (hwriter : IsWriter locals sender)
    (p : PluginM S Bytes) :
    asWriter codec sender p answerGuards { locals } = p answerGuards { locals } :=
  asWriter_run rfl rfl hwriter

/-- **A change of the state panics** when it gets to `persist`. -/
theorem save_stuck (f : S → S) (k : Unit → PluginM S Bytes) {s : Guest S} :
    ((do modifyState f; persistWith encodeState; k ()) answerGuards s).1 = .stuck := by
  rw [Proc.bind_of_ok (a := ()) rfl, Proc.bind_of_stuck (persistWith_stuck _ rfl)]

theorem Write.carries (h : Write codec verbs locals input cast verb args) :
    Carries codec input cast verb args := ⟨h.decodes, h.parses⟩

/-- A verb that is answered without a change completes. -/
theorem completes_of_answered (h : Write codec verbs s.locals input cast verb args)
    (hfree : s.borrowed = false) {result : Bytes}
    (hanswer : answer verb args cast.msg.from answerGuards { locals := s.locals } =
      (.ok result, { locals := s.locals })) :
    Completes encodeState (handleCallWith codec answer input) s := by
  have hrun := handleCallWith_answered h.carries hfree hanswer
  exact ⟨⟨[], by rw [hrun]⟩, by rw [hrun]; rfl, by rw [hrun]; exact fun h => absurd rfl h⟩

/-- A verb that panics takes the call with it. -/
theorem not_completes_of_stuck (h : Write codec verbs s.locals input cast verb args)
    (hfree : s.borrowed = false)
    (hanswer : (answer verb args cast.msg.from answerGuards { locals := s.locals }).1 = .stuck) :
    ¬ Completes encodeState (handleCallWith codec answer input) s := by
  rintro ⟨⟨output, hreturns⟩, -, -⟩
  unfold handleCallWith Session.guards borrowMut at hreturns
  simp only [h.decodes, h.parses, hfree, if_neg Bool.false_ne_true] at hreturns
  rw [Proc.bind_of_stuck ((Proc.holding_run rfl _ _).trans (Proc.run_of_outcome hanswer))]
    at hreturns
  exact absurd hreturns (by simp)

/-- A write completes exactly when its verb does not save, if that is all a verb does, and the cell
is not borrowed. -/
theorem completes_iff {saves : Bool} (h : Write codec verbs s.locals input cast verb args)
    (hstuck : saves = true →
      (answer verb args cast.msg.from answerGuards { locals := s.locals }).1 = .stuck)
    (hanswered : saves = false → ∃ result,
      answer verb args cast.msg.from answerGuards { locals := s.locals } =
        (.ok result, { locals := s.locals })) :
    Completes encodeState (handleCallWith codec answer input) s ↔
      s.borrowed = false ∧ saves = false := by
  cases hfree : s.borrowed with
  | true =>
    refine iff_of_false ?_ (by simp)
    rintro ⟨⟨output, hreturns⟩, -, -⟩
    rw [handleCallWith_borrowed h.carries hfree] at hreturns
    exact absurd hreturns (by simp)
  | false =>
    cases saves with
    | true => exact iff_of_false (not_completes_of_stuck h hfree (hstuck rfl)) (by simp)
    | false =>
      obtain ⟨result, hresult⟩ := hanswered rfl
      exact iff_of_true (completes_of_answered h hfree hresult) ⟨rfl, rfl⟩

end Calls

/-! ## The set -/

namespace Set

/-- The write verbs. -/
def writeVerbs : List String := [":add", ":remove", ":clear"]

/-- The message gets to `persist`: it adds a new member, or removes a text, or clears. -/
def saves (verb : String) (args : List Cbor) (members : List String) : Bool :=
  match verb with
  | ":add" => (argText args 0).any fun val => !members.contains val
  | ":remove" => (argText args 0).isSome
  | ":clear" => true
  | _ => false

variable {codec : CborCodec} {locals : Locals (List String)} {verb sender : String}
  {args : List Cbor}

/-- **A write that saves panics.** -/
theorem answer_stuck (hwriter : IsWriter locals sender)
    (hsaves : saves verb args locals.state = true) :
    (answer codec verb args sender answerGuards { locals }).1 = .stuck := by
  unfold saves at hsaves
  split at hsaves
  · simp only [answer, asWriter_answer hwriter]
    cases hval : argText args 0 with
    | none => exact absurd hsaves (by simp [hval])
    | some val =>
      have hnew : locals.state.contains val = false := by simpa [hval] using hsaves
      dsimp only
      rw [Proc.bind_of_ok (a := locals.state) (t := { locals }) rfl, hnew]
      exact save_stuck _ fun _ => pure (cborOk codec .null)
  · simp only [answer, asWriter_answer hwriter]
    cases hval : argText args 0 with
    | none => exact absurd hsaves (by simp [hval])
    | some val => exact save_stuck _ fun _ => pure (cborOk codec .null)
  · simp only [answer, asWriter_answer hwriter]
    exact save_stuck _ fun _ => pure (cborOk codec .null)
  · exact absurd hsaves (by simp)

/-- A write that does not save leaves the plugin as it was. -/
theorem answer_unchanged (hverb : verb ∈ writeVerbs) (hwriter : IsWriter locals sender)
    (hsaves : saves verb args locals.state = false) :
    ∃ result, answer codec verb args sender answerGuards { locals } =
      (.ok result, { locals }) := by
  simp only [writeVerbs, List.mem_cons, List.not_mem_nil, or_false] at hverb
  rcases hverb with rfl | rfl | rfl
  · simp only [answer, asWriter_answer hwriter]
    cases hval : argText args 0 with
    | none => exact ⟨_, rfl⟩
    | some val =>
      have hmember : locals.state.contains val = true := by simpa [saves, hval] using hsaves
      dsimp only
      rw [Proc.bind_of_ok (a := locals.state) (t := { locals }) rfl, hmember]
      exact ⟨_, rfl⟩
  · simp only [answer, asWriter_answer hwriter]
    cases hval : argText args 0 with
    | none => exact ⟨_, rfl⟩
    | some val => exact absurd hsaves (by simp [saves, hval])
  · exact absurd hsaves (by simp [saves])

end Set

/-! ## The register -/

namespace Register

/-- The write verbs. -/
def writeVerbs : List String := [":set", ":delete", ":delete_value", ":clear"]

/-- The message gets to `persist`: its arguments are texts, or it clears. -/
def saves (verb : String) (args : List Cbor) : Bool :=
  match verb with
  | ":set" => (argText args 0).isSome && (argText args 1).isSome
  | ":delete" => (argText args 0).isSome
  | ":delete_value" => (argText args 0).isSome
  | ":clear" => true
  | _ => false

variable {codec : CborCodec} {locals : Locals RegisterState} {verb sender : String}
  {args : List Cbor}

theorem update_stuck (f : RegisterState → RegisterState) {s : Guest RegisterState} :
    (update codec f answerGuards s).1 = .stuck :=
  save_stuck f fun _ => pure (cborOk codec .null)

/-- **A write that saves panics.** -/
theorem answer_stuck (hwriter : IsWriter locals sender) (hsaves : saves verb args = true) :
    (answer codec verb args sender answerGuards { locals }).1 = .stuck := by
  unfold saves at hsaves
  split at hsaves
  · simp only [answer, asWriter_answer hwriter]
    cases hkey : argText args 0 with
    | none => exact absurd hsaves (by simp [hkey])
    | some key =>
      cases hval : argText args 1 with
      | none => exact absurd hsaves (by simp [hval])
      | some val => exact update_stuck _
  · simp only [answer, asWriter_answer hwriter]
    cases hkey : argText args 0 with
    | none => exact absurd hsaves (by simp [hkey])
    | some key => exact update_stuck _
  · simp only [answer, asWriter_answer hwriter]
    cases hval : argText args 0 with
    | none => exact absurd hsaves (by simp [hval])
    | some val => exact update_stuck _
  · simp only [answer, asWriter_answer hwriter]
    exact update_stuck _
  · exact absurd hsaves (by simp)

/-- A write that does not save leaves the plugin as it was. -/
theorem answer_unchanged (hverb : verb ∈ writeVerbs) (hwriter : IsWriter locals sender)
    (hsaves : saves verb args = false) :
    ∃ result, answer codec verb args sender answerGuards { locals } =
      (.ok result, { locals }) := by
  simp only [writeVerbs, List.mem_cons, List.not_mem_nil, or_false] at hverb
  rcases hverb with rfl | rfl | rfl | rfl
  · simp only [answer, asWriter_answer hwriter]
    cases hkey : argText args 0 with
    | none => exact ⟨_, rfl⟩
    | some key =>
      cases hval : argText args 1 with
      | none => exact ⟨_, rfl⟩
      | some val => exact absurd hsaves (by simp [saves, hkey, hval])
  · simp only [answer, asWriter_answer hwriter]
    cases hkey : argText args 0 with
    | none => exact ⟨_, rfl⟩
    | some key => exact absurd hsaves (by simp [saves, hkey])
  · simp only [answer, asWriter_answer hwriter]
    cases hval : argText args 0 with
    | none => exact ⟨_, rfl⟩
    | some val => exact absurd hsaves (by simp [saves, hval])
  · exact absurd hsaves (by simp [saves])

end Register

/-! ## Both -/

/-- **The writes that complete are those that never save**, in an instance without a borrow that a
panic left: in the set the addition of a member, in both plugins a write without its texts. -/
theorem writes_complete_iff (codec : CborCodec) (input : Bytes) (cast : CastInput) (verb : String)
    (args : List Cbor) :
    (∀ s : Session (List String), Write codec Set.writeVerbs s.locals input cast verb args →
      (Completes (fun members => codec.encode (.array (members.map .text)))
          (Set.handleCall codec input) s ↔
        s.borrowed = false ∧ Set.saves verb args s.locals.state = false)) ∧
      ∀ s : Session Register.RegisterState,
        Write codec Register.writeVerbs s.locals input cast verb args →
        (Completes (fun state => codec.encode state.toCbor)
            (Register.handleCall codec input) s ↔
          s.borrowed = false ∧ Register.saves verb args = false) := by
  refine ⟨fun s h => ?_, fun s h => ?_⟩
  · exact completes_iff h (Set.answer_stuck h.authorised)
      (Set.answer_unchanged h.writes h.authorised)
  · exact completes_iff h (Register.answer_stuck h.authorised)
      (Register.answer_unchanged h.writes h.authorised)

/-! ## A first member -/

/-- What the host hands to `init` of a fresh set. -/
def freshSet : Bytes :=
  Lib.rfcCodec.encode (MaRuntime.InitPayload.toCbor
    { ctx := { selfDid := "did:ma:runtime#friends", fragment := "friends", kind := "/ma/set/0.0.1"
               parent := none, lifecycle := .new }
      state := [] })

/-- The set after its `init`. -/
def initialisedSet : Locals (List String) :=
  (Set.init Lib.rfcCodec freshSet [] { locals := { state := [] } }).2.locals

/-- A message of the set to itself. -/
def setMessage (verb : String) (args : List Cbor) : CastInput :=
  { msg := { id := "m1", «from» := "did:ma:runtime#friends", «to» := "did:ma:runtime#friends"
             createdAt := 0, expires := 0, replyTo := none, contentType := "application/cbor"
             content := Lib.rfcCodec.encode (.array (.text verb :: args)) } }

theorem setMessage_write {verb : String} {args : List Cbor} {locals : Locals (List String)}
    (hverb : verb ∈ Set.writeVerbs) (hself : locals.selfDid = "did:ma:runtime#friends") :
    Write Lib.rfcCodec Set.writeVerbs locals
      (Lib.rfcCodec.encode (setMessage verb args).toCbor) (setMessage verb args) verb args where
  decodes := by rw [Lib.rfcCodec.decode_encode, Option.bind_some, castInputOfCbor_toCbor]
  parses := by simp [parseVerb, setMessage, Lib.rfcCodec.decode_encode]
  writes := hverb
  authorised := .inl hself

/-- An addition without a text completes. -/
theorem writes_complete_iff_no_text :
    Completes (fun members => Lib.rfcCodec.encode (.array (members.map .text)))
      (Set.handleCall Lib.rfcCodec (Lib.rfcCodec.encode (setMessage ":add" []).toCbor))
      { locals := initialisedSet } :=
  ((writes_complete_iff Lib.rfcCodec _ _ _ _).1 { locals := initialisedSet }
    (setMessage_write (by decide) (by decide +kernel))).mpr ⟨rfl, rfl⟩

/-- The first addition to the fresh set. -/
def addBob : Bytes := Lib.rfcCodec.encode (setMessage ":add" [.text "did:ma:bob"]).toCbor

/-- **The first addition to a fresh set panics**: nothing is replied and nothing handed over. -/
theorem add_panics :
    Write Lib.rfcCodec Set.writeVerbs initialisedSet addBob
        (setMessage ":add" [.text "did:ma:bob"]) ":add" [.text "did:ma:bob"] ∧
      Set.handleCall Lib.rfcCodec addBob [] { locals := initialisedSet } =
        (.stuck, { locals := { initialisedSet with state := ["did:ma:bob"] } }) ∧
      ¬ Completes (fun members => Lib.rfcCodec.encode (.array (members.map .text)))
        (Set.handleCall Lib.rfcCodec addBob) { locals := initialisedSet } := by
  have hrun : Set.handleCall Lib.rfcCodec addBob [] { locals := initialisedSet } =
      (.stuck, { locals := { initialisedSet with state := ["did:ma:bob"] } }) := by decide +kernel
  refine ⟨setMessage_write (by decide) (by decide +kernel), hrun, fun h => ?_⟩
  obtain ⟨output, hreturns⟩ := h.returns
  have hfree : (Set.handleCall Lib.rfcCodec addBob [] { locals := initialisedSet }).1 =
      .ok output := hreturns
  rw [hrun] at hfree
  exact absurd hfree (by simp)

/-- The same addition once more, to the instance that lives on: its member is there, and the call
panics on the borrow. -/
example :
    let s := Session.call true { locals := initialisedSet } (Set.handleCall Lib.rfcCodec addBob)
    s = { locals := { initialisedSet with state := ["did:ma:bob"] }, borrowed := true } ∧
      (Set.handleCall Lib.rfcCodec addBob s.guards { locals := s.locals }).1 = .stuck := by
  decide +kernel

end MaRuntime.Plugins
