import Mathlib.Data.Finset.Card
import MaRuntime.Lib.Run
import MaRuntime.Lib.SetLog
import MaRuntime.Plugins.Hosted
import MaRuntime.Plugins.Session
import MaRuntime.WriteVerbs

/-!
# The set plugin as a set

The set plugin keeps its members in a list, and its `:add` looks for the text first.

* `answer_locals`: what a message does to the list, whether it panics after that or not.
* `Chronicle`: an instance with the effective writes that its state stems from; a restore goes back
  to those of the state restored.
* **`set_refines`**: over the whole life of a set, the list has no duplicates, holds what was added
  last, is what every read verb answers from, and is restored as it was.
-/

namespace MaRuntime.Plugins.Set

open Lib (Cbor CborCodec Proc Run SetOp)

/-! ## Messages -/

/-- What a write verb asks for, if its argument is a text. -/
def change (verb : String) (args : List Cbor) : Option (SetOp String) :=
  match verb with
  | ":add" => (argText args 0).map .add
  | ":remove" => (argText args 0).map .remove
  | ":clear" => some .clear
  | _ => none

/-- The list after a write. -/
def changed (members : List String) (op : Option (SetOp String)) : List String :=
  op.elim members (SetOp.actList members)

section Messages

variable {codec : CborCodec} {locals : Locals (List String)} {verb sender : String}
  {args : List Cbor}

/-- Only the write verbs ask for a change. -/
theorem change_none (h : verb ∉ writeVerbs) : change verb args = none := by
  unfold writeVerbs at h
  unfold change
  split
  · simp at h
  · simp at h
  · simp at h
  · rfl

/-- A verb that asks for no change leaves the cells. -/
theorem unchanged_locals (h : change verb args = none) :
    locals = if IsWriter locals sender then
        { locals with state := changed locals.state (change verb args) }
      else locals := by
  rw [h]
  exact (ite_self locals).symm

/-- **What a message does to the cells**: the change of its verb, if its sender may write. A panic
comes after the change. -/
theorem answer_locals :
    (answer codec verb args sender answerGuards { locals }).2.locals =
      if IsWriter locals sender then
        { locals with state := changed locals.state (change verb args) }
      else locals := by
  unfold answer
  split
  · exact unchanged_locals rfl
  · exact unchanged_locals rfl
  · cases argText args 0 <;> exact unchanged_locals rfl
  · rw [asWriter_locals]
    refine if_congr Iff.rfl ?_ rfl
    cases hval : argText args 0 with
    | none => simp only [change, hval]; rfl
    | some val =>
      simp only [change, hval]
      rw [Proc.bind_of_ok (a := locals.state) (t := { locals }) rfl]
      show _ = { locals with state := if val ∈ locals.state then locals.state
        else locals.state ++ [val] }
      cases hnew : locals.state.contains val with
      | true =>
        rw [if_pos (List.contains_iff_mem.mp hnew)]
        rfl
      | false =>
        rw [if_neg fun hmem => Bool.false_ne_true
          (hnew.symm.trans (List.contains_iff_mem.mpr hmem))]
        rfl
  · rw [asWriter_locals]
    refine if_congr Iff.rfl ?_ rfl
    cases hval : argText args 0 with
    | none => simp only [change, hval]; rfl
    | some val => simp only [change, hval]; rfl
  · rw [asWriter_locals]
    exact if_congr Iff.rfl rfl rfl
  · refine unchanged_locals (change_none ?_)
    simp_all [writeVerbs]

end Messages

/-! ## The life of a set -/

/-- The bytes that `persist` encodes. -/
def persisted (codec : CborCodec) (members : List String) : Bytes :=
  codec.encode (.array (members.map .text))

/-- An instance, the effective writes that its members stem from, and both at each moment so far:
`persist` encodes the members of each. -/
structure Chronicle where
  session : Session (List String)
  history : List (SetOp String) := []
  past : List (List String × List (SetOp String)) := []

/-- A set that nothing was asked of yet. -/
def unused : Chronicle := { session := { locals := { state := [] } } }

/-- The members. -/
abbrev Chronicle.members (c : Chronicle) : List String := c.session.locals.state

/-- The set after a request, with its history. -/
def Chronicle.next (codec : CborCodec) (keeps : Bool) (c : Chronicle) (r : Request)
    (history : List (SetOp String)) : Chronicle :=
  let session := c.session.next (program codec) keeps r
  { session, history, past := (session.locals.state, history) :: c.past }

/-- The effective write that a message is: of a writer, with the texts it takes, and to a cell that
is free. -/
def effective (codec : CborCodec) (s : Session (List String)) (input : Bytes) :
    Option (SetOp String) := do
  let cast ← (codec.decode input).bind castInputOfCbor
  let (verb, args) ← parseVerb codec cast.msg.content
  if s.borrowed = false ∧ IsWriter s.locals cast.msg.from then change verb args else none

/-- What an `init` makes of the history: with no state it stays as it was, else it goes back to that
of the state. -/
inductive Restores (codec : CborCodec) (past : List (List String × List (SetOp String)))
    (borrowed : Bool) (input : Bytes) (history : List (SetOp String)) :
    List (SetOp String) → Prop
  | unread (h : (codec.decode input).bind InitPayload.ofCbor = none) :
      Restores codec past borrowed input history history
  | empty {payload : InitPayload}
      (h : (codec.decode input).bind InitPayload.ofCbor = some payload)
      (hempty : payload.state = []) :
      Restores codec past borrowed input history history
  | persisted {payload : InitPayload} {members : List String} {older : List (SetOp String)}
      (h : (codec.decode input).bind InitPayload.ofCbor = some payload)
      (hpast : (members, older) ∈ past) (hbytes : payload.state = persisted codec members) :
      Restores codec past borrowed input history (if borrowed then history else older)

/-- One request: a message of anyone, or an `init` from no state or a persisted one. -/
inductive SetStep (codec : CborCodec) (keeps : Bool) (c : Chronicle) :
    Request → Chronicle → Prop
  | call {input : Bytes} :
      SetStep codec keeps c (.call input)
        (c.next codec keeps (.call input)
          (c.history ++ (effective codec c.session input).toList))
  | init {input : Bytes} {history : List (SetOp String)}
      (h : Restores codec c.past c.session.borrowed input c.history history) :
      SetStep codec keeps c (.init input) (c.next codec keeps (.init input) history)
  | load {input : Bytes} {history : List (SetOp String)}
      (h : Restores codec c.past false input [] history) :
      SetStep codec keeps c (.load input) (c.next codec keeps (.load input) history)

/-! ## Refinement -/

/-- A list holds the set that the history leaves, each element once. -/
structure Holds (members : List String) (history : List (SetOp String)) : Prop where
  nodup : members.Nodup
  same : members.toFinset = SetOp.contents history

/-- The members of each moment are those of its history. -/
structure HoldsAlong (c : Chronicle) : Prop where
  now : Holds c.members c.history
  past : ∀ p ∈ c.past, Holds p.1 p.2

section Refinement

variable {codec : CborCodec} {keeps : Bool} {c c' : Chronicle} {r : Request}

theorem Holds.nil : Holds [] [] := ⟨List.nodup_nil, rfl⟩

theorem Holds.mem_iff {members : List String} {history : List (SetOp String)}
    (h : Holds members history) (val : String) : val ∈ members ↔ SetOp.LastAdded val history := by
  rw [← SetOp.mem_contents_iff, ← h.same, List.mem_toFinset]

/-- A change keeps to the history. -/
theorem Holds.changed {members : List String} {history : List (SetOp String)}
    (h : Holds members history) (op : Option (SetOp String)) :
    Holds (changed members op) (history ++ op.toList) := by
  cases op with
  | none =>
    rw [Option.toList_none, List.append_nil]
    exact h
  | some op =>
    refine ⟨SetOp.nodup_actList h.nodup op, ?_⟩
    show (SetOp.actList members op).toFinset = _
    rw [SetOp.toFinset_actList, h.same, Option.toList_some, SetOp.contents_append]

/-- **What a message leaves of the members.** -/
theorem next_call (input : Bytes) :
    (c.session.next (program codec) keeps (.call input)).locals.state =
      changed c.members (effective codec c.session input) := by
  show (c.session.call keeps (handleCallWith codec (answer codec) input)).locals.state = _
  by_cases hverb : ∃ cast verb args, Carries codec input cast verb args
  · obtain ⟨cast, verb, args, hverb⟩ := hverb
    have heffective : effective codec c.session input =
        if c.session.borrowed = false ∧ IsWriter c.session.locals cast.msg.from then
          change verb args else none := by
      unfold effective
      rw [hverb.decodes]
      show (parseVerb codec cast.msg.content).bind _ = _
      rw [hverb.parses]
      rfl
    rw [Session.call_verb hverb, heffective, answer_locals]
    cases c.session.borrowed with
    | true => rfl
    | false =>
      rw [if_neg Bool.false_ne_true]
      by_cases hwriter : IsWriter c.session.locals cast.msg.from
      · rw [if_pos hwriter, if_pos ⟨rfl, hwriter⟩]
      · rw [if_neg hwriter, if_neg (fun h => hwriter h.2)]
        rfl
  · rw [Session.call_other hverb]
    have hnone : effective codec c.session input = none := by
      unfold effective
      cases hcast : (codec.decode input).bind castInputOfCbor with
      | none => rfl
      | some cast =>
        show (parseVerb codec cast.msg.content).bind _ = none
        cases hparse : parseVerb codec cast.msg.content with
        | none => rfl
        | some v => exact absurd ⟨cast, v.1, v.2, hcast, hparse⟩ hverb
    rw [hnone]
    rfl

/-- An `init` keeps to the history that it goes back to. -/
theorem Restores.holds {input : Bytes} {history history' : List (SetOp String)}
    {past : List (List String × List (SetOp String))} {s : Session (List String)}
    (h : Restores codec past s.borrowed input history history')
    (hpast : ∀ p ∈ past, Holds p.1 p.2) (hnow : Holds s.locals.state history) :
    Holds (s.call keeps (init codec input)).locals.state history' := by
  unfold Set.init
  cases h with
  | unread h =>
    rw [Session.call_init_none h]
    exact hnow
  | empty h hempty =>
    rw [Session.call_init h, hempty, restored_nil]
    simpa using hnow
  | @persisted payload members older h hmem hbytes =>
    rw [Session.call_init h, hbytes, Set.persisted, restored_encode (readMembers_encode codec _)]
    dsimp only
    split
    · exact hnow
    · exact hpast _ hmem

/-- **Every request keeps to the history.** -/
theorem SetStep.holdsAlong (hstep : SetStep codec keeps c r c') (h : HoldsAlong c) :
    HoldsAlong c' := by
  have along {r : Request} {history : List (SetOp String)}
      (hnow : Holds (c.session.next (program codec) keeps r).locals.state history) :
      HoldsAlong (c.next codec keeps r history) :=
    ⟨hnow, List.forall_mem_cons.mpr ⟨hnow, h.past⟩⟩
  cases hstep with
  | call =>
    refine along ?_
    rw [next_call]
    exact h.now.changed _
  | init hrestores => exact along (hrestores.holds h.past h.now)
  | load hrestores =>
    exact along (Restores.holds (s := { locals := { state := [] } }) hrestores h.past Holds.nil)

/-- The answer to a message, unless the cell is borrowed: one reply, with the value. -/
def Answers (codec : CborCodec) (c : Chronicle) (verb : String) (args : List Cbor) (val : Cbor) :
    Prop :=
  ∀ input cast, Carries codec input cast verb args → c.session.borrowed = false →
    handleCall codec input c.session.guards { locals := c.session.locals } =
      (.ok [], { locals := c.session.locals
                 calls := [(.maReply, codec.encode (ReplyRequest.toCbor
                   { msg := cast.msg, contentType := "application/cbor"
                     content := cborOk codec val }))] })

/-- **The plugin is a set**: its list has no duplicates and holds what was added last; the read
verbs answer from that set; what `persist` encodes of it is restored as it was. A cell that no panic
left borrowed is free. -/
structure RefinesSet (codec : CborCodec) (keeps : Bool) (c : Chronicle) : Prop where
  nodup : c.members.Nodup
  members : ∀ val, val ∈ c.members ↔ SetOp.LastAdded val c.history
  count : ∀ args, Answers codec c ":count" args
    (.unsigned (.ofNat (SetOp.contents c.history).card))
  listed : ∃ list : List String, list.Nodup ∧ list.toFinset = SetOp.contents c.history ∧
    ∀ args, Answers codec c ":members" args (.array (list.map .text))
  contains : ∀ args val, argText args 0 = some val →
    Answers codec c ":contains" args (.bool (decide (val ∈ SetOp.contents c.history)))
  restores : ∀ input payload, (codec.decode input).bind InitPayload.ofCbor = some payload →
    payload.state = persisted codec c.members → ∀ s : Session (List String), s.borrowed = false →
      (s.call keeps (init codec input)).locals.state = c.members
  free : keeps = false → c.session.borrowed = false

/-- A read verb, by its answer. -/
theorem answers_of_read {verb : String} {args : List Cbor} {val : Cbor}
    (hread : ∀ sender, answer codec verb args sender answerGuards { locals := c.session.locals } =
      (.ok (cborOk codec val), { locals := c.session.locals })) :
    Answers codec c verb args val := by
  intro input cast hverb hfree
  exact handleCallWith_answered hverb hfree (hread cast.msg.from)

/-- What the history leaves is what the plugin is. -/
theorem Holds.refinesSet (h : Holds c.members c.history)
    (hfree : keeps = false → c.session.borrowed = false) : RefinesSet codec keeps c where
  nodup := h.nodup
  members := h.mem_iff
  count args := by
    refine answers_of_read fun sender => ?_
    rw [← h.same, List.toFinset_card_of_nodup h.nodup]
    rfl
  listed := ⟨c.members, h.nodup, h.same, fun args => answers_of_read fun sender => rfl⟩
  contains args val hval := by
    refine answers_of_read fun sender => ?_
    rw [← h.same]
    simp only [answer, hval, List.mem_toFinset]
    rw [Proc.bind_of_ok (a := c.members) (t := { locals := c.session.locals }) rfl]
    simp only [List.contains_eq_mem]
    rfl
  restores input payload hpayload hbytes s hs := by
    unfold Set.init
    rw [Session.call_init hpayload, hbytes, Set.persisted,
      restored_encode (readMembers_encode codec _), hs]
    rfl
  free := hfree

/-- A cell is left borrowed only by an instance that lives on after a panic. -/
theorem next_free (h : c.session.borrowed = false) :
    (c.session.next (program codec) false r).borrowed = false := by
  have call (s : Session (List String)) (hs : s.borrowed = false)
      (f : PluginM (List String) Bytes) : (s.call false f).borrowed = false := by
    rw [Session.call_borrowed, hs]
    exact ite_self false
  cases r with
  | call input => exact call _ h _
  | init input => exact call _ h _
  | load input => exact call _ rfl _

/-- **The set plugin is a set over its whole life**, whoever sends what, whatever panics, and from
whichever state it is restored. -/
theorem set_refines {rs : List Request} (hrun : Run (SetStep codec keeps) unused rs c) :
    RefinesSet codec keeps c := by
  let I (c : Chronicle) : Prop := HoldsAlong c ∧ (keeps = false → c.session.borrowed = false)
  have hstart : I unused := ⟨⟨Holds.nil, by simp [unused]⟩, fun _ => rfl⟩
  have hend : I c := hrun.invariant (I := I) (fun {c r c'} hI hstep => by
    refine ⟨hstep.holdsAlong hI.1, fun hkeeps => ?_⟩
    subst hkeeps
    cases hstep <;> exact next_free (hI.2 rfl)) hstart
  exact hend.1.now.refinesSet hend.2

end Refinement

/-! ## A member that comes back -/

/-- What the host hands to the `init` of a set that had a member. -/
def bobSet : Bytes :=
  Lib.rfcCodec.encode (MaRuntime.InitPayload.toCbor
    { ctx := { selfDid := "did:ma:runtime#friends", fragment := "friends", kind := "/ma/set/0.0.1"
               parent := none, lifecycle := .stopped }
      state := persisted Lib.rfcCodec ["did:ma:bob"] })

/-- The set after its first addition. -/
def withBob : Chronicle :=
  let c := unused.next Lib.rfcCodec false (.load freshSet) []
  c.next Lib.rfcCodec false (.call addBob)
    (c.history ++ (effective Lib.rfcCodec c.session addBob).toList)

set_option maxRecDepth 100000 in
/-- A member that was added is there after the next load, with the addition in the history. -/
theorem set_refines_bob :
    ∃ c, Run (SetStep Lib.rfcCodec false) unused [.load freshSet, .call addBob, .load bobSet] c ∧
      c.members = ["did:ma:bob"] ∧ c.history = [.add "did:ma:bob"] ∧
      RefinesSet Lib.rfcCodec false c := by
  have hhistory : withBob.history = [.add "did:ma:bob"] := by decide +kernel
  have hpast : (["did:ma:bob"], [SetOp.add "did:ma:bob"]) ∈ withBob.past := by decide +kernel
  have hrun : Run (SetStep Lib.rfcCodec false) unused
      [.load freshSet, .call addBob, .load bobSet]
      (withBob.next Lib.rfcCodec false (.load bobSet) [.add "did:ma:bob"]) :=
    .cons (.load (.empty (InitPayload.decode_encode _ _) rfl)) (.cons .call (.cons
      (.load (.persisted (InitPayload.decode_encode _ _) hpast rfl)) (.nil _)))
  exact ⟨_, hrun, by decide +kernel, rfl, set_refines hrun⟩

end MaRuntime.Plugins.Set
