import MaRuntime.Lib.Run
import MaRuntime.Plugins.Hosted
import MaRuntime.Plugins.Session
import MaRuntime.WriteVerbs

/-!
# The register as a bijection

The register keeps its pairs in two maps, one for each direction.

* `RegisterState.Inverse`: the two are inverse to each other; every write keeps them so, and what
  was persisted is restored as it was.
* `set_pairs`: the pairs after a `:set`.
* **`register_right_iff`**: over the whole life of a register, a `:set` of a writer does what it
  says, iff the cell was not left borrowed by an earlier write or the pair is there already. All
  else holds in any case.
* `second_set_is_lost`: a second `:set`.
-/

namespace MaRuntime.Plugins.Register

open Lib (Cbor CborCodec Proc Run)

/-! ## Pairs -/

section Maps

variable {β : Type} {m : StrMap β} {k k' : String} {v v' : β}

theorem getElem?_insert_some :
    (m.insert k v)[k']? = some v' ↔ k' = k ∧ v' = v ∨ k' ≠ k ∧ m[k']? = some v' := by
  rw [Std.ExtTreeMap.getElem?_insert]
  by_cases h : k = k'
  · rw [if_pos (by simp [h])]
    simp [h, eq_comm]
  · rw [if_neg (by simpa using h)]
    simp [Ne.symm h]

theorem getElem?_erase_some : (m.erase k)[k']? = some v' ↔ k' ≠ k ∧ m[k']? = some v' := by
  rw [Std.ExtTreeMap.getElem?_erase]
  by_cases h : k = k'
  · rw [if_pos (by simp [h])]
    simp [h]
  · rw [if_neg (by simpa using h)]
    simp [Ne.symm h]

end Maps

/-- **The two maps are inverse to each other.** -/
def RegisterState.Inverse (s : RegisterState) : Prop :=
  ∀ key val : String, s.fwd[key]? = some val ↔ s.rev[val]? = some key

/-- The pairs that a `:set` leaves: the new one, and those with another key and another value. -/
def RegisterState.PairsAfterSet (s : RegisterState) (key val key' val' : String) : Prop :=
  key' = key ∧ val' = val ∨ key' ≠ key ∧ val' ≠ val ∧ s.fwd[key']? = some val'

/-- What `:set` leaves of `rev` before it inserts. -/
def RegisterState.revWithout (s : RegisterState) (key : String) : StrMap String :=
  match s.fwd[key]? with
  | some oldVal => s.rev.erase oldVal
  | none => s.rev

/-- The register read the other way. -/
def RegisterState.swap (s : RegisterState) : RegisterState := { fwd := s.rev, rev := s.fwd }

section Pairs

variable {s : RegisterState} {key val key' val' : String}

theorem inverse_empty : ({} : RegisterState).Inverse := fun key val => by
  show (∅ : StrMap String)[key]? = some val ↔ (∅ : StrMap String)[val]? = some key
  simp

theorem RegisterState.Inverse.swap (h : s.Inverse) : s.swap.Inverse := fun key val =>
  (h val key).symm

theorem revWithout_iff (h : s.Inverse) :
    (s.revWithout key)[val']? = some key' ↔ key' ≠ key ∧ s.fwd[key']? = some val' := by
  unfold RegisterState.revWithout
  rw [h key' val']
  cases hold : s.fwd[key]? with
  | none =>
    refine ⟨fun hmem => ⟨fun heq => ?_, hmem⟩, And.right⟩
    rw [← h key' val', heq, hold] at hmem
    exact absurd hmem (by simp)
  | some oldVal =>
    dsimp only
    rw [getElem?_erase_some]
    refine and_congr_left fun hmem => not_congr ⟨fun heq => ?_, fun heq => ?_⟩
    · rw [heq] at hmem
      exact Option.some.inj (hmem.symm.trans ((h key oldVal).mp hold))
    · rw [← h key' val', heq, hold] at hmem
      exact (Option.some.inj hmem).symm

/-- **The pairs after a `:set`.** -/
theorem set_pairs (h : s.Inverse) :
    (s.set key val).fwd[key']? = some val' ↔ s.PairsAfterSet key val key' val' := by
  show ((match (s.revWithout key)[val]? with
    | some oldKey => s.fwd.erase oldKey
    | none => s.fwd).insert key val)[key']? = some val' ↔ _
  rw [getElem?_insert_some]
  refine or_congr Iff.rfl (and_congr_right fun hkey => ?_)
  cases hold : (s.revWithout key)[val]? with
  | none =>
    refine ⟨fun hmem => ⟨fun heq => ?_, hmem⟩, And.right⟩
    rw [heq] at hmem
    exact absurd ((revWithout_iff h).mpr ⟨hkey, hmem⟩) (by simp [hold])
  | some oldKey =>
    dsimp only
    rw [getElem?_erase_some]
    refine and_congr_left fun hmem => not_congr ⟨fun heq => ?_, fun heq => ?_⟩
    · rw [heq, ((revWithout_iff h).mp hold).2] at hmem
      exact (Option.some.inj hmem).symm
    · rw [heq] at hmem
      exact Option.some.inj (((revWithout_iff h).mpr ⟨hkey, hmem⟩).symm.trans hold)

/-- The same, the other way. -/
theorem set_pairs_rev (h : s.Inverse) :
    (s.set key val).rev[val']? = some key' ↔ s.PairsAfterSet key val key' val' := by
  show ((s.revWithout key).insert val key)[val']? = some key' ↔ _
  rw [getElem?_insert_some, revWithout_iff h]
  unfold RegisterState.PairsAfterSet
  tauto

theorem RegisterState.Inverse.set (h : s.Inverse) (key val : String) : (s.set key val).Inverse :=
  fun _ _ => (set_pairs h).trans (set_pairs_rev h).symm

theorem RegisterState.Inverse.delete (h : s.Inverse) (key : String) : (s.delete key).Inverse := by
  intro key' val'
  show (s.fwd.erase key)[key']? = some val' ↔ (s.revWithout key)[val']? = some key'
  rw [getElem?_erase_some, revWithout_iff h]

theorem RegisterState.Inverse.deleteValue (h : s.Inverse) (val : String) :
    (s.deleteValue val).Inverse :=
  (h.swap.delete val).swap

/-- A `:set` leaves the register alone, as far as its pairs go, iff the pair is there already. -/
theorem pairsAfterSet_self_iff (h : s.Inverse) :
    (∀ key' val', s.fwd[key']? = some val' ↔ s.PairsAfterSet key val key' val') ↔
      s.fwd[key]? = some val := by
  constructor
  · intro hpairs
    exact (hpairs key val).mpr (.inl ⟨rfl, rfl⟩)
  · intro hthere key' val'
    constructor
    · intro hmem
      by_cases hkey : key' = key
      · rw [hkey, hthere] at hmem
        exact .inl ⟨hkey, (Option.some.inj hmem).symm⟩
      · refine .inr ⟨hkey, fun hval => hkey ?_, hmem⟩
        rw [hval] at hmem
        exact Option.some.inj (((h key' val).mp hmem).symm.trans ((h key val).mp hthere))
    · rintro (⟨rfl, rfl⟩ | ⟨-, -, hmem⟩)
      · exact hthere
      · exact hmem

end Pairs

/-! ## What is persisted -/

/-- Inserting the entries of a map one by one gives the map. -/
theorem foldl_insert_toList (m : StrMap String) :
    m.toList.foldl (fun m e => m.insert e.1 e.2) (∅ : StrMap String) = m := by
  rw [← Std.ExtTreeMap.ofList_eq_foldl]
  refine Std.ExtTreeMap.ext_getElem? fun k => ?_
  cases hk : m[k]? with
  | none =>
    refine Std.ExtTreeMap.getElem?_ofList_of_contains_eq_false ?_
    rw [Std.ExtTreeMap.map_fst_toList_eq_keys]
    have hnot : k ∉ m := by
      rw [Std.ExtTreeMap.mem_iff_isSome_getElem?, hk]
      simp
    simpa using hnot
  | some v =>
    exact Std.ExtTreeMap.getElem?_ofList_of_mem (k := k) (by simp)
      Std.ExtTreeMap.distinct_keys_toList
      (Std.ExtTreeMap.mem_toList_iff_getElem?_eq_some.mpr hk)

theorem mapOfCbor_mapToCbor (m : StrMap String) : mapOfCbor (mapToCbor m) = some m := by
  conv => rhs; rw [← foldl_insert_toList m]
  unfold mapOfCbor mapToCbor
  dsimp only
  generalize m.toList = entries
  generalize (∅ : StrMap String) = acc
  induction entries generalizing acc with
  | nil => rfl
  | cons e entries ih => exact ih _

/-- A persisted register is restored as it was. -/
theorem ofCbor_toCbor (s : RegisterState) : RegisterState.ofCbor s.toCbor = some s := by
  unfold RegisterState.ofCbor RegisterState.toCbor
  have hfwd : Cbor.field [(.text "fwd", mapToCbor s.fwd), (.text "rev", mapToCbor s.rev)] "fwd" =
      some (mapToCbor s.fwd) := rfl
  have hrev : Cbor.field [(.text "fwd", mapToCbor s.fwd), (.text "rev", mapToCbor s.rev)] "rev" =
      some (mapToCbor s.rev) := rfl
  simp only [hfwd, hrev, Option.bind_some, mapOfCbor_mapToCbor]
  rfl

/-! ## Messages -/

/-- What a write verb does to the register, if its arguments are texts. -/
def change (verb : String) (args : List Cbor) : Option (RegisterState → RegisterState) :=
  match verb with
  | ":set" =>
    match argText args 0, argText args 1 with
    | some key, some val => some (·.set key val)
    | _, _ => none
  | ":delete" => (argText args 0).map fun key => (·.delete key)
  | ":delete_value" => (argText args 0).map fun val => (·.deleteValue val)
  | ":clear" => some fun _ => {}
  | _ => none

section Messages

variable {codec : CborCodec} {locals : Locals RegisterState} {verb sender : String}
  {args : List Cbor}

theorem update_locals (f : RegisterState → RegisterState) :
    (update codec f answerGuards { locals }).2.locals =
      { locals with state := f locals.state } := rfl

/-- Only the write verbs change anything. -/
theorem change_none (h : verb ∉ writeVerbs) : change verb args = none := by
  unfold writeVerbs at h
  unfold change
  split
  · simp at h
  · simp at h
  · simp at h
  · simp at h
  · rfl

/-- A verb without a change leaves the cells. -/
theorem unchanged_locals (h : change verb args = none) :
    locals = if IsWriter locals sender then
        { locals with state := ((change verb args).getD id) locals.state }
      else locals := by
  rw [h]
  exact (ite_self locals).symm

/-- **What a message does to the cells**: the change of its verb, if its sender may write. A panic
comes after the change. -/
theorem answer_locals :
    (answer codec verb args sender answerGuards { locals }).2.locals =
      if IsWriter locals sender then
        { locals with state := ((change verb args).getD id) locals.state }
      else locals := by
  unfold answer
  split
  · exact unchanged_locals rfl
  · exact unchanged_locals rfl
  · exact unchanged_locals rfl
  · cases argText args 0 <;> exact unchanged_locals rfl
  · cases argText args 0 <;> exact unchanged_locals rfl
  · cases argText args 0 <;> exact unchanged_locals rfl
  · cases argText args 0 <;> exact unchanged_locals rfl
  · rw [asWriter_locals]
    refine if_congr Iff.rfl ?_ rfl
    cases hkey : argText args 0 with
    | none => simp only [change, hkey]; rfl
    | some key =>
      cases hval : argText args 1 with
      | none => simp only [change, hkey, hval]; rfl
      | some val =>
        simp only [change, hkey, hval]
        exact update_locals _
  · rw [asWriter_locals]
    refine if_congr Iff.rfl ?_ rfl
    cases hkey : argText args 0 with
    | none => simp only [change, hkey]; rfl
    | some key =>
      simp only [change, hkey]
      exact update_locals _
  · rw [asWriter_locals]
    refine if_congr Iff.rfl ?_ rfl
    cases hval : argText args 0 with
    | none => simp only [change, hval]; rfl
    | some val =>
      simp only [change, hval]
      exact update_locals _
  · rw [asWriter_locals]
    exact if_congr Iff.rfl (update_locals _) rfl
  · refine unchanged_locals (change_none ?_)
    simp_all [writeVerbs]

/-- A change keeps the maps inverse. -/
theorem RegisterState.Inverse.change {s : RegisterState} (h : s.Inverse) (verb : String)
    (args : List Cbor) : (((change verb args).getD id) s).Inverse := by
  unfold Register.change
  split
  · split
    · exact h.set _ _
    · exact h
  · cases argText args 0 with
    | none => exact h
    | some key => exact h.delete key
  · cases argText args 0 with
    | none => exact h
    | some val => exact h.deleteValue val
  · exact inverse_empty
  · exact h

end Messages

/-! ## The life of a register -/

/-- An instance, and what the registers before it were: `persist` encodes each of them. -/
structure Life where
  session : Session RegisterState
  past : List RegisterState := []

/-- A register that nothing was asked of yet. -/
def unused : Life := { session := { locals := { state := {} } } }

/-- The register of a life. -/
abbrev Life.register (l : Life) : RegisterState := l.session.locals.state

/-- One request: a message of anyone, or an `init` from no state or a persisted one. -/
inductive LifeStep (codec : CborCodec) (keeps : Bool) (l : Life) (r : Request) : Life → Prop
  | intro (hfrom : r.RestoresFrom codec fun bytes =>
        ∃ s ∈ l.past, bytes = codec.encode (RegisterState.toCbor s)) :
      LifeStep codec keeps l r
        { session := l.session.next (program codec) keeps r
          past := (l.session.next (program codec) keeps r).locals.state :: l.past }

/-- A writer asks for `:set key val`. -/
structure AsksSet (codec : CborCodec) (l : Life) (r : Request) (key val : String) : Prop where
  message : ∃ input cast args, r = .call input ∧ Carries codec input cast ":set" args ∧
    argText args 0 = some key ∧ argText args 1 = some val ∧ IsWriter l.session.locals cast.msg.from

/-- A message that writes nothing: another verb, or another sender. -/
def WritesNothing (codec : CborCodec) (l : Life) (r : Request) : Prop :=
  ∃ input, r = .call input ∧ ∀ cast verb args, Carries codec input cast verb args →
    verb ∉ writeVerbs ∨ ¬ IsWriter l.session.locals cast.msg.from

/-- **The register does as it says**: its maps are inverse, a writer's `:set` has its pair and drops
just those in its way, and what writes nothing changes nothing. -/
structure RightStep (codec : CborCodec) (keeps : Bool) (l : Life) (r : Request) (l' : Life) :
    Prop where
  step : LifeStep codec keeps l r l'
  inverse : l'.register.Inverse
  sets : ∀ key val, AsksSet codec l r key val → ∀ key' val',
    l'.register.fwd[key']? = some val' ↔ l.register.PairsAfterSet key val key' val'
  reads : WritesNothing codec l r → l'.register = l.register

/-- A writer's `:set` finds the cell free, or its pair there already. -/
structure FreeStep (codec : CborCodec) (keeps : Bool) (l : Life) (r : Request) (l' : Life) :
    Prop where
  step : LifeStep codec keeps l r l'
  free : ∀ key val, AsksSet codec l r key val →
    l.session.borrowed = false ∨ l.register.fwd[key]? = some val

section Steps

variable {codec : CborCodec} {keeps : Bool} {l l' : Life} {r : Request}

/-- What a message with a verb leaves. -/
theorem next_verb {input : Bytes} {cast : CastInput} {verb : String} {args : List Cbor}
    (h : Carries codec input cast verb args) :
    (l.session.next (program codec) keeps (.call input)).locals =
      if l.session.borrowed then l.session.locals
      else if IsWriter l.session.locals cast.msg.from then
        { l.session.locals with state := ((change verb args).getD id) l.register }
      else l.session.locals := by
  show (l.session.call keeps (handleCallWith codec (answer codec) input)).locals = _
  rw [Session.call_verb h]
  exact if_congr Iff.rfl rfl answer_locals

/-- The registers of a life are inverse, the one it has and those it had. -/
structure InverseLife (l : Life) : Prop where
  now : l.register.Inverse
  past : ∀ s ∈ l.past, s.Inverse

/-- An `init` restores inverse maps. -/
theorem InverseLife.restores (h : InverseLife l) {s : Session RegisterState}
    (hs : s.locals.state.Inverse) {input : Bytes}
    (hfrom : ∀ payload, (codec.decode input).bind InitPayload.ofCbor = some payload →
      payload.state = [] ∨ ∃ s ∈ l.past, payload.state = codec.encode (RegisterState.toCbor s)) :
    (s.call keeps (init codec input)).locals.state.Inverse := by
  cases hpayload : (codec.decode input).bind InitPayload.ofCbor with
  | none =>
    unfold Register.init
    rw [Session.call_init_none hpayload]
    exact hs
  | some payload =>
    unfold Register.init
    rw [Session.call_init hpayload]
    dsimp only
    split
    · exact hs
    · rcases hfrom payload hpayload with hnil | ⟨s', hs', hbytes⟩
      · rw [hnil, restored_nil]
        exact hs
      · rw [hbytes, @restored_encode _ _ _ _ s']
        · exact h.past s' hs'
        · rw [codec.decode_encode, Option.bind_some, ofCbor_toCbor]

/-- **Every request keeps the maps inverse.** -/
theorem LifeStep.inverseLife (hstep : LifeStep codec keeps l r l') (h : InverseLife l) :
    InverseLife l' := by
  obtain ⟨hfrom⟩ := hstep
  suffices hnow : (l.session.next (program codec) keeps r).locals.state.Inverse from
    ⟨hnow, List.forall_mem_cons.mpr ⟨hnow, h.past⟩⟩
  cases r with
  | call input =>
    by_cases hverb : ∃ cast verb args, Carries codec input cast verb args
    · obtain ⟨cast, verb, args, hverb⟩ := hverb
      rw [next_verb hverb]
      split
      · exact h.now
      · split
        · exact h.now.change verb args
        · exact h.now
    · show (l.session.call keeps (handleCallWith codec (answer codec) input)).locals.state.Inverse
      rw [Session.call_other hverb]
      exact h.now
  | init input => exact h.restores h.now hfrom
  | load input => exact h.restores inverse_empty hfrom

/-- What writes nothing changes nothing. -/
theorem LifeStep.reads (hstep : LifeStep codec keeps l r l') (h : WritesNothing codec l r) :
    l'.register = l.register := by
  obtain ⟨-⟩ := hstep
  obtain ⟨input, rfl, hnothing⟩ := h
  show (l.session.next (program codec) keeps (.call input)).locals.state = l.register
  by_cases hverb : ∃ cast verb args, Carries codec input cast verb args
  · obtain ⟨cast, verb, args, hverb⟩ := hverb
    rw [next_verb hverb]
    split
    · rfl
    · split
      · rename_i hwriter
        have hread := (hnothing cast verb args hverb).resolve_right (not_not_intro hwriter)
        rw [change_none hread]
        rfl
      · rfl
  · show (l.session.call keeps (handleCallWith codec (answer codec) input)).locals.state = _
    rw [Session.call_other hverb]

/-- **A writer's `:set` has its effect, iff** the cell is free or the pair is there already. -/
theorem LifeStep.sets_iff (hstep : LifeStep codec keeps l r l') (h : InverseLife l)
    {key val : String} (hset : AsksSet codec l r key val) :
    (∀ key' val', l'.register.fwd[key']? = some val' ↔ l.register.PairsAfterSet key val key' val') ↔
      l.session.borrowed = false ∨ l.register.fwd[key]? = some val := by
  obtain ⟨-⟩ := hstep
  obtain ⟨input, cast, args, rfl, hverb, hkey, hval, hwriter⟩ := hset
  have hchange : change ":set" args = some (·.set key val) := by
    simp only [change, hkey, hval]
  have hnext := @next_verb codec keeps l _ _ _ _ hverb
  rw [if_pos hwriter, hchange] at hnext
  show (∀ key' val' : String, (l.session.next (program codec) keeps (.call input)).locals.state.fwd[
    key']? = some val' ↔ l.register.PairsAfterSet key val key' val') ↔ _
  rw [hnext]
  cases l.session.borrowed with
  | true =>
    rw [if_pos rfl, pairsAfterSet_self_iff h.now]
    simp
  | false =>
    rw [if_neg Bool.false_ne_true]
    exact iff_of_true (fun key' val' => set_pairs h.now) (.inl rfl)

/-- **The register is a bijection and does as it says, over its whole life, iff** each `:set` of a
writer finds the cell free or its pair there already. -/
theorem register_right_iff (codec : CborCodec) (keeps : Bool) (rs : List Request) (l : Life) :
    Run (RightStep codec keeps) unused rs l ↔ Run (FreeStep codec keeps) unused rs l := by
  have hstart : InverseLife unused := ⟨inverse_empty, by simp [unused]⟩
  constructor
  · refine Run.along (I := InverseLife) (fun {l r l'} hI hright => ?_) hstart
    exact ⟨hright.step.inverseLife hI, hright.step, fun key val hset =>
      (hright.step.sets_iff hI hset).mp (hright.sets key val hset)⟩
  · refine Run.along (I := InverseLife) (fun {l r l'} hI hfree => ?_) hstart
    have hnext := hfree.step.inverseLife hI
    exact ⟨hnext, hfree.step, hnext.now, fun key val hset =>
      (hfree.step.sets_iff hI hset).mpr (hfree.free key val hset), hfree.step.reads⟩

end Steps

/-! ## Two pairs -/

/-- The host loads a register that knows itself. -/
def loadRegister : Request :=
  .load (Lib.rfcCodec.encode (MaRuntime.InitPayload.toCbor
    { ctx := { selfDid := "did:ma:runtime#friends", fragment := "friends"
               kind := "/ma/register/0.0.1", parent := none, lifecycle := .new }
      state := [] }))

/-- The register sets a pair of its own. -/
def setPair (key val : String) : Request :=
  .call (Lib.rfcCodec.encode (CastInput.toCbor (setMessage ":set" [.text key, .text val])))

/-- The register after a request. -/
def Life.after (l : Life) (r : Request) : Life :=
  let session := l.session.next (program Lib.rfcCodec) true r
  { session, past := session.locals.state :: l.past }

/-- The register with its first pair. -/
def onePair : Life := (unused.after loadRegister).after (setPair "a" "1")

set_option maxRecDepth 100000 in
/-- **The second `:set` is lost**: the first one saved, panicked, and left the cell borrowed. -/
theorem second_set_is_lost :
    Run (LifeStep Lib.rfcCodec true) unused [loadRegister, setPair "a" "1"] onePair ∧
      LifeStep Lib.rfcCodec true onePair (setPair "b" "2") (onePair.after (setPair "b" "2")) ∧
      AsksSet Lib.rfcCodec onePair (setPair "b" "2") "b" "2" ∧
      onePair.register.fwd["a"]? = some "1" ∧
      (onePair.after (setPair "b" "2")).register.fwd["b"]? = none ∧
      ¬ RightStep Lib.rfcCodec true onePair (setPair "b" "2")
        (onePair.after (setPair "b" "2")) := by
  have hlost : (onePair.after (setPair "b" "2")).register.fwd["b"]? = none := by decide +kernel
  have hasks : AsksSet Lib.rfcCodec onePair (setPair "b" "2") "b" "2" := by
    refine ⟨_, setMessage ":set" [.text "b", .text "2"], [.text "b", .text "2"], rfl, ⟨?_, ?_⟩, rfl,
      rfl, .inl (by decide +kernel)⟩
    · rw [Lib.rfcCodec.decode_encode, Option.bind_some, castInputOfCbor_toCbor]
    · simp [parseVerb, setMessage, Lib.rfcCodec.decode_encode]
  have hload : LifeStep Lib.rfcCodec true unused loadRegister (unused.after loadRegister) := by
    refine .intro fun payload hpayload => .inl ?_
    rw [InitPayload.decode_encode] at hpayload
    obtain rfl := Option.some.inj hpayload
    rfl
  refine ⟨.cons hload (.cons (.intro trivial) (.nil _)), .intro trivial, hasks, by decide +kernel,
    hlost, fun hright => ?_⟩
  have hthere := (hright.sets "b" "2" hasks "b" "2").mpr (.inl ⟨rfl, rfl⟩)
  rw [hlost] at hthere
  exact absurd hthere (by simp)

end MaRuntime.Plugins.Register
