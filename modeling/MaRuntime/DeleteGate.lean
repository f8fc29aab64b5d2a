import MaRuntime.AclLaws
import MaRuntime.CrudDelete

/-!
# Who may delete an entity

A CRUD delete of an entity is said to require the capabilities `delete` and `entities`. It asks
`check_full` for the two, and `check_full` takes a list of capabilities as alternatives.

* `checkFullNoGroups_or`: the check of the two passes where the check of one of them does.
* `deleteGated_iff`: a delete takes both exactly where the caller is granted both or none.
* `delete_alone_deletes`: with `delete` alone an entity is deleted.
-/

namespace MaRuntime

/-- The delete takes the entity away, from the registry or from the manifest at the root. -/
def Removes (env : Env) (message : Message) (name : String) (w : World) : Prop :=
  (name ∈ w.rt.entityRegistry ∧ name ∉ (crudTurn env message [] w).2.rt.entityRegistry) ∨
    ∃ m m', AtRoot env w.rt m ∧ AtRoot env (crudTurn env message [] w).2.rt m' ∧
      name ∈ m.entities ∧ name ∉ m'.entities

/-- `check_full` on the root ACL accepts the caller for the capability. -/
def HoldsCap (env : Env) (w : World) (caller cap : String) : Prop :=
  checkFullNoGroups env.core w.rt.rootAcl caller [cap] = .ok ()

/-- **A delete takes both capabilities.** -/
def DeleteGated (env : Env) (message : Message) (name : String) (w : World) : Prop :=
  Removes env message name w →
    HoldsCap env w message.from "delete" ∧ HoldsCap env w message.from "entities"

/-- There is something to take away: the entity is registered, or the manifest at the root names it
and Kubo lets its successor through. -/
def Removable (env : Env) (name : String) (w : World) : Prop :=
  name ∈ w.rt.entityRegistry ∨
    ∃ m, AtRoot env w.rt m ∧ name ∈ m.entities ∧ Rewritable env (withoutEntity name) w

section Gate

variable {env : Env} {message : Message} {name : String} {w : World}

/-- **A list of capabilities is one of alternatives.** -/
theorem checkFullNoGroups_or {core : MaCore} {acl : AclMap} {caller cap cap' : String} :
    checkFullNoGroups core acl caller [cap, cap'] = .ok () ↔
      checkFullNoGroups core acl caller [cap] = .ok () ∨
        checkFullNoGroups core acl caller [cap'] = .ok () := by
  have hexists : checkFullNoGroups core acl caller [cap, cap'] = .ok () ↔
      ∃ c ∈ [cap, cap'], checkFullNoGroups core acl caller [c] = .ok () := checkWith_ok_iff_exists
  rw [hexists]
  simp

/-- One of the two does. -/
example : checkFullNoGroups tableCore
    ((∅ : AclMap).insert "did:ma:mallory" (.allow (.ofList ["crud", "delete"]))) "did:ma:mallory"
    ["delete", "entities"] = .ok () := by decide +kernel

/-- **What a delete takes away**: what is there, if its sender passes both gates. -/
theorem removes_iff (hasks : AsksDelete env message name) :
    Removes env message name w ↔ Privileged env w.rt message.from ∧ Removable env name w := by
  rcases deleteTurn_cases (w := w) hasks with ⟨hpriv, hrt⟩ | ⟨hpriv, hdone⟩
  · refine iff_of_false (fun h => ?_) fun h => hpriv h.1
    rcases h with ⟨hmem, hnot⟩ | ⟨m, m', hm, hm', hmem, hnot⟩
    · rw [hrt] at hnot
      exact hnot hmem
    · rw [hrt] at hm'
      obtain rfl := hm.eq hm'
      exact hnot hmem
  · rw [and_iff_right hpriv]
    rcases hdone with ⟨hkubo, newCid, hw⟩ | ⟨hkubo, hrt⟩
    · obtain ⟨m, hm, hm'⟩ := hw.atRoot
      have hm : AtRoot env w.rt m := hm
      have hreg : (crudTurn env message [] w).2.rt.entityRegistry =
          w.rt.entityRegistry.erase name := by rw [hw.frame]
      constructor
      · rintro (⟨hmem, -⟩ | ⟨m1, m1', hm1, -, hmem, -⟩)
        · exact .inl hmem
        · exact .inr ⟨m1, hm1, hmem, hkubo⟩
      · rintro (hmem | ⟨m1, hm1, hmem, -⟩)
        · refine .inl ⟨hmem, ?_⟩
          rw [hreg]
          simp
        · obtain rfl := hm.eq hm1
          exact .inr ⟨m, _, hm, hm', hmem, by simp [withoutEntity]⟩
    · constructor
      · rintro (⟨hmem, -⟩ | ⟨m, m', hm, hm', hmem, hnot⟩)
        · exact .inl hmem
        · rw [hrt] at hm'
          obtain rfl := hm.eq hm'
          exact absurd hmem hnot
      · rintro (hmem | ⟨-, -, -, hkubo'⟩)
        · refine .inl ⟨hmem, ?_⟩
          rw [hrt]
          simp
        · exact absurd hkubo' hkubo

/-- **A delete takes both capabilities exactly where** the caller, past the CRUD gate and with
something to delete, is granted both of them or none. -/
theorem deleteGated_iff (hasks : AsksDelete env message name) :
    DeleteGated env message name w ↔
      (PassesCrudGate env w.rt message.from → Removable env name w →
        (HoldsCap env w message.from "delete" ↔ HoldsCap env w message.from "entities")) := by
  unfold DeleteGated
  rw [removes_iff hasks, Privileged, checkFullNoGroups_or]
  constructor
  · intro h hgate hthere
    exact ⟨fun hdelete => (h ⟨⟨hgate, .inl hdelete⟩, hthere⟩).2,
      fun hentities => (h ⟨⟨hgate, .inr hentities⟩, hthere⟩).1⟩
  · rintro h ⟨⟨hgate, hdelete | hentities⟩, hthere⟩
    · exact ⟨hdelete, (h hgate hthere).mp hdelete⟩
    · exact ⟨(h hgate hthere).mpr hentities, hentities⟩

end Gate

/-! ## A gardener -/

/-- The garden, with another principal who may use CRUD and hold `delete`. -/
def prunerStart : World where
  rt :=
    { gardenStart.rt with
      rootAcl := (∅ : AclMap).insert "did:ma:mallory" (.allow (.ofList ["crud", "delete"])) }
  io := gardenStart.io

/-- That principal deletes the rose. -/
def pruneRose : Message := crudMessage "did:ma:mallory" ":delete" (.text ":entities.rose")

set_option maxRecDepth 100000

/-- The owner is granted both capabilities, and the delete takes the rose away. -/
theorem deleteGated_iff_rose :
    Removes gardenTables.env (deleteMessage "rose") "rose" gardenStart ∧
      DeleteGated gardenTables.env (deleteMessage "rose") "rose" gardenStart := by
  have hasks : AsksDelete gardenTables.env (deleteMessage "rose") "rose" := by
    unfold AsksDelete
    decide +kernel
  refine ⟨.inl (by decide +kernel), (deleteGated_iff hasks).mpr fun _ _ => iff_of_true ?_ ?_⟩
  · unfold HoldsCap
    decide +kernel
  · unfold HoldsCap
    decide +kernel

/-- **With `delete` alone the rose is deleted**: `check_full` refuses the caller for `entities`. -/
theorem delete_alone_deletes :
    Removes gardenTables.env pruneRose "rose" prunerStart ∧
      HoldsCap gardenTables.env prunerStart "did:ma:mallory" "delete" ∧
      ¬ HoldsCap gardenTables.env prunerStart "did:ma:mallory" "entities" ∧
      ¬ DeleteGated gardenTables.env pruneRose "rose" prunerStart := by
  have hremoves : Removes gardenTables.env pruneRose "rose" prunerStart :=
    .inl (by decide +kernel)
  have hentities : ¬ HoldsCap gardenTables.env prunerStart "did:ma:mallory" "entities" := by
    unfold HoldsCap
    decide +kernel
  refine ⟨hremoves, ?_, hentities, fun h => hentities (h hremoves).2⟩
  unfold HoldsCap
  decide +kernel

end MaRuntime
