import Triage.Proofs.Captured
import Triage.Proofs.Completion
import Triage.Proofs.Provenance
import Triage.Proofs.Restatement

/-!
# How a completion is layered

A completed alert has two sources. What the model has supplied comes first; what it has left null or
absent comes from the defaults of the policy, made over as the field asks for (`Alert.Becomes`). Two
fields are settled by neither: the type is the policy's, and the method says that a model was asked.

A completion fails where a default is not what its field asks for, and only there
(`Completion.merge_ok_iff`). The values of the model's alert have been checked once, and a value that
has been checked is accepted again as it is; so the blame is always with the policy.
-/

namespace Triage

open Schema Checked

/-! ## Looking a field up and checking it -/

namespace Schema

variable {α : Type} {r : Record} {name : String} {check : Json → Checked α} {x : α} {o : Option α}

end Schema

namespace Alert

variable {r : Record} {a : Alert} {name : String} {v w w' : Json}

/-! ## The fields that can be left open -/

/-- The declared fields that an alert never leaves open. -/
def settledNames : List String :=
  pinnedNames ++ ["metric_labels", "confidence", "missing_fields"]

/-- All others ask for a text or for a number. -/
theorem mem_open_iff : (name ∈ declaredNames ∧ name ∉ settledNames) ↔
    name ∈ textNames ++ numberNames := by
  constructor
  · rintro ⟨hdeclared, hsettled⟩
    have hopen : ∀ name ∈ declaredNames, name ∉ settledNames → name ∈ textNames ++ numberNames := by
      decide +kernel
    exact hopen name hdeclared hsettled
  · have hopen : ∀ name ∈ textNames ++ numberNames,
        name ∈ declaredNames ∧ name ∉ settledNames := by decide +kernel
    exact hopen name

/-- What a field that is not settled holds once a value for it has been checked: texts and null
stay, numbers may be made of other values, and undeclared fields hold what they are given. -/
inductive Becomes : String → Json → Json → Prop where
  | text {name : String} {v : Json} {o : Option String} : name ∈ textNames →
      optional text v = .valid o → Becomes name v (textOrNull o)
  | number {name : String} {v : Json} {o : Option Binary64} : name ∈ numberNames →
      optional number v = .valid o → Becomes name v (numberOrNull o)
  | extra {name : String} {v : Json} : name ∉ declaredNames → Becomes name v v

theorem declared_of_text (h : name ∈ textNames) : name ∈ declaredNames :=
  (mem_open_iff.mpr (List.mem_append_left _ h)).1

theorem declared_of_number (h : name ∈ numberNames) : name ∈ declaredNames :=
  (mem_open_iff.mpr (List.mem_append_right _ h)).1

theorem text_of_becomes (hname : name ∈ textNames) (h : Becomes name v w) :
    ∃ o, optional text v = .valid o ∧ w = textOrNull o := by
  cases h with
  | text _ ho => exact ⟨_, ho, rfl⟩
  | number hnumber => exact absurd hnumber (not_mem_numberNames hname)
  | extra hextra => exact absurd (declared_of_text hname) hextra

theorem number_of_becomes (hname : name ∈ numberNames) (h : Becomes name v w) :
    ∃ o, optional number v = .valid o ∧ w = numberOrNull o := by
  cases h with
  | text htext => exact absurd hname (not_mem_numberNames htext)
  | number _ ho => exact ⟨_, ho, rfl⟩
  | extra hextra => exact absurd (declared_of_number hname) hextra

/-- A value becomes one thing at most. -/
theorem Becomes.unique (h : Becomes name v w) (h' : Becomes name v w') : w = w' := by
  cases h with
  | text hname ho =>
      obtain ⟨o', ho', rfl⟩ := text_of_becomes hname h'
      rw [Checked.valid.inj (ho.symm.trans ho')]
  | number hname ho =>
      obtain ⟨o', ho', rfl⟩ := number_of_becomes hname h'
      rw [Checked.valid.inj (ho.symm.trans ho')]
  | extra hname =>
      cases h' with
      | text htext => exact absurd (declared_of_text htext) hname
      | number hnumber => exact absurd (declared_of_number hnumber) hname
      | extra => rfl

end Alert

namespace Completion

open Alert

variable {policy : Policy} {alert merged : Alert} {name : String} {r : Record} {v : Json}

/-! ## The record of a completion -/

theorem get?_record_method (policy : Policy) (alert : Alert) :
    (record policy alert).get? "parse_method" = some (.string ParseMethod.model.word) := by
  rw [record, Record.get?_set, if_pos rfl]

end Completion
end Triage
