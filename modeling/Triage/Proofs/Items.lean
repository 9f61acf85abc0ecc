import Triage.Config.Basic
import Triage.Proofs.Cutting

/-!
# The items of a list separated by commas

An item of a list is what a cell between commas holds between the space at its own ends, where that
is anything (`Config.IsItem`). So all that counts is which items there are (`Config.mem_items_iff`):
neither the space around them nor empty cells do, nor in which order or how often items stand there.
-/

namespace Triage

namespace Config

variable {x s : String}

/-- The text is what a cell between commas holds, without the space at its ends. -/
structure IsItem (x s : String) : Prop where
  ne : x ≠ ""
  held : ∃ cell, Text.IsCell ',' s.toList cell ∧ Text.IsTrimOf cell x.toList

theorem mem_items_iff : x ∈ items s ↔ IsItem x s := by
  have hchars (hx : x ≠ "") (cell : List Char) :
      Text.trim (String.ofList cell) = x ↔ Text.IsTrimOf cell x.toList := by
    rw [← Text.trimChars_eq_iff (by simpa using hx), Text.trim, String.toList_ofList]
    exact ⟨fun h => by rw [← h, String.toList_ofList], fun h => by rw [h, String.ofList_toList]⟩
  simp only [items, Text.split, List.mem_filter, List.mem_map, decide_not, Bool.not_eq_true',
    decide_eq_false_iff_not, exists_exists_and_eq_and, Text.mem_splitChars_iff]
  constructor
  · rintro ⟨⟨cell, hcell, htrim⟩, hx⟩
    exact ⟨hx, cell, hcell, (hchars hx cell).mp htrim⟩
  · rintro ⟨hx, cell, hcell, htrim⟩
    exact ⟨⟨cell, hcell, (hchars hx cell).mpr htrim⟩, hx⟩

/-- **The alert types that are never returned are the items of the setting.** -/
theorem mem_denylist_iff {c : Config} : x ∈ c.denylist ↔ IsItem x c.disabledAlertTypes := by
  rw [denylist, List.mem_eraseDups, mem_items_iff]

example : (items " b,, a ,b,").eraseDups = ["b", "a"] := by decide +kernel

end Config

end Triage
