import Mathlib.Data.List.Forall2
import Triage.Schema.Field

/-!
# Checks read backwards

What is known of a value once a check has accepted it: the checks are put together from parts, and
each lemma here takes one way of putting them together apart again.

A check ends in one of three ways, and the third of them, a count that is too large, belongs to
regular expressions alone. `Decides` says that a check never ends so. It is closed under everything
that checks are put together with, and the checks of plain values have it.
-/

namespace Triage

open Schema

/-- A chain fails where its first part does, or where the rest does with what that gives. -/
theorem bind_eq_error_iff {ε α β : Type} {x : Except ε α} {f : α → Except ε β} {e : ε} :
    x >>= f = .error e ↔ x = .error e ∨ ∃ a, x = .ok a ∧ f a = .error e := by
  cases x with
  | error e' => simp [bind, Except.bind]
  | ok a => simp [bind, Except.bind]

/-- A chain succeeds exactly where all of its parts do. -/
theorem bind_eq_ok_iff {ε α β : Type} {x : Except ε α} {f : α → Except ε β} {b : β} :
    x >>= f = .ok b ↔ ∃ a, x = .ok a ∧ f a = .ok b := by
  cases x with
  | error e => simp [bind, Except.bind]
  | ok a => simp [bind, Except.bind]

/-- A computation whose result is changed has a result. -/
theorem ok_of_map {ε α β : Type} {x : Except ε α} {f : α → β} {b : β} (h : x.map f = .ok b) :
    ∃ a, x = .ok a ∧ f a = b := by
  cases x with
  | error e => cases h
  | ok a => exact ⟨a, rfl, Except.ok.inj h⟩

theorem ok_of_toOption {ε α : Type} {x : Except ε α} {a : α} (h : x.toOption = some a) :
    x = .ok a := by
  cases x with
  | error e => cases h
  | ok b => rw [Option.some.inj h]

section MapError

variable {ε ε' α : Type} {x : Except ε α} {f : ε → ε'} {a : α}

theorem mapError_ok (f : ε → ε') (a : α) : (Except.ok a).mapError f = .ok a := rfl

theorem mapError_error (f : ε → ε') (e : ε) :
    (Except.error e : Except ε α).mapError f = .error (f e) := rfl

theorem mapError_eq_ok_iff : x.mapError f = .ok a ↔ x = .ok a := by
  cases x with
  | error e => simp [mapError_error]
  | ok b => simp [mapError_ok]

theorem mapError_eq_error_iff {e : ε'} :
    x.mapError f = .error e ↔ ∃ e', x = .error e' ∧ f e' = e := by
  cases x with
  | error e' => simp [mapError_error]
  | ok b => simp [mapError_ok]

end MapError

namespace Checked

variable {α β : Type} {step : Step}

theorem map_eq_valid_iff {f : α → β} {x : Checked α} {b : β} :
    f <$> x = valid b ↔ ∃ a, x = valid a ∧ f a = b := by
  cases x with
  | valid a => simp
  | invalid issues => simp [Functor.map, map]
  | countTooLarge => simp [Functor.map, map]

theorem under_eq_valid_iff {x : Checked α} {a : α} : x.under step = valid a ↔ x = valid a := by
  cases x <;> simp [under]

theorem andThen_eq_valid_iff {x : Checked α} {f : α → Checked β} {b : β} :
    x.andThen f = valid b ↔ ∃ a, x = valid a ∧ f a = valid b := by
  cases x <;> simp [andThen]

/-- The value, if it is accepted. -/
def toOption : Checked α → Option α
  | valid a => some a
  | _ => none

theorem toOption_eq_some_iff {x : Checked α} {a : α} : x.toOption = some a ↔ x = valid a := by
  cases x <;> simp [toOption]

theorem exists_of_isValid {x : Checked α} (h : x.isValid = true) : ∃ a, x = valid a := by
  cases x with
  | valid a => exact ⟨a, rfl⟩
  | invalid issues => cases h
  | countTooLarge => cases h

theorem isValid_of_eq {x : Checked α} {a : α} (h : x = valid a) : x.isValid = true := by
  rw [h]
  rfl

/-! ## Checks that stop -/

theorem map_eq_countTooLarge_iff {f : α → β} {x : Checked α} :
    f <$> x = countTooLarge ↔ x = countTooLarge := by
  cases x <;> simp [Functor.map, map]

/-- A combination stops where one of its parts does, whatever the issues of the other are. -/
theorem seq_eq_countTooLarge_iff {f : Checked (α → β)} {x : Checked α} :
    f <*> x = countTooLarge ↔ f = countTooLarge ∨ x = countTooLarge := by
  cases f <;> cases x <;> simp [Seq.seq, seq]

theorem under_eq_countTooLarge_iff {x : Checked α} :
    x.under step = countTooLarge ↔ x = countTooLarge := by
  cases x <;> simp [under]

theorem andThen_eq_countTooLarge_iff {x : Checked α} {f : α → Checked β} :
    x.andThen f = countTooLarge ↔
      x = countTooLarge ∨ ∃ a, x = valid a ∧ f a = countTooLarge := by
  cases x <;> simp [andThen]

/-! ## Checks that decide -/

/-- A check that accepts or refuses its value and does not stop before it has done so. -/
def Decides (x : Checked α) : Prop := x ≠ countTooLarge

theorem decides_valid (a : α) : Decides (valid a) := by simp [Decides]

theorem decides_fault (cause : Cause) : Decides (fault cause : Checked α) := by
  simp [Decides, fault]

theorem decides_map {x : Checked α} (hx : Decides x) (f : α → β) : Decides (f <$> x) :=
  fun h => hx (map_eq_countTooLarge_iff.mp h)

theorem decides_seq {f : Checked (α → β)} {x : Checked α} (hf : Decides f) (hx : Decides x) :
    Decides (f <*> x) :=
  fun h => (seq_eq_countTooLarge_iff.mp h).elim hf hx

theorem decides_under {x : Checked α} (hx : Decides x) (step : Step) :
    Decides (x.under step) :=
  fun h => hx (under_eq_countTooLarge_iff.mp h)

theorem decides_andThen {x : Checked α} {f : α → Checked β} (hx : Decides x)
    (hf : ∀ a, Decides (f a)) : Decides (x.andThen f) := by
  intro h
  rcases andThen_eq_countTooLarge_iff.mp h with h | ⟨a, -, h⟩
  · exact hx h
  · exact hf a h

end Checked

namespace Schema

open Checked

variable {α : Type} {r : Record} {name : String} {check : Json → Checked α} {a : α}

/-! ## Fields -/

theorem required_eq_valid_iff :
    required r name check = valid a ↔ ∃ v, r.get? name = some v ∧ check v = valid a := by
  rw [required]
  cases r.get? name with
  | none => simp [under, fault]
  | some v => simp [under_eq_valid_iff]

theorem withDefault_eq_valid_iff {default : α} :
    withDefault r name default check = valid a ↔
      (∃ v, r.get? name = some v ∧ check v = valid a) ∨ (r.get? name = none ∧ default = a) := by
  rw [withDefault]
  cases r.get? name with
  | none => simp
  | some v => simp [under_eq_valid_iff]

theorem required_of_get? {v : Json} (hv : r.get? name = some v) (h : check v = valid a) :
    required r name check = valid a :=
  required_eq_valid_iff.mpr ⟨v, hv, h⟩

theorem withDefault_of_get? {default : α} {v : Json} (hv : r.get? name = some v)
    (h : check v = valid a) : withDefault r name default check = valid a :=
  withDefault_eq_valid_iff.mpr (.inl ⟨v, hv, h⟩)

/-- A field is checked as it is found, whatever the record is besides. -/
theorem required_congr {r' : Record} (h : r'.get? name = r.get? name) :
    required r' name check = required r name check := by
  rw [required, required, h]

theorem withDefault_congr {default : α} {r' : Record} (h : r'.get? name = r.get? name) :
    withDefault r' name default check = withDefault r name default check := by
  rw [withDefault, withDefault, h]

theorem nonEmptyText_eq_valid_iff {v : Json} {s : { s : String // s ≠ "" }} :
    nonEmptyText v = valid s ↔ v = .string s.val := by
  cases v with
  | string t =>
      rw [nonEmptyText]
      split
      · rw [Checked.valid.injEq, Json.string.injEq, Subtype.ext_iff]
      · rename_i ht
        have hts : t ≠ s.val := fun h => ht (h ▸ s.property)
        simp [fault, hts]
  | _ => simp [nonEmptyText, fault]

/-- A list is accepted element by element. -/
theorem forall₂_of_listOf {v : Json} {items : List α} (h : listOf check v = valid items) :
    ∃ values, v = .array values ∧ List.Forall₂ (fun w a => check w = valid a) values items := by
  cases v with
  | array values =>
      refine ⟨values, rfl, ?_⟩
      rw [listOf] at h
      revert h
      generalize 0 = i
      induction values generalizing items i with
      | nil =>
          rintro ⟨rfl⟩
          exact .nil
      | cons w rest ih =>
          intro h
          simp only [elementsFrom, seq_eq_valid_iff, map_eq_valid_iff, under_eq_valid_iff] at h
          obtain ⟨_, tail, ⟨a, ha, rfl⟩, htail, rfl⟩ := h
          exact .cons ha (ih _ htail)
  | _ => cases h

/-- A number that is accepted between two others lies between them. -/
theorem le_of_numberBetween {low high x : Binary64} {v : Json}
    (h : numberBetween low high v = valid x) : low.le x = true ∧ x.le high = true := by
  rw [numberBetween, andThen_eq_valid_iff] at h
  obtain ⟨y, _, h⟩ := h
  split at h
  · cases h
  · split at h
    · cases h
    · rename_i hhigh hlow
      obtain rfl := Checked.valid.inj h
      exact ⟨by simpa using hlow, by simpa using hhigh⟩

theorem lt_of_numberAbove {low x : Binary64} {v : Json} (h : numberAbove low v = valid x) :
    low.lt x = true := by
  rw [numberAbove, andThen_eq_valid_iff] at h
  obtain ⟨y, -, h⟩ := h
  split at h
  · rename_i hlow
    obtain rfl := Checked.valid.inj h
    exact hlow
  · cases h

/-! ## Plain values -/

theorem decides_required (hc : ∀ v, Decides (check v)) : Decides (required r name check) := by
  rw [required]
  cases r.get? name with
  | none => exact decides_under (decides_fault _) _
  | some v => exact decides_under (hc v) _

theorem decides_withDefault (default : α) (hc : ∀ v, Decides (check v)) :
    Decides (withDefault r name default check) := by
  rw [withDefault]
  cases r.get? name with
  | none => exact decides_valid default
  | some v => exact decides_under (hc v) _

theorem decides_optional (hc : ∀ v, Decides (check v)) (v : Json) :
    Decides (optional check v) := by
  cases v with
  | null => exact decides_valid none
  | _ => exact decides_map (hc _) some

/-- A list stops a check where one of its elements does. -/
theorem listOf_eq_countTooLarge_iff {v : Json} :
    listOf check v = countTooLarge ↔
      ∃ items, v = .array items ∧ ∃ item ∈ items, check item = countTooLarge := by
  cases v with
  | array items =>
      have helements (i : Nat) : elementsFrom check i items = countTooLarge ↔
          ∃ item ∈ items, check item = countTooLarge := by
        induction items generalizing i with
        | nil => simp [elementsFrom]
        | cons item rest ih =>
            rw [elementsFrom, seq_eq_countTooLarge_iff, map_eq_countTooLarge_iff,
              under_eq_countTooLarge_iff, ih]
            simp only [List.mem_cons, exists_eq_or_imp]
      simp [listOf, helements]
  | _ => simp [listOf, fault]

theorem decides_listOf (hc : ∀ v, Decides (check v)) (v : Json) : Decides (listOf check v) := by
  intro h
  obtain ⟨items, -, item, -, hitem⟩ := listOf_eq_countTooLarge_iff.mp h
  exact hc item hitem

theorem decides_membersOf (hc : ∀ v, Decides (check v)) (fields : List (String × Json)) :
    Decides (membersOf check fields) := by
  induction fields with
  | nil => exact decides_valid []
  | cons field rest ih =>
      exact decides_seq (decides_map (decides_map (decides_under (hc field.2) _) _) _) ih

theorem decides_mapOf (hc : ∀ v, Decides (check v)) (v : Json) : Decides (mapOf check v) := by
  cases v with
  | object fields => exact decides_membersOf hc fields
  | _ => exact decides_fault _

theorem decides_text (v : Json) : Decides (text v) := by
  cases v with
  | string s => exact decides_valid s
  | _ => exact decides_fault _

theorem decides_nonEmptyText (v : Json) : Decides (nonEmptyText v) := by
  cases v with
  | string s =>
      rw [nonEmptyText]
      split
      · exact decides_valid _
      · exact decides_fault _
  | _ => exact decides_fault _

theorem decides_number (v : Json) : Decides (number v) := by
  unfold number
  split
  · exact decides_valid _
  · dsimp only
    split
    · exact decides_valid _
    · exact decides_fault _
  · exact decides_valid _
  · split
    · exact decides_valid _
    · exact decides_fault _
  · exact decides_fault _

theorem decides_numberBetween (low high : Binary64) (v : Json) :
    Decides (numberBetween low high v) := by
  refine decides_andThen (decides_number v) fun x => ?_
  split
  · exact decides_fault _
  · split
    · exact decides_fault _
    · exact decides_valid x

end Schema
end Triage
