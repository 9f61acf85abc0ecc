import Triage.Extraction
import Triage.Json.Reader
import Triage.Completion
import Triage.Proofs.Schema

/-!
# Names and values of records

What is found under a name once records have been put together: a name set, a default given, one
record laid on another or put behind it. A record that is laid on another one counts with the last
value of a name, and a lookup in it with the first. The two agree where no name is given twice
(`get?_overlay`), and in what is read or captured none is (`Json.nodup_of_parseChars`,
`Extraction.nodup_of_apply`).
-/

namespace Triage

namespace Record

variable {r base upper : Record} {name other : String} {value : Json}

theorem names_cons (field : String × Json) (rest : Record) :
    names (field :: rest) = field.1 :: rest.names := rfl

theorem get?_eq_none_iff : r.get? name = none ↔ name ∉ r.names := by
  induction r with
  | nil => simp [names]
  | cons field rest ih =>
      rw [get?_cons, names_cons, List.mem_cons, not_or]
      by_cases h : name = field.1
      · rw [if_pos h]
        exact ⟨fun hsome => absurd hsome (Option.some_ne_none _), fun hne => absurd h hne.1⟩
      · rw [if_neg h, ih]
        exact ⟨fun hrest => ⟨h, hrest⟩, And.right⟩

theorem mem_names_iff : name ∈ r.names ↔ r.get? name ≠ none := by
  rw [ne_eq, get?_eq_none_iff, Decidable.not_not]

/-- A value other than null is there. -/
theorem get?_of_getD (h : r.getD name = value) (hv : value.isNull = false) :
    r.get? name = some value := by
  rw [getD] at h
  cases hname : r.get? name with
  | none =>
      rw [hname] at h
      subst h
      cases hv
  | some w =>
      rw [hname] at h
      exact congrArg some h

/-- Setting a name puts it at the end unless it is there. -/
theorem names_set (r : Record) (name : String) (value : Json) :
    (r.set name value).names = if name ∈ r.names then r.names else r.names ++ [name] := by
  induction r with
  | nil => rfl
  | cons field rest ih =>
      rw [set, names_cons]
      by_cases h : field.1 = name
      · rw [if_pos h, names_cons, if_pos (h ▸ List.mem_cons_self), h]
      · rw [if_neg h, names_cons, ih]
        by_cases hmem : name ∈ names rest
        · rw [if_pos hmem, if_pos (List.mem_cons_of_mem _ hmem)]
        · rw [if_neg hmem, if_neg (List.not_mem_cons_of_ne_of_not_mem (Ne.symm h) hmem),
            List.cons_append]

theorem nodup_nil : (names []).Nodup := .nil

theorem nodup_set (h : r.names.Nodup) (name : String) (value : Json) :
    (r.set name value).names.Nodup := by
  rw [names_set]
  split
  · exact h
  · rename_i hmem
    refine List.nodup_append.mpr ⟨h, List.nodup_cons.mpr ⟨List.not_mem_nil, .nil⟩, ?_⟩
    rintro a ha b hb rfl
    exact hmem (List.mem_singleton.mp hb ▸ ha)

theorem get?_setDefault (r : Record) (name : String) (value : Json) (other : String) :
    (r.setDefault name value).get? other =
      if other = name then some ((r.get? name).getD value) else r.get? other := by
  rw [setDefault, has]
  cases h : r.get? name with
  | none =>
      rw [Option.isSome_none, if_neg (by decide), get?_set]
      rfl
  | some v =>
      rw [Option.isSome_some, if_pos rfl]
      split
      · rename_i heq
        rw [heq, h]
        rfl
      · rfl

theorem getD_set (r : Record) (name : String) (value : Json) (other : String) :
    (r.set name value).getD other = if other = name then value else r.getD other := by
  rw [getD, get?_set]
  split <;> rfl

/-- A default of null is as good as none. -/
theorem getD_setDefault_null (r : Record) (name other : String) :
    (r.setDefault name .null).getD other = r.getD other := by
  rw [getD, get?_setDefault]
  split
  · rename_i heq
    rw [heq]
    rfl
  · rfl

/-- The record in front counts. -/
theorem get?_append (r r' : Record) (name : String) :
    (r ++ r' : Record).get? name = (r.get? name).or (r'.get? name) := by
  induction r with
  | nil => rfl
  | cons field rest ih =>
      rw [List.cons_append, get?_cons, get?_cons, ih]
      split <;> rfl

/-- **What is laid on a record counts, the record itself where nothing is.** -/
theorem get?_overlay (h : upper.names.Nodup) (base : Record) (name : String) :
    (base.overlay upper).get? name = (upper.get? name).or (base.get? name) := by
  rw [overlay]
  induction upper generalizing base with
  | nil => rfl
  | cons field rest ih =>
      obtain ⟨hnew, hrest⟩ := List.nodup_cons.mp h
      rw [List.foldl_cons, ih hrest, get?_set, get?_cons]
      by_cases heq : name = field.1
      · -- nothing that is laid on afterwards has this name again
        have hnone : get? rest name = none := get?_eq_none_iff.mpr (heq ▸ hnew)
        rw [hnone, if_pos heq, if_pos heq]
        rfl
      · rw [if_neg heq, if_neg heq]

theorem get?_map (f : Json → Json) (r : Record) (name : String) :
    get? (r.map fun field => (field.1, f field.2)) name = (r.get? name).map f := by
  induction r with
  | nil => rfl
  | cons field rest ih =>
      rw [List.map_cons, get?_cons, get?_cons, ih]
      split <;> rfl

/-- Values set one after another; each of them depends on its name only. -/
theorem get?_foldl_set (value : String → Json) (names : List String) (r : Record)
    (name : String) :
    (names.foldl (fun r name => r.set name (value name)) r).get? name =
      if name ∈ names then some (value name) else r.get? name := by
  induction names generalizing r with
  | nil => rfl
  | cons other rest ih =>
      rw [List.foldl_cons, ih, get?_set]
      by_cases hrest : name ∈ rest
      · rw [if_pos hrest, if_pos (List.mem_cons_of_mem other hrest)]
      · by_cases heq : name = other
        · rw [if_neg hrest, if_pos heq, if_pos (heq ▸ List.mem_cons_self), heq]
        · rw [if_neg hrest, if_neg heq, if_neg (List.not_mem_cons_of_ne_of_not_mem heq hrest)]

/-- Setting values one after another gives no name twice. -/
theorem nodup_foldl_set {α : Type} (key : α → String) (value : α → Json) (items : List α)
    (h : r.names.Nodup) :
    (items.foldl (fun r item => r.set (key item) (value item)) r).names.Nodup := by
  induction items generalizing r with
  | nil => exact h
  | cons item rest ih => exact ih (nodup_set h (key item) (value item))

/-- Fields are left out of a record under their names. -/
theorem get?_filter (h : r.names.Nodup) (keep : Json → Bool) (name : String) :
    get? (r.filter fun field => keep field.2) name = (r.get? name).filter keep := by
  induction r with
  | nil => rfl
  | cons field rest ih =>
      obtain ⟨hnew, hrest⟩ := List.nodup_cons.mp h
      rw [get?_cons]
      cases hkeep : keep field.2 with
      | true =>
          rw [List.filter_cons_of_pos (by simpa using hkeep), get?_cons, ih hrest]
          split <;> simp [Option.filter, hkeep]
      | false =>
          rw [List.filter_cons_of_neg (by simp [hkeep]), ih hrest]
          split
          · rename_i heq
            rw [get?_eq_none_iff.mpr (heq ▸ hnew)]
            simp [Option.filter, hkeep]
          · rfl

end Record

namespace Json

/-- **Reading never gives one name twice.** -/
theorem nodup_of_members {spell : List Text.Point → String} {fuel : Nat} {done fields : Record}
    {s rest : List Char} (hdone : done.names.Nodup) (h : members spell fuel done s = .ok (fields, rest)) :
    fields.names.Nodup := by
  induction fuel generalizing done s with
  | zero => cases h
  | succ fuel ih =>
      unfold members at h
      split at h
      · obtain ⟨⟨key, afterKey⟩, -, h⟩ := bind_eq_ok_iff.mp h
        dsimp only at h
        split at h
        · obtain ⟨⟨v, afterValue⟩, -, h⟩ := bind_eq_ok_iff.mp h
          dsimp only at h
          have hset := Record.nodup_set hdone (spell key) v
          split at h
          · cases h
            exact hset
          · exact ih hset h
          · cases h
        · cases h
      · cases h

/-- A number is no object. -/
theorem number_ne_object {s rest : List Char} {fields : Record} :
    number s ≠ .ok (.object fields, rest) := by
  intro h
  unfold number at h
  split at h
  extract_lets whole unread fraction n at h
  split at h
  · cases h
  · split at h
    extract_lets power at h
    split at h
    split at h
    · cases h
    · split at h <;> cases h

theorem nodup_of_value {spell : List Text.Point → String} {fuel : Nat} {fields : Record}
    {s rest : List Char} (h : value spell fuel s = .ok (.object fields, rest)) : fields.names.Nodup := by
  cases fuel with
  | zero => cases h
  | succ fuel =>
      rw [value.eq_def] at h
      dsimp only at h
      split at h
      case h_1 =>
        obtain ⟨_, -, heq⟩ := ok_of_map h
        cases heq
      case h_2 =>
        split at h
        · cases h
          exact .nil
        · obtain ⟨_, hmembers, heq⟩ := ok_of_map h
          cases heq
          exact nodup_of_members Record.nodup_nil hmembers
      case h_3 =>
        split at h
        · cases h
        · obtain ⟨_, -, heq⟩ := ok_of_map h
          cases heq
      case h_10 => exact absurd h number_ne_object
      all_goals cases h

theorem nodup_of_parseChars {s : List Char} {fields : Record}
    (h : parseChars s = .ok (.object fields)) : fields.names.Nodup := by
  have hdocument : parseDocument s = .ok (.object fields) := by
    unfold parseChars at h
    split at h
    · split at h
      · cases h
      · exact h
    · exact h
  obtain ⟨⟨v, rest⟩, hvalue, h⟩ := bind_eq_ok_iff.mp hdocument
  dsimp only at h
  split at h
  · cases h
    exact nodup_of_value hvalue
  · cases h

end Json

namespace Extraction

variable {capture : Nat → Option String} {fields captured : Record} {text : String}

theorem nodup_of_collect {groups : List (String × Nat)} {r : Record} (hr : r.names.Nodup)
    (h : collect capture groups r = .ok fields) : fields.names.Nodup := by
  induction groups generalizing r with
  | nil => exact Except.ok.inj h ▸ hr
  | cons group rest ih =>
      rw [collect] at h
      split at h
      · exact ih hr h
      · obtain ⟨v, -, h⟩ := bind_eq_ok_iff.mp h
        exact ih (Record.nodup_set hr _ _) h

/-- **A pattern captures no field twice.** -/
theorem nodup_of_apply {p : PatternSpec} (h : apply p text = .ok (some captured)) :
    captured.names.Nodup := by
  rw [apply] at h
  split at h
  · cases h
  · obtain ⟨named, hnamed, h⟩ := bind_eq_ok_iff.mp h
    obtain ⟨all, hall, h⟩ := bind_eq_ok_iff.mp h
    cases h
    exact nodup_of_collect (nodup_of_collect Record.nodup_nil hnamed) hall

/-- A name that is null or absent holds its fallback, if it has one. -/
theorem get?_fill {fallbacks : Record} (h : fallbacks.names.Nodup) (r : Record) (name : String) :
    (fill fallbacks r).get? name =
      if (r.getD name).isNull then (fallbacks.get? name).or (r.get? name) else r.get? name := by
  rw [fill]
  induction fallbacks generalizing r with
  | nil =>
      rw [List.foldl_nil, Record.get?_nil, Option.none_or, ite_self]
  | cons field rest ih =>
      obtain ⟨hnew, hrest⟩ := List.nodup_cons.mp h
      rw [List.foldl_cons, ih hrest, Record.get?_cons]
      by_cases hname : name = field.1
      · -- no other fallback has this name
        have hnone : Record.get? rest name = none := Record.get?_eq_none_iff.mpr (hname ▸ hnew)
        rw [hnone, if_pos hname, Option.none_or, ite_self, Option.some_or, ← hname]
        split
        · rw [Record.get?_set, if_pos rfl]
        · rfl
      · have hget : Record.get? (if (r.getD field.1).isNull then r.set field.1 field.2 else r) name =
            r.get? name := by
          split
          · rw [Record.get?_set, if_neg hname]
          · rfl
        rw [Record.getD, hget, if_neg hname, ← Record.getD]

end Extraction
end Triage
