import Triage.Proofs.Alert
import Triage.Proofs.Record

/-!
# What is present in an alert

Checking a record makes values over: a text may become a number, and a field that is absent becomes
null. It makes nothing blank, though, and nothing appears. A field of the alert is null or blank
exactly where the record's is (`Alert.isVoid_fields`).
-/

namespace Triage

namespace Text

theorem ne_of_isSpace {c d : Char} (h : isSpace c = true) (hd : isSpace d = false) : c ≠ d := by
  rintro rfl
  rw [h] at hd
  cases hd

/-- Space is neither a digit nor a letter. -/
theorem plain_of_isSpace {c : Char} (h : isSpace c = true) :
    isAsciiDigit c = false ∧ asciiLowerPoint c.toNat = c.toNat := by
  simp only [isSpace, isSpacePoint, isBlankPoint, isAsciiDigit, isAsciiDigitPoint,
    asciiLowerPoint] at h ⊢
  grind

end Text

namespace Numeral

open Text

variable {s : List Char}

/-- Nothing but space is no number. -/
theorem number?_of_forall_isSpace (h : ∀ c ∈ s, isSpace c = true) : number? s = none := by
  cases s with
  | nil => decide
  | cons c rest =>
      have hc := h c List.mem_cons_self
      obtain ⟨hdigit, hlower⟩ := plain_of_isSpace hc
      have hword (d : Char) (word : List Char) (hd : isSpace d = false) :
          (c :: rest).map (fun c => Char.ofNat (asciiLowerPoint c.toNat)) ≠ d :: word := by
        rw [List.map_cons, hlower, Char.ofNat_toNat]
        exact fun heq => ne_of_isSpace hc hd (List.cons.inj heq).1
      have hunsigned : unsigned? (c :: rest) = none := by
        have htake : (c :: rest).takeWhile isAsciiDigit = [] :=
          List.takeWhile_cons_of_neg (by simp [hdigit])
        have hdrop : (c :: rest).dropWhile isAsciiDigit = c :: rest :=
          List.dropWhile_cons_of_neg (by simp [hdigit])
        have hpoint : c ≠ '.' := ne_of_isSpace hc (by decide)
        simp [unsigned?, htake, hdrop, hpoint]
      have hmagnitude : magnitude? false (c :: rest) = none := by
        rw [magnitude?]
        dsimp only
        rw [if_neg, if_neg, hunsigned]
        · rfl
        · exact hword 'n' ['a', 'n'] (by decide)
        · rintro (heq | heq)
          · exact hword 'i' ['n', 'f'] (by decide) heq
          · exact hword 'i' ['n', 'f', 'i', 'n', 'i', 't', 'y'] (by decide) heq
      unfold number?
      split
      · rename_i heq
        exact absurd (List.cons.inj heq).1 (ne_of_isSpace hc (by decide))
      · rename_i heq
        exact absurd (List.cons.inj heq).1 (ne_of_isSpace hc (by decide))
      · exact hmagnitude

theorem given?_of_isBlankText {s : String} (h : isBlankText s = true) : given? s = none := by
  rw [isBlankText, List.all_eq_true] at h
  have hsublist : ∀ c ∈ dropEndWhile isBlank (s.toList.dropWhile isBlank), isSpace c = true := by
    intro c hc
    rw [dropEndWhile, List.mem_reverse] at hc
    have := (List.dropWhile_sublist _).mem hc
    exact h c ((List.dropWhile_sublist _).mem (List.mem_reverse.mp this))
  have hline : ungrouped? s.toList = none := by
    rw [ungrouped?, if_neg]
    rintro ⟨hmem, -⟩
    exact ne_of_isSpace (h _ hmem) (by decide) rfl
  rw [given?, number?_of_forall_isSpace hsublist, hline]
  rfl

end Numeral

open Schema Checked

namespace Alert

variable {r : Record} {a : Alert} {name : String}

/-- The fields of an alert are the declared ones and behind them those kept besides. -/
theorem fields_eq_append (a : Alert) :
    ∃ declared : Record, a.fields = declared ++ a.extras ∧ declared.names = declaredNames :=
  ⟨_, rfl, by simp [Record.names, declaredNames, mainNames, Function.comp_def]⟩

theorem names_fields (a : Alert) : a.fields.names = declaredNames ++ a.extras.names := by
  obtain ⟨declared, hfields, hnames⟩ := fields_eq_append a
  rw [hfields, ← hnames, Record.names, List.map_append]
  rfl

/-! ## Values that a check makes over -/

theorem textOrNull_of_optional {v : Json} {o : Option String} (h : optional text v = .valid o) :
    textOrNull o = v := by
  cases v with
  | null => cases h; rfl
  | string t => cases h; rfl
  | _ => cases h

theorem textOrNull_of_required {o : Option String}
    (h : required r name (optional text) = .valid o) : textOrNull o = r.getD name := by
  obtain ⟨v, hv, hcheck⟩ := required_eq_valid_iff.mp h
  rw [textOrNull_of_optional hcheck, Record.getD, hv]
  rfl

theorem textOrNull_of_withDefault {o : Option String}
    (h : withDefault r name none (optional text) = .valid o) : textOrNull o = r.getD name := by
  rw [Record.getD]
  rcases withDefault_eq_valid_iff.mp h with ⟨v, hv, hcheck⟩ | ⟨hnone, rfl⟩
  · rw [textOrNull_of_optional hcheck, hv]
    rfl
  · rw [hnone]
    rfl

/-- What is accepted as a number is neither null nor blank. -/
theorem isVoid_of_number {v : Json} {x : Binary64} (h : number v = .valid x) :
    Policy.isVoid v = false := by
  cases v with
  | null => cases h
  | string t =>
      rw [Policy.isVoid]
      cases hblank : Text.isBlankText t with
      | false => rfl
      | true =>
          rw [number, Numeral.given?_of_isBlankText hblank] at h
          cases h
  | _ => rfl

theorem isVoid_of_required {α : Type} {check : Json → Checked α} {x : α}
    (hcheck : ∀ {v}, check v = .valid x → Policy.isVoid v = false)
    (h : required r name check = .valid x) : Policy.isVoid (r.getD name) = false := by
  obtain ⟨v, hv, hx⟩ := required_eq_valid_iff.mp h
  rw [Record.getD, hv]
  exact hcheck hx

theorem isVoid_of_numberBetween {low high x : Binary64} {v : Json}
    (h : numberBetween low high v = .valid x) : Policy.isVoid v = false := by
  obtain ⟨y, hy, -⟩ := andThen_eq_valid_iff.mp h
  exact isVoid_of_number hy

theorem isVoid_of_checkMethod {v : Json} {m : ParseMethod} (h : ParseMethod.check v = .valid m) :
    Policy.isVoid v = false := by
  unfold ParseMethod.check at h
  split at h
  · rename_i word
    split at h
    · rename_i hword
      rw [hword]
      decide
    · split at h
      · rename_i hword
        rw [hword]
        decide
      · cases h
  · cases h

theorem isVoid_of_mapOf {v : Json} {labels : List (String × String)}
    (h : mapOf text v = .valid labels) : Policy.isVoid v = false := by
  cases v with
  | object => rfl
  | _ => cases h

theorem isVoid_of_listOf {v : Json} {items : List String} (h : listOf text v = .valid items) :
    Policy.isVoid v = false := by
  cases v with
  | array => rfl
  | _ => cases h

theorem isVoid_numberOrNull {o : Option Binary64}
    (h : withDefault r name none (optional number) = .valid o) :
    Policy.isVoid (numberOrNull o) = Policy.isVoid (r.getD name) := by
  rw [Record.getD]
  rcases withDefault_eq_valid_iff.mp h with ⟨v, hv, hcheck⟩ | ⟨hnone, rfl⟩
  · rw [hv, Option.getD_some]
    cases v with
    | null => cases hcheck; rfl
    | _ =>
        obtain ⟨x, hx, rfl⟩ := map_eq_valid_iff.mp hcheck
        rw [isVoid_of_number hx]
        rfl
  · rw [hnone]
    rfl

/-- Every detail has been checked on its own. -/
theorem withDefault_of_checkDetails {details : List Detail} {f : Detail → Option String}
    (h : checkDetails r details = .valid f) {d : Detail} (hd : d ∈ details) :
    withDefault r d.name none (optional text) = .valid (f d) := by
  induction details generalizing f with
  | nil => cases hd
  | cons e rest ih =>
      obtain ⟨g, more, hg, hmore, rfl⟩ := seq_eq_valid_iff.mp h
      obtain ⟨value, hvalue, rfl⟩ := map_eq_valid_iff.mp hg
      by_cases heq : d = e
      · subst heq
        simpa using hvalue
      · simpa [heq] using ih hmore ((List.mem_cons.mp hd).resolve_left heq)

/-! ## Fields -/

theorem getD_detail (a : Alert) (d : Detail) :
    a.fields.getD d.name = textOrNull (a.detail d) := by
  cases d <;> rfl

/-- Behind the declared fields come the others. -/
theorem get?_fields_of_not_mem (a : Alert) (h : name ∉ declaredNames) :
    a.fields.get? name = Record.get? a.extras name := by
  obtain ⟨declared, hfields, hnames⟩ := fields_eq_append a
  have hnone : declared.get? name = none := Record.get?_eq_none_iff.mpr (hnames ▸ h)
  rw [hfields, Record.get?_append, hnone]
  rfl

theorem get?_extrasOf (h : name ∉ declaredNames) : (extrasOf r).get? name = r.get? name := by
  rw [extrasOf]
  induction r with
  | nil => rfl
  | cons field rest ih =>
      by_cases hfield : field.1 ∈ declaredNames
      · have hne : name ≠ field.1 := fun heq => h (heq ▸ hfield)
        rw [List.filter_cons_of_neg (by simpa using hfield), ih, Record.get?_cons, if_neg hne]
      · rw [List.filter_cons_of_pos (by simpa using hfield), Record.get?_cons, Record.get?_cons, ih]

/-- What is not declared is kept as it is. -/
theorem get?_of_reads (h : Reads r a) (hname : name ∉ declaredNames) :
    a.fields.get? name = r.get? name := by
  rw [get?_fields_of_not_mem a hname, h.extras, get?_extrasOf hname]

/-- **A field of an alert is null or blank exactly where the record's is.** -/
theorem isVoid_fields (h : Reads r a) (name : String) :
    Policy.isVoid (a.fields.getD name) = Policy.isVoid (r.getD name) := by
  by_cases hdeclared : name ∈ declaredNames
  · rcases List.mem_append.mp hdeclared with hmain | hdetail
    · -- texts keep their values; what else has to be there is never null or blank on either side, and
      -- the two measurements may be null on both
      simp only [mainNames, List.mem_cons, List.not_mem_nil, or_false] at hmain
      rcases hmain with rfl | rfl | rfl | rfl | rfl | rfl | rfl | rfl | rfl
      · rw [Record.getD, Record.getD, h.alertType]
        rfl
      · rw [← textOrNull_of_required h.projectId]
        rfl
      · rw [← textOrNull_of_required h.instanceName]
        rfl
      · rw [isVoid_of_required isVoid_of_mapOf h.metricLabels]
        rfl
      · rw [isVoid_of_required isVoid_of_numberBetween h.confidence]
        rfl
      · rw [isVoid_of_required isVoid_of_listOf h.missingFields]
        rfl
      · rw [isVoid_of_required isVoid_of_checkMethod h.parseMethod]
        show Policy.isVoid (.string a.parseMethod.word) = false
        cases a.parseMethod <;> decide
      · exact isVoid_numberOrNull h.thresholdPercent
      · exact isVoid_numberOrNull h.valuePercent
    · obtain ⟨d, hd, rfl⟩ := List.mem_map.mp hdetail
      rw [getD_detail, textOrNull_of_withDefault (withDefault_of_checkDetails h.detail hd)]
  · rw [Record.getD, Record.getD, get?_of_reads h hdeclared]

end Alert
end Triage
