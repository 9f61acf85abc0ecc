import Triage.Proofs.Alert

/-!
# The first policy that fits decides

A policy *fits* a text if it has patterns, its guard lets the text pass and one of its patterns is
found there. Recognising is two searches, one inside the other: for the first policy that fits, and
in it for the first pattern that is found. What comes of a text is then made of these two alone
(`Yields`): an alert, or the fault of the policy.

So an edit of the policies that changes neither of the two changes nothing else either, and there
are three kinds of such edits. A policy that does not fit may come or go anywhere; behind the first
policy that fits anything may change; and so may the patterns behind the first one found. The whole
argument rests on one equation, `ofText_eq_find?`, by induction over the policies.
-/

namespace Triage

variable {text : String}

/-- The pattern is found in the text. -/
def PatternSpec.isFound (text : String) (q : PatternSpec) : Bool :=
  (q.expression.search? text).isSome

/-- The policy has patterns, its guard lets the text pass, and one of its patterns is found. -/
def Policy.fits (text : String) (p : Policy) : Bool :=
  !p.patterns.isEmpty && p.admits text && p.patterns.any (·.isFound text)

namespace Extraction

/-- A pattern extracts nothing exactly where it is not found. -/
theorem apply_eq_none_iff {q : PatternSpec} :
    apply q text = .ok none ↔ q.isFound text = false := by
  rw [apply, PatternSpec.isFound]
  cases q.expression.search? text with
  | none => simp
  | some m =>
      simp only [Option.isSome_some, Bool.true_eq_false, iff_false]
      intro h
      obtain ⟨named, -, h⟩ := bind_eq_ok_iff.mp h
      obtain ⟨captured, -, h⟩ := bind_eq_ok_iff.mp h
      cases h

end Extraction

namespace Recognition

variable {p : Policy} {q : PatternSpec} {patterns : List PatternSpec}
  {before policies : List Policy}

/-! ## The two searches -/

theorem firstCapture_of_find?_none (h : patterns.find? (·.isFound text) = none) :
    firstCapture text patterns = .ok none := by
  induction patterns with
  | nil => rfl
  | cons q rest ih =>
      obtain ⟨hq, hrest⟩ := List.forall_mem_cons.mp (List.find?_eq_none.mp h)
      have happly : Extraction.apply q text = .ok none :=
        Extraction.apply_eq_none_iff.mpr (by simpa using hq)
      rw [firstCapture, happly]
      exact ih (List.find?_eq_none.mpr hrest)

/-- The first pattern that is found says what is captured. -/
theorem firstCapture_of_find? (h : patterns.find? (·.isFound text) = some q) :
    firstCapture text patterns = Extraction.apply q text := by
  induction patterns with
  | nil => cases h
  | cons q' rest ih =>
      rw [firstCapture]
      cases hq : q'.isFound text with
      | false =>
          rw [List.find?_cons_of_neg (by simp [hq])] at h
          rw [Extraction.apply_eq_none_iff.mpr hq]
          exact ih h
      | true =>
          rw [List.find?_cons_of_pos hq] at h
          obtain rfl := Option.some.inj h
          have hne : Extraction.apply q' text ≠ .ok none := by
            rw [ne_eq, Extraction.apply_eq_none_iff, hq]
            decide
          rcases happly : Extraction.apply q' text with fault | _ | captured
          · rfl
          · exact absurd happly hne
          · rfl

/-- A policy that does not fit captures nothing. -/
theorem capture_of_not_fits (h : p.fits text = false) : capture p text = .ok none := by
  rw [capture]
  cases ha : p.admits text with
  | false => rfl
  | true =>
      refine firstCapture_of_find?_none (List.find?_eq_none.mpr ?_)
      cases hp : p.patterns with
      | nil => simp
      | cons q rest => simpa [Policy.fits, ha, hp] using h

/-- A policy that fits lets the text pass and has a first pattern that is found. -/
theorem first_of_fits (h : p.fits text = true) :
    p.admits text = true ∧ ∃ q, p.patterns.find? (·.isFound text) = some q := by
  rw [Policy.fits, Bool.and_eq_true, Bool.and_eq_true, List.any_eq_true] at h
  obtain ⟨⟨-, ha⟩, q, hq, hfound⟩ := h
  exact ⟨ha, Option.isSome_iff_exists.mp (List.find?_isSome.mpr ⟨q, hq, hfound⟩)⟩

/-- A policy fits as soon as its guard lets the text pass and a pattern is found. -/
theorem fits_of_found (ha : p.admits text = true) (hq : q ∈ p.patterns)
    (hfound : q.isFound text = true) : p.fits text = true := by
  rw [Policy.fits, ha, List.any_eq_true.mpr ⟨q, hq, hfound⟩]
  simpa using List.ne_nil_of_mem hq

/-- A policy that fits captures what its first pattern that is found extracts, and that is
something. -/
theorem capture_of_find? (ha : p.admits text = true)
    (hq : p.patterns.find? (·.isFound text) = some q) :
    capture p text = Extraction.apply q text ∧ capture p text ≠ .ok none := by
  have hfound : q.isFound text = true := List.find?_some hq
  rw [capture, if_pos ha, firstCapture_of_find? hq, ne_eq, Extraction.apply_eq_none_iff, hfound]
  exact ⟨rfl, by decide⟩

/-- What a policy makes of a text: a fault, an alert, or nothing, and then the others follow. -/
theorem ofText_cons (text : String) (p : Policy) (policies : List Policy) :
    ofText text (p :: policies) =
      match capture p text with
      | .error fault => .error (.policies (.capture fault))
      | .ok none => ofText text policies
      | .ok (some captured) => (alertOf p captured).map fun alert => some ⟨alert, p⟩ := by
  rw [ofText]
  rcases capture p text with fault | _ | captured
  · rfl
  · rfl
  · generalize halert : alertOf p captured = outcome
    cases outcome with
    | error e => simp only [mapError_ok, bind, Except.bind, halert, Except.map]
    | ok alert => simp only [mapError_ok, bind, Except.bind, halert, Except.map]; rfl

/-- A policy that does not fit is passed over. -/
theorem ofText_cons_of_not_fits (h : p.fits text = false) :
    ofText text (p :: policies) = ofText text policies := by
  rw [ofText_cons, capture_of_not_fits h]

/-- What comes of a text by a policy and a pattern of it that is found there. -/
inductive Yields (text : String) (p : Policy) (q : PatternSpec) :
    Except Failure (Option Recognition) → Prop where
  /-- What the pattern captures makes up an alert. -/
  | alert {captured : Record} {alert : Alert} :
      Extraction.apply q text = .ok (some captured) →
      Alert.check (.object (Extraction.record p captured)) = .valid alert →
      Yields text p q (.ok (some ⟨alert, p⟩))
  /-- A captured text is not the number that its field asks for. -/
  | capture {fault : Extraction.Fault} :
      Extraction.apply q text = .error fault →
      Yields text p q (.error (.policies (.capture fault)))
  /-- What the pattern captures makes up no alert. -/
  | record {captured : Record} {issues : List Issue} :
      Extraction.apply q text = .ok (some captured) →
      Alert.check (.object (Extraction.record p captured)) = .invalid issues →
      Yields text p q (.error (.policies (.invalidRecord p.alertType issues)))

/-- A policy and a pattern of it leave no choice. -/
theorem Yields.unique {outcome other : Except Failure (Option Recognition)}
    (h : Yields text p q outcome) (h' : Yields text p q other) : outcome = other := by
  -- both of them look at what the pattern extracts and at the check of the record made of it
  cases h <;> cases h' <;> simp_all

/-- Where a pattern is found, it and its policy settle what comes of the text. -/
theorem yields_of_find? (ha : p.admits text = true)
    (hq : p.patterns.find? (·.isFound text) = some q) :
    Yields text p q (ofText text (p :: policies)) := by
  obtain ⟨happly, hne⟩ := capture_of_find? ha hq
  rw [ofText_cons]
  rcases hcapture : capture p text with fault | _ | captured
  · exact .capture (happly ▸ hcapture)
  · exact absurd hcapture hne
  · dsimp only
    rw [happly] at hcapture
    cases hcheck : Alert.check (.object (Extraction.record p captured)) with
    | valid alert =>
        have halert : alertOf p captured = .ok alert := Checked.orFail_eq_ok_iff.mpr hcheck
        rw [halert]
        exact .alert hcapture hcheck
    | invalid issues =>
        have halert : alertOf p captured =
            .error (.policies (.invalidRecord p.alertType issues)) := by
          rw [alertOf, hcheck, Checked.orFail]
        rw [halert]
        exact .record hcapture hcheck
    | countTooLarge => exact absurd hcheck (Alert.decides_check _)

/-- **Only the first policy that fits counts.** -/
theorem ofText_eq_find? (text : String) (policies : List Policy) :
    ofText text policies =
      match policies.find? (·.fits text) with
      | none => .ok none
      | some p => ofText text [p] := by
  induction policies with
  | nil => rfl
  | cons p rest ih =>
      cases hp : p.fits text with
      | false => rw [ofText_cons_of_not_fits hp, ih, List.find?_cons_of_neg (by simp [hp])]
      | true =>
          obtain ⟨ha, q, hq⟩ := first_of_fits hp
          -- the policies behind it would be reached only if nothing were captured
          rw [List.find?_cons_of_pos hp]
          show ofText text (p :: rest) = ofText text [p]
          rw [ofText_cons, ofText_cons text p []]
          rcases hcapture : capture p text with fault | _ | captured
          · rfl
          · exact absurd hcapture (capture_of_find? ha hq).2
          · rfl

/-- Recognising fails through a captured text that is no number or through a record, made by one of
the policies, that is no alert. -/
theorem fault_of_ofText {e : Failure} (h : ofText text policies = .error e) :
    (∃ fault, e = .policies (.capture fault)) ∨
      ∃ p ∈ policies, ∃ issues, e = .policies (.invalidRecord p.alertType issues) := by
  rw [ofText_eq_find?] at h
  cases hp : policies.find? (·.fits text) with
  | none => rw [hp] at h; cases h
  | some p =>
      rw [hp] at h
      obtain ⟨ha, q, hq⟩ := first_of_fits (List.find?_some hp)
      have hyields : Yields text p q (ofText text [p]) := yields_of_find? ha hq
      rw [show ofText text [p] = .error e from h] at hyields
      cases hyields with
      | capture => exact .inl ⟨_, rfl⟩
      | record => exact .inr ⟨p, List.mem_of_find?_eq_some hp, _, rfl⟩

/-! ## Edits that change nothing -/

theorem ofText_insert (h : p.fits text = false) (before after : List Policy) :
    ofText text (before ++ p :: after) = ofText text (before ++ after) := by
  rw [ofText_eq_find?, ofText_eq_find? text (before ++ after), List.find?_append,
    List.find?_append, List.find?_cons_of_neg (by simp [h])]

theorem ofText_behind (h : p.fits text = true) (before after after' : List Policy) :
    ofText text (before ++ p :: after) = ofText text (before ++ p :: after') := by
  rw [ofText_eq_find?, ofText_eq_find? text (before ++ p :: after'), List.find?_append,
    List.find?_append, List.find?_cons_of_pos h, List.find?_cons_of_pos h]

/-- The policies in front that do not fit are passed over. -/
theorem ofText_append (h : ∀ p ∈ before, p.fits text = false) :
    ofText text (before ++ policies) = ofText text policies := by
  induction before with
  | nil => rfl
  | cons p rest ih =>
      obtain ⟨hp, hrest⟩ := List.forall_mem_cons.mp h
      rw [List.cons_append, ofText_cons_of_not_fits hp, ih hrest]

/-- Other patterns behind one that is found leave what is captured as it is. -/
theorem capture_patterns {pre post : List PatternSpec} (ha : p.admits text = true)
    (hp : p.patterns = pre ++ q :: post) (hq : q.isFound text = true) (post' : List PatternSpec) :
    let p' := { p with patterns := pre ++ q :: post' }
    capture p' text = capture p text := by
  intro p'
  have hfind (post : List PatternSpec) :
      (pre ++ q :: post).find? (·.isFound text) = (pre.find? (·.isFound text)).or (some q) := by
    rw [List.find?_append, List.find?_cons_of_pos hq]
  obtain ⟨r, hr⟩ : ∃ r, (pre.find? (·.isFound text)).or (some q) = some r := by
    cases pre.find? (·.isFound text) with
    | none => exact ⟨q, rfl⟩
    | some r => exact ⟨r, rfl⟩
  have hold : p.patterns.find? (·.isFound text) = some r := by rw [hp, hfind, hr]
  have hnew : p'.patterns.find? (·.isFound text) = some r := (hfind post').trans hr
  rw [(capture_of_find? ha hold).1, (capture_of_find? (p := p') ha hnew).1]

/-- They leave the alert and the fault as they are. -/
theorem ofText_patterns {pre post : List PatternSpec} (ha : p.admits text = true)
    (hp : p.patterns = pre ++ q :: post) (hq : q.isFound text = true) (post' : List PatternSpec)
    (after : List Policy) :
    let p' := { p with patterns := pre ++ q :: post' }
    ofText text (p' :: after) =
      (ofText text (p :: after)).map (Option.map ({ · with policy := p' })) := by
  intro p'
  have hmem : q ∈ p.patterns := by simp [hp]
  obtain ⟨-, r, hr⟩ := first_of_fits (fits_of_found ha hmem hq)
  have hcapture : capture p' text = capture p text := capture_patterns ha hp hq post'
  rw [ofText_cons, ofText_cons, hcapture]
  rcases hc : capture p text with fault | _ | captured
  · rfl
  · exact absurd hc (capture_of_find? ha hr).2
  · -- the record is made of the defaults and of what is captured, and not of the patterns
    have halert : alertOf p' captured = alertOf p captured := rfl
    dsimp only
    rw [halert]
    cases alertOf p captured <;> rfl

/-- What recognising a text amounts to, whatever the policies are. -/
structure IsFirstFit (text : String) : Prop where
  /-- Nothing is recognised exactly where no policy fits. -/
  none_iff : ∀ policies : List Policy,
    ofText text policies = .ok none ↔ ∀ p ∈ policies, p.fits text = false
  /-- Otherwise the first policy that fits and its first pattern that is found settle the outcome:
  an alert of that policy, or a fault of it. -/
  yields : ∀ (policies : List Policy) (p : Policy),
    policies.find? (·.fits text) = some p →
      ∃ q, p.patterns.find? (·.isFound text) = some q ∧
        ∀ outcome, ofText text policies = outcome ↔ Yields text p q outcome
  /-- A policy that does not fit may come or go anywhere. -/
  insert : ∀ (before : List Policy) (p : Policy) (after : List Policy), p.fits text = false →
    ofText text (before ++ p :: after) = ofText text (before ++ after)
  /-- Behind a policy that fits anything may change. -/
  behind : ∀ (before : List Policy) (p : Policy) (after after' : List Policy),
    p.fits text = true → ofText text (before ++ p :: after) = ofText text (before ++ p :: after')
  /-- In the first policy that fits, the patterns behind one that is found may change: the policy
  is still the one selected, and the alert and the fault stay the same. -/
  patterns : ∀ (before : List Policy) (p : Policy) (after : List Policy)
    (pre : List PatternSpec) (q : PatternSpec) (post post' : List PatternSpec),
    (∀ r ∈ before, r.fits text = false) → p.admits text = true →
    p.patterns = pre ++ q :: post → q.isFound text = true →
      let p' := { p with patterns := pre ++ q :: post' }
      ofText text (before ++ p' :: after) =
        (ofText text (before ++ p :: after)).map (Option.map ({ · with policy := p' }))

/-- **The first policy that fits and its first pattern that is found decide alone.** -/
theorem isFirstFit (text : String) : IsFirstFit text where
  none_iff := by
    intro policies
    rw [ofText_eq_find?]
    cases hp : policies.find? (·.fits text) with
    | none => simpa using hp
    | some p =>
        obtain ⟨ha, q, hq⟩ := first_of_fits (List.find?_some hp)
        constructor
        · intro h
          have hyields : Yields text p q (ofText text [p]) := yields_of_find? ha hq
          rw [show ofText text [p] = .ok none from h] at hyields
          cases hyields
        · intro h
          have hfits : p.fits text = true := List.find?_some hp
          rw [h p (List.mem_of_find?_eq_some hp)] at hfits
          cases hfits
  yields := by
    intro policies p hp
    obtain ⟨ha, q, hq⟩ := first_of_fits (List.find?_some hp)
    have hyields : Yields text p q (ofText text policies) := by
      rw [ofText_eq_find?, hp]
      exact yields_of_find? ha hq
    exact ⟨q, hq, fun outcome => ⟨fun h => h ▸ hyields, hyields.unique⟩⟩
  insert := fun before p after h => ofText_insert h before after
  behind := fun before p after after' h => ofText_behind h before after after'
  patterns := by
    intro before p after pre q post post' hbefore ha hp hq p'
    rw [ofText_append hbefore, ofText_append hbefore]
    exact ofText_patterns ha hp hq post' after

end Recognition
end Triage
