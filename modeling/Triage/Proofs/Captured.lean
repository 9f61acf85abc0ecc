import Triage.Proofs.Composition

/-!
# What captured texts can spoil

A policy that is right by itself can still be spoilt by the texts that its patterns capture, in two
ways: a captured text is not the number that its field asks for, or the record made with it is no
alert. The first way is open exactly where one of the captured texts does not read as a number
(`Extraction.fails_iff`). The second one is closed for a policy that is *steady*: its defaults make
up an alert, and its patterns capture only fields that may hold any text, or any number, whichever
the field asks for (`Policy.IsSteady.check_record`).
-/

namespace Triage

open Schema Checked

/-- The fields of a pattern with their groups: those of the names, then those that are mapped. -/
def PatternSpec.targets (q : PatternSpec) : List (String × Nat) := q.expression.names ++ q.captures

namespace Extraction

variable {capture : Nat → Option String} {targets : List (String × Nat)} {r fields : Record}
  {fault : Fault} {name raw : String} {text : String} {q : PatternSpec}

/-! ## Captured texts that are no numbers -/

theorem coerce_of_not_numeric (h : isNumeric name = false) (raw : String) :
    coerce name raw = .ok (.string raw) := by
  rw [coerce, h, if_neg (by decide)]

theorem coerce_eq_error_iff :
    coerce name raw = .error fault ↔ fault = ⟨name, raw⟩ ∧ isNumeric name = true ∧
      Numeral.captured? (String.ofList (raw.toList.filter (· ≠ ','))) = none := by
  rw [coerce]
  cases isNumeric name with
  | false => simp
  | true =>
      rw [if_pos rfl]
      cases Numeral.captured? (String.ofList (raw.toList.filter (· ≠ ','))) with
      | none => simp [eq_comm]
      | some x => simp

theorem collect_append (first second : List (String × Nat)) (r : Record) :
    collect capture (first ++ second) r =
      collect capture first r >>= collect capture second := by
  induction first generalizing r with
  | nil => rfl
  | cons target rest ih =>
      rw [List.cons_append, collect, collect]
      cases capture target.2 with
      | none => exact ih r
      | some raw =>
          dsimp only
          cases coerce target.1 raw with
          | error fault => rfl
          | ok v => exact ih _

/-- Named groups and mapped ones are collected alike. -/
theorem apply_eq (q : PatternSpec) (text : String) :
    apply q text =
      match q.expression.search? text with
      | none => .ok none
      | some m => (collect (m.group? text) q.targets []).map some := by
  rw [apply, PatternSpec.targets]
  cases q.expression.search? text with
  | none => rfl
  | some m =>
      dsimp only
      rw [collect_append]
      cases collect (m.group? text) q.expression.names [] with
      | error fault => rfl
      | ok named =>
          show (collect (m.group? text) q.captures named >>= fun all => pure (some all)) =
            (collect (m.group? text) q.captures named).map some
          cases collect (m.group? text) q.captures named <;> rfl

/-- Collecting fails exactly where one of the captured texts is not the number asked for. -/
theorem collect_fails_iff :
    (∃ fault, collect capture targets r = .error fault) ↔
      ∃ target ∈ targets, ∃ raw, capture target.2 = some raw ∧
        ∃ fault, coerce target.1 raw = .error fault := by
  induction targets generalizing r with
  | nil => simp [collect]
  | cons target rest ih =>
      rw [List.exists_mem_cons_iff, collect]
      cases hcapture : capture target.2 with
      | none => simpa using ih
      | some raw =>
          cases hcoerce : coerce target.1 raw with
          | error fault => simp [hcoerce, bind, Except.bind]
          | ok v => simp [hcoerce, bind, Except.bind, ih]

/-- The fault is that of one of the captured texts. -/
theorem fault_of_collect (h : collect capture targets r = .error fault) :
    ∃ target ∈ targets, capture target.2 = some fault.raw ∧ target.1 = fault.name ∧
      coerce fault.name fault.raw = .error fault := by
  induction targets generalizing r with
  | nil => cases h
  | cons target rest ih =>
      rw [collect] at h
      split at h
      · obtain ⟨other, hmem, hother⟩ := ih h
        exact ⟨other, List.mem_cons_of_mem _ hmem, hother⟩
      · rename_i raw hcapture
        rcases bind_eq_error_iff.mp h with hcoerce | ⟨v, -, h⟩
        · obtain ⟨rfl, -⟩ := coerce_eq_error_iff.mp hcoerce
          exact ⟨target, List.mem_cons_self, hcapture, rfl, hcoerce⟩
        · obtain ⟨other, hmem, hother⟩ := ih h
          exact ⟨other, List.mem_cons_of_mem _ hmem, hother⟩

/-- **A pattern fails exactly where one of the texts that it captures is not the number asked
for.** -/
theorem fails_iff :
    (∃ fault, apply q text = .error fault) ↔
      ∃ m, q.expression.search? text = some m ∧ ∃ target ∈ q.targets, ∃ raw,
        m.group? text target.2 = some raw ∧ ∃ fault, coerce target.1 raw = .error fault := by
  rw [apply_eq]
  cases q.expression.search? text with
  | none => simp
  | some m =>
      simp only [Option.some.injEq, exists_eq_left', ← collect_fails_iff (r := [])]
      cases collect (m.group? text) q.targets [] <;> simp [Except.map]

/-- The fault of a pattern names the field and the text. -/
theorem fault_of_apply (h : apply q text = .error fault) :
    ∃ m, q.expression.search? text = some m ∧ ∃ target ∈ q.targets,
      m.group? text target.2 = some fault.raw ∧ target.1 = fault.name ∧
      coerce fault.name fault.raw = .error fault := by
  rw [apply_eq] at h
  cases hm : q.expression.search? text with
  | none => rw [hm] at h; cases h
  | some m =>
      rw [hm] at h
      dsimp only at h
      cases hcollect : collect (m.group? text) q.targets [] with
      | error other =>
          rw [hcollect] at h
          obtain rfl := Except.error.inj h
          exact ⟨m, rfl, fault_of_collect hcollect⟩
      | ok fields => rw [hcollect] at h; cases h

/-- What is collected under a name was there before or is one of the captured texts. -/
theorem coerce_of_collect {v : Json} (h : collect capture targets r = .ok fields)
    (hv : fields.get? name = some v) :
    r.get? name = some v ∨
      ∃ target ∈ targets, target.1 = name ∧ ∃ raw, coerce name raw = .ok v := by
  induction targets generalizing r with
  | nil => exact .inl (Except.ok.inj h ▸ hv)
  | cons target rest ih =>
      rw [collect] at h
      split at h
      · rcases ih h with hr | ⟨other, hmem, hother⟩
        · exact .inl hr
        · exact .inr ⟨other, List.mem_cons_of_mem _ hmem, hother⟩
      · rename_i raw hcapture
        obtain ⟨w, hcoerce, h⟩ := bind_eq_ok_iff.mp h
        rcases ih h with hr | ⟨other, hmem, hother⟩
        · rw [Record.get?_set] at hr
          split at hr
          · rename_i hname
            subst hname
            obtain rfl := Option.some.inj hr
            exact .inr ⟨target, List.mem_cons_self, rfl, raw, hcoerce⟩
          · exact .inl hr
        · exact .inr ⟨other, List.mem_cons_of_mem _ hmem, hother⟩

end Extraction

/-! ## Records that are alerts whatever has been captured -/

namespace Alert

/-- A value that the field may hold whatever the other fields are. -/
def Suits (name : String) (v : Json) : Prop :=
  (name ∈ textNames ∧ ∃ s, v = .string s) ∨ (name ∈ numberNames ∧ ∃ x, v = .float x)

theorem Suits.isNull {name : String} {v : Json} (h : Suits name v) : v.isNull = false := by
  obtain ⟨-, s, rfl⟩ | ⟨-, x, rfl⟩ := h
  · rfl
  · rfl

theorem Suits.mem {name : String} {v : Json} (h : Suits name v) :
    name ∈ textNames ++ numberNames :=
  List.mem_append.mpr (h.imp And.left And.left)

/-- A captured text suits its field. -/
theorem suits_of_coerce {name raw : String} {v : Json} (hname : name ∈ textNames ++ numberNames)
    (h : Extraction.coerce name raw = .ok v) : Suits name v := by
  have htexts : ∀ name ∈ textNames, Extraction.isNumeric name = false := by decide +kernel
  have hnumbers : ∀ name ∈ numberNames, Extraction.isNumeric name = true := by decide +kernel
  rcases List.mem_append.mp hname with hmem | hmem
  · rw [Extraction.coerce_of_not_numeric (htexts name hmem)] at h
    exact .inl ⟨hmem, raw, (Except.ok.inj h).symm⟩
  · rw [Extraction.coerce, if_pos (hnumbers name hmem)] at h
    split at h
    · rename_i x _
      exact .inr ⟨hmem, x, (Except.ok.inj h).symm⟩
    · cases h

variable {r r' : Record} {a : Alert} {name : String}

/-- Other fields, where these suit. -/
def Varies (r r' : Record) : Prop :=
  ∀ name, r'.get? name = r.get? name ∨ ∃ v, r'.get? name = some v ∧ Suits name v

theorem Suits.accepts {name : String} {v : Json} (h : Suits name v) : accepts name v = true := by
  obtain ⟨hname, s, rfl⟩ | ⟨hname, x, rfl⟩ := h
  · rw [accepts_text hname]
    rfl
  · rw [accepts_number hname]
    rfl

/-- **Fields that suit make an alert of a record that is one without them.** -/
theorem exists_of_varies (h : Varies r r') (ha : checkFields r = .valid a) :
    ∃ a', checkFields r' = .valid a' := by
  obtain ⟨hrequired, haccepts⟩ := exists_iff_accepts.mp ⟨a, ha⟩
  refine exists_of_accepts (fun name hname => ?_) fun name v hv => ?_
  · rcases h name with heq | ⟨v, hv, -⟩
    · rw [Record.has, heq]
      exact hrequired name hname
    · rw [Record.has, hv]
      rfl
  · rcases h name with heq | ⟨w, hw, hsuits⟩
    · exact haccepts name v (heq ▸ hv)
    · obtain rfl := Option.some.inj (hw.symm.trans hv)
      exact hsuits.accepts

end Alert

namespace Policy

variable {p : Policy} {q : PatternSpec} {captured : Record} {text : String}

/-- The policy is right by itself and its patterns capture nothing that could change that. -/
structure IsSteady (p : Policy) : Prop where
  /-- The defaults make up an alert. -/
  defaults : ∃ a, Alert.check (.object (Extraction.record p [])) = .valid a
  /-- What is captured goes to fields that may hold any text or any number. -/
  targets : ∀ q ∈ p.patterns, ∀ target ∈ q.targets,
    target.1 ∈ Alert.textNames ++ Alert.numberNames

instance (p : Policy) : Decidable p.IsSteady :=
  decidable_of_iff
    ((Alert.check (.object (Extraction.record p []))).isValid = true ∧
      ∀ q ∈ p.patterns, ∀ target ∈ q.targets, target.1 ∈ Alert.textNames ++ Alert.numberNames)
    ⟨fun h => ⟨exists_of_isValid h.1, h.2⟩, fun h => ⟨by
      obtain ⟨a, ha⟩ := h.defaults
      rw [ha]
      rfl, h.targets⟩⟩

/-- **Whatever a pattern of a steady policy captures makes up an alert.** -/
theorem IsSteady.check_record (hp : p.IsSteady) (hq : q ∈ p.patterns)
    (h : Extraction.apply q text = .ok (some captured)) :
    ∃ a, Alert.check (.object (Extraction.record p captured)) = .valid a := by
  have hn : captured.names.Nodup := Extraction.nodup_of_apply h
  have hsuits {name : String} {v : Json} (hv : captured.get? name = some v) :
      Alert.Suits name v := by
    rw [Extraction.apply_eq] at h
    split at h
    · cases h
    · obtain ⟨fields, hcollect, heq⟩ := ok_of_map h
      obtain rfl := Option.some.inj heq
      rcases Extraction.coerce_of_collect hcollect hv with hnil | ⟨target, hmem, rfl, raw, hraw⟩
      · cases hnil
      · exact Alert.suits_of_coerce (hp.targets q hq target hmem) hraw
  have hmethod : "parse_method" ∉ Alert.textNames ++ Alert.numberNames := by decide +kernel
  obtain ⟨a, ha⟩ := hp.defaults
  -- the record is compared with the one that the policy makes without captured texts
  refine Alert.exists_of_varies (r := Extraction.record p []) (fun name => ?_) ha
  cases hv : captured.get? name with
  | none =>
      have hgiven : Extraction.given p captured name = Extraction.given p [] name :=
        Extraction.given_of_not_extracted hv
      exact .inl (Extraction.get?_record_congr hn .nil hgiven)
  | some v =>
      have hsuit := hsuits hv
      have hname : name ≠ "parse_method" := fun heq => hmethod (heq ▸ hsuit.mem)
      have hget := Extraction.get?_record_of_given hn hname (Extraction.given_of_extracted (p := p) hv)
        hsuit.isNull
      exact .inr ⟨v, hget, hsuit⟩

end Policy

namespace Recognition

variable {policies : List Policy} {text : String}

/-- **Steady policies fail only through a captured text**: one that the first pattern found of the
first policy that fits captures. -/
theorem fails_iff_of_isSteady (h : ∀ p ∈ policies, p.IsSteady) {e : Failure} :
    ofText text policies = .error e ↔
      ∃ p q fault, policies.find? (·.fits text) = some p ∧
        p.patterns.find? (·.isFound text) = some q ∧ Extraction.apply q text = .error fault ∧
        e = .policies (.capture fault) := by
  rw [ofText_eq_find?]
  cases hp : policies.find? (·.fits text) with
  | none => simp
  | some p =>
      obtain ⟨ha, q, hq⟩ := first_of_fits (List.find?_some hp)
      have hyields : Yields text p q (ofText text [p]) := yields_of_find? ha hq
      dsimp only
      constructor
      · intro he
        rw [he] at hyields
        cases hyields with
        | capture hfault => exact ⟨p, q, _, rfl, hq, hfault, rfl⟩
        | record hcaptured hinvalid =>
            obtain ⟨a, hvalid⟩ := (h p (List.mem_of_find?_eq_some hp)).check_record
              (List.mem_of_find?_eq_some hq) hcaptured
            cases hvalid.symm.trans hinvalid
      · rintro ⟨_, q', fault, ⟨rfl⟩, hq', hfault, rfl⟩
        obtain rfl := Option.some.inj (hq.symm.trans hq')
        exact hyields.unique (.capture hfault)

end Recognition
end Triage
