import Mathlib.Data.List.Forall2
import Triage.Policy.Document
import Triage.Proofs.Alert
import Triage.Proofs.Policy

/-!
# What a policy file holds

A policy file holds policies if its bytes are UTF-8, the text is a JSON object with a list of
policies, every entry of the list is a policy, and no two of them have the same alert type
(`IsContent`). Reading it gives exactly these policies, in their order (`ofBytes_eq_ok_iff`).

A file that holds none is nearly always answered by a fault of the policies. `Escapes` lists the
three ways in which it is not: the bytes are not UTF-8; the text has a whole number of too many
digits; or, after entries that are all right, one has an expression that cannot be counted. By
`ofBytes_eq_error_iff` there is no fourth. (Neither documents nor expressions can be nested too deeply
here, and a name of a character that `Text.Table.characterNames` lacks makes an expression malformed,
which is a fault of the policies.) Both results come from reading the list by induction, in
which the alert types seen so far are those of the policies accepted in front.
-/

namespace Triage.Policies

variable {bytes : List UInt8} {items : List Json} {policies : List Policy} {path : Path}
  {seen : List String} {e : Failure}

/-- The bytes are a document that lists these entries. -/
def Lists (bytes : List UInt8) (items : List Json) : Prop :=
  ∃ (chars : List Char) (fields : Record),
    Text.Utf8.decode bytes = .ok chars ∧
    Json.parseChars (Text.unifyNewlines chars) = .ok (.object fields) ∧
    fields.get? "policies" = some (.array items)

/-- The policies are those of the entries, one to one and in order, each of its own alert type. -/
structure IsAccepted (items : List Json) (policies : List Policy) : Prop where
  entries : List.Forall₂ (fun v p => Policy.check v = .valid p) items policies
  nodup : (policies.map Policy.alertType).Nodup

/-- The bytes are a document of these policies. -/
def IsContent (bytes : List UInt8) (policies : List Policy) : Prop :=
  ∃ items, Lists bytes items ∧ IsAccepted items policies

/-- Reading the bytes fails, and not through a fault of the policies. -/
inductive Escapes (bytes : List UInt8) : Failure → Prop where
  /-- The bytes are not UTF-8. -/
  | undecodable {fault : Text.Utf8.Fault} :
      Text.Utf8.decode bytes = .error fault → Escapes bytes (.undecodable fault)
  /-- A whole number has too many digits. -/
  | digits {chars : List Char} {count : Nat} :
      Text.Utf8.decode bytes = .ok chars →
      Json.parseChars (Text.unifyNewlines chars) = .error (.digits count) →
      Escapes bytes (.digits count)
  /-- The first entry that is not accepted has an expression that cannot be counted. -/
  | uncountable {before rest : List Json} {v : Json} {accepted : List Policy} :
      Lists bytes (before ++ v :: rest) → IsAccepted before accepted →
      Policy.IsUncountable v → Escapes bytes (.expression .countTooLarge)

/-! ## The list -/

theorem ofList_cons (path : Path) (i : Nat) (seen : List String) (v : Json) (rest : List Json) :
    ofList path i seen (v :: rest) =
      match Policy.check v with
      | .valid p =>
        if p.alertType ∈ seen then .error (.policies (.duplicate p.alertType path))
        else ofList path (i + 1) (p.alertType :: seen) rest >>= fun tail => .ok (p :: tail)
      | .invalid issues => .error (.policies (.invalid (label i v) path issues))
      | .countTooLarge => .error (.expression .countTooLarge) := by
  rw [ofList]
  cases Policy.check v with
  | valid p =>
      show (if p.alertType ∈ seen then _ else _ : Except Failure (List Policy)) =
        if p.alertType ∈ seen then _ else _
      by_cases hp : p.alertType ∈ seen
      · rw [if_pos hp, if_pos hp]
        rfl
      · rw [if_neg hp, if_neg hp]
        rfl
  | invalid issues => rfl
  | countTooLarge => rfl

theorem isAccepted_cons_iff {v : Json} {rest : List Json} :
    IsAccepted (v :: rest) policies ↔
      ∃ (p : Policy) (tail : List Policy), policies = p :: tail ∧ Policy.check v = .valid p ∧
        IsAccepted rest tail ∧ ∀ r ∈ tail, r.alertType ≠ p.alertType := by
  constructor
  · rintro ⟨hentries, hnodup⟩
    obtain ⟨p, tail, hv, hrest, rfl⟩ := List.forall₂_cons_left_iff.mp hentries
    rw [List.map_cons, List.nodup_cons] at hnodup
    refine ⟨p, tail, rfl, hv, ⟨hrest, hnodup.2⟩, fun r hr heq => hnodup.1 ?_⟩
    exact heq ▸ List.mem_map_of_mem hr
  · rintro ⟨p, tail, rfl, hv, ⟨hrest, hnodup⟩, hne⟩
    refine ⟨.cons hv hrest, ?_⟩
    rw [List.map_cons, List.nodup_cons]
    refine ⟨fun hmem => ?_, hnodup⟩
    obtain ⟨r, hr, heq⟩ := List.mem_map.mp hmem
    exact hne r hr heq

/-- None of the policies has an alert type seen before. -/
def AreNew (seen : List String) (policies : List Policy) : Prop :=
  ∀ p ∈ policies, p.alertType ∉ seen

theorem areNew_cons_iff {p : Policy} :
    AreNew seen (p :: policies) ↔ p.alertType ∉ seen ∧ AreNew seen policies := by
  simp [AreNew]

/-- With the next policy its alert type has been seen too. -/
theorem areNew_seen_iff {p : Policy} :
    AreNew (p.alertType :: seen) policies ↔
      (∀ r ∈ policies, r.alertType ≠ p.alertType) ∧ AreNew seen policies := by
  simp only [AreNew, List.mem_cons, not_or, forall_and, ne_eq]

/-- A list is accepted entry by entry; none may have an alert type seen before. -/
theorem ofList_eq_ok_iff (i : Nat) :
    ofList path i seen items = .ok policies ↔
      IsAccepted items policies ∧ AreNew seen policies := by
  induction items generalizing i seen policies with
  | nil =>
      rw [ofList]
      constructor
      · rintro ⟨rfl⟩
        exact ⟨⟨.nil, .nil⟩, by simp [AreNew]⟩
      · rintro ⟨⟨hentries, -⟩, -⟩
        cases hentries
        rfl
  | cons v rest ih =>
      rw [ofList_cons, isAccepted_cons_iff]
      constructor
      · intro h
        cases hv : Policy.check v with
        | valid p =>
            simp only [hv] at h
            split at h
            · cases h
            · rename_i hp
              obtain ⟨tail, htail, ⟨rfl⟩⟩ := bind_eq_ok_iff.mp h
              obtain ⟨haccepted, hnew⟩ := (ih (i + 1)).mp htail
              rw [areNew_seen_iff] at hnew
              exact ⟨⟨p, tail, rfl, rfl, haccepted, hnew.1⟩, areNew_cons_iff.mpr ⟨hp, hnew.2⟩⟩
        | invalid issues => simp only [hv] at h; cases h
        | countTooLarge => simp only [hv] at h; cases h
      · rintro ⟨⟨p, tail, rfl, hv, haccepted, hne⟩, hnew⟩
        obtain ⟨hp, hnew⟩ := areNew_cons_iff.mp hnew
        have htail := (ih (i + 1)).mpr ⟨haccepted, areNew_seen_iff.mpr ⟨hne, hnew⟩⟩
        simp only [hv, hp, if_false, htail]
        rfl

/-- After entries that are accepted, one has an expression that cannot be counted. -/
def Stops (seen : List String) (items : List Json) : Prop :=
  ∃ (before : List Json) (v : Json) (rest : List Json) (accepted : List Policy),
    items = before ++ v :: rest ∧ IsAccepted before accepted ∧ AreNew seen accepted ∧
      Policy.IsUncountable v

theorem stops_cons_iff {v : Json} {rest : List Json} :
    Stops seen (v :: rest) ↔
      Policy.IsUncountable v ∨
        ∃ p, Policy.check v = .valid p ∧ p.alertType ∉ seen ∧ Stops (p.alertType :: seen) rest := by
  constructor
  · rintro ⟨before, w, after, accepted, hitems, haccepted, hnew, hw⟩
    cases before with
    | nil =>
        obtain ⟨rfl, rfl⟩ := List.cons.inj hitems
        exact .inl hw
    | cons u before =>
        obtain ⟨rfl, rfl⟩ := List.cons.inj hitems
        obtain ⟨p, tail, rfl, hv, htail, hne⟩ := isAccepted_cons_iff.mp haccepted
        obtain ⟨hp, hnew⟩ := areNew_cons_iff.mp hnew
        exact .inr ⟨p, hv, hp, before, w, after, tail, rfl, htail,
          areNew_seen_iff.mpr ⟨hne, hnew⟩, hw⟩
  · rintro (hv | ⟨p, hv, hp, before, w, after, tail, rfl, htail, hnew, hw⟩)
    · exact ⟨[], v, rest, [], rfl, ⟨.nil, .nil⟩, by simp [AreNew], hv⟩
    · obtain ⟨hne, hnew⟩ := areNew_seen_iff.mp hnew
      exact ⟨v :: before, w, after, p :: tail, rfl,
        isAccepted_cons_iff.mpr ⟨p, tail, rfl, hv, htail, hne⟩, areNew_cons_iff.mpr ⟨hp, hnew⟩, hw⟩

/-- Reading a list fails through a fault of the policies or stops. -/
theorem ofList_eq_error_iff (he : ∀ fault, e ≠ .policies fault) (i : Nat) :
    ofList path i seen items = .error e ↔
      e = .expression .countTooLarge ∧ Stops seen items := by
  induction items generalizing i seen with
  | nil => simp [ofList, Stops]
  | cons v rest ih =>
      rw [ofList_cons, stops_cons_iff, ← Policy.check_eq_countTooLarge_iff]
      cases hv : Policy.check v with
      | valid p =>
          by_cases hp : p.alertType ∈ seen
          · simp [hp, (he _).symm]
          · simp [hp, bind_eq_error_iff, ih]
      | invalid issues => simp [(he _).symm]
      | countTooLarge => simp [eq_comm]

/-! ## The document -/

theorem documentOfText_eq_ok_iff {chars : List Char} {v : Json} :
    documentOfText path chars = .ok v ↔ Json.parseChars chars = .ok v := by
  unfold documentOfText
  split
  · rename_i w hw
    rw [hw, Except.ok.injEq, Except.ok.injEq]
  · rename_i count hcount
    simp [hcount]
  · rename_i fault _ hfault
    simp [hfault]

theorem documentOfText_eq_error_iff {chars : List Char} (he : ∀ fault, e ≠ .policies fault) :
    documentOfText path chars = .error e ↔
      ∃ count, Json.parseChars chars = .error (.digits count) ∧ e = .digits count := by
  unfold documentOfText
  split
  · rename_i w hw
    simp [hw]
  · rename_i count hcount
    simp [hcount, eq_comm]
  · rename_i fault hne hfault
    constructor
    · rintro ⟨rfl⟩
      exact absurd rfl (he _)
    · rintro ⟨count, hcount, -⟩
      exact absurd (Except.error.inj (hfault.symm.trans hcount)) (hne count)

/-- A document without a list of policies is refused by a fault of the policies. -/
theorem ofDocument_eq_iff {v : Json} {outcome : Except Failure (List Policy)}
    (ho : ∀ fault, outcome ≠ .error (.policies fault)) :
    ofDocument path v = outcome ↔
      ∃ (fields : Record) (items : List Json), v = .object fields ∧
        fields.get? "policies" = some (.array items) ∧ ofList path 0 [] items = outcome := by
  unfold ofDocument
  split
  · rename_i fields
    split
    · rename_i items hitems
      constructor
      · intro h
        exact ⟨fields, items, rfl, hitems, h⟩
      · rintro ⟨_, items', ⟨rfl⟩, hitems', h⟩
        cases hitems.symm.trans hitems'
        exact h
    · rename_i hnone
      constructor
      · intro h
        exact absurd h.symm (ho _)
      · rintro ⟨_, items, ⟨rfl⟩, hitems, -⟩
        exact absurd hitems (hnone items)
  · rename_i hnone
    constructor
    · intro h
      exact absurd h.symm (ho _)
    · rintro ⟨fields, _, rfl, -⟩
      exact absurd rfl (hnone fields)

/-- **Reading a file gives exactly the policies that it holds.** -/
theorem ofBytes_eq_ok_iff : ofBytes path bytes = .ok policies ↔ IsContent bytes policies := by
  have ho : ∀ fault, (.ok policies : Except Failure _) ≠ .error (.policies fault) := by simp
  have hnew : AreNew [] policies := by simp [AreNew]
  rw [ofBytes, bind_eq_ok_iff]
  simp only [bind_eq_ok_iff, mapError_eq_ok_iff, documentOfText_eq_ok_iff, ofDocument_eq_iff ho,
    ofList_eq_ok_iff, hnew, and_true]
  constructor
  · rintro ⟨chars, hchars, _, hparse, fields, items, rfl, hitems, haccepted⟩
    exact ⟨items, ⟨chars, fields, hchars, hparse, hitems⟩, haccepted⟩
  · rintro ⟨items, ⟨chars, fields, hchars, hparse, hitems⟩, haccepted⟩
    exact ⟨chars, hchars, _, hparse, fields, items, rfl, hitems, haccepted⟩

/-- **Reading a file fails otherwise than through a fault of the policies in three ways alone.** -/
theorem ofBytes_eq_error_iff (he : ∀ fault, e ≠ .policies fault) :
    ofBytes path bytes = .error e ↔ Escapes bytes e := by
  have ho : ∀ fault, (.error e : Except Failure (List Policy)) ≠ .error (.policies fault) :=
    fun fault h => he fault (Except.error.inj h)
  rw [ofBytes, bind_eq_error_iff]
  simp only [bind_eq_error_iff, mapError_eq_error_iff, mapError_eq_ok_iff,
    documentOfText_eq_error_iff he, documentOfText_eq_ok_iff, ofDocument_eq_iff ho,
    ofList_eq_error_iff he]
  constructor
  · rintro (⟨fault, hdecode, rfl⟩ | ⟨chars, hchars, ⟨count, hparse, rfl⟩ | ⟨_, hparse, hlist⟩⟩)
    · exact .undecodable hdecode
    · exact .digits hchars hparse
    · obtain ⟨fields, _, rfl, hitems, rfl, hstops⟩ := hlist
      obtain ⟨before, v, rest, accepted, rfl, haccepted, -, hv⟩ := hstops
      exact .uncountable ⟨chars, fields, hchars, hparse, hitems⟩ haccepted hv
  · intro h
    cases h with
    | undecodable hdecode => exact .inl ⟨_, hdecode, rfl⟩
    | digits hchars hparse => exact .inr ⟨_, hchars, .inl ⟨_, hparse, rfl⟩⟩
    | @uncountable before rest v accepted hlists haccepted hv =>
        obtain ⟨chars, fields, hchars, hparse, hitems⟩ := hlists
        exact .inr ⟨chars, hchars, .inr ⟨_, hparse, fields, _, rfl, hitems, rfl, before, v, rest,
          accepted, rfl, haccepted, by simp [AreNew], hv⟩⟩

/-! ## The file -/

theorem ofFile_of_file {files : Files} (h : files.get? path = some (.file bytes)) :
    ofFile files path = ofBytes path bytes := by
  rw [ofFile, h]

/-- **A policy file gives the policies that it holds or a fault of the policies, unless one of the
three ways out is open.** -/
theorem ofFile_answers_iff {files : Files} (h : files.get? path = some (.file bytes)) :
    ((∃ policies, ofFile files path = .ok policies ∧ IsContent bytes policies) ∨
        ∃ fault : PolicyFault, ofFile files path = .error (.policies fault)) ↔
      ∀ e, ¬ Escapes bytes e := by
  rw [ofFile_of_file h]
  constructor
  · intro hanswer e hescapes
    have he : ∀ fault, e ≠ .policies fault := by
      rintro fault rfl
      cases hescapes
    have herror : ofBytes path bytes = .error e := (ofBytes_eq_error_iff he).mpr hescapes
    rcases hanswer with ⟨policies, hok, -⟩ | ⟨fault, hfault⟩
    · cases herror.symm.trans hok
    · exact he fault (Except.error.inj (herror.symm.trans hfault))
  · intro hnone
    cases hread : ofBytes path bytes with
    | ok policies => exact .inl ⟨policies, rfl, ofBytes_eq_ok_iff.mp hread⟩
    | error e =>
        by_cases he : ∃ fault, e = .policies fault
        · obtain ⟨fault, rfl⟩ := he
          exact .inr ⟨fault, rfl⟩
        · have hne : ∀ fault, e ≠ .policies fault := fun fault h => he ⟨fault, h⟩
          exact absurd ((ofBytes_eq_error_iff hne).mp hread) (hnone e)

/-- A document with two policies, one with a pattern that captures and one with a pattern that
repeats. -/
def twofold : List UInt8 :=
  ("\x7b\"policies\": [\x7b\"alert_type\": \"disk_full\", "
    ++ "\"patterns\": [\x7b\"pattern\": \"disk full on (?P<instance_name>\\\\S+)\"\x7d]\x7d, "
    ++ "\x7b\"alert_type\": \"cpu_high\", "
    ++ "\"patterns\": [\x7b\"pattern\": \"cpu [0-9]\x7b2,3\x7d\"\x7d]\x7d]\x7d").toUTF8.toList

/-- Both policies are read, and no way out is open. -/
theorem ofFile_answers_iff_twofold :
    (∃ policies, ofFile [(["p.json"], .file twofold)] ["p.json"] = .ok policies ∧
      policies.map Policy.alertType = ["disk_full", "cpu_high"]) ∧
      ∀ e, ¬ Escapes twofold e := by
  have hrun : ((ofBytes ["p.json"] twofold).toOption.map fun policies =>
      policies.map Policy.alertType) = some ["disk_full", "cpu_high"] := by decide +kernel
  obtain ⟨policies, hread, htypes⟩ := Option.map_eq_some_iff.mp hrun
  have hok : ofBytes ["p.json"] twofold = .ok policies := ok_of_toOption hread
  have hfile : ofFile [(["p.json"], .file twofold)] ["p.json"] = .ok policies := by
    rw [ofFile_of_file rfl, hok]
  exact ⟨⟨policies, hfile, htypes⟩,
    (ofFile_answers_iff rfl).mp (.inl ⟨policies, hfile, ofBytes_eq_ok_iff.mp hok⟩)⟩

/-- A document with one policy, whose pattern repeats something too often. -/
def uncountable : List UInt8 :=
  ("\x7b\"policies\": [\x7b\"alert_type\": \"a\", "
    ++ "\"patterns\": [\x7b\"pattern\": \"v\x7b4294967295\x7d\"\x7d]\x7d]\x7d").toUTF8.toList

/-- The fault of an expression that reading comes to, if it comes to one. -/
def expressionFault? : Except Failure (List Policy) → Option Regex.Fault
  | .error (.expression fault) => some fault
  | _ => none

theorem ofFile_uncountable :
    ofFile [(["p.json"], .file uncountable)] ["p.json"] = .error (.expression .countTooLarge) := by
  have hrun : expressionFault? (ofBytes ["p.json"] uncountable) = some .countTooLarge := by
    decide +kernel
  rw [ofFile_of_file rfl]
  cases hread : ofBytes ["p.json"] uncountable with
  | ok policies => rw [hread] at hrun; cases hrun
  | error e =>
      rw [hread] at hrun
      cases e with
      | expression fault => rw [Option.some.inj hrun]
      | _ => cases hrun

end Triage.Policies
