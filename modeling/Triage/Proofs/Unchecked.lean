import Triage.Proofs.Document
import Triage.Proofs.Groups
import Triage.Proofs.Keyword
import Triage.Proofs.Recognition

/-!
# What loading the policies makes safe

Matching does things that can go wrong: it reads expressions, those of the patterns and one for every
keyword of a guard, and it asks for groups by their numbers. A policy carries the proof that these
things go right, and so the recogniser of the policies does not look.

Here it looks. `Unchecked.ofText` is the recogniser that knows no more of a pattern than what stands
in the document (`Unchecked.Draft`): it reads every expression anew and takes no group for granted,
and whatever is amiss ends it. For policies that a file has been accepted with nothing ever is:
the recogniser that looks and the one that does not do the same with every text
(`Unchecked.ofText_eq`), and both of them fail only through a fault of the policies.
-/

namespace Triage.Unchecked

open PatternSpec (signed)

/-- What ends matching. -/
inductive Trouble where
  /-- The expression has no group of this number. -/
  | noGroup (index : Int)
  | failure (failure : Failure)

/-- A pattern as a document has it. -/
structure Draft where
  /-- The expression as written, whether it can be read or not. -/
  source : String
  /-- Fields with the groups asked for, whether the expression has them or not. -/
  captures : List (String × Int)

/-! ## The recogniser that looks -/

/-- Reads an expression. -/
def compile (source : String) : Except Trouble Regex.Pattern :=
  (Regex.compile true source).mapError fun fault => .failure (.expression fault)

/-- The text of a group, if the group took part. -/
def group (p : Regex.Pattern) (m : Regex.Match) (text : String) (index : Int) :
    Except Trouble (Option String) :=
  match PatternSpec.groupOf? p.groups index with
  | some n => .ok (m.group? text n)
  | none => .error (.noGroup index)

/-- Lays the captured fields on a record, in order. -/
def collect (group : Int → Except Trouble (Option String)) :
    List (String × Int) → Record → Except Trouble Record
  | [], r => .ok r
  | (name, index) :: rest, r => do
    match ← group index with
    | none => collect group rest r
    | some raw =>
      let v ← (Extraction.coerce name raw).mapError fun fault =>
        .failure (.policies (.capture fault))
      collect group rest (r.set name v)

/-- The fields that a pattern extracts from a text, if it is found there. -/
def apply (d : Draft) (text : String) : Except Trouble (Option Record) := do
  let p ← compile d.source
  match p.search? text with
  | none => return none
  | some m =>
    let named ← collect (group p m text) (signed p.names) []
    return some (← collect (group p m text) d.captures named)

/-- The keyword occurs in the text. -/
def occurs (text keyword : String) : Except Trouble Bool := do
  return ((← compile (Keyword.expression keyword)).search? text).isSome

/-- One of the keywords occurs in the text; those behind it are not looked at. -/
def anyOccurs (text : String) : List String → Except Trouble Bool
  | [] => .ok false
  | keyword :: rest => do
    if ← occurs text keyword then return true
    anyOccurs text rest

/-- The guard, if there is one, lets the text pass. -/
def admits (text : String) : Option Guard → Except Trouble Bool
  | none => .ok true
  | some g => do
    unless g.requireAny.isEmpty do
      unless ← anyOccurs text g.requireAny do return false
    return !(← anyOccurs text g.excludeAny)

/-- The fields captured by the first pattern that is found in a text. -/
def firstCapture (text : String) : List Draft → Except Trouble (Option Record)
  | [] => .ok none
  | d :: rest => do
    match ← apply d text with
    | some captured => return some captured
    | none => firstCapture text rest

/-- The pattern as the document has it. -/
def draft (q : PatternSpec) : Draft := ⟨q.source, q.written⟩

/-- The fields that a policy captures in a text, if the policy fits it. The guard of a policy without
patterns is not looked at. -/
def capture (p : Policy) (text : String) : Except Trouble (Option Record) :=
  if p.patterns.isEmpty then .ok none
  else do
    unless ← admits text p.guard do return none
    firstCapture text (p.patterns.map draft)

/-- Recognises a text by the first policy that fits it. -/
def ofText (text : String) : List Policy → Except Trouble (Option Recognition)
  | [] => .ok none
  | p :: rest => do
    match ← capture p text with
    | some captured =>
      let alert ← (Recognition.alertOf p captured).mapError Trouble.failure
      return some ⟨alert, p⟩
    | none => ofText text rest

/-! ## Looking changes nothing -/

variable {text : String}

theorem compile_of_ok {source : String} {p : Regex.Pattern}
    (h : Regex.compile true source = .ok p) : compile source = .ok p := by
  rw [compile, h, mapError_ok]

/-- The groups of captured fields are there, and so collecting them goes as without a look. -/
theorem collect_eq {p : Regex.Pattern} {m : Regex.Match} {captures : List (String × Nat)}
    (h : ∀ c ∈ captures, c.2 ≤ p.groups) (r : Record) :
    collect (group p m text) (signed captures) r =
      (Extraction.collect (m.group? text) captures r).mapError
        fun fault => .failure (.policies (.capture fault)) := by
  induction captures generalizing r with
  | nil => rfl
  | cons c rest ih =>
      obtain ⟨hc, hrest⟩ := List.forall_mem_cons.mp h
      obtain ⟨name, index⟩ := c
      have hgroup : group p m text index = .ok (m.group? text index) := by
        rw [group, PatternSpec.groupOf?_eq_some_iff.mpr ⟨rfl, hc⟩]
      rw [signed, List.map_cons, ← signed, collect, hgroup, Extraction.collect]
      show (match m.group? text index with
        | none => _
        | some raw => _ : Except Trouble Record) = _
      cases m.group? text index with
      | none => exact ih hrest r
      | some raw =>
          cases hcoerce : Extraction.coerce name raw with
          | error fault => simp [hcoerce, mapError_error, bind, Except.bind]
          | ok v => simp [hcoerce, mapError_ok, bind, Except.bind, ih hrest]

/-- A pattern that has been accepted is read again, with all the groups that it is asked for. -/
theorem apply_eq (q : PatternSpec) :
    apply (draft q) text =
      (Extraction.apply q text).mapError fun fault => .failure (.policies (.capture fault)) := by
  -- the names come from the expression itself, which has the groups that it names
  have hnames : ∀ entry ∈ q.expression.names, entry.2 ≤ q.expression.groups :=
    fun entry hentry => (Regex.isNumbered_of_compile q.compiles entry hentry).2
  rw [apply, draft, compile_of_ok q.compiles, Extraction.apply]
  show (match q.expression.search? text with
    | none => _
    | some m => _ : Except Trouble (Option Record)) = _
  cases q.expression.search? text with
  | none => rfl
  | some m =>
      show (collect _ (signed q.expression.names) [] >>= fun named =>
        collect _ (signed q.captures) named >>= fun captured => .ok (some captured)) = _
      rw [collect_eq hnames]
      cases hnamed : Extraction.collect (m.group? text) q.expression.names [] with
      | error fault => simp [hnamed, mapError_error, bind, Except.bind]
      | ok named =>
          rw [mapError_ok]
          show (collect _ (signed q.captures) named >>= fun captured => .ok (some captured)) = _
          rw [collect_eq q.captures_le]
          cases hcaptured : Extraction.collect (m.group? text) q.captures named with
          | error fault => simp [hnamed, hcaptured, mapError_error, bind, Except.bind]
          | ok captured => simp [hnamed, hcaptured, mapError_ok, bind, Except.bind, pure, Except.pure]

/-- The expression of a keyword can be read, whatever the keyword is. -/
theorem occurs_eq (text keyword : String) :
    occurs text keyword = .ok (Keyword.occurs text keyword) := by
  have hcompile := Keyword.compile_expression keyword
  rw [occurs, compile_of_ok hcompile, Keyword.occurs, hcompile]
  rfl

theorem anyOccurs_eq (text : String) (keywords : List String) :
    anyOccurs text keywords = .ok (Keyword.anyOccurs text keywords) := by
  induction keywords with
  | nil => rfl
  | cons keyword rest ih =>
      have hany : Keyword.anyOccurs text (keyword :: rest) =
          (Keyword.occurs text keyword || Keyword.anyOccurs text rest) := rfl
      rw [anyOccurs, occurs_eq, ih, hany]
      cases Keyword.occurs text keyword <;> rfl

theorem admits_eq (p : Policy) : admits text p.guard = .ok (p.admits text) := by
  rw [Policy.admits]
  cases p.guard with
  | none => rfl
  | some g =>
      dsimp only
      rw [admits, anyOccurs_eq, anyOccurs_eq, Guard.allows]
      cases g.requireAny.isEmpty with
      | true => rfl
      | false => cases Keyword.anyOccurs text g.requireAny <;> rfl

theorem firstCapture_eq (patterns : List PatternSpec) :
    firstCapture text (patterns.map draft) =
      (Recognition.firstCapture text patterns).mapError
        fun fault => .failure (.policies (.capture fault)) := by
  induction patterns with
  | nil => rfl
  | cons q rest ih =>
      rw [List.map_cons, firstCapture, apply_eq, Recognition.firstCapture]
      rcases Extraction.apply q text with fault | _ | captured
      · rfl
      · exact ih
      · rfl

theorem capture_eq (p : Policy) :
    capture p text =
      (Recognition.capture p text).mapError fun fault => .failure (.policies (.capture fault)) := by
  rw [capture, Recognition.capture]
  cases hpatterns : p.patterns with
  | nil =>
      -- without patterns nothing is captured, whatever the guard says
      cases p.admits text <;> rfl
  | cons q rest =>
      rw [← hpatterns, if_neg (by simp [hpatterns]), admits_eq, firstCapture_eq]
      cases p.admits text <;> rfl

/-- **The recogniser that looks does as the one that does not.** -/
theorem ofText_eq (text : String) (policies : List Policy) :
    ofText text policies = (Recognition.ofText text policies).mapError Trouble.failure := by
  induction policies with
  | nil => rfl
  | cons p rest ih =>
      rw [ofText, capture_eq, Recognition.ofText_cons]
      rcases Recognition.capture p text with fault | _ | captured
      · rfl
      · exact ih
      · cases halert : Recognition.alertOf p captured with
        | error e => simp [halert, mapError_ok, mapError_error, bind, Except.bind, Except.map]
        | ok alert =>
            simp [halert, mapError_ok, bind, Except.bind, Except.map, pure, Except.pure]

/-! ## Policies that a file has been accepted with -/

/-- The entry says what the pattern is. -/
def Draft.IsOf (v : Json) (d : Draft) : Prop :=
  ∃ r : Record, v = .object r ∧ r.get? "pattern" = some (.string d.source) ∧
    Schema.withDefault r "capture_groups" [] (Schema.mapOf Schema.whole) = .valid d.captures

/-- The entry for a policy lists these patterns. -/
def AreOf (v : Json) (drafts : List Draft) : Prop :=
  ∃ r : Record, v = .object r ∧
    ((r.get? "patterns" = none ∧ drafts = []) ∨
      ∃ items, r.get? "patterns" = some (.array items) ∧ List.Forall₂ Draft.IsOf items drafts)

/-- The patterns of an accepted policy are those of its entry as they stand there. -/
theorem areOf_of_check {v : Json} {p : Policy} (h : Policy.check v = .valid p) :
    AreOf v (p.patterns.map draft) := by
  obtain ⟨r, rfl, ⟨hnone, hempty⟩ | ⟨items, hitems, hpatterns⟩⟩ := Policy.patterns_of_check h
  · exact ⟨r, rfl, .inl ⟨hnone, by rw [hempty]; rfl⟩⟩
  · refine ⟨r, rfl, .inr ⟨items, hitems, ?_⟩⟩
    rw [List.forall₂_map_right_iff]
    refine hpatterns.imp fun w q hw => ?_
    obtain ⟨r, rfl, hsource, -, hcaptures⟩ := PatternSpec.parts_of_check hw
    exact ⟨r, rfl, hsource, hcaptures⟩

/-- Matching with the policies of a document is safe. -/
structure IsSafe (items : List Json) (policies : List Policy) : Prop where
  /-- What is matched with is what the document says. -/
  drafts : List.Forall₂ (fun v p => AreOf v (p.patterns.map draft)) items policies
  /-- The expressions of the patterns can be read again and have the groups asked for. -/
  expressions : ∀ p ∈ policies, ∀ q ∈ p.patterns, ∃ e, compile (draft q).source = .ok e ∧
    ∀ c ∈ (draft q).captures, 0 ≤ c.2 ∧ c.2 ≤ e.groups
  /-- The expressions of the keywords can be read, whatever characters these have. -/
  keywords : ∀ keyword, ∃ e, compile (Keyword.expression keyword) = .ok e
  /-- Looking changes nothing. -/
  agrees : ∀ text, ofText text policies = (Recognition.ofText text policies).mapError .failure
  /-- What can still go wrong is a fault of the policies: a captured text that is not the number that
  its field asks for, or a record that is no alert. -/
  answers : ∀ text, (∃ r, ofText text policies = .ok r) ∨
    (∃ fault, ofText text policies = .error (.failure (.policies (.capture fault)))) ∨
    ∃ p ∈ policies, ∃ issues,
      ofText text policies = .error (.failure (.policies (.invalidRecord p.alertType issues)))

/-- **Policies that a file has been accepted with are safe to match with.** -/
theorem isSafe_of_ofFile {files : Files} {path : Path} {policies : List Policy}
    (h : Policies.ofFile files path = .ok policies) :
    ∃ bytes items, files.get? path = some (.file bytes) ∧ Policies.Lists bytes items ∧
      IsSafe items policies := by
  obtain ⟨bytes, hfile⟩ : ∃ bytes, files.get? path = some (.file bytes) := by
    unfold Policies.ofFile at h
    split at h
    · cases h
    · cases h
    · rename_i bytes hfile
      exact ⟨bytes, hfile⟩
  rw [Policies.ofFile_of_file hfile] at h
  obtain ⟨items, hlists, haccepted⟩ := Policies.ofBytes_eq_ok_iff.mp h
  exact ⟨bytes, items, hfile, hlists,
    { drafts := haccepted.entries.imp fun _ _ hv => areOf_of_check hv
      expressions := by
        intro p _ q _
        refine ⟨q.expression, compile_of_ok q.compiles, fun c hc => ?_⟩
        obtain ⟨d, hd, rfl⟩ := List.mem_map.mp hc
        exact ⟨Int.natCast_nonneg _, Int.ofNat_le.mpr (q.captures_le d hd)⟩
      keywords := fun keyword => ⟨_, compile_of_ok (Keyword.compile_expression keyword)⟩
      agrees := fun text => ofText_eq text policies
      answers := by
        intro text
        rw [ofText_eq]
        cases hout : Recognition.ofText text policies with
        | ok r => exact .inl ⟨r, rfl⟩
        | error e =>
            rcases Recognition.fault_of_ofText hout with ⟨fault, rfl⟩ | ⟨p, hp, issues, rfl⟩
            · exact .inr (.inl ⟨fault, rfl⟩)
            · exact .inr (.inr ⟨p, hp, issues, rfl⟩) }⟩

/-- A policy file with a named group, a group asked for by number and a keyword that is all signs. -/
def signs : List UInt8 :=
  ("\x7b\"policies\": [\x7b\"alert_type\": \"a\", \"guard\": \x7b\"exclude_any\": [\"(*[\"]\x7d, "
    ++ "\"patterns\": [\x7b\"pattern\": \"(?P<zone>z)(d)\", "
    ++ "\"capture_groups\": \x7b\"raw\": 2\x7d\x7d]\x7d]\x7d").toUTF8.toList

/-- It is accepted, and so it is safe. -/
theorem isSafe_signs :
    ∃ policies, Policies.ofFile [(["p.json"], .file signs)] ["p.json"] = .ok policies ∧
      policies ≠ [] ∧
      ∃ bytes items, Files.get? [(["p.json"], .file signs)] ["p.json"] = some (.file bytes) ∧
        Policies.Lists bytes items ∧ IsSafe items policies := by
  have hrun : ((Policies.ofBytes ["p.json"] signs).toOption.map List.isEmpty) = some false := by
    decide +kernel
  cases hread : Policies.ofBytes ["p.json"] signs with
  | error e => rw [hread] at hrun; cases hrun
  | ok policies =>
      rw [hread] at hrun
      refine ⟨policies, hread, ?_, isSafe_of_ofFile hread⟩
      rintro rfl
      cases hrun

/-- A document that asks for a group which is not there would end matching. -/
example : (apply ⟨"disk", [("zone", 1)]⟩ "disk").toOption.isNone = true := by decide +kernel

end Triage.Unchecked
