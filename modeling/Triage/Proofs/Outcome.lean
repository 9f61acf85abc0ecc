import Triage.CommandLine.Outcome
import Triage.Proofs.Analysis
import Triage.Proofs.Fault

/-!
# What the code of a run says

A run that ends with a code has gone one of few ways, and the code tells which: 0 where the policies
were listed or something was found, 1 where the text is blank or nothing was found, and 2 where the
configuration is invalid or the policies are to blame (`IsCoded`). The configuration comes before the
text: where it is invalid, the text is not looked at, and a blank one makes no difference.

The policies are had before the text is read. So if they cannot be had, nobody is asked anything, and
nothing is written (`IsHalted`).
-/

namespace Triage.CommandLine

variable {world : World} {place : Surroundings} {config : Config} {command : Command}
  {arguments : Arguments} {text : String} {policies : List Policy} {outcome : Outcome}
  {reading : Reading} {fault : PolicyFault} {e : Failure} {s s' s₁ s₂ : Session}

/-! ## The ways of a command -/

/-- The session in which a command is run: nothing has happened but that the configuration has been
built. -/
def ready (place : Surroundings) (arguments : Arguments) (config : Config) : Session :=
  { Session.start place arguments.policies with config := some config }

/-- The text that a command is about, if it is about one. -/
def Command.text? (world : World) : Command → Option String
  | .analyze text => some (text.getD world.input)
  | .policies => none

/-- The analysis of a text. -/
def call (world : World) (text : String) : Analysis.Call :=
  ⟨.builtin, none, text, world.now, world.fresh, none⟩

/-- The text is blank. -/
def IsBlank (world : World) (command : Command) : Prop :=
  ∃ text, command.text? world = some text ∧ Text.isBlankText text = true

/-- The policies are had and listed. -/
def Lists (s : Session) (command : Command) (source : Option Path) (policies : List Policy) : Prop :=
  command = .policies ∧ ∃ s', Store.load.inSession s = (.ok policies, s') ∧ s'.store.source = source

/-- The policies are had and the text is read, with this as the reading. -/
def Reads (world : World) (s : Session) (command : Command) (text : String) (reading : Reading) :
    Prop :=
  command.text? world = some text ∧ Text.isBlankText text = false ∧
    ∃ policies s₁ s₂, Store.load.inSession s = (.ok policies, s₁) ∧
      (call world text).read world.backend s₁ = (.ok reading, s₂)

/-- The policies are to blame: they cannot be had, or they spoil the reading. -/
inductive Faults (world : World) (s : Session) (command : Command) : PolicyFault → Prop where
  | file {fault : PolicyFault} {s' : Session} : ¬ IsBlank world command →
      Store.load.inSession s = (.error (.policies fault), s') → Faults world s command fault
  | reading {text : String} {policies : List Policy} {denied : List String} {fault : PolicyFault}
      {s₁ s₂ : Session} :
      command.text? world = some text → Text.isBlankText text = false →
      Store.load.inSession s = (.ok policies, s₁) →
      (Reading.denylist none).inSession ((call world text).entered s₁) = (.ok denied, s₂) →
      Reading.SpoiltBy denied world.backend text s₂ (Recognition.ofText text policies) fault →
      Faults world s command fault

/-! ## Running a command -/

theorem run_of_text (h : command.text? world = some text) :
    command.run world = analyzeText world text := by
  cases command with
  | analyze given =>
      cases h
      rfl
  | policies => cases h

/-- The outcome that an answer amounts to. -/
def Outcome.ofResult : Except String Report → Outcome
  | .ok report => .fine (reportText report)
  | .error reason => .unanswered (noReport reason) ""

theorem inSession_run_of_isBlank (h : IsBlank world command) (s : Session) :
    (command.run world).inSession s = (.ok (.unanswered "" "Alert text is empty\n"), s) := by
  obtain ⟨text, htext, hblank⟩ := h
  rw [run_of_text htext, analyzeText, if_pos hblank]
  rfl

/-- A command that is not about a blank text has the policies first. -/
theorem inSession_run_of_load_error (hblank : ¬ IsBlank world command)
    (h : Store.load.inSession s = (.error e, s')) :
    (command.run world).inSession s = (.error e, s') := by
  cases htext : command.text? world with
  | none =>
      cases command with
      | analyze given => cases htext
      | policies => exact Run.inSession_bind_error h
  | some text =>
      have hfilled : ¬ Text.isBlankText text = true := fun hb => hblank ⟨text, htext, hb⟩
      rw [run_of_text htext, analyzeText, if_neg hfilled]
      exact Run.inSession_bind_error h

theorem inSession_run_policies (h : Store.load.inSession s = (.ok policies, s')) :
    (Command.policies.run world).inSession s =
      (.ok (.fine (listing s'.store.source policies)), s') := by
  show listPolicies.inSession s = _
  rw [listPolicies, Run.inSession_bind_ok h, Run.inSession_bind_ok (Run.inSession_get s')]
  rfl

/-- What comes of a text that is not blank is its analysis, once the policies are had. -/
theorem analyzeText_eq (world : World) (hblank : Text.isBlankText text = false) :
    analyzeText world text = (do
      let _ ← Store.load
      let analysis ← (call world text).run world.backend
      return .ofResult analysis.result) := by
  rw [analyzeText, hblank, if_neg Bool.false_ne_true]
  refine bind_congr fun _ => bind_congr fun analysis => ?_
  cases analysis.result <;> rfl

/-- A reading is answered as its analysis says. -/
theorem run_of_reads (h : Reads world s command text reading) :
    ((command.run world).inSession s).1 =
      ((call world text).answer reading).map fun analysis => .ofResult analysis.result := by
  obtain ⟨htext, hblank, policies, s₁, s₂, hload, hread⟩ := h
  rw [run_of_text htext, analyzeText_eq world hblank, Run.inSession_bind_ok hload,
    Run.inSession_bind, Analysis.Call.inSession_run, hread]
  dsimp only
  cases (call world text).answer reading <;> rfl

/-- A command that ends has gone one of four ways. -/
inductive Comes (world : World) (s : Session) (command : Command) : Outcome → Prop where
  | listed {source : Option Path} {policies : List Policy} :
      Lists s command source policies → Comes world s command (.fine (listing source policies))
  | blank : IsBlank world command →
      Comes world s command (.unanswered "" "Alert text is empty\n")
  | found {text : String} {i : Interpretation} {decision : Decision} :
      Reads world s command text (.found i) → Rules.decide i.alert i.policy = .ok decision →
      Comes world s command (.fine (reportText ((call world text).reportOn i decision)))
  | nothing {text reason : String} {model : Option String} :
      Reads world s command text (.nothing reason model) →
      Comes world s command (.unanswered (noReport reason) "")

theorem comes_of_run (h : (command.run world).inSession s = (.ok outcome, s')) :
    Comes world s command outcome := by
  cases htext : command.text? world with
  | none =>
      cases command with
      | analyze given => cases htext
      | policies =>
          obtain ⟨policies, s₁, hload, hlist⟩ := Run.bind_eq_ok_iff.mp h
          rw [Run.inSession_bind_ok (Run.inSession_get s₁)] at hlist
          cases hlist
          exact .listed ⟨rfl, _, hload, rfl⟩
  | some text =>
      cases hblank : Text.isBlankText text with
      | true =>
          have hempty : IsBlank world command := ⟨text, htext, hblank⟩
          rw [inSession_run_of_isBlank hempty] at h
          cases h
          exact .blank hempty
      | false =>
          rw [run_of_text htext, analyzeText_eq world hblank] at h
          obtain ⟨policies, s₁, hload, hrun⟩ := Run.bind_eq_ok_iff.mp h
          obtain ⟨analysis, s₂, hanalysis, hresult⟩ := Run.bind_eq_ok_iff.mp hrun
          -- the answer of the analysis is that to a reading, which tells the two ways apart
          obtain ⟨reading, t, hread, hanswer, -⟩ := Analysis.Call.read_of_run hanalysis
          have hreads : Reads world s command text reading :=
            ⟨htext, hblank, policies, s₁, t, hload, hread⟩
          cases hresult
          cases reading with
          | nothing reason model =>
              cases hanswer
              exact .nothing hreads
          | found i =>
              rw [Analysis.Call.answer] at hanswer
              split at hanswer
              · cases hanswer
              · rename_i decision hdecide
                cases hanswer
                exact .found hreads hdecide

theorem run_eq_policies_iff {path : Path} (hheld : s.store.held = some (path, policies)) :
    (∃ s', ((call world text).run world.backend).inSession s = (.error (.policies fault), s')) ↔
      ∃ denied s₁, (Reading.denylist none).inSession ((call world text).entered s) =
          (.ok denied, s₁) ∧
        Reading.SpoiltBy denied world.backend text s₁ (Recognition.ofText text policies) fault :=
  Analysis.Call.run_eq_policies_iff.trans
    (Reading.ofText_eq_policies_iff (s := (call world text).entered s) hheld)

/-- **A command fails through the policies exactly where they are to blame.** -/
theorem faults_iff : Faults world s command fault ↔
    ∃ s', (command.run world).inSession s = (.error (.policies fault), s') := by
  constructor
  · intro h
    cases h with
    | file hblank hload => exact ⟨_, inSession_run_of_load_error hblank hload⟩
    | reading htext hblank hload hd hspoilt =>
        obtain ⟨path, hheld⟩ := Store.held_of_load hload
        obtain ⟨s', hrun⟩ := (run_eq_policies_iff hheld).mpr ⟨_, _, hd, hspoilt⟩
        refine ⟨s', ?_⟩
        rw [run_of_text htext, analyzeText_eq world hblank, Run.inSession_bind_ok hload,
          Run.inSession_bind_error hrun]
  · rintro ⟨s', h⟩
    rcases hload : Store.load.inSession s with ⟨e | policies, s₁⟩
    · by_cases hblank : IsBlank world command
      · rw [inSession_run_of_isBlank hblank] at h
        cases h
      · rw [inSession_run_of_load_error hblank hload] at h
        cases h
        exact .file hblank hload
    cases htext : command.text? world with
    | none =>
        cases command with
        | analyze given => cases htext
        | policies =>
            rw [inSession_run_policies hload] at h
            cases h
    | some text =>
        cases hblank : Text.isBlankText text with
        | true =>
            rw [inSession_run_of_isBlank ⟨text, htext, hblank⟩] at h
            cases h
        | false =>
            rw [run_of_text htext, analyzeText_eq world hblank, Run.inSession_bind_ok hload] at h
            -- an analysis is put into words whatever it says, so it is the analysis that has failed
            rcases Run.bind_eq_error_iff.mp h with hrun | ⟨analysis, t, -, hresult⟩
            · obtain ⟨path, hheld⟩ := Store.held_of_load hload
              obtain ⟨denied, s₂, hd, hspoilt⟩ := (run_eq_policies_iff hheld).mp ⟨s', hrun⟩
              exact .reading htext hblank hload hd hspoilt
            · cases hresult

/-! ## The code of a run -/

/-- How a run ends, given how its command does. -/
def ending : Except Failure Outcome → Except Abort Outcome
  | .ok outcome => .ok outcome
  | .error failure => failed failure

/-- The policies were listed, or something was found. -/
def Answers (world : World) (s : Session) (command : Command) : Prop :=
  (∃ source policies, Lists s command source policies) ∨
    ∃ text i, Reads world s command text (.found i)

/-- The text is blank, or nothing was found. -/
def Falters (world : World) (s : Session) (command : Command) : Prop :=
  IsBlank world command ∨ ∃ text reason model, Reads world s command text (.nothing reason model)

section Ending

variable (h : ending ((command.run world).inSession s).1 = .ok outcome)

include h

theorem code_of_answers (ha : Answers world s command) : outcome.code = 0 := by
  rcases ha with ⟨source, policies, rfl, s', hload, -⟩ | ⟨text, i, hreads⟩
  · rw [inSession_run_policies hload] at h
    cases h
    rfl
  · rw [run_of_reads hreads, Analysis.Call.answer] at h
    split at h
    · cases h
    · cases h
      rfl

theorem code_of_falters (hf : Falters world s command) : outcome.code = 1 := by
  rcases hf with hblank | ⟨text, reason, model, hreads⟩
  · rw [inSession_run_of_isBlank hblank] at h
    cases h
    rfl
  · rw [run_of_reads hreads] at h
    cases h
    rfl

theorem code_of_faults (hf : Faults world s command fault) : outcome.code = 2 := by
  obtain ⟨s', hrun⟩ := faults_iff.mp hf
  rw [hrun] at h
  cases h
  rfl

/-- A command that leads to a code has answered or faltered, or the policies are to blame. -/
theorem cases_of_ending :
    Answers world s command ∨ Falters world s command ∨
      ∃ fault, Faults world s command fault := by
  rcases hrun : (command.run world).inSession s with ⟨e | reached, s'⟩
  · rw [hrun] at h
    -- of the failures only those through the policies lead to a code
    cases e with
    | policies fault => exact .inr (.inr ⟨fault, faults_iff.mpr ⟨s', hrun⟩⟩)
    | _ => cases h
  · cases comes_of_run hrun with
    | listed hlists => exact .inl (.inl ⟨_, _, hlists⟩)
    | blank hblank => exact .inr (.inl (.inl hblank))
    | found hreads => exact .inl (.inr ⟨_, _, hreads⟩)
    | nothing hreads => exact .inr (.inl (.inr ⟨_, _, _, hreads⟩))

/-! No two of these go together, so each code stands for one of them. -/

theorem code_eq_zero_iff : outcome.code = 0 ↔ Answers world s command := by
  refine ⟨fun hcode => ?_, code_of_answers h⟩
  rcases cases_of_ending h with ha | hf | ⟨fault, hf⟩
  · exact ha
  · exact absurd (hcode.symm.trans (code_of_falters h hf)) (by decide)
  · exact absurd (hcode.symm.trans (code_of_faults h hf)) (by decide)

theorem code_eq_one_iff : outcome.code = 1 ↔ Falters world s command := by
  refine ⟨fun hcode => ?_, code_of_falters h⟩
  rcases cases_of_ending h with ha | hf | ⟨fault, hf⟩
  · exact absurd (hcode.symm.trans (code_of_answers h ha)) (by decide)
  · exact hf
  · exact absurd (hcode.symm.trans (code_of_faults h hf)) (by decide)

theorem code_eq_two_iff : outcome.code = 2 ↔ ∃ fault, Faults world s command fault := by
  refine ⟨fun hcode => ?_, fun ⟨_, hf⟩ => code_of_faults h hf⟩
  rcases cases_of_ending h with ha | hf | hf
  · exact absurd (hcode.symm.trans (code_of_answers h ha)) (by decide)
  · exact absurd (hcode.symm.trans (code_of_falters h hf)) (by decide)
  · exact hf

end Ending

theorem inSession_config_start (place : Surroundings) (arguments : Arguments) :
    Run.config.inSession (.start place arguments.policies) =
      match place.config with
      | .ok config => (.ok config, ready place arguments config)
      | .error e => (.error e, .start place arguments.policies) :=
  Run.inSession_config _

theorem misconfigured_of_unconfigured (h : unconfigured e = .ok outcome) :
    ∃ message, outcome = .misconfigured message := by
  cases e with
  | settings invalid => exact ⟨_, (Except.ok.inj h).symm⟩
  | undecodable fault => exact ⟨_, (Except.ok.inj h).symm⟩
  | _ => cases h

theorem misconfigured_of_failed (h : failed e = .ok outcome) :
    ∃ message, outcome = .misconfigured message := by
  cases e with
  | policies fault => exact ⟨_, (Except.ok.inj h).symm⟩
  | _ => cases h

/-- Without a configuration a run is over. -/
theorem run_of_config_error (hconfig : place.config = .error e) :
    arguments.run world (.start place arguments.policies) =
      (unconfigured e, .start place arguments.policies) := by
  rw [Arguments.run, inSession_config_start, hconfig]

/-- With one it ends as its command does, unless the log cannot be set up. -/
theorem run_of_config_ok (world : World) (hconfig : place.config = .ok config) :
    (∃ fault, arguments.run world (.start place arguments.policies) =
        (.error (.log fault), ready place arguments config)) ∨
      arguments.run world (.start place arguments.policies) =
        (ending ((arguments.command.run world).inSession (ready place arguments config)).1,
          ((arguments.command.run world).inSession (ready place arguments config)).2) := by
  rw [Arguments.run, inSession_config_start, hconfig]
  dsimp only
  split
  · rename_i fault _
    exact .inl ⟨fault, rfl⟩
  · refine .inr ?_
    rcases (arguments.command.run world).inSession (ready place arguments config) with ⟨e | o, t⟩
    · rfl
    · rfl

/-- What the code of a run says. -/
structure IsCoded (world : World) (place : Surroundings) (arguments : Arguments)
    (outcome : Outcome) : Prop where
  /-- The configuration is invalid, or the policies are to blame. -/
  two_iff : outcome.code = 2 ↔ (∃ e, place.config = .error e) ∨
    ∃ config fault, place.config = .ok config ∧
      Faults world (ready place arguments config) arguments.command fault
  /-- The policies were listed, or something was found. -/
  zero_iff : outcome.code = 0 ↔ ∃ config, place.config = .ok config ∧
    Answers world (ready place arguments config) arguments.command
  /-- There is a configuration, and the text is blank or nothing was found. -/
  one_iff : outcome.code = 1 ↔ ∃ config, place.config = .ok config ∧
    Falters world (ready place arguments config) arguments.command
  /-- What is written about something found is the report on it. -/
  report : ∀ config text i, place.config = .ok config →
    Reads world (ready place arguments config) arguments.command text (.found i) →
    ∃ decision, Rules.decide i.alert i.policy = .ok decision ∧
      outcome.output = reportText ((call world text).reportOn i decision)

theorem isCoded_of_run
    (h : (arguments.run world (.start place arguments.policies)).1 = .ok outcome) :
    IsCoded world place arguments outcome := by
  cases hconfig : place.config with
  | error e =>
      rw [run_of_config_error hconfig] at h
      obtain ⟨message, rfl⟩ := misconfigured_of_unconfigured h
      exact
        { two_iff := ⟨fun _ => .inl ⟨e, hconfig⟩, fun _ => rfl⟩
          zero_iff := by simp [hconfig, Outcome.misconfigured]
          one_iff := by simp [hconfig, Outcome.misconfigured]
          report := fun config text i hother => by cases hconfig.symm.trans hother }
  | ok config =>
      have hending : ending
          ((arguments.command.run world).inSession (ready place arguments config)).1 =
          .ok outcome := by
        rcases run_of_config_ok world hconfig with ⟨fault, hlog⟩ | hrun
        · rw [hlog] at h
          cases h
        · rw [hrun] at h
          exact h
      have hsame {config' : Config} (hother : place.config = .ok config') : config' = config :=
        Except.ok.inj (hother.symm.trans hconfig)
      constructor
      case two_iff =>
        rw [code_eq_two_iff hending]
        constructor
        · rintro ⟨fault, hf⟩
          exact .inr ⟨config, fault, hconfig, hf⟩
        · rintro (⟨e, he⟩ | ⟨config', fault, hother, hf⟩)
          · cases hconfig.symm.trans he
          · exact ⟨fault, hsame hother ▸ hf⟩
      case zero_iff =>
        rw [code_eq_zero_iff hending]
        constructor
        · exact fun ha => ⟨config, hconfig, ha⟩
        · rintro ⟨config', hother, ha⟩
          exact hsame hother ▸ ha
      case one_iff =>
        rw [code_eq_one_iff hending]
        constructor
        · exact fun hf => ⟨config, hconfig, hf⟩
        · rintro ⟨config', hother, hf⟩
          exact hsame hother ▸ hf
      case report =>
        intro config' text i hother hreads
        rw [hsame hother] at hreads
        rw [run_of_reads hreads, Analysis.Call.answer] at hending
        split at hending
        · cases hending
        · rename_i decision hdecide
          cases hending
          exact ⟨decision, hdecide, rfl⟩

/-! ## Policies that cannot be had -/

/-- A run has come to nothing before anybody was asked. -/
structure IsHalted (result : Except Abort Outcome × Session) : Prop where
  requests : result.2.requests = []
  output : ∀ outcome, result.1 = .ok outcome → outcome.output = ""

/-- A command that has the policies first is halted by them. -/
theorem isHalted_of_load_error (world : World) (hfilled : ¬ IsBlank world arguments.command)
    (hload : (Store.load.inSession (.start place arguments.policies)).1 = .error e) :
    IsHalted (arguments.run world (.start place arguments.policies)) := by
  have hmisconfigured {result : Except Abort Outcome} {e : Failure}
      (h : result = unconfigured e ∨ result = failed e) :
      ∀ outcome, result = .ok outcome → outcome.output = "" := by
    rintro outcome rfl
    rcases h with h | h
    · obtain ⟨message, rfl⟩ := misconfigured_of_unconfigured h.symm
      rfl
    · obtain ⟨message, rfl⟩ := misconfigured_of_failed h.symm
      rfl
  cases hconfig : place.config with
  | error e' =>
      rw [run_of_config_error hconfig]
      exact ⟨rfl, hmisconfigured (.inl rfl)⟩
  | ok config =>
      -- the configuration in force is what a load would have had by itself
      have hoffer : (ready place arguments config).offer =
          (Session.start place arguments.policies).offer := Session.offer_fill_config hconfig
      have hready : (Store.load.inSession (ready place arguments config)).1 = .error e := by
        rw [(Store.offer_of_load (Prod.eta _).symm).1]
        rw [(Store.offer_of_load (Prod.eta _).symm).1] at hload
        exact (congrArg Offer.policies hoffer).trans hload
      rcases hrun : Store.load.inSession (ready place arguments config) with ⟨o, s'⟩
      rw [hrun] at hready
      obtain rfl : o = .error e := hready
      have hkeeps : Run.Keeps Session.requests Store.load :=
        Store.keeps_load (fun _ _ => rfl) fun _ _ => rfl
      rcases run_of_config_ok world hconfig with ⟨fault, hlog⟩ | hcommand
      · rw [hlog]
        exact ⟨rfl, fun outcome h => by cases h⟩
      · rw [hcommand, inSession_run_of_load_error hfilled hrun]
        exact ⟨hkeeps.of_run hrun, hmisconfigured (.inr rfl)⟩

/-! ## Runs -/

/-- What a run of a command that is understood comes to. -/
structure IsAccounted (world : World) (place : Surroundings) (arguments : Arguments)
    (result : Except Abort Outcome × Session) : Prop where
  /-- If it comes to a code, that says what has happened. -/
  coded : ∀ outcome, result.1 = .ok outcome → IsCoded world place arguments outcome
  /-- If the policies cannot be had, a text that is not blank comes to nothing. -/
  halted : ∀ text e, arguments.command.text? world = some text →
    Text.isBlankText text = false →
    (Store.load.inSession (.start place arguments.policies)).1 = .error e → IsHalted result

/-- **The code of a run says what has happened, and policies that cannot be had halt it.** -/
theorem isAccounted_run {given : List String} (h : Arguments.read given = .ok arguments)
    (world : World) (place : Surroundings) :
    IsAccounted world place arguments (run world place given) := by
  rw [run, h]
  constructor
  case coded => exact fun outcome => isCoded_of_run
  case halted =>
    intro text e htext hblank hload
    refine isHalted_of_load_error world ?_ hload
    rintro ⟨other, hother, hb⟩
    obtain rfl := Option.some.inj (htext.symm.trans hother)
    rw [hblank] at hb
    cases hb

theorem exists_of_code {result : Except Abort Outcome} {code : Nat}
    (h : result.toOption.map Outcome.code = some code) :
    ∃ outcome, result = .ok outcome ∧ outcome.code = code := by
  cases result with
  | error abort => cases h
  | ok outcome => exact ⟨outcome, rfl, Option.some.inj h⟩

/-- A world in which every model is silent. -/
def silent : World := ⟨.replying [], "", "", ""⟩

/-- Surroundings with a policy file and these variables; its only policy recognises one text. -/
def furnished (env : Environment) : Surroundings where
  directory := []
  standard := ["policies.json"]
  legacy := ["config.json"]
  files :=
    let policy : Json := .object [
      ("alert_type", .string "disk_full"),
      ("patterns", .array [.object [("pattern", .string "disk full")]])]
    let document : Json := .object [("policies", .array [policy])]
    [(["policies.json"], .file (document.write .compact).toUTF8.toList)]
  env := env

/-- The arguments that ask for the analysis of a text. -/
def about (text : String) : Arguments := ⟨none, none, .analyze (some text)⟩

theorem isAccounted_furnished :
    Arguments.read ["analyze", "disk full"] = .ok (about "disk full") ∧
      (∃ outcome, (run silent (furnished []) ["analyze", "disk full"]).1 = .ok outcome ∧
        outcome.code = 0) ∧
      IsAccounted silent (furnished []) (about "disk full")
        (run silent (furnished []) ["analyze", "disk full"]) :=
  ⟨rfl, exists_of_code (by decide +kernel), isAccounted_run rfl silent (furnished [])⟩

/-- A blank text does not make the code 1 where the configuration is invalid. -/
theorem misconfigured_blank :
    ∃ outcome, (run silent (furnished [("LOG_LEVEL", "loud")]) ["analyze", " "]).1 = .ok outcome ∧
      ¬ (outcome.code = 1 ↔ IsBlank silent (about " ").command ∨
        ∃ config text reason model, (furnished [("LOG_LEVEL", "loud")]).config = .ok config ∧
          Reads silent (ready (furnished [("LOG_LEVEL", "loud")]) (about " ") config)
            (about " ").command text (.nothing reason model)) := by
  have htwo : (run silent (furnished [("LOG_LEVEL", "loud")]) ["analyze", " "]).1.toOption.map
      Outcome.code = some 2 := by decide +kernel
  obtain ⟨outcome, hrun, hcode⟩ := exists_of_code htwo
  refine ⟨outcome, hrun, fun hone => ?_⟩
  have hblank : IsBlank silent (about " ").command := ⟨" ", rfl, by decide⟩
  rw [hone.mpr (.inl hblank)] at hcode
  cases hcode

end Triage.CommandLine
