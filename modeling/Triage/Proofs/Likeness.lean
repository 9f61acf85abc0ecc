import Triage.Proofs.Items
import Triage.Proofs.Settings

/-!
# Lists that name the same alert types

Two configurations are alike (`Config.Alike`) if they differ at most in how they write the list of
the alert types that are never returned. Two environments are if they differ at most in that, as
where the variable is set to lists with the same items (`Environment.alike_put`). Of alike
environments, with the same files around them, alike configurations are built, or none for the same
reason (`Surroundings.config_alike`).
-/

namespace Triage

open Schema

/-! ## Alike configurations -/

/-- The configurations differ at most in how they write the same alert types. -/
structure Config.Alike (c c' : Config) : Prop where
  policiesPath : c'.policiesPath = c.policiesPath
  logLevel : c'.logLevel = c.logLevel
  backend : c'.backend = c.backend
  items : ∀ x, Config.IsItem x c.disabledAlertTypes ↔ Config.IsItem x c'.disabledAlertTypes

namespace Config.Alike

variable {c c' : Config}

theorem refl (c : Config) : c.Alike c := ⟨rfl, rfl, rfl, fun _ => Iff.rfl⟩

theorem mem_denylist_iff (h : c.Alike c') (x : String) : x ∈ c.denylist ↔ x ∈ c'.denylist := by
  rw [Config.mem_denylist_iff, Config.mem_denylist_iff]
  exact h.items x

end Config.Alike

/-- Two builds come to the same: both fail in the same way, or what they give is related. -/
inductive Likewise {ε α : Type} (R : α → α → Prop) : Except ε α → Except ε α → Prop where
  | ok {a a' : α} : R a a' → Likewise R (.ok a) (.ok a')
  | error (e : ε) : Likewise R (.error e) (.error e)

theorem Likewise.mapError {ε ε' α : Type} {R : α → α → Prop} {x x' : Except ε α}
    (h : Likewise R x x') (f : ε → ε') : Likewise R (x.mapError f) (x'.mapError f) := by
  cases h with
  | ok h => exact .ok h
  | error e => exact .error (f e)

/-! ## Environments that lead to alike configurations -/

namespace Environment

/-- The name of the variable that lists the alert types. -/
def listName : String := "parser_disabled_alert_types"

/-- The list of the alert types that are never returned; without one it is empty. -/
def list (env : Environment) : String := (env.get? listName).getD ""

/-- The environments differ at most in how they list the same alert types. -/
structure Alike (env env' : Environment) : Prop where
  others : ∀ name, name ≠ listName → env'.get? name = env.get? name
  items : ∀ x, Config.IsItem x env.list ↔ Config.IsItem x env'.list

variable {env env' : Environment}

theorem Alike.refl (env : Environment) : env.Alike env := ⟨fun _ _ => rfl, fun _ => Iff.rfl⟩

/-! ### A variable that is set -/

/-- Where there is a variable of exactly the name, its value is replaced. -/
theorem get?_put_of_any {name : String} (h : (env.any fun v => v.1 = name) = true)
    (value other : String) :
    (env.put name (some value)).get? other =
      (env.reverse.find? fun v => Text.lower v.1 = other).map fun v =>
        if v.1 = name then value else v.2 := by
  have hput : env.put name (some value) =
      env.map fun v => if v.1 = name then (name, value) else v := if_pos h
  rw [get?, hput, ← List.map_reverse, List.find?_map, Option.map_map]
  have hname (v : String × String) : (if v.1 = name then (name, value) else v).1 = v.1 := by
    split
    · rename_i hv
      exact hv.symm
    · rfl
  simp only [Function.comp_def, hname, apply_ite Prod.snd]

/-- Elsewhere it comes last. -/
theorem put_of_not_any {name : String} (h : ¬ (env.any fun v => v.1 = name) = true)
    (value : String) : env.put name (some value) = env ++ [(name, value)] :=
  if_neg h

/-- Setting a variable changes none that has another name. -/
theorem get?_put_of_ne {name other : String} (h : Text.lower name ≠ other) (value : String)
    (env : Environment) : (env.put name (some value)).get? other = env.get? other := by
  by_cases hany : (env.any fun v => v.1 = name) = true
  · rw [get?_put_of_any hany, get?]
    cases hfind : env.reverse.find? fun v => Text.lower v.1 = other with
    | none => rfl
    | some v =>
        have hlower : Text.lower v.1 = other := by simpa using List.find?_some hfind
        have hv : v.1 ≠ name := fun hv => h (hv ▸ hlower)
        rw [Option.map_some, Option.map_some, if_neg hv]
  · rw [put_of_not_any hany, get?, get?, List.reverse_append, List.reverse_singleton,
      List.singleton_append, List.find?_cons_of_neg (by simpa using h)]

/-- A variable that is set has the value, unless one that is spelled in another way comes later. -/
theorem exists_get?_put (env : Environment) (name : String) :
    ∃ later : Option String, ∀ value,
      (env.put name (some value)).get? (Text.lower name) = some (later.getD value) := by
  by_cases hany : (env.any fun v => v.1 = name) = true
  · obtain ⟨v, hv, hname⟩ := List.any_eq_true.mp hany
    have hsome : (env.reverse.find? fun v => Text.lower v.1 = Text.lower name).isSome = true := by
      rw [List.find?_isSome]
      exact ⟨v, List.mem_reverse.mpr hv, by simpa using congrArg Text.lower (by simpa using hname)⟩
    obtain ⟨w, hw⟩ := Option.isSome_iff_exists.mp hsome
    refine ⟨if w.1 = name then none else some w.2, fun value => ?_⟩
    rw [get?_put_of_any hany, hw, Option.map_some]
    split <;> rfl
  · refine ⟨none, fun value => ?_⟩
    rw [put_of_not_any hany, get?, List.reverse_append, List.reverse_singleton,
      List.singleton_append, List.find?_cons_of_pos (by simp)]
    rfl

/-- **How the list is written does not count**, only which items it has. -/
theorem alike_put {name value value' : String} (hname : Text.lower name = listName)
    (hitems : ∀ x, Config.IsItem x value ↔ Config.IsItem x value') (env : Environment) :
    (env.put name (some value)).Alike (env.put name (some value')) := by
  constructor
  case others =>
    intro other hother
    have hne : Text.lower name ≠ other := fun h => hother (h.symm.trans hname)
    rw [get?_put_of_ne hne, get?_put_of_ne hne]
  case items =>
    intro x
    obtain ⟨later, hlater⟩ := exists_get?_put env name
    rw [list, list, ← hname, hlater, hlater]
    cases later with
    | none => exact hitems x
    | some v => exact Iff.rfl

end Environment

theorem BackendSettings.fieldsOf_congr {env env' : Environment} {start : String}
    {names : List String}
    (h : ∀ name ∈ names, env'.get? (start ++ name) = env.get? (start ++ name)) :
    fieldsOf env' start names = fieldsOf env start names := by
  refine List.filterMap_congr fun name hname => ?_
  rw [h name hname]

namespace Environment.Alike

variable {env env' : Environment}

/-- The list is not among the settings of the backend. -/
theorem check_eq (h : env.Alike env') : BackendSettings.check env' = BackendSettings.check env := by
  unfold BackendSettings.check
  rw [BackendSettings.fieldsOf_congr fun name hname => h.others _ ?_]
  revert name
  decide +kernel

theorem load (h : env.Alike env') {file : Option String}
    (hfile : ∀ content, file = some content →
      Dotenv.settings env'.spelled? content = Dotenv.settings env.spelled? content) :
    Likewise Config.Alike (Config.load env file) (Config.load env' file) := by
  have hsetting (file : Dotenv.Settings) (name : String) (hname : name ≠ listName) :
      Config.setting env' file name = Config.setting env file name := by
    rw [Config.setting, Config.setting, h.others name hname]
  unfold Config.load
  rw [h.check_eq]
  cases BackendSettings.check env with
  | invalid issues => exact .error _
  | countTooLarge => exact .error _
  | valid backend =>
      rcases file with _ | content
      all_goals dsimp only
      case' some => rw [hfile content rfl]
      all_goals
        rw [hsetting _ "policies_path" (by decide), hsetting _ "log_level" (by decide)]
        generalize withDefault _ "policies_path" none (optional text) = path
        generalize withDefault _ "log_level" "INFO" Config.checkLevel = level
        cases path <;> cases level
        case valid.valid => exact .ok ⟨rfl, rfl, rfl, h.items⟩
        all_goals exact .error _

end Environment.Alike

/-- The surroundings differ at most in how the environment lists the same alert types, and the file
of settings, if there is one, says the same in both of them. -/
structure Surroundings.Alike (p p' : Surroundings) : Prop where
  rest : { p' with env := p.env } = p
  env : p.env.Alike p'.env
  file : ∀ content, p.settings = .ok (some content) →
    Dotenv.settings p'.env.spelled? content = Dotenv.settings p.env.spelled? content

theorem Surroundings.Alike.refl (p : Surroundings) : p.Alike p := ⟨rfl, .refl p.env, fun _ _ => rfl⟩

theorem Surroundings.Alike.eq_env {p p' : Surroundings} (h : p.Alike p') :
    { p with env := p'.env } = p' := by
  rw [← h.rest]

/-- **Alike surroundings give alike configurations.** -/
theorem Surroundings.config_alike {p p' : Surroundings} (h : p.Alike p') :
    Likewise Config.Alike p.config p'.config := by
  have hsettings : p'.settings = p.settings := by
    rw [← h.rest]
    rfl
  unfold Surroundings.config
  rw [hsettings]
  cases hfile : p.settings with
  | error e => exact .error e
  | ok file =>
      have hload : Likewise Config.Alike (Config.load p.env file) (Config.load p'.env file) :=
        h.env.load fun content hcontent => h.file content (hcontent ▸ hfile)
      exact hload.mapError Failure.settings

/-- What a configuration never returns is listed in the environment that it was built of. -/
theorem Surroundings.mem_denylist_iff {p : Surroundings} {c : Config} (h : p.config = .ok c)
    (x : String) : x ∈ c.denylist ↔ Config.IsItem x p.env.list := by
  obtain ⟨file, hload⟩ := load_of_config h
  rw [Config.mem_denylist_iff, (Config.parts_of_load hload).2]
  exact Iff.rfl

end Triage
