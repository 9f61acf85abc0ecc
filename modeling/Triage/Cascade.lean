import Triage.Prompt
import Triage.Reply.Object
import Triage.Store

/-!
# The cascade of models

A text is put to one model after another, the preferred one first, until one of them gives an alert
or says that the text is none. An attempt that fails in another way goes on to the next model, and so
a backend that fails does not end a run. What does is a name in its catalogue that cannot be written:
when its turn comes, the request is never made, and nobody deals with that.
-/

namespace Triage

/-- How an attempt with one model ends. -/
inductive AttemptEnd where
  /-- The model has given an alert. -/
  | success (alert : Alert)
  /-- The attempt failed; another model may do better. -/
  | failure (reason category : String)
  /-- The model says that no alert type fits. -/
  | negative

namespace AttemptEnd

/-- The word for the end of an attempt. -/
def word : AttemptEnd → String
  | success _ => "success"
  | failure _ _ => "retryable_failure"
  | negative => "terminal_negative"

/-- No other model is asked after this end. -/
def isFinal : AttemptEnd → Bool
  | failure _ _ => false
  | _ => true

end AttemptEnd

/-- An attempt with one model. -/
structure Attempt where
  model : String
  ending : AttemptEnd

namespace Attempt

/-- What went wrong in an attempt, if anything did. -/
def error (a : Attempt) : Option String :=
  match a.ending with
  | .success _ => none
  | .failure reason _ => some reason
  | .negative => some s!"Model {a.model} found no matching alert type"

end Attempt

/-- What came of asking the models about a text. -/
inductive Verdict where
  /-- A model has given an alert. -/
  | alert (alert : Alert) (policy : Option Policy) (model : String)
  /-- A model says that no alert type fits. -/
  | none (model reason : String)
  /-- No model gave an answer that could be used. -/
  | failed (reason : String)

/-- The attempts made for a text and what came of them. -/
structure Consultation where
  attempts : List Attempt
  verdict : Verdict

namespace Cascade

/-- The name speaks of a model that cannot chat. -/
def isEmbedding (model : ModelName) : Bool := Text.contains (Text.shown model) "embed"

/-- The models to ask, in order: the preferred one, then the available ones that can chat, each
once. -/
def candidates (preferred : ModelName) (available : List ModelName) : List ModelName :=
  available.foldl
    (fun models model =>
      if isEmbedding model || models.contains model then models else models ++ [model])
    [preferred]

/-- The names in front of the first one that cannot be written, and that one, if there is one. -/
def writable : List ModelName → List String × Option ModelName
  | [] => ([], none)
  | model :: rest =>
    match Text.whole? model with
    | some name => (name :: (writable rest).1, (writable rest).2)
    | none => ([], some model)

/-- What a model's reply amounts to. -/
def ofReply (content : String) : AttemptEnd :=
  match Reply.object content with
  | .error fault => .failure s!"Unparseable reply: {fault.message}" "validation"
  | .ok payload =>
    if Reply.saysNoAlert payload then .negative
    else
      let payload := payload.set "parse_method" (.string ParseMethod.model.word)
      match Alert.check (.object payload) with
      | .valid alert => .success alert
      | refused =>
        let count := Text.ofNat refused.issues.length
        .failure s!"Schema validation failed: {count} error(s)" "validation"

/-- Asks one model. The time that it takes is not known here and counts as nothing. -/
def attempt (backend : Backend) (messages : Json) (model : String) : Run Attempt := do
  let client ← Run.client
  let ending ← match ← Run.call (client.chat backend model messages none) with
    | .ok content => pure (ofReply content)
    | .error e => pure (.failure e.message e.category)
  Run.note (.attempt model ending.word .zero)
  return ⟨model, ending⟩

/-- Asks models in order up to the first final attempt. -/
def attempts (ask : String → Run Attempt) : List String → Run (List Attempt)
  | [] => return []
  | model :: rest => do
    let a ← ask model
    if a.ending.isFinal then return [a] else return a :: (← attempts ask rest)

/-- Goes on behind the attempts, unless one of them was final: a model is next whose name cannot be
written, if any is. -/
def goOn (client : Client) (messages : Json) (made : List Attempt) : Option ModelName → Run Unit
  | none => return
  | some model =>
    if made.any (·.ending.isFinal) then return
    else throw (.breakdown (client.unasked messages model))

/-- What is said when every attempt failed. -/
def allFailed (attempts : List Attempt) : String :=
  let errors := attempts.map fun a => a.model ++ ": " ++ a.error.getD "None"
  let errors := Text.join "; " errors
  s!"All models failed. Errors: {errors}. " ++
    "Policy-based parsing is recommended for reliable results."

/-- What attempts amount to; the last one counts. -/
def verdict (attempts : List Attempt) : Run Verdict := do
  match attempts.getLast? with
  | some ⟨model, .success alert⟩ =>
    return .alert alert (← Store.find? (some alert.alertType)) model
  | some ⟨model, .negative⟩ =>
    return .none model s!"Model {model} found no matching alert type"
  | _ => return .failed (allFailed attempts)

/-- What is said when the catalogue of models cannot be had. -/
def unavailable (baseUrl : String) (e : BackendError) : String :=
  if e.isTimeout then
    s!"Ollama health check timed out. Make sure Ollama is running at {baseUrl}"
  else if e.category = "network" then
    s!"Cannot connect to Ollama at {baseUrl}. Make sure Ollama is running: {e.message}"
  else s!"Ollama server not accessible at {baseUrl}"

/-- What is said when there are no models. -/
def noModels : String := "No models available in Ollama. Pull a model first: ollama pull llama3"

/-- Asks the models about a text. -/
def consult (backend : Backend) (text : String) : Run Consultation := do
  let client ← Run.client
  match ← Run.call (client.listModels backend) with
  | .error e => return ⟨[], .failed (unavailable client.baseUrl e)⟩
  | .ok [] => return ⟨[], .failed noModels⟩
  | .ok available =>
    let messages := Prompt.messages text (← Store.load)
    let (models, next) := writable (candidates (Text.points client.model) available)
    let made ← attempts (attempt backend messages) models
    goOn client messages made next
    return ⟨made, ← verdict made⟩

end Cascade

end Triage
