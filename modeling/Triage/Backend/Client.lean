import Triage.Backend.Error
import Triage.Config.Basic
import Triage.Json.Printer
import Triage.Json.Reader

/-!
# Asking a backend

Two requests are made of a backend: for the catalogue of its models, which also shows that it is
alive, and for one completed chat. Each call is told the requests made before it and gives them back
with its own at the end, whatever becomes of it.

The body of an answer is a text here, the one that its bytes are in UTF-8. So bodies in the other
encodings that JSON may come in are left out, and so are bytes that are no text at all; the fields in
the head of an answer are left out, too. Requests are written as version 0.28 of httpx writes them: on
one line, in UTF-8 without escapes, and without numbers that are not finite. The names in a catalogue
are the only texts here that half of a surrogate pair can stand alone in, and a name of that kind
cannot be written.
-/

namespace Triage

/-- A backend with what is asked of it. -/
structure Client where
  baseUrl : String
  model : String
  healthTimeout : Binary64
  chatTimeout : Binary64
  temperature : Binary64
  deriving DecidableEq, Repr

/-- Why a call gave nothing: an error of the backend, or something that nobody deals with. -/
inductive CallFault where
  | backend (error : BackendError)
  | breakdown (breakdown : Breakdown)

/-- The requests made so far and what a call gave. -/
abbrev Outcome (α : Type) := List Request × Except CallFault α

/-- The name of a model as a catalogue gives it. -/
abbrev ModelName := List Text.Point

/-- A model without a tag is its latest version. -/
def normalizeModel (model : String) : String :=
  if ':' ∈ model.toList then model else model ++ ":latest"

namespace Client

/-- A client by the settings; an address and a model that are given come first. -/
def make (settings : BackendSettings) (baseUrl model : Option String) : Client where
  baseUrl := normalizeAddress (firstText [baseUrl] settings.baseUrl)
  model := normalizeModel (firstText [model] settings.model)
  healthTimeout := settings.healthTimeout
  chatTimeout := settings.chatTimeout
  temperature := settings.temperature

/-- How an exchange can end without an answer. -/
inductive Silence where
  | overdue
  | tardy (message : String)
  | broken (kind message : String)
  | breakdown (b : Breakdown)

/-- The address of a resource of the backend. -/
def address (c : Client) (resource : String) : Except Url.Fault Url := do
  (← Url.parse c.baseUrl).below resource

/-- Makes a request within a time budget and gives the status and the body of the answer. -/
def exchange (c : Client) (backend : Backend) (seconds : Binary64) (resource : String)
    (body : Option Json) (past : List Request) : List Request × Except Silence (Nat × String) :=
  match c.address resource with
  | .error fault => (past, .error (.breakdown (.url fault)))
  | .ok url =>
    if (body.any fun v => !v.isFinite) then (past, .error (.breakdown .notFinite))
    else
      let request : Request := ⟨url.text, body⟩
      let result := match backend past request with
        | .answer status text =>
          if url.scheme = "" then .error (.breakdown (.relativeUrl url.text))
          else if overruns seconds true then .error .overdue
          else .ok (status, text)
        | .tardy message => .error (.tardy message)
        | .broken kind message => .error (.broken kind message)
        | .crash message => .error (.breakdown (.crash message))
        | .silence => .error .overdue
      (past ++ [request], result)

/-- The document of an answer. A mark of the byte order in front does not count. -/
def documentBy (spell : List Text.Point → String) (body : String) : Except String Json :=
  let chars := match body.toList with
    | c :: rest => if c.toNat = 0xfeff then rest else c :: rest
    | [] => []
  match Json.parseDocumentBy spell chars with
  | .ok v => .ok v
  | .error fault => .error (fault.message chars)

/-- The document of an answer whose texts are shown. -/
def document (body : String) : Except String Json := documentBy Text.shown body

/-- The words of a failure, or its kind where it has none. -/
def reason (kind message : String) : String := if message = "" then kind else message

/-- The names in a catalogue, where they are kept as code points; models without one are left out. -/
def names (models : List Record) : List ModelName :=
  models.filterMap fun m =>
    match Record.get? m "name" with
    | some (.string s) => if s = "" then none else some (Text.ofKept s.toList)
    | _ => none

/-- The fields of an object. -/
def record? : Json → Option Record
  | .object fields => some fields
  | _ => none

/-- The models of a catalogue. -/
def catalogue (body : String) : Except BackendError (List ModelName) :=
  match documentBy Text.kept body with
  | .error reason => .error (.catalogueUnreadable reason)
  | .ok (.object fields) =>
    match Record.getD fields "models" with
    | .array items =>
      match items.mapM record? with
      | some models => .ok (names models)
      | none => .error (.catalogueShape body)
    | _ => .error (.catalogueShape body)
  | .ok _ => .error (.catalogueShape body)

/-- The operation of asking for the catalogue. -/
def healthCheck : String := "Ollama health check"

/-- Asks for the models of the backend. -/
def listModels (c : Client) (backend : Backend) (past : List Request) :
    Outcome (List ModelName) :=
  let (past, result) := c.exchange backend c.healthTimeout "api/tags" none past
  (past, match result with
    | .error .overdue => .error (.backend (.overdue healthCheck c.healthTimeout.text))
    | .error (.tardy message) => .error (.backend (.timedOut healthCheck message))
    | .error (.broken kind message) => .error (.backend (.unreachable (reason kind message)))
    | .error (.breakdown b) => .error (.breakdown b)
    | .ok (status, body) =>
      if 400 ≤ status then .error (.backend (.catalogueStatus status))
      else (catalogue body).mapError .backend)

/-- What an answer that reports an error says. -/
def detail (body : String) : String :=
  match document body with
  | .ok (.object fields) =>
    let error := Record.getD fields "error"
    if error.isNothing then Text.takeFirst 200 body else Text.takeFirst 200 error.display
  | _ => Text.takeFirst 200 body

/-- The kind of a value that is no object. -/
def kindName : Json → String
  | .null => "NoneType"
  | .bool _ => "bool"
  | .int _ => "int"
  | .float _ => "float"
  | .string _ => "str"
  | .array _ => "list"
  | .object _ => "dict"

/-- The text of a chat in an answer: the content of its message, else its response. -/
def content (body : String) : Except BackendError String :=
  match document body with
  | .error reason => .error (.chatUnreadable reason)
  | .ok (.object fields) =>
    let inner := match Record.getD fields "message" with
      | .object message => Record.getD message "content"
      | _ => .null
    match if inner.isNothing then Record.getD fields "response" else inner with
    | .string s => if Text.isBlankText s then .error .emptyReply else .ok s
    | _ => .error .emptyReply
  | .ok v => .error (.notChat (kindName v))

/-- The document that asks for a chat. -/
def chatBody (model : String) (messages temperature : Json) : Json := .object [
  ("model", .string model),
  ("messages", messages),
  ("stream", .bool false),
  ("options", .object [("temperature", temperature)])]

/-- Asks a model to complete a chat. -/
def chat (c : Client) (backend : Backend) (model : String) (messages : Json)
    (temperature : Option Json) (past : List Request) : Outcome String :=
  let body := chatBody model messages (temperature.getD (.float c.temperature))
  let operation := "Request to " ++ model
  let (past, result) := c.exchange backend c.chatTimeout "api/chat" (some body) past
  (past, match result with
    | .error .overdue => .error (.backend (.overdue operation c.chatTimeout.text))
    | .error (.tardy message) => .error (.backend (.timedOut operation message))
    | .error (.broken kind message) =>
      .error (.backend (.transport model (reason kind message)))
    | .error (.breakdown b) => .error (.breakdown b)
    | .ok (status, text) =>
      if 400 ≤ status then .error (.backend (.chatStatus status (detail text)))
      else (content text).mapError .backend)

/-- The front of the text that asks for a chat, up to the name of the model. -/
def chatFront (model : ModelName) : List Text.Point :=
  Text.points "\x7b\"model\":\"" ++ model.flatMap Json.escapePoint

/-- Why a model whose name cannot be written is not asked. As with any model, the address and the
numbers come first. -/
def unasked (c : Client) (messages : Json) (model : ModelName) : Breakdown :=
  match c.address "api/chat" with
  | .error fault => .url fault
  | .ok _ =>
    if messages.isFinite && c.temperature.isFinite then
      .unencodable (Text.Utf8.encodeFault (chatFront model))
    else .notFinite

end Client

end Triage
