import StructuredOutput.Generation

/-!
A text generator that asks a chat completion service: one post for each call. A refusal keeps the
status code; a body without a first choice is malformed.
-/
namespace StructuredOutput.Chat

structure Endpoint where
  apiKey : Json
  baseUrl : String
  timeout : Json

/-- An answer of the service. `body` is what its text reads as, if it is JSON. -/
structure Answer where
  status : Json
  body : Option Json
  text : Json

namespace Endpoint

/-- The service that is asked unless another is named. -/
def defaultUrl : String := "https://api.openai.com/v1"

def trimSlashes (text : String) : String :=
  String.ofList (text.toList.reverse.dropWhile (· = '/')).reverse

def ofArguments (given : List (String × Json)) : Except Fault Endpoint := do
  let _ ← Json.takeArguments ["api_key", "base_url", "timeout"] given
  let apiKey ← match Json.find? "api_key" given with
    | some key => pure key
    | none => throw .wrongType
  let baseUrl ← match (Json.find? "base_url" given).getD (.str defaultUrl) with
    | .str url => pure (trimSlashes url)
    | other => throw (Fault.noMethod other "rstrip")
  pure ⟨apiKey, baseUrl, (Json.find? "timeout" given).getD (.int 60)⟩

def ofEnvironment (environment : List (String × String)) : Except Fault Endpoint :=
  let value (name : String) : String := (Json.find? name environment).getD ""
  if value "OPENAI_API_KEY" = "" then .error (.generation .noKey)
  else
    let url := if value "OPENAI_BASE_URL" = "" then defaultUrl else value "OPENAI_BASE_URL"
    .ok ⟨.str (value "OPENAI_API_KEY"), trimSlashes url, .int 60⟩

/-- The messages of a request, the prompt as the last one. -/
def chat (messages prompt : Json) : Except Fault (List Json) := do
  let messages ← if messages.truthy then
      match messages.elements? with
      | some items => copies items
      | none => throw .wrongType
    else pure []
  pure (if prompt.isNull then messages
    else messages ++ [.obj [("role", .str "user"), ("content", prompt)]])

/-- The members of an argument that may be missing. -/
def given (name : String) (value : Json) : List (String × Json) :=
  if value.isNull then [] else [(name, value)]

def post (e : Endpoint) (request : Generation.Request) : Except Fault (List (String × Json)) := do
  let argument ← Json.takeArguments
    ["model", "prompt", "messages", "max_tokens", "temperature", "top_p"] request
  if (Json.find? "model" request).isNone then throw .wrongType
  let messages ← chat (argument "messages") (argument "prompt")
  let payload := [("model", argument "model"), ("messages", Json.arr messages)]
    ++ ["max_tokens", "temperature", "top_p"].flatMap fun name => given name (argument name)
  pure [("url", .str (e.baseUrl ++ "/chat/completions")), ("json", .obj payload),
    ("headers", .obj [("Authorization", .str ("Bearer " ++ e.apiKey.display)),
      ("Content-Type", .str "application/json")]),
    ("timeout", e.timeout)]

/-- The reason of a refusal: the message of the error object, or the whole text when the body holds
no such object. -/
def refusalDetail (a : Answer) : Json :=
  match a.body with
  | some (.obj members) =>
    match (Json.find? "error" members).getD (.obj []) with
    | .obj error => (Json.find? "message" error).getD a.text
    | _ => a.text
  | _ => a.text

/-- Whether a status says that the request was answered. -/
def isSuccess (status : Json) : Bool :=
  match status with
  | .int n => n = 200
  | .float x => x = .ofInt 200
  | _ => false

def firstChoice? (body : Json) : Option Json :=
  match body.get? "choices" with
  | some (.arr (choice :: _)) => some choice
  | some (.str text) => text.toList.head?.map fun c => .str (String.singleton c)
  | _ => none

/-- The value of a key of something that has to be an object. -/
def lookUp (value : Json) (key : String) (other : Json) : Except Fault Json :=
  match value with
  | .obj members => .ok ((Json.find? key members).getD other)
  | value => .error (Fault.noMethod value "get")

/-- How many characters, items or members a value has. -/
def size (value : Json) : Except Fault Nat :=
  match value with
  | .str text => .ok text.length
  | .arr items => .ok items.length
  | .obj members => .ok members.length
  | other => .error (.value (.noLength other.typeName))

def read (model : Json) (a : Answer) : Except Fault Response × List Event :=
  if isSuccess a.status then
    match a.body with
    | none => (.error .noBody, [])
    | some body =>
      match firstChoice? body with
      | none => (.error (.generation (.malformed body)), [])
      | some choice =>
        let result := do
          let message ← lookUp choice "message" (.obj [])
          let content ← lookUp message "content" .null
          let text := if content.truthy then content else .str ""
          pure (text, ← size text)
        match result with
        | .error fault => (.error fault, [])
        | .ok (text, count) =>
          (.ok ⟨[("text", text), ("usage", (body.get? "usage").getD .null),
              ("finishReason", (choice.get? "finish_reason").getD .null)]⟩,
            [.log .info .chat
              ("[LLM] model=" ++ model.display ++ " chars_out=" ++ toString count)])
  else (.error (.generation (.refused a.status (refusalDetail a))), [])

/-- The endpoint as a text generator; `answer` gives the next answer of the service. -/
def generator {σ : Type} (e : Endpoint) (answer : σ → Except Fault Answer × σ) :
    Generation.Generator σ := fun request state =>
  match e.post request with
  | .error fault => ⟨.error fault, [], state⟩
  | .ok message =>
    let (answered, next) := answer state
    match answered with
    | .error fault => ⟨.error fault, [.post message], next⟩
    | .ok a =>
      let (result, events) := read ((Json.find? "model" request).getD .null) a
      ⟨result, .post message :: events, next⟩

end Endpoint

end StructuredOutput.Chat
