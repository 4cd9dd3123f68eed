import StructuredOutput.Json.Mapping

/-!
Putting the hint into a request: in front of a prompt, or into the leading system message of a chat.
A chat without a leading system message gets one.
-/
namespace StructuredOutput.Chat

def withPrompt (hint prompt : Json) : String := hint.display ++ "\n\n" ++ prompt.display

def systemMessage (content : Json) : Json := .obj [("role", .str "system"), ("content", content)]

/-- The hint behind the content of a system message. -/
def appendHint (hint : Json) (members : List (String × Json)) : Json :=
  let content := ((Json.find? "content" members).getD (.str "")).display
  .obj (Json.insert "content" (.str (content ++ "\n\n" ++ hint.display)) members)

def copies (messages : List Json) : Except Fault (List Json) :=
  messages.mapM fun message => do pure (.obj (← message.toMapping))

def withMessages (hint first : Json) (rest : List Json) : Except Fault (List Json) := do
  let rest ← copies rest
  match first with
  | .obj members =>
    if ((Json.find? "role" members).getD .null).isStr "system" then
      pure (appendHint hint members :: rest)
    else pure (systemMessage hint :: first :: rest)
  | other => throw (Fault.noMethod other "get")

/-- The hint in a chat; a value that does not count as present is an empty chat. -/
def merge (hint messages : Json) : Except Fault (List Json) :=
  if messages.truthy then
    match messages with
    | .arr (first :: rest) => withMessages hint first rest
    | .str text =>
      match text.toList.map fun c => Json.str (String.singleton c) with
      | first :: rest => withMessages hint first rest
      | [] => .ok [systemMessage hint]
    | .obj _ => .error (.value .missingKey)
    | _ => .error .wrongType
  else .ok [systemMessage hint]

end StructuredOutput.Chat
