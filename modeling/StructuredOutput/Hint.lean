import StructuredOutput.Json.Call
import StructuredOutput.Schema.Graph

/-!
The description of a schema for the model that writes the text: an inline structure that reads like
a type. A deferred node that is met again inside its own description is written as its name, so a
recursive schema has a finite description; which nodes are being described is kept as a state that a
description leaves as it found it. A description is a text unless it is nothing but a name that is no
text; such a name is shown where it stands inside a text, and refused as an alternative.
-/
namespace StructuredOutput.Hint

open Schema (Graph Node Ref)

/-- A computation that knows which deferred nodes it is inside of. -/
abbrev Description := ExceptT Fault (StateM (List Ref))

/-- Whether an optional wrapper is among the wrappers of a node. -/
def isOptional : Node → Bool
  | .wrapper _ .optional _ => true
  | .wrapper _ _ inner => isOptional inner
  | .pipeline _ inner source => if inner.isAbsent then isOptional source else isOptional inner
  | _ => false

def primitiveWords : List (String × String) :=
  [("string", "string"), ("integer", "number"), ("number", "number"), ("boolean", "boolean"),
   ("null", "null")]

def primitiveWord (name : Json) : Except Fault String :=
  if name.isScalar then
    .ok ((name.toStr?.bind fun name => Json.find? name primitiveWords).getD "unknown")
  else .error .wrongType

/-- The values of an enumeration as alternatives; without values it is any string. -/
def enumWords (values : Json) : Except Fault String :=
  if values.truthy then
    match values.elements? with
    | some items => .ok (Json.join " | " (items.map Json.quote))
    | none => .error .wrongType
  else .ok "string"

def lift {α : Type} (result : Except Fault α) : Description α := ExceptT.mk (pure result)

/-- Runs a description inside a deferred node and leaves the node, also after a fault. -/
def inNode {α : Type} (ref : Ref) (inner : Description α) : Description α := ExceptT.mk do
  modify (ref :: ·)
  let result ← inner.run
  modify (·.erase ref)
  pure result

/-- The fields of an object, each marked if it may be left out. -/
def fieldTexts (inside : Node → Description Json) :
    List (String × Node) → Description (List String)
  | [] => pure []
  | (key, node) :: rest => do
    let value ← inside node
    let others ← fieldTexts inside rest
    pure ((key ++ (if isOptional node then "?" else "") ++ ": " ++ value.display) :: others)

/-- The name that stands for a deferred node inside its own description. -/
def nameOf (name : Json) : Json := if name.truthy then name else .str "object"

/-- Describes a node, given the description of the nodes inside it. -/
def step (g : Graph) (inside : Node → Description Json) (node : Node) : Description Json :=
  match node with
  | .wrapper _ .optional inner => inside inner
  | .wrapper _ .nullable inner => do
    let value ← inside inner
    pure (.str (value.display ++ " | null"))
  | .wrapper _ _ inner => if inner.isAbsent then pure (.str "unknown") else inside inner
  | .pipeline _ inner source =>
    let target := if inner.isAbsent then source else inner
    if target.isAbsent then pure (.str "unknown") else inside target
  | .object _ fields => do
    let texts ← fieldTexts inside fields
    pure (.str ("\x7b " ++ Json.join ", " texts ++ " \x7d"))
  | .primitive _ name => do
    let word ← lift (primitiveWord name)
    pure (.str word)
  | .array _ candidates _ _ => do
    let element ← lift (g.element candidates)
    let inner ← if element.isAbsent then pure (.str "string") else inside element
    let grouped ← lift (Json.Call.group inner)
    pure (.str (grouped.display ++ "[]"))
  | .enumeration _ values => do
    let words ← lift (enumWords values)
    pure (.str words)
  | .memberEnum _ source => do
    let words ← lift (enumWords (.arr (source.values.map .str)))
    pure (.str words)
  | .literal _ value => pure (.str value.quote)
  | .union _ options => do
    let values ← options.mapM inside
    let texts ← lift (values.mapM Json.Call.textOf)
    pure (.str (Json.join " | " texts))
  | .record _ _ value => do
    let value ← if value.isAbsent then pure (.str "unknown") else inside value
    pure (.str ("\x7b [key: string]: " ++ value.display ++ " \x7d"))
  | .lazy _ name ref => do
    if (← get).contains ref then pure (nameOf name)
    else
      inNode ref do
        let target ← lift (g.resolve ref)
        inside target
  | _ => pure (.str "unknown")

def within (g : Graph) : Nat → Node → Description Json
  | 0, _ => throw .endless
  | nesting + 1, node => step g (within g nesting) node

/-- How many references a path of the description can follow: each deferred node once, and in front
of and behind each of them as many calls as the table has entries. -/
def maxSteps (g : Graph) : Nat := (g.entries.length + 1) * (g.entries.length + 1)

def describe (g : Graph) (node : Node) : Except Fault Json :=
  ((within g (g.reach (maxSteps g) node) node).run.run []).1

def instruction (structureText : String) : String :=
  "You are to output ONLY valid JSON with no extra text. The JSON must match the following "
    ++ "structure: " ++ structureText ++ "."

def ofNode (g : Graph) (node : Node) : Except Fault String := do
  let value ← describe g node
  pure (instruction value.display)

end StructuredOutput.Hint
