import StructuredOutput.Schema.Graph

/-!
The outline of a node graph as a JSON value. Deferred nodes are numbered in the order in which they
are met, depth first, and each is written out where it is met first.
-/
namespace StructuredOutput.Schema

namespace Outline

/-- The members for a description, none when there is none. -/
def described (d : Json) : List (String × Json) :=
  if d.isNull then [] else [("description", d)]

/-- Members of an outline with its kind and description in front. -/
def entry (node : Node) (members : List (String × Json)) : Json :=
  .obj (("kind", .str node.kind) :: described node.description ++ members)

/-- What a wrapper adds to the outline of what it decorates. -/
def extras : Wrapper → List (String × Json)
  | .default value => [("default", value)]
  | .caught fallback => [("fallback", fallback)]
  | .branded brand => [("brand", brand)]
  | _ => []

/-- The name of a value that is no node, `null` for nothing. -/
def valueName (value : Json) : Json :=
  .obj [("value", if value.isNull then .null else .str value.typeName)]

variable (g : Graph) (fault : Fault → Json)

/-- The outline of a node, given the outline of the nodes inside it. -/
def step (inside : Node → StateM (List Ref) Json) (node : Node) : StateM (List Ref) Json :=
  match node with
  | .foreign value => pure (valueName value)
  | .thunk _ => pure (.obj [("value", .str node.kind)])
  | .bare _ _ => pure (entry node [])
  | .primitive _ typeName => pure (entry node [("type_name", typeName)])
  | .literal _ value => pure (entry node [("value", value)])
  | .object _ fields => do
    let fields ← fields.mapM fun field => do
      pure (Json.arr [.str field.1, ← inside field.2])
    pure (entry node [("fields", .arr fields)])
  | .array _ candidates low high => do
    let items ← match g.element candidates with
      | .ok element => inside element
      | .error e => pure (fault e)
    pure (entry node [("items", items), ("min_items", low), ("max_items", high)])
  | .enumeration _ values => pure (entry node [("values", values)])
  | .memberEnum _ source => pure (entry node [("values", .arr (source.values.map .str))])
  | .record _ key value => do
    let key ← inside key
    let value ← inside value
    pure (entry node [("key", key), ("value", value)])
  | .union _ options => do
    let options ← options.mapM inside
    pure (entry node [("options", .arr options)])
  | .lazy _ name ref => do
    let seen ← get
    match seen.findIdx? (· = ref) with
    | some index => pure (entry node [("name", name), ("id", .int index)])
    | none => do
      set (seen ++ [ref])
      let target ← match g.resolve ref with
        | .ok target => inside target
        | .error e => pure (fault e)
      pure (entry node [("name", name), ("id", .int seen.length), ("target", target)])
  | .wrapper _ form inner => do
    let target ← inside inner
    pure (entry node (("target", target) :: extras form))
  | .pipeline _ inner source => do
    let target ← inside (if inner.isAbsent then source else inner)
    pure (entry node [("target", target)])

def within : Nat → Node → StateM (List Ref) Json
  | 0, _ => pure .null
  | depth + 1, node => step g fault (within depth) node

end Outline

/-- The outline of a node; `fault` says how an entry that cannot be built is shown. -/
def outline (g : Graph) (fault : Fault → Json) (node : Node) : Json :=
  (Outline.within g fault (g.reach g.entries.length node) node []).1

end StructuredOutput.Schema
