import StructuredOutput.Json.Basic

/-!
Schema nodes. A graph is a finite table of nodes that are looked up only when they are needed; a
node refers to the table through `Ref`, so recursive schemas are finite trees with references, and
two references to the same entry are equal.

A place where a node was expected and something else was given holds that value as `foreign`; a
place left empty holds `null` there.
-/
namespace StructuredOutput.Schema

/-- Names an entry of a table of deferred nodes; `graph` tells the tables of several schemas
apart. -/
structure Ref where
  graph : Nat
  path : String
deriving DecidableEq

/-- Where a node for named members takes them from. Of a class of members, one with the value of an
earlier member is only another name for it. -/
inductive MemberSource where
  | nothing
  | members (table : List (String × Json))
  | mapping (table : List (String × Json))

/-- A wrapper decorates one inner node. -/
inductive Wrapper where
  | plain
  | optional
  | nullable
  | default (value : Json)
  | caught (fallback : Json)
  | readonly
  | branded (brand : Json)
  | effects

/-- A schema node. The first argument of each constructor for a node is its description, `null`
when there is none. -/
inductive Node where
  | foreign (value : Json)
  | thunk (ref : Ref)
  | bare (description : Json) (inner : Node)
  | primitive (description typeName : Json)
  | literal (description value : Json)
  | object (description : Json) (fields : List (String × Node))
  | array (description : Json) (candidates : List Node) (minItems maxItems : Json)
  | enumeration (description values : Json)
  | memberEnum (description : Json) (source : MemberSource)
  | record (description : Json) (key value : Node)
  | union (description : Json) (options : List Node)
  | lazy (description name : Json) (ref : Ref)
  | wrapper (description : Json) (form : Wrapper) (inner : Node)
  | pipeline (description : Json) (inner source : Node)

namespace MemberSource

def firsts (seen : List String) : List String → List String
  | [] => []
  | s :: rest => if s ∈ seen then firsts seen rest else s :: firsts (s :: seen) rest

def values : MemberSource → List String
  | nothing => []
  | members table => firsts [] (table.filterMap fun m => m.2.toStr?)
  | mapping table => table.filterMap fun m => m.2.toStr?

end MemberSource

namespace Wrapper

def kind : Wrapper → String
  | plain => "ModifierNode"
  | optional => "OptionalNode"
  | nullable => "NullableNode"
  | default _ => "DefaultNode"
  | caught _ => "CatchNode"
  | readonly => "ReadonlyNode"
  | branded _ => "BrandedNode"
  | effects => "EffectsNode"

end Wrapper

namespace Node

def absent : Node := .foreign .null

def isAbsent : Node → Bool
  | foreign .null => true
  | _ => false

def isNode : Node → Bool
  | foreign _ => false
  | thunk _ => false
  | _ => true

def isLazy : Node → Bool
  | lazy .. => true
  | _ => false

/-- The name of a node's kind, or of the type of a value that is none, in messages. -/
def kind : Node → String
  | foreign value => value.typeName
  | thunk _ => "function"
  | bare .. => "SchemaNode"
  | primitive .. => "PrimitiveNode"
  | literal .. => "LiteralNode"
  | object .. => "ObjectNode"
  | array .. => "ArrayNode"
  | enumeration .. => "EnumNode"
  | memberEnum .. => "NativeEnumNode"
  | record .. => "RecordNode"
  | union .. => "UnionNode"
  | lazy .. => "LazyNode"
  | wrapper _ form _ => form.kind
  | pipeline .. => "PipelineNode"

def description : Node → Json
  | foreign _ => .null
  | thunk _ => .null
  | bare d _ => d
  | primitive d _ => d
  | literal d _ => d
  | object d _ => d
  | array d _ _ _ => d
  | enumeration d _ => d
  | memberEnum d _ => d
  | record d _ _ => d
  | union d _ => d
  | lazy d _ _ => d
  | wrapper d _ _ => d
  | pipeline d _ _ => d

def describe (d : Json) : Node → Node
  | foreign value => foreign value
  | thunk ref => thunk ref
  | bare _ inner => bare d inner
  | primitive _ typeName => primitive d typeName
  | literal _ value => literal d value
  | object _ fields => object d fields
  | array _ candidates low high => array d candidates low high
  | enumeration _ values => enumeration d values
  | memberEnum _ source => memberEnum d source
  | record _ key value => record d key value
  | union _ options => union d options
  | lazy _ name ref => lazy d name ref
  | wrapper _ form inner => wrapper d form inner
  | pipeline _ inner source => pipeline d inner source

/-- What a wrapper decorates; a pipeline that has no output stands for its input. -/
def target? : Node → Option Node
  | wrapper _ _ inner => some inner
  | pipeline _ inner source => some (if inner.isAbsent then source else inner)
  | _ => none

/-- The values of a node for an enumeration, as they were given. -/
def enumValues? : Node → Option Json
  | enumeration _ values => some values
  | memberEnum _ source => some (.arr (source.values.map .str))
  | _ => none

end Node

end StructuredOutput.Schema
