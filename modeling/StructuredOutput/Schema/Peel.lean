import StructuredOutput.Schema.Graph

/-!
Peeling wrappers off a node. The flags say whether an optional or a nullable wrapper was met, and
the outermost description that is not empty is kept.
-/
namespace StructuredOutput.Schema

/-- A node without its wrappers, and what the wrappers said. -/
structure Peeled where
  node : Node
  optional : Bool
  nullable : Bool
  description : Json

namespace Peeled

def start (node : Node) : Peeled := ⟨node, false, false, .null⟩

def note (p : Peeled) (description : Json) : Peeled :=
  if p.description.isNull && description.truthy then { p with description } else p

def mark (p : Peeled) : Wrapper → Peeled
  | .optional => { p with optional := true }
  | .nullable => { p with nullable := true }
  | _ => p

end Peeled

/-- Peels wrappers while the budget lasts; `limit` is only shown in the fault. -/
def peelWithin (limit : Json) : Nat → Peeled → Except Fault Peeled
  | 0, _ => .error (.translation (.tooManyWrappers limit))
  | budget + 1, p =>
    let noted := p.note p.node.description
    match p.node with
    | .foreign value => .error (.unsupported value.typeName "")
    | .thunk ref => .error (.unsupported (Node.thunk ref).kind "")
    | .wrapper _ form inner =>
      if inner.isAbsent then .error (.translation (.emptyWrapper form.kind))
      else peelWithin limit budget { noted.mark form with node := inner }
    | .pipeline d inner source =>
      let target := if inner.isAbsent then source else inner
      if target.isAbsent then
        .error (.translation (.emptyWrapper (Node.pipeline d inner source).kind))
      else peelWithin limit budget { noted with node := target }
    | _ => .ok noted

/-- Peels at most `limit` wrappers off a node. -/
def peel (limit : Json) (node : Node) : Except Fault Peeled :=
  match limit.toInt? with
  | some n => peelWithin limit (n + 1).toNat (.start node)
  | none => .error .wrongType

end StructuredOutput.Schema
