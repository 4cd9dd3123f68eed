import StructuredOutput.Schema.Document

/-!
Schemas as they are handed in: a document that has still to be read, or a node with the table of its
deferred parts.
-/
namespace StructuredOutput.Schema

/-- A schema as it is handed in. -/
inductive Given where
  | document (value : Json)
  | node (node : Node) (graph : Graph)

namespace Given

def isMissing : Given → Bool
  | document value => value.isNull
  | node (.foreign value) _ => value.isNull
  | node .. => false

/-- The node of a schema, in a graph of the given number if it has to be read. A value in the stead
of a node is read as a document, and a deferred part alone is no schema. -/
def read (number : Nat) : Given → Except Fault (Node × Graph)
  | document value => Document.read number value
  | node (.foreign value) _ => Document.read number value
  | node (.thunk ref) _ => .error (.request (.unsupportedSchema (Node.thunk ref).kind))
  | node root graph => .ok (root, graph)

end Given

end StructuredOutput.Schema
