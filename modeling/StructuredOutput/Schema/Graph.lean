import StructuredOutput.Fault
import StructuredOutput.Schema.Node

/-!
Tables of deferred nodes. An entry may hold the fault that building its node meets, so that the
fault shows only where the entry is needed.
-/
namespace StructuredOutput.Schema

/-- A finite table of deferred nodes. -/
structure Graph where
  entries : List (Ref × Except Fault Node)

namespace Node

mutual

/-- How deep a node is nested, references not followed. -/
def height : Node → Nat
  | foreign _ | thunk _ | primitive .. | literal .. | enumeration .. | memberEnum .. | lazy .. => 1
  | bare _ inner => inner.height + 1
  | object _ fields => fieldsHeight fields + 1
  | array _ candidates _ _ => listHeight candidates + 1
  | record _ key value => max key.height value.height + 1
  | union _ options => listHeight options + 1
  | wrapper _ _ inner => inner.height + 1
  | pipeline _ inner source => max inner.height source.height + 1

def listHeight : List Node → Nat
  | [] => 0
  | node :: rest => max node.height (listHeight rest)

def fieldsHeight : List (String × Node) → Nat
  | [] => 0
  | (_, node) :: rest => max node.height (fieldsHeight rest)

end

end Node

namespace Graph

def empty : Graph := ⟨[]⟩

def find? (ref : Ref) : List (Ref × Except Fault Node) → Option (Except Fault Node)
  | [] => none
  | (r, node) :: rest => if r = ref then some node else find? ref rest

def resolve (g : Graph) (ref : Ref) : Except Fault Node :=
  match find? ref g.entries with
  | some node => node
  | none => .error (.request .noResolver)

def height (g : Graph) : Nat :=
  g.entries.foldl (fun h entry => match entry.2 with
    | .ok node => max h node.height
    | .error _ => h) 0

/-- A nesting that no path exceeds which follows at most `steps` references. -/
def reach (g : Graph) (steps : Nat) (node : Node) : Nat :=
  (steps + 1) * (max g.height node.height + 1)

/-- The element node of an array: the first candidate that is not absent, after calling those that
have to be called; absent when there is none. -/
def element (g : Graph) : List Node → Except Fault Node
  | [] => .ok .absent
  | .thunk ref :: rest => do
    let node ← g.resolve ref
    if node.isAbsent then g.element rest else .ok node
  | node :: rest => if node.isAbsent then g.element rest else .ok node

end Graph

end StructuredOutput.Schema
