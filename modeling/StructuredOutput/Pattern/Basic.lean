import StructuredOutput.Pattern.Class

/-!
Patterns that are searched for in a text, and how wide their matches are. A place of the text is the
number of characters in front of it.
-/
namespace StructuredOutput

inductive Pattern.Anchor where
  | textStart
  | lineStart
  | textEnd
  | lastLineEnd
  | lineEnd
  | wordEdge (holds ascii : Bool)

/-- How a repetition goes on: as often as it can, as seldom as it can, or as often as it can without
giving anything back. -/
inductive Pattern.Manner where
  | many
  | few
  | all

/-- A pattern. A look begins `back` characters in front of its place, and `wanted` says whether there
has to be a match or must be none. What a group has matched can be asked for again, or it can be asked
whether it has matched. Groups are numbered from zero. -/
inductive Pattern where
  | empty
  | one (accepted : Pattern.Class)
  | anchor (condition : Pattern.Anchor)
  | seq (p q : Pattern)
  | alt (p q : Pattern)
  | repeated (manner : Pattern.Manner) (body : Pattern) (least : Nat) (most : Option Nat)
  | group (number : Nat) (body : Pattern)
  | again (number : Nat) (fold : Pattern.Fold)
  | given (number : Nat) (yes no : Pattern)
  | look (wanted : Bool) (back : Nat) (body : Pattern)
  | atomic (body : Pattern)

namespace Pattern

def before? (text : Array Char) (i : Nat) : Option Char := if i = 0 then none else text[i - 1]?

/-- Whether a condition is met at a place. An empty text has neither an edge of a word nor a place that
is none. -/
def Anchor.holds (text : Array Char) (i : Nat) : Anchor → Bool
  | textStart => i = 0
  | lineStart => i = 0 || before? text i == some '\n'
  | textEnd => i = text.size
  | lastLineEnd => i = text.size || (i + 1 = text.size && text[i]? == some '\n')
  | lineEnd => i = text.size || text[i]? == some '\n'
  | wordEdge holds ascii =>
    !text.isEmpty
      && ((before? text i).any (Kind.word.holds ascii) != (text[i]?).any (Kind.word.holds ascii)) == holds

/-! ## Width -/

/-- The least and the greatest width of the matches of a pattern. -/
structure Width where
  least : Nat
  most : Nat
deriving DecidableEq

namespace Width

/-- What widths are counted up to. -/
def limit : Nat := Nat.pow 2 64

/-- A width, counted up to the limit. -/
def bounded (least most : Nat) : Width := ⟨min least limit, min most limit⟩

def add (a b : Width) : Width := bounded (a.least + b.least) (a.most + b.most)

def either (a b : Width) : Width := ⟨min a.least b.least, max a.most b.most⟩

def times (a : Width) (least : Nat) : Option Nat → Width
  | none => bounded (a.least * least) (if a.most = 0 then 0 else limit)
  | some most => bounded (a.least * least) (a.most * most)

end Width

/-- The width of a pattern, given those of the groups. -/
def width (groups : Nat → Width) : Pattern → Width
  | empty | anchor _ | look .. => ⟨0, 0⟩
  | one _ => ⟨1, 1⟩
  | seq p q => (p.width groups).add (q.width groups)
  | alt p q | given _ p q => (p.width groups).either (q.width groups)
  | repeated _ body least most => (body.width groups).times least most
  | group _ body | atomic body => body.width groups
  | again number _ => groups number

end Pattern

end StructuredOutput
