import StructuredOutput.Pattern.Sign

/-!
Reading patterns. Signs are put together with a stack of open groups. Faults of the signs come first;
flags that exclude each other, references to groups that do not exist, and looks back of an unfit width
are found when all signs are read.
-/
namespace StructuredOutput.Pattern

inductive Shape where
  | plain
  | flagged
  | group (number : Nat)
  | look (wanted behind outermost : Bool)
  | atomic
  | given (number : Nat)

/-- A finished part of a sequence: its pattern, its members if it is a class of characters, and whether
a count may follow it. -/
structure Piece where
  pattern : Pattern
  items : Option (List Item) := none
  countable : Bool := true

/-- An open group: what it becomes, how its signs are read, its finished alternatives and the pieces of
the one at hand, all last first. -/
structure Frame where
  shape : Shape := .plain
  flags : Flags := {}
  alternatives : List (List Piece) := []
  pieces : List Piece := []

/-- What is read so far: the open groups, the names of groups, the widths of those that are closed, the
group from which on a look back may not refer to, the numbers that are asked for, the letters of the
flags of the whole pattern, whether there is a count, and the faults of looks back. -/
structure Stack where
  top : Frame := {}
  below : List Frame := []
  names : List (List Char × Nat) := []
  groups : Array (Option Width) := #[]
  fence : Option Nat := none
  asked : List Nat := []
  letters : List Char := []
  counted : Bool := false
  unfit : Bool := false
  tooFar : Bool := false

/-! ## Pieces -/

namespace Flags

def set (flags : Flags) (value : Bool) (letters : List Char) : Flags :=
  letters.foldl (fun flags c =>
    match c with
    | 'i' => { flags with anyCase := value }
    | 'm' => { flags with eachLine := value }
    | 's' => { flags with dotAll := value }
    | 'x' => { flags with spaced := value }
    | 'a' => { flags with ascii := value }
    | 'u' => { flags with ascii := false }
    | _ => flags) flags

end Flags

namespace Piece

def ofSingle (flags : Flags) (n : Nat) : Piece :=
  { pattern := .one (.ofSingle flags n false), items := some [.single n] }

/-- The piece of a class. One that names a single character is read like that character. -/
def ofItems (flags : Flags) (items : List Item) (negated : Bool) : Piece :=
  { pattern := .one (match items.eraseDups with
      | [.single n] => .ofSingle flags n negated
      | items => .ofItems flags items negated)
    items := if negated then none else some items }

def ofAnchor (condition : Anchor) : Piece := { pattern := .anchor condition, countable := false }

/-- The pattern of pieces in a row, given last first. -/
def sequence : List Piece → Pattern
  | [] => .empty
  | last :: before => before.foldl (fun p piece => .seq piece.pattern p) last.pattern

end Piece

namespace Frame

/-- The members of the characters that the group stands for, if every alternative is one character. -/
def items? (f : Frame) : Option (List Item) :=
  ((f.pieces :: f.alternatives).reverse.mapM fun (pieces : List Piece) =>
    match pieces with
    | [piece] => piece.items
    | _ => none).map List.flatten

def pattern (f : Frame) : Pattern :=
  let last := Piece.sequence f.pieces
  if f.alternatives.isEmpty then last
  else
    match f.items? with
    | some items => .one (.ofItems f.flags items.eraseDups false)
    | none => f.alternatives.foldl (fun p pieces => .alt (Piece.sequence pieces) p) last

def add (f : Frame) (piece : Piece) : Frame := { f with pieces := piece :: f.pieces }

def count? (f : Frame) (manner : Manner) (least : Nat) (most : Option Nat) : Option Frame :=
  match f.pieces with
  | piece :: pieces =>
    if piece.countable then
      let repeated := { pattern := .repeated manner piece.pattern least most, countable := false }
      some { f with pieces := repeated :: pieces }
    else none
  | [] => none

end Frame

/-! ## Groups -/

def maxBack : Nat := Nat.pow 2 31 - 1

namespace Stack

def add (s : Stack) (piece : Piece) : Stack := { s with top := s.top.add piece }

def opened (s : Stack) (shape : Shape) (flags : Flags) : Stack :=
  { s with top := { shape, flags }, below := s.top :: s.below }

/-- Whether a group is closed and may be referred to here. -/
def mayRefer (s : Stack) (number : Nat) : Bool :=
  ((s.groups[number]?).join).isSome && s.fence.all (number < ·)

def refer? (s : Stack) (number : Nat) : Option Stack :=
  if s.mayRefer number then
    some (s.add { pattern := .again number (if s.top.flags.anyCase then s.top.flags.fold else .none) })
  else none

/-- The group that is asked for by name, or by a number from one on. -/
def asked? (s : Stack) (name : List Char) : Option (Nat × Stack) := do
  let (number, s) ←
    if Text.isWordName name then (s.names.lookup name).map (·, s)
    else
      match Numeral.intEntry? (String.ofList name) with
      | some (.ofNat (n + 1)) => some (n, { s with asked := n :: s.asked })
      | _ => none
  if s.fence.isSome && !s.mayRefer number then none
  some (number, s)

/-- Opens what an opening parenthesis begins, or takes what it is. -/
def open? (s : Stack) : Opening → Option Stack
  | .plain => some (s.opened .plain s.top.flags)
  | .group name => do
    let number := s.groups.size
    let names ← match name with
      | none => some s.names
      | some name =>
        if Text.isWordName name && (s.names.lookup name).isNone then some ((name, number) :: s.names)
        else none
    some { s.opened (.group number) s.top.flags with names, groups := s.groups.push none }
  | .again name => do
    if !Text.isWordName name then none
    s.refer? (← s.names.lookup name)
  | .given name => do
    let (number, s) ← s.asked? name
    some (s.opened (.given number) s.top.flags)
  | .look wanted behind =>
    let outermost := behind && s.fence.isNone
    let fence := if outermost then some s.groups.size else s.fence
    some { s.opened (.look wanted behind outermost) s.top.flags with fence }
  | .atomic => some (s.opened .atomic s.top.flags)
  | .flagged on off => some (s.opened .flagged ((s.top.flags.set true on).set false off))
  | .flags on =>
    if s.below.isEmpty && s.top.alternatives.isEmpty && s.top.pieces.isEmpty then
      some { s with
        top := { s.top with flags := s.top.flags.set true on }, letters := s.letters ++ on }
    else none
  | .comment => some s

/-- Whether flags of the whole pattern exclude each other. -/
def clashes (s : Stack) : Bool := s.letters.contains 'a' && s.letters.contains 'u'

def widthOf (s : Stack) (number : Nat) : Width := ((s.groups[number]?).join).getD ⟨0, 0⟩

/-- Ends an alternative. What is given by a group has two at most. -/
def barred? (s : Stack) : Option Stack :=
  match s.top.shape, s.top.alternatives with
  | .given _, _ :: _ => none
  | _, alternatives =>
    some { s with top := { s.top with alternatives := s.top.pieces :: alternatives, pieces := [] } }

/-- The innermost group as a piece of the one around it. -/
def closed (s : Stack) (outer : Frame) (below : List Frame) : Stack :=
  let body := s.top.pattern
  let s' := { s with top := outer, below }
  match s.top.shape with
  | .plain => s'.add { pattern := body, items := s.top.items? }
  | .flagged => s'.add { pattern := body }
  | .atomic => s'.add { pattern := .atomic body }
  | .group number =>
    { s'.add { pattern := .group number body } with
      groups := s.groups.setIfInBounds number (some (body.width s.widthOf)) }
  | .given number =>
    let last := Piece.sequence s.top.pieces
    match s.top.alternatives with
    | yes :: _ => s'.add { pattern := .given number (Piece.sequence yes) last }
    | [] => s'.add { pattern := .given number last .empty }
  | .look wanted behind outermost =>
    let width := body.width s.widthOf
    { s'.add { pattern := .look wanted (if behind then width.least else 0) body } with
      fence := if outermost then none else s.fence
      unfit := s.unfit || (behind && (width.least ≠ width.most || countEnd < width.least))
      tooFar := s.tooFar || (behind && maxBack < width.least) }

def counted? (s : Stack) (least : Nat) (most : Option Nat) (rest : List Token) :
    Option (Stack × List Token) := do
  let (manner, rest) := manner rest
  some ({ s with top := ← s.top.count? manner least most, counted := true }, rest)

/-! ## Signs -/

/-- Takes a digit behind a backslash: a character in base eight, or a reference of one or two digits. -/
def digit? (s : Stack) (c : Char) (rest : List Token) : Option (Stack × List Token) :=
  let flags := s.top.flags
  if c = '0' then (octal? 2 0 rest).map fun (n, rest) => (s.add (.ofSingle flags n), rest)
  else
    let (octals, _, _) := number 8 2 0 0 rest
    match Pattern.digit? 8 c with
    | some d =>
      if octals = 2 then (octal? 2 d rest).map fun (n, rest) => (s.add (.ofSingle flags n), rest)
      else reference
    | none => reference
where
  /-- The reference that one or two digits make. -/
  reference : Option (Stack × List Token) :=
    let (_, n, rest) := number 10 1 1 (c.toNat - 48) rest
    (s.refer? (n - 1)).map (·, rest)

def escaped? (s : Stack) (c : Char) (rest : List Token) : Option (Stack × List Token) :=
  let flags := s.top.flags
  match kind? c, anchor? flags.ascii c with
  | some item, _ => some (s.add (.ofItems flags [item] false), rest)
  | none, some condition => some (s.add (.ofAnchor condition), rest)
  | none, none =>
    if c.isDigit then s.digit? c rest
    else (escape? c rest).map fun (n, rest) => (s.add (.ofSingle flags n), rest)

def plain (s : Stack) (c : Char) (rest : List Token) : Except PatternFault (Stack × List Token) :=
  let flags := s.top.flags
  let known (result : Option (Stack × List Token)) : Except PatternFault (Stack × List Token) :=
    match result with
    | some result => .ok result
    | none => .error .malformed
  match c with
  | '.' => .ok (s.add { pattern := .one (.ofAny flags) }, rest)
  | '^' => .ok (s.add (.ofAnchor (if flags.eachLine then .lineStart else .textStart)), rest)
  | '$' => .ok (s.add (.ofAnchor (if flags.eachLine then .lineEnd else .lastLineEnd)), rest)
  | '|' => known (s.barred?.map (·, rest))
  | '(' => known do
    let (opening, rest) ← opening? rest
    some (← s.open? opening, rest)
  | ')' =>
    match s.below with
    | outer :: below => .ok (s.closed outer below, rest)
    | [] => .error (if s.clashes then .flagsClash else .malformed)
  | '[' =>
    known ((class? rest).map fun (items, negated, rest) => (s.add (.ofItems flags items negated), rest))
  | '*' => known (s.counted? 0 none rest)
  | '+' => known (s.counted? 1 none rest)
  | '?' => known (s.counted? 0 (some 1) rest)
  | '\x7b' => do
    match ← counts? rest with
    | some (least, most, rest) => known (s.counted? least most rest)
    | none => pure (s.add (.ofSingle flags c.toNat), rest)
  | _ => .ok (s.add (.ofSingle flags c.toNat), rest)

/-- Characters that are passed over where signs may be spaced. -/
def isSpace (c : Char) : Bool := c = ' ' || ('\t' ≤ c && c ≤ '\r')

def take (s : Stack) (token : Token) (rest : List Token) : Except PatternFault (Stack × List Token) :=
  match token with
  | .plain c =>
    if s.top.flags.spaced && isSpace c then .ok (s, rest)
    else if s.top.flags.spaced && c = '#' then
      match skipPast? '\n' rest with
      | some rest => .ok (s, rest)
      | none => .error .malformed
    else s.plain c rest
  | .escaped c =>
    match s.escaped? c rest with
    | some result => .ok result
    | none => .error .malformed
  | .dangling => .error .malformed

/-- Takes all signs of a text. Every sign takes a token at least, so as many steps as there are tokens
are enough. -/
def takeAll : Nat → Stack → List Token → Except PatternFault Stack
  | _, s, [] => .ok s
  | 0, _, _ :: _ => .error .malformed
  | n + 1, s, token :: rest => do
    let (s, rest) ← s.take token rest
    takeAll n s rest

/-- The pattern, when all signs are read. -/
def finish (s : Stack) : Except PatternFault Pattern :=
  if !s.below.isEmpty then .error .malformed
  else if s.clashes then .error .flagsClash
  else if s.asked.any (s.groups.size ≤ ·) || s.unfit || (s.letters.contains 't' && s.counted) then
    .error .malformed
  else if s.tooFar then .error .lookTooFar
  else .ok s.top.pattern

end Stack

def parse (text : String) : Except PatternFault Pattern := do
  let tokens := tokens text.toList
  let stack ← Stack.takeAll tokens.length {} tokens
  stack.finish

end StructuredOutput.Pattern
