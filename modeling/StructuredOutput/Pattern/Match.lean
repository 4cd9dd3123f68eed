import StructuredOutput.Pattern.Basic

/-!
Matching. An attempt begins at a place with the marks that groups have left so far, and what is to
follow a pattern is given to it, so that a choice is taken back when what follows it fails.

Marks are kept in one row, in the order in which the signs of groups stand in the pattern, up to the
last one that is set. A failed attempt tells the marks that it leaves. A choice cuts them back to those
that were set before it; within a repetition that can give back, it also takes back what was written
over them.
-/
namespace StructuredOutput.Pattern

/-! ## Marks -/

/-- The places where groups begin and end, as far as they are known. -/
abbrev Marks := Array (Option Nat)

namespace Marks

/-- Sets a mark, with none between it and the last one. -/
def put (marks : Marks) (i place : Nat) : Marks :=
  if i < marks.size then marks.setIfInBounds i (some place)
  else (marks ++ Array.replicate (i - marks.size) none).push (some place)

def span? (marks : Marks) (number : Nat) : Option (Nat × Nat) := do
  let start ← (← marks[2 * number]?)
  let stop ← (← marks[2 * number + 1]?)
  if start ≤ stop then some (start, stop) else none

def backTo (within : Bool) (saved left : Marks) : Marks :=
  if within then saved
  else if left.size ≤ saved.size then left
  else left.take saved.size

end Marks

/-! ## Attempts -/

structure Spot where
  place : Nat
  marks : Marks := #[]

inductive Outcome where
  | met (spot : Spot)
  | failed (marks : Marks)

abbrev Attempt := Spot → Outcome

/-- Tries something else in place of a failed attempt. -/
@[inline]
def Outcome.orElse (outcome : Outcome) (other : Marks → Outcome) : Outcome :=
  match outcome with
  | met spot => met spot
  | failed marks => other marks

@[inline]
def Outcome.andThen (outcome : Outcome) (next : Attempt) : Outcome :=
  match outcome with
  | met spot => next spot
  | failed marks => failed marks

/-- Where the run of characters of a class ends that begins at a place and has a most length. -/
def runEnd (text : Array Char) (accepted : Class) : Nat → Nat → Nat
  | 0, place => place
  | n + 1, place =>
    if (text[place]?).any accepted.holds then runEnd text accepted n (place + 1) else place

/-- Tries what follows `n` characters ahead, then one less, down to none ahead. -/
def fromMost (within : Bool) (next : Attempt) (s : Spot) : Nat → Marks → Outcome
  | 0, marks => (next { s with marks }).orElse fun left => .failed (s.marks.backTo within left)
  | n + 1, marks =>
    (next { place := s.place + n + 1, marks }).orElse fun left =>
      fromMost within next s n (s.marks.backTo within left)

/-- Tries what follows here, then one character ahead, up to `n` ahead. -/
def fromLeast (within : Bool) (next : Attempt) : Nat → Attempt
  | 0, s => (next s).orElse fun left => .failed (s.marks.backTo within left)
  | n + 1, s =>
    (next s).orElse fun left =>
      fromLeast within next n { place := s.place + 1, marks := s.marks.backTo within left }

/-- Characters of a class, at least and at most some of them, and what follows. -/
def run (text : Array Char) (within : Bool) (manner : Manner) (accepted : Class) (least : Nat)
    (most : Option Nat) (next : Attempt) : Attempt := fun s =>
  let left := text.size - s.place
  let limit := match most with
    | some most => min most left
    | none => left
  let count := runEnd text accepted limit s.place - s.place
  if count < least then .failed s.marks
  else
    match manner with
    | .many => fromMost within next { s with place := s.place + least } (count - least) s.marks
    | .few => fromLeast within next (count - least) { s with place := s.place + least }
    | .all => next { s with place := s.place + count }

/-- Whether one more match is allowed after some. A match that has taken no character is the last one. -/
def mayRepeat (most : Option Nat) (count : Nat) (last : Option Nat) (place : Nat) : Bool :=
  most.all (fun most => count < most) && last ≠ some place

/-- Repeats as often as it can: `count` matches are done, and the last free one began at `last`. The
number of steps bounds the repetition. -/
def repeatMany (body : Attempt → Attempt) (next : Attempt) (least : Nat) (most : Option Nat) :
    Nat → Nat → Option Nat → Attempt
  | 0, _, _, s => next s
  | steps + 1, count, last, s =>
    if count < least then body (repeatMany body next least most steps (count + 1) last) s
    else if mayRepeat most count last s.place then
      (body (repeatMany body next least most steps (count + 1) (some s.place)) s).orElse fun _ => next s
    else next s

def repeatFew (within : Bool) (body : Attempt → Attempt) (next : Attempt) (least : Nat)
    (most : Option Nat) : Nat → Nat → Option Nat → Attempt
  | 0, _, _, s => next s
  | steps + 1, count, last, s =>
    if count < least then body (repeatFew within body next least most steps (count + 1) last) s
    else
      (next s).orElse fun left =>
        let s := { s with marks := s.marks.backTo within left }
        if mayRepeat most count last s.place then
          body (repeatFew within body next least most steps (count + 1) (some s.place)) s
        else .failed s.marks

def repeatAll (body : Attempt → Attempt) (least : Nat) (most : Option Nat) :
    Nat → Nat → Option Nat → Attempt
  | 0, _, _, s => .met s
  | steps + 1, count, last, s =>
    if count < least then
      (body .met s).andThen (repeatAll body least most steps (count + 1) last)
    else if mayRepeat most count last s.place then
      match body .met s with
      | .met t => repeatAll body least most steps (count + 1) (some s.place) t
      | .failed _ => .met s
    else .met s

/-- Whether a stretch of the text is found again at a place. -/
def foundAgain (text : Array Char) (fold : Fold) (place start : Nat) : Nat → Bool
  | 0 => true
  | n + 1 =>
    match text[place]?, text[start]? with
    | some c, some d =>
      fold.apply c.toNat = fold.apply d.toNat && foundAgain text fold (place + 1) (start + 1) n
    | _, _ => false

/-- Matches a pattern and what follows it. `within` says whether the pattern stands in a repetition that
can give back. -/
def attempt (text : Array Char) : Pattern → Bool → Attempt → Attempt
  | empty, _, next, s => next s
  | one accepted, _, next, s =>
    if (text[s.place]?).any accepted.holds then next { s with place := s.place + 1 }
    else .failed s.marks
  | anchor condition, _, next, s => if condition.holds text s.place then next s else .failed s.marks
  | seq p q, within, next, s => attempt text p within (attempt text q within next) s
  | alt p q, within, next, s =>
    (attempt text p within next s).orElse fun left =>
      (attempt text q within next { s with marks := s.marks.backTo within left }).orElse fun left =>
        .failed (s.marks.backTo within left)
  | repeated manner body least most, within, next, s =>
    let steps := least + (text.size - s.place) + 2
    match body, manner with
    | one accepted, _ => run text within manner accepted least most next s
    | _, .many => repeatMany (attempt text body true) next least most steps 0 none s
    | _, .few => repeatFew within (attempt text body true) next least most steps 0 none s
    | _, .all => (repeatAll (attempt text body within) least most steps 0 none s).andThen next
  | group number body, within, next, s =>
    attempt text body within (fun t => next { t with marks := t.marks.put (2 * number + 1) t.place })
      { s with marks := s.marks.put (2 * number) s.place }
  | again number fold, _, next, s =>
    match s.marks.span? number with
    | some (start, stop) =>
      if foundAgain text fold s.place start (stop - start) then
        next { s with place := s.place + (stop - start) }
      else .failed s.marks
    | none => .failed s.marks
  | given number yes no, within, next, s =>
    if (s.marks.span? number).isSome then attempt text yes within next s
    else attempt text no within next s
  | look wanted back body, within, next, s =>
    let found := if s.place < back then .failed s.marks
      else attempt text body within .met { s with place := s.place - back }
    match found, wanted with
    | .met t, true => next { s with marks := t.marks }
    | .met t, false => .failed t.marks
    | .failed left, true => .failed left
    | .failed left, false => next { s with marks := s.marks.backTo within left }
  | atomic body, within, next, s => (attempt text body within .met s).andThen next

def found (p : Pattern) (text : List Char) : Bool :=
  let text := text.toArray
  (List.range (text.size + 1)).any fun i =>
    match attempt text p false .met { place := i } with
    | .met _ => true
    | .failed _ => false

end StructuredOutput.Pattern
