import StructuredOutput.Schema.Node
import StructuredOutput.Text.Name

/-!
What a translation has declared. Classes, enums and aliases share one namespace; a name that is
taken gets the next value of one shared counter for which the result is free. Among `n` declared
names at most `n` numbered names can be taken, so the search needs no more than `n + 1` tries.
-/
namespace StructuredOutput.Baml

open Schema (Ref)

/-- A field of a class. `key` is the property key when the field could not be named by it. -/
structure Field where
  name : String
  type : String
  optional : Bool
  description : Json
  key : Option String

structure Class where
  name : String
  fields : List Field

/-- The declarations of one translation. `order` lists the classes as they were completed, `lazies`
holds the expression of each deferred node that is declared, and `depth` counts the deferred nodes
that are being translated and are no objects. -/
structure Declarations where
  classes : List (String × Class) := []
  order : List String := []
  enums : List (String × List Json) := []
  aliases : List (String × String) := []
  counter : Int := 0
  lazies : List (Ref × String) := []
  depth : Int := 0

namespace Declarations

def names (d : Declarations) : List String :=
  d.classes.map (·.1) ++ d.enums.map (·.1) ++ d.aliases.map (·.1)

def isDeclared (d : Declarations) (name : String) : Bool := d.names.contains name

def baseName (hint : String) : String :=
  if Text.pascalCase hint = "" then "Type" else Text.pascalCase hint

def numbered (base : String) (n : Int) : String := base ++ toString n

/-- The first number from `start` on with which a name is free, within a number of tries. -/
def seek (d : Declarations) (base : String) : Nat → Int → Option Int
  | 0, _ => none
  | tries + 1, start =>
    if d.isDeclared (numbered base start) then seek d base tries (start + 1) else some start

/-- A free name for a hint, and the counter after the search. -/
def uniqueName (d : Declarations) (hint : String) : String × Int :=
  let base := baseName hint
  if d.isDeclared base then
    let n := (d.seek base (d.names.length + 1) (d.counter + 1)).getD (d.counter + 1)
    (numbered base n, n)
  else (base, d.counter)

/-- Declares a class without fields, so that its name is taken while its fields are translated. -/
def declareClass (d : Declarations) (hint : String) : String × Declarations :=
  let (name, counter) := d.uniqueName hint
  (name, { d with classes := d.classes ++ [(name, ⟨name, []⟩)], counter })

def declareEnum (d : Declarations) (hint : String) (values : List Json) : String × Declarations :=
  let (name, counter) := d.uniqueName hint
  (name, { d with enums := d.enums ++ [(name, values)], counter })

def declareAlias (d : Declarations) (hint expr : String) : String × Declarations :=
  let (name, counter) := d.uniqueName hint
  (name, { d with aliases := d.aliases ++ [(name, expr)], counter })

def completeClass (d : Declarations) (name : String) : Declarations :=
  { d with order := d.order ++ [name] }

def addField (d : Declarations) (name : String) (field : Field) : Declarations :=
  { d with classes := d.classes.map fun (key, c) =>
      if key = name then (key, { c with fields := c.fields ++ [field] }) else (key, c) }

def lazy? (d : Declarations) (ref : Ref) : Option String :=
  (d.lazies.find? fun entry => entry.1 = ref).map (·.2)

def recordLazy (d : Declarations) (ref : Ref) (expr : String) : Declarations :=
  { d with lazies := d.lazies.filter (fun entry => entry.1 ≠ ref) ++ [(ref, expr)] }

end Declarations

end StructuredOutput.Baml
