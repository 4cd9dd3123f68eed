import StructuredOutput.Numeral.Binary64

/-!
JSON values. Whole numbers and fractions are different values, and the members of an object keep
their order. A key stands in an object once: `insert` overwrites in place, as a later value of a
repeated key does when a text is read.
-/
namespace StructuredOutput

open Numeral (Binary64)

inductive Json where
  | null
  | bool (value : Bool)
  | int (value : Int)
  | float (value : Binary64)
  | str (text : String)
  | arr (items : List Json)
  | obj (members : List (String × Json))
deriving Inhabited

namespace Json

def find? {α : Type} (key : String) : List (String × α) → Option α
  | [] => none
  | (k, v) :: rest => if k = key then some v else find? key rest

theorem sizeOf_find? {key : String} {members : List (String × Json)} {value : Json}
    (h : find? key members = some value) : sizeOf value < sizeOf members := by
  induction members with
  | nil => simp [find?] at h
  | cons m rest ih =>
    obtain ⟨k, v⟩ := m
    simp only [find?] at h
    split at h
    · cases h; simp; omega
    · have := ih h; simp; omega

theorem sizeOf_obj_of_find? {key : String} {members inner : List (String × Json)}
    (h : find? key members = some (.obj inner)) : 1 + sizeOf inner < sizeOf members := by
  simpa using sizeOf_find? h

/-- Sets a key: its value is replaced where it stands, or it is put at the end. -/
def insert {α : Type} (key : String) (value : α) : List (String × α) → List (String × α)
  | [] => [(key, value)]
  | (k, v) :: rest => if k = key then (k, value) :: rest else (k, v) :: insert key value rest

/-- Members with each key once, the last value of a key standing at its first place. -/
def distinct {α : Type} (members : List (String × α)) : List (String × α) :=
  members.foldl (fun acc m => insert m.1 m.2 acc) []

/-- The members of one object followed by those of another, which win. -/
def union {α : Type} (first second : List (String × α)) : List (String × α) :=
  second.foldl (fun acc m => insert m.1 m.2 acc) first

/-- The value of a key of an object; other values have no keys. -/
def get? (key : String) : Json → Option Json
  | .obj members => find? key members
  | _ => none

/-- Whether a value counts as present: `null`, `false`, zero and everything empty do not. -/
def truthy : Json → Bool
  | .null => false
  | .bool b => b
  | .int n => n ≠ 0
  | .float x => !x.isZero
  | .str s => s ≠ ""
  | .arr items => !items.isEmpty
  | .obj members => !members.isEmpty

def typeName : Json → String
  | .null => "NoneType"
  | .bool _ => "bool"
  | .int _ => "int"
  | .float _ => "float"
  | .str _ => "str"
  | .arr _ => "list"
  | .obj _ => "dict"

def isStr (text : String) : Json → Bool
  | .str s => s = text
  | _ => false

def isNull : Json → Bool
  | .null => true
  | _ => false

def isObj : Json → Bool
  | .obj _ => true
  | _ => false

/-- Whether a value can be a key of a table: lists and objects cannot. -/
def isScalar : Json → Bool
  | .arr _ => false
  | .obj _ => false
  | _ => true

/-- A whole number; a truth value counts as zero or one. -/
def toInt? : Json → Option Int
  | .int n => some n
  | .bool b => some (if b then 1 else 0)
  | _ => none

def toStr? : Json → Option String
  | .str s => some s
  | _ => none

/-- What is met when a value is gone through: the items of a list, the characters of a string, the
keys of an object. Other values cannot be gone through. -/
def elements? : Json → Option (List Json)
  | .arr items => some items
  | .str s => some (s.toList.map fun c => .str (String.singleton c))
  | .obj members => some (members.map fun m => .str m.1)
  | _ => none

mutual

/-- Whether two values are the same, members in the same order. -/
def same : Json → Json → Bool
  | .null, .null => true
  | .bool a, .bool b => a = b
  | .int a, .int b => a = b
  | .float a, .float b => a = b
  | .str a, .str b => a = b
  | .arr a, .arr b => sameItems a b
  | .obj a, .obj b => sameMembers a b
  | _, _ => false

def sameItems : List Json → List Json → Bool
  | [], [] => true
  | a :: as, b :: bs => same a b && sameItems as bs
  | _, _ => false

def sameMembers : List (String × Json) → List (String × Json) → Bool
  | [], [] => true
  | (k, a) :: as, (l, b) :: bs => k = l && same a b && sameMembers as bs
  | _, _ => false

end

end Json

end StructuredOutput
