/-
JSON values.

A number is a whole number or a double, and stays what it was written as.  An
object is the list of its members in the order in which they are printed;
a value that is carried verbatim has each object's members in key order.
-/
import DialogueStore.Dict

namespace DialogueStore

inductive Number
  | int (n : Int)
  | float (x : Float)
  deriving BEq, Repr, Inhabited

/-- The double nearest to a whole number. -/
def Float.ofWhole (n : Int) : Float := Float.ofInt n

def Number.toFloat : Number → Float
  | .int n => Float.ofWhole n
  | .float x => x

inductive Json
  | null
  | bool (b : Bool)
  | number (n : Number)
  | string (s : String)
  | array (items : List Json)
  | object (members : List (String × Json))
  deriving Repr, Inhabited

namespace Json

mutual

/-- Same value, with members in the same order; two floats are compared as numbers. -/
def beq : Json → Json → Bool
  | .null, .null => true
  | .bool a, .bool b => a == b
  | .number a, .number b => a == b
  | .string a, .string b => a == b
  | .array a, .array b => beqItems a b
  | .object a, .object b => beqMembers a b
  | _, _ => false

def beqItems : List Json → List Json → Bool
  | [], [] => true
  | a :: as, b :: bs => beq a b && beqItems as bs
  | _, _ => false

def beqMembers : List (String × Json) → List (String × Json) → Bool
  | [], [] => true
  | (k, a) :: as, (l, b) :: bs => k == l && beq a b && beqMembers as bs
  | _, _ => false

end

instance : BEq Json := ⟨beq⟩

/-- The member of an object under a key. -/
def get? : Json → String → Option Json
  | .object members, key => Dict.get? members key
  | _, _ => none

def text? : Json → Option String
  | .string s => some s
  | _ => none

def bool? : Json → Option Bool
  | .bool b => some b
  | _ => none

def int (n : Int) : Json := .number (.int n)

def nat (n : Nat) : Json := .number (.int n)

/-- A double; one that is not finite has no JSON number and is written as null. -/
def float (x : Float) : Json := if x.isFinite then .number (.float x) else .null

/-- A value or null. -/
def orNull {α : Type} (f : α → Json) : Option α → Json
  | some a => f a
  | none => .null

/-- An object whose members are put into key order. -/
def sortedObject (members : List (String × Json)) : Json := .object (Dict.ofList members)

mutual

/-- A value with the members of all its objects in key order. -/
def sortKeys : Json → Json
  | .array items => .array (sortItems items)
  | .object members => sortedObject (sortMembers members)
  | v => v

def sortItems : List Json → List Json
  | [] => []
  | v :: rest => sortKeys v :: sortItems rest

def sortMembers : List (String × Json) → List (String × Json)
  | [] => []
  | (k, v) :: rest => (k, sortKeys v) :: sortMembers rest

end

end Json

end DialogueStore
