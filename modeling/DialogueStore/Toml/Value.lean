/-
TOML documents as values.

While a document is read, a table knows how it came to be: by a header of its
own, as a step on the way to another table, or by a dotted key.  On that depends
what may still be added to it.
-/
import DialogueStore.Json.Source

namespace DialogueStore

namespace Toml

inductive Value
  | string (s : String)
  | integer (n : Int)
  | float (x : Float)
  | boolean (b : Bool)
  | dateTime
  | array (items : List Value)
  | table (entries : List (String × Value))
  deriving Inhabited

/-- What a key of a table under construction stands for. -/
inductive Item
  | value (v : Value)
  /-- A table; `implied` if no header has defined it, `dotted` if dotted keys have. -/
  | table (implied dotted : Bool) (entries : List (String × Item))
  /-- An array of tables, the latest first. -/
  | tables (ts : List (List (String × Item)))
  deriving Inhabited

abbrev Entries := List (String × Item)

mutual

/-- What an item is when the document is complete. -/
def Item.toValue : Item → Value
  | .value v => v
  | .table _ _ entries => .table (Item.toEntries entries)
  | .tables ts => .array (Item.toTables ts).reverse

def Item.toEntries : List (String × Item) → List (String × Value)
  | [] => []
  | (k, i) :: rest => (k, i.toValue) :: Item.toEntries rest

def Item.toTables : List (List (String × Item)) → List Value
  | [] => []
  | t :: rest => .table (Item.toEntries t) :: Item.toTables rest

end

mutual

/-- A value for a decoder of JSON: a date is an object, which nothing that is decoded expects. -/
def Value.toSource : Value → Json.Source
  | .string s => .string s
  | .integer n => .number (.int n)
  | .float x => .number (.float x)
  | .boolean b => .bool b
  | .dateTime => .object []
  | .array items => .array (Value.toSources items)
  | .table entries => .object (Value.toMembers entries)

def Value.toSources : List Value → List Json.Source
  | [] => []
  | v :: rest => v.toSource :: Value.toSources rest

def Value.toMembers : List (String × Value) → List (String × Json.Source)
  | [] => []
  | (k, v) :: rest => (k, v.toSource) :: Value.toMembers rest

end

namespace Entries

/-- Replaces the item of a key by what a function makes of it; a new key comes last. -/
def modify (f : Option Item → Option Item) (key : String) : Entries → Option Entries
  | [] => do return [(key, ← f none)]
  | (k, i) :: rest => do
    if k = key then return (k, ← f (some i)) :: rest
    else return (k, i) :: (← modify f key rest)

def remove (key : String) (es : Entries) : Entries := es.filter fun e => e.1 ≠ key

def find? (key : String) (es : Entries) : Option Item := es.lookup key

/-- Changes the table at the end of a path.  Tables on the way that are not there yet are implied;
an array of tables stands for its latest one.  `dotted` tells a path of a dotted key from one of a
header: the former may not enter a table that a header has defined.  The function also gets whether
its table was defined by dotted keys. -/
def descend (dotted : Bool) (f : Bool → Entries → Option Entries) :
    (path : List String) → (inDotted : Bool) → Entries → Option Entries
  | [], inDotted, es => f inDotted es
  | key :: path, _, es =>
    es.modify (fun item? =>
      match item? with
      | none => do return .table true dotted (← descend dotted f path dotted [])
      | some (.table implied byDots entries) => do
        if dotted && !implied then none
        else return .table implied byDots (← descend dotted f path byDots entries)
      | some (.tables (latest :: others)) => do
        return .tables ((← descend dotted f path false latest) :: others)
      | some _ => none) key

end Entries

end Toml

end DialogueStore
