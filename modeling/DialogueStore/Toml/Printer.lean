/-
Writing texts and numbers in TOML.

There are four ways to write a text: between quotes or apostrophes, and between
three of them.  Between apostrophes nothing is escaped, between three signs there
may be line ends.  A text is written in the first of these ways that needs no
escapes for it, and if there is none, with escapes.
-/
namespace DialogueStore

namespace Toml

/-- The ways to write a text. -/
inductive Style
  | basic
  | literal
  | longBasic
  | longLiteral
  deriving DecidableEq, Repr

namespace Style

def isLong : Style → Bool
  | .longBasic | .longLiteral => true
  | _ => false

def isLiteral : Style → Bool
  | .literal | .longLiteral => true
  | _ => false

/-- What stands before and after the text. -/
def delimiter : Style → String
  | .basic => "\""
  | .literal => "'"
  | .longBasic => "\"\"\""
  | .longLiteral => "'''"

end Style

/-- The most times that a character stands in a row, when it has just been seen `run` times. -/
def longestRunAfter (c : Char) (run : Nat) : List Char → Nat
  | [] => run
  | d :: rest =>
    if d = c then longestRunAfter c (run + 1) rest else max run (longestRunAfter c 0 rest)

/-- The most times that a character stands in a row. -/
def longestRun (c : Char) (cs : List Char) : Nat := longestRunAfter c 0 cs

/-- The characters that can only be written as escapes. -/
def isControl (c : Char) : Bool := (c.toNat < 0x20 && c ≠ '\t' && c ≠ '\n') || c.toNat = 0x7f

def Style.ofText (cs : List Char) : Style :=
  let lines := cs.contains '\n'
  let controls := cs.any isControl
  let escapes := controls || cs.contains '\\'
  if !escapes && !lines && longestRun '"' cs = 0 then .basic
  else if !controls && !lines && longestRun '\'' cs = 0 then .literal
  else if !escapes && longestRun '"' cs ≤ 2 then .longBasic
  else if !controls && longestRun '\'' cs ≤ 2 then .longLiteral
  else if lines then .longBasic
  else .basic

/-- A character between quotes, other than a quote. -/
def escapeChar (isLong : Bool) (c : Char) : List Char :=
  match c with
  | '\x08' => ['\\', 'b']
  | '\t' => ['\\', 't']
  | '\n' => if isLong then [c] else ['\\', 'n']
  | '\x0c' => ['\\', 'f']
  | '\r' => ['\\', 'r']
  | '\\' => ['\\', '\\']
  | c =>
    if c.toNat < 0x20 || c.toNat = 0x7f then
      '\\' :: 'u' :: ((Nat.toDigits 16 c.toNat).map Char.toUpper).leftpad 4 '0'
    else [c]

/-- A text between quotes; `room` is how many more quotes may stand in a row without an escape. -/
def escape (isLong : Bool) (room : Nat) : List Char → List Char
  | [] => []
  | '"' :: rest =>
    match room with
    | 0 => '\\' :: '"' :: escape isLong (if isLong then 2 else 0) rest
    | room + 1 => '"' :: escape isLong room rest
  | c :: rest => escapeChar isLong c ++ escape isLong (if isLong then 2 else 0) rest

/-- A text as it is written.  After three signs a line end comes first if there are others. -/
def quote (s : String) : String :=
  let cs := s.toList
  let style := Style.ofText cs
  let opening := if style.isLong && cs.contains '\n' then "\n" else ""
  let content := if style.isLiteral then cs
    else escape style.isLong (if style.isLong then 2 else 0) cs
  style.delimiter ++ opening ++ String.ofList content ++ style.delimiter

/-- A count as it is written; there are numbers up to 2^63 only. -/
def count? (n : Nat) : Option String := if n < 0x8000000000000000 then some (toString n) else none

def line (key value : String) : String := key ++ " = " ++ value ++ "\n"

def header (name : String) : String := "[" ++ name ++ "]\n"

end Toml

end DialogueStore
