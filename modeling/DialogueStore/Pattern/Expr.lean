/-
Written patterns as trees, before it is known what they match.
-/
namespace DialogueStore

namespace Pattern

/-- A written character.  `isByte` marks one that is written as two hexadecimal digits. -/
structure Literal where
  char : Char
  isByte : Bool := false
  deriving DecidableEq, Repr, Inhabited

/-- The classes with a letter of their own: digits, blanks and word characters. -/
inductive LetterClass
  | digit
  | space
  | word
  deriving DecidableEq, Repr, Inhabited

/-- A class of characters by a property. -/
inductive Query
  | letter (c : Char)
  | named (name : String)
  | valued (property value : String)
  deriving Repr, Inhabited

inductive SetOp
  | intersection
  | difference
  | symmetricDifference
  deriving DecidableEq, Repr, Inhabited

inductive SetExpr
  | literal (l : Literal)
  | range (first last : Literal)
  | ascii (name : String) (negated : Bool)
  | letterClass (k : LetterClass) (negated : Bool)
  | property (q : Query) (negated : Bool)
  | bracket (negated : Bool) (set : SetExpr)
  | union (items : List SetExpr)
  | op (o : SetOp) (left right : SetExpr)
  deriving Inhabited

inductive Assertion
  | lineStart
  | lineEnd
  | textStart
  | textEnd
  | wordBoundary
  | notWordBoundary
  | wordStart
  | wordEnd
  | wordStartHalf
  | wordEndHalf
  deriving DecidableEq, Repr, Inhabited

inductive Flag
  /-- Letters match in either case. -/
  | anyCase
  /-- Line anchors match at every line. -/
  | multiLine
  /-- The dot matches line feeds. -/
  | dotAll
  /-- Greedy and not greedy change places. -/
  | swapGreed
  /-- Classes are those of all scripts. -/
  | unicode
  /-- Lines may end with a carriage return. -/
  | crlf
  /-- Blanks and comments in the pattern do not count. -/
  | verbose
  deriving DecidableEq, Repr, Inhabited

/-- Flags that are switched on or off; the others stay. -/
abbrev FlagChanges := List (Flag × Bool)

inductive Expr
  | empty
  | flags (changes : FlagChanges)
  | literal (l : Literal)
  | dot
  | assertion (a : Assertion)
  | letterClass (k : LetterClass) (negated : Bool)
  | property (q : Query) (negated : Bool)
  | bracket (negated : Bool) (set : SetExpr)
  | repeat (min : Nat) (limit : Option Nat) (greedy : Bool) (e : Expr)
  /-- A group, which remembers what it matched or changes flags inside. -/
  | group (captures : Bool) (changes : FlagChanges) (e : Expr)
  | alternation (es : List Expr)
  | concat (es : List Expr)
  deriving Inhabited

/-! ### Nesting -/

mutual

def SetExpr.depth : SetExpr → Nat
  | .bracket _ set => set.depth + 1
  | .union items => SetExpr.depthOf items + 1
  | .op _ a b => max a.depth b.depth + 1
  | _ => 0

def SetExpr.depthOf : List SetExpr → Nat
  | [] => 0
  | e :: rest => max e.depth (SetExpr.depthOf rest)

end

mutual

/-- How deep groups, repetitions, sequences, alternatives and sets are nested. -/
def Expr.depth : Expr → Nat
  | .bracket _ set => set.depth + 1
  | .repeat _ _ _ e => e.depth + 1
  | .group _ _ e => e.depth + 1
  | .alternation es => Expr.depthOf es + 1
  | .concat es => Expr.depthOf es + 1
  | _ => 0

def Expr.depthOf : List Expr → Nat
  | [] => 0
  | e :: rest => max e.depth (Expr.depthOf rest)

end

/-- A sequence of patterns, which is no sequence if there is one only. -/
def Expr.ofSequence : List Expr → Expr
  | [] => .empty
  | [e] => e
  | es => .concat es

def Expr.ofAlternatives : List Expr → Expr
  | [] => .empty
  | [e] => e
  | es => .alternation es

/-- A set of several parts, which is no union if there is one only. -/
def SetExpr.ofItems : List SetExpr → SetExpr
  | [e] => e
  | es => .union es

end Pattern

end DialogueStore
