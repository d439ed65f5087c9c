/-
Patterns of text.

A pattern is matched at a place, which is a text cut in two: matching moves the
cut to the right.  What stands before the cut matters too, because a pattern
can ask for a word boundary or for the start of a line.  `Pattern.Matches` says
which places a match may lead to.
-/
import DialogueStore.Text.CharClass

namespace DialogueStore

/-- A place in a text: the characters before it, nearest first, and those after it. -/
structure Place where
  before : List Char
  after : List Char
  deriving DecidableEq, Repr, Inhabited

namespace Place

def start (text : List Char) : Place := ⟨[], text⟩

/-- All places of a text from this one on. -/
def onward : Place → List Place
  | ⟨before, []⟩ => [⟨before, []⟩]
  | ⟨before, c :: rest⟩ => ⟨before, c :: rest⟩ :: onward ⟨c :: before, rest⟩
termination_by p => p.after.length

end Place

/-- What a pattern can ask of a place without reading on. -/
inductive Anchor
  | textStart
  | textEnd
  | lineStart
  | lineEnd
  /-- Lines that end with a carriage return, a line feed or both in this order. -/
  | crlfLineStart
  | crlfLineEnd
  | wordBoundary (word : Char → Bool)
  | notWordBoundary (word : Char → Bool)
  | wordStart (word : Char → Bool)
  | wordEnd (word : Char → Bool)
  | wordStartHalf (word : Char → Bool)
  | wordEndHalf (word : Char → Bool)

namespace Anchor

/-- Whether the nearest character on one side belongs to a class. -/
def headIs (p : Char → Bool) : List Char → Bool
  | [] => false
  | c :: _ => p c

def holds : Anchor → Place → Bool
  | .textStart, p => p.before.isEmpty
  | .textEnd, p => p.after.isEmpty
  | .lineStart, p => p.before.isEmpty || headIs (· = '\n') p.before
  | .lineEnd, p => p.after.isEmpty || headIs (· = '\n') p.after
  | .crlfLineStart, p =>
    p.before.isEmpty || headIs (· = '\n') p.before ||
      (headIs (· = '\r') p.before && !headIs (· = '\n') p.after)
  | .crlfLineEnd, p =>
    p.after.isEmpty || headIs (· = '\r') p.after ||
      (headIs (· = '\n') p.after && !headIs (· = '\r') p.before)
  | .wordBoundary w, p => headIs w p.before != headIs w p.after
  | .notWordBoundary w, p => headIs w p.before == headIs w p.after
  | .wordStart w, p => !headIs w p.before && headIs w p.after
  | .wordEnd w, p => headIs w p.before && !headIs w p.after
  | .wordStartHalf w, p => !headIs w p.before
  | .wordEndHalf w, p => !headIs w p.after

end Anchor

inductive Pattern
  /-- Matches without reading anything. -/
  | empty
  | one (set : Text.Ranges)
  | anchor (a : Anchor)
  | seq (p q : Pattern)
  /-- Matches what one of two patterns matches; the first one is preferred. -/
  | alt (p q : Pattern)
  /-- Matches a number of times in a row, at least `min` and, if there is one, at most the limit.
  A greedy repetition prefers more, any other one fewer. -/
  | repeat (min : Nat) (limit : Option Nat) (greedy : Bool) (p : Pattern)

namespace Pattern

mutual

/-- A pattern matches from one place to another. -/
inductive Matches : Pattern → Place → Place → Prop
  | empty (s : Place) : Matches .empty s s
  | one {set : Text.Ranges} {before rest : List Char} {c : Char}
    (h : set.contains c.toNat = true) :
    Matches (.one set) ⟨before, c :: rest⟩ ⟨c :: before, rest⟩
  | anchor {a : Anchor} {s : Place} (h : a.holds s = true) : Matches (.anchor a) s s
  | seq {p q : Pattern} {s t u : Place} (hp : Matches p s t) (hq : Matches q t u) :
    Matches (.seq p q) s u
  | left {p q : Pattern} {s t : Place} (h : Matches p s t) : Matches (.alt p q) s t
  | right {p q : Pattern} {s t : Place} (h : Matches q s t) : Matches (.alt p q) s t
  | repeat {min n : Nat} {limit : Option Nat} {greedy : Bool} {p : Pattern} {s t : Place}
    (hmin : min ≤ n) (hmax : ∀ m ∈ limit, n ≤ m) (h : Times p n s t) :
    Matches (.repeat min limit greedy p) s t

/-- A pattern matches so many times in a row. -/
inductive Times : Pattern → Nat → Place → Place → Prop
  | zero (p : Pattern) (s : Place) : Times p 0 s s
  | succ {p : Pattern} {n : Nat} {s t u : Place} (hp : Matches p s t) (hn : Times p n t u) :
    Times p (n + 1) s u

end

def sequence : List Pattern → Pattern
  | [] => .empty
  | [p] => p
  | p :: rest => .seq p (sequence rest)

def char (c : Char) : Pattern := .one [(c.toNat, c.toNat)]

/-- A pattern so many times, from `min` to `max`, as often as possible. -/
def between (min max : Nat) (p : Pattern) : Pattern := .repeat min (some max) true p

def exactly (n : Nat) (p : Pattern) : Pattern := .repeat n (some n) true p

def optional (p : Pattern) : Pattern := .repeat 0 (some 1) true p

end Pattern

end DialogueStore
