/-
What a written pattern means.

Flags change the meaning of what follows them in the same group.  Where the
flag for all scripts is off, a pattern reads bytes and must still match whole
characters, so that it can name characters of one byte only.
-/
import DialogueStore.Pattern.Match
import DialogueStore.Pattern.Reader
import DialogueStore.Pattern.Size

namespace DialogueStore

namespace Pattern

structure Flags where
  anyCase : Bool := false
  multiLine : Bool := false
  dotAll : Bool := false
  swapGreed : Bool := false
  unicode : Bool := true
  crlf : Bool := false

def Flags.change (f : Flags) : Flag × Bool → Flags
  | (.anyCase, on) => { f with anyCase := on }
  | (.multiLine, on) => { f with multiLine := on }
  | (.dotAll, on) => { f with dotAll := on }
  | (.swapGreed, on) => { f with swapGreed := on }
  | (.unicode, on) => { f with unicode := on }
  | (.crlf, on) => { f with crlf := on }
  | (.verbose, _) => f

/-- A pattern and the sizes of its automata. -/
structure Sized where
  pattern : Pattern
  forward : Nat
  backward : Nat

/-! ### Sets of characters -/

def asciiDigits : Text.Ranges := [(0x30, 0x39)]

def asciiSpaces : Text.Ranges := [(0x9, 0xd), (0x20, 0x20)]

def asciiWords : Text.Ranges := [(0x30, 0x39), (0x41, 0x5a), (0x5f, 0x5f), (0x61, 0x7a)]

def LetterClass.set (k : LetterClass) (unicode : Bool) : Text.Ranges :=
  match k, unicode with
  | .digit, true => Text.digitRanges
  | .space, true => Text.blankRanges
  | .word, true => Text.wordRanges
  | .digit, false => asciiDigits
  | .space, false => asciiSpaces
  | .word, false => asciiWords

/-- The characters of a class such as `[:alpha:]`. -/
def asciiSet (name : String) : Text.Ranges :=
  match name with
  | "alnum" => [(0x30, 0x39), (0x41, 0x5a), (0x61, 0x7a)]
  | "alpha" => [(0x41, 0x5a), (0x61, 0x7a)]
  | "ascii" => [(0, 0x7f)]
  | "blank" => [(0x9, 0x9), (0x20, 0x20)]
  | "cntrl" => [(0, 0x1f), (0x7f, 0x7f)]
  | "digit" => asciiDigits
  | "graph" => [(0x21, 0x7e)]
  | "lower" => [(0x61, 0x7a)]
  | "print" => [(0x20, 0x7e)]
  | "punct" => [(0x21, 0x2f), (0x3a, 0x40), (0x5b, 0x60), (0x7b, 0x7e)]
  | "space" => asciiSpaces
  | "upper" => [(0x41, 0x5a)]
  | "word" => asciiWords
  | _ => [(0x30, 0x39), (0x41, 0x46), (0x61, 0x66)]

namespace Flags

def domain (f : Flags) : Text.Ranges := if f.unicode then Text.Ranges.characters else [(0, 0xff)]

def negate (f : Flags) (negated : Bool) (set : Text.Ranges) : Text.Ranges :=
  if negated then Text.Ranges.difference f.domain set else set

/-- Adds the other case of the letters of one byte. -/
def asciiCaseClosure (set : Text.Ranges) : Text.Ranges :=
  let shift (lo hi : Nat) (by' : Int) : Text.Ranges :=
    (Text.Ranges.intersect set [(lo, hi)]).map fun r =>
      (((r.1 : Int) + by').toNat, ((r.2 : Int) + by').toNat)
  Text.Ranges.normalize (set ++ shift 0x41 0x5a 32 ++ shift 0x61 0x7a (-32))

def fold (f : Flags) (set : Text.Ranges) : Text.Ranges :=
  if !f.anyCase then Text.Ranges.normalize set
  else if f.unicode then Text.Ranges.caseClosure set
  else asciiCaseClosure set

def querySet? : Query → Option Text.Ranges
  | .letter c => Text.categorySet? (Text.normalizeName (String.singleton c))
  | .named name => Text.propertySet? name
  | .valued property value => Text.propertyValueSet? property value

/-- The code of a character in a set: a character of several bytes has none where bytes are read. -/
def literalCode? (f : Flags) (l : Literal) : Option Nat :=
  if f.unicode || l.char.toNat ≤ 0x7f || l.isByte then some l.char.toNat else none

mutual

/-- The set of a part between brackets. -/
def setOf? (f : Flags) : SetExpr → Option Text.Ranges
  | .literal l => do
    let n ← f.literalCode? l
    return [(n, n)]
  | .range a b => do
    let a ← f.literalCode? a
    let b ← f.literalCode? b
    return [(a, b)]
  | .ascii name negated => some (f.negate negated (f.fold (asciiSet name)))
  | .letterClass k negated => some (f.negate negated (k.set f.unicode))
  | .property q negated => do
    if !f.unicode then none
    else return f.negate negated (f.fold (← querySet? q))
  | .bracket negated set => do
    let s ← setOf? f set
    return f.negate negated (f.fold s)
  | .union items => do
    let sets ← setsOf? f items
    return Text.Ranges.normalize sets.flatten
  | .op o a b => do
    let a ← setOf? f a
    let b ← setOf? f b
    let a := f.fold a
    let b := f.fold b
    match o with
    | .intersection => return Text.Ranges.intersect a b
    | .difference => return Text.Ranges.difference a b
    | .symmetricDifference => return Text.Ranges.symmetricDifference a b

def setsOf? (f : Flags) : List SetExpr → Option (List Text.Ranges)
  | [] => some []
  | e :: rest => do
    let s ← setOf? f e
    let ss ← setsOf? f rest
    return s :: ss

end

/-- A set as a pattern.  Where bytes are read, it must hold characters of one byte only. -/
def ofSet? (f : Flags) (set : Text.Ranges) : Option Sized :=
  if f.unicode || Size.isAscii set then
    let (forward, backward) := Size.ofSet set
    some ⟨.one set, forward, backward⟩
  else none

/-- A character as a pattern. -/
def ofLiteral? (f : Flags) (l : Literal) : Option Sized :=
  let n := l.char.toNat
  if !f.unicode && l.isByte && n > 0x7f then none
  else
    let set : Text.Ranges := [(n, n)]
    let set := if f.anyCase && (f.unicode || n ≤ 0x7f) then f.fold set else set
    let (forward, backward) := Size.ofSet set
    some ⟨.one set, forward, backward⟩

def anchor (f : Flags) (a : Assertion) : Anchor :=
  let word : Char → Bool :=
    if f.unicode then Text.isWord else fun c => Text.Ranges.contains asciiWords c.toNat
  match a with
  | .lineStart =>
    if !f.multiLine then .textStart else if f.crlf then .crlfLineStart else .lineStart
  | .lineEnd => if !f.multiLine then .textEnd else if f.crlf then .crlfLineEnd else .lineEnd
  | .textStart => .textStart
  | .textEnd => .textEnd
  | .wordBoundary => .wordBoundary word
  | .notWordBoundary => .notWordBoundary word
  | .wordStart => .wordStart word
  | .wordEnd => .wordEnd word
  | .wordStartHalf => .wordStartHalf word
  | .wordEndHalf => .wordEndHalf word

def dotSet (f : Flags) : Text.Ranges :=
  if f.dotAll then Text.Ranges.characters
  else if f.crlf then Text.Ranges.difference Text.Ranges.characters [(0xa, 0xa), (0xd, 0xd)]
  else Text.Ranges.difference Text.Ranges.characters [(0xa, 0xa)]

end Flags

/-! ### Patterns -/

/-- Whether a pattern can match without reading. -/
def isNullable : Pattern → Bool
  | .empty => true
  | .one _ => false
  | .anchor _ => true
  | .seq p q => p.isNullable && q.isNullable
  | .alt p q => p.isNullable || q.isNullable
  | .repeat min _ _ p => min = 0 || p.isNullable

/-- The size of a repetition of a pattern of a size. -/
def repeatSize (nullable : Bool) (min : Nat) (limit : Option Nat) (size : Nat) : Nat :=
  match min, limit with
  | 0, some 1 => size + 2 * Size.state + 2 * Size.alternative
  | min, some max =>
    if min = max then if min = 0 then Size.state else min * size
    else min * size + (max - min) * (size + Size.state + 2 * Size.alternative) + Size.state
  | 0, none =>
    if nullable then size + 3 * Size.state + 4 * Size.alternative
    else size + Size.state + 2 * Size.alternative
  | min, none => min * size + Size.state + 2 * Size.alternative

namespace Sized

def empty : Sized := ⟨.empty, Size.state, Size.state⟩

def seq (a b : Sized) : Sized :=
  ⟨.seq a.pattern b.pattern, a.forward + b.forward, a.backward + b.backward⟩

def alt (a b : Sized) : Sized :=
  ⟨.alt a.pattern b.pattern, a.forward + b.forward + Size.alternative,
    a.backward + b.backward + Size.alternative⟩

/-- Adds states that read nothing. -/
def grow (s : Sized) (forward backward : Nat) : Sized :=
  { s with forward := s.forward + forward, backward := s.backward + backward }

def repeat' (min : Nat) (limit : Option Nat) (greedy : Bool) (s : Sized) : Sized :=
  let nullable := s.pattern.isNullable
  ⟨.repeat min limit greedy s.pattern, repeatSize nullable min limit s.forward,
    repeatSize nullable min limit s.backward⟩

end Sized

/-- The meaning of a pattern under flags, which are those in force after it when it is done. -/
abbrev Meaning (α : Type) := StateT Flags Option α

mutual

def Expr.meaning : Expr → Meaning Sized
  | .empty => return .empty
  | .flags changes => do
    modify fun f => changes.foldl Flags.change f
    return .empty
  | .literal l => do (← get).ofLiteral? l
  | .dot => do
    let f ← get
    if f.unicode then f.ofSet? f.dotSet else none
  | .assertion a => do return ⟨.anchor ((← get).anchor a), Size.state, Size.state⟩
  | .letterClass k negated => do
    let f ← get
    f.ofSet? (Text.Ranges.normalize (f.negate negated (k.set f.unicode)))
  | .property q negated => do
    let f ← get
    f.ofSet? (← f.setOf? (.property q negated))
  | .bracket negated set => do
    let f ← get
    f.ofSet? (← f.setOf? (.bracket negated set))
  | .repeat min limit greedy e => do
    let f ← get
    let s ← e.meaning
    return s.repeat' min limit (greedy != f.swapGreed)
  | .group captures changes e => do
    let f ← get
    set (changes.foldl Flags.change f)
    let s ← e.meaning
    set f
    return if captures then s.grow (2 * Size.state) 0 else s
  | .alternation es => do
    let s ← Expr.meaningOfAlternatives es
    return s.grow (2 * Size.state) (2 * Size.state)
  | .concat es => Expr.meaningOfSequence es

def Expr.meaningOfSequence : List Expr → Meaning Sized
  | [] => return ⟨.empty, 0, 0⟩
  | e :: rest => do
    let a ← e.meaning
    let b ← Expr.meaningOfSequence rest
    return a.seq b

def Expr.meaningOfAlternatives : List Expr → Meaning Sized
  | [] => none
  | [e] => e.meaning
  | e :: rest => do
    let a ← e.meaning
    let b ← Expr.meaningOfAlternatives rest
    return a.alt b

end

/-- What every automaton has besides its pattern: the frame of the whole match and the part that
moves to the start of a match. -/
def frameSize : Nat := 6 * Size.state

/-- Reads a pattern and takes its meaning; none if it is no pattern or too large. -/
def ofString? (s : String) : Option Pattern := do
  let e ← Expr.read? s
  let (sized, _) ← e.meaning.run {}
  if sized.forward + frameSize ≤ Size.limit ∧ sized.backward + frameSize ≤ Size.limit then
    some sized.pattern
  else none

end Pattern

end DialogueStore
