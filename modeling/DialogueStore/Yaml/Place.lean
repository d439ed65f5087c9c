/-
Places in a YAML text, and the classes of its characters.

A place is what is left of the text together with how far one has come: on which
line, in which column, after how many characters.
-/

namespace DialogueStore

namespace Yaml

/-- The characters that end a line. -/
def isBreak (c : Char) : Bool :=
  c = '\n' || c = '\r' || c = '\u0085' || c = '\u2028' || c = '\u2029'

def isBlank (c : Char) : Bool := c = ' ' || c = '\t'

/-- Whether a text starts with a blank or a line end, or is at its end. -/
def atBlank : List Char → Bool
  | [] => true
  | c :: _ => isBlank c || isBreak c

/-- Whether a text is at the end of a line. -/
def atLineEnd : List Char → Bool
  | [] => true
  | c :: _ => isBreak c

/-- The characters of names: of anchors, directives and handles. -/
def isNameChar (c : Char) : Bool :=
  ('0' ≤ c && c ≤ '9') || ('a' ≤ c && c ≤ 'z') || ('A' ≤ c && c ≤ 'Z') || c = '_' || c = '-'

/-- The characters that a text may hold at all. -/
def isAllowed (c : Char) : Bool :=
  let n := c.toNat
  c = '\t' || c = '\n' || c = '\r' || c = '\u0085' || (0x20 ≤ n && n ≤ 0x7e) ||
    (0xa0 ≤ n && n ≤ 0xd7ff) || (0xe000 ≤ n && n ≤ 0xfffd) || 0x10000 ≤ n

structure Place where
  rest : List Char
  index : Nat := 0
  line : Nat := 0
  column : Nat := 0
  deriving Inhabited

namespace Place

/-- Goes on by so many characters of the same line. -/
def skip (p : Place) (n : Nat) : Place :=
  ⟨p.rest.drop n, p.index + n, p.line, p.column + n⟩

def skipWhile (p : Place) (test : Char → Bool) : Place := p.skip (p.rest.takeWhile test).length

/-- Goes on to the next line, past a line end of one character, or of two. -/
def skipBreak (p : Place) : Place :=
  let n := match p.rest with
    | '\r' :: '\n' :: _ => 2
    | _ => 1
  ⟨p.rest.drop n, p.index + n, p.line + 1, 0⟩

/-- What a line end is in a scalar: the separators of lines and paragraphs stay, all others are one
line feed. -/
def breakChar (p : Place) : Char :=
  match p.rest with
  | '\u2028' :: _ => '\u2028'
  | '\u2029' :: _ => '\u2029'
  | _ => '\n'

/-- Goes on past blanks and a comment; nothing else may stand before the end of the line. -/
def toLineEnd? (p : Place) : Option Place :=
  let p := p.skipWhile isBlank
  let p := match p.rest with
    | '#' :: _ => p.skipWhile fun c => !isBreak c
    | _ => p
  if atLineEnd p.rest then some (if p.rest.isEmpty then p else p.skipBreak) else none

/-- Whether the line starts with a mark of three equal characters that stands alone. -/
def atMark (p : Place) (c : Char) : Bool :=
  p.column = 0 &&
    match p.rest with
    | a :: b :: d :: rest => a = c && b = c && d = c && atBlank rest
    | _ => false

/-- Whether the line starts or ends a document. -/
def atDocumentMark (p : Place) : Bool := p.atMark '-' || p.atMark '.'

end Place

end Yaml

end DialogueStore
