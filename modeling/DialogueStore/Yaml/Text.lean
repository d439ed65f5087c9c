/-
The scalars of YAML as they are written: plain, quoted, and as blocks of lines.

A reader takes the place at which a scalar starts and gives the scalar's text
with the place after it.  Line ends within a scalar are folded: one line end is
a space, and of several the first is dropped.
-/
import DialogueStore.Yaml.Place
import DialogueStore.Json.Reader

namespace DialogueStore

namespace Yaml

/-! ### Folding -/

/-- The text that stands for the first line end of a gap and those after it.  There is no first one
if it was escaped. -/
def folded (first : Option Char) (more : List Char) : List Char :=
  match first with
  | some '\n' => if more.isEmpty then [' '] else more
  | some c => c :: more
  | none => more

/-- A stretch of blanks and line ends between the words of a scalar. -/
structure Gap where
  /-- What it is in the text of the scalar. -/
  text : List Char := []
  broken : Bool := false

/-- Reads a gap.  A tab left of the column `indent` is refused after a line end. -/
def gap (indent : Nat) : (fuel : Nat) → (broken : Bool) → (spaces : List Char) →
    (first : Option Char) → (more : List Char) → Place → Option (Gap × Place)
  | 0, _, _, _, _, _ => none
  | fuel + 1, broken, spaces, first, more, p =>
    match p.rest with
    | c :: _ =>
      if isBlank c then
        if broken && p.column < indent && c = '\t' then none
        else gap indent fuel broken (if broken then spaces else c :: spaces) first more (p.skip 1)
      else if isBreak c then
        if broken then gap indent fuel true [] first (p.breakChar :: more) p.skipBreak
        else gap indent fuel true [] (some p.breakChar) more p.skipBreak
      else found broken spaces first more p
    | [] => found broken spaces first more p
where
  found (broken : Bool) (spaces : List Char) (first : Option Char) (more : List Char) (p : Place) :
      Option (Gap × Place) :=
    some (⟨if broken then folded first more.reverse else spaces.reverse, broken⟩, p)

/-! ### Plain scalars -/

def isFlowIndicator (c : Char) : Bool := c = ',' || c = '[' || c = ']' || c = '\x7b' || c = '\x7d'

/-- The word at the start of a text, up to a blank or what ends a plain scalar.  In a flow
collection a colon must not stand before an indicator. -/
def plainWord (inFlow : Bool) : List Char → Option (List Char)
  | [] => some []
  | c :: rest =>
    if isBlank c || isBreak c then some []
    else if inFlow && c = ':' && (rest.head?.any fun d => isFlowIndicator d || d = '?') then none
    else if (c = ':' && atBlank rest) || (inFlow && isFlowIndicator c) then some []
    else (plainWord inFlow rest).map (c :: ·)

/-- Reads a plain scalar; `gap` is what stands between the text so far and this place.  The last
component tells whether the scalar is followed by a line end. -/
def plain (inFlow : Bool) (indent : Nat) : (fuel : Nat) → (text : List Char) → Gap → Place →
    Option (String × Place × Bool)
  | 0, _, _, _ => none
  | fuel + 1, text, between, p =>
    if p.atDocumentMark || p.rest.head? = some '#' then
      some (String.ofList text, p, between.broken)
    else do
      let word ← plainWord inFlow p.rest
      let (text, between) :=
        if word.isEmpty then (text, between) else (text ++ between.text ++ word, {})
      let p := p.skip word.length
      if p.rest.isEmpty || !atBlank p.rest then return (String.ofList text, p, between.broken)
      let (between, p) ← gap indent (p.rest.length + 1) between.broken [] none [] p
      if !inFlow && p.column < indent then return (String.ofList text, p, between.broken)
      plain inFlow indent fuel text between p

/-! ### Quoted scalars -/

def simpleEscape? : Char → Option Char
  | '0' => some '\x00'
  | 'a' => some '\x07'
  | 'b' => some '\x08'
  | 't' => some '\t'
  | '\t' => some '\t'
  | 'n' => some '\n'
  | 'v' => some '\x0b'
  | 'f' => some '\x0c'
  | 'r' => some '\r'
  | 'e' => some '\x1b'
  | ' ' => some ' '
  | '"' => some '"'
  | '/' => some '/'
  | '\\' => some '\\'
  | 'N' => some '\u0085'
  | '_' => some '\u00a0'
  | 'L' => some '\u2028'
  | 'P' => some '\u2029'
  | _ => none

/-- How many hexadecimal digits follow the letter of an escape. -/
def escapeDigits? : Char → Option Nat
  | 'x' => some 2
  | 'u' => some 4
  | 'U' => some 8
  | _ => none

def codedChar? (digits : List Char) : Option Char := do
  let n ← digits.foldlM (fun n c => do return n * 16 + (← Json.Reader.hexValue c)) 0
  if n < 0xd800 ∨ (0xdfff < n ∧ n ≤ 0x10ffff) then some (Char.ofNat n) else none

/-- An escape, after the backslash: its character, and how many characters it takes. -/
def escape? : List Char → Option (Char × Nat)
  | [] => none
  | c :: rest =>
    match escapeDigits? c with
    | some k =>
      let digits := rest.take k
      if digits.length = k then (codedChar? digits).map fun c => (c, k + 1) else none
    | none => (simpleEscape? c).map fun c => (c, 1)

/-- Reads what stands up to the next blank, line end or closing quote.  The flag tells whether it
ends with an escaped line end. -/
def quotedWord (quote : Char) : (fuel : Nat) → (word : List Char) → Place →
    Option (List Char × Bool × Place)
  | 0, _, _ => none
  | fuel + 1, word, p =>
    match p.rest with
    | [] => some (word.reverse, false, p)
    | c :: rest =>
      if isBlank c || isBreak c then some (word.reverse, false, p)
      else if quote = '\'' && c = '\'' && rest.head? = some '\'' then
        quotedWord quote fuel ('\'' :: word) (p.skip 2)
      else if c = quote then some (word.reverse, false, p)
      else if quote = '"' && c = '\\' then
        if rest.head?.any isBreak then some (word.reverse, true, (p.skip 1).skipBreak)
        else match escape? rest with
          | some (c, n) => quotedWord quote fuel (c :: word) (p.skip (n + 1))
          | none => none
      else quotedWord quote fuel (c :: word) (p.skip 1)

/-- Reads a quoted scalar, after the opening quote. -/
def quoted (quote : Char) : (fuel : Nat) → (text : List Char) → Place → Option (String × Place)
  | 0, _, _ => none
  | fuel + 1, text, p =>
    if p.atDocumentMark || p.rest.isEmpty then none
    else do
      let (word, escaped, p) ← quotedWord quote (p.rest.length + 1) [] p
      let text := text ++ word
      if p.rest.head? = some quote then return (String.ofList text, p.skip 1)
      let (between, p) ← gap 0 (p.rest.length + 1) escaped [] none [] p
      quoted quote fuel (text ++ between.text) p

/-! ### Block scalars -/

/-- What becomes of the line ends at the end of a block scalar. -/
inductive Chomping
  | strip
  | clip
  | keep
  deriving DecidableEq

/-- Reads the header of a block scalar, after its indicator: chomping and indentation in either
order, and then the end of the line. -/
def blockHeader (p : Place) : Option (Chomping × Option Nat × Place) :=
  let chomping? (p : Place) : Option Chomping × Place :=
    match p.rest with
    | '+' :: _ => (some .keep, p.skip 1)
    | '-' :: _ => (some .strip, p.skip 1)
    | _ => (none, p)
  let indent? (p : Place) : Option (Option Nat × Place) :=
    match p.rest with
    | c :: _ =>
      if c = '0' then none
      else if Json.Reader.isDigit c then some (some (Json.Reader.digitValue c), p.skip 1)
      else some (none, p)
    | [] => some (none, p)
  match chomping? p with
  | (some chomping, p) => do
    let (indent, p) ← indent? p
    return (chomping, indent, ← p.toLineEnd?)
  | (none, p) => do
    let (indent, p) ← indent? p
    let (chomping, p) := if indent.isSome then chomping? p else (none, p)
    return (chomping.getD .clip, indent, ← p.toLineEnd?)

/-- Reads the empty lines before a line of a block scalar, and the indentation of that line.  Where
the indentation of the block is not known, it is that of the most indented of these lines, but
no less than `least`. -/
def blockGap (indent : Option Nat) (least : Nat) : (fuel deepest : Nat) → (breaks : List Char) →
    Place → Option (Nat × List Char × Place)
  | 0, _, _, _ => none
  | fuel + 1, deepest, breaks, p =>
    let spaces := (p.rest.takeWhile (· = ' ')).length
    let p := p.skip (match indent with
      | some n => min spaces (n - p.column)
      | none => spaces)
    let deepest := max deepest p.column
    let inMargin := indent.all (p.column < ·)
    match p.rest with
    | c :: _ =>
      if inMargin && c = '\t' then none
      else if isBreak c then
        blockGap indent least fuel deepest (p.breakChar :: breaks) p.skipBreak
      else some (indent.getD (max deepest least), breaks.reverse, p)
    | [] => some (indent.getD (max deepest least), breaks.reverse, p)

/-- Reads the lines of a block scalar from the first one that is not empty.  `last` is the end of
the line before, `breaks` are the empty lines after that one, and `blank` tells whether it started
with a blank: such lines, and those next to them, are not folded. -/
def blockLines (fold : Bool) (chomping : Chomping) (indent : Nat) : (fuel : Nat) →
    (text : List Char) → (last : Option Char) → (breaks : List Char) → (blank : Bool) → Place →
    Option (String × Place)
  | 0, _, _, _, _, _ => none
  | fuel + 1, text, last, breaks, blank, p =>
    match p.rest with
    | c :: _ =>
      if p.column = indent then do
        -- A single line end between two lines that are not blank is folded to a space.
        let between : List Char :=
          if fold && last = some '\n' && !blank && !isBlank c then
            if breaks.isEmpty then [' '] else breaks
          else last.toList ++ breaks
        let line := p.rest.takeWhile fun c => !isBreak c
        let text := text ++ between ++ line
        let p := p.skip line.length
        let last := if p.rest.isEmpty then none else some p.breakChar
        let p := if p.rest.isEmpty then p else p.skipBreak
        let (_, breaks, p) ← blockGap (some indent) 0 (p.rest.length + 1) 0 [] p
        blockLines fold chomping indent fuel text last breaks (isBlank c) p
      else done text last breaks p
    | [] => done text last breaks p
where
  done (text : List Char) (last : Option Char) (breaks : List Char) (p : Place) :
      Option (String × Place) :=
    let tail : List Char :=
      match chomping with
      | .strip => []
      | .clip => last.toList
      | .keep => last.toList ++ breaks
    some (String.ofList (text ++ tail), p)

/-- Reads a block scalar, after its indicator, in a block that is indented by `base`. -/
def block (fold : Bool) (base : Int) (p : Place) : Option (String × Place) := do
  let (chomping, more, p) ← blockHeader p
  let indent := more.map fun n => base.toNat + n
  let (indent, breaks, p) ←
    blockGap indent (max (base + 1).toNat 1) (p.rest.length + 1) 0 [] p
  blockLines fold chomping indent (p.rest.length + 1) [] none breaks false p

end Yaml

end DialogueStore
