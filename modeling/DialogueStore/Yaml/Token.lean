/-
YAML texts as tokens.

Blocks are made of indentation alone, so their starts and ends are tokens that
stand for no character.  A node that turns out to be a key, because a colon
follows it, gets its key token, and if need be the start of its mapping, put in
before it afterwards: `Lexer` remembers for each open collection where such a
node could begin.
-/
import DialogueStore.Yaml.Text

namespace DialogueStore

namespace Yaml

inductive Token
  | version (major minor : Nat)
  | tagShorthand (handle start : String)
  | documentStart
  | documentEnd
  | blockSequence
  | blockMapping
  | blockEnd
  | flowSequence
  | flowSequenceEnd
  | flowMapping
  | flowMappingEnd
  | blockEntry
  | flowEntry
  | key
  | value
  | alias (name : String)
  | anchor (name : String)
  | tag (handle rest : String)
  | scalar (isPlain : Bool) (text : String)
  deriving DecidableEq, Repr, Inhabited

/-- A place where a key may have begun. -/
structure Candidate where
  /-- How many tokens come before it. -/
  number : Nat
  index : Nat
  line : Nat
  column : Nat
  /-- Whether nothing but a key may stand here. -/
  required : Bool

/-- The state of cutting a text into tokens. -/
structure Lexer where
  place : Place
  /-- The tokens so far, the latest first, and their number. -/
  tokens : List Token := []
  count : Nat := 0
  /-- How many flow collections are open. -/
  flow : Nat := 0
  /-- The column of the innermost block, -1 outside of all, and those of the blocks around it. -/
  indent : Int := -1
  outer : List Int := []
  /-- Whether a key may begin at this place. -/
  keyAllowed : Bool := true
  /-- The candidate of each open flow collection, innermost first, and of the blocks last. -/
  candidates : List (Option Candidate) := [none]

namespace Lexer

def push (l : Lexer) (t : Token) : Lexer := { l with tokens := t :: l.tokens, count := l.count + 1 }

/-- Puts a token in after the first `number` ones. -/
def insertAt (l : Lexer) (number : Nat) (t : Token) : Lexer :=
  let later := l.count - number
  { l with tokens := l.tokens.take later ++ t :: l.tokens.drop later, count := l.count + 1 }

def skip (l : Lexer) (n : Nat) : Lexer := { l with place := l.place.skip n }

/-- Opens a block whose first token is the one after `number` others, if it is more indented than
the one around it. -/
def openBlock (l : Lexer) (column : Nat) (number : Nat) (t : Token) : Lexer :=
  if l.flow = 0 && l.indent < column then
    { l.insertAt number t with indent := column, outer := l.indent :: l.outer }
  else l

/-- Closes the blocks that are more indented than a column. -/
def closeBlocks (column : Int) : List Int → Lexer → Lexer
  | [], l => l
  | next :: outer, l =>
    if l.flow = 0 && column < l.indent then
      closeBlocks column outer { l.push .blockEnd with indent := next, outer }
    else l

def unindent (l : Lexer) (column : Int) : Lexer := closeBlocks column l.outer l

/-! ### Candidates for keys -/

/-- Gives up a candidate; fails if it had to be a key. -/
def drop : Option Candidate → Option (Option Candidate)
  | some c => if c.required then none else some none
  | none => some none

/-- Gives up the candidate of the innermost collection. -/
def dropCandidate (l : Lexer) : Option Lexer :=
  match l.candidates with
  | c :: outer => (drop c).map fun c => { l with candidates := c :: outer }
  | [] => some l

/-- Gives up candidates on earlier lines, and those too far away. -/
def dropStale (l : Lexer) : Option Lexer := do
  let candidates ← l.candidates.mapM fun c =>
    if c.any fun c => c.line < l.place.line || c.index + 1024 < l.place.index then drop c
    else some c
  return { l with candidates }

/-- Makes this place a candidate, if a key may begin here. -/
def noteCandidate (l : Lexer) : Option Lexer :=
  if l.keyAllowed then do
    let l ← l.dropCandidate
    let required := l.flow = 0 && l.indent = l.place.column
    let c : Candidate := ⟨l.count, l.place.index, l.place.line, l.place.column, required⟩
    return { l with candidates := some c :: l.candidates.tail }
  else some l

/-! ### Blanks and comments -/

/-- Skips blanks, comments and line ends.  At the start of a line of a block, a tab is no blank. -/
def skipBlanks : (fuel : Nat) → Lexer → Lexer
  | 0, l => l
  | fuel + 1, l =>
    let p := l.place
    let p := if p.column = 0 && p.rest.head? = some '\ufeff' then p.skip 1 else p
    let tabs := l.flow > 0 || !l.keyAllowed
    let p := p.skipWhile fun c => c = ' ' || (tabs && c = '\t')
    let p := match p.rest with
      | '#' :: _ => p.skipWhile fun c => !isBreak c
      | _ => p
    if p.rest.head?.any isBreak then
      skipBlanks fuel { l with place := p.skipBreak, keyAllowed := l.keyAllowed || l.flow = 0 }
    else { l with place := p }

/-! ### Directives, anchors and tags -/

/-- Decimal digits, no more than nine. -/
def versionNumber (p : Place) : Option (Nat × Place) :=
  let ds := p.rest.takeWhile Json.Reader.isDigit
  if ds.isEmpty || ds.length > 9 then none
  else some (Json.Reader.natOfDigits ds, p.skip ds.length)

/-- A handle of tags: a name between exclamation marks.  The second mark may be missing. -/
def tagHandle (p : Place) : Option (List Char × Place) :=
  match p.rest with
  | '!' :: rest =>
    let name := rest.takeWhile isNameChar
    let handle := '!' :: name
    match rest.drop name.length with
    | '!' :: _ => some (handle ++ ['!'], p.skip (name.length + 2))
    | _ => some (handle, p.skip (name.length + 1))
  | _ => none

/-- A character that is written as the octets of its UTF-8 form, each after a percent sign. -/
def percentChar (cs : List Char) : Option (Char × Nat) := do
  let octet (cs : List Char) : Option Nat :=
    match cs with
    | '%' :: a :: b :: _ => do return (← Json.Reader.hexValue a) * 16 + (← Json.Reader.hexValue b)
    | _ => none
  let lead ← octet cs
  let (bits, more) ←
    if lead < 0x80 then some (lead, 0)
    else if lead / 32 = 6 then some (lead % 32, 1)
    else if lead / 16 = 14 then some (lead % 16, 2)
    else if lead / 8 = 30 then some (lead % 8, 3)
    else none
  let n ← (List.range more).foldlM (fun n i => do
    let o ← octet (cs.drop (3 * (i + 1)))
    if o / 64 = 2 then return n * 64 + o % 64 else none) bits
  return (Char.ofNat n, 3 * (more + 1))

def isUriChar (verbatim : Bool) (c : Char) : Bool :=
  isNameChar c || ";/?:@&=+$.!~*'()".contains c || (verbatim && (c = ',' || c = '[' || c = ']'))

/-- The characters of a tag; brackets and commas only if it is verbatim. -/
def tagUri (verbatim : Bool) : (fuel : Nat) → (read : List Char) → Place →
    Option (List Char × Place)
  | 0, _, _ => none
  | fuel + 1, read, p =>
    match p.rest with
    | [] => some (read.reverse, p)
    | c :: _ =>
      if c = '%' then
        match percentChar p.rest with
        | some (c, n) => tagUri verbatim fuel (c :: read) (p.skip n)
        | none => none
      else if isUriChar verbatim c then tagUri verbatim fuel (c :: read) (p.skip 1)
      else some (read.reverse, p)

def uri (verbatim : Bool) (p : Place) : Option (List Char × Place) :=
  tagUri verbatim (p.rest.length + 1) [] p

/-- A directive, from its percent sign on, to the end of its line. -/
def directive (p : Place) : Option (Token × Place) := do
  let p := p.skip 1
  let name := p.rest.takeWhile isNameChar
  let p := p.skip name.length
  if !atBlank p.rest then none
  let start := p.skipWhile isBlank
  match String.ofList name with
  | "YAML" =>
    let (major, p) ← versionNumber start
    if p.rest.head? ≠ some '.' then none
    let (minor, p) ← versionNumber (p.skip 1)
    return (.version major minor, ← p.toLineEnd?)
  | "TAG" =>
    let (handle, p) ← tagHandle start
    if handle.length > 1 && handle.getLast? ≠ some '!' then none
    if !(p.rest.head?.any isBlank) then none
    let (text, p) ← uri true (p.skipWhile isBlank)
    if text.isEmpty || !atBlank p.rest then none
    return (.tagShorthand (String.ofList handle) (String.ofList text), ← p.toLineEnd?)
  | _ => none

/-- The name of an anchor or an alias, after its indicator. -/
def anchorName (p : Place) : Option (String × Place) :=
  let name := p.rest.takeWhile isNameChar
  let p := p.skip name.length
  if name.isEmpty then none
  else if atBlank p.rest || p.rest.head?.any (fun c => "?:,]\x7d%@`".contains c) then
    some (String.ofList name, p)
  else none

/-- A tag: verbatim in angle brackets, or a handle and the rest. -/
def tag (inFlow : Bool) (p : Place) : Option (Token × Place) := do
  let (handle, rest, p) ← parts
  if atBlank p.rest || (inFlow && p.rest.head? = some ',') then
    return (.tag (String.ofList handle) (String.ofList rest), p)
  else none
where
  parts : Option (List Char × List Char × Place) :=
    match p.rest with
    | '!' :: '<' :: _ => do
      let (text, p) ← uri true (p.skip 2)
      if text.isEmpty || p.rest.head? ≠ some '>' then none
      return ([], text, p.skip 1)
    | _ => do
      let (handle, p) ← tagHandle p
      let (text, p) ← uri false p
      if handle.length > 1 && handle.getLast? = some '!' then
        if text.isEmpty then none
        return (handle, text, p)
      -- What looked like a handle without its second mark belongs to the rest.
      let text := handle.tail ++ text
      if text.isEmpty then return ([], ['!'], p)
      return (['!'], text, p)

/-! ### Tokens -/

/-- A directive or a mark between documents closes all blocks. -/
def betweenDocuments (l : Lexer) : Option Lexer := do
  let l ← (l.unindent (-1)).dropCandidate
  return { l with keyAllowed := false }

def openFlow (l : Lexer) (t : Token) : Option Lexer := do
  let l ← l.noteCandidate
  return { (l.push t).skip 1 with
    candidates := none :: l.candidates, flow := l.flow + 1, keyAllowed := true }

def closeFlow (l : Lexer) (t : Token) : Option Lexer := do
  let l ← l.dropCandidate
  let l := if l.flow > 0 then { l with flow := l.flow - 1, candidates := l.candidates.tail } else l
  return { (l.push t).skip 1 with keyAllowed := false }

/-- A mark of an item, a key or a value that may stand only where a key may begin; it opens a block
if need be. -/
def blockMark (l : Lexer) (block : Token) : Option Lexer :=
  if l.flow > 0 then some l
  else if l.keyAllowed then some (l.openBlock l.place.column l.count block)
  else none

def itemMark (l : Lexer) : Option Lexer := do
  let l ← (← l.blockMark .blockSequence).dropCandidate
  return { (l.push .blockEntry).skip 1 with keyAllowed := true }

def keyMark (l : Lexer) : Option Lexer := do
  let l ← (← l.blockMark .blockMapping).dropCandidate
  return { (l.push .key).skip 1 with keyAllowed := l.flow = 0 }

/-- A colon: what stands at the candidate is a key; without one, the key was marked. -/
def valueMark (l : Lexer) : Option Lexer :=
  match l.candidates with
  | some c :: outer =>
    let l := (l.insertAt c.number .key).openBlock c.column c.number .blockMapping
    some { (l.push .value).skip 1 with candidates := none :: outer, keyAllowed := false }
  | _ => do
    let l ← l.blockMark .blockMapping
    return { (l.push .value).skip 1 with keyAllowed := l.flow = 0 }

/-- A node of one token, after which no key may begin on the same line. -/
def node (l : Lexer) (read : Place → Option (Token × Place)) : Option Lexer := do
  let l ← l.noteCandidate
  let (t, place) ← read l.place
  return { l.push t with place, keyAllowed := false }

def plainScalar (l : Lexer) : Option Lexer := do
  let l ← l.noteCandidate
  let (s, place, broken) ←
    plain (l.flow > 0) (l.indent + 1).toNat (l.place.rest.length + 1) [] {} l.place
  return { l.push (.scalar true s) with place, keyAllowed := broken }

def blockScalar (l : Lexer) (fold : Bool) : Option Lexer := do
  let l ← l.dropCandidate
  let (s, place) ← block fold l.indent (l.place.skip 1)
  return { l.push (.scalar false s) with place, keyAllowed := true }

/-- The characters that start no plain scalar. -/
def isIndicator (c : Char) : Bool := "-?:,[]\x7b\x7d#&*!|>'\"%@`".contains c

/-- Reads the next token, which starts with the character `c`. -/
def next (l : Lexer) (c : Char) (rest : List Char) : Option Lexer :=
  let p := l.place
  let inFlow := l.flow > 0
  if p.column = 0 && c = '%' then do
    let l ← l.betweenDocuments
    let (t, place) ← directive p
    return { l.push t with place }
  else if p.atMark '-' then do return ((← l.betweenDocuments).push .documentStart).skip 3
  else if p.atMark '.' then do return ((← l.betweenDocuments).push .documentEnd).skip 3
  else if c = '[' then l.openFlow .flowSequence
  else if c = '\x7b' then l.openFlow .flowMapping
  else if c = ']' then l.closeFlow .flowSequenceEnd
  else if c = '\x7d' then l.closeFlow .flowMappingEnd
  else if c = ',' then do
    let l ← l.dropCandidate
    return { (l.push .flowEntry).skip 1 with keyAllowed := true }
  else if c = '-' && atBlank rest then l.itemMark
  else if c = '?' && (inFlow || atBlank rest) then l.keyMark
  else if c = ':' && (inFlow || atBlank rest) then l.valueMark
  else if c = '*' then
    l.node fun p => (anchorName (p.skip 1)).map fun (name, p) => (.alias name, p)
  else if c = '&' then
    l.node fun p => (anchorName (p.skip 1)).map fun (name, p) => (.anchor name, p)
  else if c = '!' then l.node (tag inFlow)
  else if c = '|' && !inFlow then l.blockScalar false
  else if c = '>' && !inFlow then l.blockScalar true
  else if c = '\'' || c = '"' then
    l.node fun p =>
      (quoted c (p.rest.length + 1) [] (p.skip 1)).map fun (s, p) => (.scalar false s, p)
  -- An indicator with a character behind it may still start a plain scalar.
  else if !(atBlank p.rest || isIndicator c) || (c = '-' && !(rest.head?.any isBlank)) ||
      (!inFlow && (c = '?' || c = ':') && !atBlank rest) then l.plainScalar
  else none

/-- Cuts the rest of the text into tokens. -/
def run : (fuel : Nat) → Lexer → Option Lexer
  | 0, _ => none
  | fuel + 1, l => do
    let l ← (skipBlanks (l.place.rest.length + 1) l).dropStale
    let l := l.unindent l.place.column
    match l.place.rest with
    | [] => (l.unindent (-1)).dropCandidate
    | c :: rest => run fuel (← l.next c rest)

end Lexer

def Token.ofString? (s : String) : Option (List Token) :=
  let cs := s.toList
  if cs.all isAllowed then
    (Lexer.run (cs.length + 1) { place := { rest := cs } }).map fun l => l.tokens.reverse
  else none

end Yaml

end DialogueStore
