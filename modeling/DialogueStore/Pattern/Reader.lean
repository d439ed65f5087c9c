/-
Reading written patterns.

The notation is the usual one, without look-around and backreferences.  A
reader is a function on the rest of the text; it has no value where the text
breaks the notation.
-/
import DialogueStore.Pattern.Expr
import DialogueStore.Text.CharSet

namespace DialogueStore

namespace Pattern

namespace Reader

/-- What is left of the text, whether blanks count, and the names of the groups so far. -/
structure Scan where
  rest : List Char
  verbose : Bool := false
  names : List String := []

abbrev Read := StateT Scan Option

def fail {α : Type} : Read α := fun _ => none

/-- The next character, none at the end. -/
def peek : Read (Option Char) := return (← get).rest.head?

/-- Moves past one character; whether another one follows. -/
def bump : Read Bool := do
  modify fun s => { s with rest := s.rest.tail }
  return !(← get).rest.isEmpty

/-- The text after blanks and comments. -/
def afterBlanks : (fuel : Nat) → List Char → List Char
  | 0, cs => cs
  | fuel + 1, cs =>
    match cs.dropWhile Text.isBlank with
    | '#' :: rest => afterBlanks fuel ((rest.dropWhile (· ≠ '\n')).drop 1)
    | cs => cs

/-- Moves past blanks and comments where they do not count. -/
def skipBlanks : Read Unit :=
  modify fun s => if s.verbose then { s with rest := afterBlanks s.rest.length s.rest } else s

/-- Moves past one character and the blanks that do not count. -/
def bumpAndSkip : Read Bool := do
  let _ ← bump
  skipBlanks
  return !(← get).rest.isEmpty

/-- The character after the next one, past blanks that do not count. -/
def peekAfter : Read (Option Char) := do
  let s ← get
  let rest := s.rest.tail
  return (if s.verbose then afterBlanks rest.length rest else rest).head?

/-- Moves past a text if it comes next. -/
def bumpIf (w : String) : Read Bool := do
  let s ← get
  if w.toList.isPrefixOf s.rest then
    set { s with rest := s.rest.drop w.length }
    return true
  else return false

/-- The next character; there has to be one. -/
def need : Read Char := do
  match ← peek with
  | some c => return c
  | none => fail

/-! ### Characters with a meaning -/

/-- The characters that mean something in a pattern. -/
def isMeta (c : Char) : Bool := "\\.+*?()|[]\x7b\x7d^$#&-~".toList.contains c

def isAsciiLetterOrDigit (c : Char) : Bool :=
  ('0' ≤ c && c ≤ '9') || ('a' ≤ c && c ≤ 'z') || ('A' ≤ c && c ≤ 'Z')

/-- The characters that stand for themselves after a backslash. -/
def isEscapable (c : Char) : Bool :=
  isMeta c || (c.toNat < 128 && !isAsciiLetterOrDigit c && c ≠ '<' && c ≠ '>')

def hexDigit (c : Char) : Option Nat :=
  if '0' ≤ c && c ≤ '9' then some (c.toNat - '0'.toNat)
  else if 'a' ≤ c && c ≤ 'f' then some (c.toNat - 'a'.toNat + 10)
  else if 'A' ≤ c && c ≤ 'F' then some (c.toNat - 'A'.toNat + 10)
  else none

def charOf (n : Nat) : Read Char :=
  if n < 0xd800 ∨ (0xdfff < n ∧ n ≤ 0x10ffff) then return Char.ofNat n else fail

def hexDigits : Nat → Nat → Read Nat
  | 0, n => return n
  | k + 1, n => do
    match hexDigit (← need) with
    | some d =>
      let more ← bumpAndSkip
      if k ≠ 0 && !more then fail else hexDigits k (n * 16 + d)
    | none => fail

/-- Hexadecimal digits up to a brace. -/
def hexBraced : (fuel : Nat) → List Nat → Read Nat
  | 0, _ => fail
  | fuel + 1, ds => do
    if !(← bumpAndSkip) then fail
    else
      let c ← need
      if c = '\x7d' then
        let _ ← bumpAndSkip
        if ds.isEmpty then fail else return ds.reverse.foldl (fun n d => n * 16 + d) 0
      else match hexDigit c with
        | some d => hexBraced fuel (d :: ds)
        | none => fail

/-- A character by its code point, after the letter that announces it. -/
def hexLiteral (letter : Char) : Read Literal := do
  if !(← bumpAndSkip) then fail
  else if (← need) = '\x7b' then
    let n ← hexBraced (← get).rest.length []
    return ⟨← charOf n, false⟩
  else
    let n ← hexDigits (if letter = 'x' then 2 else if letter = 'u' then 4 else 8) 0
    return ⟨← charOf n, letter = 'x'⟩

def bracedName : (fuel : Nat) → List Char → Read String
  | 0, _ => fail
  | fuel + 1, cs => do
    if !(← bumpAndSkip) then fail
    else
      let c ← need
      if c = '\x7d' then
        let _ ← bump
        return String.ofList cs.reverse
      else bracedName fuel (c :: cs)

/-- Splits a text at the first place of a separator. -/
def splitAt (sep : List Char) : List Char → List Char → Option (List Char × List Char)
  | _, [] => none
  | before, c :: rest =>
    if sep.isPrefixOf (c :: rest) then some (before.reverse, (c :: rest).drop sep.length)
    else splitAt sep (c :: before) rest

/-- A property with its value, and whether it is asked to differ. -/
def queryOf (name : String) : Query × Bool :=
  let cs := name.toList
  let valued (p : List Char × List Char) : Query := .valued (String.ofList p.1) (String.ofList p.2)
  match splitAt ['!', '='] [] cs, splitAt [':'] [] cs, splitAt ['='] [] cs with
  | some p, _, _ => (valued p, true)
  | none, some p, _ => (valued p, false)
  | none, none, some p => (valued p, false)
  | none, none, none => (.named name, false)

/-- A class by a property, after its letter; a capital letter asks for the other characters. -/
def propertyClass (letter : Char) : Read (Query × Bool) := do
  if !(← bumpAndSkip) then fail
  else
    let c ← need
    if c = '\x7b' then
      let name ← bracedName (← get).rest.length []
      let (q, differs) := queryOf name
      return (q, (letter = 'P') != differs)
    else if c = '\\' then fail
    else
      let _ ← bumpAndSkip
      return (.letter c, letter = 'P')

/-- The word in braces after a word boundary, if it is no number of repetitions. -/
def boundaryWord : (fuel : Nat) → List Char → Read String
  | 0, _ => fail
  | fuel + 1, cs => do
    match ← peek with
    | none => fail
    | some c =>
      if c = '-' || ('a' ≤ c && c ≤ 'z') || ('A' ≤ c && c ≤ 'Z') then
        let _ ← bumpAndSkip
        boundaryWord fuel (c :: cs)
      else if c = '\x7d' then
        let _ ← bump
        return String.ofList cs.reverse
      else fail

def boundaryAssertion : Read Assertion := do
  match ← peek with
  | some '\x7b' =>
    let before ← get
    if !(← bumpAndSkip) then fail
    else
      let c ← need
      if c = '-' || ('a' ≤ c && c ≤ 'z') || ('A' ≤ c && c ≤ 'Z') then
        match ← boundaryWord (before.rest.length + 1) [] with
        | "start" => return .wordStart
        | "end" => return .wordEnd
        | "start-half" => return .wordStartHalf
        | "end-half" => return .wordEndHalf
        | _ => fail
      else
        set before
        return .wordBoundary
  | _ => return .wordBoundary

inductive Escape
  | literal (l : Literal)
  | assertion (a : Assertion)
  | letterClass (k : LetterClass) (negated : Bool)
  | property (q : Query) (negated : Bool)

def letterClass? (c : Char) : Option (LetterClass × Bool) :=
  match c with
  | 'd' => some (.digit, false)
  | 'D' => some (.digit, true)
  | 's' => some (.space, false)
  | 'S' => some (.space, true)
  | 'w' => some (.word, false)
  | 'W' => some (.word, true)
  | _ => none

def escape : Read Escape := do
  if !(← bump) then fail
  else
    let c ← need
    if c = 'x' || c = 'u' || c = 'U' then return .literal (← hexLiteral c)
    else if c = 'p' || c = 'P' then
      let (q, negated) ← propertyClass c
      return .property q negated
    else
      let _ ← bump
      match letterClass? c with
      | some (k, negated) => return .letterClass k negated
      | none =>
        if isEscapable c then return .literal ⟨c, false⟩
        else match c with
          | 'a' => return .literal ⟨'\x07', false⟩
          | 'f' => return .literal ⟨'\x0c', false⟩
          | 't' => return .literal ⟨'\t', false⟩
          | 'n' => return .literal ⟨'\n', false⟩
          | 'r' => return .literal ⟨'\r', false⟩
          | 'v' => return .literal ⟨'\x0b', false⟩
          | 'A' => return .assertion .textStart
          | 'z' => return .assertion .textEnd
          | 'b' => return .assertion (← boundaryAssertion)
          | 'B' => return .assertion .notWordBoundary
          | '<' => return .assertion .wordStart
          | '>' => return .assertion .wordEnd
          | _ => fail

/-! ### Sets in brackets -/

def asciiNames : List String :=
  ["alnum", "alpha", "ascii", "blank", "cntrl", "digit", "graph", "lower", "print", "punct",
   "space", "upper", "word", "xdigit"]

/-- A class such as `[:alpha:]`; where the text is none, nothing is read. -/
def asciiClass? : Read (Option SetExpr) := do
  let before ← get
  match before.rest with
  | '[' :: ':' :: rest =>
    let (negated, rest) := match rest with
      | '^' :: r => (true, r)
      | _ => (false, rest)
    let name := String.ofList (rest.takeWhile (· ≠ ':'))
    match rest.dropWhile (· ≠ ':') with
    | ':' :: ']' :: rest =>
      if asciiNames.contains name then
        set { before with rest }
        return some (.ascii name negated)
      else return none
    | _ => return none
  | _ => return none

def setItem : Read SetExpr := do
  let c ← need
  if c = '\\' then
    match ← escape with
    | .literal l => return .literal l
    | .letterClass k negated => return .letterClass k negated
    | .property q negated => return .property q negated
    | .assertion _ => fail
  else
    let _ ← bump
    return .literal ⟨c, false⟩

/-- A member of a set or a range of members. -/
def setRange : Read SetExpr := do
  let first ← setItem
  skipBlanks
  let c ← need
  let next ← peekAfter
  if c ≠ '-' || next = some ']' || next = some '-' then return first
  else if !(← bumpAndSkip) then fail
  else
    let last ← setItem
    match first, last with
    | .literal a, .literal b => if a.char ≤ b.char then return .range a b else fail
    | _, _ => fail

/-- The hyphens at the start of a set, and a closing bracket there, stand for themselves. -/
def setStart : (fuel : Nat) → List SetExpr → Read (List SetExpr)
  | 0, _ => fail
  | fuel + 1, items => do
    let c ← need
    if c = '-' then
      if !(← bumpAndSkip) then fail else setStart fuel (.literal ⟨'-', false⟩ :: items)
    else if items.isEmpty && c = ']' then
      if !(← bumpAndSkip) then fail else return [.literal ⟨']', false⟩]
    else return items

/-- A set and the operator that waits for its right side. -/
abbrev Waiting := Option (SetOp × SetExpr)

/-- The set that a left side and an operator make with a right side. -/
def closeOp : Waiting → SetExpr → SetExpr
  | none, e => e
  | some (o, left), e => .op o left e

mutual

def bracket : (fuel : Nat) → Read SetExpr
  | 0 => fail
  | fuel + 1 => do
    if !(← bumpAndSkip) then fail
    else
      let negated ← (do
        if (← need) = '^' then
          if !(← bumpAndSkip) then fail else return true
        else return false : Read Bool)
      let items ← setStart ((← get).rest.length + 1) []
      let set ← setBody fuel none items
      return .bracket negated set

/-- Reads members up to the closing bracket; `items` holds those before, in reverse. -/
def setBody : (fuel : Nat) → Waiting → List SetExpr → Read SetExpr
  | 0, _, _ => fail
  | fuel + 1, waiting, items => do
    skipBlanks
    let here := closeOp waiting (.ofItems items.reverse)
    let c ← need
    if c = '[' then
      match ← asciiClass? with
      | some cls => setBody fuel waiting (cls :: items)
      | none =>
        let inner ← bracket fuel
        setBody fuel waiting (inner :: items)
    else if c = ']' then
      let _ ← bump
      return here
    else if ← bumpIf "&&" then setBody fuel (some (.intersection, here)) []
    else if ← bumpIf "--" then setBody fuel (some (.difference, here)) []
    else if ← bumpIf "~~" then setBody fuel (some (.symmetricDifference, here)) []
    else
      let item ← setRange
      setBody fuel waiting (item :: items)

end

/-! ### Groups, repetitions and sequences -/

/-- A number of repetitions; blanks around it do not count. -/
def decimal : Read (Option Nat) := do
  let blanks (cs : List Char) : List Char := cs.dropWhile Text.isBlank
  modify fun s => { s with rest := blanks s.rest }
  let rec digits : (fuel : Nat) → List Char → Read (List Char)
    | 0, ds => return ds
    | fuel + 1, ds => do
      match ← peek with
      | some c =>
        if '0' ≤ c && c ≤ '9' then
          let _ ← bumpAndSkip
          digits fuel (c :: ds)
        else return ds
      | none => return ds
  let ds ← digits (← get).rest.length []
  modify fun s => { s with rest := blanks s.rest }
  if ds.isEmpty then return none
  else
    let n := ds.reverse.foldl (fun n c => n * 10 + (c.toNat - '0'.toNat)) 0
    if n < 0x100000000 then return some n else fail

/-- The number of repetitions in braces, from the opening brace on. -/
def counts : Read (Nat × Option Nat) := do
  if !(← bumpAndSkip) then fail
  else
    let start ← decimal
    match ← peek, start with
    | some ',', some lo =>
      if !(← bumpAndSkip) then fail
      else if (← need) = '\x7d' then return (lo, none)
      else
        match ← decimal with
        | some hi => return (lo, some hi)
        | none => fail
    | some _, some n => return (n, some n)
    | _, _ => fail

def repeatable : Expr → Bool
  | .empty => false
  | .flags _ => false
  | _ => true

def isAlphabetic (c : Char) : Bool :=
  ((Text.binary? "alphabetic").getD []).contains c.toNat

def isNumeric (c : Char) : Bool := ((Text.category? "n").getD []).any fun r => r.contains c.toNat

def isNameChar (first : Bool) (c : Char) : Bool :=
  if first then c = '_' || isAlphabetic c
  else c = '_' || c = '.' || c = '[' || c = ']' || isAlphabetic c || isNumeric c

/-- The name of a group, up to the angle bracket. -/
def groupName : Read Unit := do
  let s ← get
  let name := s.rest.takeWhile (· ≠ '>')
  match s.rest.dropWhile (· ≠ '>'), name with
  | '>' :: rest, first :: others =>
    let word := String.ofList name
    if isNameChar true first && others.all (isNameChar false) && !s.names.contains word then
      set { s with rest, names := word :: s.names }
    else fail
  | _, _ => fail

def flag? (c : Char) : Option Flag :=
  match c with
  | 'i' => some .anyCase
  | 'm' => some .multiLine
  | 's' => some .dotAll
  | 'U' => some .swapGreed
  | 'u' => some .unicode
  | 'R' => some .crlf
  | 'x' => some .verbose
  | _ => none

/-- Reads flags up to a colon or a closing bracket; `on` is whether they are switched on, and
`dangling` whether a hyphen came last. -/
def flagChanges : (fuel : Nat) → (on dangling : Bool) → FlagChanges → Read FlagChanges
  | 0, _, _, _ => fail
  | fuel + 1, on, dangling, acc => do
    let c ← need
    if c = ':' || c = ')' then
      if dangling then fail else return acc.reverse
    else if c = '-' then
      if !on then fail
      else if !(← bump) then fail
      else flagChanges fuel false true acc
    else match flag? c with
      | some f =>
        if acc.any fun e => e.1 = f then fail
        else if !(← bump) then fail
        else flagChanges fuel on false ((f, on) :: acc)
      | none => fail

def verboseAfter (changes : FlagChanges) (before : Bool) : Bool :=
  (changes.lookup .verbose).getD before

/-- Reads a sequence of alternatives up to a closing bracket or the end.  `branches` and `parts`
hold what came before, in reverse. -/
def body : (fuel : Nat) → List Expr → List Expr → Read Expr
  | 0, _, _ => fail
  | fuel + 1, branches, parts => do
    skipBlanks
    -- The alternative that ends here, if the next character ends it.
    let here := Expr.ofSequence parts.reverse
    match ← peek with
    | none => return Expr.ofAlternatives (here :: branches).reverse
    | some ')' => return Expr.ofAlternatives (here :: branches).reverse
    | some '(' =>
      let e ← group fuel
      body fuel branches (e :: parts)
    | some '|' =>
      let _ ← bump
      body fuel (here :: branches) []
    | some '[' =>
      match ← bracket ((← get).rest.length * 2 + 2) with
      | .bracket negated set => body fuel branches (.bracket negated set :: parts)
      | _ => fail
    | some c =>
      let uncounted? : Option (Nat × Option Nat) := match c with
        | '?' => some (0, some 1)
        | '*' => some (0, none)
        | '+' => some (1, none)
        | _ => none
      -- A sign of repetition belongs to the part before it.
      match uncounted? with
      | some (min, limit) =>
        match parts with
        | e :: others =>
          if !repeatable e then fail
          else
            let _ ← bump
            let lazy ← bumpIf "?"
            body fuel branches (.repeat min limit (!lazy) e :: others)
        | [] => fail
      | none =>
        if c = '\x7b' then
          match parts with
          | e :: others =>
            if !repeatable e then fail
            else
              let (min, limit) ← counts
              if (← need) ≠ '\x7d' then fail
              else
                let _ ← bumpAndSkip
                let lazy ← bumpIf "?"
                if limit.any fun hi => hi < min then fail
                else body fuel branches (.repeat min limit (!lazy) e :: others)
          | [] => fail
        else
          let e ← primitive c
          body fuel branches (e :: parts)
where
  /-- A single character, class or assertion. -/
  primitive (c : Char) : Read Expr := do
    if c = '\\' then
      match ← escape with
      | .literal l => return .literal l
      | .assertion a => return .assertion a
      | .letterClass k negated => return .letterClass k negated
      | .property q negated => return .property q negated
    else
      let _ ← bump
      match c with
      | '.' => return .dot
      | '^' => return .assertion .lineStart
      | '$' => return .assertion .lineEnd
      | c => return .literal ⟨c, false⟩
  /-- The inside of a group and its closing bracket. -/
  inside (fuel : Nat) (captures : Bool) (changes : FlagChanges) (verbose : Bool) : Read Expr := do
    modify fun s => { s with verbose := verboseAfter changes s.verbose }
    let e ← body fuel [] []
    if (← peek) = some ')' then
      let _ ← bump
      modify fun s => { s with verbose }
      return .group captures changes e
    else fail
  /-- A group from its opening bracket on, or a change of flags for the rest of the group around. -/
  group (fuel : Nat) : Read Expr := do
    let verbose := (← get).verbose
    let _ ← bumpAndSkip
    let rest := (← get).rest
    -- Looking ahead and behind is not known.
    if "?=".toList.isPrefixOf rest || "?!".toList.isPrefixOf rest ||
        "?<=".toList.isPrefixOf rest || "?<!".toList.isPrefixOf rest then fail
    else if (← bumpIf "?P<") || (← bumpIf "?<") then
      groupName
      inside fuel true [] verbose
    else if ← bumpIf "?" then
      let changes ← flagChanges ((← get).rest.length + 1) true false []
      if (← need) = ')' then
        let _ ← bump
        if changes.isEmpty then fail
        else
          modify fun s => { s with verbose := verboseAfter changes s.verbose }
          return .flags changes
      else
        let _ ← bump
        inside fuel false changes verbose
    else inside fuel true [] verbose

end Reader

/-- The deepest nesting that a pattern may have. -/
def nestLimit : Nat := 250

/-- Reads a written pattern; none if it breaks the notation. -/
def Expr.read? (s : String) : Option Expr := do
  let cs := s.toList
  let (e, scan) ← (Reader.body (cs.length + 1) [] []).run ⟨cs, false, []⟩
  if scan.rest.isEmpty && e.depth ≤ nestLimit then some e else none

end Pattern

end DialogueStore
