/-
Reading TOML 1.0 documents.

A document is a sequence of lines: headers of tables and of arrays of tables,
keys with values, and comments.  A key may be defined once, and a table may be
defined by one header.  A reader takes the rest of the text and gives what it
has read with what is left, or nothing if the text breaks the grammar.
-/
import DialogueStore.Calendar
import DialogueStore.Toml.Value
import DialogueStore.Json.Reader
import DialogueStore.Decimal.Nearest

namespace DialogueStore

namespace Toml

namespace Reader

abbrev Read (α : Type) := List Char → Option (α × List Char)

/-! ### Blanks, line ends and comments -/

def isBlank (c : Char) : Bool := c = ' ' || c = '\t'

def skipBlanks (cs : List Char) : List Char := cs.dropWhile isBlank

/-- The characters of comments and quoted texts: no control characters but tabs. -/
def isPlain (c : Char) : Bool := c = '\t' || (0x20 ≤ c.toNat && c.toNat ≠ 0x7f)

/-- The rest after a line end. -/
def lineEnd? : List Char → Option (List Char)
  | '\n' :: rest => some rest
  | '\r' :: '\n' :: rest => some rest
  | _ => none

/-- The rest after a comment, if there is one. -/
def skipComment : List Char → List Char
  | '#' :: rest => rest.dropWhile isPlain
  | cs => cs

/-- The rest after the end of a line, which may hold blanks and a comment, or of the text. -/
def endOfLine? (cs : List Char) : Option (List Char) :=
  match skipComment (skipBlanks cs) with
  | [] => some []
  | cs => lineEnd? cs

/-- Skips blanks, comments and line ends. -/
def skipLines : (fuel : Nat) → List Char → List Char
  | 0, cs => cs
  | fuel + 1, cs =>
    let cs := skipBlanks cs
    match cs with
    | '#' :: _ =>
      match lineEnd? (skipComment cs) with
      | some rest => skipLines fuel rest
      | none => cs
    | cs =>
      match lineEnd? cs with
      | some rest => skipLines fuel rest
      | none => cs

/-! ### Texts -/

def hexValue (cs : List Char) : Option Nat :=
  cs.foldlM (fun n c => do return n * 16 + (← Json.Reader.hexValue c)) 0

/-- The character of an escape, after the backslash. -/
def escape : Read Char
  | 'b' :: rest => some ('\x08', rest)
  | 't' :: rest => some ('\t', rest)
  | 'n' :: rest => some ('\n', rest)
  | 'f' :: rest => some ('\x0c', rest)
  | 'r' :: rest => some ('\r', rest)
  | '"' :: rest => some ('"', rest)
  | '\\' :: rest => some ('\\', rest)
  | 'u' :: rest => coded 4 rest
  | 'U' :: rest => coded 8 rest
  | _ => none
where
  coded (k : Nat) (cs : List Char) : Option (Char × List Char) := do
    let digits := cs.take k
    let n ← if digits.length = k then hexValue digits else none
    if n < 0xd800 ∨ (0xdfff < n ∧ n ≤ 0x10ffff) then return (Char.ofNat n, cs.drop k) else none

/-- A text in double quotes on one line, after the opening quote. -/
def basic : (fuel : Nat) → List Char → Read String
  | 0, _, _ => none
  | _ + 1, acc, '"' :: rest => some (String.ofList acc.reverse, rest)
  | fuel + 1, acc, '\\' :: rest => do
    let (c, rest) ← escape rest
    basic fuel (c :: acc) rest
  | fuel + 1, acc, c :: rest => if isPlain c then basic fuel (c :: acc) rest else none
  | _ + 1, _, [] => none

/-- A text in single quotes on one line, after the opening quote. -/
def literal (cs : List Char) : Option (String × List Char) :=
  let body := cs.takeWhile fun c => isPlain c && c ≠ '\''
  match cs.dropWhile fun c => isPlain c && c ≠ '\'' with
  | '\'' :: rest => some (String.ofList body, rest)
  | _ => none

def countOf (q : Char) (cs : List Char) : Nat := (cs.takeWhile (· = q)).length

/-- The quotes at this place of a text over several lines: three and up to two more end it, and one
or two belong to it. -/
def closing (q : Char) (acc : List Char) (cs : List Char) :
    Option (String × List Char) ⊕ (List Char × List Char) :=
  let n := countOf q cs
  if 3 ≤ n then
    let extra := min (n - 3) 2
    .inl (some (String.ofList (List.replicate extra q ++ acc).reverse, cs.drop (extra + 3)))
  else .inr (List.replicate n q ++ acc, cs.drop n)

/-- A text in three double quotes, after the opening quotes. -/
def longBasic : (fuel : Nat) → List Char → Read String
  | 0, _, _ => none
  | fuel + 1, acc, cs =>
    match cs with
    | [] => none
    | '"' :: _ =>
      match closing '"' acc cs with
      | .inl r => r
      | .inr (acc, rest) => longBasic fuel acc rest
    | '\\' :: rest =>
      match escape rest with
      | some (c, rest) => longBasic fuel (c :: acc) rest
      | none =>
        -- A backslash before the end of a line takes away all blanks and line ends after it.
        match lineEnd? (skipBlanks rest) with
        | some rest => longBasic fuel acc (skipWhite fuel rest)
        | none => none
    | c :: rest =>
      match lineEnd? cs with
      | some rest => longBasic fuel ('\n' :: acc) rest
      | none => if isPlain c then longBasic fuel (c :: acc) rest else none
where
  skipWhite : (fuel : Nat) → List Char → List Char
    | 0, cs => cs
    | fuel + 1, cs =>
      let cs := skipBlanks cs
      match lineEnd? cs with
      | some rest => skipWhite fuel rest
      | none => cs

/-- A text in three single quotes, after the opening quotes. -/
def longLiteral : (fuel : Nat) → List Char → Read String
  | 0, _, _ => none
  | fuel + 1, acc, cs =>
    match cs with
    | [] => none
    | '\'' :: _ =>
      match closing '\'' acc cs with
      | .inl r => r
      | .inr (acc, rest) => longLiteral fuel acc rest
    | c :: rest =>
      match lineEnd? cs with
      | some rest => longLiteral fuel ('\n' :: acc) rest
      | none => if isPlain c then longLiteral fuel (c :: acc) rest else none

/-- The text after a line end at its very start is dropped. -/
def afterFirstLineEnd (cs : List Char) : List Char := (lineEnd? cs).getD cs

/-- A text in quotes of any kind. -/
def text (cs : List Char) : Option (String × List Char) :=
  let fuel := cs.length + 1
  match cs with
  | '"' :: '"' :: '"' :: rest => longBasic fuel [] (afterFirstLineEnd rest)
  | '\'' :: '\'' :: '\'' :: rest => longLiteral fuel [] (afterFirstLineEnd rest)
  | '"' :: rest => basic fuel [] rest
  | '\'' :: rest => literal rest
  | _ => none

/-! ### Keys -/

def isBareKeyChar (c : Char) : Bool :=
  ('0' ≤ c && c ≤ '9') || ('a' ≤ c && c ≤ 'z') || ('A' ≤ c && c ≤ 'Z') || c = '-' || c = '_'

/-- One part of a key: bare, or quoted on one line. -/
def simpleKey (cs : List Char) : Option (String × List Char) :=
  match cs with
  | '"' :: rest => basic (cs.length + 1) [] rest
  | '\'' :: rest => literal rest
  | _ =>
    let name := cs.takeWhile isBareKeyChar
    if name.isEmpty then none else some (String.ofList name, cs.dropWhile isBareKeyChar)

/-- The most parts that a key may have. -/
def keyLimit : Nat := 80

/-- A key: parts with dots between them, and blanks around each. -/
def key : (fuel : Nat) → Read (List String)
  | 0, _ => none
  | fuel + 1, cs => do
    let (part, rest) ← simpleKey (skipBlanks cs)
    match skipBlanks rest with
    | '.' :: rest =>
      let (parts, rest) ← key fuel rest
      return (part :: parts, rest)
    | rest => return ([part], rest)

/-! ### Numbers and dates -/

/-- Digits with single underscores between them, without the underscores. -/
def digits (isDigit : Char → Bool) : (fuel : Nat) → Read (List Char)
  | 0, _ => none
  | fuel + 1, c :: rest =>
    if !isDigit c then none
    else match rest with
      | '_' :: rest' => do
        let (ds, rest) ← digits isDigit fuel rest'
        return (c :: ds, rest)
      | d :: _ =>
        if isDigit d then do
          let (ds, rest) ← digits isDigit fuel rest
          return (c :: ds, rest)
        else some ([c], rest)
      | [] => some ([c], [])
  | _ + 1, [] => none

def decimalDigits (cs : List Char) : Option (List Char × List Char) :=
  digits Json.Reader.isDigit (cs.length + 1) cs

/-- A whole number in another base, after its mark. -/
def based (base : Nat) (cs : List Char) : Option (Int × List Char) := do
  let isDigit (c : Char) : Bool := (Json.Reader.hexValue c).any (· < base)
  let (ds, rest) ← digits isDigit (cs.length + 1) cs
  let n := ds.foldl (fun n c => n * base + (Json.Reader.hexValue c).getD 0) 0
  if n < 0x8000000000000000 then return ((n : Int), rest) else none

def sign : List Char → Bool × List Char
  | '-' :: rest => (true, rest)
  | '+' :: rest => (false, rest)
  | cs => (false, cs)

/-- The digits of a decimal whole number: no zero before other digits. -/
def wholeDigits : Read (List Char)
  | '0' :: rest => some (['0'], rest)
  | cs => decimalDigits cs

def floatOf (negative : Bool) (whole decimals : List Char) (exponent : Int) : Float :=
  Decimal.nearest negative (Json.Reader.natOfDigits (whole ++ decimals))
    (exponent - decimals.length)

/-- A decimal number: whole, or with decimals or an exponent.  A double must not be infinite, unless
it is negative. -/
def decimal (cs : List Char) : Option (Value × List Char) := do
  let (negative, cs) := sign cs
  let (whole, rest) ← wholeDigits cs
  -- What stands behind the letter of the exponent.
  let exponentAt (decimals : List Char) (cs : List Char) : Option (Value × List Char) := do
    let (minus, cs) := sign cs
    let (ds, rest) ← decimalDigits cs
    let e : Int := Json.Reader.natOfDigits ds
    let x := floatOf negative whole decimals (if minus then -e else e)
    if x == 1.0 / 0.0 then none else return (.float x, rest)
  let isExponent (c : Char) : Bool := c = 'e' || c = 'E'
  match rest with
  | '.' :: rest =>
    let (decimals, rest) ← decimalDigits rest
    match rest with
    | c :: rest' =>
      if isExponent c then exponentAt decimals rest'
      else
        let x := floatOf negative whole decimals 0
        if x == 1.0 / 0.0 then none else return (.float x, rest)
    | [] =>
      let x := floatOf negative whole decimals 0
      if x == 1.0 / 0.0 then none else return (.float x, [])
  | c :: rest' =>
    if isExponent c then exponentAt [] rest' else integer negative whole rest
  | [] => integer negative whole []
where
  integer (negative : Bool) (whole rest : List Char) : Option (Value × List Char) :=
    let n : Int := Json.Reader.natOfDigits whole
    let n := if negative then -n else n
    if -0x8000000000000000 ≤ n ∧ n < 0x8000000000000000 then some (.integer n, rest) else none

def number (cs : List Char) : Option (Value × List Char) :=
  let special (cs : List Char) : Option (Value × List Char) :=
    let (negative, cs) := sign cs
    match cs with
    | 'i' :: 'n' :: 'f' :: rest => some (.float (if negative then -1.0 / 0.0 else 1.0 / 0.0), rest)
    | 'n' :: 'a' :: 'n' :: rest => some (.float (0.0 / 0.0), rest)
    | _ => none
  match cs with
  | '0' :: 'x' :: rest => do let (n, rest) ← based 16 rest; return (.integer n, rest)
  | '0' :: 'o' :: rest => do let (n, rest) ← based 8 rest; return (.integer n, rest)
  | '0' :: 'b' :: rest => do let (n, rest) ← based 2 rest; return (.integer n, rest)
  | _ => (decimal cs).or (special cs)

def fixed (k : Nat) (cs : List Char) : Option (Nat × List Char) :=
  let ds := cs.take k
  if ds.length = k && ds.all Json.Reader.isDigit then
    some (Json.Reader.natOfDigits ds, cs.drop k)
  else none

/-- A clock time, and whether the text breaks the grammar after its first colon. -/
def clock (cs : List Char) : Option (Option (List Char)) := do
  let (hour, rest) ← fixed 2 cs
  match rest with
  | ':' :: rest =>
    if hour > 23 then none
    else
      let rest? : Option (List Char) := do
        let (minute, rest) ← fixed 2 rest
        match rest with
        | ':' :: rest =>
          let (second, rest) ← fixed 2 rest
          if minute > 59 || second > 60 then none
          else match rest with
            | '.' :: rest =>
              let ds := rest.takeWhile Json.Reader.isDigit
              if ds.isEmpty then none else return rest.dropWhile Json.Reader.isDigit
            | _ => return rest
        | _ => none
      return rest?
  | _ => none

/-- The rest after the offset of a clock time, if there is one. -/
def offset (cs : List Char) : Option (List Char) :=
  let numbered (rest : List Char) : Option (List Char) := do
    let (hour, rest) ← fixed 2 rest
    match rest with
    | ':' :: rest =>
      let (minute, rest) ← fixed 2 rest
      if hour > 23 || minute > 59 then none else return rest
    | _ => none
  match cs with
  | 'Z' :: rest => some rest
  | 'z' :: rest => some rest
  | '+' :: rest => numbered rest
  | '-' :: rest => numbered rest
  | _ => some cs

/-- A date, a clock time or both.  None outside if the text starts with neither, none inside if it
starts with one and goes wrong. -/
def dateTime (cs : List Char) : Option (Option (List Char)) :=
  match fixed 4 cs with
  | some (year, '-' :: rest) =>
    let rest? : Option (List Char) := do
      let (month, rest) ← fixed 2 rest
      match rest with
      | '-' :: rest =>
        let (day, rest) ← fixed 2 rest
        if month < 1 || month > 12 || day < 1 || day > Calendar.daysIn year month then none
        else match rest with
          | c :: after =>
            if c = 'T' || c = 't' || c = ' ' then
              match clock after with
              | some (some rest) => offset rest
              | some none => none
              | none => return rest
            else return rest
          | [] => return rest
      | _ => none
    some rest?
  | _ => clock cs

/-! ### Values -/

/-- Removes a word from the front of a text. -/
def word (w : String) (v : Value) (cs : List Char) : Option (Value × List Char) :=
  (Json.Reader.afterWord w.toList cs).map fun rest => (v, rest)

/-- Adds a key of an inline table. -/
def addInline (path : List String) (v : Value) (es : Entries) : Option Entries :=
  match path.reverse with
  | [] => none
  | last :: before =>
    es.descend true (fun inDotted es =>
      -- A table that a plain key has made takes no dotted keys, nor the other way round.
      if inDotted = before.isEmpty then none
      else es.modify (fun old => if old.isSome then none else some (.value v)) last)
      before.reverse false

/-- The deepest nesting of arrays and inline tables. -/
def depthLimit : Nat := 80

mutual

/-- Reads a value; `room` is how many more arrays and tables may be opened. -/
def value : (fuel room : Nat) → Read Value
  | 0, _, _ => none
  | fuel + 1, room, cs =>
    match cs with
    | [] => none
    | c :: rest =>
      if c = '"' || c = '\'' then (text cs).map fun (s, rest) => (.string s, rest)
      else if c = '[' then
        if room ≤ 1 then none else arrayItems fuel (room - 1) [] rest
      else if c = '\x7b' then
        if room ≤ 1 then none
        else match skipBlanks rest with
          | '\x7d' :: rest => some (.table [], rest)
          | rest => inlineEntries fuel (room - 1) [] rest
      else if c = '+' || c = '-' || Json.Reader.isDigit c then
        match dateTime cs with
        | some (some rest) => some (.dateTime, rest)
        | some none => none
        | none => number cs
      else if c = 't' then word "true" (.boolean true) cs
      else if c = 'f' then word "false" (.boolean false) cs
      else if c = 'i' || c = 'n' then number cs
      else none

/-- Reads the items of an array; `acc` holds those before, in reverse. -/
def arrayItems : (fuel room : Nat) → List Value → Read Value
  | 0, _, _, _ => none
  | fuel + 1, room, acc, cs =>
    match skipLines cs.length cs with
    | ']' :: rest => some (.array acc.reverse, rest)
    | cs =>
      match value fuel room cs with
      | none => none
      | some (v, rest) =>
        match skipLines rest.length rest with
        | ',' :: rest => arrayItems fuel room (v :: acc) rest
        | ']' :: rest => some (.array (v :: acc).reverse, rest)
        | _ => none

/-- Reads the entries of an inline table, which stands on one line. -/
def inlineEntries : (fuel room : Nat) → Entries → Read Value
  | 0, _, _, _ => none
  | fuel + 1, room, es, cs =>
    match key (cs.length + 1) cs with
    | some (path, '=' :: rest) =>
      if keyLimit ≤ path.length then none
      else match value fuel room (skipBlanks rest) with
        | none => none
        | some (v, rest) =>
          match addInline path v es with
          | none => none
          | some es =>
            match skipBlanks rest with
            | ',' :: rest => inlineEntries fuel room es rest
            | '\x7d' :: rest => some (.table (Item.toEntries es), rest)
            | _ => none
    | _ => none

end

/-! ### Documents -/

/-- A document while it is read: the finished tables, and the table that the latest header has
opened with its path.  That table is put into the document when the next header comes. -/
structure Draft where
  root : Entries := []
  current : Entries := []
  path : List String := []
  isArray : Bool := false

/-- The parts of a path before the last one, and that one. -/
def splitLast (path : List String) : Option (List String × String) :=
  match path.reverse with
  | [] => none
  | last :: before => some (before.reverse, last)

def Draft.addValue (d : Draft) (path : List String) (v : Value) : Option Draft := do
  let (before, last) ← splitLast path
  let current ← d.current.descend true (fun inDotted es =>
    if inDotted = before.isEmpty then none
    else es.modify (fun old => if old.isSome then none else some (.value v)) last) before false
  return { d with current }

def Draft.close (d : Draft) : Option Draft :=
  match splitLast d.path with
  | none => some { root := d.current }
  | some (before, last) => do
    let root ← d.root.descend false (fun _ es => es.modify (fun old =>
      if d.isArray then
        match old with
        | none => some (.tables [d.current])
        | some (.tables ts) => some (.tables (d.current :: ts))
        | some _ => none
      else
        match old with
        | none => some (.table false false d.current)
        | some (.table true _ _) => some (.table false false d.current)
        | some _ => none) last) before false
    return { root }

/-- Opens a table by its header; it must not be defined yet, but tables inside it may be. -/
def Draft.openTable (d : Draft) (path : List String) : Option Draft := do
  let d ← d.close
  let (before, last) ← splitLast path
  -- What tables inside have implied moves to the new table.
  let found ← findIn d.root before
  match found.find? last with
  | none =>
    let root ← d.root.descend false (fun _ es => some es) before false
    return { root, path }
  | some (.table true false entries) =>
    let root ← d.root.descend false (fun _ es => some (es.remove last)) before false
    return { root, current := entries, path }
  | some _ => none
where
  /-- The table at the end of a path, empty if there is none. -/
  findIn (es : Entries) : List String → Option Entries
    | [] => some es
    | key :: path =>
      match es.find? key with
      | none => some []
      | some (.table _ _ entries) => findIn entries path
      | some (.tables (latest :: _)) => findIn latest path
      | some _ => none

/-- Opens a further table of an array. -/
def Draft.openArray (d : Draft) (path : List String) : Option Draft := do
  let d ← d.close
  let (before, last) ← splitLast path
  let root ← d.root.descend false (fun _ es => es.modify (fun old =>
    match old with
    | none => some (.tables [])
    | some (.tables ts) => some (.tables ts)
    | some _ => none) last) before false
  return { root, path, isArray := true }

def lines : (fuel : Nat) → Draft → List Char → Option Draft
  | 0, _, _ => none
  | fuel + 1, d, cs =>
    match skipBlanks cs with
    | [] => some d
    | '[' :: '[' :: rest => do
      let (path, rest) ← key (rest.length + 1) rest
      match rest with
      | ']' :: ']' :: rest =>
        if keyLimit ≤ path.length then none
        else
          let rest ← endOfLine? rest
          lines fuel (← d.openArray path) rest
      | _ => none
    | '[' :: rest => do
      let (path, rest) ← key (rest.length + 1) rest
      match rest with
      | ']' :: rest =>
        if keyLimit ≤ path.length then none
        else
          let rest ← endOfLine? rest
          lines fuel (← d.openTable path) rest
      | _ => none
    | '#' :: rest => do
      let rest ← endOfLine? ('#' :: rest)
      lines fuel d rest
    | cs =>
      -- An empty line, or a key with its value.
      match lineEnd? cs with
      | some rest => lines fuel d rest
      | none => do
        let (path, rest) ← key (cs.length + 1) cs
        match rest with
        | '=' :: rest =>
          if keyLimit ≤ path.length then none
          else
            let rest := skipBlanks rest
            let (v, rest) ← value (2 * rest.length + 2) depthLimit rest
            let rest ← endOfLine? rest
            lines fuel (← d.addValue path v) rest
        | _ => none

end Reader

/-- Reads a document; a byte order mark at its start does not count. -/
def parse (s : String) : Option Value := do
  let cs := match s.toList with
    | '\ufeff' :: rest => rest
    | cs => cs
  let d ← Reader.lines (cs.length + 1) {} cs
  let d ← d.close
  return .table (Item.toEntries d.root)

end Toml

end DialogueStore
