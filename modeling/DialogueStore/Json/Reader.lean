/-
Reading JSON text.

The grammar is the strict one: no comments, no trailing commas, blanks are the
four of the standard.  A number is whole when it has neither point nor exponent
and fits 64 bits.  Any other number becomes a double by one rule: its leading
digits, as many as fit 64 bits, are rounded to a double, and that double is
scaled by a power of ten.  Reading never fails: what cannot be read stays in the
tree as a flaw.
-/
import DialogueStore.Json.Source

namespace DialogueStore

namespace Json

namespace Reader

def isBlank (c : Char) : Bool := c = ' ' || c = '\n' || c = '\t' || c = '\r'

def skipBlanks (cs : List Char) : List Char := cs.dropWhile isBlank

def isDigit (c : Char) : Bool := '0' ≤ c && c ≤ '9'

def digitValue (c : Char) : Nat := c.toNat - '0'.toNat

/-! ### Numbers -/

def powerOfTen (k : Nat) : Float := Float.ofScientific 1 false k

/-- Divides by 1e308 until the exponent is in the range of one power of ten. -/
def scaleDown : Nat → Float → Nat → Float
  | 0, x, _ => x
  | fuel + 1, x, k =>
    if k ≤ 308 then x / powerOfTen k
    else if x == 0 then x
    else scaleDown fuel (x / powerOfTen 308) (k - 308)

/-- significand · 10^exponent, rounded at each step; none where it is beyond the doubles. -/
def scale (significand : Nat) (exponent : Int) : Option Float :=
  let x := Float.ofNat significand
  if exponent ≥ 0 then
    if exponent ≤ 308 then
      let y := x * powerOfTen exponent.toNat
      if y.isInf then none else some y
    else if x == 0 then some x else none
  else
    -- A significand of 64 bits is zero after three divisions by 1e308.
    some (scaleDown 4 x exponent.natAbs)

def fits64 (n : Nat) : Bool := n < 0x10000000000000000

/-- The digits of a whole part: the number of those that fit, and how many digits follow them. -/
def takeWhole : Nat → List Char → Nat × Nat
  | n, [] => (n, 0)
  | n, c :: rest =>
    let n' := n * 10 + digitValue c
    if fits64 n' then takeWhole n' rest else (n, rest.length + 1)

/-- Adds decimals to the significand as long as they fit; the second number counts them. -/
def takeDecimals : Nat → Nat → List Char → Nat × Nat
  | n, k, [] => (n, k)
  | n, k, c :: rest =>
    let n' := n * 10 + digitValue c
    if fits64 n' then takeDecimals n' (k + 1) rest else (n, k)

/-- A decimal text split by the grammar. -/
structure NumberText where
  negative : Bool
  whole : List Char
  decimals : Option (List Char)
  exponent : Option (Bool × List Char)

/-- Splits digits off the front of a text, one at least. -/
def splitDigits (cs : List Char) : Option (List Char × List Char) :=
  let ds := cs.takeWhile isDigit
  if ds.isEmpty then none else some (ds, cs.dropWhile isDigit)

def splitWhole (cs : List Char) : Option (List Char × List Char) := do
  let (whole, cs) ← splitDigits cs
  if whole.head? = some '0' && whole.length > 1 then none else some (whole, cs)

def splitDecimals : List Char → Option (Option (List Char) × List Char)
  | '.' :: cs => do
    let (ds, cs) ← splitDigits cs
    some (some ds, cs)
  | cs => some (none, cs)

/-- Splits what comes behind the letter of an exponent. -/
def splitPower (cs : List Char) : Option (Option (Bool × List Char) × List Char) := do
  let (negative, cs) := match cs with
    | '+' :: rest => (false, rest)
    | '-' :: rest => (true, rest)
    | _ => (false, cs)
  let (ds, cs) ← splitDigits cs
  some (some (negative, ds), cs)

def splitExponent : List Char → Option (Option (Bool × List Char) × List Char)
  | 'e' :: cs => splitPower cs
  | 'E' :: cs => splitPower cs
  | cs => some (none, cs)

/-- Splits a number off the front of a text; none if the grammar fails. -/
def splitNumber (cs : List Char) : Option (NumberText × List Char) := do
  let (negative, cs) := match cs with
    | '-' :: rest => (true, rest)
    | _ => (false, cs)
  let (whole, cs) ← splitWhole cs
  let (decimals, cs) ← splitDecimals cs
  let (exponent, cs) ← splitExponent cs
  some (⟨negative, whole, decimals, exponent⟩, cs)

def natOfDigits (ds : List Char) : Nat := ds.foldl (fun n c => n * 10 + digitValue c) 0

namespace NumberText

def signed (t : NumberText) (x : Float) : Number := .float (if t.negative then -x else x)

/-- The value of a text without decimals and exponent. -/
def wholeValue (t : NumberText) : Option Number :=
  let (n, dropped) := takeWhole 0 t.whole
  if dropped ≠ 0 then (scale n dropped).map t.signed
  else if !t.negative then some (.int n)
  else if n = 0 || n > 0x8000000000000000 then some (t.signed (Float.ofNat n))
  else some (.int (-n))

/-- The value of a text with decimals or an exponent. -/
def realValue (t : NumberText) : Option Number :=
  let (n, dropped) := takeWhole 0 t.whole
  let (n, places) := takeDecimals n 0 (t.decimals.getD [])
  let start : Int := (dropped : Int) - places
  match t.exponent with
  | none => (scale n start).map t.signed
  | some (negative, ds) =>
    let e := natOfDigits ds
    -- An exponent beyond 32 bits is not computed with.
    if e ≥ 0x80000000 then
      if n ≠ 0 && !negative then none else some (t.signed 0)
    else (scale n (if negative then start - e else start + e)).map t.signed

/-- The value of a number text; none where it is beyond the doubles. -/
def value (t : NumberText) : Option Number :=
  if t.decimals.isNone && t.exponent.isNone then t.wholeValue else t.realValue

end NumberText

def readNumber (cs : List Char) : Source × Option (List Char) :=
  match splitNumber cs with
  | none => (.flaw .malformed, none)
  | some (t, rest) =>
    match t.value with
    | some n => (.number n, some rest)
    | none => (.flaw .unreadable, some rest)

/-! ### Strings -/

def hexValue (c : Char) : Option Nat :=
  if '0' ≤ c && c ≤ '9' then some (c.toNat - '0'.toNat)
  else if 'a' ≤ c && c ≤ 'f' then some (c.toNat - 'a'.toNat + 10)
  else if 'A' ≤ c && c ≤ 'F' then some (c.toNat - 'A'.toNat + 10)
  else none

def hex4 (a b c d : Char) : Option Nat := do
  let a ← hexValue a
  let b ← hexValue b
  let c ← hexValue c
  let d ← hexValue d
  return ((a * 16 + b) * 16 + c) * 16 + d

def escaped (c : Char) : Option Char :=
  match c with
  | '"' => some '"'
  | '\\' => some '\\'
  | '/' => some '/'
  | 'b' => some '\x08'
  | 'f' => some '\x0c'
  | 'n' => some '\n'
  | 'r' => some '\r'
  | 't' => some '\t'
  | _ => none

/-- The character of an escape that starts with `u`, after that letter: none inside where the escape
is half of a pair, none outside where four digits are missing. -/
def unicodeEscape : List Char → Option (Option Char × List Char)
  | a :: b :: c :: d :: rest => do
    let n ← hex4 a b c d
    if n < 0xd800 || 0xdfff < n then return (some (Char.ofNat n), rest)
    match rest with
    | '\\' :: 'u' :: a :: b :: c :: d :: rest' =>
      let m ← hex4 a b c d
      if n < 0xdc00 && 0xdc00 ≤ m && m ≤ 0xdfff then
        return (some (Char.ofNat (0x10000 + (n - 0xd800) * 0x400 + (m - 0xdc00))), rest')
      else return (none, rest)
    | _ => return (none, rest)
  | _ => none

/-- Reads the rest of a string after its opening quote: the characters in reverse, whether all its
escapes are characters, and the text after the closing quote. -/
def stringBody : (fuel : Nat) → List Char → Bool → List Char → Option (List Char × Bool × List Char)
  | 0, _, _, _ => none
  | fuel + 1, acc, sound, cs =>
    match cs with
    | [] => none
    | '"' :: rest => some (acc, sound, rest)
    | '\\' :: 'u' :: rest =>
      match unicodeEscape rest with
      | none => none
      | some (some c, rest) => stringBody fuel (c :: acc) sound rest
      | some (none, rest) => stringBody fuel acc false rest
    | '\\' :: c :: rest =>
      match escaped c with
      | some e => stringBody fuel (e :: acc) sound rest
      | none => none
    | c :: rest =>
      if c.toNat < 0x20 || c = '\\' then none else stringBody fuel (c :: acc) sound rest

/-! ### Values -/

/-- Removes a word from the front of a text. -/
def afterWord : List Char → List Char → Option (List Char)
  | [], cs => some cs
  | w :: ws, c :: cs => if w = c then afterWord ws cs else none
  | _ :: _, [] => none

def word (w : String) (value : Source) (cs : List Char) : Source × Option (List Char) :=
  match afterWord w.toList cs with
  | some rest => (value, some rest)
  | none => (.flaw .malformed, none)

/-- A container read at a depth: beyond the limit it has no value, but its grammar still counts. -/
def nested (room : Nat) (r : Source × Option (List Char)) : Source × Option (List Char) :=
  if room ≠ 0 then r
  else match r with
    | (_, some rest) => (.flaw .unreadable, some rest)
    | (_, none) => (.flaw .malformed, none)

mutual

/-- Reads one value.  `room` is how many containers may still be opened. -/
def value : (fuel room : Nat) → List Char → Source × Option (List Char)
  | 0, _, _ => (.flaw .malformed, none)
  | fuel + 1, room, cs =>
    match skipBlanks cs with
    | [] => (.flaw .malformed, none)
    | c :: rest =>
      if c = 'n' then word "null" .null (c :: rest)
      else if c = 't' then word "true" (.bool true) (c :: rest)
      else if c = 'f' then word "false" (.bool false) (c :: rest)
      else if c = '"' then
        match stringBody (fuel + 1) [] true rest with
        | none => (.flaw .malformed, none)
        -- The grammar of a string holds also where one of its escapes is no character.
        | some (s, true, rest) => (.string (String.ofList s.reverse), some rest)
        | some (_, false, rest) => (.flaw .unreadable, some rest)
      else if c = '[' then
        nested room <| match skipBlanks rest with
          | ']' :: rest => (.array [], some rest)
          | rest =>
            let (xs, r) := items fuel (room - 1) [] rest
            (.array xs, r)
      else if c = '\x7b' then
        nested room <| match skipBlanks rest with
          | '\x7d' :: rest => (.object [], some rest)
          | rest =>
            let (ms, r) := members fuel (room - 1) [] rest
            (.object ms, r)
      else readNumber (c :: rest)

/-- Reads items up to the closing bracket; `acc` holds those before, in reverse. -/
def items : (fuel room : Nat) → List Source → List Char → List Source × Option (List Char)
  | 0, _, acc, _ => ((Source.flaw .malformed :: acc).reverse, none)
  | fuel + 1, room, acc, cs =>
    match value fuel room cs with
    | (s, none) => ((s :: acc).reverse, none)
    | (s, some rest) =>
      match skipBlanks rest with
      | ']' :: rest => ((s :: acc).reverse, some rest)
      | ',' :: rest => items fuel room (s :: acc) rest
      | _ => ((.flaw .malformed :: s :: acc).reverse, none)

/-- Reads members up to the closing brace; `acc` holds those before, in reverse. -/
def members : (fuel room : Nat) → List (String × Source) → List Char →
    List (String × Source) × Option (List Char)
  | 0, _, acc, _ => ((("", Source.flaw .malformed) :: acc).reverse, none)
  | fuel + 1, room, acc, cs =>
    let broken (acc : List (String × Source)) : List (String × Source) × Option (List Char) :=
      ((("", .flaw .malformed) :: acc).reverse, none)
    match skipBlanks cs with
    | '"' :: rest =>
      match stringBody (fuel + 1) [] true rest with
      | none => broken acc
      | some (key, sound, rest) =>
        match skipBlanks rest with
        | ':' :: rest =>
          let (s, after) := value fuel room rest
          -- A flaw of the key is told when the value after it is complete.
          let member : String × Source :=
            if sound then (String.ofList key.reverse, s)
            else ("", .flaw (if after.isSome then .unreadableKey else .malformed))
          match after with
          | none => ((member :: acc).reverse, none)
          | some rest =>
            match skipBlanks rest with
            | '\x7d' :: rest => ((member :: acc).reverse, some rest)
            | ',' :: rest => members fuel room (member :: acc) rest
            | _ => broken (member :: acc)
        | _ => broken acc
    | _ => broken acc

end

end Reader

/-- The deepest nesting of arrays and objects that has a value. -/
def depthLimit : Nat := 127

/-- A text as a tree, and whether nothing but blanks follows the value. -/
structure Document where
  root : Source
  complete : Bool
  deriving Inhabited

def Document.ofChars (cs : List Char) : Document :=
  match Reader.value (2 * cs.length + 2) depthLimit cs with
  | (s, some rest) => ⟨s, (Reader.skipBlanks rest).isEmpty⟩
  | (s, none) => ⟨s, true⟩

def Document.ofString (s : String) : Document := Document.ofChars s.toList

/-- Decodes a text; what follows the value is looked at last. -/
def Document.decode {α : Type} (d : Document) (f : Source → Except Fault α) : Except Fault α := do
  let a ← f d.root
  if d.complete then return a else throw .malformed

def parse (s : String) : Except Fault Json := (Document.ofString s).decode Source.toJson

end Json

end DialogueStore
