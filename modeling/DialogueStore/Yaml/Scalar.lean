/-
What the text of a scalar stands for.

A plain scalar may be null, a boolean, a number or a text; a quoted one is a text.
A tag of the standard's core says which of them it has to be.
-/
import DialogueStore.Json.Reader
import DialogueStore.Decimal.Nearest

namespace DialogueStore

namespace Yaml

namespace Scalar

def isNull (s : String) : Bool := ["null", "Null", "NULL", "~"].contains s

def bool? (s : String) : Option Bool :=
  if ["true", "True", "TRUE"].contains s then some true
  else if ["false", "False", "FALSE"].contains s then some false
  else none

/-- Whether digits start with a zero that is not their only digit: no number, but a text. -/
def isPadded (cs : List Char) : Bool :=
  match cs with
  | '0' :: _ :: _ => cs.all Json.Reader.isDigit
  | _ => false

/-- The value of one or more digits of a base. -/
def based? (base : Nat) (ds : List Char) : Option Nat :=
  if ds.isEmpty then none
  else ds.foldlM (fun n c => do
    let d ← Json.Reader.hexValue c
    if d < base then return n * base + d else none) 0

/-- A number without its sign: decimal, or in base 16, 8 or 2 after its mark. -/
def magnitude? : List Char → Option Nat
  | '0' :: 'x' :: ds => based? 16 ds
  | '0' :: 'o' :: ds => based? 8 ds
  | '0' :: 'b' :: ds => based? 2 ds
  | ds => if isPadded ds then none else based? 10 ds

/-- What comes of a text as a whole number: its value, that it is one but too large, or nothing. -/
inductive Whole
  | value (n : Int)
  | tooLarge
  | none

/-- Reads a whole number.  Beyond 64 bits it is too large, and beyond 128 bits it is not even taken
for one. -/
def whole (cs : List Char) : Whole :=
  match cs with
  | '-' :: rest =>
    match magnitude? rest with
    | some n =>
      if n ≤ 0x8000000000000000 then .value (-(n : Int))
      else if n ≤ 0x80000000000000000000000000000000 then .tooLarge
      else .none
    | Option.none => .none
  | _ =>
    match magnitude? (match cs with | '+' :: rest => rest | cs => cs) with
    | some n =>
      if n < 0x10000000000000000 then .value n
      else if n < 0x100000000000000000000000000000000 then .tooLarge
      else .none
    | Option.none => .none

/-- The exponent at the end of a decimal. -/
def exponent? : List Char → Option Int
  | [] => some 0
  | c :: rest =>
    if c = 'e' || c = 'E' then
      let (negative, ds) := match rest with
        | '-' :: ds => (true, ds)
        | '+' :: ds => (false, ds)
        | ds => (false, ds)
      if !ds.isEmpty && ds.all Json.Reader.isDigit then
        let n : Int := Json.Reader.natOfDigits ds
        some (if negative then -n else n)
      else none
    else none

/-- A decimal without a plus sign, with digits before its point or after it. -/
def decimal? (cs : List Char) : Option Float := do
  let (negative, cs) := match cs with
    | '-' :: rest => (true, rest)
    | cs => (false, cs)
  let before := cs.takeWhile Json.Reader.isDigit
  let (after, rest) := match cs.dropWhile Json.Reader.isDigit with
    | '.' :: rest => (rest.takeWhile Json.Reader.isDigit, rest.dropWhile Json.Reader.isDigit)
    | rest => ([], rest)
  if before.isEmpty && after.isEmpty then none
  let e ← exponent? rest
  let x := Decimal.nearest negative (Json.Reader.natOfDigits (before ++ after)) (e - after.length)
  if x.isFinite then return x else none

/-- Reads a double, or a word for one that is not finite. -/
def float? (s : String) : Option Float :=
  let unsigned := match s.toList with
    | '+' :: rest => rest
    | cs => cs
  if [".inf", ".Inf", ".INF"].contains (String.ofList unsigned) then some (1.0 / 0.0)
  else if ["-.inf", "-.Inf", "-.INF"].contains s then some (-1.0 / 0.0)
  else if [".nan", ".NaN", ".NAN"].contains s then some (0.0 / 0.0)
  else if s.startsWith "+-" then none
  else decimal? unsigned

/-- A plain scalar without a tag; none if it is a number that is too large. -/
def ofPlain (s : String) : Option Json :=
  if s.isEmpty || isNull s then some .null
  else match bool? s with
    | some b => some (.bool b)
    | none =>
      match whole s.toList with
      | .value n => some (.int n)
      | .tooLarge => none
      | .none =>
        let digits := match s.toList with
          | '-' :: rest => rest
          | '+' :: rest => rest
          | cs => cs
        match if isPadded digits then none else float? s with
        | some x => some (.float x)
        | none => some (.string s)

/-- The tags of the standard's core. -/
def coreTag (name : String) : String := "tag:yaml.org,2002:" ++ name

/-- Whether a tag is one of an application, which a value cannot carry. -/
def isLocalTag (tag : Option String) : Bool := tag.any (·.startsWith "!")

def toJson? (tag : Option String) (isPlain : Bool) (s : String) : Option Json :=
  match tag with
  | none => if isPlain then ofPlain s else some (.string s)
  | some tag =>
    if tag = coreTag "bool" then (bool? s).map .bool
    else if tag = coreTag "int" then
      match whole s.toList with
      | .value n => some (.int n)
      | _ => none
    else if tag = coreTag "float" then (float? s).map .float
    else if tag = coreTag "null" then if isNull s then some .null else none
    else if isLocalTag (some tag) then none
    else some (.string s)

/-- The text of a scalar where a text or null is expected: any scalar is taken as it is written. -/
def toText? (tag : Option String) (isPlain : Bool) (s : String) : Option (Option String) :=
  if !isPlain then some (some s)
  else match tag with
    | none => some (if s.isEmpty || isNull s then none else some s)
    | some tag =>
      if tag = coreTag "null" then if isNull s then some none else none
      else some (some s)

end Scalar

end Yaml

end DialogueStore
