/-
Decoding JSON sources into the types of the library.

A decoder takes a source to a value or to the first fault in reading order.
`Shape.closed` decodes an object with declared fields, whose other members are
skipped, or an array of those fields; `Shape.open` decodes an object that
carries all its other members along.  A declared key may stand once only.
-/
import DialogueStore.Json.Reader

namespace DialogueStore

namespace Json

abbrev Decoder (α : Type) := Source → Except Fault α

namespace Decoder

def text : Decoder String
  | .string s => .ok s
  | s => .error s.unexpected

def bool : Decoder Bool
  | .bool b => .ok b
  | s => .error s.unexpected

/-- Any number, as a double. -/
def float : Decoder Float
  | .number n => .ok n.toFloat
  | s => .error s.unexpected

/-- A whole number from `lo` to `hi`. -/
def int (lo hi : Int) : Decoder Int
  | .number (.int n) => if lo ≤ n ∧ n ≤ hi then .ok n else .error .mismatch
  | s => .error s.unexpected

/-- A whole number of 64 bits with sign. -/
def int64 : Decoder Int := int (-0x8000000000000000) 0x7fffffffffffffff

/-- A whole number of 64 bits without sign. -/
def uint64 : Decoder UInt64 := fun s => do
  return UInt64.ofNat (← int 0 0xffffffffffffffff s).toNat

def verbatim : Decoder Json := Source.toJson

def optional {α : Type} (d : Decoder α) : Decoder (Option α)
  | .null => .ok none
  | s => some <$> d s

def list {α : Type} (d : Decoder α) : Decoder (List α)
  | .array items => items.mapM d
  | s => .error s.unexpected

/-- An object as a map; the last of several members with one key counts. -/
def dict {α : Type} (d : Decoder α) : Decoder (Dict α)
  | .object members => members.foldlM (fun m e => do return m.insert e.1 (← d e.2)) []
  | s => .error s.unexpected

/-- Looks at the grammar of a member that nobody asks for. -/
def skip : Source → Except Fault Unit
  | .flaw .unreadable => .ok ()
  | .flaw _ => .error .malformed
  | s => if s.intact then .ok () else .error .malformed

end Decoder

/-- Where a field must be there: everywhere, in an array of the fields only, or nowhere. -/
inductive Presence
  | always
  | inArrays
  | never
  deriving DecidableEq, Repr

/-- A declared field of a type: its key, where it must be there, and how it is stored. -/
structure Field (σ : Type) where
  key : String
  needed : Presence
  store : σ → Source → Except Fault σ

namespace Field

variable {σ α : Type}

/-- A field that is decoded and then set; absent, it keeps its default. -/
def defaulted (key : String) (d : Decoder α) (set : σ → α → σ) : Field σ :=
  ⟨key, .never, fun s src => do return set s (← d src)⟩

/-- A field that an object may leave out, but an array may not. -/
def ordinal (key : String) (d : Decoder α) (set : σ → α → σ) : Field σ :=
  ⟨key, .inArrays, fun s src => do return set s (← d src)⟩

def required (key : String) (d : Decoder α) (set : σ → α → σ) : Field σ :=
  ⟨key, .always, fun s src => do return set s (← d src)⟩

end Field

abbrev Shape (σ : Type) := List (Field σ)

namespace Shape

variable {σ : Type}

/-- Decodes members from left to right.  `other` takes those that are not declared, and `seen` are
the declared keys that have come before. -/
def members (shape : Shape σ) (other : σ → String → Source → Except Fault σ) :
    List String → σ → List (String × Source) → Except Fault σ
  | seen, s, [] =>
    if shape.all fun f => f.needed ≠ .always || seen.contains f.key then .ok s else .error .mismatch
  | seen, s, (key, src) :: rest =>
    match shape.find? fun f => f.key = key with
    | some f => do
      if seen.contains key then throw .mismatch
      let s ← f.store s src
      members shape other (key :: seen) s rest
    | none => do
      let s ← other s key src
      members shape other seen s rest

/-- Decodes the fields in their order from items; fields with a default may be absent at the end. -/
def items : Shape σ → σ → List Source → Except Fault σ
  | [], s, [] => .ok s
  | [], _, src :: _ => .error (if src.intact then .mismatch else .malformed)
  | f :: rest, s, [] => if f.needed = .never then items rest s [] else .error .mismatch
  | f :: rest, s, src :: srcs => do
    let s ← f.store s src
    items rest s srcs

/-- An object of which only the declared members count, or an array of the fields in order. -/
def closed (shape : Shape σ) (start : σ) : Decoder σ
  | .object ms => members shape (fun s _ src => do Decoder.skip src; return s) [] start ms
  | .array srcs => items shape start srcs
  | s => .error s.unexpected

/-- An object whose other members are kept. -/
def «open» (shape : Shape σ) (start : σ) (keep : σ → String → Json → σ) : Decoder σ
  | .object ms =>
    members shape (fun s key src => do return keep s key (← src.toJson)) [] start ms
  | s => .error s.unexpected

end Shape

end Json

end DialogueStore
