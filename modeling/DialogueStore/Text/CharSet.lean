/-
Sets of characters as ranges of code points.

`normalize` puts ranges in order and joins those that touch; the operations keep
that form.  The surrogates are no characters, so that a complement leaves them
out.
-/
import DialogueStore.Text.Property

namespace DialogueStore.Text

namespace Ranges

/-- The characters below and above the surrogates. -/
def characters : Ranges := [(0, 0xd7ff), (0xe000, 0x10ffff)]

/-- Joins ranges in increasing order of their starts. -/
def join : Ranges → Ranges
  | (a, b) :: (c, d) :: rest =>
    if c ≤ b + 1 then join ((a, max b d) :: rest) else (a, b) :: join ((c, d) :: rest)
  | rs => rs
termination_by rs => rs.length

def normalize (rs : Ranges) : Ranges :=
  join ((rs.filter fun r => r.1 ≤ r.2).mergeSort fun r s => decide (r.1 ≤ s.1))

def union (a b : Ranges) : Ranges := normalize (a ++ b)

def intersect (a b : Ranges) : Ranges :=
  normalize (a.flatMap fun r => b.filterMap fun s =>
    let lo := max r.1 s.1
    let hi := min r.2 s.2
    if lo ≤ hi then some (lo, hi) else none)

/-- The code points between the ranges of a set in normal form, from `start` to the last one. -/
def gaps (start : Nat) : Ranges → Ranges
  | [] => if start ≤ 0x10ffff then [(start, 0x10ffff)] else []
  | (a, b) :: rest => if start < a then (start, a - 1) :: gaps (b + 1) rest else gaps (b + 1) rest

def complement (a : Ranges) : Ranges := intersect (gaps 0 (normalize a)) characters

def difference (a b : Ranges) : Ranges := intersect a (complement b)

def symmetricDifference (a b : Ranges) : Ranges := union (difference a b) (difference b a)

/-- The set with all forms of its characters in either case. -/
def caseClosure (a : Ranges) : Ranges :=
  normalize (a ++ (casePairs.filter fun p => contains a p.1).map fun p => (p.2, p.2))

end Ranges

/-- The characters of a general category, by any of its names. -/
def categorySet? (name : String) : Option Ranges :=
  let assigned := (categoryTable.map fun e => readRanges e.2).flatten
  match resolve categoryAliases name with
  | "cn" => some (Ranges.complement assigned)
  | "c" => do
    let rs ← category? "c"
    return Ranges.union rs.flatten (Ranges.complement assigned)
  | name => (category? name).map fun rs => Ranges.normalize rs.flatten

/-- The characters of a property that is named alone: one that a character has or has not, a
general category, or a script. -/
def propertySet? (name : String) : Option Ranges :=
  let name := normalizeName name
  -- These three names are categories although properties have them as short names too.
  let binary := if name = "cf" || name = "sc" || name = "lc" then none else binary? name
  binary.or (
    if name = "any" then some Ranges.characters
    else if name = "ascii" then some [(0, 0x7f)]
    else if name = "assigned" then (categorySet? "cn").map Ranges.complement
    else (categorySet? name).or (script? name))

/-- The characters for which a property with several values has a given one. -/
def propertyValueSet? (property value : String) : Option Ranges :=
  let value := normalizeName value
  match normalizeName property with
  | "gc" | "generalcategory" =>
    if value = "any" then some Ranges.characters
    else if value = "ascii" then some [(0, 0x7f)]
    else if value = "assigned" then (categorySet? "cn").map Ranges.complement
    else categorySet? value
  | "sc" | "script" => script? value
  | "scx" | "scriptextensions" => script? value
  | _ => none

end DialogueStore.Text
