/-
The rules of anonymization: which pieces of a text are sensitive, and the tag
that takes their place.

Digits are those of all scripts, and a boundary is a boundary between word
characters of all scripts.  The rules are applied one after another, each to
what the one before it has left.
-/
import DialogueStore.Pattern.Match

namespace DialogueStore

namespace Privacy

open Pattern

structure Rule where
  pattern : Pattern
  tag : List Char

def digit : Pattern := .one Text.digitRanges

def boundary : Pattern := .anchor (.wordBoundary Text.isWord)

/-- The signs and letters between the date and the number of an identity code: plus, hyphen, and
the letters a to f and u to y in either case. -/
def centurySigns : Text.Ranges :=
  [(0x2b, 0x2b), (0x2d, 0x2d), (0x41, 0x46), (0x55, 0x59), (0x61, 0x66), (0x75, 0x79)]

/-- The last character of an identity code: a digit, or any letter but z in either case.  The long
s is a form of s, and the kelvin sign one of k. -/
def checkSigns : Text.Ranges :=
  [(0x30, 0x39), (0x41, 0x59), (0x61, 0x79), (0x17f, 0x17f), (0x212a, 0x212a)]

/-- A date of six digits, the century, three digits and the check character. -/
def identityCode : Pattern :=
  sequence [boundary, exactly 6 digit, .one centurySigns, exactly 3 digit, .one checkSigns,
    boundary]

/-- Four groups of up to three digits, with points between them. -/
def ipv4Address : Pattern :=
  sequence [boundary, exactly 3 (.seq (between 1 3 digit) (char '.')), between 1 3 digit, boundary]

/-- A digit, after a space or hyphen at most. -/
def phoneDigit : Pattern := .seq (optional (.one [(0x20, 0x20), (0x2d, 0x2d)])) digit

/-- A country code: with a plus, in brackets or not, or after two zeros. -/
def countryCode : Pattern :=
  .alt (sequence [char '(', char '+', between 1 3 digit, char ')'])
    (.alt (sequence [char '+', between 1 3 digit])
      (sequence [boundary, char '0', char '0', between 1 3 digit]))

/-- A country code and six to twelve digits. -/
def internationalPhone : Pattern :=
  sequence [countryCode, between 6 12 phoneDigit, boundary]

/-- A zero, two digits and five to eight more. -/
def domesticPhone : Pattern :=
  sequence [boundary, char '0', exactly 2 digit, between 5 8 phoneDigit, boundary]

def identityTag : List Char := ['<', 'h', 'e', 't', 'u', '>']

def ipTag : List Char := ['<', 'i', 'p', '>']

def phoneTag : List Char := ['<', 'p', 'h', 'o', 'n', 'e', '>']

/-- The rules in the order of their application. -/
def rules : List Rule :=
  [⟨identityCode, identityTag⟩, ⟨ipv4Address, ipTag⟩, ⟨internationalPhone, phoneTag⟩,
   ⟨domesticPhone, phoneTag⟩]

def Rule.apply (r : Rule) (text : List Char) : List Char := r.pattern.replaceAll r.tag text

/-- Applies all rules in their order. -/
def anonymize (text : List Char) : List Char := rules.foldl (fun t r => r.apply t) text

/-- Replaces all sensitive pieces of a text by tags. -/
def anonymizeText (text : String) : String := String.ofList (anonymize text.toList)

end Privacy

end DialogueStore
