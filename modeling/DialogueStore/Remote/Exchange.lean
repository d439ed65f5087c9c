/-
What goes over the wire between the store and the remote store.

A request is one POST with a JSON body.  What comes of it is an answer with a
status and a body, or one of the ways in which an answer can fail to come.
-/
import DialogueStore.Json.Reader
import DialogueStore.Text.Utf8

namespace DialogueStore

structure Post where
  url : String
  authorization : Option String
  body : Json
  deriving Inhabited

/-- The body of an answer, or why it cannot be read to its end. -/
inductive Body
  | bytes (content : List UInt8)
  | stalled
  | broken
  deriving Inhabited

inductive Delivery
  | answered (status : Nat) (body : Body)
  /-- Sent, but no answer came in time. -/
  | stalled
  /-- Sent, but the connection was lost. -/
  | lost
  /-- Not even sent. -/
  | unreachable
  deriving Inhabited

abbrev Network := Post → Delivery

namespace Body

/-- The body as text; one that cannot be read counts as empty. -/
def text : Body → String
  | .bytes content => Utf8.decodeLossy content
  | _ => ""

end Body

/-- Bytes as a JSON text.  A sequence that is no UTF-8 is like an escape that is no character: it
breaks the string that it stands in, and the grammar outside of strings. -/
def Json.Document.ofBytes (bytes : List UInt8) : Json.Document :=
  .ofChars ((Utf8.chars? bytes).flatMap fun c =>
    match c with
    | some c => [c]
    | none => "\\udc00\\udc00".toList)

/-- Whether a text is an absolute URL of the web: a scheme and a host. -/
def isWebUrl (url : String) : Bool :=
  let cs := url.toList
  let scheme := cs.takeWhile (· ≠ ':')
  let lower := String.ofList (scheme.map Char.toLower)
  (lower = "http" || lower = "https") &&
    match cs.drop scheme.length with
    | ':' :: '/' :: '/' :: c :: _ => !("/?#:".contains c) && cs.all fun c => 0x20 < c.toNat
    | _ => false

/-- Whether a text can be the value of a header: no control characters but tabs. -/
def isHeaderValue (s : String) : Bool :=
  s.toList.all fun c => c = '\t' || (0x20 ≤ c.toNat && c.toNat ≠ 0x7f)

end DialogueStore
