/-
Media types: which ones say that a body is JSON.
-/
import DialogueStore.Http.Request

namespace DialogueStore

namespace Http

/-- The characters that may stand between quotes. -/
def isQuotedChar (c : Char) : Bool := 0x1f < c.toNat && c.toNat ≠ 0x7f

/-- Whether a text is a list of parameters, each a name and a value, with semicolons between them.
A value may be quoted; a quote that comes first in it does not end it. -/
def areParameters : (fuel : Nat) → List Char → Bool
  | 0, _ => false
  | fuel + 1, cs =>
    match cs.dropWhile (· = ' ') with
    | [] => true
    | cs =>
      let name := cs.takeWhile isTokenChar
      !name.isEmpty && match cs.drop name.length with
      | '=' :: '"' :: first :: rest =>
        isQuotedChar first && match rest.dropWhile fun c => isQuotedChar c && c ≠ '"' with
        | '"' :: rest =>
          match rest.dropWhile (· = ' ') with
          | [] => true
          | ';' :: rest => areParameters fuel rest
          | _ => false
        | _ => false
      | '=' :: rest =>
        let value := rest.takeWhile isTokenChar
        match rest.drop value.length with
        | [] => true
        | ';' :: rest => !value.isEmpty && areParameters fuel rest
        | _ => false
      | _ => false

/-- The name of a kind of media, and what it is based on: what stands after its last plus sign,
unless that comes first. -/
def splitSuffix (cs : List Char) : List Char × List Char :=
  let base := (cs.reverse.dropWhile (· ≠ '+')).reverse
  if base.length ≤ 1 then (cs, []) else (base.dropLast, cs.drop base.length)

/-- Whether a media type is the one of JSON, or is based on it; letters may be of either case. -/
def isJsonType (s : String) : Bool :=
  let cs := s.toList.map Char.toLower
  let main := cs.takeWhile isTokenChar
  match cs.drop main.length with
  | '/' :: rest =>
    let kind := rest.takeWhile isTokenChar
    let (name, base) := splitSuffix kind
    main = "application".toList && (name = "json".toList || base = "json".toList) &&
      cs.all (fun c => c.toNat < 0x80) &&
      match rest.drop kind.length with
      | [] => true
      | ';' :: rest => areParameters (rest.length + 1) rest
      | _ => false
  | _ => false

end Http

end DialogueStore
