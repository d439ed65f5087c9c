/-
Requests to the remote store and their answers as bytes.

Every request has a connection of its own, and an answer ends where its
connection does.
-/
import DialogueStore.Json.Printer
import DialogueStore.Remote.Exchange

namespace DialogueStore

structure Endpoint where
  host : String
  port : Nat
  /-- The path with the query. -/
  target : String
  deriving DecidableEq, Repr

namespace Endpoint

/-- The endpoint of a URL without encryption. -/
def ofUrl? (url : String) : Option Endpoint := do
  let scheme := "http://".toList
  let cs := url.toList
  if (cs.take scheme.length).map Char.toLower ≠ scheme then none
  else
    let rest := cs.drop scheme.length
    let authority := rest.takeWhile fun c => !("/?#".contains c)
    let target := (rest.drop authority.length).takeWhile (· ≠ '#')
    let target := if target.head? = some '/' then target else '/' :: target
    -- A user's name is not sent.
    let address := (authority.reverse.takeWhile (· ≠ '@')).reverse
    let host := address.takeWhile (· ≠ ':')
    let port ← match address.drop host.length with
      | [] | [':'] => some 80
      | _ :: port => (String.ofList port).toNat?
    return ⟨String.ofList host, port, String.ofList target⟩

end Endpoint

def Post.toBytes (p : Post) (e : Endpoint) : List UInt8 :=
  let body := Utf8.encode p.body.compact
  let headers := [("host", e.host), ("content-type", "application/json"),
      ("content-length", toString body.length), ("connection", "close")] ++
    (p.authorization.map fun key => ("authorization", key)).toList
  let lines := ("POST " ++ e.target ++ " HTTP/1.0") :: headers.map fun h => h.1 ++ ": " ++ h.2
  Utf8.encode (String.join (lines.map (· ++ "\r\n")) ++ "\r\n") ++ body

/-- What stands before and after the first empty line. -/
def splitHead : List UInt8 → Option (List UInt8 × List UInt8)
  | 0x0d :: 0x0a :: 0x0d :: 0x0a :: rest => some ([], rest)
  | b :: rest => (splitHead rest).map fun s => (b :: s.1, s.2)
  | [] => none

/-- The status of the first line of an answer: its second word. -/
def readStatus? (head : List UInt8) : Option Nat :=
  let word := (head.dropWhile (· ≠ 0x20)).drop 1
  ((Utf8.decode? (word.takeWhile fun b => b ≠ 0x20 && b ≠ 0x0d)).bind String.toNat?).filter
    (· < 1000)

/-- The answer that a connection has brought when it ends. -/
def Delivery.ofBytes (bytes : List UInt8) : Delivery :=
  match splitHead bytes with
  | some (head, body) =>
    match readStatus? head with
    | some status => .answered status (.bytes body)
    | none => .lost
  | none => .lost

end DialogueStore
