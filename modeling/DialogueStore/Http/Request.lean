/-
HTTP requests: which texts are methods, targets and headers, and what of a
request matters here.
-/
import DialogueStore.Remote.Exchange

namespace DialogueStore

namespace Http

/-- A request, as far as it is looked at. -/
structure Request where
  method : String
  /-- The path of the target, as it is written. -/
  path : String
  /-- The headers, with names in lower case. -/
  headers : List (String × String) := []
  body : List UInt8 := []
  deriving Inhabited

/-- The characters of methods, header names and media types. -/
def isTokenChar (c : Char) : Bool :=
  ('0' ≤ c && c ≤ '9') || ('a' ≤ c && c ≤ 'z') || ('A' ≤ c && c ≤ 'Z') ||
    "!#$%&'*+-.^_`|~".contains c

def isToken (s : String) : Bool := s ≠ "" && s.toList.all isTokenChar

/-! ### Targets -/

/-- The characters that may stand in a path as they are. -/
def isPathChar (c : Char) : Bool :=
  let n := c.toNat
  n = 0x21 || (0x24 ≤ n && n ≤ 0x3b) || n = 0x3d || (0x40 ≤ n && n ≤ 0x5f) ||
    (0x61 ≤ n && n ≤ 0x7a) || n = 0x7c || 0x7e ≤ n || "\"\x7b\x7d".contains c

/-- The characters that may stand in a query as they are. -/
def isQueryChar (c : Char) : Bool :=
  let n := c.toNat
  n = 0x21 || (0x24 ≤ n && n ≤ 0x3b) || n = 0x3d || 0x3f ≤ n

def isAuthorityChar (c : Char) : Bool :=
  ('0' ≤ c && c ≤ '9') || ('a' ≤ c && c ≤ 'z') || ('A' ≤ c && c ≤ 'Z') ||
    "!$&'()*+,-.:;=@[]_~%".contains c

/-- The path of a text that consists of a path and a query; an empty path is the root.  What
follows a number sign is not looked at. -/
def pathOf? (cs : List Char) : Option String :=
  let stops (c : Char) : Bool := c = '?' || c = '#'
  let path := cs.takeWhile fun c => !stops c
  let query := match cs.drop path.length with
    | '?' :: rest => rest.takeWhile (· ≠ '#')
    | _ => []
  if path.all isPathChar && query.all isQueryChar then
    some (if path.isEmpty then "/" else String.ofList path)
  else none

/-- What has been seen of the part that names the host. -/
structure Authority where
  colons : Nat := 0
  opened : Bool := false
  closed : Bool := false
  percent : Bool := false
  /-- Whether the latest character ends the name of a user. -/
  afterUser : Bool := false

/-- One more character of the part that names the host. -/
def Authority.next (a : Authority) (c : Char) : Option Authority :=
  let a := { a with afterUser := false }
  if !isAuthorityChar c then none
  else if c = ':' then some { a with colons := a.colons + 1 }
  else if c = '[' then
    if a.percent || a.opened then none else some { a with opened := true }
  else if c = ']' then
    if !a.opened || a.closed then none
    else some { a with closed := true, colons := 0, percent := false }
  else if c = '@' then some { a with colons := 0, percent := false, afterUser := true }
  else if c = '%' then some { a with percent := true }
  else some a

def isAuthority (cs : List Char) : Bool :=
  match cs.foldlM Authority.next {} with
  | some a => a.opened = a.closed && a.colons ≤ 1 && !a.afterUser && !a.percent
  | none => false

/-- The rest of a target after its scheme, if it has one. -/
def afterScheme? (cs : List Char) : Option (List Char) :=
  let isSchemeChar (c : Char) : Bool :=
    ('0' ≤ c && c ≤ '9') || ('a' ≤ c && c ≤ 'z') || ('A' ≤ c && c ≤ 'Z') || "+-.".contains c
  let scheme := cs.takeWhile isSchemeChar
  match cs.drop scheme.length with
  | ':' :: '/' :: '/' :: rest => if scheme.length ≤ 64 then some rest else none
  | _ => none

/-- The path of a target: of a path with a query, or of an absolute URL.  A host alone and an
asterisk have none. -/
def targetPath? (target : String) : Option String :=
  if 65534 < target.utf8ByteSize then none
  else match target.toList with
    | [] => none
    | ['*'] => some "*"
    | '/' :: cs => pathOf? ('/' :: cs)
    | cs =>
      match afterScheme? cs with
      | some rest =>
        let host := rest.takeWhile fun c => !("/?#".contains c)
        if host.isEmpty || !isAuthority host then none else pathOf? (rest.drop host.length)
      | none => if isAuthority cs then some "" else none

/-! ### Requests -/

/-- A request of these parts, if they are all legal. -/
def Request.ofParts? (method target : String) (headers : List (String × String))
    (body : List UInt8) : Option Request := do
  let path ← targetPath? target
  if isToken method && headers.all (fun h => isToken h.1 && isHeaderValue h.2) then
    return ⟨method, path, headers.map fun h => (h.1.map Char.toLower, h.2), body⟩
  else none

def Request.header? (r : Request) (name : String) : Option String := r.headers.lookup name

end Http

end DialogueStore
