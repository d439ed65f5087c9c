/-
Domains as YAML files.

Only the slots are looked at; all other sections are skipped.  A blank text is a
domain without slots.  To bound the work on a text whose nodes refer to each
other, references may be followed a hundred times for every event of the text, and
collections may be nested to a depth of 128.
-/
import DialogueStore.Conversation.Domain
import DialogueStore.Files
import DialogueStore.Text.CharClass
import DialogueStore.Yaml.Node
import DialogueStore.Yaml.Scalar

namespace DialogueStore

inductive DomainError
  | unreadable (path : String) (e : FileError)
  | malformed
  deriving DecidableEq, Repr

/-- The first line of the error's text, up to what is said about the place of a flaw. -/
def DomainError.message : DomainError → String
  | .unreadable path e => "failed to read domain file: " ++ path ++ ": " ++ e.message
  | .malformed => "failed to parse domain file"

namespace Domain

namespace File

/-- Reading with a number of references that may still be followed. -/
abbrev Read (α : Type) := StateT Nat Option α

def fail {α : Type} : Read α := fun _ => none

/-- The node that another one refers to, or else that node. -/
def follow (root : Yaml.Node) : Yaml.Node → Read Yaml.Node
  | .alias number => do
    match ← get with
    | 0 => fail
    | left + 1 =>
      set left
      match root.named? number with
      | some n => return n
      | none => fail
  | n => return n

/-- The key of an entry, as it is written. -/
def key (root n : Yaml.Node) : Read String := do
  match ← follow root n with
  | .scalar _ _ s => return s
  | _ => fail

/-- A node as a value; `room` is how much deeper collections may be nested. -/
def value (root : Yaml.Node) : (room : Nat) → Yaml.Node → Read Json
  | room, n => do
    match ← follow root n with
    | .scalar m isPlain s => Yaml.Scalar.toJson? m.tag isPlain s
    | .sequence m items =>
      match room with
      | 0 => fail
      | room + 1 =>
        if Yaml.Scalar.isLocalTag m.tag then fail
        return .array (← items.mapM (value root room))
    | .mapping m entries =>
      match room with
      | 0 => fail
      | room + 1 =>
        if Yaml.Scalar.isLocalTag m.tag then fail
        let members ← entries.foldlM (fun members e => do
          let k ← key root e.1
          let v ← value root room e.2
          return Dict.insert members k v) ([] : Dict Json)
        return .object members
    | .alias _ => fail

/-- The entries of a mapping; a plain scalar without text counts as an empty one. -/
def entries (root n : Yaml.Node) : Read (List (Yaml.Node × Yaml.Node)) := do
  match ← follow root n with
  | .mapping _ es => return es
  | .scalar _ true "" => return []
  | _ => fail

/-- A text or null. -/
def text? (root n : Yaml.Node) : Read (Option String) := do
  match ← follow root n with
  | .scalar m isPlain s => Yaml.Scalar.toText? m.tag isPlain s
  | _ => fail

/-- A declared entry may stand only once. -/
def once (seen : List String) (key : String) : Read (List String) := do
  if seen.contains key then fail else return key :: seen

def slot (root n : Yaml.Node) : Read Slot := do
  let (_, s) ← (← entries root n).foldlM (fun (seen, s) e => do
    match ← key root e.1 with
    | "type" => return (← once seen "type", { s with type := ← text? root e.2 })
    | "initial_value" =>
      return (← once seen "initial_value", { s with initialValue := ← value root 125 e.2 })
    | _ => return (seen, s)) (([] : List String), ({} : Slot))
  return s

def slots (root n : Yaml.Node) : Read (Dict Slot) := do
  (← entries root n).foldlM (fun slots e => do
    let k ← key root e.1
    return Dict.insert slots k (← slot root e.2)) ([] : Dict Slot)

def domain (root : Yaml.Node) : Read Domain := do
  let (_, d) ← (← entries root root).foldlM (fun (seen, d) e => do
    match ← key root e.1 with
    | "slots" => return (← once seen "slots", { d with slots := ← slots root e.2 })
    | _ => return (seen, d)) (([] : List String), ({} : Domain))
  return d

end File

/-- The domain that a YAML text states. -/
def ofYaml? (s : String) : Option Domain := do
  if Text.isBlankText s then return {}
  match ← Yaml.Node.ofString? s with
  | none => return {}
  | some root =>
    let (d, _) ← (File.domain root).run (100 * root.events)
    return d

def load (path : String) : FileText → Except DomainError Domain
  | .error e => .error (.unreadable path e)
  | .ok s =>
    match ofYaml? s with
    | some d => .ok d
    | none => .error .malformed

end Domain

end DialogueStore
