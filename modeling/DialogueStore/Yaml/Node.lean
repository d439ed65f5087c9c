/-
YAML documents as trees of nodes.

A name may be given to several nodes, one after another.  Names are replaced by
numbers while a document is read: a name gets the number of names known so far,
and so a name that is given a second time shares its number with the next new
name.  What a number stands for is the last node that carries it
(`Node.named?`).
-/
import DialogueStore.Yaml.Token

namespace DialogueStore

namespace Yaml

/-- What may stand before a node: its name, as a number, and its tag. -/
structure Marks where
  name : Option Nat := none
  tag : Option String := none
  deriving DecidableEq, Repr, Inhabited

inductive Node
  | scalar (marks : Marks) (isPlain : Bool) (text : String)
  | sequence (marks : Marks) (items : List Node)
  | mapping (marks : Marks) (entries : List (Node × Node))
  /-- The node that carries a number. -/
  | alias (number : Nat)
  deriving Repr, Inhabited

namespace Node

/-- A node that is not written out. -/
def blank : Node := .scalar {} true ""

def marks : Node → Marks
  | .scalar m _ _ => m
  | .sequence m _ => m
  | .mapping m _ => m
  | .alias _ => {}

mutual

/-- How many events make up a node: one for a scalar or an alias, and two for the ends of a
collection. -/
def events : Node → Nat
  | .scalar _ _ _ => 1
  | .alias _ => 1
  | .sequence _ items => eventsOfItems items + 2
  | .mapping _ entries => eventsOfEntries entries + 2

def eventsOfItems : List Node → Nat
  | [] => 0
  | n :: rest => events n + eventsOfItems rest

def eventsOfEntries : List (Node × Node) → Nat
  | [] => 0
  | (k, v) :: rest => events k + events v + eventsOfEntries rest

end

mutual

/-- The last node, in the order of their starts, that carries a number. -/
def named? (number : Nat) : Node → Option Node
  | n@(.sequence m items) => (namedInItems? number items).or (own number m n)
  | n@(.mapping m entries) => (namedInEntries? number entries).or (own number m n)
  | n@(.scalar m _ _) => own number m n
  | .alias _ => none

def namedInItems? (number : Nat) : List Node → Option Node
  | [] => none
  | n :: rest => (namedInItems? number rest).or (named? number n)

def namedInEntries? (number : Nat) : List (Node × Node) → Option Node
  | [] => none
  | (k, v) :: rest => (namedInEntries? number rest).or ((named? number v).or (named? number k))

def own (number : Nat) (m : Marks) (n : Node) : Option Node :=
  if m.name = some number then some n else none

end

end Node

/-! ### Reading nodes from tokens -/

/-- The tokens that are left, the numbers of the names, and the shorthands of tags. -/
structure Reader where
  tokens : List Token
  names : List (String × Nat) := []
  shorthands : List (String × String)

abbrev Read (α : Type) := StateT Reader Option α

namespace Read

def fail {α : Type} : Read α := fun _ => none

def peek : Read (Option Token) := do return (← get).tokens.head?

def advance : Read Unit := modify fun r => { r with tokens := r.tokens.tail }

/-- Takes the next token if it is this one. -/
def take (t : Token) : Read Bool := do
  if (← peek) = some t then
    advance
    return true
  else return false

def expect (t : Token) : Read Unit := do
  if !(← take t) then fail

/-- Gives a name to the node that starts here. -/
def giveName (name : String) : Read Nat := do
  let r ← get
  let number := r.names.length
  set { r with names := (name, number) :: r.names.filter (·.1 ≠ name) }
  return number

/-- The whole tag that a handle and a rest stand for. -/
def fullTag (handle rest : String) : Read String := do
  if handle.isEmpty then return rest
  match (← get).shorthands.lookup handle with
  | some start => return start ++ rest
  | none => fail

def anchor? : Read (Option Nat) := do
  match ← peek with
  | some (.anchor name) =>
    advance
    return some (← giveName name)
  | _ => return none

def tag? : Read (Option String) := do
  match ← peek with
  | some (.tag handle rest) =>
    advance
    return some (← fullTag handle rest)
  | _ => return none

/-- The name and the tag of a node, in either order. -/
def marks : Read Marks := do
  match ← anchor? with
  | some name => return ⟨some name, ← tag?⟩
  | none =>
    let tag ← tag?
    let name ← if tag.isSome then anchor? else pure none
    return ⟨name, tag⟩

/-- Whether the next token is one of these. -/
def atAny (ts : List Token) : Read Bool := do return (← peek).any ts.contains

mutual

/-- Reads a node.  `inBlock` tells whether a block may stand here, and `indentless` whether the
items of a sequence may, without being more indented than what is around them. -/
def node : (fuel : Nat) → (inBlock indentless : Bool) → Read Node
  | 0, _, _ => fail
  | fuel + 1, inBlock, indentless => do
    match ← peek with
    | some (.alias name) =>
      advance
      match (← get).names.lookup name with
      | some number => return .alias number
      | none => fail
    | _ =>
      let m ← marks
      let next ← peek
      match next with
      | some (.scalar isPlain text) =>
        advance
        -- A lone exclamation mark says that the text is to be taken as if it were plain.
        if m.tag = some "!" then return .scalar { m with tag := none } isPlain text
        else return .scalar m isPlain text
      | some .flowSequence =>
        advance
        return .sequence m (← flowItems fuel true)
      | some .flowMapping =>
        advance
        return .mapping m (← flowEntries fuel true)
      | _ =>
        if indentless && next = some .blockEntry then
          return .sequence m (← indentlessItems fuel)
        else if inBlock && next = some .blockSequence then
          advance
          return .sequence m (← blockItems fuel)
        else if inBlock && next = some .blockMapping then
          advance
          return .mapping m (← blockEntries fuel)
        else if m.name.isSome || m.tag.isSome then return .scalar m true ""
        else fail

/-- Reads a node, or a blank one if the next token is one of these. -/
def nodeUnless : (fuel : Nat) → (inBlock indentless : Bool) → List Token → Read Node
  | 0, _, _, _ => fail
  | fuel + 1, inBlock, indentless, stops => do
    if ← atAny stops then return .blank else node fuel inBlock indentless

def blockItems : (fuel : Nat) → Read (List Node)
  | 0 => fail
  | fuel + 1 => do
    if ← take .blockEnd then return []
    expect .blockEntry
    let item ← nodeUnless fuel true false [.blockEntry, .blockEnd]
    return item :: (← blockItems fuel)

/-- The items of a sequence that is no more indented than the mapping that it is a value of. -/
def indentlessItems : (fuel : Nat) → Read (List Node)
  | 0 => fail
  | fuel + 1 => do
    if ← take .blockEntry then
      let item ← nodeUnless fuel true false [.blockEntry, .key, .value, .blockEnd]
      return item :: (← indentlessItems fuel)
    else return []

def blockEntries : (fuel : Nat) → Read (List (Node × Node))
  | 0 => fail
  | fuel + 1 => do
    if ← take .blockEnd then return []
    expect .key
    let stops : List Token := [.key, .value, .blockEnd]
    let k ← nodeUnless fuel true true stops
    let v ← if ← take .value then nodeUnless fuel true true stops else pure .blank
    return (k, v) :: (← blockEntries fuel)

def flowItems : (fuel : Nat) → (first : Bool) → Read (List Node)
  | 0, _ => fail
  | fuel + 1, first => do
    if ← take .flowSequenceEnd then return []
    if !first then expect .flowEntry
    if ← take .flowSequenceEnd then return []
    let item ← if ← take .key then pair fuel else node fuel false false
    return item :: (← flowItems fuel false)

/-- An item of a flow sequence that is a mapping with one entry. -/
def pair : (fuel : Nat) → Read Node
  | 0 => fail
  | fuel + 1 => do
    -- Where there is no key, the token after its mark is skipped.
    let k ← if ← atAny [.value, .flowEntry, .flowSequenceEnd] then do advance; pure .blank
      else node fuel false false
    let v ←
      if ← take .value then nodeUnless fuel false false [.flowEntry, .flowSequenceEnd]
      else pure .blank
    return .mapping {} [(k, v)]

def flowEntries : (fuel : Nat) → (first : Bool) → Read (List (Node × Node))
  | 0, _ => fail
  | fuel + 1, first => do
    if ← take .flowMappingEnd then return []
    if !first then expect .flowEntry
    if ← take .flowMappingEnd then return []
    let entry ←
      if ← take .key then
        let k ← nodeUnless fuel false false [.value, .flowEntry, .flowMappingEnd]
        let v ←
          if ← take .value then nodeUnless fuel false false [.flowEntry, .flowMappingEnd]
          else pure .blank
        pure (k, v)
      else
        pure (← node fuel false false, .blank)
    return entry :: (← flowEntries fuel false)

end

/-- The directives before a document: one version at most, and each handle once. -/
def directives : (fuel : Nat) → (version : Bool) → Read Unit
  | 0, _ => fail
  | fuel + 1, version => do
    match ← peek with
    | some (.version major minor) =>
      if version || major ≠ 1 || (minor ≠ 1 && minor ≠ 2) then fail
      advance
      directives fuel true
    | some (.tagShorthand handle start) =>
      if ((← get).shorthands.lookup handle).isSome then fail
      modify fun r => { r with shorthands := r.shorthands ++ [(handle, start)] }
      advance
      directives fuel version
    | _ => return ()

/-- Reads the one document of a text, none if there is nothing at all. -/
def document : Read (Option Node) := do
  let tokens := (← get).tokens
  let fuel := 4 * tokens.length + 4
  match tokens with
  | [] => return none
  | first :: _ =>
    let explicit : Bool := match first with
      | .version _ _ => true
      | .tagShorthand _ _ => true
      | .documentStart => true
      | _ => false
    if explicit then
      directives fuel false
      expect .documentStart
    modify fun r => { r with shorthands := r.shorthands ++ standard }
    let isEmpty : Bool := match ← peek with
      | none => true
      | some .documentStart => true
      | some .documentEnd => true
      | some (.version _ _) => true
      | some (.tagShorthand _ _) => true
      | _ => false
    let root ← if explicit && isEmpty then pure .blank else node fuel true false
    if (← get).tokens.all (· = .documentEnd) then return some root else fail
where
  /-- The shorthands that need no directive. -/
  standard : List (String × String) := [("!", "!"), ("!!", "tag:yaml.org,2002:")]

end Read

/-- Reads the document of a text.  None outside if the text is no document or more than one, none
inside if it holds no node. -/
def Node.ofString? (s : String) : Option (Option Node) := do
  let tokens ← Token.ofString? s
  let (root, _) ← Read.document.run { tokens, shorthands := [] }
  return root

end Yaml

end DialogueStore
