/-
Reading the arguments of the command line.

Arguments are read from left to right on two levels: those of the program, up to
the name of a command, and those of the command.  The options that go with every
command may stand on both levels; then the inner one counts.  On one level an
option may stand once only, but a counted one may be repeated.

A value is looked at when the next argument comes, and the first fault ends the
reading.  So of a fault and a request for help the earlier one wins.
-/
import DialogueStore.CommandLine.Basic

namespace DialogueStore

namespace CommandLine

inductive ValueKind
  | text
  /-- The name of a file, which must not be empty. -/
  | path
  /-- A number below 2^16; signs and leading zeros do not count. -/
  | port
  | shell
  deriving DecidableEq, Repr

def readPort? (s : String) : Option Nat :=
  let (negative, ds) := match s.toList with
    | '-' :: ds => (true, ds)
    | '+' :: ds => (false, ds)
    | ds => (false, ds)
  if ds.isEmpty || !ds.all Json.Reader.isDigit then none
  else
    let n := Json.Reader.natOfDigits ds
    if n = 0 || (!negative && n < 0x10000) then some n else none

def ValueKind.accepts : ValueKind → String → Bool
  | .text, _ => true
  | .path, s => s ≠ ""
  | .port, s => (readPort? s).isSome
  | .shell, s => (Shell.ofName? s).isSome

inductive OptionKind
  | flag
  | counted
  | valued (kind : ValueKind)
  | asks (r : Refusal)
  deriving DecidableEq, Repr

/-- An option: its long name, its letter, and what it does. -/
structure OptionRule where
  name : String
  letter : Option Char
  kind : OptionKind

structure Level where
  options : List OptionRule
  /-- The arguments without a name, which all must be there. -/
  positions : List (String × ValueKind) := []
  /-- The commands whose names end the level. -/
  commands : List String := []

namespace Level

def long? (l : Level) (name : String) : Option OptionRule := l.options.find? fun o => o.name = name

def letter? (l : Level) (c : Char) : Option OptionRule := l.options.find? fun o => o.letter = some c

/-- The options that may stand on the level of a command, and on that of the program. -/
def shared (command : Option String) : List OptionRule :=
  [⟨"json", none, .flag⟩, ⟨"quiet", none, .flag⟩, ⟨"verbose", some 'v', .counted⟩,
    ⟨"config", none, .valued .path⟩, ⟨"otel", none, .flag⟩,
    ⟨"help", some 'h', .asks (.help command)⟩, ⟨"version", some 'V', .asks (.version command)⟩]

/-- The level of a command, with its own options and arguments. -/
def named (command : String) (own : List OptionRule) (positions : List (String × ValueKind)) :
    String × Level :=
  (command, ⟨own ++ shared (some command), positions, []⟩)

def ofCommand : List (String × Level) :=
  [named "serve" [⟨"port", none, .valued .port⟩, ⟨"host", none, .valued .text⟩] [],
    named "retrieve" [⟨"raw", none, .flag⟩] [("sender_id", .text)],
    named "save" [] [("file", .path)],
    named "anonymize" [] [("text", .text)],
    named "config" [] [],
    named "completions" [] [("shell", .shell)]]

def program : Level := ⟨shared none, [], ofCommand.map (·.1) ++ ["help"]⟩

end Level

structure Given where
  flags : List String := []
  count : Nat := 0
  values : List (String × String) := []
  /-- A value that has not been looked at: its name, its kind and what was given for it. -/
  pending : Option (String × ValueKind × Option String) := none
  /-- How many arguments without a name there were. -/
  placed : Nat := 0
  deriving Inhabited

namespace Given

def value? (g : Given) (name : String) : Option String := g.values.lookup name

def has (g : Given) (name : String) : Bool := g.flags.contains name

/-- Stores a value, if it is one and there is none yet. -/
def store (g : Given) (name : String) (kind : ValueKind) (v : String) : Except Refusal Given :=
  if (g.value? name).isSome || !kind.accepts v then .error .usage
  else .ok { g with values := (name, v) :: g.values, pending := none }

/-- Looks at the value that is pending. -/
def settle (g : Given) : Except Refusal Given :=
  match g.pending with
  | some (name, kind, some v) => g.store name kind v
  | some (_, _, none) => .error .usage
  | none => .ok g

def mark (g : Given) (o : OptionRule) : Except Refusal Given := do
  let g ← g.settle
  match o.kind with
  | .flag => if g.has o.name then throw .usage else return { g with flags := o.name :: g.flags }
  | .counted => return { g with count := min (g.count + 1) 255 }
  | .asks r => throw r
  | .valued _ => throw .usage

/-- Whether the next argument is the value of an option. -/
def expects (g : Given) : Bool :=
  match g.pending with
  | some (_, _, none) => true
  | _ => false

/-- A long option, with the value that is attached to it, if there is one. -/
def long (l : Level) (g : Given) (name : String) (attached : Option String) :
    Except Refusal Given :=
  match l.long? name with
  | none => .error .usage
  | some o =>
    match o.kind, attached with
    | .valued kind, some v => do (← g.settle).store name kind v
    | .valued kind, none => do return { (← g.settle) with pending := some (name, kind, none) }
    | _, some _ => .error .usage
    | _, none => g.mark o

def letters (l : Level) (g : Given) (cs : List Char) : Except Refusal Given :=
  cs.foldlM (fun g c =>
    match l.letter? c with
    | some o => g.mark o
    | none => .error .usage) g

def place (l : Level) (g : Given) (v : String) : Except Refusal Given :=
  match l.positions[g.placed]? with
  | some (name, kind) => do
    let g ← g.settle
    return { g with pending := some (name, kind, some v), placed := g.placed + 1 }
  | none => .error .usage

end Given

/-- Reads the arguments of a level, up to the name of a command with what follows it.  After two
dashes alone there are no more options. -/
def readLevel (l : Level) (g : Given) : (onlyPlaces : Bool) → List String →
    Except Refusal (Given × Option (String × List String))
  | _, [] => .ok (g, none)
  | true, arg :: rest => do readLevel l (← g.place l arg) true rest
  | false, arg :: rest => do
    -- The name of a command ends the level, unless an option waits for its value.
    if !g.expects && l.commands.contains arg then return (g, some (arg, rest))
    match arg.toList with
    | ['-', '-'] => readLevel l g true rest
    | '-' :: '-' :: cs =>
      let name := cs.takeWhile (· ≠ '=')
      let attached := match cs.drop name.length with
        | _ :: v => some (String.ofList v)
        | [] => none
      readLevel l (← g.long l (String.ofList name) attached) false rest
    | '-' :: c :: cs => readLevel l (← g.letters l (c :: cs)) false rest
    | _ =>
      match g.pending with
      | some (name, kind, none) =>
        readLevel l { g with pending := some (name, kind, some arg) } false rest
      | _ => readLevel l (← g.place l arg) false rest

/-- The variable that names the file of the configuration where no option does. -/
def configVariable : String := "TRACKSYNC_CONFIG"

/-- The end of a level: the last value is looked at, and so is the variable where the option is not
given; all arguments without a name must be there. -/
def endLevel (env : Environment) (l : Level) (g : Given) : Except Refusal Given := do
  let g ← g.settle
  let isPath (v : String) : Bool := ValueKind.path.accepts v
  if (g.value? "config").isNone && !(env configVariable).all isPath then throw .usage
  if g.placed < l.positions.length then throw .usage
  return g

def options (env : Environment) (outer inner : Given) : Options where
  json := inner.has "json" || outer.has "json"
  quiet := inner.has "quiet" || outer.has "quiet"
  verbose := if inner.count > 0 then inner.count else outer.count
  config := ((inner.value? "config").or (outer.value? "config")).getD
    ((env configVariable).getD Config.fileName)
  otel := inner.has "otel" || outer.has "otel"

def command? (name : String) (g : Given) : Option Command :=
  match name with
  | "serve" =>
    some (.serve (((g.value? "port").bind readPort?).getD 5055)
      ((g.value? "host").getD "127.0.0.1"))
  | "retrieve" => (g.value? "sender_id").map fun s => .retrieve s (g.has "raw")
  | "save" => (g.value? "file").map .save
  | "anonymize" => (g.value? "text").map .anonymize
  | "config" => some .config
  | "completions" => ((g.value? "shell").bind Shell.ofName?).map .completions
  | _ => none

/-- What the command `help` answers: it takes the name of one command, or none. -/
def help (args : List String) : Refusal :=
  match args with
  | [] => .help none
  | [name] => if Level.program.commands.contains name then .help (some name) else .usage
  | _ => .usage

/-- Reads the arguments, without the program's name. -/
def parse (env : Environment) (args : List String) : Except Refusal Invocation := do
  let (outer, found) ← readLevel Level.program {} false args
  match found with
  | none => throw .usage
  | some ("help", rest) => throw (help rest)
  | some (name, rest) =>
    match Level.ofCommand.lookup name with
    | none => throw .usage
    | some level =>
      let (inner, _) ← readLevel level {} false rest
      let inner ← endLevel env level inner
      let outer ← endLevel env Level.program outer
      match command? name inner with
      | some command => return ⟨options env outer inner, command⟩
      | none => throw .usage

end CommandLine

end DialogueStore
