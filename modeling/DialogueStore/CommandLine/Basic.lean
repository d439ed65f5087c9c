/-
The command line as a value: what is asked for, and with which options.
-/
import DialogueStore.Config.Load

namespace DialogueStore

namespace CommandLine

inductive Shell
  | bash
  | elvish
  | fish
  | powershell
  | zsh
  deriving DecidableEq, Repr, Inhabited

namespace Shell

def name : Shell → String
  | .bash => "bash"
  | .elvish => "elvish"
  | .fish => "fish"
  | .powershell => "powershell"
  | .zsh => "zsh"

def all : List Shell := [.bash, .elvish, .fish, .powershell, .zsh]

def ofName? (s : String) : Option Shell := all.find? fun sh => sh.name = s

end Shell

inductive Command
  /-- Answer requests over HTTP and sweep the cache now and then. -/
  | serve (port : Nat) (host : String)
  /-- Show a conversation, as a tracker or as the stored record. -/
  | retrieve (senderId : String) (raw : Bool)
  | save (file : String)
  | anonymize (text : String)
  | config
  | completions (shell : Shell)
  deriving DecidableEq, Repr, Inhabited

structure Options where
  json : Bool := false
  quiet : Bool := false
  verbose : Nat := 0
  config : String := Config.fileName
  otel : Bool := false
  deriving DecidableEq, Repr, Inhabited

structure Invocation where
  options : Options
  command : Command
  deriving DecidableEq, Repr, Inhabited

/-- Why there is nothing to run. -/
inductive Refusal
  /-- The arguments make no sense. -/
  | usage
  /-- Help was asked for, on a command or on the whole program. -/
  | help (command : Option String)
  | version (command : Option String)
  deriving DecidableEq, Repr

def Refusal.exitCode : Refusal → Nat
  | .usage => 2
  | .help _ | .version _ => 0

end CommandLine

end DialogueStore
