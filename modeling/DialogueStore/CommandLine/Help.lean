/-
What the command line says about itself: its version, how it is used, and how a
shell completes its commands.
-/
import DialogueStore.CommandLine.Arguments
import DialogueStore.Service

namespace DialogueStore

namespace CommandLine

def programName : String := "tsync"

/-- The program, or one of its commands, with the version. -/
def versionText (command : Option String) : String :=
  let name := match command with
    | some command => programName ++ "-" ++ command
    | none => programName
  name ++ " " ++ version ++ "\n"

/-- An option as it is listed. -/
def OptionRule.toText (o : OptionRule) : String :=
  let letter := match o.letter with
    | some c => "-" ++ String.singleton c ++ ", "
    | none => "    "
  let value := match o.kind with
    | .valued _ => " <" ++ o.name.toUpper ++ ">"
    | _ => ""
  "  " ++ letter ++ "--" ++ o.name ++ value ++ "\n"

/-- How the program, or one of its commands, is used. -/
def helpText (command : Option String) : String :=
  let level := (command.bind fun c => Level.ofCommand.lookup c).getD Level.program
  let path := match command with
    | some command => programName ++ " " ++ command
    | none => programName
  let positions := String.join (level.positions.map fun p => " <" ++ p.1.toUpper ++ ">")
  let commands := String.join (level.commands.map fun c => "  " ++ c ++ "\n")
  "Usage: " ++ path ++ " [OPTIONS]" ++ positions ++
    (if level.commands.isEmpty then "\n" else " <COMMAND>\n\nCommands:\n" ++ commands) ++
    "\nOptions:\n" ++ String.join (level.options.map OptionRule.toText)

/-- A line that makes a shell complete the names of the commands. -/
def completionText (shell : Shell) : String :=
  let names := Level.program.commands
  let words := " ".intercalate names
  match shell with
  | .bash => "complete -W '" ++ words ++ "' " ++ programName ++ "\n"
  | .elvish =>
    "set edit:completion:arg-completer[" ++ programName ++ "] = \x7b|@args| put " ++ words ++
      " \x7d\n"
  | .fish => "complete -c " ++ programName ++ " -a '" ++ words ++ "'\n"
  | .powershell =>
    "Register-ArgumentCompleter -Native -CommandName " ++ programName ++ " -ScriptBlock \x7b " ++
      ", ".intercalate (names.map fun name => "'" ++ name ++ "'") ++ " \x7d\n"
  | .zsh => "compctl -k '(" ++ words ++ ")' " ++ programName ++ "\n"

end CommandLine

end DialogueStore
