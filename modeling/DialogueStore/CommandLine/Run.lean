/-
Running the command line.

All that a command needs from outside is in `Surroundings`, and all that it does
is in the `Plan` that it comes to: it has finished, or it is ready to answer
requests over HTTP.
-/
import DialogueStore.CommandLine.Arguments
import DialogueStore.CommandLine.Help
import DialogueStore.CommandLine.View
import DialogueStore.Conversation.DomainFile

namespace DialogueStore

namespace CommandLine

structure Surroundings where
  environment : Environment
  files : String → FileText
  network : Network

inductive Failure
  | config (e : ConfigError)
  | domain (e : DomainError)
  /-- A configuration has a count that cannot be shown. -/
  | countTooLarge
  | unreadable (file : String)
  | notConversation (file : String)
  | noSender (file : String)
  | addressInUse
  /-- The service cannot listen for another reason. -/
  | cannotListen (reason : String)
  deriving DecidableEq, Repr

/-- What is said about a failure, up to its causes. -/
def Failure.message : Failure → String
  | .config e => e.message
  | .domain e => e.message
  | .countTooLarge => "out-of-range value for u64 type"
  | .unreadable file => "failed to read " ++ file
  | .notConversation file => file ++ " is not a serialized conversation"
  | .noSender file => file ++ " has no sender_id"
  | .addressInUse => "Address already in use (os error 98)"
  | .cannotListen reason => reason

inductive Ending
  | done
  | refused (r : Refusal)
  | failed (f : Failure)
  deriving DecidableEq, Repr

structure Transcript where
  output : String := ""
  ending : Ending := .done
  sent : List Post := []

namespace Transcript

def exitCode (t : Transcript) : Nat :=
  match t.ending with
  | .done => 0
  | .refused r => r.exitCode
  | .failed _ => 1

/-- The line that is written about a failure. -/
def error? (t : Transcript) : Option String :=
  match t.ending with
  | .failed f => some ("Error: " ++ f.message)
  | _ => none

def ofFailure (f : Failure) : Transcript := { ending := .failed f }

end Transcript

/-- A service that is to listen at an address, and what is shown before and after. -/
structure Serving where
  service : Service
  host : String
  port : Nat
  quiet : Bool

namespace Serving

/-- The address as it was given. -/
def address (s : Serving) : String := s.host ++ ":" ++ toString s.port

/-- What is shown when the service listens; `address` is shown as its address. -/
def opening (s : Serving) (address : String) : String :=
  if s.quiet then "" else listeningText address s.service.client.url

/-- What is shown when the service has stopped. -/
def closing (s : Serving) : String := if s.quiet then "" else stoppedText

end Serving

/-- What a command line comes to. -/
inductive Plan
  | finished (t : Transcript)
  | serving (s : Serving)

def Plan.sent : Plan → List Post
  | .finished t => t.sent
  | .serving _ => []

/-! ### The commands -/

def anonymize (text : String) (json : Bool) : Transcript :=
  let text := Privacy.anonymizeText text
  { output := if json then jsonText (.object [("text", .string text)]) else unlines [text] }

def effective (s : Surroundings) (path : String) : Effective :=
  ⟨path, (Config.load (s.files path)).override s.environment, s.environment.apiKey?.isSome⟩

def showConfig (e : Effective) (json : Bool) : Transcript :=
  if json then { output := jsonText e.toJson }
  else match e.config.toToml? with
    | some toml => { output := e.heading ++ toml ++ e.verdict }
    | none => { output := e.heading, ending := .failed .countTooLarge }

/-- The service of a configuration.  The domain is loaded first, if a file is named. -/
def service (s : Surroundings) (config : Config) : Except Failure Service := do
  let domain ← match config.domainPath with
    | some path => ((Domain.load path (s.files path)).mapError Failure.domain).map some
    | none => pure none
  (Service.ofConfig config (config.client s.environment.apiKey?) domain).mapError Failure.config

def retrieve (service : Service) (network : Network) (senderId : String) (raw json : Bool) :
    Transcript :=
  let shown {α : Type} (toJson : α → Json) (toText : α → String)
      (p : Performed (Awaited (Option α))) : Transcript :=
    let output := p.result.map fun
      | some a => if json then jsonText (toJson a) else toText a
      | none => if json then unlines ["null"] else notFoundText senderId
    { output := output.getD "", sent := p.sent }
  if raw then shown Record.toJson recordText (service.retrieveRecord network senderId)
  else shown Tracker.toJson trackerText (service.retrieve network senderId)

/-- The conversation of a file; it has to name its sender. -/
def readConversation (file : String) : FileText → Except Failure Record
  | .error _ => .error (.unreadable file)
  | .ok s =>
    match (Json.Document.ofString s).decode Record.decode with
    | .error _ => .error (.notConversation file)
    | .ok r => if r.senderId = "" then .error (.noSender file) else .ok r

def save (service : Service) (network : Network) (r : Record) (json : Bool) : Transcript :=
  let p := service.save network r
  let output := p.result.map fun events =>
    let saved : Saved :=
      ⟨r.senderId, events, service.engine.isTest r.senderId,
        p.service.state.cache.cursor r.senderId⟩
    if json then jsonText saved.toJson else saved.toText
  { output := output.getD "", sent := p.sent }

def orFailure (t : Except Failure Transcript) : Transcript :=
  match t with
  | .ok t => t
  | .error f => .ofFailure f

def perform (s : Surroundings) (i : Invocation) : Plan :=
  let e := effective s i.options.config
  let json := i.options.json
  match i.command with
  | .completions shell => .finished { output := completionText shell }
  | .anonymize text => .finished (anonymize text json)
  | .config => .finished (showConfig e json)
  | .retrieve senderId raw => .finished (orFailure do
      return retrieve (← service s e.config) s.network senderId raw json)
  | .save file => .finished (orFailure do
      let service ← service s e.config
      return save service s.network (← readConversation file (s.files file)) json)
  | .serve port host =>
    match service s e.config with
    | .ok service => .serving ⟨service.withEventLog, host, port, i.options.quiet⟩
    | .error f => .finished (.ofFailure f)

/-- What is shown where there is nothing to run. -/
def refusalText : Refusal → String
  | .usage => ""
  | .help command => helpText command
  | .version command => versionText command

def run (s : Surroundings) (args : List String) : Plan :=
  match parse s.environment args with
  | .ok i => perform s i
  | .error r => .finished { output := refusalText r, ending := .refused r }

end CommandLine

end DialogueStore
