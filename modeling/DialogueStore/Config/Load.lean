/-
Where a configuration comes from: a TOML file, and variables of the environment
that replace some of its values.

Loading never fails.  A file that cannot be read or used counts as no file, and
so does a variable whose value cannot be used.
-/
import DialogueStore.Config.Basic
import DialogueStore.Files
import DialogueStore.Toml.Reader

namespace DialogueStore

/-- The values of the variables that are set. -/
abbrev Environment := String → Option String

namespace Environment

def projectId : String := "BF_PROJECT_ID"
def environment : String := "BOTFRONT_ENV"
def maxEvents : String := "TRACKSYNC_MAX_EVENTS"
def remoteUrl : String := "TRACKSYNC_GRAPHQL_URL"
def apiKey : String := "API_KEY"

/-- The key that remote calls carry; a blank one counts as none. -/
def apiKey? (env : Environment) : Option String :=
  (env apiKey).filter fun key => !Text.isBlankText key

end Environment

namespace Config

def fileName : String := "tracksync.toml"

/-- Of an array in place of the table `remote` no more items are looked at than it has fields. -/
def takeFields : Toml.Value → Toml.Value
  | .table entries => .table (entries.map fun e =>
      match e with
      | ("remote", .array items) => ("remote", .array (items.take RemoteConfig.shape.length))
      | e => e)
  | v => v

/-- The configuration that a TOML text states. -/
def ofToml? (s : String) : Option Config := do
  let v ← Toml.parse s
  (decode (takeFields v).toSource).toOption

def load : FileText → Config
  | .ok s => (ofToml? s).getD {}
  | .error _ => {}

/-- A count of events as it is written in the environment: decimal digits, with blanks around and a
plus sign before them if need be. -/
def readCount? (s : String) : Option UInt64 :=
  let cs := match Text.trim s.toList with
    | '+' :: rest => rest
    | cs => cs
  if !cs.isEmpty && cs.all Json.Reader.isDigit then
    let n := Json.Reader.natOfDigits cs
    if n < 0x10000000000000000 then some (UInt64.ofNat n) else none
  else none

/-- The configuration after the environment had its say. -/
def override (c : Config) (env : Environment) : Config where
  projectId := (env Environment.projectId).getD c.projectId
  environment := (env Environment.environment).getD c.environment
  maxEvents := ((env Environment.maxEvents).bind readCount?).getD c.maxEvents
  persistSecs := c.persistSecs
  testPersistSecs := c.testPersistSecs
  sweepIntervalSecs := c.sweepIntervalSecs
  testSenderPattern := c.testSenderPattern
  domainPath := c.domainPath
  remote := { c.remote with url := (env Environment.remoteUrl).getD c.remote.url }

end Config

end DialogueStore
