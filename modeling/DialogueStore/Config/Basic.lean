/-
The configuration of a store: where the remote store is, how much is fetched at
a time, and how long conversations are kept.

Every field has a default, so that no configuration at all is one that works.
-/
import DialogueStore.Json.Decode
import DialogueStore.Text.CharClass

namespace DialogueStore

structure RemoteConfig where
  url : String := "http://localhost:3000/graphql"
  /-- Seconds until a request is given up. -/
  timeoutSecs : UInt64 := 30
  deriving Inhabited, DecidableEq

structure Config where
  /-- The project that the conversations belong to on the remote store. -/
  projectId : String := ""
  /-- A label that is sent with every write. -/
  environment : String := "development"
  /-- The most events that one fetch brings. -/
  maxEvents : UInt64 := 100
  /-- Seconds without activity until a conversation is dropped from the cache. -/
  persistSecs : UInt64 := 3600
  /-- Seconds without activity until a test conversation is dropped. -/
  testPersistSecs : UInt64 := 240
  /-- Seconds from one sweep to the next. -/
  sweepIntervalSecs : UInt64 := 30
  /-- A sender whose id this pattern matches is a test sender. -/
  testSenderPattern : String := "^bot_regression_test_"
  /-- The file of the domain against which trackers are rebuilt. -/
  domainPath : Option String := none
  remote : RemoteConfig := {}
  deriving Inhabited, DecidableEq

inductive ConfigError
  | invalidValue (field reason : String)
  | invalidPattern (pattern : String)
  deriving DecidableEq, Repr

/-- The first line of the error's text. -/
def ConfigError.message : ConfigError → String
  | .invalidValue field reason => "invalid value for '" ++ field ++ "': " ++ reason
  | .invalidPattern pattern =>
    "invalid test sender pattern '" ++ pattern ++ "': regex parse error:"

namespace RemoteConfig

def toJson (c : RemoteConfig) : Json :=
  .object [("url", .string c.url), ("timeout_secs", .nat c.timeoutSecs.toNat)]

def shape : Json.Shape RemoteConfig :=
  [.defaulted "url" .text fun c url => { c with url },
   .defaulted "timeout_secs" .uint64 fun c timeoutSecs => { c with timeoutSecs }]

def decode : Json.Decoder RemoteConfig := shape.closed {}

end RemoteConfig

namespace Config

/-- Refuses values that the store cannot work with. -/
def validate (c : Config) : Except ConfigError Unit :=
  if c.maxEvents = 0 then .error (.invalidValue "max_events" "must be greater than zero")
  else if c.sweepIntervalSecs = 0 then
    .error (.invalidValue "sweep_interval_secs" "must be greater than zero")
  else if Text.isBlankText c.remote.url then
    .error (.invalidValue "remote.url" "must not be empty")
  else .ok ()

def toJson (c : Config) : Json :=
  .object ([("project_id", .string c.projectId), ("environment", .string c.environment),
    ("max_events", .nat c.maxEvents.toNat),
    ("tracker_persist_time_secs", .nat c.persistSecs.toNat),
    ("test_tracker_persist_time_secs", .nat c.testPersistSecs.toNat),
    ("sweep_interval_secs", .nat c.sweepIntervalSecs.toNat),
    ("test_sender_pattern", .string c.testSenderPattern)] ++
    (match c.domainPath with
     | some path => [("domain_path", .string path)]
     | none => []) ++
    [("remote", c.remote.toJson)])

def shape : Json.Shape Config :=
  [.defaulted "project_id" .text fun c projectId => { c with projectId },
   .defaulted "environment" .text fun c environment => { c with environment },
   .defaulted "max_events" .uint64 fun c maxEvents => { c with maxEvents },
   .defaulted "tracker_persist_time_secs" .uint64 fun c persistSecs => { c with persistSecs },
   .defaulted "test_tracker_persist_time_secs" .uint64 fun c testPersistSecs =>
     { c with testPersistSecs },
   .defaulted "sweep_interval_secs" .uint64 fun c sweepIntervalSecs =>
     { c with sweepIntervalSecs },
   .defaulted "test_sender_pattern" .text fun c testSenderPattern => { c with testSenderPattern },
   .defaulted "domain_path" (.optional .text) fun c domainPath => { c with domainPath },
   .defaulted "remote" RemoteConfig.decode fun c remote => { c with remote }]

def decode : Json.Decoder Config := shape.closed {}

end Config

end DialogueStore
