/-
Configurations as TOML.
-/
import DialogueStore.Config.Basic
import DialogueStore.Toml.Printer

namespace DialogueStore

/-- The TOML text that states a configuration, unless a count is too large for TOML. -/
def Config.toToml? (c : Config) : Option String := do
  let count (key : String) (n : UInt64) : Option String := (Toml.count? n.toNat).map (Toml.line key)
  let text (key value : String) : String := Toml.line key (Toml.quote value)
  let domainPath := match c.domainPath with
    | some path => text "domain_path" path
    | none => ""
  return text "project_id" c.projectId ++ text "environment" c.environment ++
    (← count "max_events" c.maxEvents) ++
    (← count "tracker_persist_time_secs" c.persistSecs) ++
    (← count "test_tracker_persist_time_secs" c.testPersistSecs) ++
    (← count "sweep_interval_secs" c.sweepIntervalSecs) ++
    text "test_sender_pattern" c.testSenderPattern ++ domainPath ++
    "\n" ++ Toml.header "remote" ++
    text "url" c.remote.url ++ (← count "timeout_secs" c.remote.timeoutSecs)

end DialogueStore
