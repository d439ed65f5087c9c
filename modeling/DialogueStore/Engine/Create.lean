/-
Making an engine from a configuration.
-/
import DialogueStore.Engine.Basic
import DialogueStore.Pattern.Meaning

namespace DialogueStore

def Pattern.namesTest (p : Pattern) (sender : String) : Bool := p.occursIn sender.toList

/-- An engine of a valid configuration whose test pattern is a pattern. -/
def Engine.ofConfig (config : Config) (anonymize : String → String) (broadcasts : Bool)
    (domain : Option Domain) : Except ConfigError Engine := do
  config.validate
  match Pattern.ofString? config.testSenderPattern with
  | some p => return { config, isTest := p.namesTest, anonymize, broadcasts, domain }
  | none => throw (.invalidPattern config.testSenderPattern)

end DialogueStore
