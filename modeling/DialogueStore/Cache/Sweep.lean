/-
Sweeping the cache: dropping the conversations that have been quiet for longer
than their retention.

A sweep never waits.  It goes through both partitions, skips the senders whose
lock is held, keeps the records whose age cannot be told, and in the end
forgets the idle locks of senders with nothing cached.
-/
import DialogueStore.Cache.Basic
import DialogueStore.Config.Basic

namespace DialogueStore

/-- How many seconds a quiet conversation is kept. -/
structure Retention where
  normal : Float
  test : Float
  deriving Inhabited

def Retention.of (r : Retention) : Partition → Float
  | .normal => r.normal
  | .test => r.test

def Config.retention (c : Config) : Retention := ⟨c.persistSecs.toFloat, c.testPersistSecs.toFloat⟩

/-- What a sweep did.  The lists are in the order in which the entries were looked at. -/
structure SweepReport where
  evicted : List String := []
  retained : Nat := 0
  /-- Senders whose lock was held. -/
  skipped : List String := []
  /-- Senders whose record has no age, and why. -/
  failures : List (String × InvalidTimestamp) := []
  /-- The number of idle locks that were forgotten. -/
  prunedLocks : Nat := 0
  deriving Inhabited

/-- A report with the senders in order. -/
def SweepReport.toJson (r : SweepReport) : Json :=
  let sorted (senders : List String) : Json :=
    .array ((senders.mergeSort fun a b => decide (a ≤ b)).map .string)
  let failures := r.failures.mergeSort fun a b => decide (a.1 ≤ b.1)
  .object [("evicted", sorted r.evicted), ("retained", .nat r.retained),
    ("skipped", sorted r.skipped),
    ("failures", .array (failures.map fun f =>
      .object [("sender_id", .string f.1), ("error", .string f.2.message)])),
    ("pruned_locks", .nat r.prunedLocks)]

namespace Cache

def isStale (now persist latest : Float) : Bool := persist < now - latest

/-- Looks at one entry of a partition. -/
def sweepEntry (policy : Retention) (now : Float) (p : Partition)
    (state : Cache × SweepReport) (sender : String) : Cache × SweepReport :=
  let (c, report) := state
  -- A sender that is busy is not waited for.
  match c.tryLock sender with
  | (c, none) => (c, { report with skipped := report.skipped ++ [sender] })
  | (c, some id) =>
    match c.get? p sender with
    | none => (c.unlock id, report)
    | some r =>
      match r.freshness with
      | .ok (some latest) =>
        if isStale now (policy.of p) latest then
          ((c.evict p sender id).1, { report with evicted := report.evicted ++ [sender] })
        else (c.unlock id, { report with retained := report.retained + 1 })
      | .ok none => (c.unlock id, { report with retained := report.retained + 1 })
      | .error e =>
        (c.unlock id,
          { report with
            retained := report.retained + 1
            failures := report.failures ++ [(sender, e)] })

def sweepPartition (policy : Retention) (now : Float) (state : Cache × SweepReport)
    (p : Partition) : Cache × SweepReport :=
  (state.1.records p).keys.foldl (sweepEntry policy now p) state

def sweepAt (c : Cache) (policy : Retention) (now : Float) : Cache × SweepReport :=
  let (c, report) := [Partition.test, .normal].foldl (sweepPartition policy now) (c, {})
  let (c, prunedLocks) := c.prune
  (c, { report with prunedLocks })

end Cache

end DialogueStore
