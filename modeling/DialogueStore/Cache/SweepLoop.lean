/-
The sweep loop: a sweep after each interval, until the loop is stopped.

Time is counted in milliseconds since the loop was started.  The moment of the
first sweep has to be a moment at all: moments are whole seconds of 64 bits with
sign and a fraction, so that an interval can be too long for a loop to start.
-/
import DialogueStore.Cache.Sweep

namespace DialogueStore

/-- A running sweep loop and the cache it sweeps. -/
structure SweepLoop where
  cache : Cache
  policy : Retention
  /-- Milliseconds from one sweep to the next. -/
  interval : Nat
  now : Nat := 0
  next : Nat
  deriving Inhabited

namespace SweepLoop

/-- Seconds of the latest moment. -/
def lastSecond : Nat := 0x7fffffffffffffff

/-- Whether a loop that is started so many seconds after the origin of moments reaches its first
sweep.  The interval must not be zero either. -/
def canStart (uptimeSecs : Nat) (intervalSecs : UInt64) : Bool :=
  intervalSecs ≠ 0 && uptimeSecs + intervalSecs.toNat ≤ lastSecond

/-- Starts a loop; the first sweep comes after one interval.  None if there is no such moment. -/
def start? (cache : Cache) (policy : Retention) (uptimeSecs : Nat) (intervalSecs : UInt64) :
    Option SweepLoop :=
  if canStart uptimeSecs intervalSecs then
    let interval := intervalSecs.toNat * 1000
    some { cache, policy, interval, next := interval }
  else none

/-- Lets the loop sweep at all its moments before a time, `clock` being the wall clock. -/
def sweepUntil (clock : Float) (time : Nat) : (fuel : Nat) → SweepLoop → SweepLoop
  | 0, l => l
  | fuel + 1, l =>
    if l.next < time then
      sweepUntil clock time fuel
        { l with cache := (l.cache.sweepAt l.policy clock).1, next := l.next + l.interval }
    else l

/-- Lets so many milliseconds pass. -/
def wait (l : SweepLoop) (clock : Float) (ms : Nat) : SweepLoop :=
  let time := l.now + ms
  { sweepUntil clock time ((time - l.next) / l.interval + 1) l with now := time }

end SweepLoop

end DialogueStore
