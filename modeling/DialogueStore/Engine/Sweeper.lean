/-
The sweep loop that an engine keeps in the background.

A loop that is started shares the cache with all else that goes on.  It runs
until it is stopped, and what has been stopped does not start again.  Where no
loop can start, the cache stays as it would be without one.
-/
import DialogueStore.Cache.SweepLoop
import DialogueStore.Engine.Basic

namespace DialogueStore

/-- A cache, and the loop that sweeps it in the background if there is one. -/
inductive Background
  | running (l : SweepLoop)
  /-- The loop was stopped, or it could not start. -/
  | idle (c : Cache)

namespace Background

inductive Step
  /-- So many milliseconds pass, and the wall clock shows a time at each sweep. -/
  | pass (clock : Float) (ms : Nat)
  /-- Somebody else does something with the cache. -/
  | change (f : Cache → Cache)
  | stop

def cache : Background → Cache
  | .running l => l.cache
  | .idle c => c

def isRunning : Background → Bool
  | .running _ => true
  | .idle _ => false

def step : Background → Step → Background
  | .running l, .pass clock ms => .running (l.wait clock ms)
  | .running l, .change f => .running { l with cache := f l.cache }
  | .running l, .stop => .idle l.cache
  | .idle c, .change f => .idle (f c)
  | .idle c, _ => .idle c

def run (b : Background) (steps : List Step) : Background := steps.foldl step b

end Background

namespace Engine

/-- Milliseconds from one sweep to the next. -/
def sweepInterval (e : Engine) : Nat := e.config.sweepIntervalSecs.toNat * 1000

/-- Lets a loop sweep a cache in the background, as the configuration says.  The time is that of the
start, in seconds from the origin of moments. -/
def startSweeper (e : Engine) (c : Cache) (uptimeSecs : Nat) : Background :=
  match SweepLoop.start? c e.config.retention uptimeSecs e.config.sweepIntervalSecs with
  | some l => .running l
  | none => .idle c

end Engine

end DialogueStore
