/-
When the sweep loop sweeps.

A loop that has started sweeps at each multiple of its interval and at no other
time, until it is stopped, whatever others do with the cache in between
(`Background.KeepsSweeping`).  But it starts only if the moment of its first sweep is
a moment: an interval may have all of 64 bits, and the seconds of a moment have 64
bits with sign.  A valid configuration has an interval above zero, and that is all
that is asked of it; if the interval is too long, nothing is ever swept.

* `SweepLoop.due_zero` — the times of the sweeps are the multiples of the interval,
* `SweepLoop.OnTime.wait_eq` — in a stretch of time, what is due in it is swept,
* `Background.keepsSweeping_running` — so it is in every run of a loop that has started,
* `Engine.keepsSweeping_iff` — with a valid configuration the loop keeps sweeping just if
  its first sweep comes at a moment,
* `Engine.never_swept_overlong` — a valid configuration with which nothing is swept.
-/
import Mathlib.Data.List.Sort
import Mathlib.Order.Bounds.Basic
import DialogueStore.Engine.Sweeper
import DialogueStore.Proofs.Delivery

namespace DialogueStore

namespace SweepLoop

/-! ### The times of the sweeps -/

/-- The times from `start` on at which a loop of this interval has to sweep. -/
def dueFrom (interval start : Nat) : Set Nat := {time | start ≤ time ∧ 0 < time ∧ interval ∣ time}

/-- Those of them before `stop`, in their order. -/
def due (interval start stop : Nat) : List Nat :=
  (List.range' start (stop - start)).filter fun time => 0 < time ∧ interval ∣ time

variable {interval start middle stop next time : Nat}

theorem mem_due : time ∈ due interval start stop ↔ time ∈ dueFrom interval start ∧ time < stop := by
  simp only [due, dueFrom, List.mem_filter, List.mem_range'_1, Set.mem_ofPred_eq,
    decide_eq_true_eq]
  constructor
  · rintro ⟨⟨hstart, hstop⟩, hdue⟩
    exact ⟨⟨hstart, hdue⟩, by omega⟩
  · rintro ⟨⟨hstart, hdue⟩, hstop⟩
    exact ⟨⟨hstart, by omega⟩, hdue⟩

theorem due_self : due interval start start = [] := by
  rw [due, Nat.sub_self]
  rfl

theorem due_append (hstart : start ≤ middle) (hstop : middle ≤ stop) :
    due interval start middle ++ due interval middle stop = due interval start stop := by
  have hlength : stop - start = (middle - start) + (stop - middle) := by omega
  have hmiddle : middle = start + 1 * (middle - start) := by omega
  rw [due, due, due, ← List.filter_append, hlength, ← List.range'_append, ← hmiddle]

/-- Nothing is due before the first time that is. -/
theorem due_eq_nil (hnext : IsLeast (dueFrom interval start) next) (hstop : stop ≤ next) :
    due interval start stop = [] := by
  rw [List.eq_nil_iff_forall_not_mem]
  intro time htime
  obtain ⟨hdue, hlt⟩ := mem_due.1 htime
  have hle : next ≤ time := hnext.2 hdue
  omega

theorem due_eq_cons (hnext : IsLeast (dueFrom interval start) next) (hstop : next < stop) :
    due interval start stop = next :: due interval (next + 1) stop := by
  have hself : due interval next (next + 1) = [next] := by
    rw [due, Nat.add_sub_cancel_left, List.range'_one]
    exact List.filter_eq_self.2 fun time htime => by
      rw [List.mem_singleton.1 htime]
      exact decide_eq_true hnext.1.2
  rw [← due_append hnext.1.1 hstop.le, ← due_append (Nat.le_succ next) hstop,
    due_eq_nil hnext le_rfl, hself, List.nil_append, List.singleton_append]

/-- After one sweep the next one is an interval later. -/
theorem isLeast_dueFrom_succ (hpos : 0 < interval)
    (hnext : IsLeast (dueFrom interval start) next) :
    IsLeast (dueFrom interval (next + 1)) (next + interval) := by
  obtain ⟨-, hnext_pos, hdvd⟩ := hnext.1
  refine ⟨⟨by omega, by omega, Nat.dvd_add_self_right.2 hdvd⟩, ?_⟩
  rintro time ⟨hlater, -, hdvd_time⟩
  have hgap : interval ≤ time - next :=
    Nat.le_of_dvd (by omega) (Nat.dvd_sub hdvd_time hdvd)
  omega

/-- The first time that is due stays so until it has come. -/
theorem isLeast_dueFrom_mono (hnext : IsLeast (dueFrom interval start) next)
    (hstart : start ≤ stop) (hstop : stop ≤ next) : IsLeast (dueFrom interval stop) next := by
  refine ⟨⟨hstop, hnext.1.2⟩, ?_⟩
  rintro time ⟨hlater, hdue⟩
  exact hnext.2 ⟨hstart.trans hlater, hdue⟩

theorem isLeast_dueFrom_zero (hpos : 0 < interval) : IsLeast (dueFrom interval 0) interval := by
  refine ⟨⟨Nat.zero_le _, hpos, Nat.dvd_refl _⟩, ?_⟩
  rintro time ⟨-, htime, hdvd⟩
  exact Nat.le_of_dvd htime hdvd

/-- A sweep is never more than one interval ahead. -/
theorem le_add_of_isLeast (hpos : 0 < interval) (hnext : IsLeast (dueFrom interval start) next) :
    next ≤ start + interval := by
  -- The first multiple after `start` is due, and it is no further away than that.
  have hfloor : interval * (start / interval) ≤ start := Nat.mul_div_le start interval
  have hceil : start < interval * (start / interval + 1) := Nat.lt_mul_div_succ start hpos
  have hdue : interval * (start / interval + 1) ∈ dueFrom interval start :=
    ⟨hceil.le, by omega, Nat.dvd_mul_right _ _⟩
  have hle : next ≤ interval * (start / interval + 1) := hnext.2 hdue
  rw [Nat.mul_add, Nat.mul_one] at hle
  omega

/-- **The times of the sweeps are the multiples of the interval**, each of them once. -/
theorem due_zero (hpos : 0 < interval) (stop : Nat) :
    due interval 0 stop =
      (List.range ((stop - 1) / interval)).map fun k => (k + 1) * interval := by
  -- Both sides are in order, so that it is enough to compare what they hold.
  have hordered : (due interval 0 stop).Pairwise (· < ·) :=
    (List.pairwise_lt_range' 1).filter _
  have hmultiples : ((List.range ((stop - 1) / interval)).map
      fun k => (k + 1) * interval).Pairwise (· < ·) := by
    rw [List.pairwise_map]
    refine List.pairwise_lt_range.imp ?_
    intro k k' hlt
    exact Nat.mul_lt_mul_of_pos_right (Nat.succ_lt_succ hlt) hpos
  refine hordered.eq_of_mem_iff hmultiples ?_
  intro time
  rw [mem_due, List.mem_map]
  constructor
  · rintro ⟨⟨-, htime, k, rfl⟩, hlt⟩
    obtain ⟨k, rfl⟩ : ∃ k', k = k' + 1 :=
      Nat.exists_eq_add_one.2 (Nat.pos_of_mul_pos_left htime)
    refine ⟨k, ?_, Nat.mul_comm _ _⟩
    rw [List.mem_range, ← Nat.add_one_le_iff, Nat.le_div_iff_mul_le hpos, Nat.mul_comm]
    omega
  · rintro ⟨k, hk, rfl⟩
    rw [List.mem_range, ← Nat.add_one_le_iff, Nat.le_div_iff_mul_le hpos] at hk
    have hmul : 0 < (k + 1) * interval := Nat.mul_pos k.succ_pos hpos
    exact ⟨⟨Nat.zero_le _, hmul, Nat.dvd_mul_left _ _⟩, by omega⟩

/-! ### One stretch of time -/

/-- What happens to a cache in the course of time. -/
inductive Happening
  /-- It is swept, when the wall clock shows a time. -/
  | swept (time : Nat) (clock : Float)
  | changed (f : Cache → Cache)

/-- The cache afterwards. -/
def Happening.apply (policy : Retention) (c : Cache) : Happening → Cache
  | .swept _ clock => (c.sweepAt policy clock).1
  | .changed f => f c

/-- When a cache was swept. -/
def Happening.time? : Happening → Option Nat
  | .swept time _ => some time
  | .changed _ => none

/-- The sweeps that are due in a stretch of time. -/
def sweeps (interval start stop : Nat) (clock : Float) : List Happening :=
  (due interval start stop).map fun time => .swept time clock

/-- The next sweep of a loop is the first one that is still due. -/
structure OnTime (l : SweepLoop) : Prop where
  pos : 0 < l.interval
  first : IsLeast (dueFrom l.interval l.now) l.next

variable {l : SweepLoop}

/-- With enough fuel a loop makes all sweeps that are due before a time. -/
theorem exists_sweepUntil (clock : Float) (fuel : Nat) (hpos : 0 < l.interval)
    (hnext : IsLeast (dueFrom l.interval start) l.next) (hstart : start ≤ time)
    (hfuel : time ≤ l.next + fuel * l.interval) :
    ∃ next, IsLeast (dueFrom l.interval time) next ∧
      sweepUntil clock time fuel l =
        { l with
          cache := (sweeps l.interval start time clock).foldl (Happening.apply l.policy) l.cache
          next } := by
  induction fuel generalizing l start with
  | zero =>
    -- Without fuel nothing may be due, which the bound on the fuel says.
    have hle : time ≤ l.next := by omega
    refine ⟨l.next, isLeast_dueFrom_mono hnext hstart hle, ?_⟩
    rw [sweeps, due_eq_nil hnext hle]
    rfl
  | succ fuel ih =>
    rw [sweepUntil]
    split
    · -- One sweep; the induction goes on after it.
      rename_i hlt
      have hfirst : IsLeast (dueFrom l.interval (l.next + 1)) (l.next + l.interval) :=
        isLeast_dueFrom_succ hpos hnext
      have hrest : time ≤ l.next + l.interval + fuel * l.interval := by
        rw [Nat.succ_mul] at hfuel
        omega
      obtain ⟨next, hleast, hrun⟩ := ih (l := { l with
        cache := (l.cache.sweepAt l.policy clock).1, next := l.next + l.interval })
        hpos hfirst hlt hrest
      refine ⟨next, hleast, ?_⟩
      rw [hrun, sweeps, sweeps, due_eq_cons hnext hlt]
      rfl
    · rename_i hle
      have hle : time ≤ l.next := Nat.le_of_not_lt hle
      refine ⟨l.next, isLeast_dueFrom_mono hnext hstart hle, ?_⟩
      rw [sweeps, due_eq_nil hnext hle]
      rfl

/-- **In a stretch of time, what is due in it is swept.** -/
theorem OnTime.wait_eq (h : l.OnTime) (clock : Float) (ms : Nat) :
    ∃ next, IsLeast (dueFrom l.interval (l.now + ms)) next ∧
      l.wait clock ms =
        { l with
          cache := (sweeps l.interval l.now (l.now + ms) clock).foldl
            (Happening.apply l.policy) l.cache
          now := l.now + ms
          next } := by
  -- The fuel is one more than the whole intervals that are left.
  have hfuel : l.now + ms ≤ l.next + ((l.now + ms - l.next) / l.interval + 1) * l.interval := by
    have hlt : l.now + ms - l.next < l.interval * ((l.now + ms - l.next) / l.interval + 1) :=
      Nat.lt_mul_div_succ _ h.pos
    rw [Nat.mul_comm] at hlt
    omega
  obtain ⟨next, hleast, hsweeps⟩ :=
    exists_sweepUntil clock _ h.pos h.first (Nat.le_add_right _ _) hfuel
  refine ⟨next, hleast, ?_⟩
  rw [wait, hsweeps]

theorem OnTime.wait (h : l.OnTime) (clock : Float) (ms : Nat) : (l.wait clock ms).OnTime := by
  obtain ⟨next, hleast, hwait⟩ := h.wait_eq clock ms
  rw [hwait]
  exact ⟨h.pos, hleast⟩

theorem OnTime.interval_wait (h : l.OnTime) (clock : Float) (ms : Nat) :
    (l.wait clock ms).interval = l.interval := by
  obtain ⟨next, -, hwait⟩ := h.wait_eq clock ms
  rw [hwait]

/-! ### The start -/

variable {cache : Cache} {policy : Retention} {uptimeSecs : Nat} {intervalSecs : UInt64}

theorem start?_eq_none (h : lastSecond < uptimeSecs + intervalSecs.toNat) :
    start? cache policy uptimeSecs intervalSecs = none := by
  have hcannot : ¬ canStart uptimeSecs intervalSecs = true := by
    simp only [canStart, Bool.and_eq_true, decide_eq_true_eq, not_and]
    omega
  rw [start?, if_neg hcannot]

theorem start?_eq_some (hpos : intervalSecs ≠ 0)
    (h : uptimeSecs + intervalSecs.toNat ≤ lastSecond) :
    start? cache policy uptimeSecs intervalSecs =
      some { cache, policy, interval := intervalSecs.toNat * 1000,
             next := intervalSecs.toNat * 1000 } := by
  have hcan : canStart uptimeSecs intervalSecs = true := by
    simp only [canStart, Bool.and_eq_true, decide_eq_true_eq]
    exact ⟨hpos, h⟩
  rw [start?, if_pos hcan]

end SweepLoop

/-! ### Whole runs -/

namespace Background

/-- What others do with the cache. -/
def Step.happening? : Step → Option SweepLoop.Happening
  | .change f => some (.changed f)
  | _ => none

/-- What happens to the cache if there is no loop. -/
def unswept (steps : List Step) : List SweepLoop.Happening := steps.filterMap Step.happening?

/-- What is to happen to the cache from a time on: it is swept at each multiple of the interval, until
the loop is stopped. -/
def swept (interval : Nat) : (now : Nat) → List Step → List SweepLoop.Happening
  | _, [] => []
  | now, .pass clock ms :: steps =>
    SweepLoop.sweeps interval now (now + ms) clock ++ swept interval (now + ms) steps
  | now, .change f :: steps => .changed f :: swept interval now steps
  | _, .stop :: steps => unswept steps

/-- The milliseconds that pass until the loop is stopped. -/
def runtime : List Step → Nat
  | [] => 0
  | .pass _ ms :: steps => ms + runtime steps
  | .change _ :: steps => runtime steps
  | .stop :: _ => 0

/-- A loop that is there until it is stopped and sweeps whenever it has to.  It never looks further
ahead than one interval, so that it lacks no moment until the last one is as near as that. -/
structure KeepsSweeping (b : Background) (policy : Retention) (interval : Nat) : Prop where
  isRunning_iff : ∀ steps, (b.run steps).isRunning = true ↔ Step.stop ∉ steps
  cache_eq : ∀ steps, (b.run steps).cache =
    (swept interval 0 steps).foldl (SweepLoop.Happening.apply policy) b.cache
  next_le : ∀ steps l, b.run steps = .running l → l.next ≤ l.now + interval

variable {l l' : SweepLoop} {steps : List Step}

theorem run_cons (b : Background) (s : Step) (steps : List Step) :
    b.run (s :: steps) = (b.step s).run steps :=
  rfl

/-- Without a loop nothing is swept. -/
theorem run_idle (c : Cache) (policy : Retention) (steps : List Step) :
    (idle c).run steps =
      .idle ((unswept steps).foldl (SweepLoop.Happening.apply policy) c) := by
  induction steps generalizing c with
  | nil => rfl
  | cons s steps ih =>
    cases s with
    | pass clock ms => exact ih c
    | change f => exact ih (f c)
    | stop => exact ih c

/-- What a step leaves of a loop on time. -/
theorem onTime_step (h : l.OnTime) {s : Step} (hstep : (running l).step s = .running l') :
    l'.OnTime ∧ l'.interval = l.interval := by
  cases s with
  | pass clock ms =>
    obtain rfl : l.wait clock ms = l' := running.inj hstep
    exact ⟨h.wait clock ms, h.interval_wait clock ms⟩
  | change f =>
    obtain rfl := running.inj hstep
    exact ⟨⟨h.pos, h.first⟩, rfl⟩
  | stop => cases hstep

theorem onTime_run (h : l.OnTime) (hrun : (running l).run steps = .running l') :
    l'.OnTime ∧ l'.interval = l.interval := by
  induction steps generalizing l with
  | nil =>
    obtain rfl := running.inj hrun
    exact ⟨h, rfl⟩
  | cons s steps ih =>
    rw [run_cons] at hrun
    cases hstep : (running l).step s with
    | running next =>
      obtain ⟨honTime, hinterval⟩ := onTime_step h hstep
      rw [hstep] at hrun
      rw [← hinterval]
      exact ih honTime hrun
    | idle c =>
      -- Once stopped it stays so, and here it is still running at the end.
      rw [hstep, run_idle c l.policy] at hrun
      cases hrun

theorem isRunning_run (l : SweepLoop) (steps : List Step) :
    ((running l).run steps).isRunning = true ↔ Step.stop ∉ steps := by
  induction steps generalizing l with
  | nil => simp [run, isRunning]
  | cons s steps ih =>
    cases s with
    | pass clock ms =>
      rw [run_cons, step, ih]
      simp
    | change f =>
      rw [run_cons, step, ih]
      simp
    | stop =>
      rw [run_cons, step, run_idle l.cache l.policy]
      simp [isRunning]

/-- What a whole run of a loop on time makes of its cache. -/
theorem cache_run (h : l.OnTime) (steps : List Step) :
    ((running l).run steps).cache =
      (swept l.interval l.now steps).foldl (SweepLoop.Happening.apply l.policy) l.cache := by
  induction steps generalizing l with
  | nil => rfl
  | cons s steps ih =>
    cases s with
    | pass clock ms =>
      -- The sweeps of this stretch come first, and what follows begins where it ends.
      obtain ⟨next, -, hwait⟩ := h.wait_eq clock ms
      rw [run_cons, step, ih (h.wait clock ms), hwait, swept, List.foldl_append]
    | change f =>
      have hchanged : SweepLoop.OnTime { l with cache := f l.cache } := ⟨h.pos, h.first⟩
      exact ih hchanged
    | stop =>
      rw [run_cons, step, run_idle l.cache l.policy]
      rfl

/-- **A loop that has started keeps sweeping.** -/
theorem keepsSweeping_running (h : l.OnTime) (hnow : l.now = 0) :
    (running l).KeepsSweeping l.policy l.interval where
  isRunning_iff := isRunning_run l
  cache_eq := by
    intro steps
    rw [cache_run h, hnow]
    rfl
  next_le := by
    intro steps l' hrun
    obtain ⟨honTime, hinterval⟩ := onTime_run h hrun
    have hle := SweepLoop.le_add_of_isLeast honTime.pos honTime.first
    rwa [hinterval] at hle

/-- No cache keeps being swept without a loop. -/
theorem not_keepsSweeping_idle (c : Cache) (policy : Retention) (interval : Nat) :
    ¬ (idle c).KeepsSweeping policy interval := by
  intro h
  have hrunning : (idle c).isRunning = true := (h.isRunning_iff []).2 List.not_mem_nil
  cases hrunning

theorem filterMap_time?_unswept (steps : List Step) :
    (unswept steps).filterMap SweepLoop.Happening.time? = [] := by
  rw [unswept, List.filterMap_filterMap, List.filterMap_eq_nil_iff]
  intro s _
  cases s <;> rfl

/-- The times of the sweeps in a run. -/
theorem filterMap_time?_swept (interval now : Nat) (steps : List Step) :
    (swept interval now steps).filterMap SweepLoop.Happening.time? =
      SweepLoop.due interval now (now + runtime steps) := by
  induction steps generalizing now with
  | nil => exact SweepLoop.due_self.symm
  | cons s steps ih =>
    cases s with
    | pass clock ms =>
      have hsweeps : (SweepLoop.sweeps interval now (now + ms) clock).filterMap
          SweepLoop.Happening.time? = SweepLoop.due interval now (now + ms) := by
        rw [SweepLoop.sweeps, List.filterMap_map]
        exact List.filterMap_some
      rw [swept, List.filterMap_append, hsweeps, ih, runtime, ← Nat.add_assoc]
      -- Two stretches of time that follow one another.
      exact SweepLoop.due_append (Nat.le_add_right _ _) (Nat.le_add_right _ _)
    | change f => exact ih now
    | stop => exact (filterMap_time?_unswept steps).trans SweepLoop.due_self.symm

end Background

/-- A valid configuration has an interval above zero. -/
theorem Config.sweepIntervalSecs_ne_zero {config : Config} (h : config.validate = .ok ()) :
    config.sweepIntervalSecs ≠ 0 := by
  intro hzero
  rw [validate, if_pos hzero] at h
  split at h
  · cases h
  · cases h

namespace Engine

variable {e : Engine} {c : Cache} {uptimeSecs : Nat}

theorem sweepInterval_pos (hvalid : e.config.validate = .ok ()) : 0 < e.sweepInterval := by
  have hne : e.config.sweepIntervalSecs.toNat ≠ 0 := by
    intro hzero
    exact Config.sweepIntervalSecs_ne_zero hvalid (UInt64.toNat_inj.1 hzero)
  show 0 < e.config.sweepIntervalSecs.toNat * 1000
  omega

/-- If the first sweep would come after the last moment, there is no loop. -/
theorem startSweeper_of_lt
    (h : SweepLoop.lastSecond < uptimeSecs + e.config.sweepIntervalSecs.toNat) :
    e.startSweeper c uptimeSecs = .idle c := by
  rw [startSweeper, SweepLoop.start?_eq_none h]

theorem keepsSweeping_startSweeper (hvalid : e.config.validate = .ok ())
    (h : uptimeSecs + e.config.sweepIntervalSecs.toNat ≤ SweepLoop.lastSecond) :
    (e.startSweeper c uptimeSecs).KeepsSweeping e.config.retention e.sweepInterval := by
  have hpos : 0 < e.sweepInterval := sweepInterval_pos hvalid
  rw [startSweeper, SweepLoop.start?_eq_some (Config.sweepIntervalSecs_ne_zero hvalid) h]
  exact Background.keepsSweeping_running ⟨hpos, SweepLoop.isLeast_dueFrom_zero hpos⟩ rfl

/-- **With a valid configuration the loop keeps sweeping just if its first sweep comes at a moment.**
Then it sweeps at each multiple of the interval; otherwise the cache is never swept. -/
theorem keepsSweeping_iff (hvalid : e.config.validate = .ok ()) (c : Cache) (uptimeSecs : Nat) :
    0 < e.sweepInterval ∧
    ((e.startSweeper c uptimeSecs).KeepsSweeping e.config.retention e.sweepInterval ↔
      uptimeSecs + e.config.sweepIntervalSecs.toNat ≤ SweepLoop.lastSecond) ∧
    (∀ steps, (Background.swept e.sweepInterval 0 steps).filterMap SweepLoop.Happening.time? =
      (List.range ((Background.runtime steps - 1) / e.sweepInterval)).map
        fun k => (k + 1) * e.sweepInterval) ∧
    (SweepLoop.lastSecond < uptimeSecs + e.config.sweepIntervalSecs.toNat →
      ∀ steps, (e.startSweeper c uptimeSecs).run steps =
        .idle ((Background.unswept steps).foldl
          (SweepLoop.Happening.apply e.config.retention) c)) := by
  have hpos : 0 < e.sweepInterval := sweepInterval_pos hvalid
  refine ⟨hpos, ⟨?_, keepsSweeping_startSweeper hvalid⟩, ?_, ?_⟩
  · -- A task that was not started does not keep sweeping.
    intro hkeeps
    by_contra hlong
    rw [startSweeper_of_lt (Nat.lt_of_not_le hlong)] at hkeeps
    exact Background.not_keepsSweeping_idle _ _ _ hkeeps
  · intro steps
    rw [Background.filterMap_time?_swept, Nat.zero_add, SweepLoop.due_zero hpos]
  · intro hlong steps
    rw [startSweeper_of_lt hlong, Background.run_idle _ e.config.retention]

/-! ### An interval of half a minute and one that is too long -/

/-- A cache with a conversation that has been quiet for long. -/
def quietCache : Cache := ({} : Cache).put .normal "ann" (conversation [1])

/-- With the default configuration there is a sweep every half minute, until the loop is stopped; the
first one takes the conversation away. -/
theorem keepsSweeping_everyHalfMinute :
    let background := plainEngine.startSweeper quietCache 1000
    plainEngine.config.validate = .ok () ∧
      background.KeepsSweeping plainEngine.config.retention 30000 ∧
      (Background.swept 30000 0 [.pass 10000 50000, .pass 10000 50000, .stop,
        .pass 10000 50000]).filterMap SweepLoop.Happening.time? = [30000, 60000, 90000] ∧
      (background.run [.pass 10000 30000]).cache.contains .normal "ann" = true ∧
      (background.run [.pass 10000 30001]).cache.contains .normal "ann" = false := by
  have hvalid : plainEngine.config.validate = .ok () := by decide
  obtain ⟨-, hiff, htimes, -⟩ := keepsSweeping_iff hvalid quietCache 1000
  exact ⟨hvalid, hiff.2 (by decide), (htimes _).trans (by decide), by decide, by decide⟩

/-- **A valid configuration with which nothing is ever swept.**  The interval is the longest one that
the seconds of a moment can tell, and the loop is not started at the origin of moments. -/
theorem never_swept_overlong :
    let e : Engine := { plainEngine with config := { sweepIntervalSecs := 0x7fffffffffffffff } }
    e.config.validate = .ok () ∧
      ∀ uptimeSecs, 0 < uptimeSecs →
        ¬ (e.startSweeper quietCache uptimeSecs).KeepsSweeping e.config.retention
            e.sweepInterval ∧
          ∀ clock ms, ((e.startSweeper quietCache uptimeSecs).run
            [.pass clock ms]).cache.contains .normal "ann" = true := by
  intro e
  refine ⟨by decide, ?_⟩
  intro uptimeSecs hpos
  have hlong : SweepLoop.lastSecond < uptimeSecs + e.config.sweepIntervalSecs.toNat := by
    -- One second of uptime is enough to pass the last second the clock can tell.
    show 0x7fffffffffffffff < uptimeSecs + 0x7fffffffffffffff
    omega
  rw [startSweeper_of_lt hlong]
  refine ⟨Background.not_keepsSweeping_idle _ _ _, ?_⟩
  intro clock ms
  show quietCache.contains .normal "ann" = true
  decide

end Engine

end DialogueStore
