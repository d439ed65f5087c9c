/-
Histories of an engine.

A claim about what a caller or the remote store has seen so far is about a run
from the empty engine on, and a `Moment` of it is an action with everything that
came before.  `Engine.after` is the state that a run leads to and `Engine.begun`
is the operation that a caller asked for under an id; the tasks under way are
the anonymized forms of such operations (`begun_of_task`).
-/
import Mathlib.Data.List.Induction
import DialogueStore.Proofs.Tasks

namespace DialogueStore

/-- An action, and all actions before it. -/
structure Moment where
  past : List Action
  action : Action

def momentsFrom (past : List Action) : List Action → List Moment
  | [] => []
  | a :: rest => ⟨past, a⟩ :: momentsFrom (past ++ [a]) rest

/-- The moments of a run, one for each action. -/
def moments (actions : List Action) : List Moment := momentsFrom [] actions

theorem momentsFrom_append (past l : List Action) (a : Action) :
    momentsFrom past (l ++ [a]) = momentsFrom past l ++ [⟨past ++ l, a⟩] := by
  induction l generalizing past with
  | nil => simp [momentsFrom]
  | cons b l ih => simp [momentsFrom, ih]

@[simp] theorem moments_append (l : List Action) (a : Action) :
    moments (l ++ [a]) = moments l ++ [⟨l, a⟩] :=
  momentsFrom_append [] l a

/-- A moment is a place in its run. -/
theorem exists_of_mem_moments {actions : List Action} {m : Moment} (h : m ∈ moments actions) :
    ∃ rest, actions = m.past ++ m.action :: rest := by
  induction actions using List.reverseRecOn with
  | nil => cases h
  | append_singleton l a ih =>
    rw [moments_append, List.mem_append, List.mem_singleton] at h
    rcases h with h | rfl
    · obtain ⟨rest, hrest⟩ := ih h
      refine ⟨rest ++ [a], ?_⟩
      rw [hrest, List.append_assoc, List.cons_append]
    · exact ⟨[], rfl⟩

/-- A moment with its action is a part of the run from its start on. -/
theorem prefix_of_mem_moments {actions : List Action} {m : Moment} (h : m ∈ moments actions) :
    m.past ++ [m.action] <+: actions := by
  obtain ⟨rest, hrest⟩ := exists_of_mem_moments h
  refine ⟨rest, ?_⟩
  rw [hrest, List.append_assoc]
  rfl

theorem length_past_lt {actions : List Action} {m : Moment} (h : m ∈ moments actions) :
    m.past.length < actions.length := by
  have hle := (prefix_of_mem_moments h).length_le
  rw [List.length_append, List.length_singleton] at hle
  exact hle

/-- The moments before a moment are those of its past. -/
theorem pairwise_moments (actions : List Action) :
    (moments actions).Pairwise fun m m' => m ∈ moments m'.past := by
  induction actions using List.reverseRecOn with
  | nil => exact .nil
  | append_singleton l a ih =>
    rw [moments_append, List.pairwise_append]
    refine ⟨ih, List.pairwise_singleton _ _, fun m hm m' hm' => ?_⟩
    rw [List.mem_singleton] at hm'
    rw [hm']
    exact hm

theorem mem_of_mem_moments {actions : List Action} {m : Moment} (h : m ∈ moments actions) :
    m.action ∈ actions := by
  obtain ⟨rest, hrest⟩ := exists_of_mem_moments h
  rw [hrest]
  exact List.mem_append_right _ List.mem_cons_self

namespace Engine

variable (e : Engine)

/-- The state after a run. -/
def after (actions : List Action) : EngineState := (e.run {} actions).1

theorem run_append (s : EngineState) (l : List Action) (a : Action) :
    e.run s (l ++ [a]) =
      ((e.step (e.run s l).1 a).1, (e.run s l).2 ++ (e.step (e.run s l).1 a).2) := by
  induction l generalizing s with
  | nil => simp [run]
  | cons b l ih => simp [run, ih]

@[simp] theorem after_append (l : List Action) (a : Action) :
    e.after (l ++ [a]) = (e.step (e.after l) a).1 := by
  rw [after, run_append, after]

theorem sound_after (actions : List Action) : (e.after actions).Sound e := by
  induction actions using List.reverseRecOn with
  | nil => exact EngineState.sound_empty
  | append_singleton l a ih =>
    rw [after_append]
    exact ih.step a

/-- The task that moves at a moment. -/
def actor? (m : Moment) : Option Task := (e.after m.past).actor? m.action

/-- What others see at a moment. -/
def effects (m : Moment) : List Effect := (e.step (e.after m.past) m.action).2

theorem run_effects (actions : List Action) :
    (e.run {} actions).2 = (moments actions).flatMap e.effects := by
  induction actions using List.reverseRecOn with
  | nil => rfl
  | append_singleton l a ih => simp [run_append, ih, effects, after]

/-- Takes note of a task that begins. -/
def noteBegun (id : Nat) (op? : Option Operation) (m : Moment) : Option Operation :=
  match m.action with
  | .begin i op => if i = id ∧ (e.after m.past).task? i = none then some op else op?
  | _ => op?

/-- What the latest task of an id was begun with. -/
def begun (actions : List Action) (id : Nat) : Option Operation :=
  (moments actions).foldl (e.noteBegun id) none

theorem begun_append (l : List Action) (a : Action) (id : Nat) :
    e.begun (l ++ [a]) id = e.noteBegun id (e.begun l id) ⟨l, a⟩ := by
  simp [begun]

theorem mem_of_begun {actions : List Action} {id : Nat} {op : Operation}
    (h : e.begun actions id = some op) : .begin id op ∈ actions := by
  induction actions using List.reverseRecOn with
  | nil => cases h
  | append_singleton l a ih =>
    rw [begun_append, noteBegun] at h
    rw [List.mem_append, List.mem_singleton]
    split at h
    · rename_i i op' ha
      dsimp only at ha
      split at h
      · rename_i hi
        cases h
        exact .inr (by rw [← hi.1, ha])
      · exact .inl (ih h)
    · exact .inl (ih h)

/-- A task under way is an operation that was begun, anonymized. -/
theorem begun_of_task (actions : List Action) {t : Task} (ht : t ∈ (e.after actions).tasks) :
    ∃ op, e.begun actions t.id = some op ∧ op.anonymize e.anonymize = t.operation := by
  induction actions using List.reverseRecOn generalizing t with
  | nil => cases ht
  | append_singleton l a ih =>
    rw [begun_append]
    rw [after_append] at ht
    have h := Engine.transition (e := e) (e.after l) a
    generalize (e.step (e.after l) a).1 = s', (e.step (e.after l) a).2 = effects at h ht
    cases h with
    | ignored _ hbegin =>
      have hsame : e.noteBegun t.id (e.begun l t.id) ⟨l, a⟩ = e.begun l t.id := by
        cases a with
        | begin i op => exact if_neg fun h => hbegin rfl h.2
        | enter _ | reply _ _ | cancel _ | sweep _ => rfl
      rw [hsame]
      exact ih ht
    | @queued id op _ hid htasks =>
      rw [htasks, List.mem_append, List.mem_singleton] at ht
      rcases ht with ht | rfl
      · -- An id that is in use cannot begin again.
        have hne : id ≠ t.id := by
          rintro rfl
          rw [(e.sound_after l).task?_eq_some.2 ⟨ht, rfl⟩] at hid
          cases hid
        have hsame : e.noteBegun t.id (e.begun l t.id) ⟨l, .begin id op⟩ = e.begun l t.id :=
          if_neg fun h => hne h.1
        rw [hsame]
        exact ih ht
      · exact ⟨op, if_pos ⟨rfl, hid⟩, rfl⟩
    | called =>
      -- The stage changes, but not the operation.
      obtain ⟨u, hu, rfl⟩ := EngineState.mem_setStage.1 ht
      obtain ⟨op, hop⟩ := ih hu
      exact ⟨op, hop⟩
    | left hactor _ hleft =>
      -- The others have not begun with this step.
      rw [hleft.tasks] at ht
      have hsame : e.noteBegun t.id (e.begun l t.id) ⟨l, a⟩ = e.begun l t.id := by
        cases a with
        | begin i op => cases hactor
        | enter _ | reply _ _ | cancel _ | sweep _ => rfl
      rw [hsame]
      exact ih (List.mem_filter.1 ht).1
    | swept now => exact ih ht

/-- A task that saves was begun with a record, of which it stores the anonymized form. -/
theorem begun_of_save {actions : List Action} {t : Task} {r : Record}
    (ht : t ∈ (e.after actions).tasks) (hop : t.operation = .save r) :
    ∃ original, e.begun actions t.id = some (.save original) ∧
      original.anonymize e.anonymize = r := by
  obtain ⟨op, hbegun, hanon⟩ := e.begun_of_task actions ht
  rw [hop] at hanon
  cases op with
  | retrieve sender => cases hanon
  | save original => exact ⟨original, hbegun, Operation.save.inj hanon⟩

end Engine

end DialogueStore
