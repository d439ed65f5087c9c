/-
JSON text as it was read, before it is decided what it means.

A `Source` keeps what a value alone would lose: the members of an object in
their order, with repeated keys, and the places at which the text has a flaw.
Decoding walks it from left to right, so of two faults in one text the first
one counts, and a part that nobody asks for is only looked at for its grammar.
Main statement: a value in normal form, which is what reading gives, is read back from
its own source (`toJson_ofJson`, `normal_of_toJson`).
-/
import DialogueStore.Json.Basic

namespace DialogueStore

namespace Json

/-- Why a place of a text cannot be read. -/
inductive Flaw
  /-- The text breaks the grammar here, and nothing after this place was read. -/
  | malformed
  /-- The grammar holds, but there is no value: a number beyond the doubles, an escape that is no
  character, or nesting that is too deep. -/
  | unreadable
  /-- A member whose key is unreadable. -/
  | unreadableKey
  deriving DecidableEq, Repr

/-- A JSON text as a tree, flaws included. -/
inductive Source
  | null
  | bool (b : Bool)
  | number (n : Number)
  | string (s : String)
  | array (items : List Source)
  | object (members : List (String × Source))
  | flaw (f : Flaw)
  deriving Inhabited

/-- Why decoding fails: the text is no JSON, or its value has the wrong shape. -/
inductive Fault
  | malformed
  | mismatch
  deriving DecidableEq, Repr

namespace Source

mutual

/-- Whether the grammar holds throughout, be the values readable or not. -/
def intact : Source → Bool
  | .flaw f => f ≠ .malformed
  | .array items => intactItems items
  | .object members => intactMembers members
  | _ => true

def intactItems : List Source → Bool
  | [] => true
  | s :: rest => intact s && intactItems rest

def intactMembers : List (String × Source) → Bool
  | [] => true
  | (_, s) :: rest => intact s && intactMembers rest

end

mutual

/-- The value of a source.  Keys are put in order, and of several members with one key the last one
counts. -/
def toJson : Source → Except Fault Json
  | .null => .ok .null
  | .bool b => .ok (.bool b)
  | .number n => .ok (.number n)
  | .string s => .ok (.string s)
  | .array items => do return .array (← toJsonItems items)
  | .object members => do return .object (← toJsonMembers [] members)
  | .flaw _ => .error .malformed

def toJsonItems : List Source → Except Fault (List Json)
  | [] => .ok []
  | s :: rest => do
    let v ← toJson s
    let vs ← toJsonItems rest
    return v :: vs

def toJsonMembers (read : Dict Json) : List (String × Source) → Except Fault (Dict Json)
  | [] => .ok read
  | (k, s) :: rest => do
    let v ← toJson s
    toJsonMembers (read.insert k v) rest

end

mutual

/-- A value as a flawless source. -/
def ofJson : Json → Source
  | .null => .null
  | .bool b => .bool b
  | .number n => .number n
  | .string s => .string s
  | .array items => .array (ofJsonItems items)
  | .object members => .object (ofJsonMembers members)

def ofJsonItems : List Json → List Source
  | [] => []
  | v :: rest => ofJson v :: ofJsonItems rest

def ofJsonMembers : List (String × Json) → List (String × Source)
  | [] => []
  | (k, v) :: rest => (k, ofJson v) :: ofJsonMembers rest

end

/-- The fault of finding this source where something else was expected. -/
def unexpected : Source → Fault
  | .flaw _ => .malformed
  | _ => .mismatch

end Source

/-! ### Values in normal form -/

/-- The members of each object are in the order of their keys. -/
inductive Normal : Json → Prop
  | null : Normal .null
  | bool (b : Bool) : Normal (.bool b)
  | number (n : Number) : Normal (.number n)
  | string (s : String) : Normal (.string s)
  | array {items : List Json} (h : ∀ v ∈ items, Normal v) : Normal (.array items)
  | object {members : Dict Json} (sorted : members.Sorted) (h : ∀ m ∈ members, Normal m.2) :
    Normal (.object members)

/-- What is read after something else is read if both can be. -/
theorem exists_of_bind {α β : Type} {read : Except Fault α} {next : α → Except Fault β} {b : β}
    (h : read >>= next = .ok b) : ∃ a, read = .ok a ∧ next a = .ok b := by
  cases read with
  | error fault => cases h
  | ok a => exact ⟨a, rfl, h⟩

namespace Source

theorem toJsonItems_ofJsonItems {items : List Json}
    (h : ∀ v ∈ items, toJson (ofJson v) = .ok v) :
    toJsonItems (ofJsonItems items) = .ok items := by
  induction items with
  | nil => rfl
  | cons v rest ih =>
    rw [ofJsonItems, toJsonItems, h v List.mem_cons_self,
      ih fun w hw => h w (List.mem_cons_of_mem _ hw)]
    rfl

/-- Members in order come one behind the other. -/
theorem toJsonMembers_ofJsonMembers {read members : Dict Json} (hsorted : (read ++ members).Sorted)
    (h : ∀ m ∈ members, toJson (ofJson m.2) = .ok m.2) :
    toJsonMembers read (ofJsonMembers members) = .ok (read ++ members) := by
  induction members generalizing read with
  | nil =>
    rw [List.append_nil]
    rfl
  | cons m rest ih =>
    obtain ⟨k, v⟩ := m
    have hlast : ∀ e ∈ read, e.1 < k := fun e he =>
      (List.pairwise_append.1 hsorted).2.2 e he (k, v) List.mem_cons_self
    have hassoc : read ++ (k, v) :: rest = (read ++ [(k, v)]) ++ rest := by
      rw [List.append_assoc]
      rfl
    rw [hassoc] at hsorted ⊢
    rw [ofJsonMembers, toJsonMembers, h (k, v) List.mem_cons_self,
      ← ih hsorted fun m hm => h m (List.mem_cons_of_mem _ hm), ← Dict.insert_of_forall_lt hlast]
    rfl

/-- **A value in normal form is read back from its own source.** -/
theorem toJson_ofJson {v : Json} (h : v.Normal) : toJson (ofJson v) = .ok v := by
  induction h with
  | null | bool _ | number _ | string _ => rfl
  | array _ ih =>
    rw [ofJson, toJson, toJsonItems_ofJsonItems ih]
    rfl
  | @object members sorted _ ih =>
    have hmembers : toJsonMembers [] (ofJsonMembers members) = .ok ([] ++ members) :=
      toJsonMembers_ofJsonMembers sorted ih
    rw [ofJson, toJson, hmembers]
    rfl

mutual

/-- Whatever is read is in normal form. -/
theorem normal_of_toJson {s : Source} {v : Json} (h : toJson s = .ok v) : v.Normal := by
  cases s with
  | null => cases h; exact .null
  | bool b => cases h; exact .bool b
  | number n => cases h; exact .number n
  | string s => cases h; exact .string s
  | flaw f => cases h
  | array items =>
    rw [toJson] at h
    obtain ⟨vs, hread, h⟩ := exists_of_bind h
    cases h
    exact .array (normal_of_toJsonItems hread)
  | object members =>
    rw [toJson] at h
    obtain ⟨vs, hread, h⟩ := exists_of_bind h
    cases h
    have hvs := normal_of_toJsonMembers hread .nil nofun
    exact .object hvs.1 hvs.2

theorem normal_of_toJsonItems {items : List Source} {vs : List Json}
    (h : toJsonItems items = .ok vs) : ∀ v ∈ vs, v.Normal := by
  cases items with
  | nil => cases h; exact nofun
  | cons s rest =>
    rw [toJsonItems] at h
    obtain ⟨v, hv, h⟩ := exists_of_bind h
    obtain ⟨ws, hws, h⟩ := exists_of_bind h
    cases h
    exact List.forall_mem_cons.2 ⟨normal_of_toJson hv, normal_of_toJsonItems hws⟩

theorem normal_of_toJsonMembers {read : Dict Json} {members : List (String × Source)}
    {vs : Dict Json} (h : toJsonMembers read members = .ok vs) (hsorted : read.Sorted)
    (hread : ∀ m ∈ read, m.2.Normal) : vs.Sorted ∧ ∀ m ∈ vs, m.2.Normal := by
  cases members with
  | nil => cases h; exact ⟨hsorted, hread⟩
  | cons m rest =>
    rw [toJsonMembers] at h
    obtain ⟨v, hv, h⟩ := exists_of_bind h
    refine normal_of_toJsonMembers h (hsorted.insert m.1 v) fun w hw => ?_
    rcases Dict.mem_insert hw with rfl | hw
    · exact normal_of_toJson hv
    · exact hread w hw

end

end Source

end Json

end DialogueStore
