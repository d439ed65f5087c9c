/-
Matching patterns.

`Pattern.ends` lists where the matches from one place end, in the order of
preference, so that its first entry is the match that a leftmost-first search
takes.  `Pattern.reach` follows a pattern from many places at once, which takes
a time polynomial in the text, and answers whether a text has a match at all.
-/
import DialogueStore.Pattern.Basic

namespace DialogueStore

namespace Pattern

/-! ### The preferred match -/

/-- Up to `more` further matches of a step that moves on, in the order of preference. -/
def upTo (step : Place → List Place) (greedy : Bool) : Nat → Place → List Place
  | 0, s => [s]
  | more + 1, s =>
    let longer := ((step s).filter fun t => t.after.length < s.after.length).flatMap
      (upTo step greedy more)
    if greedy then longer ++ [s] else s :: longer

/-- Exactly so many matches of a step, and then what `next` allows. -/
def times (step : Place → List Place) (next : Place → List Place) : Nat → Place → List Place
  | 0, s => next s
  | n + 1, s => (step s).flatMap (times step next n)

/-- The ends of all matches of a pattern from a place, the preferred one first. -/
def ends : Pattern → Place → List Place
  | .empty, s => [s]
  | .one set, ⟨before, c :: rest⟩ => if set.contains c.toNat then [⟨c :: before, rest⟩] else []
  | .one _, ⟨_, []⟩ => []
  | .anchor a, s => if a.holds s then [s] else []
  | .seq p q, s => (ends p s).flatMap (ends q)
  | .alt p q, s => ends p s ++ ends q s
  | .repeat min (some max) greedy p, s =>
    if max < min then [] else times (ends p) (upTo (ends p) greedy (max - min)) min s
  | .repeat min none greedy p, s =>
    times (ends p) (fun t => upTo (ends p) greedy t.after.length t) min s

/-- The end of the preferred match from a place. -/
def match? (p : Pattern) (s : Place) : Option Place := (p.ends s).head?

/-- Replaces every match in the text after a place by a tag, from left to right.  Matches do not
overlap, and those that read nothing do not count. -/
def replaceFrom (p : Pattern) (tag : List Char) (s : Place) : List Char :=
  match _h : s.after with
  | [] => []
  | c :: rest =>
    match p.match? s with
    | some t =>
      if t.after.length < s.after.length then tag ++ replaceFrom p tag t
      else c :: replaceFrom p tag ⟨c :: s.before, rest⟩
    | none => c :: replaceFrom p tag ⟨c :: s.before, rest⟩
termination_by s.after.length
decreasing_by all_goals simp_all

def replaceAll (p : Pattern) (tag : List Char) (text : List Char) : List Char :=
  p.replaceFrom tag (.start text)

/-! ### Whether there is a match -/

/-- Places in the order of the list, each once. -/
def distinct (places : List Place) : List Place :=
  places.foldl (fun seen s =>
    if seen.any fun t => t.after.length == s.after.length then seen else seen ++ [s]) []

/-- All places that up to `n` further steps lead to. -/
def closure (step : List Place → List Place) : Nat → List Place → List Place
  | 0, seen => seen
  | n + 1, seen =>
    let next := distinct (seen ++ step seen)
    if next.length = seen.length then seen else closure step n next

/-- So many steps, unless no place is left. -/
def iterate (step : List Place → List Place) : Nat → List Place → List Place
  | 0, places => places
  | n + 1, places => if places.isEmpty then [] else iterate step n (step places)

/-- All places that a pattern leads to from some place of one text. -/
def reach : Pattern → List Place → List Place
  | .empty, places => places
  | .one set, places => places.filterMap fun s =>
    match s with
    | ⟨before, c :: rest⟩ => if set.contains c.toNat then some ⟨c :: before, rest⟩ else none
    | ⟨_, []⟩ => none
  | .anchor a, places => places.filter a.holds
  | .seq p q, places => reach q (reach p places)
  | .alt p q, places => distinct (reach p places ++ reach q places)
  | .repeat min limit _ p, places =>
    let more := match limit with
      | some max => if max < min then none else some (max - min)
      | none => some (places.foldl (fun n s => Nat.max n s.after.length) 0)
    match more with
    | none => []
    | some more => closure (reach p) more (iterate (reach p) min places)

/-- Whether a pattern matches somewhere in a text. -/
def occursIn (p : Pattern) (text : List Char) : Bool :=
  !(p.reach (Place.start text).onward).isEmpty

end Pattern

end DialogueStore
