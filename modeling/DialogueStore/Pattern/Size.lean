/-
The size of a pattern as an automaton over bytes.

A pattern that would become too large an automaton is refused.  The size is
counted in bytes: each state takes as much as the largest kind of state, and
states with several transitions take room for each of them.  Two automata are
counted, one that reads forward and one that reads backward, and the larger one
decides.  Reading forward, a set of characters is the smallest automaton of
their encodings; reading backward, it is the tree of their encodings.
-/
import DialogueStore.Text.CharSet

namespace DialogueStore

namespace Pattern

namespace Size

/-- What one state takes. -/
def state : Nat := 32

/-- What one transition of a state with several ones takes. -/
def transition : Nat := 8

/-- What one alternative takes. -/
def alternative : Nat := 4

/-- The most that an automaton may take. -/
def limit : Nat := 10 * 0x100000

/-! ### Encodings of ranges -/

/-- The largest code points of one, two, three and four bytes. -/
def lengthLimits : List Nat := [0x7f, 0x7ff, 0xffff, 0x10ffff]

/-- Cuts a range where the number of bytes changes. -/
def byLength (lo hi : Nat) : List Nat → List (Nat × Nat)
  | [] => [(lo, hi)]
  | m :: rest =>
    if lo ≤ m ∧ m < hi then (lo, m) :: byLength (m + 1) hi rest else byLength lo hi rest

/-- Cuts a range of one length so that in each piece every byte runs through a range of its own.
`unit` is how many code points share the bytes before the current one. -/
def byUnit (fuel : Nat) (lo hi : Nat) : List (Nat × Nat) :=
  match fuel with
  | 0 => [(lo, hi)]
  | fuel + 1 =>
    let cut? := [64, 4096, 262144].findSome? fun unit =>
      if lo / unit = hi / unit then none
      else if lo % unit ≠ 0 then some ((lo / unit + 1) * unit - 1)
      else if hi % unit ≠ unit - 1 then some (hi / unit * unit - 1)
      else none
    match cut? with
    | some cut => byUnit fuel lo cut ++ byUnit fuel (cut + 1) hi
    | none => [(lo, hi)]

def encode (n : Nat) : List Nat :=
  if n ≤ 0x7f then [n]
  else if n ≤ 0x7ff then [0xc0 + n / 64, 0x80 + n % 64]
  else if n ≤ 0xffff then [0xe0 + n / 4096, 0x80 + n / 64 % 64, 0x80 + n % 64]
  else [0xf0 + n / 262144, 0x80 + n / 4096 % 64, 0x80 + n / 64 % 64, 0x80 + n % 64]

/-- The sequences of byte ranges of a set, in increasing order. -/
def sequences (set : Text.Ranges) : List (List (Nat × Nat)) :=
  (Text.Ranges.intersect set Text.Ranges.characters).flatMap fun r =>
    (byLength r.1 r.2 lengthLimits).flatMap fun r =>
      (byUnit 12 r.1 r.2).map fun r => (encode r.1).zip (encode r.2)

/-! ### Sets of characters -/

/-- Groups sequences that start with the same byte range. -/
def groupByHead : List (List (Nat × Nat)) → List ((Nat × Nat) × List (List (Nat × Nat)))
  | [] => []
  | [] :: rest => groupByHead rest
  | (r :: tail) :: rest =>
    match groupByHead rest with
    | (r', tails) :: groups =>
      if r = r' then (r, tail :: tails) :: groups else (r, [tail]) :: (r', tails) :: groups
    | [] => [(r, [tail])]

/-- The number of byte ranges in the tree of sequences. -/
def treeSize : (depth : Nat) → List (List (Nat × Nat)) → Nat
  | 0, _ => 0
  | depth + 1, seqs =>
    ((groupByHead seqs).map fun g => 1 + treeSize depth (g.2.filter (!·.isEmpty))).sum

/-- A state of the smallest automaton: its byte ranges and the states they lead to. -/
abbrev Node := List ((Nat × Nat) × Nat)

/-- Adds the states for a tree of sequences to those that are there, each of them once. -/
def addNodes : (depth : Nat) → List Node → List (List (Nat × Nat)) → List Node × Nat
  | 0, nodes, _ => (nodes, 0)
  | depth + 1, nodes, seqs =>
    let (nodes, transitions) := (groupByHead seqs).foldl (fun (nodes, ts) g =>
      let tails := g.2.filter (!·.isEmpty)
      if tails.isEmpty then (nodes, ts ++ [(g.1, 0)])
      else
        let (nodes, i) := addNodes depth nodes tails
        (nodes, ts ++ [(g.1, i)])) (nodes, ([] : Node))
    match nodes.findIdx? (· == transitions) with
    | some i => (nodes, i + 1)
    | none => (nodes ++ [transitions], nodes.length + 1)

def isAscii (set : Text.Ranges) : Bool := set.all fun r => r.2 ≤ 0x7f

/-- The size of a set reading forward and backward. -/
def ofSet (set : Text.Ranges) : Nat × Nat :=
  match set with
  | [] => (state, state)
  | [(a, b)] =>
    if a = b then
      let n := (encode a).length * state
      (n, n)
    else general
  | _ => general
where
  general : Nat × Nat :=
    if isAscii set then
      let n := 2 * state + set.length * transition
      (n, n)
    else
      -- Forward equal states are shared, and backward only the common starts of the sequences.
      let seqs := sequences set
      let (nodes, _) := addNodes 4 [] seqs
      (nodes.foldl (fun size n => size + state + n.length * transition) state,
        (treeSize 4 seqs + 2) * state + seqs.length * alternative)

end Size

end Pattern

end DialogueStore
