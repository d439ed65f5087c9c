/-
What spells a JSON value, and that the reader reads it.

`Spells room src cs` is the grammar of the texts that are written: numerals, strings with the
escapes that are used, arrays and objects, with blanks wherever a line may be broken.  The
reader takes such a text for what it spells and stops at its end, whatever follows
(`reads`), so that a whole text is read without a flaw (`Document.ofChars_spells`).

Design notes: the reader goes by fuel, and its loops over items and members have no other
measure.  Two steps for each character are enough, one for the value and one for the loop
around it, and the induction is on the fuel, over all three at once (`Reads`).
-/
import DialogueStore.Proofs.Numerals

namespace DialogueStore

namespace Json

namespace Reader

/-! ### Blanks -/

def Blanks (cs : List Char) : Prop := ∀ c ∈ cs, isBlank c = true

theorem blanks_nil : Blanks [] := nofun

theorem skipBlanks_append {ws : List Char} (h : Blanks ws) (cs : List Char) :
    skipBlanks (ws ++ cs) = skipBlanks cs := List.dropWhile_append_of_pos h

theorem skipBlanks_cons {c : Char} (h : isBlank c = false) (cs : List Char) :
    skipBlanks (c :: cs) = c :: cs := List.dropWhile_cons_of_neg (by simp [h])

theorem ends_nil : Ends [] := ⟨nofun, nofun, nofun, nofun⟩

/-! ### Strings -/

theorem hex4_control : ∀ n < 0x20,
    hex4 '0' '0' (Nat.digitChar (n / 16)) (Nat.digitChar (n % 16)) = some n := by decide

/-- A character is read back from what is written of it in a string. -/
theorem stringBody_escape (fuel : Nat) (acc : List Char) (sound : Bool) (c : Char)
    (rest : List Char) :
    stringBody (fuel + 1) acc sound (escape c ++ rest) = stringBody fuel (c :: acc) sound rest := by
  rw [escape.eq_def]
  split
  case h_8 hquote hbackslash _ _ _ _ _ =>
    split
    · rename_i hcontrol
      have hhex := hex4_control c.toNat hcontrol
      have hchar : Char.ofNat c.toNat = c := Char.ofNat_toNat c
      have hlow : c.toNat < 0xd800 := by omega
      simp [stringBody, unicodeEscape, hhex, hchar, hlow]
    · rename_i hplain
      have hc : c ≠ '\\' := hbackslash
      rw [List.singleton_append, stringBody, if_neg (by simpa [hc] using hplain)]
      · exact hquote
      · exact fun _ h _ => hc h
      · exact fun _ _ h _ => hc h
  all_goals simp [stringBody, escaped]

/-- **A string is read up to the quote that ends it.** -/
theorem stringBody_escaped {fuel : Nat} (s acc : List Char) (sound : Bool) (rest : List Char)
    (hfuel : s.length < fuel) :
    stringBody fuel acc sound (s.flatMap escape ++ '"' :: rest) =
      some (s.reverse ++ acc, sound, rest) := by
  induction s generalizing fuel acc with
  | nil =>
    obtain ⟨fuel, rfl⟩ := Nat.exists_eq_add_of_lt hfuel
    rfl
  | cons c s ih =>
    rw [List.length_cons] at hfuel
    obtain ⟨fuel, rfl⟩ : ∃ n, fuel = n + 1 := ⟨fuel - 1, by omega⟩
    rw [List.flatMap_cons, List.append_assoc, stringBody_escape, ih (c :: acc) (by omega)]
    simp

theorem toList_quote (s : String) :
    (quote s).toList = '"' :: (s.toList.flatMap escape ++ ['"']) := by
  simp [quote]

theorem length_lt_quote (s : String) : s.toList.length < (quote s).toList.length := by
  have hescape : ∀ c : Char, 1 ≤ (escape c).length := by
    intro c
    rw [escape.eq_def]
    split
    case h_8 => split <;> simp
    all_goals simp
  have hlength : ∀ cs : List Char, cs.length ≤ (cs.flatMap escape).length := by
    intro cs
    induction cs with
    | nil => exact Nat.le_refl 0
    | cons c cs ih =>
      have hc := hescape c
      rw [List.flatMap_cons, List.length_append, List.length_cons]
      omega
  have hs := hlength s.toList
  rw [toList_quote, List.length_cons, List.length_append]
  omega

/-! ### Values -/

mutual

/-- The text spells a source, in which containers are nested `room` deep at most.  Blanks may stand
in front of each item, behind it and behind a colon. -/
inductive Spells : Nat → Source → List Char → Prop
  | null {room : Nat} : Spells room .null "null".toList
  | bool {room : Nat} (b : Bool) : Spells room (.bool b) (if b then "true" else "false").toList
  | number {room : Nat} {t : NumberText} (h : t.Proper) : Spells room t.source t.text
  | string {room : Nat} (s : String) : Spells room (.string s) (quote s).toList
  | noItems {room : Nat} : Spells (room + 1) (.array []) ['[', ']']
  | items {room : Nat} {srcs : List Source} {cs : List Char} (h : SpellsItems room srcs cs) :
    Spells (room + 1) (.array srcs) ('[' :: cs)
  | noMembers {room : Nat} : Spells (room + 1) (.object []) ['\x7b', '\x7d']
  | members {room : Nat} {ms : List (String × Source)} {cs : List Char}
    (h : SpellsMembers room ms cs) : Spells (room + 1) (.object ms) ('\x7b' :: cs)

/-- The text spells items up to the closing bracket. -/
inductive SpellsItems : Nat → List Source → List Char → Prop
  | last {room : Nat} {src : Source} {before cs after : List Char} (hbefore : Blanks before)
    (h : Spells room src cs) (hafter : Blanks after) :
    SpellsItems room [src] (before ++ (cs ++ (after ++ [']'])))
  | more {room : Nat} {src : Source} {srcs : List Source} {before cs after rest : List Char}
    (hbefore : Blanks before) (h : Spells room src cs) (hafter : Blanks after)
    (hrest : SpellsItems room srcs rest) :
    SpellsItems room (src :: srcs) (before ++ (cs ++ (after ++ ',' :: rest)))

/-- The text spells members up to the closing brace. -/
inductive SpellsMembers : Nat → List (String × Source) → List Char → Prop
  | last {room : Nat} {src : Source} {before gap cs after : List Char} (key : String)
    (hbefore : Blanks before) (hgap : Blanks gap) (h : Spells room src cs) (hafter : Blanks after) :
    SpellsMembers room [(key, src)]
      (before ++ ((quote key).toList ++ ':' :: (gap ++ (cs ++ (after ++ ['\x7d'])))))
  | more {room : Nat} {src : Source} {ms : List (String × Source)}
    {before gap cs after rest : List Char} (key : String) (hbefore : Blanks before)
    (hgap : Blanks gap) (h : Spells room src cs) (hafter : Blanks after)
    (hrest : SpellsMembers room ms rest) :
    SpellsMembers room ((key, src) :: ms)
      (before ++ ((quote key).toList ++ ':' :: (gap ++ (cs ++ (after ++ ',' :: rest)))))

end

/-- A numeral starts with a digit or a sign. -/
theorem NumberText.Proper.exists_head {t : NumberText} (h : t.Proper) :
    ∃ c rest, t.text = c :: rest ∧ (isDigit c = true ∨ c = '-') := by
  obtain ⟨d, ds, hds⟩ := List.exists_cons_of_ne_nil h.whole.1
  have hd : isDigit d = true := h.whole.2 d (hds ▸ List.mem_cons_self)
  rw [text, hds]
  cases t.negative with
  | true => exact ⟨_, _, rfl, .inr rfl⟩
  | false => exact ⟨_, _, rfl, .inl hd⟩

/-- A numeral starts like no other value. -/
theorem not_special_of_head {c : Char} (h : isDigit c = true ∨ c = '-') :
    isBlank c = false ∧ c ∉ ['n', 't', 'f', '"', '[', ']', '\x7b'] := by
  rcases h with h | rfl
  · have hnone : ∀ d ∈ [' ', '\n', '\t', '\r', 'n', 't', 'f', '"', '[', ']', '\x7b'],
        isDigit d = false := by simp [isDigit]
    have hne : ∀ d ∈ [' ', '\n', '\t', '\r', 'n', 't', 'f', '"', '[', ']', '\x7b'], c ≠ d := by
      intro d hd heq
      rw [heq, hnone d hd] at h
      cases h
    simp at hne
    simp [isBlank, hne]
  · decide

theorem Spells.exists_head {room : Nat} {src : Source} {cs : List Char} (h : Spells room src cs) :
    ∃ c rest, cs = c :: rest ∧ isBlank c = false ∧ c ≠ ']' := by
  cases h with
  | null => exact ⟨_, _, rfl, rfl, by decide⟩
  | bool b => cases b <;> exact ⟨_, _, rfl, rfl, by decide⟩
  | number h =>
    obtain ⟨c, rest, heq, hc⟩ := h.exists_head
    have hother := not_special_of_head hc
    exact ⟨c, rest, heq, hother.1, fun hbracket => hother.2 (by simp [hbracket])⟩
  | string s => exact ⟨_, _, toList_quote s, rfl, by decide⟩
  | noItems | items _ | noMembers | members _ => exact ⟨_, _, rfl, rfl, by decide⟩

/-! ### Reading -/

theorem value_blanks {ws : List Char} (h : Blanks ws) (fuel room : Nat) (cs : List Char) :
    value fuel room (ws ++ cs) = value fuel room cs := by
  cases fuel with
  | zero => rfl
  | succ fuel => rw [value, value, skipBlanks_append h]

/-- Blanks in front of the first item do not count. -/
theorem SpellsItems.exists_trimmed {room : Nat} {srcs : List Source} {cs : List Char}
    (h : SpellsItems room srcs cs) : ∃ c tail, SpellsItems room srcs (c :: tail) ∧
      (c :: tail).length ≤ cs.length ∧ c ≠ ']' ∧
      ∀ rest, skipBlanks (cs ++ rest) = c :: (tail ++ rest) := by
  cases h with
  | last hbefore h hafter =>
    obtain ⟨c, tail, rfl, hblank, hc⟩ := h.exists_head
    refine ⟨c, _, .last blanks_nil h hafter, ?_, hc, fun rest => ?_⟩
    · simp
    · rw [List.append_assoc, skipBlanks_append hbefore]
      exact skipBlanks_cons hblank _
  | more hbefore h hafter hrest =>
    obtain ⟨c, tail, rfl, hblank, hc⟩ := h.exists_head
    refine ⟨c, _, .more blanks_nil h hafter hrest, ?_, hc, fun rest => ?_⟩
    · simp
    · rw [List.append_assoc, skipBlanks_append hbefore]
      exact skipBlanks_cons hblank _

/-- Blanks in front of the first member do not count. -/
theorem SpellsMembers.exists_trimmed {room : Nat} {ms : List (String × Source)} {cs : List Char}
    (h : SpellsMembers room ms cs) : ∃ tail, SpellsMembers room ms ('"' :: tail) ∧
      ('"' :: tail).length ≤ cs.length ∧
        ∀ rest, skipBlanks (cs ++ rest) = '"' :: (tail ++ rest) := by
  cases h with
  | last key hbefore hgap h hafter =>
    have hmembers := SpellsMembers.last key blanks_nil hgap h hafter
    rw [List.nil_append, toList_quote] at hmembers
    refine ⟨_, hmembers, ?_, fun rest => ?_⟩
    · simp [toList_quote]
    · rw [List.append_assoc, skipBlanks_append hbefore, toList_quote]
      exact skipBlanks_cons rfl _
  | more key hbefore hgap h hafter hrest =>
    have hmembers := SpellsMembers.more key blanks_nil hgap h hafter hrest
    rw [List.nil_append, toList_quote] at hmembers
    refine ⟨_, hmembers, ?_, fun rest => ?_⟩
    · simp [toList_quote]
    · rw [List.append_assoc, skipBlanks_append hbefore, toList_quote]
      exact skipBlanks_cons rfl _

/-- With this much fuel, what spells a source is read as that source, up to its end. -/
structure Reads (fuel : Nat) : Prop where
  value : ∀ {room : Nat} {src : Source} {cs : List Char} (rest : List Char), Ends rest →
    Spells room src cs → 2 * cs.length ≤ fuel → value fuel room (cs ++ rest) = (src, some rest)
  items : ∀ {room : Nat} {srcs : List Source} {cs : List Char} (rest : List Char)
    (acc : List Source), SpellsItems room srcs cs → 2 * cs.length < fuel →
    items fuel room acc (cs ++ rest) = (acc.reverse ++ srcs, some rest)
  members : ∀ {room : Nat} {ms : List (String × Source)} {cs : List Char} (rest : List Char)
    (acc : List (String × Source)), SpellsMembers room ms cs → 2 * cs.length < fuel →
    members fuel room acc (cs ++ rest) = (acc.reverse ++ ms, some rest)

/-- What comes behind a value, be it a comma or a bracket, does not go on with a numeral. -/
theorem ends_of_blanks {ws : List Char} {c : Char} (hws : Blanks ws)
    (hc : c ∈ [',', ']', '\x7d']) (rest : List Char) : Ends (ws ++ c :: rest) := by
  have hnone : ∀ d ∈ [' ', '\n', '\t', '\r', ',', ']', '\x7d'],
      isDigit d = false ∧ d ≠ '.' ∧ d ≠ 'e' ∧ d ≠ 'E' := by simp [isDigit]
  have hends : ∀ d ∈ (ws ++ c :: rest).head?,
      isDigit d = false ∧ d ≠ '.' ∧ d ≠ 'e' ∧ d ≠ 'E' := by
    intro d hd
    refine hnone d ?_
    cases ws with
    | nil =>
      obtain rfl : c = d := Option.some.inj hd
      rcases hc with _ | ⟨_, _ | ⟨_, _ | ⟨_, ⟨⟩⟩⟩⟩ <;> simp
    | cons b ws =>
      obtain rfl : b = d := Option.some.inj hd
      have hb := hws b List.mem_cons_self
      simp only [isBlank, Bool.or_eq_true, decide_eq_true_eq] at hb
      rcases hb with ((rfl | rfl) | rfl) | rfl <;> simp
  exact ⟨fun d hd => (hends d hd).1, fun h => (hends _ h).2.1 rfl,
    fun h => (hends _ h).2.2.1 rfl, fun h => (hends _ h).2.2.2 rfl⟩

theorem value_spells {fuel room : Nat} {src : Source} {cs : List Char} (hfuel : Reads fuel)
    (rest : List Char) (hrest : Ends rest) (h : Spells room src cs)
    (hlength : 2 * cs.length ≤ fuel + 1) :
    Reader.value (fuel + 1) room (cs ++ rest) = (src, some rest) := by
  cases h with
  | null => rfl
  | bool b => cases b <;> rfl
  | @number _ t h =>
    obtain ⟨c, cs, heq, hc⟩ := h.exists_head
    -- A number is read as far as it goes, and what follows does not continue it.
    have hread := NumberText.readNumber_text h hrest
    obtain ⟨hblank, hother⟩ := not_special_of_head hc
    rw [heq] at hread ⊢
    simp at hother
    rw [Reader.value, List.cons_append, skipBlanks_cons hblank]
    simpa [hother] using hread
  | string s =>
    -- Each character of a string takes one step, and its spelling is no shorter.
    have hshort := length_lt_quote s
    have hread : stringBody (fuel + 1) [] true _ = _ :=
      stringBody_escaped s.toList [] true rest (by omega)
    rw [toList_quote, Reader.value, List.cons_append, skipBlanks_cons rfl]
    simp [hread]
  | noItems => rfl
  | noMembers => rfl
  | @items room _ cs h =>
    obtain ⟨c, tail, htrimmed, hle, hc, hskip⟩ := h.exists_trimmed
    rw [List.length_cons] at hlength
    -- The blanks that were skipped may be taken off: what is left is a spelling too, and no
    -- longer.
    have hread := hfuel.items rest [] htrimmed (by omega)
    rw [List.cons_append] at hread
    rw [Reader.value, List.cons_append, skipBlanks_cons rfl]
    simp [hskip, nested, hc, hread]
  | members h =>
    obtain ⟨tail, htrimmed, hle, hskip⟩ := h.exists_trimmed
    rw [List.length_cons] at hlength
    have hread := hfuel.members rest [] htrimmed (by omega)
    rw [List.cons_append] at hread
    rw [Reader.value, List.cons_append, skipBlanks_cons rfl]
    simp [hskip, nested, hread]

theorem items_spells {fuel room : Nat} {srcs : List Source} {cs : List Char}
    (hfuel : Reads fuel) (rest : List Char) (acc : List Source) (h : SpellsItems room srcs cs)
    (hlength : 2 * cs.length < fuel + 1) :
    Reader.items (fuel + 1) room acc (cs ++ rest) = (acc.reverse ++ srcs, some rest) := by
  cases h with
  | @last _ src before cs after hbefore h hafter =>
    simp only [List.length_append, List.length_singleton] at hlength
    have hread := hfuel.value (after ++ ']' :: rest)
      (ends_of_blanks hafter (by simp) _) h (by omega)
    simp only [List.append_assoc, List.singleton_append]
    rw [Reader.items, value_blanks hbefore, hread]
    simp [skipBlanks_append hafter, skipBlanks_cons (c := ']') rfl]
  | @more _ src srcs before cs after tail hbefore h hafter htail =>
    simp only [List.length_append, List.length_cons] at hlength
    have hread := hfuel.value (after ++ ',' :: (tail ++ rest))
      (ends_of_blanks hafter (by simp) _) h (by omega)
    -- The rest of the list is shorter, so that the fuel that is left suffices.
    have hnext := hfuel.items rest (src :: acc) htail (by omega)
    simp only [List.append_assoc, List.cons_append]
    rw [Reader.items, value_blanks hbefore, hread]
    simp [skipBlanks_append hafter, skipBlanks_cons (c := ',') rfl, hnext]

theorem members_spells {fuel room : Nat} {ms : List (String × Source)} {cs : List Char}
    (hfuel : Reads fuel) (rest : List Char) (acc : List (String × Source))
    (h : SpellsMembers room ms cs) (hlength : 2 * cs.length < fuel + 1) :
    Reader.members (fuel + 1) room acc (cs ++ rest) = (acc.reverse ++ ms, some rest) := by
  cases h with
  | @last _ src before gap cs after key hbefore hgap h hafter =>
    have hshort := length_lt_quote key
    simp only [List.length_append, List.length_cons] at hlength
    have hread := hfuel.value (after ++ '\x7d' :: rest)
      (ends_of_blanks hafter (by simp) _) h (by omega)
    -- The key is a string that ends at its closing quote.
    have hkey : stringBody (fuel + 1) [] true _ = _ := stringBody_escaped key.toList [] true
      (':' :: (gap ++ (cs ++ (after ++ '\x7d' :: rest)))) (by omega)
    simp only [List.append_assoc, List.cons_append, toList_quote, List.nil_append]
    rw [Reader.members, skipBlanks_append hbefore, skipBlanks_cons rfl]
    simp [hkey, skipBlanks_cons (c := ':') rfl, value_blanks hgap, hread,
      skipBlanks_append hafter, skipBlanks_cons (c := '\x7d') rfl]
  | @more _ src ms before gap cs after tail key hbefore hgap h hafter htail =>
    have hshort := length_lt_quote key
    simp only [List.length_append, List.length_cons] at hlength
    have hread := hfuel.value (after ++ ',' :: (tail ++ rest))
      (ends_of_blanks hafter (by simp) _) h (by omega)
    have hkey : stringBody (fuel + 1) [] true _ = _ := stringBody_escaped key.toList [] true
      (':' :: (gap ++ (cs ++ (after ++ ',' :: (tail ++ rest))))) (by omega)
    have hnext := hfuel.members rest ((key, src) :: acc) htail (by omega)
    simp only [List.append_assoc, List.cons_append, toList_quote, List.nil_append]
    rw [Reader.members, skipBlanks_append hbefore, skipBlanks_cons rfl]
    simp [hkey, skipBlanks_cons (c := ':') rfl, value_blanks hgap, hread,
      skipBlanks_append hafter, skipBlanks_cons (c := ',') rfl, hnext]

/-- **What spells a source is read as that source**, and two steps for each character suffice. -/
theorem reads (fuel : Nat) : Reads fuel := by
  induction fuel with
  | zero =>
    refine ⟨fun _ _ h hlength => ?_, nofun, nofun⟩
    obtain ⟨c, tail, rfl, -⟩ := h.exists_head
    rw [List.length_cons] at hlength
    omega
  | succ fuel ih => exact ⟨value_spells ih, items_spells ih, members_spells ih⟩

end Reader

theorem Document.ofChars_spells {src : Source} {cs : List Char}
    (h : Reader.Spells depthLimit src cs) : Document.ofChars cs = ⟨src, true⟩ := by
  have hread := (Reader.reads (2 * cs.length + 2)).value [] Reader.ends_nil h (by omega)
  rw [List.append_nil] at hread
  rw [Document.ofChars, hread]
  rfl

end Json
end DialogueStore
