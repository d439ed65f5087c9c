/-
The limits of the reader.

What is read has containers nested no deeper than the reader goes, and whole numbers of 64
bits: anything else is a flaw of the text, or a double (`fits_of_document`).
-/
import Mathlib.Data.List.Forall2
import DialogueStore.Proofs.Numerals

namespace DialogueStore

namespace Json

/-- The limits of the reader: containers are nested `room` deep at most, and whole numbers have 64
bits. -/
inductive Fits : Nat → Json → Prop
  | null {room : Nat} : Fits room .null
  | bool {room : Nat} (b : Bool) : Fits room (.bool b)
  | int {room : Nat} {n : Int} (hlow : -0x8000000000000000 ≤ n) (hhigh : n < 0x10000000000000000) :
    Fits room (.number (.int n))
  | float {room : Nat} (x : Float) : Fits room (.number (.float x))
  | string {room : Nat} (s : String) : Fits room (.string s)
  | array {room : Nat} {items : List Json} (h : ∀ v ∈ items, Fits room v) :
    Fits (room + 1) (.array items)
  | object {room : Nat} {members : Dict Json} (h : ∀ m ∈ members, Fits room m.2) :
    Fits (room + 1) (.object members)

namespace Source

/-- Each item that is read was an item. -/
theorem forall₂_of_toJsonItems {items : List Source} {vs : List Json}
    (h : toJsonItems items = .ok vs) : List.Forall₂ (fun s v => toJson s = .ok v) items vs := by
  induction items generalizing vs with
  | nil =>
    cases h
    exact .nil
  | cons s rest ih =>
    rw [toJsonItems] at h
    obtain ⟨v, hv, h⟩ := exists_of_bind h
    obtain ⟨ws, hws, h⟩ := exists_of_bind h
    cases h
    exact .cons hv (ih hws)

/-- The value of a source is within the limits, if it has one. -/
def Fits (room : Nat) (src : Source) : Prop := ∀ v, src.toJson = .ok v → v.Fits room

theorem fits_flaw {room : Nat} (flaw : Flaw) : (Source.flaw flaw).Fits room := nofun

end Source

namespace Reader

variable {fuel room : Nat}

theorem fits64_takeWhole {n : Nat} (ds : List Char) (h : fits64 n = true) :
    fits64 (takeWhole n ds).1 = true := by
  induction ds generalizing n with
  | nil => exact h
  | cons c ds ih =>
    rw [takeWhole]
    split
    · exact ih (by assumption)
    · exact h

/-- A whole number that is read has 64 bits. -/
theorem NumberText.fits_source (t : NumberText) : t.source.Fits room := by
  intro v hv
  rw [source] at hv
  split at hv
  · cases hv
    rename_i n hvalue
    cases n with
    | float x => exact .float x
    | int n =>
      rw [value] at hvalue
      split at hvalue
      · have hfits := fits64_takeWhole t.whole (n := 0) rfl
        simp only [wholeValue] at hvalue
        simp only [fits64, decide_eq_true_eq] at hfits
        split at hvalue
        · obtain ⟨x, -, hx⟩ := Option.map_eq_some_iff.1 hvalue
          cases hx
        · split at hvalue
          · cases hvalue
            exact .int (by omega) (by omega)
          · split at hvalue
            · cases hvalue
            · rename_i hsmall
              cases hvalue
              simp only [Bool.or_eq_true, decide_eq_true_eq, not_or] at hsmall
              exact .int (by omega) (by omega)
      · obtain ⟨x, hx⟩ := exists_float_of_realValue hvalue
        cases hx
  · cases hv

theorem fits_readNumber (cs : List Char) : (readNumber cs).1.Fits room := by
  rw [readNumber]
  split
  · exact Source.fits_flaw _
  · rename_i t rest _
    have hsource : t.source.Fits room := t.fits_source
    rw [NumberText.source] at hsource
    split <;> simp_all

theorem fits_word {w : String} {src : Source} (cs : List Char) (h : src.Fits room) :
    (word w src cs).1.Fits room := by
  rw [word]
  split
  · exact h
  · exact Source.fits_flaw _

theorem fits_nested {r : Source × Option (List Char)} (h : room ≠ 0 → r.1.Fits room) :
    (nested room r).1.Fits room := by
  simp only [nested]
  split
  · rename_i hroom
    exact h hroom
  · split <;> exact Source.fits_flaw _

theorem fits_array {srcs : List Source} (h : ∀ src ∈ srcs, src.Fits room) :
    (Source.array srcs).Fits (room + 1) := by
  intro v hv
  obtain ⟨vs, hvs, hv⟩ := exists_of_bind hv
  cases hv
  have hitems := ((List.forall₂_and_left _ _).2 ⟨h, Source.forall₂_of_toJsonItems hvs⟩).flip
  have hall := hitems.imp fun v src ⟨hfits, hread⟩ => (⟨hfits v hread, trivial⟩ : _ ∧ True)
  exact .array ((List.forall₂_and_left _ _).1 hall).1

theorem fits_object {ms : List (String × Source)} (h : ∀ m ∈ ms, m.2.Fits room) :
    (Source.object ms).Fits (room + 1) := by
  intro v hv
  obtain ⟨vs, hvs, hv⟩ := exists_of_bind hv
  cases hv
  -- Every member that is read so far is within the limits.
  suffices hgo : ∀ (ms : List (String × Source)) (read : Dict Json), (∀ m ∈ ms, m.2.Fits room) →
      (∀ m ∈ read, m.2.Fits room) → Source.toJsonMembers read ms = .ok vs →
      ∀ m ∈ vs, m.2.Fits room from
    .object (hgo ms [] h (List.forall_mem_nil _) hvs)
  intro ms
  induction ms with
  | nil =>
    intro read _ hread hvs
    cases hvs
    exact hread
  | cons m rest ih =>
    intro read hms hread hvs
    obtain ⟨v, hv, hvs⟩ := exists_of_bind hvs
    refine ih _ (fun m hm => hms m (List.mem_cons_of_mem _ hm)) (fun e he => ?_) hvs
    rcases Dict.mem_insert he with rfl | he
    · exact hms m List.mem_cons_self v hv
    · exact hread e he

/-- With this much fuel, what is read is within the limits. -/
structure Keeps (fuel : Nat) : Prop where
  value : ∀ (room : Nat) (cs : List Char), (value fuel room cs).1.Fits room
  items : ∀ (room : Nat) (acc : List Source) (cs : List Char), (∀ src ∈ acc, src.Fits room) →
    ∀ src ∈ (items fuel room acc cs).1, src.Fits room
  members : ∀ (room : Nat) (acc : List (String × Source)) (cs : List Char),
    (∀ m ∈ acc, m.2.Fits room) → ∀ m ∈ (members fuel room acc cs).1, m.2.Fits room

theorem fits_value (h : Keeps fuel) (cs : List Char) :
    (Reader.value (fuel + 1) room cs).1.Fits room := by
  rw [value]
  split
  · exact Source.fits_flaw _
  rename_i c rest _
  split
  · refine fits_word _ ?_
    rintro _ ⟨⟩
    exact .null
  split
  · refine fits_word _ ?_
    rintro _ ⟨⟩
    exact .bool true
  split
  · refine fits_word _ ?_
    rintro _ ⟨⟩
    exact .bool false
  split
  · split
    · exact Source.fits_flaw _
    · rintro _ ⟨⟩
      exact .string _
    · exact Source.fits_flaw _
  split
  · refine fits_nested fun hroom => ?_
    -- Only these two readers go one level down, and each gives up a unit of `room` for it.
    obtain ⟨room, rfl⟩ := Nat.exists_eq_succ_of_ne_zero hroom
    split
    · exact fits_array (List.forall_mem_nil _)
    · exact fits_array (h.items room [] _ (List.forall_mem_nil _))
  split
  · refine fits_nested fun hroom => ?_
    obtain ⟨room, rfl⟩ := Nat.exists_eq_succ_of_ne_zero hroom
    split
    · exact fits_object (List.forall_mem_nil _)
    · exact fits_object (h.members room [] _ (List.forall_mem_nil _))
  · exact fits_readNumber _

theorem fits_items (h : Keeps fuel) (acc : List Source) (cs : List Char)
    (hacc : ∀ src ∈ acc, src.Fits room) :
    ∀ src ∈ (Reader.items (fuel + 1) room acc cs).1, src.Fits room := by
  have hvalue := h.value room cs
  rw [items]
  generalize value fuel room cs = read at hvalue ⊢
  obtain ⟨src, rest?⟩ := read
  have hcons : ∀ s ∈ src :: acc, s.Fits room := List.forall_mem_cons.2 ⟨hvalue, hacc⟩
  cases rest? with
  | none => exact fun s hs => hcons s (List.mem_reverse.1 hs)
  | some rest =>
    dsimp only
    split
    · exact fun s hs => hcons s (List.mem_reverse.1 hs)
    · exact h.items room _ _ hcons
    · exact fun s hs => List.forall_mem_cons.2 ⟨Source.fits_flaw _, hcons⟩ s (List.mem_reverse.1 hs)

theorem fits_members (h : Keeps fuel) (acc : List (String × Source)) (cs : List Char)
    (hacc : ∀ m ∈ acc, m.2.Fits room) :
    ∀ m ∈ (Reader.members (fuel + 1) room acc cs).1, m.2.Fits room := by
  have hcons : ∀ {acc : List (String × Source)} {m : String × Source}, m.2.Fits room →
      (∀ m ∈ acc, m.2.Fits room) → ∀ e ∈ (m :: acc).reverse, e.2.Fits room :=
    fun hm hacc e he => (List.mem_cons.1 (List.mem_reverse.1 he)).elim (fun h => h ▸ hm) (hacc e)
  rw [members]
  dsimp only
  split
  · split
    · exact hcons (Source.fits_flaw _) hacc
    · split
      · rename_i key sound _ _ _ rest _
        have hvalue := h.value room rest
        generalize value fuel room rest = read at hvalue ⊢
        obtain ⟨src, rest?⟩ := read
        -- A member whose key cannot be read stands in the list as a flaw, whatever its value is.
        have hmember : Source.Fits room (if sound = true then (String.ofList key.reverse, src) else
            ("", Source.flaw (if rest?.isSome = true then .unreadableKey else .malformed))).2 := by
          split
          · exact hvalue
          · exact Source.fits_flaw _
        cases rest? with
        | none => exact hcons hmember hacc
        | some rest =>
          dsimp only
          split
          · exact hcons hmember hacc
          · -- The rest is read with less fuel and the new member in the accumulator.
            refine h.members room _ _ ?_
            exact List.forall_mem_cons.2 ⟨hmember, hacc⟩
          · refine hcons (Source.fits_flaw _) ?_
            exact List.forall_mem_cons.2 ⟨hmember, hacc⟩
      · exact hcons (Source.fits_flaw _) hacc
  · exact hcons (Source.fits_flaw _) hacc

theorem keeps (fuel : Nat) : Keeps fuel := by
  induction fuel with
  | zero =>
    refine ⟨fun _ _ => Source.fits_flaw _, fun room acc cs hacc src hsrc => ?_,
      fun room acc cs hacc m hm => ?_⟩
    · exact List.forall_mem_cons.2 ⟨Source.fits_flaw _, hacc⟩ src (List.mem_reverse.1 hsrc)
    · rcases List.mem_cons.1 (List.mem_reverse.1 hm) with rfl | hm
      · exact Source.fits_flaw _
      · exact hacc m hm
  | succ fuel ih =>
    exact ⟨fun _ => fits_value ih, fun _ => fits_items ih, fun _ => fits_members ih⟩

end Reader

/-- **A value that is read is within the limits of the reader.** -/
theorem fits_of_document {s : String} {v : Json} (h : (Document.ofString s).root.toJson = .ok v) :
    v.Fits depthLimit := by
  have hfits := (Reader.keeps (2 * s.toList.length + 2)).value depthLimit s.toList
  rw [Document.ofString, Document.ofChars] at h
  generalize Reader.value (2 * s.toList.length + 2) depthLimit s.toList = read at h hfits
  obtain ⟨src, rest | _⟩ := read <;> exact hfits v h

end Json
end DialogueStore
