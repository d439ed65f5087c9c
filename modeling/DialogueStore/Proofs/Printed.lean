/-
Values are read back from what is printed of them, but for doubles.

The text of a value, on one line or over several, spells the value with each number read from its
own numeral (`reread`).  A whole number of 64 bits is read as itself.  A double is printed with
the fewest digits that tell it from all others, but it is not read to the nearest double, so that
it may come back as another one (`Reader.scale`); `Float.Legible` says of a double that it
does not.

* `ofString_printed` — what is read of a printed value,
* `parse_printed_iff` — it is the value again, exactly if all doubles in it are legible.
-/
import DialogueStore.Proofs.Limits
import DialogueStore.Proofs.Maps
import DialogueStore.Proofs.Spelling

namespace DialogueStore

namespace Json

/-! ### What is read of a printed value -/

mutual

/-- What is read of a value that was printed: the same, but with each number read again. -/
def reread : Json → Source
  | .null => .null
  | .bool b => .bool b
  | .number n => (Document.ofString (Number.print n)).root
  | .string s => .string s
  | .array items => .array (rereadItems items)
  | .object members => .object (rereadMembers members)

def rereadItems : List Json → List Source
  | [] => []
  | v :: rest => reread v :: rereadItems rest

def rereadMembers : List (String × Json) → List (String × Source)
  | [] => []
  | (k, v) :: rest => (k, reread v) :: rereadMembers rest

end

theorem rereadItems_eq_map (items : List Json) : rereadItems items = items.map reread := by
  induction items with
  | nil => rfl
  | cons v rest ih => rw [rereadItems, ih, List.map_cons]

theorem rereadMembers_eq_mapValues (members : Dict Json) :
    rereadMembers members = members.mapValues reread := by
  induction members with
  | nil => rfl
  | cons m rest ih =>
    obtain ⟨k, v⟩ := m
    rw [rereadMembers, ih]
    rfl

namespace Reader

/-- A number is printed as a numeral or as null. -/
theorem exists_spells_print (n : Number) :
    ∃ src, ∀ room, Spells room src (Number.print n).toList := by
  cases n with
  | int n =>
    rw [NumberText.toList_print_int]
    exact ⟨_, fun room => .number (NumberText.proper_ofWhole n)⟩
  | float x =>
    show ∃ src, ∀ room, Spells room src (Decimal.jsonLayout.write x).toList
    rcases Decimal.write_cases x with ⟨-, hnull⟩ | ⟨-, t, ht, htext⟩
    · rw [hnull]
      exact ⟨.null, fun room => .null⟩
    · rw [htext]
      exact ⟨_, fun room => .number ht.proper⟩

theorem spells_number (room : Nat) (n : Number) :
    Spells room (reread (.number n)) (Number.print n).toList := by
  obtain ⟨src, hspells⟩ := exists_spells_print n
  rw [reread, Document.ofString, Document.ofChars_spells (hspells depthLimit)]
  exact hspells room

theorem blanks_newline (level : Nat) : Blanks (newline level).toList := by
  intro c hc
  simp only [newline, String.toList_append, String.toList_ofList, List.mem_append] at hc
  rcases hc with hc | hc
  · obtain rfl : c = '\n' := by simpa using hc
    rfl
  · obtain rfl : c = ' ' := List.eq_of_mem_replicate hc
    rfl

mutual

theorem spells_compact {room : Nat} {v : Json} (h : v.Fits room) :
    Spells room v.reread v.compact.toList := by
  cases h with
  | null => exact .null
  | bool b => exact .bool b
  | int _ _ => exact spells_number room _
  | float x => exact spells_number room _
  | string s => exact .string s
  | @array room items h =>
    cases items with
    -- Brackets with nothing between them are a spelling of their own.
    | nil => exact .noItems
    | cons v rest =>
      have hitems := spells_compactItems h (List.cons_ne_nil v rest)
      rw [reread, compact, String.toList_append, String.toList_append, List.append_assoc]
      exact .items hitems
  | @object room members h =>
    cases members with
    | nil => exact .noMembers
    | cons m rest =>
      have hmembers := spells_compactMembers h (List.cons_ne_nil m rest)
      rw [reread, compact, String.toList_append, String.toList_append, List.append_assoc]
      exact .members hmembers

theorem spells_compactItems {room : Nat} {items : List Json} (h : ∀ v ∈ items, v.Fits room)
    (hne : items ≠ []) :
    SpellsItems room (rereadItems items) ((compactItems items).toList ++ [']']) := by
  cases items with
  | nil => exact absurd rfl hne
  | cons v rest =>
    have hv := spells_compact (h v List.mem_cons_self)
    cases rest with
    | nil => exact .last blanks_nil hv blanks_nil
    | cons w rest =>
      have hrest := spells_compactItems (fun v hv => h v (List.mem_cons_of_mem _ hv))
        (List.cons_ne_nil w rest)
      have hmore := SpellsItems.more blanks_nil hv blanks_nil hrest
      simpa [compactItems, rereadItems] using hmore

theorem spells_compactMembers {room : Nat} {members : List (String × Json)}
    (h : ∀ m ∈ members, m.2.Fits room) (hne : members ≠ []) :
    SpellsMembers room (rereadMembers members) ((compactMembers members).toList ++ ['\x7d']) := by
  cases members with
  | nil => exact absurd rfl hne
  | cons m rest =>
    obtain ⟨k, v⟩ := m
    have hv := spells_compact (h (k, v) List.mem_cons_self)
    cases rest with
    | nil =>
      have hlast := SpellsMembers.last k blanks_nil blanks_nil hv blanks_nil
      simpa [compactMembers, rereadMembers] using hlast
    | cons m rest =>
      have hrest := spells_compactMembers (fun m hm => h m (List.mem_cons_of_mem _ hm))
        (List.cons_ne_nil m rest)
      have hmore := SpellsMembers.more k blanks_nil blanks_nil hv blanks_nil hrest
      simpa [compactMembers, rereadMembers] using hmore

end

mutual

theorem spells_prettyAt {room : Nat} {v : Json} (level : Nat) (h : v.Fits room) :
    Spells room v.reread (prettyAt level v).toList := by
  cases h with
  | null => exact .null
  | bool b => exact .bool b
  | int _ _ => exact spells_number room _
  | float x => exact spells_number room _
  | string s => exact .string s
  | @array room items h =>
    cases items with
    | nil =>
      rw [prettyAt]
      exact .noItems
    | cons v rest =>
      have hitems := spells_prettyItems (level + 1) (blanks_newline level) h
        (List.cons_ne_nil v rest)
      simpa [reread, prettyAt] using Spells.items hitems
  | @object room members h =>
    cases members with
    | nil =>
      rw [prettyAt]
      exact .noMembers
    | cons m rest =>
      have hmembers := spells_prettyMembers (level + 1) (blanks_newline level) h
        (List.cons_ne_nil m rest)
      simpa [reread, prettyAt] using Spells.members hmembers

theorem spells_prettyItems {room : Nat} {items : List Json} {after : List Char} (level : Nat)
    (hafter : Blanks after) (h : ∀ v ∈ items, v.Fits room) (hne : items ≠ []) :
    SpellsItems room (rereadItems items)
      ((prettyItems level items).toList ++ (after ++ [']'])) := by
  cases items with
  | nil => exact absurd rfl hne
  | cons v rest =>
    have hbefore := blanks_newline level
    have hv := spells_prettyAt level (h v List.mem_cons_self)
    cases rest with
    | nil =>
      have hlast := SpellsItems.last hbefore hv hafter
      simpa [prettyItems, rereadItems] using hlast
    | cons w rest =>
      have hrest := spells_prettyItems level hafter (fun v hv => h v (List.mem_cons_of_mem _ hv))
        (List.cons_ne_nil w rest)
      have hmore := SpellsItems.more hbefore hv blanks_nil hrest
      simpa [prettyItems, rereadItems] using hmore

theorem spells_prettyMembers {room : Nat} {members : List (String × Json)} {after : List Char}
    (level : Nat) (hafter : Blanks after) (h : ∀ m ∈ members, m.2.Fits room) (hne : members ≠ []) :
    SpellsMembers room (rereadMembers members)
      ((prettyMembers level members).toList ++ (after ++ ['\x7d'])) := by
  cases members with
  | nil => exact absurd rfl hne
  | cons m rest =>
    obtain ⟨k, v⟩ := m
    have hbefore := blanks_newline level
    have hgap : Blanks [' '] := List.forall_mem_singleton.2 rfl
    have hv := spells_prettyAt level (h (k, v) List.mem_cons_self)
    cases rest with
    | nil =>
      have hlast := SpellsMembers.last k hbefore hgap hv hafter
      simpa [prettyMembers, rereadMembers] using hlast
    | cons m rest =>
      have hrest := spells_prettyMembers level hafter
        (fun m hm => h m (List.mem_cons_of_mem _ hm)) (List.cons_ne_nil m rest)
      have hmore := SpellsMembers.more k hbefore hgap hv blanks_nil hrest
      simpa [prettyMembers, rereadMembers] using hmore

end

end Reader

/-- **What is read of a printed value**, be it on one line or over several. -/
theorem ofString_printed {v : Json} (h : v.Fits depthLimit) :
    ∀ printed ∈ [v.compact, v.pretty], Document.ofString printed = ⟨v.reread, true⟩ := by
  simp only [List.mem_cons, List.not_mem_nil, or_false]
  rintro printed (rfl | rfl)
  · exact Document.ofChars_spells (Reader.spells_compact h)
  · exact Document.ofChars_spells (Reader.spells_prettyAt 0 h)

/-! ### Numbers that are read back -/

/-- The number is read back from what is printed of it. -/
def Number.Legible (n : Number) : Prop := parse (Number.print n) = .ok (.number n)

theorem ofString_print (n : Number) :
    Document.ofString (Number.print n) = ⟨reread (.number n), true⟩ :=
  Document.ofChars_spells (Reader.spells_number depthLimit n)

theorem Source.eq_number_of_toJson {src : Source} {n : Number}
    (h : src.toJson = .ok (.number n)) : src = .number n := by
  cases src with
  | number m => cases h; rfl
  | null | bool _ | string _ | flaw _ => cases h
  | array items =>
    obtain ⟨vs, -, h⟩ := exists_of_bind h
    cases h
  | object ms =>
    obtain ⟨vs, -, h⟩ := exists_of_bind h
    cases h

theorem legible_iff {n : Number} : Number.Legible n ↔ reread (.number n) = .number n := by
  have hread : parse (Number.print n) = (reread (.number n)).toJson := by
    rw [parse, Document.decode, ofString_print]
    cases (reread (.number n)).toJson <;> rfl
  rw [Number.Legible, hread]
  exact ⟨Source.eq_number_of_toJson, fun h => h ▸ rfl⟩

/-- **A whole number of 64 bits is read back.** -/
theorem legible_int {n : Int} (hlow : -0x8000000000000000 ≤ n) (hhigh : n < 0x10000000000000000) :
    Number.Legible (.int n) := by
  have hvalue := Reader.NumberText.value_ofWhole hlow hhigh
  have hspells : Reader.Spells depthLimit (Reader.NumberText.ofWhole n).source
      (Number.print (.int n)).toList :=
    Reader.NumberText.toList_print_int n ▸ .number (Reader.NumberText.proper_ofWhole n)
  rw [legible_iff, reread, Document.ofString, Document.ofChars_spells hspells]
  simp [Reader.NumberText.source, hvalue]

/-- What is read of a double that was printed is a double, or else no number. -/
theorem eq_float_of_reread {x : Float} {n : Number} (h : reread (.number (.float x)) = .number n) :
    x.isFinite = true ∧ ∃ y, n = .float y := by
  rw [reread, Document.ofString] at h
  rcases Decimal.write_cases x with ⟨-, hnull⟩ | ⟨hfinite, t, ht, htext⟩
  · -- A number that is not finite is written as `null`, which is read as no number.
    have hprint : Number.print (.float x) = "null" := hnull
    rw [hprint] at h
    cases h
  · -- The text has a point or an exponent, so that it is never read as an integer.
    have hspells : Reader.Spells depthLimit t.source (Number.print (.float x)).toList :=
      htext ▸ .number ht.proper
    rw [Document.ofChars_spells hspells] at h
    refine ⟨hfinite, ?_⟩
    simp only [Reader.NumberText.source] at h
    split at h
    · cases h
      rename_i hvalue
      rw [Reader.NumberText.value, ht.notWhole] at hvalue
      exact Reader.NumberText.exists_float_of_realValue hvalue
    · cases h

/-- A double that is not finite is printed as null, and null is no number. -/
theorem isFinite_of_legible {x : Float} (h : Number.Legible (.float x)) : x.isFinite = true :=
  (eq_float_of_reread (legible_iff.1 h)).1

/-! ### Values that are read back -/

/-- All doubles in a value are read back. -/
inductive Legible : Json → Prop
  | null : Legible .null
  | bool (b : Bool) : Legible (.bool b)
  | int (n : Int) : Legible (.number (.int n))
  | float {x : Float} (h : Number.Legible (.float x)) : Legible (.number (.float x))
  | string (s : String) : Legible (.string s)
  | array {items : List Json} (h : ∀ v ∈ items, Legible v) : Legible (.array items)
  | object {members : Dict Json} (h : ∀ m ∈ members, Legible m.2) : Legible (.object members)

theorem rereadItems_eq {items : List Json} (h : ∀ v ∈ items, v.reread = .ofJson v) :
    rereadItems items = Source.ofJsonItems items := by
  induction items with
  | nil => rfl
  | cons v rest ih =>
    rw [rereadItems, Source.ofJsonItems, h v List.mem_cons_self,
      ih fun w hw => h w (List.mem_cons_of_mem _ hw)]

theorem rereadMembers_eq {members : List (String × Json)}
    (h : ∀ m ∈ members, m.2.reread = .ofJson m.2) :
    rereadMembers members = Source.ofJsonMembers members := by
  induction members with
  | nil => rfl
  | cons m rest ih =>
    obtain ⟨k, v⟩ := m
    rw [rereadMembers, Source.ofJsonMembers, h (k, v) List.mem_cons_self,
      ih fun m hm => h m (List.mem_cons_of_mem _ hm)]

theorem reread_eq {room : Nat} {v : Json} (h : v.Legible) (hfits : v.Fits room) :
    v.reread = .ofJson v := by
  induction h generalizing room with
  | null | bool _ | string _ => rfl
  | int n =>
    cases hfits with
    | int hlow hhigh => exact legible_iff.1 (legible_int hlow hhigh)
  | float h => exact legible_iff.1 h
  | array _ ih =>
    cases hfits with
    | array hfits => rw [reread, Source.ofJson, rereadItems_eq fun v hv => ih v hv (hfits v hv)]
  | object _ ih =>
    cases hfits with
    | object hfits => rw [reread, Source.ofJson, rereadMembers_eq fun m hm => ih m hm (hfits m hm)]

namespace Source

theorem get?_toJsonMembers {ms : List (String × Source)} {read vs : Dict Json} {key : String}
    (h : toJsonMembers read ms = .ok vs) (hkey : ∀ m ∈ ms, m.1 ≠ key) :
    vs.get? key = read.get? key := by
  induction ms generalizing read with
  | nil =>
    cases h
    rfl
  | cons m rest ih =>
    obtain ⟨k, s⟩ := m
    rw [toJsonMembers] at h
    obtain ⟨v, -, h⟩ := exists_of_bind h
    rw [ih h fun m hm => hkey m (List.mem_cons_of_mem _ hm), Dict.get?_insert,
      if_neg (hkey (k, s) List.mem_cons_self)]

/-- Of several members with one key the last one counts. -/
theorem get?_of_last {before after : List (String × Source)} {read vs : Dict Json} {key : String}
    {s : Source} (h : toJsonMembers read (before ++ (key, s) :: after) = .ok vs)
    (hlast : ∀ m ∈ after, m.1 ≠ key) : ∃ v, s.toJson = .ok v ∧ vs.get? key = some v := by
  induction before generalizing read with
  | nil =>
    rw [List.nil_append, toJsonMembers] at h
    obtain ⟨v, hv, h⟩ := exists_of_bind h
    refine ⟨v, hv, ?_⟩
    -- The later members have other keys and leave it alone.
    rw [get?_toJsonMembers h hlast, Dict.get?_insert, if_pos rfl]
  | cons m before ih =>
    rw [List.cons_append, toJsonMembers] at h
    obtain ⟨_, -, h⟩ := exists_of_bind h
    exact ih h

end Source

/-- What is read of a printed member that comes after all others of its key. -/
theorem toJson_reread_of_mem (declared : Dict Json) {d vs : Dict Json} (hd : d.Sorted)
    (h : Source.toJsonMembers [] (rereadMembers (declared ++ d)) = .ok vs) {key : String}
    {v : Json} (hm : (key, v) ∈ d) : ∃ w, v.reread.toJson = .ok w ∧ vs.get? key = some w := by
  obtain ⟨before, after, rfl⟩ := List.append_of_mem hm
  rw [← List.append_assoc, rereadMembers_eq_mapValues, Dict.mapValues, List.map_append] at h
  refine Source.get?_of_last h fun m' hm' => ?_
  obtain ⟨m, hm, rfl⟩ := List.mem_map.1 hm'
  -- A key that came again would be below itself in the order.
  have hlt : key < m.1 := (List.pairwise_cons.1 (List.pairwise_append.1 hd).2.1).1 m hm
  exact fun heq => String.lt_irrefl _ (heq ▸ hlt)

/-- A value that is read back from its printed text has legible doubles only. -/
theorem legible_of_toJson {v : Json} (hnormal : v.Normal) (h : v.reread.toJson = .ok v) :
    v.Legible := by
  induction hnormal with
  | null => exact .null
  | bool b => exact .bool b
  | string s => exact .string s
  | number n =>
    cases n with
    | int n => exact .int n
    | float x => exact .float (legible_iff.2 (Source.eq_number_of_toJson h))
  | @array items _ ih =>
    obtain ⟨vs, hvs, h⟩ := exists_of_bind h
    cases h
    -- The list is read item by item, and each one on its own is read back.
    have hitems := Source.forall₂_of_toJsonItems hvs
    rw [rereadItems_eq_map, List.forall₂_map_left_iff] at hitems
    exact .array fun v hv => ih v hv (List.forall₂_same.1 hitems v hv)
  | @object members sorted _ ih =>
    obtain ⟨vs, hvs, h⟩ := exists_of_bind h
    cases h
    refine .object fun m hm => ih m hm ?_
    -- In key order no key comes twice, and so the member that is found is this one.
    obtain ⟨w, hw, hget⟩ := toJson_reread_of_mem [] sorted hvs hm
    rw [hw, ← Option.some.inj (hget.symm.trans (sorted.mem_iff.1 hm))]

/-- **A value is read back from its printed text exactly if all doubles in it are legible.** -/
theorem parse_printed_iff {v : Json} (hnormal : v.Normal) (hfits : v.Fits depthLimit) :
    ∀ printed ∈ [v.compact, v.pretty], parse printed = .ok v ↔ v.Legible := by
  intro printed hprinted
  have hread : parse printed = v.reread.toJson := by
    rw [parse, Document.decode, ofString_printed hfits printed hprinted]
    cases v.reread.toJson <;> rfl
  rw [hread]
  refine ⟨legible_of_toJson hnormal, fun h => ?_⟩
  rw [reread_eq h hfits]
  exact Source.toJson_ofJson hnormal

end Json
end DialogueStore
