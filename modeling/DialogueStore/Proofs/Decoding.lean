/-
What is read of an object.

A shape reads an object from left to right, member by member.  When it is done, lookups
tell what it has read, in whatever order the members stood.

* `Shape.members_induction` — a property of all members read so far,
* `Shape.get_of_members` — a declared field holds what its member says, or its default,
* `Shape.get_of_closed` — the same of an object or an array of the fields,
* `Shape.Carries.read` — the object is a value, and its other members are carried along,
* `Shape.members_declared`, `Shape.members_kept` — how a written object is read back.
-/
import Mathlib.Data.List.Forall2
import DialogueStore.Json.Decode
import DialogueStore.Proofs.Maps

namespace DialogueStore

namespace Json

/-- One more member is read behind all others. -/
theorem Source.toJsonMembers_append_singleton {ms : List (String × Source)} {read vs : Dict Json}
    {key : String} {s : Source} {v : Json} (hms : toJsonMembers read ms = .ok vs)
    (hv : toJson s = .ok v) : toJsonMembers read (ms ++ [(key, s)]) = .ok (vs.insert key v) := by
  induction ms generalizing read with
  | nil =>
    cases hms
    rw [List.nil_append, toJsonMembers, hv]
    rfl
  | cons m rest ih =>
    rw [toJsonMembers] at hms
    obtain ⟨w, hw, hms⟩ := exists_of_bind hms
    rw [List.cons_append, toJsonMembers, hw]
    exact ih hms

/-- The part of a source that has a key in an object, or a place in an array. -/
def Source.part? (key : String) (place : Nat) : Source → Option Source
  | .object ms => Dict.get? ms key
  | .array srcs => srcs[place]?
  | _ => none

/-! ### Values -/

namespace Decoder

variable {α : Type} {d : Decoder α} {src : Source} {items : List Source}

/-- All that is decoded has a value. -/
def ReadsValues (d : Decoder α) : Prop := ∀ src a, d src = .ok a → ∃ v, src.toJson = .ok v

theorem readsValues_text : text.ReadsValues := by
  intro src a h
  cases src with
  | string s => exact ⟨.string s, rfl⟩
  | null | bool _ | number _ | array _ | object _ | flaw _ => cases h

theorem readsValues_float : float.ReadsValues := by
  intro src a h
  cases src with
  | number n => exact ⟨.number n, rfl⟩
  | null | bool _ | string _ | array _ | object _ | flaw _ => cases h

theorem exists_of_map {β : Type} {f : α → β} {b : β} (h : f <$> d src = .ok b) :
    ∃ a, d src = .ok a ∧ b = f a := by
  obtain ⟨a, ha, h⟩ := exists_of_bind ((map_eq_pure_bind ..).symm.trans h)
  exact ⟨a, ha, (Except.ok.inj h).symm⟩

/-- What is decoded as a value that may be null, is null or a value. -/
theorem optional_cases {a? : Option α} (h : optional d src = .ok a?) :
    src = .null ∧ a? = none ∨ src ≠ .null ∧ ∃ a, d src = .ok a ∧ a? = some a := by
  cases src with
  | null =>
    cases h
    exact .inl ⟨rfl, rfl⟩
  | bool _ | number _ | string _ | array _ | object _ | flaw _ =>
    obtain ⟨a, ha, rfl⟩ := exists_of_map h
    exact .inr ⟨nofun, a, ha, rfl⟩

theorem optional_of_ne_null (h : src ≠ .null) : optional d src = some <$> d src := by
  cases src with
  | null => exact absurd rfl h
  | bool _ | number _ | string _ | array _ | object _ | flaw _ => rfl

theorem ReadsValues.optional (hd : d.ReadsValues) : (Decoder.optional d).ReadsValues := by
  intro src a? h
  rcases optional_cases h with ⟨rfl, -⟩ | ⟨-, a, ha, -⟩
  · exact ⟨.null, rfl⟩
  · exact hd src a ha

/-- The items of an array are decoded one by one. -/
theorem forall₂_of_mapM {as : List α} (h : items.mapM d = .ok as) :
    List.Forall₂ (fun src a => d src = .ok a) items as := by
  induction items generalizing as with
  | nil =>
    cases h
    exact .nil
  | cons src rest ih =>
    rw [List.mapM_cons] at h
    obtain ⟨a, ha, h⟩ := exists_of_bind h
    obtain ⟨bs, hbs, h⟩ := exists_of_bind h
    cases h
    exact .cons ha (ih hbs)

theorem exists_of_list {as : List α} (h : list d src = .ok as) :
    ∃ items, src = .array items ∧ List.Forall₂ (fun src a => d src = .ok a) items as := by
  cases src with
  | array items => exact ⟨items, rfl, forall₂_of_mapM h⟩
  | null | bool _ | number _ | string _ | object _ | flaw _ => cases h

/-- The values of items that are decoded one by one. -/
theorem forall₂_values {as : List α} {vs : List Json}
    (h : List.Forall₂ (fun src a => d src = .ok a) items as)
    (hvs : Source.toJsonItems items = .ok vs) :
    List.Forall₂ (fun v a => ∃ src : Source, src.toJson = .ok v ∧ d src = .ok a) vs as := by
  induction h generalizing vs with
  | nil =>
    cases hvs
    exact .nil
  | cons ha _ ih =>
    rw [Source.toJsonItems] at hvs
    obtain ⟨v, hv, hvs⟩ := exists_of_bind hvs
    obtain ⟨ws, hws, hvs⟩ := exists_of_bind hvs
    cases hvs
    exact .cons ⟨_, hv, ha⟩ (ih hws)

theorem ReadsValues.list (hd : d.ReadsValues) : (Decoder.list d).ReadsValues := by
  intro src as h
  obtain ⟨items, rfl, hall⟩ := exists_of_list h
  have hvalues : ∃ vs, Source.toJsonItems items = .ok vs := by
    clear h
    induction hall with
    | nil => exact ⟨[], rfl⟩
    | cons ha _ ih =>
      obtain ⟨v, hv⟩ := hd _ _ ha
      obtain ⟨vs, hvs⟩ := ih
      refine ⟨v :: vs, ?_⟩
      rw [Source.toJsonItems, hv, hvs]
      rfl
  obtain ⟨vs, hvs⟩ := hvalues
  refine ⟨.array vs, ?_⟩
  rw [Source.toJson, hvs]
  rfl

/-- A list of values that are read back one by one is read back. -/
theorem list_ofJson {write : α → Json} {as : List α}
    (h : ∀ a ∈ as, d (.ofJson (write a)) = .ok a) :
    list d (.ofJson (.array (as.map write))) = .ok as := by
  show (Source.ofJsonItems (as.map write)).mapM d = .ok as
  induction as with
  | nil => rfl
  | cons a rest ih =>
    rw [List.map_cons, Source.ofJsonItems, List.mapM_cons, h a List.mem_cons_self,
      ih fun b hb => h b (List.mem_cons_of_mem _ hb)]
    rfl

/-- What a field holds: what its member says, or its default if there is none. -/
def Gives (d : Decoder α) (default : α) : Option Source → α → Prop
  | none, a => a = default
  | some src, a => d src = .ok a

end Decoder

/-! ### One field -/

namespace Field

variable {σ α : Type} {key : String} {d : Decoder α} {set : σ → α → σ} {s s' : σ} {src : Source}

/-- A field of a kind that is decoded and then set. -/
def IsSet (f : Field σ) (key : String) (d : Decoder α) (set : σ → α → σ) : Prop :=
  f.key = key ∧ ∀ s src, f.store s src = d src >>= fun a => .ok (set s a)

theorem isSet_defaulted : (defaulted key d set).IsSet key d set := ⟨rfl, fun _ _ => rfl⟩

theorem isSet_ordinal : (ordinal key d set).IsSet key d set := ⟨rfl, fun _ _ => rfl⟩

theorem isSet_required : (required key d set).IsSet key d set := ⟨rfl, fun _ _ => rfl⟩

theorem IsSet.exists_of_store {f : Field σ} (hf : f.IsSet key d set)
    (h : f.store s src = .ok s') : ∃ a, d src = .ok a ∧ s' = set s a := by
  rw [hf.2] at h
  obtain ⟨a, ha, h⟩ := exists_of_bind h
  cases h
  exact ⟨a, ha, rfl⟩

theorem IsSet.store_eq {f : Field σ} {a : α} (hf : f.IsSet key d set) (h : d src = .ok a) :
    f.store s src = .ok (set s a) := by
  rw [hf.2, h]
  rfl

/-- What is decoded for a field can be looked up afterwards. -/
def Tells (f : Field σ) (d : Decoder α) (get : σ → α) : Prop :=
  ∀ s src s', f.store s src = .ok s' → d src = .ok (get s')

/-- A field leaves what is looked up alone. -/
def Spares (f : Field σ) (get : σ → α) : Prop :=
  ∀ s src s', f.store s src = .ok s' → get s' = get s

theorem IsSet.tells {f : Field σ} {get : σ → α} (hf : f.IsSet key d set)
    (hget : ∀ s a, get (set s a) = a) : f.Tells d get := by
  intro s src s' h
  obtain ⟨a, ha, rfl⟩ := hf.exists_of_store h
  rw [ha, hget]

/-- The same where something is made of what is decoded. -/
theorem IsSet.tells_map {β : Type} {f : Field σ} {g : α → β} {get : σ → β}
    (hf : f.IsSet key d set) (hget : ∀ s a, get (set s a) = g a) :
    f.Tells (fun src => g <$> d src) get := by
  intro s src s' h
  obtain ⟨a, ha, rfl⟩ := hf.exists_of_store h
  show g <$> d src = .ok (get (set s a))
  rw [ha, hget]
  rfl

theorem IsSet.spares {β : Type} {f : Field σ} {get : σ → β} (hf : f.IsSet key d set)
    (hget : ∀ s a, get (set s a) = get s) : f.Spares get := by
  intro s src s' h
  obtain ⟨a, -, rfl⟩ := hf.exists_of_store h
  exact hget s a

/-- Setting a field leaves the other members alone. -/
theorem IsSet.carries {f : Field σ} {extra : σ → Dict Json} (hf : f.IsSet key d set)
    (hd : d.ReadsValues) (hset : ∀ s a, extra (set s a) = extra s) (s : σ) (src : Source) (s' : σ)
    (h : f.store s src = .ok s') : extra s' = extra s ∧ ∃ v, src.toJson = .ok v := by
  obtain ⟨a, ha, rfl⟩ := hf.exists_of_store h
  exact ⟨hset s a, hd src a ha⟩

end Field

namespace Shape

variable {σ α : Type} {shape : Shape σ} {other : σ → String → Source → Except Fault σ}
  {keep : σ → String → Json → σ} {start s s' : σ} {seen : List String}
  {ms rest : List (String × Source)}

/-! ### All members -/

/-- What is true at the start, and of what is read so far after each member, is true in the end.  A
declared key has not come before, and the others are not declared. -/
theorem members_induction {P : List (String × Source) → σ → Prop} (hstart : P [] start)
    (hstore : ∀ before s f src s', P before s → f ∈ shape → Dict.get? before f.key = none →
      f.store s src = .ok s' → P (before ++ [(f.key, src)]) s')
    (hother : ∀ before s key src s', P before s → (∀ f ∈ shape, f.key ≠ key) →
      other s key src = .ok s' → P (before ++ [(key, src)]) s')
    (h : shape.members other [] start ms = .ok s') : P ms s' := by
  -- The declared keys among the members before are those that have been seen.
  suffices hgo : ∀ (ms before : List (String × Source)) seen s, P before s →
      (∀ f ∈ shape, f.key ∉ seen → Dict.get? before f.key = none) →
      shape.members other seen s ms = .ok s' → P (before ++ ms) s' from
    hgo ms [] [] start hstart (fun _ _ _ => rfl) h
  intro ms
  induction ms with
  | nil =>
    intro before seen s hs _ h
    rw [members] at h
    split at h
    · cases h
      rwa [List.append_nil]
    · cases h
  | cons m rest ih =>
    intro before seen s hs hseen h
    obtain ⟨key, src⟩ := m
    rw [← List.singleton_append, ← List.append_assoc]
    rw [members] at h
    split at h
    · rename_i f hfind
      have hf := List.mem_of_find?_eq_some hfind
      obtain rfl : f.key = key := by simpa using List.find?_some hfind
      split at h
      · cases h
      · rename_i hnew
        obtain ⟨next, hnext, h⟩ := exists_of_bind h
        have hnone := hseen f hf (by simpa using hnew)
        refine ih _ _ next (hstore before s f src next hs hf hnone hnext) ?_ h
        intro g hg hunseen
        rw [List.mem_cons, not_or] at hunseen
        rw [Dict.get?_append, hseen g hg hunseen.2]
        -- The key has been seen now, and every other one still has to come.
        simp [Dict.get?, Ne.symm hunseen.1]
    · rename_i hfind
      have hundeclared : ∀ f ∈ shape, f.key ≠ key := by simpa using hfind
      obtain ⟨next, hnext, h⟩ := exists_of_bind h
      refine ih _ _ next (hother before s key src next hs hundeclared hnext) ?_ h
      intro g hg hunseen
      rw [Dict.get?_append, hseen g hg hunseen]
      simp [Dict.get?, (hundeclared g hg).symm]

/-! ### Declared fields -/

/-- A shape has a field under a key and at a place, and no other field touches what it tells. -/
inductive Places (key : String) (d : Decoder α) (get : σ → α) : Shape σ → Nat → Prop
  | here {f : Field σ} {rest : Shape σ} (hkey : f.key = key) (htells : f.Tells d get)
    (hrest : ∀ g ∈ rest, g.key ≠ key ∧ g.Spares get) : Places key d get (f :: rest) 0
  | there {f : Field σ} {rest : Shape σ} {place : Nat} (hkey : f.key ≠ key)
    (hspares : f.Spares get) (hrest : Places key d get rest place) :
    Places key d get (f :: rest) (place + 1)

section Places

variable {get : σ → α} {d : Decoder α} {key : String} {place : Nat} {srcs : List Source}

theorem Places.exists_key (h : Places key d get shape place) : ∃ f ∈ shape, f.key = key := by
  induction h with
  | here hkey => exact ⟨_, List.mem_cons_self, hkey⟩
  | there _ _ _ ih =>
    obtain ⟨f, hf, hkey⟩ := ih
    exact ⟨f, List.mem_cons_of_mem _ hf, hkey⟩

theorem Places.tells_or_spares (h : Places key d get shape place) :
    ∀ f ∈ shape, f.key = key ∧ f.Tells d get ∨ f.key ≠ key ∧ f.Spares get := by
  induction h with
  | here hkey htells hrest =>
    exact List.forall_mem_cons.2 ⟨.inl ⟨hkey, htells⟩, fun g hg => .inr (hrest g hg)⟩
  | there hkey hspares _ ih => exact List.forall_mem_cons.2 ⟨.inr ⟨hkey, hspares⟩, ih⟩

/-- **A declared field holds what its member says, or else its default.** -/
theorem get_of_members (hplaces : Places key d get shape place)
    (hother : ∀ s k src s', other s k src = .ok s' → get s' = get s)
    (h : shape.members other [] start ms = .ok s') :
    d.Gives (get start) (Dict.get? ms key) (get s') := by
  refine members_induction
    (P := fun before s => d.Gives (get start) (Dict.get? before key) (get s)) rfl ?_ ?_ h
  · intro before s f src s' hs hf hnone hstored
    rw [Dict.get?_append]
    rcases hplaces.tells_or_spares f hf with ⟨rfl, htells⟩ | ⟨hne, hspares⟩
    · rw [hnone, Option.none_or]
      simpa [Dict.get?, Decoder.Gives] using htells s src s' hstored
    · have hget : Dict.get? [(f.key, src)] key = none := by simp [Dict.get?, hne]
      rw [hget, Option.or_none, hspares s src s' hstored]
      exact hs
  · intro before s k src s' hs hundeclared hkept
    obtain ⟨f, hf, rfl⟩ := hplaces.exists_key
    have hget : Dict.get? [(k, src)] f.key = none := by
      simp [Dict.get?, (hundeclared f hf).symm]
    rw [Dict.get?_append, hget, Option.or_none, hother s k src s' hkept]
    exact hs

/-- The same of an object whose other members are kept. -/
theorem get_of_open (hplaces : Places key d get shape place)
    (h : shape.open start keep (.object ms) = .ok s')
    (hkeep : ∀ s k v, get (keep s k v) = get s) :
    d.Gives (get start) (Dict.get? ms key) (get s') := by
  refine get_of_members hplaces ?_ h
  intro s k src s' h
  obtain ⟨v, -, h⟩ := exists_of_bind h
  cases h
  exact hkeep s k v

theorem items_nil (h : shape.items s [] = .ok s') : s' = s := by
  induction shape with
  | nil =>
    cases h
    rfl
  | cons f rest ih =>
    rw [items] at h
    split at h
    · exact ih h
    · cases h

theorem get_of_spares (hspares : ∀ f ∈ shape, f.Spares get) (h : shape.items s srcs = .ok s') :
    get s' = get s := by
  induction shape generalizing s srcs with
  | nil =>
    cases srcs with
    | nil => rw [items_nil h]
    | cons src rest => cases h
  | cons f rest ih =>
    cases srcs with
    | nil => rw [items_nil h]
    | cons src srcs =>
      rw [items] at h
      obtain ⟨next, hnext, h⟩ := exists_of_bind h
      rw [ih (fun g hg => hspares g (List.mem_cons_of_mem _ hg)) h,
        hspares f List.mem_cons_self s src next hnext]

/-- In an array, a declared field holds what the item at its place says, or else its default. -/
theorem get_of_items (hplaces : Places key d get shape place)
    (h : shape.items s srcs = .ok s') : d.Gives (get s) srcs[place]? (get s') := by
  induction hplaces generalizing s srcs with
  | here _ htells hrest =>
    cases srcs with
    | nil => exact congrArg get (items_nil h)
    | cons src srcs =>
      rw [items] at h
      obtain ⟨next, hnext, h⟩ := exists_of_bind h
      -- The fields behind this one leave it as it has been set.
      rw [List.getElem?_cons_zero, get_of_spares (fun g hg => (hrest g hg).2) h]
      exact htells s src next hnext
  | there _ hspares _ ih =>
    cases srcs with
    | nil => exact congrArg get (items_nil h)
    | cons src srcs =>
      rw [items] at h
      obtain ⟨next, hnext, h⟩ := exists_of_bind h
      rw [List.getElem?_cons_succ, ← hspares s src next hnext]
      exact ih h

/-- **What a field holds of an object or an array of the fields.** -/
theorem get_of_closed {src : Source} (hplaces : Places key d get shape place)
    (h : shape.closed start src = .ok s') :
    d.Gives (get start) (src.part? key place) (get s') := by
  cases src with
  | null | bool _ | number _ | string _ | flaw _ => cases h
  | array srcs => exact get_of_items hplaces h
  | object ms =>
    refine get_of_members hplaces ?_ h
    intro s k src s' h
    obtain ⟨_, -, h⟩ := exists_of_bind h
    cases h
    rfl

end Places

/-! ### Other members -/

/-- Members that are carried along: they are in order, none of them is declared, and their values
are in normal form. -/
structure Keeps (shape : Shape σ) (d : Dict Json) : Prop where
  sorted : d.Sorted
  undeclared : ∀ m ∈ d, ∀ f ∈ shape, f.key ≠ m.1
  normal : ∀ m ∈ d, m.2.Normal

theorem keeps_nil : shape.Keeps [] where
  sorted := .nil
  undeclared := List.forall_mem_nil _
  normal := List.forall_mem_nil _

theorem Keeps.insert {d : Dict Json} {key : String} {v : Json} (h : shape.Keeps d)
    (hkey : ∀ f ∈ shape, f.key ≠ key) (hv : v.Normal) : shape.Keeps (d.insert key v) where
  sorted := h.sorted.insert key v
  undeclared := by
    intro m hm
    rcases Dict.mem_insert hm with rfl | hm
    · exact hkey
    · exact h.undeclared m hm
  normal := by
    intro m hm
    rcases Dict.mem_insert hm with rfl | hm
    · exact hv
    · exact h.normal m hm

/-- What has been read of an object: its members have these values, and those of them that are not
declared are carried along. -/
structure Read (shape : Shape σ) (ms : List (String × Source)) (vs extra : Dict Json) : Prop where
  value : Source.toJsonMembers [] ms = .ok vs
  keeps : shape.Keeps extra
  others : ∀ key, (∀ f ∈ shape, f.key ≠ key) → vs.get? key = extra.get? key
  declared : ∀ f ∈ shape, (Dict.get? ms f.key).map Source.toJson = (vs.get? f.key).map .ok

namespace Read

variable {vs extra : Dict Json} {f : Field σ}

theorem exists_value (h : shape.Read ms vs extra) (hf : f ∈ shape) {src : Source}
    (hsrc : Dict.get? ms f.key = some src) : ∃ v, src.toJson = .ok v ∧ vs.get? f.key = some v := by
  have hdeclared := h.declared f hf
  rw [hsrc, Option.map_some, eq_comm, Option.map_eq_some_iff] at hdeclared
  obtain ⟨v, hget, hv⟩ := hdeclared
  exact ⟨v, hv.symm, hget⟩

theorem get?_eq_none (h : shape.Read ms vs extra) (hf : f ∈ shape)
    (hnone : Dict.get? ms f.key = none) : vs.get? f.key = none := by
  have hdeclared := h.declared f hf
  rw [hnone, Option.map_none, eq_comm, Option.map_eq_none_iff] at hdeclared
  exact hdeclared

end Read

/-- A shape whose fields are values, and that keeps all other members. -/
structure Carries (shape : Shape σ) (keep : σ → String → Json → σ) (extra : σ → Dict Json) :
    Prop where
  store : ∀ f ∈ shape, ∀ s src s', f.store s src = .ok s' →
    extra s' = extra s ∧ ∃ v, src.toJson = .ok v
  keep : ∀ s key v, extra (keep s key v) = (extra s).insert key v

/-- **An object that is read has a value, and its other members are carried along.** -/
theorem Carries.read {extra : σ → Dict Json} (hcarries : shape.Carries keep extra)
    (hstart : extra start = []) (h : shape.open start keep (.object ms) = .ok s') :
    ∃ vs, shape.Read ms vs (extra s') := by
  refine members_induction (P := fun before s => ∃ vs, shape.Read before vs (extra s)) ?_ ?_ ?_ h
  · -- At the start nothing has been read.
    exact ⟨[], rfl, hstart ▸ keeps_nil, fun _ _ => by rw [hstart], fun _ _ => rfl⟩
  · rintro before s f src s' ⟨vs, hread⟩ hf hnone hstored
    obtain ⟨hextra, v, hv⟩ := hcarries.store f hf s src s' hstored
    -- A declared member has a value, and what is carried along stays.
    refine ⟨vs.insert f.key v, Source.toJsonMembers_append_singleton hread.value hv,
      hextra ▸ hread.keeps, ?_, ?_⟩
    · intro key hkey
      rw [hextra, Dict.get?_insert, if_neg (hkey f hf), hread.others key hkey]
    · intro g hg
      rw [Dict.get?_append, Dict.get?_insert]
      by_cases hfg : f.key = g.key
      · rw [if_pos hfg, ← hfg, hnone]
        simp [Dict.get?, hv]
      · have hget : Dict.get? [(f.key, src)] g.key = none := by simp [Dict.get?, hfg]
        rw [if_neg hfg, hget, Option.or_none, hread.declared g hg]
  · rintro before s key src s' ⟨vs, hread⟩ hundeclared hkept
    obtain ⟨v, hv, hkept⟩ := exists_of_bind hkept
    cases hkept
    -- Another member is carried along, and no declared key is touched.
    refine ⟨vs.insert key v, Source.toJsonMembers_append_singleton hread.value hv,
      ?_, ?_, ?_⟩
    · rw [hcarries.keep]
      exact hread.keeps.insert hundeclared (Source.normal_of_toJson hv)
    · intro k hk
      rw [hcarries.keep, Dict.get?_insert, Dict.get?_insert, hread.others k hk]
    · intro g hg
      have hget : Dict.get? [(key, src)] g.key = none := by
        simp [Dict.get?, (hundeclared g hg).symm]
      rw [Dict.get?_append, hget, Option.or_none, Dict.get?_insert,
        if_neg (hundeclared g hg).symm, hread.declared g hg]

/-! ### Reading back -/

/-- A declared member that has not come before is stored. -/
theorem members_declared {f : Field σ} {key : String} {src : Source} (next : σ)
    (hfind : shape.find? (fun f => f.key = key) = some f) (hnew : key ∉ seen)
    (hstore : f.store s src = .ok next) :
    shape.members other seen s ((key, src) :: rest) =
      shape.members other (key :: seen) next rest := by
  have hunseen : seen.contains key = false := by simpa using hnew
  rw [members, hfind]
  simp only [hunseen, hstore]
  rfl

/-- A member that is only written if there is something to write. -/
def memberIfAny (key : String) (written : Option Json) : Dict Json :=
  match written with
  | some v => [(key, v)]
  | none => []

/-- A declared member that may be missing is stored if it is there. -/
theorem members_ifAny {f : Field σ} {key : String} {written : Option Json} {d : Dict Json}
    {read : σ} (next : σ) (hfind : shape.find? (fun f => f.key = key) = some f) (hnew : key ∉ seen)
    (hstore : ∀ v ∈ written, f.store s (.ofJson v) = .ok next) (hnone : written = none → s = next)
    (hrest : ∀ seen' ⊆ key :: seen,
      shape.members other seen' next (Source.ofJsonMembers d) = .ok read) :
    shape.members other seen s (Source.ofJsonMembers (memberIfAny key written ++ d)) =
      .ok read := by
  cases written with
  | none =>
    rw [hnone rfl]
    exact hrest seen (List.subset_cons_self _ _)
  | some v =>
    exact (members_declared next hfind hnew (hstore v rfl)).trans (hrest _ (List.Subset.refl _))

/-- Members that are not declared are kept one by one. -/
theorem members_others {d : Dict Json}
    (hundeclared : ∀ m ∈ d, ∀ f ∈ shape, f.key ≠ m.1) (hnormal : ∀ m ∈ d, m.2.Normal)
    (hneeded : ∀ f ∈ shape, f.needed = .always → f.key ∈ seen) :
    shape.members (fun s key src => do return keep s key (← src.toJson)) seen s
        (Source.ofJsonMembers d) =
      .ok (d.foldl (fun s m => keep s m.1 m.2) s) := by
  induction d generalizing s with
  | nil =>
    -- Behind the last member the fields that are needed must have come.
    have hall : shape.all (fun f => f.needed ≠ .always || seen.contains f.key) = true := by
      rw [List.all_eq_true]
      intro f hf
      by_cases hf' : f.needed = .always
      · simp [hneeded f hf hf']
      · simp [hf']
    rw [Source.ofJsonMembers, members, if_pos hall]
    rfl
  | cons m rest ih =>
    obtain ⟨key, v⟩ := m
    have hfind : shape.find? (fun f => f.key = key) = none := by
      simpa using hundeclared (key, v) List.mem_cons_self
    -- The member is not declared, and its value is the one that was written.
    have hread := Source.toJson_ofJson (hnormal (key, v) List.mem_cons_self)
    rw [Source.ofJsonMembers, members, hfind]
    simp only [hread]
    exact ih (fun m hm => hundeclared m (List.mem_cons_of_mem _ hm))
      fun m hm => hnormal m (List.mem_cons_of_mem _ hm)

/-- **Members that were carried along are carried along again.** -/
theorem members_kept (put : Dict Json → σ) {d : Dict Json}
    (hput : ∀ d key v, keep (put d) key v = put (d.insert key v)) (h : shape.Keeps d)
    (hneeded : ∀ f ∈ shape, f.needed = .always → f.key ∈ seen) :
    shape.members (fun s key src => do return keep s key (← src.toJson)) seen (put [])
        (Source.ofJsonMembers d) = .ok (put d) := by
  have hfold : d.foldl (fun s m => keep s m.1 m.2) (put []) = put (Dict.union [] d) :=
    List.foldl_hom put fun d m => hput d m.1 m.2
  rw [members_others h.undeclared h.normal hneeded, hfold, Dict.nil_union h.sorted]

end Shape

end Json

end DialogueStore
