import CloudClient.Json.Record
import Mathlib.Data.List.Nodup
import Mathlib.Logic.Function.Basic

/-!
# What records are read from

`Tree.fields?` fills the fields of a record one member after the other. What it comes to can be said
of one field at a time: `Tree.field?` looks a field up by its name.

* `Tree.fields?_eq` — whenever the fields of a record are found, each of them is what is found under
  its name.
* `Tree.fields?_eq_some_iff` — when they are found; those of an object with distinct names always
  are (`Tree.fields?_object`).
* `Tree.Reads` — what all that a reader reads has in common, and with it every field of this kind.
-/

namespace CloudClient.Json

variable {names : List String} {name : String} {t : Tree} {g : String → Option Tree}

/-! ## Looking up a field -/

namespace Tree

/-- Is this the name of the member? -/
def isNamed (name : String) (m : Bytes × Tree) : Bool := Quoted.decode? m.1 == some name

/-- The tree of a field among those with these names. -/
def field? (names : List String) (name : String) : Tree → Option Tree
  | .object members => (members.find? (isNamed name)).map (·.2)
  | .array items => items[names.idxOf name]?
  | _ => none

/-- The members have names, and no two of them the same. -/
def Distinct (members : List (Bytes × Tree)) : Prop :=
  (∀ m ∈ members, (Quoted.decode? m.1).isSome) ∧ (members.map (Quoted.decode? ·.1)).Nodup

instance (members : List (Bytes × Tree)) : Decidable (Distinct members) :=
  inferInstanceAs (Decidable (_ ∧ _))

end Tree

/-! ## Filling fields -/

/-- A member fills the field with its name, unless the field is filled already. -/
theorem Fields.put?_map (hnames : names.Nodup) :
    put? name t names (names.map g) =
      if name ∈ names ∧ (g name).isSome then none
      else some (names.map (Function.update g name (some t))) := by
  induction names with
  | nil => simp [put?]
  | cons n names ih =>
    obtain ⟨hn, hnames⟩ := List.nodup_cons.1 hnames
    rw [List.map_cons, put?]
    by_cases hname : n = name
    · subst hname
      have hrest : names.map (Function.update g n (some t)) = names.map g :=
        List.map_congr_left fun m hm => Function.update_of_ne (ne_of_mem_of_not_mem hm hn) _ _
      simp [hrest]
    · rw [if_neg hname, ih hnames]
      by_cases hmem : name ∈ names ∧ (g name).isSome
      · simp [hmem]
      · simp [hmem, Ne.symm hname, Function.update_of_ne hname]

namespace Tree

variable {members : List (Bytes × Tree)} {fields : Fields}

/-- What the step of `Tree.fields?` does with one member. -/
def fill? (names : List String) (fields : Fields) (m : Bytes × Tree) : Option Fields := do
  Fields.put? (← Quoted.decode? m.1) m.2 names fields

/-- Fields that are filled already stay so, and the others are filled by the members. -/
theorem foldlM_fill?_eq (hnames : names.Nodup)
    (h : members.foldlM (fill? names) (names.map g) = some fields) :
    fields = names.map fun n => (g n).or ((members.find? (isNamed n)).map (·.2)) := by
  induction members generalizing g with
  | nil =>
    obtain rfl : names.map g = fields := by simpa using h
    simp
  | cons m members ih =>
    rw [List.foldlM_cons, Option.bind_eq_bind, Option.bind_eq_some_iff] at h
    obtain ⟨fields', hfill, hrest⟩ := h
    rw [fill?, Option.bind_eq_bind, Option.bind_eq_some_iff] at hfill
    obtain ⟨name, hname, hput⟩ := hfill
    rw [Fields.put?_map hnames] at hput
    split at hput
    · cases hput
    · rename_i hfree
      obtain rfl := Option.some.inj hput
      rw [ih hrest]
      refine List.map_congr_left fun n hn => ?_
      by_cases hsame : n = name
      · subst hsame
        have hnone : g n = none := by simpa [hn] using hfree
        simp [isNamed, hname, hnone]
      · have hother : isNamed n m = false := by simp [isNamed, hname, Ne.symm hsame]
        simp [Function.update_of_ne hsame, hother]

/-- **Members fill the fields** if they have names and none is that of a field that is filled
already, by one of them or before. -/
theorem foldlM_fill?_isSome_iff (hnames : names.Nodup) :
    (members.foldlM (fill? names) (names.map g)).isSome = true ↔
      (∀ m ∈ members, (Quoted.decode? m.1).isSome = true) ∧
        ∀ n ∈ names, members.countP (isNamed n) + (if (g n).isSome then 1 else 0) ≤ 1 := by
  induction members generalizing g with
  | nil =>
    have hle : ∀ n, (if (g n).isSome then 1 else 0) ≤ 1 := fun n => by split <;> omega
    simp [hle]
  | cons m members ih =>
    rw [List.foldlM_cons]
    cases hname : Quoted.decode? m.1 with
    | none => simp [fill?, hname]
    | some name =>
      have hnamed : ∀ n, isNamed n m = true ↔ name = n := fun n => by simp [isNamed, hname]
      rw [fill?, hname, Option.bind_eq_bind, Option.bind_eq_bind, Option.bind_some,
        Fields.put?_map hnames]
      by_cases htaken : name ∈ names ∧ (g name).isSome = true
      · rw [if_pos htaken]
        refine ⟨nofun, fun h => ?_⟩
        have hle := h.2 name htaken.1
        rw [List.countP_cons_of_pos ((hnamed name).2 rfl), if_pos htaken.2] at hle
        omega
      · rw [if_neg htaken, Option.bind_some, ih, List.forall_mem_cons, hname, Option.isSome_some,
          eq_self_iff_true, true_and]
        refine and_congr_right fun _ => forall₂_congr fun n hn => ?_
        by_cases hsame : name = n
        · subst hsame
          have hfree : ¬ (g name).isSome = true := fun hsome => htaken ⟨hn, hsome⟩
          rw [List.countP_cons_of_pos ((hnamed name).2 rfl), Function.update_self, if_neg hfree,
            Option.isSome_some, if_pos rfl, Nat.add_zero]
        · rw [List.countP_cons_of_neg (mt (hnamed n).1 hsame),
            Function.update_of_ne (Ne.symm hsame)]

/-! ## Reading records -/

theorem fields?_object_eq_foldlM :
    (object members).fields? names = members.foldlM (fill? names) (names.map fun _ => none) := rfl

/-- The elements of an array are the fields in their order. -/
theorem map_append_replicate_eq {items : List Tree} (hnames : names.Nodup)
    (h : items.length ≤ names.length) :
    items.map some ++ List.replicate (names.length - items.length) none =
      names.map fun n => items[names.idxOf n]? := by
  refine List.ext_getElem (by simp; omega) fun i hi hi' => ?_
  have hlt : i < names.length := by simpa using hi'
  rw [List.getElem_map, hnames.idxOf_getElem i hlt]
  by_cases hitem : i < items.length
  · rw [List.getElem_append_left (by simpa using hitem)]
    simp [hitem]
  · rw [List.getElem_append_right (by simpa using hitem)]
    simp [hitem]

/-- Each field of a record is what stands under its name. -/
theorem fields?_eq (hnames : names.Nodup) (h : t.fields? names = some fields) :
    fields = names.map fun n => t.field? names n := by
  cases t with
  | object members =>
    rw [fields?_object_eq_foldlM] at h
    simpa [field?] using foldlM_fill?_eq hnames h
  | array items =>
    rw [fields?] at h
    split at h
    · rename_i hle
      obtain rfl := Option.some.inj h
      exact map_append_replicate_eq hnames hle
    · cases h
  | null | bool | number | string => cases h

/-- The fields of a record can be told: the members of an object have names, and none that is the
name of a field occurs twice; or the elements of an array are not more than the fields. -/
inductive HasFields (names : List String) : Tree → Prop
  | object {members : List (Bytes × Tree)}
      (hdecoded : ∀ m ∈ members, (Quoted.decode? m.1).isSome = true)
      (hunique : ∀ n ∈ names, members.countP (isNamed n) ≤ 1) : HasFields names (object members)
  | array {items : List Tree} (h : items.length ≤ names.length) : HasFields names (array items)

/-- Null has no fields. -/
theorem HasFields.ne_null (h : t.HasFields names) : t ≠ .null := by
  rintro rfl
  cases h

/-- An array can tell one field if it has at most one element. -/
theorem HasFields.array_cases {items : List Tree} (h : (Tree.array items).HasFields [name]) :
    items = [] ∨ ∃ u, items = [u] := by
  cases h with
  | array hlength =>
    match items, hlength with
    | [], _ => exact .inl rfl
    | [u], _ => exact .inr ⟨u, rfl⟩

/-- The only element of an array is the only field. -/
theorem field?_singleton (name : String) (u : Tree) : (array [u]).field? [name] name = some u := by
  rw [field?, List.idxOf_cons_self]
  rfl

theorem fields?_isSome_iff (hnames : names.Nodup) :
    (t.fields? names).isSome = true ↔ t.HasFields names := by
  cases t with
  | object members =>
    rw [fields?_object_eq_foldlM, foldlM_fill?_isSome_iff hnames]
    exact ⟨fun h => .object h.1 h.2, fun h => by cases h with | object hd hu => exact ⟨hd, hu⟩⟩
  | array items =>
    rw [fields?]
    constructor
    · intro h
      split at h
      · exact .array ‹_›
      · cases h
    · rintro ⟨⟩
      rw [if_pos ‹_›]
      rfl
  | null | bool | number | string => exact ⟨nofun, nofun⟩

/-- **The fields of a record are found** if they can be told. -/
theorem fields?_eq_some_iff (hnames : names.Nodup) :
    t.fields? names = some fields ↔
      t.HasFields names ∧ fields = names.map fun n => t.field? names n := by
  constructor
  · intro h
    exact ⟨(fields?_isSome_iff hnames).1 (Option.isSome_of_eq_some h), fields?_eq hnames h⟩
  · rintro ⟨h, rfl⟩
    obtain ⟨fields, hfields⟩ := Option.isSome_iff_exists.1 ((fields?_isSome_iff hnames).2 h)
    rw [hfields, fields?_eq hnames hfields]

/-- The fields of an object with distinct names can be told. -/
theorem Distinct.hasFields (h : Distinct members) : (object members).HasFields names := by
  refine .object h.1 fun n _ => ?_
  have hcount : members.countP (isNamed n) =
      (members.map (Quoted.decode? ·.1)).count (some n) := by
    rw [List.count, List.countP_map]
    rfl
  rw [hcount]
  exact List.nodup_iff_count_le_one.1 h.2 _

/-- The fields of an object with distinct names are there to be read. -/
theorem fields?_object (hnames : names.Nodup) (hmembers : Distinct members) :
    (object members).fields? names =
      some (names.map fun n => (object members).field? names n) :=
  (fields?_eq_some_iff hnames).2 ⟨hmembers.hasFields, rfl⟩

/-! ## Reading fields -/

/-- A field that is neither missing nor null is read. -/
theorem optional_of_ne_null {α : Type} {t : Tree} (ht : t ≠ .null) (read : Tree → Option α) :
    optional read (some t) = (read t).map some := by
  cases t with
  | null => exact absurd rfl ht
  | bool | number | string | array | object => rfl

/-- A field that may be missing or null is one of these, or is read. -/
theorem optional_eq {α : Type} {read : Tree → Option α} {field : Option Tree} {o : Option α}
    (h : optional read field = some o) :
    (o = none ∧ (field = none ∨ field = some .null)) ∨
      ∃ t a, field = some t ∧ t ≠ .null ∧ read t = some a ∧ o = some a := by
  cases field with
  | none => exact .inl ⟨(Option.some.inj h).symm, .inl rfl⟩
  | some t =>
    by_cases hnull : t = .null
    · subst hnull
      exact .inl ⟨(Option.some.inj h).symm, .inr rfl⟩
    · rw [optional_of_ne_null hnull, Option.map_eq_some_iff] at h
      obtain ⟨a, ha, rfl⟩ := h
      exact .inr ⟨t, a, rfl, hnull, ha, rfl⟩

/-- What all results have in common, the results for a list have, too. -/
theorem forall_of_mapM {α β : Type} {f : α → Option β} {p : β → Prop} {as : List α} {bs : List β}
    (hf : ∀ a b, f a = some b → p b) (h : as.mapM f = some bs) : ∀ b ∈ bs, p b := by
  induction as generalizing bs with
  | nil =>
    obtain rfl : [] = bs := by simpa using h
    exact nofun
  | cons a as ih =>
    rw [List.mapM_cons] at h
    obtain ⟨b, hb, hrest⟩ := Option.bind_eq_some_iff.1 h
    obtain ⟨rest, hmap, heq⟩ := Option.bind_eq_some_iff.1 hrest
    obtain rfl := Option.some.inj heq
    exact List.forall_mem_cons.2 ⟨hf a b hb, ih hmap⟩

section Reads

variable {α : Type} {read : Tree → Option α} {p : α → Prop} {field : Option Tree} {a : α}

/-- Whatever is read has the property. -/
def Reads (read : Tree → Option α) (p : α → Prop) : Prop := ∀ t a, read t = some a → p a

theorem Reads.required (hread : Reads read p) (h : required read field = some a) : p a := by
  cases field with
  | none => cases h
  | some t => exact hread t a h

theorem Reads.withDefault {default : α} (hread : Reads read p) (hdefault : p default)
    (h : withDefault default read field = some a) : p a := by
  cases field with
  | none => exact Option.some.inj h ▸ hdefault
  | some t => exact hread t a h

theorem Reads.optional {o : Option α} (hread : Reads read p) (h : optional read field = some o) :
    ∀ a ∈ o, p a := by
  rcases optional_eq h with ⟨rfl, -⟩ | ⟨t, a, -, -, ha, rfl⟩
  · exact nofun
  · rintro _ ⟨⟩
    exact hread t a ha

/-- Each element of an array that is read has the property that all elements have. -/
theorem Reads.list? (hread : Reads read p) : Reads (list? read) fun as => ∀ a ∈ as, p a := by
  intro t as h
  cases t with
  | array items => exact forall_of_mapM hread h
  | null | bool | number | string | object => cases h

end Reads

end Tree

end CloudClient.Json
