import CloudClient.Json.Record
import CloudClient.Json.Value
import CloudClient.Proofs.Digits
import CloudClient.Proofs.JsonTrees
import CloudClient.Proofs.Members
import CloudClient.Proofs.WrittenStrings

/-!
# Values are read back

The text of a value is read as the tree of this value, as long as its numbers are whole. Readers
then find what was written: whole numbers within their bounds, and the fields of a record in
whatever order its members stand.

* `Tree.intIn?_ofInt` — whole numbers are read back.
* `Tree.parse?_render_iff` — a tree is read back exactly if it can be written.
* `Value.IsExact.parse?_bytes` — hence a value with whole numbers is.
* `Value.fields?_of_perm` — the fields of a record are found.
* `Value.isSome_value?_tree` — a value that was kept is read again.
-/

namespace CloudClient.Json

/-! ## Whole numbers -/

namespace Numeral

variable {n : Int} {s : List Char}

theorem isWhole_ofNat (n : Nat) : IsWhole (Decimal.ofNat n) := by
  refine ⟨⟨Decimal.ofNat_ne_nil n, fun c => Decimal.isDigit_of_mem_ofNat⟩, fun hhead => ?_⟩
  rw [Decimal.head?_ofNat hhead]
  rfl

/-- A whole number is a numeral. -/
theorem isNumeral_ofInt (n : Int) : IsNumeral (Decimal.ofInt n) := by
  have hparts {sign : List Char} (hsign : sign = [] ∨ sign = ['-']) (m : Nat) :
      IsNumeral (sign ++ Decimal.ofNat m) := by
    have h := IsNumeral.parts hsign (isWhole_ofNat m) .missing .missing
    rwa [List.append_nil, List.append_nil] at h
  cases n with
  | ofNat m => exact hparts (.inl rfl) m
  | negSucc m => exact hparts (.inr rfl) (m + 1)

theorem natOf_map_digit (s : List Char) : natOf (s.map digit) = Decimal.value s := by
  rw [natOf, List.foldl_map, Decimal.value, Nat.ofDigitChars]
  simp only [digit, Nat.mul_comm]

theorem parts?_of_isWhole (h : IsWhole s) (negative : Bool) :
    parts? negative s = some ⟨negative, s.map digit, [], none⟩ := by
  have hdigits : digits s = (s.map digit, []) := by
    have happend : digits (s ++ []) = (s.map digit, []) := digits_append h.1.2 nofun
    rwa [List.append_nil] at happend
  obtain ⟨vs, hwhole⟩ : ∃ vs, wholePart? (s ++ []) = some (vs, []) := wholePart?_append h nofun
  rw [List.append_nil] at hwhole
  obtain rfl : s.map digit = vs := by
    rw [wholePart?, hdigits] at hwhole
    split at hwhole
    · cases hwhole
    · cases hwhole
    · rename_i heq
      rw [(Prod.mk.inj heq).1]
      exact (Prod.mk.inj (Option.some.inj hwhole)).1
  rw [parts?, hwhole]
  rfl

theorem int?_whole (negative : Bool) (ds : List Nat) :
    int? ⟨negative, ds, [], none⟩ =
      if negative then
        if natOf ds = 0 ∨ 0x8000_0000_0000_0000 < natOf ds then none
        else some (-(natOf ds : Int))
      else if natOf ds < Decimal.wordSize then some (natOf ds)
      else none := rfl

/-- **A whole number is read back**, if it is in the range of 64-bit words. -/
theorem int?_ofInt (hlow : -0x8000_0000_0000_0000 ≤ n) (hhigh : n < Decimal.wordSize) :
    (parse? (Decimal.ofInt n)).bind int? = some n := by
  have hread {sign : Bool} (m : Nat) :
      (parts? sign (Decimal.ofNat m)).bind int? =
        int? ⟨sign, (Decimal.ofNat m).map digit, [], none⟩ := by
    rw [parts?_of_isWhole (isWhole_ofNat m), Option.bind_some]
  cases n with
  | ofNat m =>
    have hminus : (Decimal.ofNat m).head? ≠ some '-' := by
      obtain ⟨c, rest, heq, hc⟩ := exists_of_isWhole (isWhole_ofNat m)
      rw [heq]
      rintro ⟨⟩
      cases hc
    rw [Decimal.ofInt, parse?_of_ne hminus, hread, int?_whole, natOf_map_digit,
      Decimal.value_ofNat, if_neg Bool.false_ne_true, if_pos (Int.ofNat_lt.1 hhigh)]
    rfl
  | negSucc m =>
    have hrange : ¬ (m + 1 = 0 ∨ 0x8000_0000_0000_0000 < m + 1) := by omega
    rw [Decimal.ofInt, parse?_minus, hread, int?_whole, natOf_map_digit, Decimal.value_ofNat,
      if_pos rfl, if_neg hrange]
    rfl

/-- Whole numbers are read in the range of 64-bit words. -/
theorem bounds_of_int? {numeral : Numeral} (h : numeral.int? = some n) :
    -0x8000_0000_0000_0000 ≤ n ∧ n < Decimal.wordSize := by
  have hword : (Decimal.wordSize : Int) = 0x1_0000_0000_0000_0000 := rfl
  rw [int?] at h
  split at h
  · cases h
  split at h
  · split at h
    · cases h
    · rename_i hrange
      obtain rfl := Option.some.inj h
      omega
  · split at h
    · rename_i hlt
      obtain rfl := Option.some.inj h
      exact ⟨by omega, Int.ofNat_lt.2 hlt⟩
    · cases h

/-- A number is kept as a whole one only if it is read as one. -/
theorem int?_of_number? {numeral : Numeral} (h : numeral.number? = some (.whole n)) :
    numeral.int? = some n := by
  rw [number?] at h
  cases hint : numeral.int? with
  | some m =>
    rw [hint] at h
    cases h
    rfl
  | none =>
    rw [hint] at h
    obtain ⟨x, -, hx⟩ := Option.map_eq_some_iff.1 h
    cases hx

end Numeral

namespace Tree

variable {low high n : Int} {t : Tree}

/-- A whole number is read back within any bounds that it is in. -/
theorem intIn?_ofInt (hlow : low ≤ n) (hhigh : n ≤ high) (hmin : -0x8000_0000_0000_0000 ≤ n)
    (hmax : n < Decimal.wordSize) : intIn? low high (.number (Decimal.ofInt n)) = some n := by
  have hread := Numeral.int?_ofInt hmin hmax
  have hbounds : (decide (low ≤ n) && decide (n ≤ high)) = true := by
    rw [decide_eq_true hlow, decide_eq_true hhigh]
    rfl
  rw [intIn?, Option.bind_eq_bind]
  obtain ⟨numeral, hnumeral, hint⟩ := Option.bind_eq_some_iff.1 hread
  rw [hnumeral, Option.bind_some, hint, Option.filter_some, if_pos hbounds]

/-- The whole number fits into 64 bits with a sign. -/
def FitsInt64 (n : Int) : Prop := -0x8000_0000_0000_0000 ≤ n ∧ n ≤ 0x7FFF_FFFF_FFFF_FFFF

theorem reads_int64? : Reads int64? FitsInt64 := by
  intro t n h
  cases t with
  | number s =>
    obtain ⟨m, -, hfilter⟩ := Option.bind_eq_some_iff.1 h
    obtain ⟨-, hbounds⟩ := Option.filter_eq_some_iff.1 hfilter
    simpa [FitsInt64] using hbounds
  | null | bool | string | array | object => cases h

theorem int64?_number (h : FitsInt64 n) : int64? (Value.number (.whole n)).tree = some n := by
  have hword : (Decimal.wordSize : Int) = 0x1_0000_0000_0000_0000 := rfl
  exact intIn?_ofInt h.1 h.2 h.1 (by rw [hword]; have := h.2; omega)

theorem nat32?_number (n : UInt32) :
    nat32? (Value.number (.whole n.toNat)).tree = some n.toNat := by
  have hlt := n.toNat_lt
  have hword : (Decimal.wordSize : Int) = 0x1_0000_0000_0000_0000 := rfl
  rw [nat32?, Value.tree, Number.text, intIn?_ofInt (by omega) (by omega) (by omega) (by omega),
    Option.map_some, Int.toNat_natCast]

/-! ## Texts of trees -/

/-- The tree can be written: its numerals and strings are such. -/
def IsSound (t : Tree) : Prop := ∀ u ∈ t.tokens, u.IsSound

theorem isSound_of_spells {ts : List Token} {s : Bytes} (h : Token.Spells ts s) :
    ∀ u ∈ ts, u.IsSound := by
  induction h with
  | nil => exact nofun
  | cons _ ht _ ih => exact List.forall_mem_cons.2 ⟨ht, ih⟩

/-- Tokens that can be spelled are spelled one behind the other. -/
theorem spells_flatMap_render {ts : List Token} (h : ∀ u ∈ ts, u.IsSound) :
    Token.Spells ts (ts.flatMap Token.render) := by
  induction ts with
  | nil => exact .nil nofun
  | cons u ts ih =>
    obtain ⟨hu, hts⟩ := List.forall_mem_cons.1 h
    rw [List.flatMap_cons, ← List.nil_append (u.render ++ _)]
    exact .cons nofun hu (ih hts)

/-- **A tree is read back** exactly if it can be written. -/
theorem parse?_render_iff : parse? t.render = some t ↔ t.IsSound := by
  rw [parse?_eq_some_iff]
  exact ⟨isSound_of_spells, spells_flatMap_render⟩

theorem isSound_itemTokens {items : List Tree} (h : ∀ t ∈ items, t.IsSound) :
    ∀ u ∈ itemTokens items, u.IsSound := by
  induction items with
  | nil => exact nofun
  | cons t items ih =>
    obtain ⟨ht, hitems⟩ := List.forall_mem_cons.1 h
    cases items with
    | nil => exact ht
    | cons u items =>
      rw [itemTokens, List.forall_mem_append, List.forall_mem_cons]
      exact ⟨ht, trivial, ih hitems⟩

theorem isSound_memberTokens {members : List (Bytes × Tree)}
    (h : ∀ m ∈ members, IsQuoted m.1 ∧ m.2.IsSound) : ∀ u ∈ memberTokens members, u.IsSound := by
  induction members with
  | nil => exact nofun
  | cons m members ih =>
    obtain ⟨⟨hname, ht⟩, hmembers⟩ := List.forall_mem_cons.1 h
    cases members with
    | nil =>
      rw [memberTokens, List.forall_mem_cons, List.forall_mem_cons]
      exact ⟨hname, trivial, ht⟩
    | cons m' members =>
      rw [memberTokens, List.forall_mem_append, List.forall_mem_cons, List.forall_mem_cons,
        List.forall_mem_cons]
      exact ⟨⟨hname, trivial, ht⟩, trivial, ih hmembers⟩

theorem isSound_array {items : List Tree} (h : ∀ t ∈ items, t.IsSound) :
    (array items).IsSound := by
  rw [IsSound, tokens, List.forall_mem_append, List.forall_mem_cons, List.forall_mem_singleton]
  exact ⟨⟨trivial, isSound_itemTokens h⟩, trivial⟩

theorem isSound_object {members : List (Bytes × Tree)}
    (h : ∀ m ∈ members, IsQuoted m.1 ∧ m.2.IsSound) : (object members).IsSound := by
  rw [IsSound, tokens, List.forall_mem_append, List.forall_mem_cons, List.forall_mem_singleton]
  exact ⟨⟨trivial, isSound_memberTokens h⟩, trivial⟩

end Tree

/-! ## Texts of values -/

namespace Value

/-- All numbers in the value are whole. -/
inductive IsExact : Value → Prop
  | null : IsExact null
  | bool (b : Bool) : IsExact (bool b)
  | whole (n : Int) : IsExact (number (.whole n))
  | string (s : String) : IsExact (string s)
  | array {items : List Value} (h : ∀ v ∈ items, IsExact v) : IsExact (array items)
  | object {members : List (String × Value)} (h : ∀ m ∈ members, IsExact m.2) :
    IsExact (object members)

theorem itemTrees_eq_map (items : List Value) : itemTrees items = items.map tree := by
  induction items with
  | nil => rfl
  | cons v items ih => rw [itemTrees, ih, List.map_cons]

theorem memberTrees_eq_map (members : List (String × Value)) :
    memberTrees members = members.map fun m => (Quoted.encode m.1, m.2.tree) := by
  induction members with
  | nil => rfl
  | cons m members ih => rw [memberTrees, ih, List.map_cons]

/-- **A value with whole numbers can be written.** -/
theorem IsExact.isSound {v : Value} (h : v.IsExact) : v.tree.IsSound := by
  induction h with
  | null => exact List.forall_mem_singleton.2 trivial
  | bool b => exact List.forall_mem_singleton.2 trivial
  | whole n => exact List.forall_mem_singleton.2 (Numeral.isNumeral_ofInt n)
  | string s => exact List.forall_mem_singleton.2 (Quoted.isQuoted_encode s)
  | array h ih =>
    rw [tree, itemTrees_eq_map]
    exact Tree.isSound_array (List.forall_mem_map.2 ih)
  | object h ih =>
    rw [tree, memberTrees_eq_map]
    exact Tree.isSound_object
      (List.forall_mem_map.2 fun m hm => ⟨Quoted.isQuoted_encode m.1, ih m hm⟩)

/-- The text of a value with whole numbers is read as the tree of the value. -/
theorem IsExact.parse?_bytes {v : Value} (h : v.IsExact) : Tree.parse? v.bytes = some v.tree :=
  Tree.parse?_render_iff.2 h.isSound

/-! ## Records -/

variable {names : List String} {vs : List Value} {members : List (String × Value)} {name : String}
  {v : Value}

/-- A member with a new name is added to the others. -/
theorem setMember_perm (h : name ∉ members.map (·.1)) :
    (setMember name v members).Perm ((name, v) :: members) := by
  induction members with
  | nil => exact .refl _
  | cons m members ih =>
    obtain ⟨n, w⟩ := m
    rw [List.map_cons, List.mem_cons, not_or] at h
    rw [setMember]
    split
    · exact .refl _
    · rw [if_neg h.1]
      exact ((ih h.2).cons _).trans (.swap _ _ _)

/-- An object is made with just the members that it is made of, if no two have the same name. -/
theorem exists_ofMembers (members : List (String × Value)) (h : (members.map (·.1)).Nodup) :
    ∃ ms, ofMembers members = .object ms ∧ ms.Perm members := by
  suffices hfold : ∀ ms : List (String × Value), ((ms ++ members).map (·.1)).Nodup →
      (members.foldl (fun ms m => setMember m.1 m.2 ms) ms).Perm (ms ++ members) from
    ⟨_, rfl, hfold [] h⟩
  clear h
  induction members with
  | nil => exact fun ms _ => by rw [List.append_nil]; exact .refl _
  | cons m members ih =>
    intro ms h
    have hset : (setMember m.1 m.2 ms ++ members).Perm (ms ++ m :: members) := by
      have hname : m.1 ∉ ms.map (·.1) := by
        rw [List.map_append, List.map_cons] at h
        exact fun hmem => List.disjoint_of_nodup_append h hmem List.mem_cons_self
      exact ((setMember_perm hname).append_right members).trans List.perm_middle.symm
    rw [List.foldl_cons]
    exact (ih _ (((hset.map _).nodup_iff).2 h)).trans hset

theorem isNamed_encode (name : String) (m : String × Value) :
    Tree.isNamed name (Quoted.encode m.1, m.2.tree) = (m.1 == name) := by
  rw [Tree.isNamed, Quoted.decode?_encode]
  rfl

theorem mem_of_mem_setMember {m : String × Value} (h : m ∈ setMember name v members) :
    m = (name, v) ∨ m ∈ members := by
  induction members with
  | nil => exact .inl (List.mem_singleton.1 h)
  | cons m' members ih =>
    rw [setMember] at h
    split at h
    · exact (List.mem_cons.1 h)
    split at h
    · exact (List.mem_cons.1 h).imp_right (List.mem_cons_of_mem _)
    · rcases List.mem_cons.1 h with rfl | h
      · exact .inr List.mem_cons_self
      · exact (ih h).imp_right (List.mem_cons_of_mem _)

/-- The members of an object are among those that it is made of. -/
theorem mem_of_mem_ofMembers {ms : List (String × Value)} {m : String × Value}
    (h : ofMembers members = .object ms) (hm : m ∈ ms) : m ∈ members := by
  suffices hfold : ∀ ms : List (String × Value),
      m ∈ members.foldl (fun ms m => setMember m.1 m.2 ms) ms → m ∈ ms ∨ m ∈ members by
    obtain rfl := Value.object.inj h
    exact (hfold [] hm).resolve_left List.not_mem_nil
  clear h hm ms
  induction members with
  | nil => exact fun ms hm => .inl hm
  | cons m' members ih =>
    intro ms hm
    rcases ih _ hm with hm | hm
    · rcases mem_of_mem_setMember hm with rfl | hm
      · exact .inr List.mem_cons_self
      · exact .inl hm
    · exact .inr (List.mem_cons_of_mem _ hm)

/-- A member is found under its name. -/
theorem field?_memberTrees (names : List String) (h : (members.map (·.1)).Nodup)
    (hm : (name, v) ∈ members) :
    (Tree.object (memberTrees members)).field? names name = some v.tree := by
  rw [Tree.field?, memberTrees_eq_map]
  induction members with
  | nil => cases hm
  | cons m members ih =>
    obtain ⟨hname, hnodup⟩ := List.nodup_cons.1 h
    rw [List.map_cons, List.find?_cons, isNamed_encode]
    rcases List.mem_cons.1 hm with rfl | hm
    · rw [beq_self_eq_true]
      rfl
    · have hother : (m.1 == name) = false := by
        rw [beq_eq_false_iff_ne]
        rintro rfl
        exact hname (List.mem_map.2 ⟨_, hm, rfl⟩)
      rw [hother]
      exact ih hnodup hm

/-- Nothing is found under a name that no member has. -/
theorem field?_memberTrees_of_not_mem (h : name ∉ members.map (·.1)) :
    (Tree.object (memberTrees members)).field? names name = none := by
  rw [Tree.field?, memberTrees_eq_map, Option.map_eq_none_iff, List.find?_eq_none,
    List.forall_mem_map]
  intro m hm
  rw [isNamed_encode, beq_iff_eq]
  rintro rfl
  exact h (List.mem_map_of_mem hm)

theorem distinct_memberTrees (h : (members.map (·.1)).Nodup) :
    Tree.Distinct (memberTrees members) := by
  have hdecoded : ∀ m : String × Value, Quoted.decode? (Quoted.encode m.1) = some m.1 :=
    fun m => Quoted.decode?_encode m.1
  rw [memberTrees_eq_map, Tree.Distinct, List.forall_mem_map, List.map_map]
  refine ⟨fun m _ => by rw [hdecoded]; rfl, ?_⟩
  have hmap : (members.map ((Quoted.decode? ·.1) ∘ fun m => (Quoted.encode m.1, m.2.tree))) =
      (members.map (·.1)).map some := by
    rw [List.map_map]
    exact List.map_congr_left fun m _ => hdecoded m
  rw [hmap]
  exact h.map fun _ _ => Option.some.inj

/-- **A record is read back** if it is written with all its fields, in whatever order. -/
theorem fields?_of_perm (hnames : names.Nodup) (hlength : names.length = vs.length)
    (h : members.Perm (names.zip vs)) :
    (object members).tree.fields? names = some (vs.map fun v => some v.tree) := by
  have hnodup : (members.map (·.1)).Nodup := by
    rw [(h.map _).nodup_iff, List.map_fst_zip hlength.le]
    exact hnames
  rw [tree, Tree.fields?_object hnames (distinct_memberTrees hnodup)]
  refine congrArg some (List.ext_getElem (by simpa using hlength) fun i hi hi' => ?_)
  rw [List.getElem_map, List.getElem_map]
  refine field?_memberTrees names hnodup (h.mem_iff.2 ?_)
  rw [List.mem_iff_getElem]
  exact ⟨i, by simpa [hlength] using hi', List.getElem_zip⟩

/-- The fields of a record are found, too, where its members stand in the order of their names. -/
theorem fields?_ofMembers (hnames : names.Nodup) (hlength : names.length = vs.length) :
    (ofMembers (names.zip vs)).tree.fields? names = some (vs.map fun v => some v.tree) := by
  obtain ⟨members, hvalue, hmembers⟩ :=
    exists_ofMembers (names.zip vs) (by rwa [List.map_fst_zip hlength.le])
  rw [hvalue, fields?_of_perm hnames hlength hmembers]

/-- A record of values with whole numbers is such a value. -/
theorem isExact_of_perm (h : members.Perm (names.zip vs)) (hvs : ∀ v ∈ vs, v.IsExact) :
    (object members).IsExact :=
  .object fun m hm => hvs m.2 (List.of_mem_zip (h.mem_iff.1 hm)).2

theorem isExact_ofMembers (hnames : names.Nodup) (hlength : names.length = vs.length)
    (hvs : ∀ v ∈ vs, v.IsExact) : (ofMembers (names.zip vs)).IsExact := by
  obtain ⟨members, hvalue, hmembers⟩ :=
    exists_ofMembers (names.zip vs) (by rwa [List.map_fst_zip hlength.le])
  rw [hvalue]
  exact isExact_of_perm hmembers hvs

/-! ## Kept values -/

theorem mapM_isSome_iff {α β : Type} {f : α → Option β} {as : List α} :
    (as.mapM f).isSome = true ↔ ∀ a ∈ as, (f a).isSome = true := by
  induction as with
  | nil => exact ⟨fun _ => nofun, fun _ => rfl⟩
  | cons a as ih =>
    rw [List.mapM_cons, List.forall_mem_cons, ← ih]
    cases f a with
    | none => simp
    | some b => cases as.mapM f <;> simp

variable {room : Nat} {t : Tree} {items : List Value}

theorem isSome_value?_string (room : Nat) (s : String) :
    ((string s).tree.value? room).isSome = true := by
  cases room <;> rw [tree, Tree.value?, Quoted.decode?_encode] <;> rfl

theorem isSome_value?_array (h : ∀ v ∈ items, (v.tree.value? room).isSome = true) :
    ((array items).tree.value? (room + 1)).isSome = true := by
  have hitems : ((itemTrees items).mapM (Tree.value? room)).isSome = true := by
    rw [itemTrees_eq_map, mapM_isSome_iff, List.forall_mem_map]
    exact h
  obtain ⟨vs, hvs⟩ := Option.isSome_iff_exists.1 hitems
  rw [tree, Tree.value?, hvs]
  rfl

theorem isSome_value?_object (h : ∀ m ∈ members, (m.2.tree.value? room).isSome = true) :
    ((object members).tree.value? (room + 1)).isSome = true := by
  have hmembers : ((memberTrees members).mapM fun m =>
      (do return (← Quoted.decode? m.1, ← Tree.value? room m.2) :
        Option (String × Value))).isSome = true := by
    rw [memberTrees_eq_map, mapM_isSome_iff, List.forall_mem_map]
    intro m hm
    obtain ⟨v, hv⟩ := Option.isSome_iff_exists.1 (h m hm)
    rw [Quoted.decode?_encode, hv]
    rfl
  obtain ⟨ms, hms⟩ := Option.isSome_iff_exists.1 hmembers
  rw [tree, Tree.value?, hms]
  rfl

theorem isSome_value?_whole {n : Int} (hlow : -0x8000_0000_0000_0000 ≤ n)
    (hhigh : n < Decimal.wordSize) (room : Nat) :
    ((number (.whole n)).tree.value? room).isSome = true := by
  obtain ⟨numeral, hparse, hint⟩ := Option.bind_eq_some_iff.1 (Numeral.int?_ofInt hlow hhigh)
  have hnumber : numeral.number? = some (.whole n) := by rw [Numeral.number?, hint]
  cases room <;> rw [tree, Number.text, Tree.value?, hparse, Option.bind_eq_bind,
    Option.bind_some, hnumber] <;> rfl

/-- Outside of containers, no room is needed. -/
theorem isSome_value?_scalar (harray : ∀ items, t ≠ .array items)
    (hobject : ∀ members, t ≠ .object members) (h : t.value? room = some v) (hexact : v.IsExact) :
    (v.tree.value? room).isSome = true := by
  rw [Tree.value?.eq_def] at h
  cases t with
  | null =>
    obtain rfl := Option.some.inj h
    cases room <;> rfl
  | bool b =>
    obtain rfl := Option.some.inj h
    cases room <;> rfl
  | number s =>
    obtain ⟨numeral, -, h⟩ := Option.bind_eq_some_iff.1 h
    obtain ⟨n, hn, h⟩ := Option.bind_eq_some_iff.1 h
    obtain rfl := Option.some.inj h
    cases hexact with
    | whole n =>
      obtain ⟨hlow, hhigh⟩ := Numeral.bounds_of_int? (Numeral.int?_of_number? hn)
      exact isSome_value?_whole hlow hhigh room
  | string q =>
    obtain ⟨s, -, rfl⟩ := Option.map_eq_some_iff.1 h
    exact isSome_value?_string room s
  | array items => exact absurd rfl (harray items)
  | object members => exact absurd rfl (hobject members)

/-- **A value that was read is read again** in the same room, if its numbers are whole. -/
theorem isSome_value?_tree (h : t.value? room = some v) (hexact : v.IsExact) :
    (v.tree.value? room).isSome = true := by
  induction room generalizing t v with
  | zero =>
    refine isSome_value?_scalar ?_ ?_ h hexact
    · rintro items rfl
      cases h
    · rintro members rfl
      cases h
  | succ room ih =>
    cases t with
    | array items =>
      rw [Tree.value?] at h
      obtain ⟨vs, hvs, h⟩ := Option.bind_eq_some_iff.1 h
      obtain rfl := Option.some.inj h
      have hall := Tree.forall_of_mapM (fun t v => ih (t := t) (v := v)) hvs
      cases hexact with
      | array hitems => exact isSome_value?_array fun v hv => hall v hv (hitems v hv)
    | object members =>
      rw [Tree.value?] at h
      obtain ⟨pairs, hpairs, h⟩ := Option.bind_eq_some_iff.1 h
      obtain rfl := Option.some.inj h
      have hall : ∀ m ∈ pairs, m.2.IsExact → (m.2.tree.value? room).isSome = true := by
        refine Tree.forall_of_mapM (fun m m' hm => ?_) hpairs
        obtain ⟨name, -, hm⟩ := Option.bind_eq_some_iff.1 hm
        obtain ⟨v, hv, hm⟩ := Option.bind_eq_some_iff.1 hm
        obtain rfl := Option.some.inj hm
        exact ih hv
      generalize hobject : ofMembers pairs = v at hexact ⊢
      cases hexact with
      | object hmembers =>
        exact isSome_value?_object fun m hm =>
          hall m (mem_of_mem_ofMembers hobject hm) (hmembers m hm)
      | null | bool | whole | string | array => cases hobject
    | null | bool | number | string =>
      exact isSome_value?_scalar (by simp) (by simp) h hexact

end Value

namespace Tree

/-! ## Fields -/

variable {α : Type} {read : Tree → Option α} {write : α → Value}

/-- An array is read back, if its elements are. -/
theorem list?_array_map {as : List α} (h : ∀ a ∈ as, read (write a).tree = some a) :
    list? read (Value.array (as.map write)).tree = some as := by
  rw [Value.tree, Value.itemTrees_eq_map, list?]
  induction as with
  | nil => rfl
  | cons a as ih =>
    obtain ⟨ha, has⟩ := List.forall_mem_cons.1 h
    rw [List.map_cons, List.map_cons, List.mapM_cons, ha, ih has]
    rfl

/-- A string is read back. -/
theorem string?_string (s : String) : string? (Value.string s).tree = some s :=
  Quoted.decode?_encode s

end Tree

end CloudClient.Json
