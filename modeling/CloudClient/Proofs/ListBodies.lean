import CloudClient.Proofs.PageWalks

/-!
# Bodies of list answers

What a server has to answer for a page of a list: an object with the entries, and with the number of
the next page if there is one. Nothing is said about the other members, about their order, or about
how numbers and strings are written.

* `Pagination.IsPlace` — what tells a place in a list; it is read, and nothing else is
  (`Pagination.ofTree?_isSome_iff`).
* `Tree.TellsNext` — the ways of telling the number of the next page, or that there is none.
* `Tree.IsActionPage` — the body of an answer with a page of actions.
* `Response.paginated_of_isActionPage`, `Response.decoded_of_isActionPage` and
  `Response.announced?_of_isActionPage` — such an answer is read as it is meant.
-/

namespace CloudClient

open Json

/-! ## Pagination records -/

namespace Pagination

/-- May a field be null? -/
def isNullable (name : String) : Bool := name ≠ "page" && name ≠ "per_page"

/-- Does a field hold what it may: nothing, a number, or null if it may be null? -/
def isCount (name : String) : Option Tree → Bool
  | none => true
  | some .null => isNullable name
  | some t => t.nat32?.isSome

/-- A record of the place in a list. -/
structure IsRecord (members : List (Bytes × Tree)) : Prop where
  distinct : Tree.Distinct members
  counts : ∀ name ∈ names, isCount name ((Tree.object members).field? names name) = true

variable {name : String} {field : Option Tree}

theorem withDefault_isSome_iff (hname : isNullable name = false) :
    (Tree.withDefault 0 Tree.nat32? field).isSome = true ↔ isCount name field = true := by
  cases field with
  | none => exact Iff.rfl
  | some t =>
    cases t with
    | null => rw [isCount, hname]; exact Iff.rfl
    | bool | number | string | array | object => exact Iff.rfl

theorem optional_isSome_iff (hname : isNullable name = true) :
    (Tree.optional Tree.nat32? field).isSome = true ↔ isCount name field = true := by
  cases field with
  | none => exact Iff.rfl
  | some t =>
    cases t with
    | null => rw [isCount, hname]; exact Iff.rfl
    | bool | number | string | array | object =>
      rw [Tree.optional_of_ne_null (by simp), Option.isSome_map]
      exact Iff.rfl

/-- A tree that tells a place in a list: its fields can be told, and hold what they may. -/
structure IsPlace (t : Tree) : Prop where
  hasFields : t.HasFields names
  counts : ∀ name ∈ names, isCount name (t.field? names name) = true

/-- **What tells a place is read, and nothing else is.** -/
theorem ofTree?_isSome_iff {t : Tree} : (ofTree? t).isSome = true ↔ IsPlace t := by
  have hnames : names.Nodup := by decide
  constructor
  · intro h
    obtain ⟨p, h⟩ := Option.isSome_iff_exists.1 h
    rw [Pagination.ofTree?, Option.bind_eq_bind, Option.bind_eq_some_iff] at h
    obtain ⟨fields, hfields, h⟩ := h
    obtain ⟨hhas, rfl⟩ := (Tree.fields?_eq_some_iff hnames).1 hfields
    refine ⟨hhas, ?_⟩
    simp only [names, List.map_cons, List.map_nil, Option.bind_eq_bind, Option.pure_def,
      Option.bind_eq_some_iff] at h
    obtain ⟨_, hpage, _, hperPage, _, hprevious, _, hnext, _, hlast, _, htotal, -⟩ := h
    simp only [names, List.forall_mem_cons]
    exact ⟨(withDefault_isSome_iff rfl).1 (Option.isSome_of_eq_some hpage),
      (withDefault_isSome_iff rfl).1 (Option.isSome_of_eq_some hperPage),
      (optional_isSome_iff rfl).1 (Option.isSome_of_eq_some hprevious),
      (optional_isSome_iff rfl).1 (Option.isSome_of_eq_some hnext),
      (optional_isSome_iff rfl).1 (Option.isSome_of_eq_some hlast),
      (optional_isSome_iff rfl).1 (Option.isSome_of_eq_some htotal), List.forall_mem_nil _⟩
  · rintro ⟨hhas, hcounts⟩
    simp only [names, List.forall_mem_cons] at hcounts
    obtain ⟨hpage, hperPage, hprevious, hnext, hlast, htotal, -⟩ := hcounts
    obtain ⟨_, hpage⟩ := Option.isSome_iff_exists.1 ((withDefault_isSome_iff rfl).2 hpage)
    obtain ⟨_, hperPage⟩ := Option.isSome_iff_exists.1 ((withDefault_isSome_iff rfl).2 hperPage)
    obtain ⟨_, hprevious⟩ := Option.isSome_iff_exists.1 ((optional_isSome_iff rfl).2 hprevious)
    obtain ⟨_, hnext⟩ := Option.isSome_iff_exists.1 ((optional_isSome_iff rfl).2 hnext)
    obtain ⟨_, hlast⟩ := Option.isSome_iff_exists.1 ((optional_isSome_iff rfl).2 hlast)
    obtain ⟨_, htotal⟩ := Option.isSome_iff_exists.1 ((optional_isSome_iff rfl).2 htotal)
    rw [Pagination.ofTree?, ← names, (Tree.fields?_eq_some_iff hnames).2 ⟨hhas, rfl⟩]
    simp only [names, List.map_cons, List.map_nil, Option.bind_eq_bind, Option.bind_some, hpage,
      hperPage, hprevious, hnext, hlast, htotal, Option.pure_def, Option.isSome_some]

/-- A record is read. -/
theorem IsRecord.ofTree? {members : List (Bytes × Tree)} (h : IsRecord members) :
    (ofTree? (.object members)).isSome :=
  ofTree?_isSome_iff.2 ⟨h.distinct.hasFields, h.counts⟩

end Pagination

/-! ## Envelopes -/

namespace Json.Tree

/-- The body tells that the next page has this number, or with zero that there is none. -/
inductive TellsNext (t : Tree) : Nat → Prop
  /-- nothing is told about the answer -/
  | unmarked (h : t.field? ["meta"] "meta" = none ∨ t.field? ["meta"] "meta" = some .null) :
      TellsNext t 0
  /-- nothing is told about the place in a list -/
  | unplaced {outer : List (Bytes × Tree)} (hmeta : t.field? ["meta"] "meta" = some (.object outer))
      (houter : Distinct outer)
      (h : (object outer).field? ["pagination"] "pagination" = none ∨
        (object outer).field? ["pagination"] "pagination" = some .null) : TellsNext t 0
  /-- a record tells the number, as zero or null if there is no next page -/
  | placed {outer record : List (Bytes × Tree)} {next : Nat}
      (hmeta : t.field? ["meta"] "meta" = some (.object outer)) (houter : Distinct outer)
      (hpagination : (object outer).field? ["pagination"] "pagination" = some (.object record))
      (hrecord : Pagination.IsRecord record)
      (hnext : ((object record).number? Pagination.names "next_page").getD 0 = next) :
      TellsNext t next

/-- The body of an answer with a page of actions, which tells the number of the next page. -/
structure IsActionPage (t : Tree) (actions : List Action) (next : Nat) : Prop where
  object : ∃ members, t = .object members ∧ Distinct members
  actions : ∃ items, t.field? ["actions"] "actions" = some (.array items) ∧
    items.mapM Action.ofTree? = some actions
  next : t.TellsNext next

variable {t : Tree} {name : String} {n : Nat} {actions : List Action}

/-- The fields of a record that has one. -/
theorem fields?_single {members : List (Bytes × Tree)} (h : Distinct members) :
    (object members).fields? [name] = some [(object members).field? [name] name] :=
  fields?_object (List.nodup_singleton name) h

theorem IsActionPage.listOfEnvelope? (h : t.IsActionPage actions n) :
    Action.listOfEnvelope? t = some actions := by
  obtain ⟨members, rfl, hmembers⟩ := h.object
  obtain ⟨items, hitems, hactions⟩ := h.actions
  rw [Action.listOfEnvelope?, fields?_single hmembers, hitems]
  exact hactions

end Json.Tree

namespace Pagination

variable {α : Type} {name : String} {read : Tree → Option α} {members : List (Bytes × Tree)}

/-- A field that is missing or null is read as none. -/
theorem field?_none (h : Tree.Distinct members)
    (hfield : (Tree.object members).field? [name] name = none ∨
      (Tree.object members).field? [name] name = some .null) :
    field? name read (.object members) = some none := by
  rw [field?, Tree.fields?_single h]
  rcases hfield with hfield | hfield <;> rw [hfield] <;> rfl

theorem field?_some (h : Tree.Distinct members) {inner : List (Bytes × Tree)}
    (hfield : (Tree.object members).field? [name] name = some (.object inner)) {a : α}
    (ha : read (.object inner) = some a) :
    field? name read (.object members) = some (some a) := by
  rw [field?, Tree.fields?_single h, hfield]
  exact congrArg (Option.map some) ha

/-- A body that tells the number of the next page can be read, and this is the number it tells. -/
theorem ofEnvelope?_of_tellsNext (h : Tree.Distinct members) {n : Nat}
    (hnext : (Tree.object members).TellsNext n) :
    ∃ o, ofEnvelope? (.object members) = some o ∧ (o.map (·.nextPage)).getD 0 = n := by
  rw [ofEnvelope?]
  cases hnext with
  | unmarked hmeta =>
    rw [field?_none h hmeta]
    exact ⟨none, rfl, rfl⟩
  | unplaced hmeta houter hpagination =>
    rw [field?_some h hmeta (field?_none houter hpagination)]
    exact ⟨none, rfl, rfl⟩
  | placed hmeta houter hpagination hrecord hnext =>
    obtain ⟨p, hp⟩ := Option.isSome_iff_exists.1 hrecord.ofTree?
    rw [field?_some h hmeta (field?_some houter hpagination hp)]
    refine ⟨some p, rfl, ?_⟩
    rw [ofTree?_eq hp]
    exact hnext

end Pagination

/-! ## Answers -/

namespace Response

variable {r : Response} {t : Tree} {actions : List Action} {n : Nat}

/-- There is text where there is a tree. -/
theorem body_ne_nil_of_parse? (h : Tree.parse? r.body = some t) : r.body ≠ [] := by
  rintro hnil
  rw [hnil] at h
  cases h

theorem paginated_of_isActionPage (ht : Tree.parse? r.body = some t)
    (h : t.IsActionPage actions n) :
    ∃ pagination, r.paginated = .ok { r with metadata := { r.metadata with pagination } } := by
  obtain ⟨members, rfl, hmembers⟩ := h.object
  obtain ⟨o, ho, -⟩ := Pagination.ofEnvelope?_of_tellsNext hmembers h.next
  rw [paginated]
  by_cases hjson : r.hasJsonBody = true
  · rw [if_pos hjson, decoded, decode?, ht, Option.bind_eq_bind, Option.bind_some, ho]
    exact ⟨o, rfl⟩
  · rw [if_neg hjson]
    exact ⟨r.metadata.pagination, rfl⟩

theorem decoded_of_isActionPage (ht : Tree.parse? r.body = some t) (h : t.IsActionPage actions n) :
    r.decoded Action.listOfEnvelope? = .ok actions := by
  rw [decoded, decode?, ht, Option.bind_eq_bind, Option.bind_some, h.listOfEnvelope?]

theorem announced?_of_isActionPage (hjson : r.hasJsonBody = true) (ht : Tree.parse? r.body = some t)
    (h : t.IsActionPage actions n) : r.announced? = if n = 0 then none else some n := by
  obtain ⟨members, rfl, hmembers⟩ := h.object
  obtain ⟨o, ho, hn⟩ := Pagination.ofEnvelope?_of_tellsNext hmembers h.next
  obtain rfl := Pagination.ofEnvelope?_eq ho
  rw [announced?, if_pos hjson, told?, ht, Option.bind_eq_bind, Option.bind_some]
  cases hrecord : (Tree.object members).paginationRecord? with
  | none =>
    rw [hrecord] at hn
    obtain rfl : 0 = n := hn
    rfl
  | some record =>
    rw [hrecord] at hn
    obtain rfl : (Pagination.told record).nextPage = n := hn
    by_cases hzero : (Pagination.told record).nextPage = 0 <;> simp [Option.filter, hzero]

end Response

end CloudClient
