import CloudClient.Proofs.Members
import CloudClient.Proofs.PollLedger
import CloudClient.Proofs.Resending

/-!
# What a list call follows

The page after a page is found in two steps: the answer is read for its place in the list, and then
the list call looks at what was read. Here both are put together: what is read is what the body
says, so that a list call goes on exactly as long as the bodies tell it to. An answer that is not
declared to be JSON tells nothing, whatever its body is.

* `Response.told?` — the place in a list as the body tells it, member by member.
* `Client.executeJson_told` — what a client has read from an answer is what was told.
* `Paging.Follows` — a walk from page to page, each of which names the next one.
* `Client.executeJson_announces` — hence all pages that are announced are walked.
-/

namespace CloudClient

open Json

/-! ## What a body tells -/

/-- The number under a name; none if it is missing or null. -/
def Json.Tree.number? (names : List String) (name : String) (t : Tree) : Option Nat :=
  (t.field? names name).bind Tree.nat32?

namespace Pagination

/-- The names of the fields. -/
def names : List String :=
  ["page", "per_page", "previous_page", "next_page", "last_page", "total_entries"]

/-- The place in a list that a record tells; a number that it does not have counts as zero. -/
def told (t : Tree) : Pagination where
  page := (t.number? names "page").getD 0
  perPage := (t.number? names "per_page").getD 0
  previousPage := t.number? names "previous_page"
  nextPage := (t.number? names "next_page").getD 0
  lastPage := (t.number? names "last_page").getD 0
  totalEntries := (t.number? names "total_entries").getD 0

end Pagination

/-- The record at `meta.pagination`, if there is one that is not null. -/
def Json.Tree.paginationRecord? (t : Tree) : Option Tree :=
  match (t.field? ["meta"] "meta").bind (·.field? ["pagination"] "pagination") with
  | some .null => none
  | record => record

/-- The place in a list that the body of an answer tells. -/
def Response.told? (r : Response) : Option Pagination := do
  let record ← (← Tree.parse? r.body).paginationRecord?
  return .told record

/-- The number of the page that the answer announces: the next one, if the answer is declared to be
JSON and its body tells of one. -/
def Response.announced? (r : Response) : Option Nat :=
  if r.hasJsonBody then (r.told?.map (·.nextPage)).filter (· ≠ 0) else none

namespace Pagination

variable {field : Option Tree} {n : Nat} {o : Option Nat}

theorem optional_nat32?_eq (h : Tree.optional Tree.nat32? field = some o) :
    o = field.bind Tree.nat32? := by
  rcases Tree.optional_eq h with ⟨rfl, rfl | rfl⟩ | ⟨t, n, rfl, -, hn, rfl⟩
  · rfl
  · rfl
  · exact hn.symm

theorem withDefault_nat32?_eq (h : Tree.withDefault 0 Tree.nat32? field = some n) :
    n = (field.bind Tree.nat32?).getD 0 := by
  cases field with
  | none => exact (Option.some.inj h).symm
  | some t =>
    have ht : t.nat32? = some n := h
    simp [ht]

/-- What is read from a record is what it tells. -/
theorem ofTree?_eq {t : Tree} {p : Pagination} (h : ofTree? t = some p) : p = told t := by
  rw [ofTree?, Option.bind_eq_bind, Option.bind_eq_some_iff] at h
  obtain ⟨fields, hfields, h⟩ := h
  obtain rfl := Tree.fields?_eq (by decide : names.Nodup) hfields
  simp only [names, List.map_cons, List.map_nil, Option.bind_eq_bind, Option.pure_def,
    Option.bind_eq_some_iff, Option.some.injEq] at h
  obtain ⟨page, hpage, perPage, hperPage, previous, hprevious, next, hnext, last, hlast, total,
    htotal, rfl⟩ := h
  simp only [told, Tree.number?, names, ← withDefault_nat32?_eq hpage,
    ← withDefault_nat32?_eq hperPage, ← optional_nat32?_eq hprevious, ← optional_nat32?_eq hnext,
    ← optional_nat32?_eq hlast, ← optional_nat32?_eq htotal]

/-- The field of a record that has no other, if it is there at all. -/
theorem field?_eq {α : Type} {name : String} {read : Tree → Option α} {t : Tree} {o : Option α}
    (h : field? name read t = some o) : Tree.optional read (t.field? [name] name) = some o := by
  rw [field?, Option.bind_eq_bind, Option.bind_eq_some_iff] at h
  obtain ⟨fields, hfields, h⟩ := h
  obtain rfl := Tree.fields?_eq (List.nodup_singleton name) hfields
  exact h

/-- What is read from the metadata around a list is what they tell. -/
theorem ofEnvelope?_eq {t : Tree} {o : Option Pagination} (h : ofEnvelope? t = some o) :
    o = t.paginationRecord?.map told := by
  rw [ofEnvelope?, Option.bind_eq_bind, Option.bind_eq_some_iff] at h
  obtain ⟨outer, houter, h⟩ := h
  obtain rfl := Option.some.inj h
  rw [Tree.paginationRecord?]
  rcases Tree.optional_eq (field?_eq houter) with
    ⟨rfl, hmeta | hmeta⟩ | ⟨u, inner, hmeta, -, hinner, rfl⟩
  · rw [hmeta]
    rfl
  · rw [hmeta]
    rfl
  · rw [hmeta, Option.bind_some]
    rcases Tree.optional_eq (field?_eq hinner) with
      ⟨rfl, hpage | hpage⟩ | ⟨v, p, hpage, hnull, hp, rfl⟩
    · rw [hpage]
      rfl
    · rw [hpage]
      rfl
    · rw [hpage, ofTree?_eq hp]
      cases v with
      | null => exact absurd rfl hnull
      | bool | number | string | array | object => rfl

end Pagination

/-! ## What a client has read -/

section Yields

variable {σ ρ α : Type} {P : α → Prop}

/-- Every value that the task ends with has the property. -/
def YieldsOnly (P : α → Prop) (t : Task σ α) : Prop := ∀ s a s', t s = (.done a, s') → P a

namespace YieldsOnly

variable {judge : Error → Nat → Task σ Bool} {pause : Nat → Task σ Unit} {send : ρ → Task σ α}
  {request : ρ}

theorem pure {a : α} (h : P a) : YieldsOnly P (Pure.pure a : Task σ α) := by
  intro s b s' hb
  obtain ⟨rfl, -⟩ : a = b ∧ s = s' := by simpa using hb
  exact h

theorem ofExcept {result : Except Error α} (h : ∀ a, result = .ok a → P a) :
    YieldsOnly P (Task.ofExcept result : Task σ α) := by
  cases result with
  | ok a => exact pure (h a rfl)
  | error e => nofun

theorem bind {β : Type} {Q : β → Prop} {t : Task σ β} {f : β → Task σ α} (ht : YieldsOnly Q t)
    (hf : ∀ b, Q b → YieldsOnly P (f b)) : YieldsOnly P (t >>= f) := by
  intro s a s' h
  rcases hout : t s with ⟨b | e | _, s₁⟩
  · rw [Task.bind_done hout] at h
    exact hf b (ht _ _ _ hout) _ _ _ h
  · rw [Task.bind_failed hout] at h
    cases h
  · rw [Task.bind_unfinished hout] at h
    cases h

/-- What comes before need not be known. -/
theorem after {β : Type} {t : Task σ β} {f : β → Task σ α} (hf : ∀ b, YieldsOnly P (f b)) :
    YieldsOnly P (t >>= f) :=
  bind (Q := fun _ => True) (fun _ _ _ _ => trivial) fun b _ => hf b

theorem fail (e : Error) : YieldsOnly P (Task.fail e : Task σ α) := nofun

theorem tryOnce (hsend : YieldsOnly P (send request)) (attempt : Nat) {next : Error → Task σ α}
    (hnext : ∀ e, YieldsOnly P (next e)) :
    YieldsOnly P (tryOnce judge send request attempt next) := by
  have hcaught : YieldsOnly (fun outcome => ∀ a, outcome = .ok a → P a) (send request).attempt := by
    intro s outcome s' h a ha
    rcases hout : send request s with ⟨b | e | _, s₁⟩
    · rw [Task.attempt_done hout, ha] at h
      cases h
      exact hsend _ _ _ hout
    · rw [Task.attempt_failed hout, ha] at h
      cases h
    · rw [Task.attempt_unfinished hout] at h
      cases h
  refine bind hcaught fun outcome houtcome => ?_
  cases outcome with
  | ok a => exact pure (houtcome a rfl)
  | error e =>
    refine after fun again => ?_
    cases again with
    | true => exact hnext e
    | false => exact fail e

theorem retryFrom (hsend : YieldsOnly P (send request)) (left attempt : Nat) :
    YieldsOnly P (retryFrom judge pause send request left attempt) := by
  induction left generalizing attempt with
  | zero => exact tryOnce hsend attempt fail
  | succ left ih => exact tryOnce hsend attempt fun _ => after fun _ => ih (attempt + 1)

end YieldsOnly

end Yields

/-- Of what a round trip brings nothing has been read yet. -/
theorem Session.metadata_of_brings {timeout : Option Nat} {r : Request} {s : Session} {others : Nat}
    {response : Response} (h : s.brings timeout r others = .ok response) :
    response.metadata = .empty := by
  rw [brings] at h
  split at h
  · cases h
  · generalize ((s.surroundings.network (s.trips + others) r).within timeout).reply = reply at h
    rcases reply with error | ⟨status, headers, bodyDelay, error | body⟩
    · cases h
    · cases h
    · obtain rfl := Except.ok.inj h
      rfl

/-- An answer that is read for its place in a list has the place that it tells. -/
theorem Response.paginated_told {r r' : Response} (h : r.paginated = .ok r')
    (hr : r.metadata.pagination = none) :
    r'.metadata.pagination = if r'.hasJsonBody then r'.told? else none := by
  rw [paginated] at h
  by_cases hjson : r.hasJsonBody = true
  · rw [if_pos hjson, decoded] at h
    cases hdecode : r.decode? Pagination.ofEnvelope? with
    | none =>
      rw [hdecode] at h
      cases h
    | some pagination =>
      rw [hdecode] at h
      obtain rfl := Except.ok.inj h
      obtain ⟨t, ht, hp⟩ := Option.bind_eq_some_iff.1 hdecode
      have hsame : { r with metadata := { r.metadata with pagination } }.hasJsonBody = true := hjson
      rw [if_pos hsame, told?, ht, Pagination.ofEnvelope?_eq hp, Option.bind_eq_bind,
        Option.bind_some]
      cases t.paginationRecord? <;> rfl
  · rw [if_neg hjson] at h
    obtain rfl := Except.ok.inj h
    rw [if_neg hjson, hr]

namespace Client

variable {c : Client} {r : Request} {α : Type}

/-- An attempt gives an answer of which no place in a list has been read. -/
theorem attempt_yields :
    YieldsOnly (fun response => response.metadata.pagination = none) (c.attempt r) := by
  intro s response s' h
  rcases attempt_inv (c := c) (r := r) (s := s) with ⟨e, hfailed, -⟩ | ⟨time, s₁, hout, -⟩
  · rw [h] at hfailed
    cases hfailed
  · rw [h] at hout
    rcases hbrings : s.brings c.timeout r 0 with error | brought
    · rw [hbrings] at hout
      cases hout
    · rw [hbrings] at hout
      refine YieldsOnly.ofExcept (P := fun response => response.metadata.pagination = none)
        (fun last hlast => ?_) _ _ _ hout.symm
      rw [verdictAt, Response.verdict] at hlast
      split at hlast
      · cases hlast
      · obtain rfl := Except.ok.inj hlast
        exact congrArg Metadata.pagination (Session.metadata_of_brings hbrings)

/-- What a client has read of an answer is what the answer tells, if it is declared to be JSON, and
nothing else. -/
theorem execute_told :
    YieldsOnly (fun response => response.metadata.pagination =
      if response.hasJsonBody then response.told? else none) (c.execute r) :=
  .bind (.retryFrom attempt_yields _ _) fun _ hnone => .ofExcept fun _ hpaginated =>
    Response.paginated_told hpaginated hnone

theorem executeJson_told (read : Tree → Option α) :
    YieldsOnly (fun value => value.2.metadata.pagination =
      if value.2.hasJsonBody then value.2.told? else none) (c.executeJson read r) :=
  .bind execute_told fun _ h => .after fun _ => .pure h

end Client

/-! ## Walks from page to page -/

/-- If what was read of an answer is what was told, the next page is the one that is announced. -/
theorem Page.next?_of_told {α : Type} {p : Page α}
    (h : p.response.metadata.pagination =
      if p.response.hasJsonBody then p.response.told? else none) :
    p.next? = p.response.announced? := by
  rw [next?, Response.announced?, h]
  by_cases hjson : p.response.hasJsonBody = true
  · rw [if_pos hjson, if_pos hjson]
    cases p.response.told? with
    | none => rfl
    | some place => by_cases hplace : place.nextPage = 0 <;> simp [Option.filter, hplace]
  · rw [if_neg hjson, if_neg hjson]

namespace Paging

variable {σ α : Type}

/-- From the page with this number one page after the other is fetched, as each of them tells the
number of the next one. -/
inductive Follows (next? : Page α → Option Nat) (fetch : Nat → Task σ (Page α)) :
    Nat → σ → List (Page α) → σ → Prop
  | last {number : Nat} {s s' : σ} {page : Page α} (hpage : fetch number s = (.done page, s'))
      (hnext : next? page = none) : Follows next? fetch number s [page] s'
  | more {number next : Nat} {s s₁ s' : σ} {page : Page α} {pages : List (Page α)}
      (hpage : fetch number s = (.done page, s₁)) (hnext : next? page = some next)
      (hrest : Follows next? fetch next s₁ pages s') :
      Follows next? fetch number s (page :: pages) s'

variable {fetch : Nat → Task σ (Page α)} {next? : Page α → Option Nat} {rounds number : Nat}
  {s s' : σ} {items : List α}

/-- A list is put together from a whole walk, if each page names the next one as it is told to. -/
theorem follows_of_collectFrom
    (hnext : ∀ number, YieldsOnly (fun page => page.next? = next? page) (fetch number))
    (h : collectFrom fetch rounds number s = (.done items, s')) :
    ∃ pages, Follows next? fetch number s pages s' ∧ items = pages.flatMap (·.items) := by
  induction rounds generalizing number s items with
  | zero => cases h
  | succ rounds ih =>
    rw [collectFrom] at h
    rcases Task.bind_inv h with ⟨page, s₁, hpage, hrest⟩ | ⟨o, -, hne, heq⟩
    · have hsame := hnext number _ _ _ hpage
      cases htold : page.next? with
      | none =>
        simp only [htold] at hrest
        obtain ⟨rfl, rfl⟩ : page.items = items ∧ s₁ = s' := by simpa using hrest
        exact ⟨[page], .last hpage (hsame ▸ htold), by simp⟩
      | some next =>
        simp only [htold] at hrest
        rcases Task.bind_inv hrest with ⟨rest, s₂, hcollect, hdone⟩ | ⟨o, -, hne, heq⟩
        · obtain ⟨rfl, rfl⟩ : page.items ++ rest = items ∧ s₂ = s' := by simpa using hdone
          obtain ⟨pages, hpages, rfl⟩ := ih hcollect
          exact ⟨page :: pages, .more hpage (hsame ▸ htold) hpages, by simp⟩
        · obtain rfl : o = .done items := congrArg Prod.fst heq.symm
          exact absurd rfl hne
    · obtain rfl : o = .done items := congrArg Prod.fst heq.symm
      exact absurd rfl hne

end Paging

namespace Client

variable {α : Type} (c : Client)

/-- The pages of a list: `make` has the request for each, and `read` reads what it holds. -/
def pageBy (make : Nat → Except Error Request) (read : Tree → Option (List α)) (number : Nat) :
    Task Session (Page α) := do
  let request ← Task.ofExcept (make number)
  let (items, response) ← c.executeJson read request
  return ⟨items, response⟩

/-- The page after a page is the one that the answer announces. -/
theorem pageBy_next? (make : Nat → Except Error Request) (read : Tree → Option (List α))
    (number : Nat) :
    YieldsOnly (fun page => page.next? = page.response.announced?) (c.pageBy make read number) :=
  .after fun _ => .bind (executeJson_told read) fun _ h => .pure (Page.next?_of_told h)

/-- **Lists are read to their end.** The place in a list that a client has read of an answer is what
the answer tells, if it is declared to be JSON, and none otherwise. So a list call follows the pages
that are announced, and it ends with one that announces none. -/
theorem executeJson_announces {β : Type} (r : Request) (read : Tree → Option α)
    (make : Nat → Except Error Request) (readList : Tree → Option (List β)) (rounds : Nat)
    (s s' : Session) :
    (∀ (a : α) (response : Response), c.executeJson read r s = (.done (a, response), s') →
      response.metadata.pagination = if response.hasJsonBody then response.told? else none) ∧
    (∀ items : List β, Paging.collect rounds (c.pageBy make readList) s = (.done items, s') →
      ∃ pages, Paging.Follows (·.response.announced?) (c.pageBy make readList) 1 s pages s' ∧
        items = pages.flatMap (·.items)) ∧
    ∀ (l : Lifetime) (f : ActionFilter) (items : List Action),
      c.allActions rounds l f s = (.done items, s') →
      ∃ pages, Paging.Follows (·.response.announced?) (fun page => c.actions l (f.atPage page)) 1 s
        pages s' ∧ items = pages.flatMap (·.items) := by
  refine ⟨fun a response h => executeJson_told read _ _ _ h, fun items h => ?_,
    fun l f items h => ?_⟩
  · exact Paging.follows_of_collectFrom (c.pageBy_next? make readList) h
  · exact Paging.follows_of_collectFrom
      (c.pageBy_next? (fun page => c.actionsRequest l (f.atPage page)) Action.listOfEnvelope?) h

end Client

namespace Loopback

/-- The body with a page of actions that tells the number of the next one. -/
def pageBody (actions : List Action) (next : Value) : Value :=
  .object [("actions", .array (actions.map Action.value)),
    ("meta", .object [("pagination", .object [("next_page", next)])])]

/-- The answer with a page of actions, declared to be of a media type. -/
def pageOf (declared : Http.HeaderValue) (actions : List Action) (next : Value) : Exchange :=
  ⟨0, .head ⟨200⟩ (.ofList [("content-type", declared)]) 0 (.ok (pageBody actions next).bytes)⟩

/-- A session in which the server has two pages. -/
def twoPages (declared : Http.HeaderValue) : Session :=
  session [pageOf declared [snapshot 1 .running] (.number (.whole 2)),
    pageOf declared [snapshot 2 .running] .null]

/-- Both pages are walked. -/
theorem executeJson_announces_twoPages :
    ∃ pages, Paging.Follows (·.response.announced?)
        (fun page => client.actions .unbounded (ActionFilter.all.atPage page)) 1
        (twoPages Client.jsonType) pages
        (client.allActions 2 .unbounded .all (twoPages Client.jsonType)).2 ∧
      [snapshot 1 .running, snapshot 2 .running] = pages.flatMap (·.items) := by
  have hall : (client.allActions 2 .unbounded .all (twoPages Client.jsonType)).1 =
      .done [snapshot 1 .running, snapshot 2 .running] :=
    Outcome.value?_eq_some.1 (by decide +kernel)
  obtain ⟨-, -, h⟩ := client.executeJson_announces frontPage Action.listOfEnvelope?
    (fun _ => .ok frontPage) Action.listOfEnvelope? 2 (twoPages Client.jsonType)
    (client.allActions 2 .unbounded .all (twoPages Client.jsonType)).2
  exact h .unbounded .all _ (Prod.ext hall rfl)

/-- The session in which both pages are declared to be plain text. -/
def plainPages : Session := twoPages (textBytes "text/plain")

/-- An announcement that is not declared to be JSON is not followed, although the body is read. -/
theorem not_announces_plain :
    ((client.executeJson Action.listOfEnvelope? frontPage plainPages).1.value?.map fun value =>
        (value.2.told?, value.2.metadata.pagination)) =
      some (some ⟨0, 0, none, 2, 0, 0⟩, none) ∧
    (client.allActions 2 .unbounded .all plainPages).1.value? = some [snapshot 1 .running] := by
  decide +kernel

end Loopback

end CloudClient
