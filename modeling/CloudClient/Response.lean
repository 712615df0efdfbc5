import CloudClient.Http.Header
import CloudClient.Http.Status
import CloudClient.Json.Record
import CloudClient.RateLimit

/-!
# Responses

A `Response` keeps the status, the header fields and the whole body of an answer, and next to them
the metadata that the client reads from it: where the page stands in its list, and the request
window.
-/

namespace CloudClient

/-! ## Pagination -/

/-- Where a page stands in its list. A `nextPage` of zero marks the last page. -/
structure Pagination where
  /-- the number of this page -/
  page : Nat
  /-- how many entries a page holds -/
  perPage : Nat
  /-- the number of the page before -/
  previousPage : Option Nat
  /-- the number of the page after, or zero -/
  nextPage : Nat
  /-- the number of the last page, or zero -/
  lastPage : Nat
  /-- how many entries the list has, or zero -/
  totalEntries : Nat
  deriving DecidableEq

namespace Pagination

open Json

/-- Reads the pagination record of a list answer. -/
def ofTree? (t : Tree) : Option Pagination := do
  match ← t.fields? ["page", "per_page", "previous_page", "next_page", "last_page",
      "total_entries"] with
  | [page, perPage, previousPage, nextPage, lastPage, totalEntries] =>
    return {
      page := ← Tree.withDefault 0 Tree.nat32? page
      perPage := ← Tree.withDefault 0 Tree.nat32? perPage
      previousPage := ← Tree.optional Tree.nat32? previousPage
      nextPage := (← Tree.optional Tree.nat32? nextPage).getD 0
      lastPage := (← Tree.optional Tree.nat32? lastPage).getD 0
      totalEntries := (← Tree.optional Tree.nat32? totalEntries).getD 0 }
  | _ => none

/-- Reads a record with one field that may be missing or null. -/
def field? {α : Type} (name : String) (read : Tree → Option α) (t : Tree) :
    Option (Option α) := do
  match ← t.fields? [name] with
  | [field] => Tree.optional read field
  | _ => none

/-- Reads the metadata around a list: `meta.pagination`, if it is there. -/
def ofEnvelope? (t : Tree) : Option (Option Pagination) := do
  let metadata ← field? "meta" (field? "pagination" ofTree?) t
  return metadata.join

end Pagination

/-! ## Responses -/

/-- What the client reads from an answer besides the body. -/
structure Metadata where
  /-- where the page stands in its list, for answers that say so -/
  pagination : Option Pagination
  /-- the request window -/
  rateLimit : RateLimit
  deriving DecidableEq

/-- Nothing read yet. -/
def Metadata.empty : Metadata := ⟨none, .unknown⟩

/-- An answer of the API. -/
structure Response where
  /-- the status -/
  status : Http.Status
  /-- the header fields -/
  headers : Http.Headers
  /-- the whole body -/
  body : Bytes
  /-- what the client has read from it -/
  metadata : Metadata
  deriving DecidableEq

namespace Response

/-- An answer of which nothing has been read. -/
def received (status : Http.Status) (headers : Http.Headers) (body : Bytes) : Response :=
  ⟨status, headers, body, .empty⟩

/-- The body as text. -/
def text (r : Response) : String := lossyText r.body

/-- The first value of a header field as text. -/
def header? (r : Response) (name : Http.HeaderName) : Option String := r.headers.text? name

/-- Is there a body, and is it declared to be JSON? -/
def hasJsonBody (r : Response) : Bool :=
  !r.body.isEmpty &&
    ((r.header? "content-type").map (·.startsWith "application/json")).getD false

/-- The body, read as a JSON text. -/
def decode? {α : Type} (r : Response) (read : Json.Tree → Option α) : Option α := do
  read (← Json.Tree.parse? r.body)

end Response

end CloudClient
