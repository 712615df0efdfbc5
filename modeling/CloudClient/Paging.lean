import CloudClient.Response
import CloudClient.Task

/-!
# Paging

Long lists are answered in pages. Each page tells the number of the next one, and `collect` follows
these numbers from page one to a page that names none. `firstNamed` looks something up by its name
in the first page of a list.

Nothing bounds the number of pages but the server; `collect` takes a bound on the pages it asks
for.
-/

namespace CloudClient

/-- The entries of a page, and the answer that held them. -/
structure Page (α : Type) where
  /-- the entries -/
  items : List α
  /-- the answer -/
  response : Response

namespace Page

variable {α : Type}

/-- The number of the page after this one, if there is one. -/
def next? (p : Page α) : Option Nat :=
  match p.response.metadata.pagination with
  | none => none
  | some pagination => if pagination.nextPage = 0 then none else some pagination.nextPage

end Page

namespace Paging

variable {σ α : Type}

/-- The entries of the page with this number and of all pages after it, of which there are at most
`rounds`. -/
def collectFrom (fetch : Nat → Task σ (Page α)) : Nat → Nat → Task σ (List α)
  | 0, _ => Task.giveUp
  | rounds + 1, number => do
    let page ← fetch number
    match page.next? with
    | none => return page.items
    | some next =>
      let rest ← collectFrom fetch rounds next
      return page.items ++ rest

/-- The entries of all pages. -/
def collect (rounds : Nat) (fetch : Nat → Task σ (Page α)) : Task σ (List α) :=
  collectFrom fetch rounds 1

/-- The first entry of a list that is filtered by a name, and the answer. An empty name names
nothing, and nothing is asked for. -/
def firstNamed (name : String) (list : Task σ (Page α)) : Task σ (Option α × Option Response) :=
  if name.isEmpty then return (none, none)
  else do
    let page ← list
    return (page.items.head?, some page.response)

end Paging

end CloudClient
