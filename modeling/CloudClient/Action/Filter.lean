import CloudClient.Action.Basic

/-!
# Filters of lists

A list is asked for with query parameters: which page, how many entries, which labels, and for
actions also which ids and statuses, and in which order. `pairs` gives the parameters; those of
actions are sorted by their keys, and parameters with one key keep their order.
-/

namespace CloudClient

/-- A query parameter. -/
abbrev Parameter := String × String

/-- What every list can be asked for. -/
structure ListFilter where
  /-- the number of the page -/
  page : Option Nat
  /-- how many entries a page shall hold -/
  perPage : Option Nat
  /-- which labels the entries shall have -/
  labelSelector : Option String
  deriving DecidableEq

namespace ListFilter

/-- Everything, from the first page. -/
def all : ListFilter := ⟨none, none, none⟩

/-- The query parameters. -/
def pairs (f : ListFilter) : List Parameter :=
  (f.page.map fun n => ("page", Decimal.natText n)).toList ++
    (f.perPage.map fun n => ("per_page", Decimal.natText n)).toList ++
    (f.labelSelector.map fun s => ("label_selector", s)).toList

end ListFilter

/-- Puts a parameter in front of the first one whose key is the same or comes later. -/
def insertByKey (p : Parameter) : List Parameter → List Parameter
  | [] => [p]
  | q :: rest => if p.1 ≤ q.1 then p :: q :: rest else q :: insertByKey p rest

/-- Parameters in the order of their keys. -/
def sortedByKey (pairs : List Parameter) : List Parameter := pairs.foldr insertByKey []

/-- What a list of actions can be asked for. -/
structure ActionFilter where
  /-- the page, its size and the labels -/
  list : ListFilter
  /-- the ids of the actions; all if there are none -/
  ids : List Int
  /-- the statuses of the actions; all if there are none -/
  statuses : List ActionStatus
  /-- the keys to sort by -/
  sort : List String
  deriving DecidableEq

namespace ActionFilter

/-- All actions, from the first page. -/
def all : ActionFilter := ⟨.all, [], [], []⟩

/-- The filter of the actions with these ids, by status and id. -/
def ofIds (ids : List Int) : ActionFilter := { all with ids, sort := ["status", "id"] }

/-- The filter for a certain page. -/
def atPage (f : ActionFilter) (page : Nat) : ActionFilter :=
  { f with list := { f.list with page := some page } }

/-- The parameters before they are sorted. -/
def unsorted (f : ActionFilter) : List Parameter :=
  f.list.pairs ++ f.ids.map (fun id => ("id", Decimal.intText id)) ++
    f.statuses.map (fun s => ("status", s.text)) ++ f.sort.map (fun key => ("sort", key))

/-- The query parameters. -/
def pairs (f : ActionFilter) : List Parameter := sortedByKey f.unsorted

end ActionFilter

end CloudClient
