import CloudClient.Http.Status
import CloudClient.Task

/-!
# Metrics

Clients count their round trips in two collectors that all clients share: one counts by status,
method and operation, the other one takes the time by method and operation. `Metrics` holds what
they have counted; of the times only their number is kept.

A collector can be seen through any registry in which it is registered. `Registry.register` adds a
collector to a registry, or refuses it; `Registry.registerShared` adds the two shared ones.
-/

namespace CloudClient

/-! ## Counts -/

/-- How often something was counted, by its labels. -/
abbrev Tally (κ : Type) := List (κ × Nat)

namespace Tally

variable {κ : Type} [DecidableEq κ]

/-- The count under these labels. -/
def count (t : Tally κ) (labels : κ) : Nat := ((t.find? (·.1 == labels)).map (·.2)).getD 0

/-- Counts once more under these labels. -/
def increment (labels : κ) : Tally κ → Tally κ
  | [] => [(labels, 1)]
  | (k, n) :: rest =>
    if k = labels then (k, n + 1) :: rest else (k, n) :: increment labels rest

/-- Counting adds one to the count under the labels, and changes no other count. -/
theorem count_increment (t : Tally κ) (labels other : κ) :
    (t.increment labels).count other = t.count other + if labels = other then 1 else 0 := by
  induction t with
  | nil => by_cases h : labels = other <;> simp [increment, count, h]
  | cons p rest ih =>
    obtain ⟨k, n⟩ := p
    simp only [count] at ih
    by_cases hk : k = labels
    · subst hk
      by_cases ho : k = other <;> simp [increment, count, ho]
    · by_cases ho : k = other
      · subst ho
        simp [increment, count, hk, Ne.symm hk]
      · simp [increment, count, hk, ho, ih]

end Tally

/-- What the shared collectors have counted. -/
structure Metrics where
  /-- the round trips by status, method and operation -/
  requests : Tally (Http.Status × String × String)
  /-- the times that were taken, by method and operation -/
  durations : Tally (String × String)
  deriving DecidableEq

namespace Metrics

/-- Nothing counted yet. -/
def empty : Metrics := ⟨[], []⟩

/-- Counts a round trip. -/
def observe (status : Http.Status) (method operation : String) (m : Metrics) : Metrics :=
  ⟨m.requests.increment (status, method, operation), m.durations.increment (method, operation)⟩

end Metrics

/-! ## Registries -/

/-- What a collector says about itself. -/
structure Descriptor where
  /-- the name -/
  name : String
  /-- what is counted -/
  help : String
  /-- labels that all its counts have, with their values -/
  constants : List (String × String)
  /-- the labels by which it counts -/
  labels : List String
  deriving DecidableEq

/-- A collector. -/
inductive Collector where
  /-- the shared one that counts the round trips -/
  | requests
  /-- the shared one that takes their times -/
  | durations
  /-- any other one -/
  | foreign (descriptor : Descriptor)
  deriving DecidableEq

namespace Collector

/-- The collectors that all clients share. -/
def shared : List Collector := [requests, durations]

/-- What a collector says about itself. -/
def descriptor : Collector → Descriptor
  | requests =>
    ⟨"hcloud_api_requests_total", "A counter for requests to the API.", [],
      ["code", "method", "api_endpoint"]⟩
  | durations =>
    ⟨"hcloud_api_request_duration_seconds", "A histogram of request latencies.", [],
      ["method", "api_endpoint"]⟩
  | foreign descriptor => descriptor

/-- The samples of a collector: the name with the labels, and the count. -/
def samples (m : Metrics) : Collector → List (List String × Nat)
  | requests => m.requests.map fun p =>
    ([requests.descriptor.name, Decimal.natText p.1.1.code, p.1.2.1, p.1.2.2], p.2)
  | durations => m.durations.map fun p => ([durations.descriptor.name, p.1.1, p.1.2], p.2)
  | foreign _ => []

end Collector

/-- Why a collector is refused. -/
inductive RegistryError where
  /-- there is one with the same name and the same constant labels -/
  | alreadyRegistered
  /-- there is one with the same name and another help or other labels -/
  | inconsistent
  deriving DecidableEq

/-- Collectors that are seen together. -/
structure Registry where
  /-- the collectors, in the order in which they were registered -/
  collectors : List Collector
  deriving DecidableEq

namespace Registry

/-- A registry without collectors. -/
def empty : Registry := ⟨[]⟩

/-- Do two collectors count as the same one? -/
def isSame (c d : Descriptor) : Bool := c.name == d.name && c.constants == d.constants

/-- Can collectors of one name stand next to each other? -/
def isConsistent (c d : Descriptor) : Bool :=
  c.name != d.name ||
    (c.help == d.help && c.labels == d.labels &&
      c.constants.map (·.1) == d.constants.map (·.1))

/-- Adds a collector, or refuses it. -/
def register (c : Collector) (r : Registry) : Except RegistryError Registry :=
  if r.collectors.any fun d => isSame c.descriptor d.descriptor then .error .alreadyRegistered
  else if r.collectors.all fun d => isConsistent c.descriptor d.descriptor then
    .ok ⟨r.collectors ++ [c]⟩
  else .error .inconsistent

/-- Adds a shared collector. One that is there already is not added again. -/
def registerOnce (c : Collector) : Task Registry Unit := fun r =>
  match r.register c with
  | .ok r' => (.done (), r')
  | .error .alreadyRegistered => (.done (), r)
  | .error .inconsistent => (.failed (.configuration "Failed to register metrics: "), r)

/-- Adds the shared collectors, one after the other. -/
def registerShared : Task Registry Unit := Task.forEach registerOnce Collector.shared

/-- All samples that are seen. -/
def samples (m : Metrics) (r : Registry) : List (List String × Nat) :=
  r.collectors.flatMap (Collector.samples m)

end Registry

end CloudClient
