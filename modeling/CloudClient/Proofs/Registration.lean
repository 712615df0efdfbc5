import CloudClient.Proofs.Counting
import Mathlib.Data.List.TakeWhile

/-!
# Registering the shared collectors

A client that counts registers the two shared collectors when it is made, one after the other. The
registry may hold anything before, collectors of others with the same names included. Then a
collector may be refused, and it may be taken for one that is there already although it is not.

* `Registry.standing` — what a collector meets in a registry. This is all that decides what becomes
  of it (`Registry.registerOnce_apply`), and collectors with other names do not change it
  (`Registry.standing_concat`).
* `Registry.forEach_registerOnce` — so this is what becomes of any collectors with different names.
* `Client.IsAllOrNothing` — making a client either fails and leaves the registry as it was, or the
  registry holds both collectors, and shows whatever the client counts.
* `Client.build_isAllOrNothing_iff` — for which registries this is so.
-/

namespace CloudClient

/-- What a collector meets in a registry. -/
inductive Standing where
  /-- itself -/
  | held
  /-- not itself, but one with the same name and the same constant labels -/
  | taken
  /-- neither of these, but one of its name that it does not go with -/
  | refused
  /-- nothing that is in its way -/
  | free
  deriving DecidableEq

namespace Registry

/-! ## One collector -/

/-- What a collector meets in a registry. -/
def standing (r : Registry) (c : Collector) : Standing :=
  if c ∈ r.collectors then .held
  else if r.collectors.any fun d => isSame c.descriptor d.descriptor then .taken
  else if r.collectors.all fun d => isConsistent c.descriptor d.descriptor then .free
  else .refused

/-- Why no client is made if a collector is refused. -/
def refusal : Error := .configuration "Failed to register metrics: "

variable {r : Registry} {c d : Collector}

theorem standing_eq_held : r.standing c = .held ↔ c ∈ r.collectors := by
  rw [standing]
  split_ifs <;> simp_all

/-- A collector that is held is not registered again. -/
theorem register_of_mem (h : c ∈ r.collectors) : r.register c = .error .alreadyRegistered := by
  have hsame : r.collectors.any fun d => isSame c.descriptor d.descriptor :=
    List.any_eq_true.2 ⟨c, h, by simp [isSame]⟩
  rw [register, if_pos hsame]

/-- **What becomes of a collector** is decided by what it meets. -/
theorem registerOnce_apply (c : Collector) (r : Registry) :
    registerOnce c r =
      match r.standing c with
      | .held | .taken => (.done (), r)
      | .refused => (.failed refusal, r)
      | .free => (.done (), ⟨r.collectors ++ [c]⟩) := by
  by_cases hheld : c ∈ r.collectors
  · rw [registerOnce, register_of_mem hheld, standing_eq_held.2 hheld]
  · rw [registerOnce, register, standing, if_neg hheld]
    cases r.collectors.any fun d => isSame c.descriptor d.descriptor with
    | true => rfl
    | false => cases r.collectors.all fun d => isConsistent c.descriptor d.descriptor <;> rfl

/-- A collector with another name changes nothing. -/
theorem standing_concat (h : c.descriptor.name ≠ d.descriptor.name) :
    (⟨r.collectors ++ [d]⟩ : Registry).standing c = r.standing c := by
  have hne : c ≠ d := fun heq => h (heq ▸ rfl)
  have hsame : ¬ isSame c.descriptor d.descriptor := by simp [isSame, h]
  have hconsistent : isConsistent c.descriptor d.descriptor := by simp [isConsistent, h]
  simp [standing, hne, hsame, hconsistent]

/-! ## One collector after the other -/

/-- The collectors that are added: those that are free, up to the first one that is refused. -/
def added (r : Registry) (cs : List Collector) : List Collector :=
  (cs.takeWhile (r.standing · ≠ .refused)).filter (r.standing · = .free)

theorem added_congr {r' : Registry} {cs : List Collector}
    (h : ∀ c ∈ cs, r'.standing c = r.standing c) : r'.added cs = r.added cs := by
  induction cs with
  | nil => rfl
  | cons c cs ih =>
    obtain ⟨hc, hcs⟩ := List.forall_mem_cons.1 h
    specialize ih hcs
    rw [added, added] at ih ⊢
    rw [List.takeWhile_cons, List.takeWhile_cons, hc]
    split
    · rw [List.filter_cons, List.filter_cons, hc, ih]
    · rfl

/-- **What becomes of collectors with different names**, one after the other. -/
theorem forEach_registerOnce {cs : List Collector}
    (hnames : cs.Pairwise fun c d => c.descriptor.name ≠ d.descriptor.name) (r : Registry) :
    Task.forEach registerOnce cs r =
      (if ∃ c ∈ cs, r.standing c = .refused then .failed refusal else .done (),
        ⟨r.collectors ++ r.added cs⟩) := by
  induction cs generalizing r with
  | nil => simp [Task.forEach, added]
  | cons c cs ih =>
    obtain ⟨hc, hcs⟩ := List.pairwise_cons.1 hnames
    have honce := registerOnce_apply c r
    rw [Task.forEach]
    cases hstanding : r.standing c with
    | held | taken =>
      rw [hstanding] at honce
      rw [Task.bind_done honce, ih hcs]
      simp [added, hstanding]
    | refused =>
      rw [hstanding] at honce
      rw [Task.bind_failed honce]
      simp [added, hstanding]
    | free =>
      rw [hstanding] at honce
      rw [Task.bind_done honce, ih hcs]
      -- the others have other names, and meet the same as before
      have hsame : ∀ d ∈ cs, (⟨r.collectors ++ [c]⟩ : Registry).standing d = r.standing d :=
        fun d hd => standing_concat (hc d hd).symm
      have hrefused : (∃ d ∈ cs, (⟨r.collectors ++ [c]⟩ : Registry).standing d = .refused) ↔
          ∃ d ∈ c :: cs, r.standing d = .refused := by
        rw [List.exists_mem_cons_iff, hstanding]
        refine Iff.trans (exists_congr fun d => and_congr_right fun hd => ?_)
          (or_iff_right nofun).symm
        rw [hsame d hd]
      have hadded : r.added (c :: cs) = c :: r.added cs := by simp [added, hstanding]
      rw [added_congr hsame, hadded, List.append_assoc]
      simp only [hrefused]
      rfl

/-- **What becomes of the shared collectors.** -/
theorem registerShared_apply (r : Registry) :
    registerShared r =
      (if ∃ c ∈ Collector.shared, r.standing c = .refused then .failed refusal else .done (),
        ⟨r.collectors ++ r.added Collector.shared⟩) :=
  forEach_registerOnce (by decide) r

/-- If a shared collector is refused, the counter may have been added before. -/
theorem append_added_of_refused (h : ∃ c ∈ Collector.shared, r.standing c = .refused) :
    (⟨r.collectors ++ r.added Collector.shared⟩ : Registry) =
      if r.standing .requests = .free then ⟨r.collectors ++ [.requests]⟩ else r := by
  obtain ⟨c, hc, hrefused⟩ := h
  obtain rfl | rfl : c = .requests ∨ c = .durations := by simpa [Collector.shared] using hc
  · simp [added, Collector.shared, hrefused]
  · cases hrequests : r.standing .requests <;> simp [added, Collector.shared, hrequests, hrefused]

/-- If none is refused, those that are free are added. -/
theorem added_of_not_refused {cs : List Collector} (h : ∀ c ∈ cs, r.standing c ≠ .refused) :
    r.added cs = cs.filter (r.standing · = .free) := by
  rw [added, List.takeWhile_eq_self_iff.2 fun c hc => by simpa using h c hc]

/-- Then the registry holds all of them but those that are taken for others. -/
theorem mem_append_added {cs : List Collector} (h : ∀ c ∈ cs, r.standing c ≠ .refused)
    (hc : c ∈ cs) : c ∈ r.collectors ++ r.added cs ↔ r.standing c ≠ .taken := by
  rw [added_of_not_refused h, List.mem_append, ← standing_eq_held, List.mem_filter]
  have hne := h c hc
  cases hstanding : r.standing c <;> simp_all

/-! ## What is shown -/

/-- A round trip with these labels can be seen in a registry. -/
structure Shows (r : Registry) (m : Metrics) (status : Http.Status) (method operation : String) :
    Prop where
  /-- the counter shows it -/
  request : ∃ n ≠ 0, ([Collector.requests.descriptor.name, Decimal.natText status.code, method,
    operation], n) ∈ r.samples m
  /-- the histogram shows it -/
  duration : ∃ n ≠ 0, ([Collector.durations.descriptor.name, method, operation], n) ∈ r.samples m

/-- A registry with the shared collectors shows all that is counted. -/
theorem shows_of_mem (h : ∀ c ∈ Collector.shared, c ∈ r.collectors) {completed : List Labels}
    {status : Http.Status} {method operation : String}
    (hlabels : (status, method, operation) ∈ completed) :
    r.Shows (.ofTrips completed) status method operation := by
  have hrequests : (Metrics.ofTrips completed).requests.count (status, method, operation) ≠ 0 := by
    rw [Metrics.ofTrips, Tally.count_ofList]
    exact (List.count_pos_iff.2 hlabels).ne'
  have hdurations : (Metrics.ofTrips completed).durations.count (method, operation) ≠ 0 := by
    rw [Metrics.ofTrips, Tally.count_ofList]
    exact (List.count_pos_iff.2 (List.mem_map_of_mem (f := Prod.snd) hlabels)).ne'
  exact ⟨⟨_, hrequests, (mem_samples_requests (h _ (by decide)) (Tally.wellFormed_ofList _) ..).2
      ⟨hrequests, rfl⟩⟩,
    ⟨_, hdurations, (mem_samples_durations (h _ (by decide)) (Tally.wellFormed_ofList _) ..).2
      ⟨hdurations, rfl⟩⟩⟩

end Registry

/-! ## Making a client -/

namespace Client

variable {o : ClientOptions} {r : Registry} {c : Client}

/-- How making a client ends. -/
inductive Making (o : ClientOptions) (r : Registry) : Outcome Client × Registry → Prop
  | wrong {e : Error} (h : o.checked = .error e) : Making o r (.failed e, r)
  | quiet {c : Client} (h : o.checked = .ok c) (hquiet : o.isInstrumented = false) :
      Making o r (.done c, r)
  | refused {c : Client} (h : o.checked = .ok c) (hcounts : o.isInstrumented = true)
      (hrefused : ∃ x ∈ Collector.shared, r.standing x = .refused) :
      Making o r (.failed Registry.refusal,
        if r.standing .requests = .free then ⟨r.collectors ++ [.requests]⟩ else r)
  | registered {c : Client} (h : o.checked = .ok c) (hcounts : o.isInstrumented = true)
      (hrefused : ∀ x ∈ Collector.shared, r.standing x ≠ .refused) :
      Making o r (.done c, ⟨r.collectors ++ r.added Collector.shared⟩)

theorem isInstrumented_of_checked (h : o.checked = .ok c) :
    c.isInstrumented = o.isInstrumented := by
  obtain ⟨_, _, _, _, -, -, -, -, rfl⟩ := checked_inv h
  rfl

/-- **Making a client ends in one of these ways.** -/
theorem build_making (o : ClientOptions) (r : Registry) : Making o r (build o r) := by
  cases h : o.checked with
  | error e =>
    have hbuild : build o r = (.failed e, r) := by
      rw [build, h]
      rfl
    rw [hbuild]
    exact .wrong h
  | ok c =>
    have hbuild : build o r = (if c.isInstrumented then Registry.registerShared >>= fun _ => pure c
        else pure c : Task Registry Client) r := by
      rw [build, h]
      rfl
    rw [hbuild, isInstrumented_of_checked h]
    cases hcounts : o.isInstrumented with
    | false => exact .quiet h hcounts
    | true =>
      rw [if_pos rfl, Task.bind_apply, Registry.registerShared_apply]
      split_ifs with hrefused
      · rw [Registry.append_added_of_refused hrefused]
        exact .refused h hcounts hrefused
      · exact .registered h hcounts fun x hx hx' => hrefused ⟨x, hx, hx'⟩

/-- Whatever a client counts can be seen in a registry, at every moment and whatever other clients
do: the round trips whose whole answers have come. -/
def IsSeenIn (c : Client) (r : Registry) : Prop :=
  ∀ p : Process, p.Seen → ∀ t, (c, t) ∈ p.trips →
    t.endsAt p.session.surroundings.network c.timeout ≤ p.session.now →
    ∀ raw, t.received? p.session.surroundings.network c.timeout = some raw →
      r.Shows p.session.metrics raw.status t.request.method t.request.operation

theorem isSeenIn_of_mem (hcounts : c.isInstrumented = true)
    (h : ∀ x ∈ Collector.shared, x ∈ r.collectors) : c.IsSeenIn r := by
  intro p hp t ht hend raw hraw
  rw [hp.metrics_eq]
  refine Registry.shows_of_mem h (List.mem_filterMap.2 ⟨_, ht, ?_⟩)
  rw [if_pos hend, labels?, if_pos hcounts, hraw]
  rfl

/-- The options are right, and if the client is going to count, no shared collector is refused. -/
def IsAccepted (o : ClientOptions) (r : Registry) : Prop :=
  (∃ c, o.checked = .ok c) ∧
    (o.isInstrumented = true → ∀ x ∈ Collector.shared, r.standing x ≠ .refused)

namespace Making

variable {r' : Registry} {e : Error}

theorem isAccepted (h : Making o r (.done c, r')) : IsAccepted o r := by
  cases h with
  | quiet h hquiet => exact ⟨⟨c, h⟩, fun hcounts => by simp [hquiet] at hcounts⟩
  | registered h _ hrefused => exact ⟨⟨c, h⟩, fun _ => hrefused⟩

theorem not_isAccepted (h : Making o r (.failed e, r')) : ¬ IsAccepted o r := by
  rintro ⟨⟨c, hc⟩, hnone⟩
  cases h with
  | wrong h => simp [h] at hc
  | refused _ hcounts hrefused =>
    obtain ⟨x, hx, hx'⟩ := hrefused
    exact hnone hcounts x hx hx'

theorem done_or_failed {ends : Outcome Client × Registry} (h : Making o r ends) :
    (∃ c, ends.1 = .done c) ∨ ∃ e, ends.1 = .failed e := by
  cases h with
  | wrong | refused => exact .inr ⟨_, rfl⟩
  | quiet | registered => exact .inl ⟨_, rfl⟩

/-- The registry holds the shared collectors that are not taken. -/
theorem mem_iff (h : Making o r (.done c, r')) (hcounts : o.isInstrumented = true) {x : Collector}
    (hx : x ∈ Collector.shared) : x ∈ r'.collectors ↔ r.standing x ≠ .taken := by
  cases h with
  | quiet _ hquiet => simp [hquiet] at hcounts
  | registered _ _ hrefused => exact Registry.mem_append_added hrefused hx

/-- Without a client, the registry is as before or holds the counter. -/
theorem eq_or (h : Making o r (.failed e, r')) :
    r' = r ∨ ((∃ c, o.checked = .ok c) ∧ o.isInstrumented = true ∧ r.standing .requests = .free ∧
      r.standing .durations = .refused) ∧ r' = ⟨r.collectors ++ [.requests]⟩ := by
  cases h with
  | wrong => exact .inl rfl
  | refused hc hcounts hrefused =>
    split_ifs with hfree
    · have hdurations : r.standing .durations = .refused := by
        simpa [Collector.shared, hfree] using hrefused
      exact .inr ⟨⟨⟨_, hc⟩, hcounts, hfree, hdurations⟩, rfl⟩
    · exact .inl rfl

/-- If the counter is free and the histogram is refused, the registry is not as before. -/
theorem ne (h : Making o r (.failed e, r')) (hc : o.checked = .ok c)
    (hfree : r.standing .requests = .free) : r' ≠ r := by
  cases h with
  | wrong h => simp [h] at hc
  | refused =>
    rw [if_pos hfree]
    intro heq
    have hlength := congrArg (fun r => r.collectors.length) heq
    simp at hlength

end Making

/-- Making a client registers both shared collectors, or none. -/
structure IsAllOrNothing (o : ClientOptions) (r : Registry) : Prop where
  /-- after an error the registry is as before -/
  unchanged : ∀ e, (build o r).1 = .failed e → (build o r).2 = r
  /-- if there is a client that counts, the registry holds both -/
  held : ∀ c, (build o r).1 = .done c → o.isInstrumented = true →
    ∀ x ∈ Collector.shared, x ∈ (build o r).2.collectors
  /-- and shows what the client counts -/
  seen : ∀ c, (build o r).1 = .done c → o.isInstrumented = true → c.IsSeenIn (build o r).2

theorem making_of_fst {outcome : Outcome Client} (h : (build o r).1 = outcome) :
    Making o r (outcome, (build o r).2) :=
  h ▸ build_making o r

theorem done_iff : (∃ c, (build o r).1 = .done c) ↔ IsAccepted o r := by
  constructor
  · rintro ⟨c, hc⟩
    exact (making_of_fst hc).isAccepted
  · intro h
    obtain hdone | ⟨e, he⟩ := (build_making o r).done_or_failed
    · exact hdone
    · exact absurd h (making_of_fst he).not_isAccepted

theorem failed_iff : (∃ e, (build o r).1 = .failed e) ↔ ¬ IsAccepted o r := by
  constructor
  · rintro ⟨e, he⟩
    exact (making_of_fst he).not_isAccepted
  · intro h
    exact (build_making o r).done_or_failed.resolve_left fun hdone => h (done_iff.1 hdone)

/-- **What making a client does to a registry**, whatever the registry holds. A client is made if
the options are right and, should it count, no shared collector is refused. Then the registry holds
all shared collectors but those that are taken for others. Without a client it is as before, unless
the counter is free and the histogram is refused: the counter is registered first, and stays. So
making a client that counts is all or nothing, unless it comes to this or a collector is taken. -/
theorem build_isAllOrNothing_iff (o : ClientOptions) (r : Registry) :
    ((∃ c, (build o r).1 = .done c) ↔ IsAccepted o r) ∧
    ((∃ e, (build o r).1 = .failed e) ↔ ¬ IsAccepted o r) ∧
    (∀ c, (build o r).1 = .done c → o.isInstrumented = true → ∀ x ∈ Collector.shared,
      (x ∈ (build o r).2.collectors ↔ r.standing x ≠ .taken)) ∧
    (∀ e, (build o r).1 = .failed e → (build o r).2 = r ∨
      ((∃ c, o.checked = .ok c) ∧ o.isInstrumented = true ∧ r.standing .requests = .free ∧
        r.standing .durations = .refused) ∧ (build o r).2 = ⟨r.collectors ++ [.requests]⟩) ∧
    (IsAllOrNothing o r ↔ ((∃ c, o.checked = .ok c) → o.isInstrumented = true →
      ¬ (r.standing .requests = .free ∧ r.standing .durations = .refused) ∧
      (IsAccepted o r → ∀ x ∈ Collector.shared, r.standing x ≠ .taken))) := by
  refine ⟨done_iff, failed_iff, fun c hc hcounts x hx => (making_of_fst hc).mem_iff hcounts hx,
    fun e he => (making_of_fst he).eq_or, ?_, ?_⟩
  · rintro ⟨hunchanged, hheld, -⟩ ⟨c, hc⟩ hcounts
    refine ⟨fun ⟨hfree, hrefused⟩ => ?_, fun haccepted x hx => ?_⟩
    · obtain ⟨e, he⟩ := failed_iff.2 fun haccepted : IsAccepted o r =>
        haccepted.2 hcounts .durations (by decide) hrefused
      exact (making_of_fst he).ne hc hfree (hunchanged e he)
    · obtain ⟨c, hdone⟩ := done_iff.2 haccepted
      exact ((making_of_fst hdone).mem_iff hcounts hx).1 (hheld c hdone hcounts x hx)
  · intro h
    have hheld : ∀ c, (build o r).1 = .done c → o.isInstrumented = true →
        ∀ x ∈ Collector.shared, x ∈ (build o r).2.collectors := by
      intro c hdone hcounts x hx
      have haccepted := (making_of_fst hdone).isAccepted
      exact ((making_of_fst hdone).mem_iff hcounts hx).2
        ((h haccepted.1 hcounts).2 haccepted x hx)
    refine ⟨fun e he => ?_, hheld, fun c hdone hcounts => ?_⟩
    · obtain heq | ⟨⟨hc, hcounts, hhalf⟩, -⟩ := (making_of_fst he).eq_or
      · exact heq
      · exact absurd hhalf (h hc hcounts).1
    · have hc : o.checked = .ok c := checked_of_build (Prod.ext hdone rfl)
      exact isSeenIn_of_mem ((isInstrumented_of_checked hc).trans hcounts) (hheld c hdone hcounts)

end Client

namespace Loopback

/-- A registry with another counter that has the same name. -/
def occupied : Registry := ⟨[.foreign ⟨"hcloud_api_requests_total", "foreign", [], []⟩]⟩

/-- A registry with another histogram that has the same name, and a constant label. -/
def halfClosed : Registry :=
  ⟨[.foreign ⟨"hcloud_api_request_duration_seconds", "foreign", [("a", "b")], []⟩]⟩

/-- In the first registry a client is made, but its requests are not counted there; in the second
one there is an error, but the counter was registered. -/
theorem not_isAllOrNothing_occupied :
    (Client.build observing occupied = (.done observer, ⟨occupied.collectors ++ [.durations]⟩) ∧
      ¬ Client.IsAllOrNothing observing occupied) ∧
    (Client.build observing halfClosed =
        (.failed Registry.refusal, ⟨halfClosed.collectors ++ [.requests]⟩) ∧
      ¬ Client.IsAllOrNothing observing halfClosed) := by
  have hoccupied : Client.build observing occupied =
    (.done observer, ⟨occupied.collectors ++ [.durations]⟩) := rfl
  have hhalfClosed : Client.build observing halfClosed =
    (.failed Registry.refusal, ⟨halfClosed.collectors ++ [.requests]⟩) := rfl
  refine ⟨⟨hoccupied, fun h => ?_⟩, hhalfClosed, fun h => ?_⟩
  · have hheld := h.held observer (by rw [hoccupied]) rfl .requests (by decide)
    rw [hoccupied] at hheld
    exact absurd hheld (by decide)
  · have hunchanged := h.unchanged Registry.refusal (by rw [hhalfClosed])
    rw [hhalfClosed] at hunchanged
    exact absurd hunchanged (by decide)

end Loopback

end CloudClient
