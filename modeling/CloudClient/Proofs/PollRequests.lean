import CloudClient.Proofs.ClientWait
import CloudClient.Proofs.Noting
import CloudClient.Proofs.QueryRoundTrip

/-!
# What polls ask for

The ids that a poll asks for travel in the query of each of its requests, as one parameter for each
id. They are read back here with `Url.parameters`, so that nothing depends on how a query is
written.

* `valuesOf_sortedByKey` — sorting parameters by their keys keeps those with one key in order.
* `Client.actionsRequest_ids` — every page is asked for with the same ids.
* `Client.waitReporting_asks` — what a poll asks for, and when, whatever has been answered before.
-/

namespace CloudClient

/-! ## Parameters with a key -/

/-- The values of the parameters with a key, in order. -/
def valuesOf (key : String) (pairs : List Parameter) : List String :=
  (pairs.filter (·.1 == key)).map (·.2)

@[simp] theorem valuesOf_append (key : String) (pairs pairs' : List Parameter) :
    valuesOf key (pairs ++ pairs') = valuesOf key pairs ++ valuesOf key pairs' := by
  rw [valuesOf, List.filter_append, List.map_append, valuesOf, valuesOf]

theorem valuesOf_insertByKey (key : String) (p : Parameter) (pairs : List Parameter) :
    valuesOf key (insertByKey p pairs) = valuesOf key (p :: pairs) := by
  induction pairs with
  | nil => rfl
  | cons q rest ih =>
    rw [insertByKey]
    split_ifs with hle
    · rfl
    · -- a parameter that comes later has another key
      have hne : ¬ (p.1 = key ∧ q.1 = key) := by
        rintro ⟨hp, hq⟩
        exact hle (hp.trans hq.symm ▸ String.le_refl _)
      simp only [valuesOf, List.filter_cons, beq_iff_eq] at ih ⊢
      by_cases hp : p.1 = key
      · have hq : q.1 ≠ key := fun hq => hne ⟨hp, hq⟩
        simp only [hp, hq, if_true, if_false] at ih ⊢
        exact ih
      · simp only [hp, if_false] at ih ⊢
        by_cases hq : q.1 = key
        · simp only [hq, if_true, List.map_cons, ih]
        · simp only [hq, if_false, ih]

/-- **Sorting by keys keeps the parameters with one key in order.** -/
theorem valuesOf_sortedByKey (key : String) (pairs : List Parameter) :
    valuesOf key (sortedByKey pairs) = valuesOf key pairs := by
  induction pairs with
  | nil => rfl
  | cons p rest ih =>
    calc valuesOf key (insertByKey p (sortedByKey rest))
      _ = valuesOf key ([p] ++ sortedByKey rest) := valuesOf_insertByKey key p _
      _ = valuesOf key ([p] ++ rest) := by rw [valuesOf_append, valuesOf_append, ih]

/-- A filter by ids asks for the ids, on every page. -/
theorem valuesOf_pairs_ofIds (ids : List Int) (page : Nat) :
    valuesOf "id" ((ActionFilter.ofIds ids).atPage page).pairs = ids.map Decimal.intText := by
  have hids : (ids.map fun id => ("id", Decimal.intText id)).filter (·.1 == "id") =
      ids.map fun id => ("id", Decimal.intText id) := by
    rw [List.filter_eq_self]
    intro p hp
    obtain ⟨id, -, rfl⟩ := List.mem_map.1 hp
    rfl
  rw [ActionFilter.pairs, valuesOf_sortedByKey]
  simp [ActionFilter.unsorted, ActionFilter.atPage, ActionFilter.ofIds, ActionFilter.all,
    ListFilter.pairs, ListFilter.all, valuesOf, hids]

/-! ## Requests -/

namespace Client

variable {τ : Type} {c : Client} {rounds : Nat} {l : Lifetime}

/-- **Every page is asked for with the ids of the filter**, after any that the endpoint brings
along. -/
theorem actionsRequest_ids {ids : List Int} {page : Nat} {r : Request}
    (h : c.actionsRequest l ((ActionFilter.ofIds ids).atPage page) = .ok r) :
    ∃ base, c.request l "GET" actionsPath none = .ok base ∧
      valuesOf "id" r.url.parameters =
        valuesOf "id" base.url.parameters ++ ids.map Decimal.intText := by
  rw [actionsRequest] at h
  rcases hbase : c.request l "GET" actionsPath none with e | base
  · rw [hbase] at h
    cases h
  · rw [hbase] at h
    cases h
    refine ⟨base, rfl, ?_⟩
    rw [Request.withParameters, Url.parameters_withParameters, valuesOf_append,
      valuesOf_pairs_ofIds]

variable {report : τ → Action → Task Session τ} {kept : τ} {actions : List Action} {s : Session}

/-- **What a poll asks for.** Its ids are ascending, and they are those of the actions that were
running at first and that no earlier poll has shown as finished; there is one at least. Every
request of the poll asks for just these ids, on whatever page. And the poll comes after one pause,
which started where the poll before it was over, or all that is reported at first. -/
theorem waitReporting_asks {earlier : Ledger Session PollCall} {e : Entry Session PollCall}
    {ids : List Int} {answer : Outcome (List Action)}
    (hpre : earlier ++ [e] <+: c.waitLedger rounds l report kept actions s)
    (hcall : e.call = .fetch ids answer) :
    (ids.Pairwise (· < ·) ∧ ids ≠ [] ∧
      ∀ id, id ∈ ids ↔ (∃ a ∈ actions, a.isRunning ∧ a.id = id) ∧
        ∀ us ∈ earlier.answers, ∀ u ∈ us, u.id = id → ¬ u.isFinished) ∧
    (∀ r ∈ e.before.sentBetween e.after, ∃ base, c.request l "GET" actionsPath none = .ok base ∧
      valuesOf "id" r.url.parameters =
        valuesOf "id" base.url.parameters ++ ids.map Decimal.intText) ∧
    ∃ (prior : Ledger Session PollCall) (pause : Entry Session PollCall),
      earlier = prior ++ [pause] ∧ pause.call = .pause prior.polls.length (.done ()) ∧
        prior.IsBetweenPolls ∧ pause.before = prior.last s ∧
        pause.after = pause.before.paused c.pollBackoff prior.polls.length ∧
        e.before = pause.after := by
  have htraced := (c.waitReporting_ledger rounds l report kept actions s).traced
  obtain ⟨hbefore, hgoes, hfits⟩ := htraced.fits earlier e hpre
  rw [hcall] at hfits
  obtain ⟨hfetch, hids, hne, prior, pause, rfl, hpause⟩ := hfits
  obtain ⟨hpbefore, -, hpfits⟩ :=
    htraced.fits prior pause ((List.prefix_append _ _).trans hpre)
  rw [hpause] at hpfits
  obtain ⟨hpaused, -, hbetween, -⟩ := hpfits
  refine ⟨⟨?_, hne, ?_⟩, ?_, prior, pause, rfl, hpause, hbetween, hpbefore, ?_, ?_⟩
  · rw [hids]
    exact Polling.ascending_sort _
  · intro id
    rw [hids, Finset.mem_sort, Ledger.remaining, Finset.mem_sdiff, Polling.mem_trackedIds,
      Polling.mem_finishedIds]
    refine and_congr_right fun _ => ⟨?_, ?_⟩
    · intro h us hus u hu hid hfin
      exact h ⟨u, List.mem_flatten.2 ⟨us, hus, hu⟩, hfin, hid⟩
    · rintro h ⟨u, hu, hfin, hid⟩
      obtain ⟨us, hus, hu⟩ := List.mem_flatten.1 hu
      exact h us hus u hu hid hfin
  · intro r hr
    have hafter : (c.allActions rounds l (.ofIds ids) e.before).2 = e.after :=
      congrArg Prod.snd hfetch
    rw [← hafter] at hr
    obtain ⟨page, hpage⟩ := (c.notesOnly_allActions rounds l (.ofIds ids)).of_mem_sentBetween hr
    exact actionsRequest_ids hpage
  · exact Session.eq_paused_of_pause_done hpaused
  · rw [hbefore, Ledger.last_concat]

end Client

namespace Loopback

/-- The second poll of a wait asks for the one id that is left, half a second after the first. -/
theorem waitReporting_asks_uneven :
    ∃ (earlier : Ledger Session PollCall) (e : Entry Session PollCall)
      (answer : Outcome (List Action)),
      earlier ++ [e] <+: unevenCalls ∧ e.call = .fetch [2] answer ∧ earlier.polls.length = 1 ∧
      (∀ r ∈ e.before.sentBetween e.after, ∃ base,
        client.request .unbounded "GET" Client.actionsPath none = .ok base ∧
        valuesOf "id" r.url.parameters = valuesOf "id" base.url.parameters ++ ["2"]) ∧
      (e.before.sentBetween e.after).map (valuesOf "id" ·.url.parameters) = [["2"]] ∧
      e.before.now = (Ledger.last unevenSession earlier.dropLast).now + 500 := by
  have hpoll : unevenCalls.polls[1]?.map (fun poll => (poll.1, poll.2.value?)) =
      some ([2], some (uneven 1)) := by
    decide +kernel
  obtain ⟨earlier, e, hpre, hcall, hlen⟩ := Ledger.exists_fetch_of_value? hpoll
  obtain ⟨-, hrequests, prior, pause, rfl, -, -, hbefore, hafter, hlast⟩ :=
    Client.waitReporting_asks hpre hcall
  have hsent : ∀ e ∈ unevenCalls, e.call.fetch?.map (·.1) = some [2] →
      (e.before.sentBetween e.after).map (valuesOf "id" ·.url.parameters) = [["2"]] := by
    decide +kernel
  have hmem : e ∈ unevenCalls := hpre.subset (List.mem_concat_self)
  refine ⟨_, e, _, hpre, hcall, hlen, hrequests, hsent e hmem (by rw [hcall]; rfl), ?_⟩
  have hmillis : (Duration.ofMillis 500).millis = 500 := by decide
  rw [hlast, hafter, List.dropLast_concat, ← hbefore]
  exact congrArg (pause.before.now + ·) hmillis

/-- All requests of this wait, as the server reads them. -/
example :
    let ended := (client.waitReporting 2 .unbounded count 0 tracked unevenSession).2
    (unevenSession.sentBetween ended).map (valuesOf "id" ·.url.parameters) =
      [["1", "2"], ["2"]] := by
  decide +kernel

end Loopback

end CloudClient
