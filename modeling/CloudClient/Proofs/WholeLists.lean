import CloudClient.Proofs.ListBodies
import CloudClient.Proofs.PollRequests

/-!
# Lists come back whole

A server has a list of actions and gives it out in pages of one size. A client that asks for all
actions gets the list as it is, with one request for each page.

* `Paging.chunk`, `Paging.pageCount` — the pages of a list, and how many there are. A list without
  entries has one page.
* `Client.HasPages` — what the server does: it answers the requests of this client, each with the
  page that it is for. What it makes of other requests does not matter.
* `Client.actions_page` — one page is fetched with one request.
* `Client.collectFrom_pages` — from a page on, all pages are fetched one after the other.
* `Client.allActions_whole` — so the whole list comes back.
-/

namespace CloudClient

open Json

/-! ## Pages of a list -/

namespace Paging

variable {α : Type}

/-- The entries of a list on the page with this number, the first one being page one. -/
def chunk (entries : List α) (size number : Nat) : List α :=
  (entries.drop ((number - 1) * size)).take size

/-- How many pages a list has. -/
def pageCount (entries : List α) (size : Nat) : Nat :=
  max 1 ((entries.length + size - 1) / size)

variable {entries : List α} {size number : Nat}

/-- From a page on there are its entries, and then those from the next page on. -/
theorem chunk_append_drop (h : 1 ≤ number) :
    chunk entries size number ++ entries.drop (number * size) =
      entries.drop ((number - 1) * size) := by
  obtain ⟨k, rfl⟩ : ∃ k, number = k + 1 := ⟨number - 1, by omega⟩
  rw [chunk, Nat.add_sub_cancel, Nat.succ_mul, ← List.drop_drop]
  exact List.take_append_drop _ _

/-- The last page reaches the end of the list. -/
theorem length_le_pageCount_mul (h : 1 ≤ size) :
    entries.length ≤ pageCount entries size * size := by
  have hceil : entries.length ≤ (entries.length + size - 1) / size * size := by
    have := Nat.div_add_mod (entries.length + size - 1) size
    have := Nat.mod_lt (entries.length + size - 1) h
    rw [Nat.mul_comm]
    omega
  exact hceil.trans (Nat.mul_le_mul_right _ (le_max_right _ _))

theorem chunk_pageCount (h : 1 ≤ size) :
    chunk entries size (pageCount entries size) =
      entries.drop ((pageCount entries size - 1) * size) := by
  have hcount : 1 ≤ pageCount entries size := le_max_left _ _
  rw [← chunk_append_drop hcount, List.drop_of_length_le (length_le_pageCount_mul h),
    List.append_nil]

end Paging

/-! ## A server -/

/-- A round trip that brings, within the time that the client has, an answer that is declared to be
JSON and has this body. -/
structure Exchange.Brings (e : Exchange) (timeout : Option Nat) (t : Tree) : Prop where
  reply : ∃ headers bodyDelay body, e.reply = .head ⟨200⟩ headers bodyDelay (.ok body) ∧
    (∃ text, headers.text? "content-type" = some text ∧ text.startsWith "application/json" = true) ∧
    Tree.parse? body = some t
  inTime : ∀ millis, timeout = some millis → e.duration ≤ millis

/-- From a state on, the network leads to a server with these actions: the requests that are made
with the filter for page one, page two and so on are given these pages in turn, each with the number
of the next one if there is one. -/
def Client.HasPages (c : Client) (s : Session) (base : Request) (f : ActionFilter)
    (actions : List Action) (size : Nat) : Prop :=
  ∀ number, 1 ≤ number → number ≤ Paging.pageCount actions size →
    ∃ t, (s.surroundings.network (s.trips + (number - 1))
        (base.withParameters (f.atPage number).pairs)).Brings c.timeout t ∧
      t.IsActionPage (Paging.chunk actions size number)
        (if number < Paging.pageCount actions size then number + 1 else 0)

/-! ## Asking for a page -/

theorem valuesOf_eq_nil {key : String} {pairs : List Parameter} (h : ∀ p ∈ pairs, p.1 ≠ key) :
    valuesOf key pairs = [] := by
  rw [valuesOf, List.map_eq_nil_iff, List.filter_eq_nil_iff]
  exact fun p hp => by simpa using h p hp

/-- The parameters without the number of a page. -/
theorem unsorted_eq (f : ActionFilter) : f.unsorted =
    (f.list.page.map fun n => ("page", Decimal.natText n)).toList ++
      ({ f with list := { f.list with page := none } } : ActionFilter).unsorted := by
  simp [ActionFilter.unsorted, ListFilter.pairs]

/-- The request for a page names this page, and no other. -/
theorem valuesOf_pairs_atPage (f : ActionFilter) (number : Nat) :
    valuesOf "page" (f.atPage number).pairs = [Decimal.natText number] := by
  have hothers : ∀ p ∈ ({ f with list := { f.list with page := none } } : ActionFilter).unsorted,
      p.1 ≠ "page" := by
    intro p hp
    simp only [ActionFilter.unsorted, ListFilter.pairs, List.mem_append, List.mem_map,
      Option.mem_toList, Option.map_eq_some_iff] at hp
    rcases hp with (((⟨⟨_, ⟨⟩, -⟩ | ⟨_, -, rfl⟩⟩ | ⟨_, -, rfl⟩) | ⟨_, -, rfl⟩) | ⟨_, -, rfl⟩) |
      ⟨_, -, rfl⟩
    all_goals simp
  rw [ActionFilter.pairs, valuesOf_sortedByKey, unsorted_eq]
  exact congrArg (Decimal.natText number :: ·) (valuesOf_eq_nil hothers)

/-- **And it is the filter else.** -/
theorem valuesOf_pairs_atPage_of_ne (f : ActionFilter) (number : Nat) {key : String}
    (h : key ≠ "page") : valuesOf key (f.atPage number).pairs = valuesOf key f.pairs := by
  have hpage : ∀ page : Option Nat,
      valuesOf key (page.map fun n => ("page", Decimal.natText n)).toList = [] := by
    intro page
    refine valuesOf_eq_nil fun p hp => ?_
    obtain ⟨n, -, rfl⟩ := Option.map_eq_some_iff.1 (Option.mem_toList.1 hp)
    exact h.symm
  rw [ActionFilter.pairs, ActionFilter.pairs, valuesOf_sortedByKey, valuesOf_sortedByKey,
    unsorted_eq, unsorted_eq f, valuesOf_append, valuesOf_append, hpage, hpage]
  rfl

/-- More parameters lead to no other host. -/
theorem Url.hostText?_withParameters (u : Url) (pairs : List (String × String)) :
    (u.withParameters pairs).hostText? = u.hostText? := by
  rw [withParameters]
  split
  · rfl
  · dsimp only
    split <;> rfl

/-! ## One answer -/

/-- A round trip that is in time is not cut short. -/
theorem Exchange.Brings.within_eq {e : Exchange} {timeout : Option Nat} {t : Tree}
    (h : e.Brings timeout t) : e.within timeout = e := by
  cases timeout with
  | none => rfl
  | some millis =>
    obtain ⟨headers, bodyDelay, body, hreply, -, -⟩ := h.reply
    have hle := h.inTime millis rfl
    obtain ⟨delay, reply⟩ := e
    obtain rfl : reply = _ := hreply
    rw [duration] at hle
    rw [within, limited, if_neg (by dsimp only at hle ⊢; omega)]
    dsimp only at hle ⊢
    rw [if_neg (by omega)]

namespace Session

variable {l : Lifetime} {r : Request} {s : Session} {timeout : Option Nat} {t : Tree}

theorem brings_of_exchange (hhost : r.url.hostText?.isNone = false)
    (h : (s.surroundings.network s.trips r).Brings timeout t) :
    ∃ response, s.brings timeout r 0 = .ok response ∧ response.status = ⟨200⟩ ∧
      response.hasJsonBody = true ∧ Tree.parse? response.body = some t := by
  obtain ⟨headers, bodyDelay, body, hreply, htype, hbody⟩ := h.reply
  refine ⟨.received ⟨200⟩ headers body, ?_, rfl, ?_, hbody⟩
  · rw [brings, if_neg (by simp [hhost]), Nat.add_zero, h.within_eq, hreply]
    rfl
  · exact (Response.hasJsonBody_iff _).2 ⟨Response.body_ne_nil_of_parse? hbody, htype⟩

/-- A lifetime that is over ends every pause at once. -/
theorem pause_endedBy (b : Backoff) (attempt : Nat) {e : Ending} (h : l.ending? s.now = some e) :
    EndedBy l (pause l b attempt s) := by
  have hp : pause l b attempt s = wait l (b.delay s.surroundings.draw attempt).millis s := rfl
  rw [hp, wait, Lifetime.wait, h]
  exact ⟨e, rfl, h⟩

end Session

namespace Client

open Session (EndedBy Sends)

variable {c : Client} {r : Request} {s : Session} {response : Response}

/-- An attempt that the lifetime has ended is the last one. -/
theorem tryOnce_endedBy {attempt : Nat} {next : Error → Task Session Response}
    (h : EndedBy r.lifetime (c.attempt r s))
    (hnext : ∀ e s', r.lifetime.ending? s'.now = some e →
      EndedBy r.lifetime (next (.ended e) s')) :
    EndedBy r.lifetime (tryOnce c.judge c.attempt r attempt next s) := by
  obtain ⟨e, he, hending⟩ := h
  have hattempt : c.attempt r s = (.failed (.ended e), (c.attempt r s).2) := Prod.ext he rfl
  have hjudge : c.judge (.ended e) attempt (c.attempt r s).2 =
      (.done (c.retry.rule (.ended e) attempt),
        (c.attempt r s).2.noted (.judged (.ended e) attempt)) := rfl
  rw [tryOnce_failed hattempt hjudge]
  split
  · exact hnext e _ hending
  · exact ⟨e, rfl, hending⟩

/-- An answer that is no error is the answer of the first attempt. -/
theorem attempts_of_brings (hbrings : s.brings c.timeout r 0 = .ok response)
    (hstatus : response.status = ⟨200⟩) :
    EndedBy r.lifetime (c.attempts r s) ∨
      ∃ time s', c.attempts r s = (.done (response.limited time), s') ∧
        Sends (r.sentTimes 1) s s' := by
  have hfirst : ∃ next : Error → Task Session Response,
      c.attempts r = tryOnce c.judge c.attempt r 0 next ∧
        ∀ e s', r.lifetime.ending? s'.now = some e →
          EndedBy r.lifetime (next (.ended e) s') := by
    rw [attempts, attemptsBy, retry]
    cases c.retry.limit with
    | zero => exact ⟨Task.fail, rfl, fun e s' he => ⟨e, rfl, he⟩⟩
    | succ left =>
      exact ⟨_, rfl, fun e s' he => (Session.pause_endedBy _ _ he).bind _⟩
  obtain ⟨next, hnext, hended⟩ := hfirst
  rw [hnext]
  rcases c.attempt_inv r s with h | ⟨time, s', hattempt, hsends⟩
  · exact .inl (tryOnce_endedBy h hended)
  · have hverdict : verdictAt time (s.brings c.timeout r 0) = .ok (response.limited time) := by
      have hok : (response.limited time).status = ⟨200⟩ := hstatus
      rw [hbrings, verdictAt, Response.verdict, hok, if_neg (by simp [Http.Status.isError_iff])]
    rw [hverdict] at hattempt
    exact .inr ⟨time, s', tryOnce_done hattempt, hsends⟩

/-- What is made of an answer with a page: its actions, and the number of the next page. -/
theorem executeJson_of_isActionPage {s' : Session} {t : Tree} {items : List Action} {next : Nat}
    (hattempts : c.attempts r s = (.done response, s')) (hjson : response.hasJsonBody = true)
    (hbody : Tree.parse? response.body = some t) (hpage : t.IsActionPage items next) :
    ∃ last, c.executeJson Action.listOfEnvelope? r s = (.done (items, last), s') ∧
      last.announced? = if next = 0 then none else some next := by
  obtain ⟨pagination, hpaginated⟩ := Response.paginated_of_isActionPage hbody hpage
  generalize hlast : ({ response with
    metadata := { response.metadata with pagination } } : Response) = last at hpaginated
  have hlastBody : Tree.parse? last.body = some t := hlast ▸ hbody
  have hlastJson : last.hasJsonBody = true := hlast ▸ hjson
  have hexecute : c.execute r s = (.done last, s') := by
    rw [execute, Task.bind_done hattempts, hpaginated]
    rfl
  refine ⟨last, ?_, Response.announced?_of_isActionPage hlastJson hlastBody hpage⟩
  rw [executeJson, Task.bind_done hexecute, Response.decoded_of_isActionPage hlastBody hpage]
  rfl

/-- A page is fetched with one request, if the lifetime goes on. -/
theorem actions_page {l : Lifetime} {f : ActionFilter} {base : Request} {t : Tree}
    {items : List Action} {next : Nat}
    (hbase : c.request l "GET" actionsPath none = .ok base)
    (hhost : base.url.hostText?.isSome = true)
    (hexchange : (s.surroundings.network s.trips (base.withParameters f.pairs)).Brings c.timeout t)
    (hpage : t.IsActionPage items next) :
    EndedBy l (c.actions l f s) ∨
      ∃ page s', c.actions l f s = (.done page, s') ∧ Sends [base.withParameters f.pairs] s s' ∧
        page.items = items ∧ page.next? = if next = 0 then none else some next := by
  have hrequest : c.actionsRequest l f = .ok (base.withParameters f.pairs) := by
    rw [actionsRequest, hbase]
    rfl
  have hlifetime : (base.withParameters f.pairs).lifetime = l := by
    rw [request] at hbase
    split at hbase
    · cases hbase
    · obtain rfl := Except.ok.inj hbase
      rfl
  have hhost' : (base.withParameters f.pairs).url.hostText?.isNone = false := by
    rw [Request.withParameters, Url.hostText?_withParameters]
    simpa using hhost
  generalize base.withParameters f.pairs = r at hexchange hrequest hlifetime hhost' ⊢
  obtain ⟨response, hbrings, hstatus, hjson, hbody⟩ := Session.brings_of_exchange hhost' hexchange
  have hactions : c.actions l f =
      c.executeJson Action.listOfEnvelope? r >>= fun value =>
        (Pure.pure ⟨value.1, value.2⟩ : Task Session (Page Action)) := by
    rw [actions, hrequest]
    rfl
  rw [hactions]
  rcases attempts_of_brings hbrings hstatus with h | ⟨time, s', hattempts, hsends⟩
  · rw [hlifetime] at h
    exact .inl (((h.bind _).bind _).bind _)
  · obtain ⟨last, hread, hannounced⟩ :=
      executeJson_of_isActionPage hattempts hjson (hbody : Tree.parse? _ = _) hpage
    refine .inr ⟨⟨items, last⟩, s', Task.bind_done hread, ?_, rfl, ?_⟩
    · rwa [Request.sentTimes, if_neg (by simp [hhost'])] at hsends
    · rw [Page.next?_of_told (executeJson_told _ _ _ _ hread)]
      exact hannounced

/-! ## All pages -/

variable {l : Lifetime} {f : ActionFilter} {base : Request} {start : Session}
  {actions : List Action} {size : Nat}

/-- The requests for so many pages from one on. -/
def pageRequests (f : ActionFilter) (base : Request) (number count : Nat) : List Request :=
  (List.range' number count).map fun k => base.withParameters (f.atPage k).pairs

/-- The server gives the page that it is asked for, if the lifetime goes on. -/
theorem actions_of_hasPages {number : Nat}
    (hbase : c.request l "GET" actionsPath none = .ok base)
    (hhost : base.url.hostText?.isSome = true) (hserver : c.HasPages start base f actions size)
    (hsame : s.surroundings = start.surroundings) (htrips : s.trips = start.trips + (number - 1))
    (hnumber : 1 ≤ number) (hle : number ≤ Paging.pageCount actions size) :
    EndedBy l (c.actions l (f.atPage number) s) ∨
      ∃ page s', c.actions l (f.atPage number) s = (.done page, s') ∧
        Sends (pageRequests f base number 1) s s' ∧
        page.items = Paging.chunk actions size number ∧
        page.next? =
          if number < Paging.pageCount actions size then some (number + 1) else none := by
  obtain ⟨t, hexchange, hpage⟩ := hserver number hnumber hle
  rw [← hsame, ← htrips] at hexchange
  rcases actions_page hbase hhost hexchange hpage with
    h | ⟨page, s', hfetch, hsends, hitems, hnext⟩
  · exact .inl h
  · refine .inr ⟨page, s', hfetch, hsends, hitems, hnext.trans ?_⟩
    by_cases hlt : number < Paging.pageCount actions size <;> simp [hlt]

/-- From any page on, all pages are fetched one after the other, if the lifetime goes on. -/
theorem collectFrom_pages (hsize : 1 ≤ size)
    (hbase : c.request l "GET" actionsPath none = .ok base)
    (hhost : base.url.hostText?.isSome = true) (hserver : c.HasPages start base f actions size)
    {rounds number left : Nat} (hsame : s.surroundings = start.surroundings)
    (htrips : s.trips = start.trips + (number - 1)) (hnumber : 1 ≤ number)
    (hleft : number + left = Paging.pageCount actions size) (hrounds : left < rounds) :
    EndedBy l (Paging.collectFrom (fun k => c.actions l (f.atPage k)) rounds number s) ∨
      ∃ s', Paging.collectFrom (fun k => c.actions l (f.atPage k)) rounds number s =
          (.done (actions.drop ((number - 1) * size)), s') ∧
        Sends (pageRequests f base number (left + 1)) s s' := by
  -- by the pages that are left after this one
  induction left generalizing s number rounds with
  | zero =>
    obtain ⟨rounds, rfl⟩ : ∃ n, rounds = n + 1 := ⟨rounds - 1, by omega⟩
    rw [Nat.add_zero] at hleft
    rcases actions_of_hasPages hbase hhost hserver hsame htrips hnumber hleft.le with
      h | ⟨page, s₁, hfetch, hsends, hitems, hnext⟩
    · exact .inl (h.bind _)
    rw [if_neg (by omega)] at hnext
    refine .inr ⟨s₁, ?_, hsends⟩
    rw [Paging.collectFrom, Task.bind_done hfetch]
    simp only [hnext, hitems, Task.pure_apply]
    rw [hleft, Paging.chunk_pageCount hsize]
  | succ left ih =>
    obtain ⟨rounds, rfl⟩ : ∃ n, rounds = n + 1 := ⟨rounds - 1, by omega⟩
    rcases actions_of_hasPages hbase hhost hserver hsame htrips hnumber (by omega) with
      h | ⟨page, s₁, hfetch, hsends, hitems, hnext⟩
    · exact .inl (h.bind _)
    rw [if_pos (by omega)] at hnext
    have hcollect : Paging.collectFrom (fun k => c.actions l (f.atPage k)) (rounds + 1) number s =
        (do let rest ← Paging.collectFrom (fun k => c.actions l (f.atPage k)) rounds (number + 1)
            return page.items ++ rest) s₁ := by
      rw [Paging.collectFrom, Task.bind_done hfetch]
      simp only [hnext]
    rw [hcollect]
    -- the next page is asked for one round trip later
    have htrips₁ : s₁.trips = start.trips + (number + 1 - 1) := by
      have hone : (pageRequests f base number 1).length = 1 := rfl
      rw [hsends.trips_eq, hone, htrips]
      omega
    have hleft₁ : number + 1 + left = Paging.pageCount actions size := by omega
    have hrounds₁ : left < rounds := by omega
    rcases ih (hsends.surroundings_eq.trans hsame) htrips₁ (Nat.le_add_left 1 number) hleft₁
      hrounds₁ with h | ⟨s₂, hrest, hsends'⟩
    · exact .inl (h.bind _)
    · rw [Task.bind_done hrest, Task.pure_apply, hitems, Nat.add_sub_cancel,
        Paging.chunk_append_drop hnumber]
      exact .inr ⟨s₂, rfl, hsends.trans hsends'⟩

/-- **Paging loses nothing.** If a server has a list of actions in pages, a client that asks for all
actions gets the list as it is, whatever its filter says and whatever page that names, and whatever
the size of the pages is, unless its lifetime ends. It sends one request for each page; the query of
each has the parameters of the filter for this page, after any that the endpoint brings along. That
is the number of the page, and else what the filter has. -/
theorem allActions_whole {rounds : Nat} (hsize : 1 ≤ size)
    (hbase : c.request l "GET" actionsPath none = .ok base)
    (hhost : base.url.hostText?.isSome = true)
    (hserver : c.HasPages s base f actions size)
    (hrounds : Paging.pageCount actions size ≤ rounds)
    (hlive : l.ending? (c.allActions rounds l f s).2.now = none) :
    (c.allActions rounds l f s).1 = .done actions ∧
    s.sentBetween (c.allActions rounds l f s).2 =
      (List.range' 1 (Paging.pageCount actions size)).map
        (fun k => base.withParameters (f.atPage k).pairs) ∧
    ∀ k, (base.withParameters (f.atPage k).pairs).url.parameters =
        base.url.parameters ++ (f.atPage k).pairs ∧
      valuesOf "page" (f.atPage k).pairs = [Decimal.natText k] ∧
      ∀ key, key ≠ "page" → valuesOf key (f.atPage k).pairs = valuesOf key f.pairs := by
  have hcount : 1 ≤ Paging.pageCount actions size := le_max_left _ _
  have hall : c.allActions rounds l f s =
      Paging.collectFrom (fun k => c.actions l (f.atPage k)) rounds 1 s := rfl
  rw [hall] at hlive ⊢
  rcases collectFrom_pages hsize hbase hhost hserver rfl rfl le_rfl (Nat.add_sub_cancel' hcount)
    (Nat.sub_one_lt_of_le hcount hrounds) with ⟨e, -, hending⟩ | ⟨s', hcollect, hsends⟩
  · exact absurd (hending.symm.trans hlive) nofun
  rw [Nat.sub_self, Nat.zero_mul, List.drop_zero] at hcollect
  rw [Nat.sub_add_cancel hcount] at hsends
  rw [hcollect]
  exact ⟨rfl, hsends.sentBetween_eq, fun k => ⟨Url.parameters_withParameters _ _,
    valuesOf_pairs_atPage f k, fun key hkey => valuesOf_pairs_atPage_of_ne f k hkey⟩⟩

end Client

namespace Loopback

/-- The number that a request has under a key, or another one if it has none. -/
def numberUnder (key : String) (r : Request) (other : Nat) : Nat :=
  ((valuesOf key r.url.parameters).getLast?.bind fun text => Decimal.nat? text.toList).getD other

/-- Those of some actions whose id and whose status a request names. -/
def selected (all : List Action) (r : Request) : List Action :=
  all.filter fun a => (valuesOf "id" r.url.parameters).contains (Decimal.intText a.id) &&
    (valuesOf "status" r.url.parameters).contains a.status.text

/-- What a server makes of a request for some of its actions: it selects them as it is asked for,
and gives as many on a page as it is asked for. -/
def shown (all : List Action) (r : Request) : List Action × Option Nat :=
  let number := numberUnder "page" r 1
  let size := numberUnder "per_page" r 25
  (Paging.chunk (selected all r) size number,
    if number < Paging.pageCount (selected all r) size then some (number + 1) else none)

/-- The number of the next page, as it is written. -/
def nextValue (next : Option Nat) : Value := (next.map fun n => .number (.whole n)).getD .null

/-- The network that leads to this server. -/
def store (all : List Action) : Network := fun _ r =>
  pageOf Client.jsonType (shown all r).1 (nextValue (shown all r).2)

/-- Actions of which the second one has succeeded. -/
def stored : List Action :=
  [snapshot 1 .running, snapshot 2 .success, snapshot 3 .running, snapshot 4 .running,
    snapshot 5 .running]

/-- A session with a server of these actions. -/
def storeSession : Session := .start ⟨store stored, 0, fun low _ => low⟩ (.empty none)

/-- The running ones among four actions, two on a page. -/
def byTwo : ActionFilter := ⟨⟨some 7, some 2, none⟩, [5, 3, 1, 2], [.running], []⟩

/-- The request for actions of this client. -/
def actionsBase : Request :=
  { Request.bare .unbounded "GET" ⟨"http", "", none,
      some (.ipv6 ⟨[0, 0, 0, 0, 0, 0, 0, 1]⟩), none, .segments ["actions"], none, none⟩ with
    headers := client.headers false }

theorem brings_pageOf {actions : List Action} {next : Value} {t : Tree}
    (h : Tree.parse? (pageBody actions next).bytes = some t) :
    (pageOf Client.jsonType actions next).Brings none t where
  reply := ⟨_, 0, _, rfl, ⟨"application/json", by decide +kernel, by decide +kernel⟩, h⟩
  inTime := nofun

theorem brings_store {all items : List Action} {r : Request} {next : Option Nat} {t : Tree}
    (hshown : shown all r = (items, next))
    (h : Tree.parse? (pageBody items (nextValue next)).bytes = some t) (trips : Nat) :
    (store all trips r).Brings none t := by
  rw [store, hshown]
  exact brings_pageOf h

set_option maxRecDepth 4000 in
theorem hasPages_store :
    client.HasPages storeSession actionsBase byTwo
      [snapshot 1 .running, snapshot 3 .running, snapshot 5 .running] 2 := by
  intro number hnumber hle
  have hcount : Paging.pageCount [snapshot 1 .running, snapshot 3 .running, snapshot 5 .running] 2 =
      2 := by decide
  rw [hcount] at hle ⊢
  obtain rfl | rfl : number = 1 ∨ number = 2 := by omega
  · have hshown : shown stored (actionsBase.withParameters (byTwo.atPage 1).pairs) =
        ([snapshot 1 .running, snapshot 3 .running], some 2) := by decide +kernel
    refine ⟨(pageBody [snapshot 1 .running, snapshot 3 .running] (nextValue (some 2))).tree,
      brings_store hshown (by rfl) 0, ?_⟩
    exact ⟨⟨_, rfl, by decide +kernel⟩, ⟨_, rfl, by decide +kernel⟩,
      .placed rfl (by decide +kernel) rfl ⟨by decide +kernel, by decide +kernel⟩
        (by decide +kernel)⟩
  · have hshown : shown stored (actionsBase.withParameters (byTwo.atPage 2).pairs) =
        ([snapshot 5 .running], none) := by decide +kernel
    refine ⟨(pageBody [snapshot 5 .running] (nextValue none)).tree,
      brings_store hshown (by rfl) 0, ?_⟩
    exact ⟨⟨_, rfl, by decide +kernel⟩, ⟨_, rfl, by decide +kernel⟩,
      .placed rfl (by decide +kernel) rfl ⟨by decide +kernel, by decide +kernel⟩
        (by decide +kernel)⟩

/-- Of five actions on the server the three that are asked for are there after two requests,
although the filter names another page. -/
theorem allActions_whole_store :
    (client.allActions 2 .unbounded byTwo storeSession).1 =
      .done [snapshot 1 .running, snapshot 3 .running, snapshot 5 .running] ∧
    (storeSession.sentBetween (client.allActions 2 .unbounded byTwo storeSession).2).map
        (·.url.parameters) =
      [[("id", "5"), ("id", "3"), ("id", "1"), ("id", "2"), ("page", "1"), ("per_page", "2"),
          ("status", "running")],
        [("id", "5"), ("id", "3"), ("id", "1"), ("id", "2"), ("page", "2"), ("per_page", "2"),
          ("status", "running")]] := by
  have hbase : client.request .unbounded "GET" Client.actionsPath none = .ok actionsBase := by rfl
  have hcount : Paging.pageCount [snapshot 1 .running, snapshot 3 .running, snapshot 5 .running] 2 ≤
      2 := by decide
  obtain ⟨hdone, hsent, -⟩ :=
    Client.allActions_whole (by decide : 1 ≤ 2) hbase rfl hasPages_store hcount rfl
  refine ⟨hdone, ?_⟩
  rw [hsent]
  decide +kernel

end Loopback

end CloudClient
