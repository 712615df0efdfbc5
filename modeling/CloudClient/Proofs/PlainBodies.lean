import CloudClient.Proofs.HandingOn
import CloudClient.Proofs.JsonTrees
import CloudClient.Proofs.ListBodies

/-!
# Bodies that are taken

The body of an answer is looked at for metadata around a list, also where the answer is no list. A
record that has nothing but optional fields would seem to fit any body; but it is an object or a
short array, so that a body which is none is refused, as valid JSON as it may be.

* `Tree.Frames` — what a body tells about its place in a list.
* `Pagination.ofEnvelope?_eq_some_iff` — this is read, and all other bodies are refused.
* `Tree.IsUnmarked` and `Tree.frames_none_iff` — the bodies without metadata that are taken.
* `Client.execute_frames` — how a request ends with a body.
-/

namespace CloudClient

open Json

/-! ## What a body tells -/

namespace Json.Tree

/-- There is nothing in a field, or null. -/
def IsVacant (field : Option Tree) : Prop := field = none ∨ field = some .null

/-- The body tells this place in a list, or that it is in none. -/
inductive Frames (t : Tree) : Option Pagination → Prop
  /-- there are no metadata -/
  | unmarked (h : t.HasFields ["meta"]) (hmeta : IsVacant (t.field? ["meta"] "meta")) :
      Frames t none
  /-- the metadata tell no place -/
  | unplaced {u : Tree} (h : t.HasFields ["meta"]) (hmeta : t.field? ["meta"] "meta" = some u)
      (hu : u.HasFields ["pagination"])
      (hpagination : IsVacant (u.field? ["pagination"] "pagination")) : Frames t none
  /-- the metadata tell a place -/
  | placed {u v : Tree} (h : t.HasFields ["meta"]) (hmeta : t.field? ["meta"] "meta" = some u)
      (hu : u.HasFields ["pagination"])
      (hpagination : u.field? ["pagination"] "pagination" = some v) (hv : Pagination.IsPlace v) :
      Frames t (some (.told v))

end Json.Tree

namespace Pagination

variable {α : Type} {name : String} {read : Tree → Option α} {t : Tree} {field : Option Tree}
  {o : Option α} {a : α} {p : Option Pagination}

theorem optional_none_iff : Tree.optional read field = some none ↔ Tree.IsVacant field := by
  constructor
  · intro h
    rcases Tree.optional_eq h with ⟨-, h⟩ | ⟨_, _, _, _, _, h⟩
    · exact h
    · cases h
  · rintro (rfl | rfl) <;> rfl

theorem optional_some_iff :
    Tree.optional read field = some (some a) ↔
      ∃ u, field = some u ∧ u ≠ .null ∧ read u = some a := by
  constructor
  · intro h
    rcases Tree.optional_eq h with ⟨h, -⟩ | ⟨u, b, hu, hnull, hread, hb⟩
    · cases h
    · obtain rfl := Option.some.inj hb
      exact ⟨u, hu, hnull, hread⟩
  · rintro ⟨u, rfl, hnull, hread⟩
    rw [Tree.optional_of_ne_null hnull, hread]
    rfl

theorem field?_eq_some_iff :
    field? name read t = some o ↔
      t.HasFields [name] ∧ Tree.optional read (t.field? [name] name) = some o := by
  have hname : [name].Nodup := List.nodup_singleton name
  rw [field?, Option.bind_eq_bind, Option.bind_eq_some_iff]
  constructor
  · rintro ⟨fields, hfields, h⟩
    obtain ⟨hhas, rfl⟩ := (Tree.fields?_eq_some_iff hname).1 hfields
    exact ⟨hhas, h⟩
  · rintro ⟨hhas, h⟩
    exact ⟨_, (Tree.fields?_eq_some_iff hname).2 ⟨hhas, rfl⟩, h⟩

theorem ofTree?_eq_some_iff {q : Pagination} : ofTree? t = some q ↔ IsPlace t ∧ q = told t := by
  rw [← ofTree?_isSome_iff, Option.isSome_iff_exists]
  constructor
  · exact fun h => ⟨⟨q, h⟩, ofTree?_eq h⟩
  · rintro ⟨⟨q', h⟩, rfl⟩
    rw [h, ofTree?_eq h]

/-- **What a body tells about its place in a list is read**, and all other bodies are refused. -/
theorem ofEnvelope?_eq_some_iff : ofEnvelope? t = some p ↔ t.Frames p := by
  rw [ofEnvelope?, Option.bind_eq_bind, Option.bind_eq_some_iff]
  constructor
  · rintro ⟨outer, houter, hp⟩
    obtain rfl := Option.some.inj hp
    obtain ⟨hhas, houter⟩ := field?_eq_some_iff.1 houter
    rcases outer with _ | inner
    · exact .unmarked hhas (optional_none_iff.1 houter)
    obtain ⟨u, hmeta, -, hinner⟩ := optional_some_iff.1 houter
    obtain ⟨hu, hinner⟩ := field?_eq_some_iff.1 hinner
    rcases inner with _ | q
    · exact .unplaced hhas hmeta hu (optional_none_iff.1 hinner)
    obtain ⟨v, hpagination, -, hread⟩ := optional_some_iff.1 hinner
    obtain ⟨hplace, rfl⟩ := ofTree?_eq_some_iff.1 hread
    exact .placed hhas hmeta hu hpagination hplace
  · rintro (⟨hhas, hmeta⟩ | ⟨hhas, hmeta, hu, hpagination⟩ | ⟨hhas, hmeta, hu, hpagination, hv⟩)
    · exact ⟨none, field?_eq_some_iff.2 ⟨hhas, optional_none_iff.2 hmeta⟩, rfl⟩
    · have hinner : field? "pagination" ofTree? _ = some none :=
        field?_eq_some_iff.2 ⟨hu, optional_none_iff.2 hpagination⟩
      exact ⟨some none, field?_eq_some_iff.2
        ⟨hhas, optional_some_iff.2 ⟨_, hmeta, hu.ne_null, hinner⟩⟩, rfl⟩
    · have hplace := ofTree?_eq_some_iff.2 ⟨hv, rfl⟩
      have hinner := field?_eq_some_iff.2
        ⟨hu, optional_some_iff.2 ⟨_, hpagination, hv.hasFields.ne_null, hplace⟩⟩
      exact ⟨some (some _), field?_eq_some_iff.2
        ⟨hhas, optional_some_iff.2 ⟨_, hmeta, hu.ne_null, hinner⟩⟩, rfl⟩

end Pagination

/-! ## Bodies without metadata -/

namespace Json.Tree

/-- The tree is an object that has a member with this name. -/
def HasMember (name : String) (t : Tree) : Prop :=
  ∃ members, t = .object members ∧ ∃ m ∈ members, Quoted.decode? m.1 = some name

/-- The bodies without metadata that are taken: objects of which all names denote texts, and arrays
that hold nothing, or only null or something that could be metadata without a place. -/
inductive IsUnmarked : Tree → Prop
  | object {members : List (Bytes × Tree)}
      (h : ∀ m ∈ members, (Quoted.decode? m.1).isSome = true) : IsUnmarked (.object members)
  | empty : IsUnmarked (.array [])
  | null : IsUnmarked (.array [.null])
  | unplaced {u : Tree} (hu : u.HasFields ["pagination"])
      (h : IsVacant (u.field? ["pagination"] "pagination")) : IsUnmarked (.array [u])

variable {t : Tree}

theorem not_isNamed_of_not_hasMember {name : String} {members : List (Bytes × Tree)}
    (h : ¬ (object members).HasMember name) : ∀ m ∈ members, ¬ isNamed name m = true :=
  fun m hm hname => h ⟨members, rfl, m, hm, eq_of_beq hname⟩

/-- **Of the bodies without metadata just these are taken.** -/
theorem frames_none_iff (h : ¬ t.HasMember "meta") : t.Frames none ↔ t.IsUnmarked := by
  constructor
  · intro hframes
    have hhas : t.HasFields ["meta"] := by cases hframes <;> assumption
    cases t with
    | object members => cases hhas with | object hdecoded => exact .object hdecoded
    | array items =>
      obtain rfl | ⟨u, rfl⟩ := hhas.array_cases
      · exact .empty
      cases hframes with
      | unmarked _ hmeta =>
        rw [field?_singleton] at hmeta
        obtain hnone | hnull := hmeta
        · cases hnone
        · obtain rfl := Option.some.inj hnull
          exact .null
      | unplaced _ hmeta hu hpagination =>
        rw [field?_singleton] at hmeta
        obtain rfl := Option.some.inj hmeta
        exact .unplaced hu hpagination
    | null | bool | number | string => cases hhas
  · rintro (hdecoded | _ | _ | ⟨hu, hpagination⟩)
    · have hnone := not_isNamed_of_not_hasMember h
      refine .unmarked (.object hdecoded fun n hn => ?_) (.inl ?_)
      · obtain rfl := List.mem_singleton.1 hn
        exact Nat.le_succ_of_le (List.countP_eq_zero.2 hnone).le
      · rw [field?, List.find?_eq_none.2 hnone]
        rfl
    · exact .unmarked (.array (Nat.zero_le 1)) (.inl rfl)
    · exact .unmarked (.array le_rfl) (.inr (field?_singleton _ _))
    · exact .unplaced (.array le_rfl) (field?_singleton _ _) hu hpagination

end Json.Tree

/-! ## Answers -/

namespace Response

variable {r : Response} {p : Option Pagination}

/-- The place in a list is read from a tree that the body spells. -/
theorem decode?_ofEnvelope?_iff :
    r.decode? Pagination.ofEnvelope? = some p ↔
      ∃ t : Tree, Token.Spells t.tokens r.body ∧ t.Frames p := by
  rw [decode?, Option.bind_eq_bind, Option.bind_eq_some_iff]
  simp only [Tree.parse?_eq_some_iff, Pagination.ofEnvelope?_eq_some_iff]

/-- An answer with a JSON body is the same answer with the place that is read, or it is refused. -/
theorem paginated_of_hasJsonBody (h : r.hasJsonBody = true) :
    (∃ p, r.decode? Pagination.ofEnvelope? = some p ∧
        r.paginated = .ok { r with metadata := { r.metadata with pagination := p } }) ∨
      r.decode? Pagination.ofEnvelope? = none ∧ r.paginated = .error r.undecodable := by
  rw [paginated, if_pos h, decoded]
  cases r.decode? Pagination.ofEnvelope? with
  | some p => exact .inl ⟨p, rfl, rfl⟩
  | none => exact .inr ⟨rfl, rfl⟩

end Response

/-- The outcome is this answer as it has come, with this place in a list. -/
def Outcome.Brings (o : Outcome Response) (p : Option Pagination) (time : Nat) (raw : Response) :
    Prop :=
  ∃ response, o = .done response ∧ response.metadata.pagination = p ∧ response.Carries time raw

namespace Client

variable {c : Client} {r : Request} {s s' : Session} {o : Outcome Response} {t : Trip}
  {raw : Response}

/-- The last answer ends the request if it has no error status, and is read for its place. -/
theorem execute_of_received (ht : (s.startedBetween (c.execute r s).2).getLast? = some t)
    (hreceived : t.received? s.surroundings.network c.timeout = some raw)
    (hstatus : raw.status.isError = false) :
    c.execute r s = Task.ofExcept (raw.limited (t.timeOfEnd c.timeout s.surroundings)).paginated
      (c.attempts r s).2 := by
  have hattempts := c.attempts_concluded r s
  rw [execute_snd] at ht
  generalize hends : c.attempts r s = ends at hattempts ht
  rcases t.verdict_inv c.timeout s.surroundings raw with ⟨-, hok⟩ | ⟨herror, -⟩
  swap
  · rw [hstatus] at herror
    cases herror
  cases hattempts with
  | done h hverdict =>
    obtain ⟨rfl, rfl⟩ := h.eq_of_getLast? ht hreceived
    obtain rfl := Except.ok.inj (hok.symm.trans hverdict)
    rw [execute, Task.bind_done hends]
  | failed h =>
    cases h with
    | answered h hverdict =>
      obtain ⟨rfl, rfl⟩ := h.eq_of_getLast? ht hreceived
      cases hok.symm.trans hverdict
    | unanswered h =>
      rw [h.not_received ht] at hreceived
      cases hreceived
  | interrupted h hverdict =>
    obtain ⟨rfl, rfl⟩ := h.eq_of_getLast? ht hreceived
    cases hok.symm.trans hverdict

/-- An answer that is declared to be JSON is brought with the place that is read from its body, or
the request fails. -/
theorem execute_of_hasJsonBody (h : c.execute r s = (o, s'))
    (ht : (s.startedBetween s').getLast? = some t)
    (hreceived : t.received? s.surroundings.network c.timeout = some raw)
    (hstatus : raw.status.isError = false) (hjson : raw.hasJsonBody = true) :
    (∀ p, o.Brings p (t.timeOfEnd c.timeout s.surroundings) raw ↔
        raw.decode? Pagination.ofEnvelope? = some p) ∧
      ∀ e, o = .failed e ↔
        e = raw.undecodable ∧ raw.decode? Pagination.ofEnvelope? = none := by
  have hexecute := execute_of_received (by rw [h]; exact ht) hreceived hstatus
  rw [h] at hexecute
  rcases (raw.limited (t.timeOfEnd c.timeout s.surroundings)).paginated_of_hasJsonBody hjson with
    ⟨q, hdecode, hpaginated⟩ | ⟨hdecode, hpaginated⟩
  · rw [hpaginated] at hexecute
    obtain rfl := congrArg Prod.fst hexecute
    have hdecode : raw.decode? Pagination.ofEnvelope? = some q := hdecode
    rw [hdecode]
    refine ⟨fun p => ⟨?_, ?_⟩, fun e => ⟨nofun, nofun⟩⟩
    · rintro ⟨_, ⟨⟩, rfl, -⟩
      rfl
    · rintro ⟨⟩
      exact ⟨_, rfl, rfl, rfl, rfl, rfl, rfl⟩
  · rw [hpaginated] at hexecute
    obtain rfl := congrArg Prod.fst hexecute
    have hdecode : raw.decode? Pagination.ofEnvelope? = none := hdecode
    rw [hdecode]
    refine ⟨fun p => ⟨nofun, nofun⟩, fun e => ⟨?_, ?_⟩⟩
    · rintro ⟨⟩
      exact ⟨rfl, rfl⟩
    · rintro ⟨rfl, -⟩
      rfl

/-- **What a request makes of a body.** If the last round trip has brought an answer without an
error status that is declared to be JSON, and its body is a JSON text without a member `meta`, then
the answer is brought as it has come, and with no place in a list, just if the text is an object
whose names denote texts, or an array of at most one element that passes for metadata without a
place. In general it is brought with the place that its body tells. All other bodies that are not
empty are refused: those that are no JSON text, and the texts that tell neither. -/
theorem execute_frames (h : c.execute r s = (o, s'))
    (ht : (s.startedBetween s').getLast? = some t)
    (hreceived : t.received? s.surroundings.network c.timeout = some raw)
    (hstatus : ¬ (400 ≤ raw.status.code ∧ raw.status.code ≤ 599))
    (hdeclared : ∃ text, raw.header? "content-type" = some text ∧
      text.startsWith "application/json" = true) :
    (∀ tree : Tree, Token.Spells tree.tokens raw.body → ¬ tree.HasMember "meta" →
      (o.Brings none (t.timeOfEnd c.timeout s.surroundings) raw ↔ tree.IsUnmarked)) ∧
    (∀ tree : Tree, Token.Spells tree.tokens raw.body → ∀ p,
      (o.Brings p (t.timeOfEnd c.timeout s.surroundings) raw ↔ tree.Frames p)) ∧
    (raw.body ≠ [] → ∀ e, o = .failed e ↔
      e = raw.undecodable ∧
        ¬ ∃ (tree : Tree) (p : Option Pagination), Token.Spells tree.tokens raw.body ∧
          tree.Frames p) := by
  rw [← Http.Status.isError_iff, Bool.not_eq_true] at hstatus
  have hends (hbody : raw.body ≠ []) := execute_of_hasJsonBody h ht hreceived hstatus
    (raw.hasJsonBody_iff.2 ⟨hbody, hdeclared⟩)
  have hframes (tree : Tree) (hspells : Token.Spells tree.tokens raw.body)
      (p : Option Pagination) :
      o.Brings p (t.timeOfEnd c.timeout s.surroundings) raw ↔ tree.Frames p := by
    have hparse := Tree.parse?_eq_some_iff.2 hspells
    rw [(hends (Response.body_ne_nil_of_parse? hparse)).1 p, Response.decode?, hparse]
    exact Pagination.ofEnvelope?_eq_some_iff
  refine ⟨fun tree hspells hmeta => ?_, hframes, fun hbody e => ?_⟩
  · rw [hframes tree hspells, Tree.frames_none_iff hmeta]
  · rw [(hends hbody).2 e, Option.eq_none_iff_forall_ne_some]
    refine and_congr_right fun _ => ?_
    rw [exists_comm, not_exists]
    exact forall_congr' fun p => not_congr Response.decode?_ofEnvelope?_iff

end Client

namespace Loopback

/-- The answer of a server that has no servers to list. -/
def noServers : Response :=
  .received ⟨200⟩ (.ofList [("content-type", Client.jsonType)])
    (Json.Value.object [("servers", .array [])]).bytes

/-- A session in which this is the answer. -/
def noServersSession : Session := session [answer (.object [("servers", .array [])])]

/-- It comes without a place in a list. -/
theorem execute_frames_noServers :
    (client.execute frontPage noServersSession).1.Brings none 0 noServers := by
  have hlast : ((noServersSession.startedBetween
      (client.execute frontPage noServersSession).2).getLast?.map fun t =>
        (t.received? noServersSession.surroundings.network client.timeout,
          t.timeOfEnd client.timeout noServersSession.surroundings)) =
        some (some noServers, 0) := by
    decide +kernel
  obtain ⟨t, ht, hreceived⟩ := Option.map_eq_some_iff.1 hlast
  obtain ⟨hreceived, htime⟩ := Prod.mk.inj hreceived
  have hspells : Token.Spells (Tree.object [(textBytes "servers", .array [])]).tokens
      noServers.body := Tree.parse?_eq_some_iff.1 rfl
  have hplain : ¬ (Tree.object [(textBytes "servers", .array [])]).HasMember "meta" := by
    rintro ⟨_, ⟨⟩, m, hm, hname⟩
    obtain rfl := List.mem_singleton.1 hm
    revert hname
    decide +kernel
  have hnames : (Tree.object [(textBytes "servers", .array [])]).IsUnmarked :=
    .object fun m hm => by
      obtain rfl := List.mem_singleton.1 hm
      decide +kernel
  obtain ⟨hbrings, -⟩ := Client.execute_frames Prod.mk.eta.symm ht hreceived (by decide)
    ⟨"application/json", by decide +kernel, by decide +kernel⟩
  rw [← htime]
  exact (hbrings _ hspells hplain).2 hnames

/-- The answer with a list of numbers. -/
def numbers : Response :=
  .received ⟨200⟩ (.ofList [("content-type", Client.jsonType)]) (textBytes "[1,2]")

/-- A session in which this is the answer. -/
def numbersSession : Session :=
  session [answer (.array [.number (.whole 1), .number (.whole 2)])]

/-- The list is a JSON text without metadata, and yet the request fails. -/
theorem execute_refuses_numbers :
    (∃ tree : Tree, Token.Spells tree.tokens numbers.body ∧ ¬ tree.HasMember "meta") ∧
      numbers.status.isError = false ∧ numbers.hasJsonBody = true ∧
      ∃ t, (numbersSession.startedBetween
          (client.execute frontPage numbersSession).2).getLast? = some t ∧
        t.received? numbersSession.surroundings.network client.timeout = some numbers ∧
        (client.execute frontPage numbersSession).1 = .failed numbers.undecodable := by
  have hlast : ((numbersSession.startedBetween
      (client.execute frontPage numbersSession).2).getLast?.map fun t =>
        t.received? numbersSession.surroundings.network client.timeout) =
          some (some numbers) := by
    decide +kernel
  obtain ⟨t, ht, hreceived⟩ := Option.map_eq_some_iff.1 hlast
  have hjson : numbers.hasJsonBody = true := by decide +kernel
  obtain ⟨-, hfailed⟩ := Client.execute_of_hasJsonBody Prod.mk.eta.symm ht hreceived rfl hjson
  refine ⟨⟨.array [.number ['1'], .number ['2']], Tree.parse?_eq_some_iff.1 rfl, ?_⟩, rfl, hjson, t,
    ht, hreceived, (hfailed _).2 ⟨rfl, rfl⟩⟩
  rintro ⟨_, ⟨⟩, _⟩

end Loopback

end CloudClient
