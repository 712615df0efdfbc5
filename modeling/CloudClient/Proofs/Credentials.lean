import CloudClient.Client.Basic
import CloudClient.Proofs.Ledger
import CloudClient.Transcript

/-!
# Requests with other credentials

Two requests are told apart by their credentials alone if all else is the same: the other header
fields, the order of all of them, and whether there are credentials. What is written down of such
requests is the same.

* `Http.Headers.SameButCredentials` — header fields in which the values under `authorization` may
  differ. Setting a field keeps this, and the field may be `authorization` itself.
* `Transcript.requestEntry_congr` — an entry does not depend on the credentials.
* `Client.SameButCredentials.request` — clients with different credentials make such requests.
* `Client.sameButCredentials_of_build` — clients that were made with different tokens are so.
* `Request.Prepared.sameButCredentials` — and requests that callers prepare in the same way, but for
  the credentials that they set, stay so.
-/

namespace CloudClient

open Transcript (credentials)

/-! ## Header fields -/

namespace Http.Headers

/-- The fields differ in the values of the credentials alone, if they differ at all. -/
inductive SameFields :
    List (HeaderName × List HeaderValue) → List (HeaderName × List HeaderValue) → Prop
  | same (fields : List (HeaderName × List HeaderValue)) : SameFields fields fields
  | secret (vs vs' : List HeaderValue) (rest : List (HeaderName × List HeaderValue)) :
      SameFields ((credentials, vs) :: rest) ((credentials, vs') :: rest)
  | other {x : HeaderName × List HeaderValue} {rest rest' : List (HeaderName × List HeaderValue)}
      (hx : x.1 ≠ credentials) (hrest : SameFields rest rest') :
      SameFields (x :: rest) (x :: rest')

/-- The header fields differ in the values of the credentials alone, if they differ at all. -/
def SameButCredentials (h h' : Headers) : Prop := SameFields h.fields h'.fields

namespace SameFields

variable {fields fields' fields'' : List (HeaderName × List HeaderValue)} {v v' : HeaderValue}

theorem symm (h : SameFields fields fields') : SameFields fields' fields := by
  induction h with
  | same => exact .same _
  | secret vs vs' rest => exact .secret vs' vs rest
  | other hx _ ih => exact .other hx ih

theorem trans (h : SameFields fields fields') (h' : SameFields fields' fields'') :
    SameFields fields fields'' := by
  induction h generalizing fields'' with
  | same => exact h'
  | secret vs vs' rest =>
    cases h' with
    | same => exact .secret vs vs' rest
    | secret => exact .secret vs _ rest
    | other hx => exact absurd rfl hx
  | other hx hrest ih =>
    cases h' with
    | same => exact .other hx hrest
    | secret => exact absurd rfl hx
    | other _ hrest' => exact .other hx (ih hrest')

/-- The same field is set to the same value. -/
theorem alter (h : SameFields fields fields') (name : HeaderName) (v : HeaderValue) :
    SameFields (alter name (fun _ => [v]) fields) (Headers.alter name (fun _ => [v]) fields') := by
  induction h with
  | same => exact .same _
  | secret vs vs' rest =>
    rw [Headers.alter, Headers.alter]
    split
    · exact .same _
    · exact .secret vs vs' _
  | other hx hrest ih =>
    rw [Headers.alter, Headers.alter]
    split
    · exact .other hx hrest
    · exact .other hx ih

/-- The credentials are set, to this value or to that. -/
theorem alter_credentials (fields : List (HeaderName × List HeaderValue)) (v v' : HeaderValue) :
    SameFields (Headers.alter credentials (fun _ => [v]) fields)
      (Headers.alter credentials (fun _ => [v']) fields) := by
  induction fields with
  | nil => exact .secret [v] [v'] []
  | cons x rest ih =>
    rw [Headers.alter, Headers.alter]
    split
    · rename_i hx
      exact hx ▸ .secret [v] [v'] rest
    · rename_i hx
      exact .other hx ih

/-- Credentials that are there are set. -/
theorem alter_left (h : fields.any (·.1 == credentials) = true) (v : HeaderValue) :
    SameFields (Headers.alter credentials (fun _ => [v]) fields) fields := by
  induction fields with
  | nil => cases h
  | cons x rest ih =>
    obtain ⟨name, vs⟩ := x
    rw [Headers.alter]
    by_cases hx : name = credentials
    · subst hx
      rw [if_pos rfl]
      exact .secret [v] vs rest
    · rw [if_neg hx]
      exact .other hx (ih (by simpa [hx] using h))

/-- Once the credentials are set to the same value, there is no difference. -/
theorem alter_eq (h : SameFields fields fields') (v : HeaderValue) :
    Headers.alter credentials (fun _ => [v]) fields =
      Headers.alter credentials (fun _ => [v]) fields' := by
  induction h with
  | same => rfl
  | secret vs vs' rest => simp [Headers.alter]
  | other hx _ ih => rw [Headers.alter, Headers.alter, if_neg hx, if_neg hx, ih]

/-- Without credentials there is no difference. -/
theorem eq_or_any (h : SameFields fields fields') :
    fields = fields' ∨
      fields.any (·.1 == credentials) = true ∧ fields'.any (·.1 == credentials) = true := by
  induction h with
  | same => exact .inl rfl
  | secret vs vs' rest => exact .inr ⟨by simp, by simp⟩
  | other _ _ ih =>
    refine ih.imp (fun heq => by rw [heq]) fun ⟨hany, hany'⟩ => ⟨?_, ?_⟩
    · simp [List.any_cons, hany]
    · simp [List.any_cons, hany']

end SameFields

end Http.Headers

/-- What is written down in place of the header fields is the same. -/
theorem Transcript.redacted_congr {h h' : Http.Headers} (hs : h.SameButCredentials h') :
    redacted h = redacted h' := by
  obtain ⟨fields⟩ := h
  obtain ⟨fields'⟩ := h'
  rcases Http.Headers.SameFields.eq_or_any hs with heq | ⟨hany, hany'⟩
  · obtain rfl : fields = fields' := heq
    rfl
  · rw [redacted, redacted, Http.Headers.contains, Http.Headers.contains, if_pos hany, if_pos hany',
      Http.Headers.insert, Http.Headers.insert, Http.Headers.SameFields.alter_eq hs]

/-! ## Requests -/

namespace Request

/-- The requests differ in their credentials alone, if they differ at all. -/
structure SameButCredentials (r r' : Request) : Prop where
  headers : r.headers.SameButCredentials r'.headers
  others : r' = { r with headers := r'.headers }

/-- Requests that were made, if they were made at all, or else were not made for the same reason. -/
inductive MadeAlike : Except Error Request → Except Error Request → Prop
  | ok {r r' : Request} (h : r.SameButCredentials r') : MadeAlike (.ok r) (.ok r')
  | error (e : Error) : MadeAlike (.error e) (.error e)

variable {r r' : Request} {name name' value value' : String}

theorem SameButCredentials.refl (r : Request) : r.SameButCredentials r := ⟨.same _, rfl⟩

theorem SameButCredentials.symm (h : r.SameButCredentials r') : r'.SameButCredentials r := by
  obtain ⟨hheaders, hothers⟩ := h
  refine ⟨hheaders.symm, ?_⟩
  rw [hothers]

/-- Something else than the header fields is changed in both requests. -/
theorem SameButCredentials.map (h : r.SameButCredentials r') (f : Request → Request)
    (hf : ∀ (r : Request) headers, f { r with headers } = { f r with headers }) :
    (f r).SameButCredentials (f r') := by
  obtain ⟨hheaders, hothers⟩ := h
  have hown : (f r).headers = r.headers := by rw [hf r r.headers]
  rw [hothers, hf r r'.headers]
  exact ⟨hown ▸ hheaders, rfl⟩

/-- A header field is set. -/
theorem SameButCredentials.withHeader (h : r.SameButCredentials r') (name value : String) :
    MadeAlike (r.withHeader name value) (r'.withHeader name value) := by
  obtain ⟨hheaders, hothers⟩ := h
  rw [Request.withHeader, Request.withHeader]
  split
  · exact .error _
  · rename_i n hn
    split
    · exact .error _
    · rename_i v hv
      refine .ok ⟨hheaders.alter n v, ?_⟩
      rw [hothers]

/-- A request with a field that was set has the fields it had, but for this one. -/
theorem eq_insert_of_withHeader {r₁ : Request} {n : Http.HeaderName}
    (hname : Http.HeaderName.ofText? name = some n) (hr : r.withHeader name value = .ok r₁) :
    ∃ v, r₁ = { r with headers := r.headers.insert n v } := by
  rw [Request.withHeader, hname] at hr
  dsimp only at hr
  split at hr
  · cases hr
  · rename_i v hv
    exact ⟨v, (Except.ok.inj hr).symm⟩

/-- The credentials are set, to one value or to another one. -/
theorem SameButCredentials.withCredentials (h : r.SameButCredentials r')
    (hname : Http.HeaderName.ofText? name = some credentials)
    (hname' : Http.HeaderName.ofText? name' = some credentials) {r₁ r₁' : Request}
    (hr : r.withHeader name value = .ok r₁) (hr' : r'.withHeader name' value' = .ok r₁') :
    r₁.SameButCredentials r₁' := by
  obtain ⟨v, rfl⟩ := eq_insert_of_withHeader hname hr
  obtain ⟨v', rfl⟩ := eq_insert_of_withHeader hname' hr'
  obtain ⟨hheaders, hothers⟩ := h
  refine ⟨?_, ?_⟩
  · exact (Http.Headers.SameFields.alter_credentials _ v v').trans (hheaders.alter credentials v')
  · rw [hothers]

/-- The credentials are set in one of the requests, and the other one has some. -/
theorem SameButCredentials.withCredentials_left (h : r.SameButCredentials r')
    (hpresent : r'.headers.contains credentials = true)
    (hname : Http.HeaderName.ofText? name = some credentials) {r₁ : Request}
    (hr : r.withHeader name value = .ok r₁) : r₁.SameButCredentials r' := by
  obtain ⟨v, rfl⟩ := eq_insert_of_withHeader hname hr
  obtain ⟨hheaders, hothers⟩ := h
  exact ⟨(hheaders.alter credentials v).trans (.alter_left hpresent v), hothers⟩

end Request

/-- What is written down of a request does not depend on its credentials. -/
theorem Transcript.requestEntry_congr {r r' : Request} (h : r.SameButCredentials r') :
    requestEntry r = requestEntry r' := by
  obtain ⟨hheaders, hothers⟩ := h
  rw [requestEntry, requestEntry, requestText, requestText, redacted_congr hheaders, hothers]

/-! ## Clients -/

namespace Client

/-- The client with other credentials. -/
def withAuthorization (c : Client) (v : Http.HeaderValue) : Client :=
  { c with authorization := some v }

/-- The clients have credentials, and differ in these alone. -/
inductive SameButCredentials : Client → Client → Prop
  | intro (c : Client) (v v' : Http.HeaderValue) :
      SameButCredentials (c.withAuthorization v) (c.withAuthorization v')

variable {c c' : Client}

/-- The header fields of their requests differ in the credentials alone. -/
theorem SameButCredentials.headers (h : c.SameButCredentials c') (hasBody : Bool) :
    (c.headers hasBody).SameButCredentials (c'.headers hasBody) := by
  obtain ⟨c, v, v'⟩ := h
  cases hasBody <;> exact .secret [v] [v'] _

/-- Clients with different credentials make requests that differ in these alone. -/
theorem SameButCredentials.request (h : c.SameButCredentials c') (l : Lifetime)
    (method path : String) (body : Option Bytes) :
    Request.MadeAlike (c.request l method path body) (c'.request l method path body) := by
  have hheaders := h.headers body.isSome
  obtain ⟨c, v, v'⟩ := h
  have hendpoint : (c.withAuthorization v').endpoint = (c.withAuthorization v).endpoint := rfl
  rw [Client.request, Client.request, hendpoint]
  split
  · exact .error _
  · exact .ok ⟨hheaders, rfl⟩

/-- A client that was made is what the options say. -/
theorem checked_of_build {o : ClientOptions} {registry r₁ : Registry} {c : Client}
    (h : build o registry = (.done c, r₁)) : o.checked = .ok c := by
  rw [build] at h
  rcases hchecked : o.checked with e | made
  · rw [hchecked] at h
    cases h
  · have hmade : (if made.isInstrumented then Registry.registerShared >>= fun _ => pure made
        else pure made : Task Registry Client) registry = (.done c, r₁) := by
      rw [hchecked] at h
      exact h
    split at hmade
    · rcases Task.bind_inv hmade with ⟨_, s, -, hdone⟩ | ⟨o', -, hne, heq⟩
      · obtain rfl : made = c := by injection hdone with h; injection h
        rfl
      · obtain rfl : o' = .done c := congrArg Prod.fst heq.symm
        exact absurd rfl hne
    · obtain rfl : made = c := by injection hmade with h; injection h
      rfl

/-- A client is made of what its options are found to say. -/
theorem checked_inv {o : ClientOptions} {c : Client} (h : o.checked = .ok c) :
    ∃ endpoint authorization userAgent timeout, o.checkedEndpoint = .ok endpoint ∧
      o.authorization = .ok authorization ∧ o.checkedUserAgent = .ok userAgent ∧
      o.timeout = .ok timeout ∧
      c = ⟨endpoint, authorization, userAgent, timeout, o.retry, o.pollBackoff, o.isTranscribed,
        o.isInstrumented⟩ := by
  rw [ClientOptions.checked] at h
  rcases hendpoint : o.checkedEndpoint with e | endpoint <;> rw [hendpoint] at h
  · cases h
  rcases hauthorization : o.authorization with e | authorization <;> rw [hauthorization] at h
  · cases h
  rcases huserAgent : o.checkedUserAgent with e | userAgent <;> rw [huserAgent] at h
  · cases h
  rcases htimeout : o.timeout with e | timeout <;> rw [htimeout] at h
  · cases h
  exact ⟨endpoint, authorization, userAgent, timeout, rfl, rfl, rfl, rfl, (Except.ok.inj h).symm⟩

/-- With a token there are credentials. -/
theorem exists_of_authorization {o : ClientOptions} (htoken : o.token ≠ "")
    {authorization : Option Http.HeaderValue} (h : o.authorization = .ok authorization) :
    ∃ v, authorization = some v := by
  rw [ClientOptions.authorization, if_neg (by simpa using htoken)] at h
  split at h
  · exact ⟨_, (Except.ok.inj h).symm⟩
  · cases h

/-- Two clients that were made alike but for their tokens. -/
theorem sameButCredentials_of_build {o : ClientOptions} {token : String}
    {registry registry' r₁ r₁' : Registry} {c c' : Client} (htoken : o.token ≠ "")
    (htoken' : token ≠ "") (hbuild : build o registry = (.done c, r₁))
    (hbuild' : build { o with token } registry' = (.done c', r₁')) :
    c.SameButCredentials c' := by
  obtain ⟨endpoint, authorization, userAgent, timeout, hendpoint, hauthorization, huserAgent,
    htimeout, rfl⟩ := checked_inv (checked_of_build hbuild)
  obtain ⟨endpoint', authorization', userAgent', timeout', hendpoint', hauthorization', huserAgent',
    htimeout', rfl⟩ := checked_inv (checked_of_build hbuild')
  obtain ⟨v, rfl⟩ := exists_of_authorization htoken hauthorization
  obtain ⟨v', rfl⟩ := exists_of_authorization htoken' hauthorization'
  obtain rfl : endpoint = endpoint' := Except.ok.inj (hendpoint.symm.trans hendpoint')
  obtain rfl : userAgent = userAgent' := Except.ok.inj (huserAgent.symm.trans huserAgent')
  obtain rfl : timeout = timeout' := Except.ok.inj (htimeout.symm.trans htimeout')
  exact .intro ⟨endpoint, none, userAgent, timeout, o.retry, o.pollBackoff, o.isTranscribed,
    o.isInstrumented⟩ v v'

end Client

/-! ## Preparing requests -/

/-- Two requests that have been prepared in the same way for the two clients, but for the
credentials that were set in them. -/
inductive Request.Prepared (c c' : Client) : Request → Request → Prop
  /-- both were put together by hand -/
  | own {r r' : Request} (h : r.SameButCredentials r') : Prepared c c' r r'
  /-- both are requests of the clients -/
  | request {l : Lifetime} {method path : String} {body : Option Bytes} {r r' : Request}
      (hr : c.request l method path body = .ok r) (hr' : c'.request l method path body = .ok r') :
      Prepared c c' r r'
  /-- both are given a lifetime -/
  | lifetime {r r' : Request} (h : Prepared c c' r r') (l : Lifetime) :
      Prepared c c' (r.withLifetime l) (r'.withLifetime l)
  /-- both are given a label -/
  | operation {r r' : Request} (h : Prepared c c' r r') (label : String) :
      Prepared c c' (r.withOperation label) (r'.withOperation label)
  /-- both are given parameters -/
  | parameters {r r' : Request} (h : Prepared c c' r r') (pairs : List (String × String)) :
      Prepared c c' (r.withParameters pairs) (r'.withParameters pairs)
  /-- the same header field is set in both, to the same value -/
  | header {r r' r₁ r₁' : Request} {name value : String} (h : Prepared c c' r r')
      (hr : r.withHeader name value = .ok r₁) (hr' : r'.withHeader name value = .ok r₁') :
      Prepared c c' r₁ r₁'
  /-- the credentials are set in both, to any values -/
  | both {r r' r₁ r₁' : Request} {name name' value value' : String} (h : Prepared c c' r r')
      (hname : Http.HeaderName.ofText? name = some credentials)
      (hname' : Http.HeaderName.ofText? name' = some credentials)
      (hr : r.withHeader name value = .ok r₁) (hr' : r'.withHeader name' value' = .ok r₁') :
      Prepared c c' r₁ r₁'
  /-- the credentials are set in the first one, and the second one has some -/
  | first {r r' r₁ : Request} {name value : String} (h : Prepared c c' r r')
      (hpresent : r'.headers.contains credentials = true)
      (hname : Http.HeaderName.ofText? name = some credentials)
      (hr : r.withHeader name value = .ok r₁) : Prepared c c' r₁ r'
  /-- the credentials are set in the second one, and the first one has some -/
  | second {r r' r₁' : Request} {name value : String} (h : Prepared c c' r r')
      (hpresent : r.headers.contains credentials = true)
      (hname : Http.HeaderName.ofText? name = some credentials)
      (hr' : r'.withHeader name value = .ok r₁') : Prepared c c' r r₁'

namespace Request

variable {c c' : Client} {r r' : Request}

/-- Requests that could be made. -/
theorem MadeAlike.sameButCredentials {made made' : Except Error Request}
    (h : MadeAlike made made') (hr : made = .ok r) (hr' : made' = .ok r') :
    r.SameButCredentials r' := by
  cases h with
  | ok h =>
    obtain rfl := Except.ok.inj hr
    obtain rfl := Except.ok.inj hr'
    exact h
  | error e => cases hr

/-- Requests that have been prepared in the same way differ in their credentials alone. -/
theorem Prepared.sameButCredentials (hc : c.SameButCredentials c') (h : Prepared c c' r r') :
    r.SameButCredentials r' := by
  induction h with
  | own h => exact h
  | request hr hr' => exact (hc.request _ _ _ _).sameButCredentials hr hr'
  | lifetime _ l ih => exact ih.map (·.withLifetime l) fun _ _ => rfl
  | operation _ label ih => exact ih.map (·.withOperation label) fun _ _ => rfl
  | parameters _ pairs ih => exact ih.map (·.withParameters pairs) fun _ _ => rfl
  | header _ hr hr' ih => exact (ih.withHeader _ _).sameButCredentials hr hr'
  | both _ hname hname' hr hr' ih => exact ih.withCredentials hname hname' hr hr'
  | first _ hpresent hname hr ih => exact ih.withCredentials_left hpresent hname hr
  | second _ hpresent hname hr' ih =>
    exact (ih.symm.withCredentials_left hpresent hname hr').symm

end Request

end CloudClient
