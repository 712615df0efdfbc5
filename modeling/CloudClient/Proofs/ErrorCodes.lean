import CloudClient.Proofs.ActionRecords
import CloudClient.Proofs.Causes
import CloudClient.Proofs.PlainDetails

/-!
# Codes are read back

Strings and codes are turned into each other by two tables with a row for each known code, and
strings without a row are kept. The tables belong together: no string is lost, and no code but one
that is put together by hand, to look like a known one without being it.

What an error is taken for depends on nothing but its code. So errors that are written and read
again are retried alike, and are found under the same codes.

* `ErrorCode.IsDisguised` — the codes that no string is read as.
* `Error.SameClass` — errors that are taken for the same.
* `ErrorCode.tables_inverse` — what is read back, from the code itself to the texts of errors and
  actions.
-/

namespace CloudClient

open Json

/-! ## Codes -/

namespace ErrorCode

/-- The code has the text of a known one, but is kept like an unknown one. -/
def IsDisguised (c : ErrorCode) : Prop := ∃ k : ErrorCode, k.isKnown = true ∧ c = other k.text

variable {c : ErrorCode} {s : String}

/-- Codes of different strings are different. -/
theorem ofText_injective : Function.Injective ofText := by
  intro s s' h
  rw [← text_ofText s, h, text_ofText]

/-- A string that is the text of no known code is kept. -/
theorem ofText_eq_other (h : ∀ k : ErrorCode, k.isKnown = true → k.text ≠ s) :
    ofText s = other s := by
  have htext := text_ofText s
  cases hc : ofText s with
  | other t =>
    rw [hc] at htext
    rw [← htext]
    rfl
  | _ =>
    rw [hc] at htext
    exact absurd htext (h _ rfl)

/-- **A code is read back from its text**, unless it is disguised. -/
theorem ofText_text_iff : ofText c.text = c ↔ ¬ c.IsDisguised := by
  constructor
  · rintro h ⟨k, hk, rfl⟩
    rw [text, ofText_text hk] at h
    rw [h] at hk
    cases hk
  · intro h
    cases c with
    | other t =>
      refine ofText_eq_other fun k hk htext => h ⟨k, hk, ?_⟩
      rw [htext, text]
    | _ => rfl

example : (other "conflict").IsDisguised := ⟨conflict, rfl, rfl⟩

theorem isReadable_iff : c.IsReadable ↔ ¬ c.IsDisguised := by
  rw [← ofText_text_iff]
  constructor
  · rintro ⟨s, rfl⟩
    rw [text_ofText]
  · exact fun h => ⟨c.text, h.symm⟩

/-- What is read from the JSON text of a code: the code itself, or the one that it is disguised
as. -/
theorem parse?_bytes (c : ErrorCode) :
    (Tree.parse? (Value.string c.text).bytes).bind ofTree? = some (ofText c.text) := by
  rw [(Value.IsExact.string c.text).parse?_bytes, Option.bind_some, ofTree?, Tree.string?_string,
    Option.map_some]

end ErrorCode

/-! ## Classes of errors -/

namespace Error

/-- The errors are taken for the same: they are retried alike, and are found under the same
codes. -/
structure SameClass (e e' : Error) : Prop where
  isTransient : e.isTransient = e'.isTransient
  hasCode : ∀ code, e.hasCode code = e'.hasCode code

theorem hasCode_api (code : ErrorCode) (e : ApiError) :
    (Error.api e).hasCode code = (e.code == code) := by
  rw [hasCode, AnyError.hasCode]
  exact Bool.or_false _

/-- **API errors are taken for the same** if they have the same code. -/
theorem sameClass_api_iff {e e' : ApiError} :
    SameClass (.api e) (.api e') ↔ e.code = e'.code := by
  constructor
  · intro h
    have hcode := h.hasCode e'.code
    rw [hasCode_api, hasCode_api, beq_self_eq_true, beq_iff_eq] at hcode
    exact hcode
  · intro h
    exact ⟨by rw [isTransient, isTransient, h], fun code => by rw [hasCode_api, hasCode_api, h]⟩

end Error

/-! ## Texts of API errors -/

namespace ErrorBody

/-- The members of a record, in the order of their declaration. -/
def members (b : ErrorBody) : List (String × Value) :=
  [("code", .string b.code), ("message", .string b.message)] ++
    (b.details.map fun d => ("details", d)).toList

variable {b : ErrorBody} {ms : List (String × Value)}

theorem nodup_members (b : ErrorBody) : (b.members.map (·.1)).Nodup := by
  obtain ⟨code, message, _ | d⟩ := b
  · exact (by decide : ["code", "message"].Nodup)
  · exact (by decide : ["code", "message", "details"].Nodup)

/-- A record is read back from its members, in whatever order they stand, as far as its details
can be. -/
theorem ofTree?_of_perm (hms : ms.Perm b.members) :
    ofTree? (Value.object ms).tree =
      (Tree.optional (Tree.value? detailsRoom) (b.details.map Value.tree)).map fun details =>
        { b with details } := by
  have hnodup : (ms.map (·.1)).Nodup := (hms.map _).nodup_iff.2 b.nodup_members
  have hcode := Value.field?_memberTrees ["code", "message", "details"] hnodup
    (hms.mem_iff.2 (List.mem_append_left _ List.mem_cons_self))
  have hmessage := Value.field?_memberTrees ["code", "message", "details"] hnodup
    (hms.mem_iff.2 (List.mem_append_left _ (List.mem_cons_of_mem _ List.mem_cons_self)))
  have hdetails : (Tree.object (Value.memberTrees ms)).field? ["code", "message", "details"]
      "details" = b.details.map Value.tree := by
    cases hd : b.details with
    | none =>
      refine Value.field?_memberTrees_of_not_mem fun hmem => ?_
      rw [(hms.map _).mem_iff, members, hd] at hmem
      exact absurd hmem (by decide : "details" ∉ ["code", "message"])
    | some d =>
      refine Value.field?_memberTrees _ hnodup (hms.mem_iff.2 (List.mem_append_right _ ?_))
      rw [hd]
      exact List.mem_cons_self
  rw [ofTree?, Value.tree, Tree.fields?_object (by decide) (Value.distinct_memberTrees hnodup)]
  simp only [List.map_cons, List.map_nil, hcode, hmessage, hdetails, Tree.withDefault,
    Tree.string?_string, Option.bind_eq_bind, Option.bind_some]
  cases Tree.optional (Tree.value? detailsRoom) (b.details.map Value.tree) <;> rfl

/-- Details that were read are read again if their numbers are whole. -/
theorem reads_ofTree? : Tree.Reads ofTree? fun b =>
    ∀ raw ∈ b.details, raw.IsExact → (raw.tree.value? detailsRoom).isSome = true := by
  intro t b h
  have hdetails : Tree.Reads (Tree.value? detailsRoom) fun raw =>
      raw.IsExact → (raw.tree.value? detailsRoom).isSome = true :=
    fun _ _ => Value.isSome_value?_tree
  obtain ⟨fields, -, h⟩ := Option.bind_eq_some_iff.1 h
  split at h
  · obtain ⟨_, -, h⟩ := Option.bind_eq_some_iff.1 h
    obtain ⟨_, -, h⟩ := Option.bind_eq_some_iff.1 h
    obtain ⟨details, hread, h⟩ := Option.bind_eq_some_iff.1 h
    obtain rfl := Option.some.inj h
    exact hdetails.optional hread
  · cases h

theorem reads_ofEnvelope? : Tree.Reads ofEnvelope? fun b =>
    ∀ raw ∈ b.details, raw.IsExact → (raw.tree.value? detailsRoom).isSome = true := by
  intro t b h
  obtain ⟨fields, -, h⟩ := Option.bind_eq_some_iff.1 h
  split at h
  · exact reads_ofTree?.required h
  · cases h

theorem ofEnvelope?_object (v : Value) :
    ofEnvelope? (Value.object [("error", v)]).tree = ofTree? v.tree := by
  have hfields : (Value.object [("error", v)]).tree.fields? ["error"] = some [some v.tree] :=
    Value.fields?_of_perm (by decide : ["error"].Nodup) (rfl : _ = [v].length) (.refl _)
  rw [ofEnvelope?, hfields]
  rfl

end ErrorBody

namespace ErrorDetails

/-- Details without a type are kept as they are. -/
theorem eq_of_ofValue_eq_other {code : ErrorCode} {raw raw' : Value}
    (h : ofValue code raw = other raw') : raw = raw' := by
  have hvalue := (value_ofValue_iff code raw).2 fun htyped => by rw [h] at htyped; exact htyped.elim
  rw [h] at hvalue
  exact hvalue.symm

/-- Details with a type take up little room. -/
theorem isSome_value?_of_isTyped {d : ErrorDetails} (h : d.IsTyped) :
    (d.value.tree.value? ErrorBody.detailsRoom).isSome = true := by
  cases d with
  | invalidInput fields =>
    refine Value.isSome_value?_object (List.forall_mem_singleton.2 ?_)
    refine Value.isSome_value?_array (List.forall_mem_map.2 fun f _ => ?_)
    rw [fieldValue_eq]
    refine Value.isSome_value?_object (List.forall_mem_cons.2 ⟨?_, List.forall_mem_singleton.2 ?_⟩)
    · exact Value.isSome_value?_array
        (List.forall_mem_map.2 fun s _ => Value.isSome_value?_string _ s)
    · exact Value.isSome_value?_string _ _
  | deprecatedEndpoint announcement =>
    exact Value.isSome_value?_object
      (List.forall_mem_singleton.2 (Value.isSome_value?_string _ announcement))
  | other raw => exact h.elim

end ErrorDetails

namespace ApiError

/-- Reads an error from the text of an envelope. -/
def parse? (s : Bytes) : Option ApiError := do
  return ofBody (← ErrorBody.ofEnvelope? (← Tree.parse? s))

/-- The details can be read back: their containers do not stand too deep in each other, and their
numbers are not too large. -/
def HasReadableDetails (e : ApiError) : Prop :=
  ∀ d ∈ e.details, (d.value.tree.value? ErrorBody.detailsRoom).isSome = true

variable {e e' : ApiError} {ms : List (String × Value)} {s : Bytes}

theorem optional_details_isSome_iff :
    (Tree.optional (Tree.value? ErrorBody.detailsRoom)
      (e.body.details.map Value.tree)).isSome = true ↔ e.HasReadableDetails := by
  rw [body, HasReadableDetails]
  cases e.details with
  | none => exact ⟨fun _ _ h => (Option.not_mem_none _ h).elim, fun _ => rfl⟩
  | some d =>
    have hread : (Tree.optional (Tree.value? ErrorBody.detailsRoom) (some d.value.tree)).isSome =
        (d.value.tree.value? ErrorBody.detailsRoom).isSome := by
      by_cases hnull : d.value.tree = .null
      · rw [hnull]
        rfl
      · rw [Tree.optional_of_ne_null hnull, Option.isSome_map]
    simpa using hread

/-- The details of an error that was read can be read back, if their numbers are whole. -/
theorem hasReadableDetails_of_parse? (h : parse? s = some e)
    (hexact : ∀ raw, e.details = some (.other raw) → raw.IsExact) : e.HasReadableDetails := by
  obtain ⟨t, -, h⟩ := Option.bind_eq_some_iff.1 h
  obtain ⟨b, hbody, h⟩ := Option.bind_eq_some_iff.1 h
  obtain rfl := Option.some.inj h
  intro d hd
  obtain ⟨raw, hraw, hof⟩ := Option.map_eq_some_iff.1 hd
  cases d with
  | other raw' =>
    obtain rfl := ErrorDetails.eq_of_ofValue_eq_other hof
    exact ErrorBody.reads_ofEnvelope? t b hbody raw hraw (hexact raw hd)
  | invalidInput | deprecatedEndpoint => exact ErrorDetails.isSome_value?_of_isTyped trivial

/-- A string has the code of an error that was read. -/
theorem exists_ofText_of_parse? (h : parse? s = some e) : ∃ code, e.code = .ofText code := by
  obtain ⟨t, -, h⟩ := Option.bind_eq_some_iff.1 h
  obtain ⟨b, -, h⟩ := Option.bind_eq_some_iff.1 h
  obtain rfl := Option.some.inj h
  exact ⟨b.code, rfl⟩

/-- **An error is read from every text of its envelope**, if its details can be read back, and has
the code that its text is read as. -/
theorem parse?_of_spells (hms : ms.Perm e.body.members)
    (hs : Token.Spells (Value.object [("error", .object ms)]).tree.tokens s) :
    ((parse? s).isSome = true ↔ e.HasReadableDetails) ∧
      ∀ e', parse? s = some e' → e'.code = .ofText e.code.text := by
  have hparse : parse? s = (Tree.optional (Tree.value? ErrorBody.detailsRoom)
      (e.body.details.map Value.tree)).map fun details => ofBody { e.body with details } := by
    rw [parse?, Tree.parse?_eq_some_iff.2 hs, Option.bind_eq_bind, Option.bind_some,
      ErrorBody.ofEnvelope?_object, ErrorBody.ofTree?_of_perm hms]
    cases Tree.optional (Tree.value? ErrorBody.detailsRoom) (e.body.details.map Value.tree) <;> rfl
  rw [hparse, Option.isSome_map, optional_details_isSome_iff]
  refine ⟨Iff.rfl, fun e' h => ?_⟩
  obtain ⟨details, -, rfl⟩ := Option.map_eq_some_iff.1 h
  rfl

end ApiError

/-! ## Everything that is read back -/

/-- The text spells an envelope of the error, in whatever order its members stand. -/
def ApiError.IsSpelled (e : ApiError) (s : Bytes) : Prop :=
  ∃ members : List (String × Value), members.Perm e.body.members ∧
    Token.Spells (Value.object [("error", .object members)]).tree.tokens s

namespace ErrorCode

/-- **The two tables are inverse to each other.** Every string comes back from its code; so
different strings have different codes, and a string that no row has is kept. Every code comes back
from its text but the disguised ones, which no string is read as; the same holds of its JSON text.

Hence errors are taken for the same after they were written and read again. For API errors this is
said of their records, where again only a disguised code makes a difference, and of the texts of
their envelopes: whatever is read from one is taken for the same, and something is read if the
details can be read back, as they can if their numbers are whole. For actions it is said of their
texts: the failure and the error are the same. -/
theorem tables_inverse :
    (∀ s, (ofText s).text = s) ∧ Function.Injective ofText ∧
    (∀ s, (∀ k : ErrorCode, k.isKnown = true → k.text ≠ s) → ofText s = other s) ∧
    (∀ c : ErrorCode, ofText c.text = c ↔ ¬ c.IsDisguised) ∧ (∀ s, ¬ (ofText s).IsDisguised) ∧
    (∀ c : ErrorCode,
      (Tree.parse? (Value.string c.text).bytes).bind ofTree? = some c ↔ ¬ c.IsDisguised) ∧
    (∀ e : ApiError,
      Error.SameClass (.api (.ofBody e.body)) (.api e) ↔ ¬ e.code.IsDisguised) ∧
    (∀ (s s' : Bytes) (e : ApiError), ApiError.parse? s = some e → e.IsSpelled s' →
      (∀ e', ApiError.parse? s' = some e' → Error.SameClass (.api e') (.api e)) ∧
      ((ApiError.parse? s').isSome = true ↔ e.HasReadableDetails) ∧
      ((∀ raw, e.details = some (.other raw) → raw.IsExact) → e.HasReadableDetails)) ∧
    ∀ (s s' : Bytes) (a : Action), Action.parse? s = some a → a.IsSpelled s' →
      ∃ a', Action.parse? s' = some a' ∧ a'.failure = a.failure ∧ a'.error? = a.error? := by
  have hread : ∀ s, ¬ (ofText s).IsDisguised := fun s => isReadable_iff.1 ⟨s, rfl⟩
  refine ⟨text_ofText, ofText_injective, fun s => ofText_eq_other, fun c => ofText_text_iff, hread,
    fun c => ?_, fun e => ?_, fun s s' e h hspelled => ?_, fun s s' a h hspelled => ?_⟩
  · rw [parse?_bytes, Option.some_inj, ofText_text_iff]
  · rw [Error.sameClass_api_iff]
    exact ofText_text_iff
  · obtain ⟨members, hmembers, hs⟩ := hspelled
    obtain ⟨hsome, hcode⟩ := ApiError.parse?_of_spells hmembers hs
    refine ⟨fun e' h' => Error.sameClass_api_iff.2 ?_, hsome,
      ApiError.hasReadableDetails_of_parse? h⟩
    obtain ⟨code, hof⟩ := ApiError.exists_ofText_of_parse? h
    rw [hcode e' h', hof, text_ofText]
  · exact ⟨a, (Action.isReadable_of_parse? h).parse?_of_isSpelled hspelled, rfl, rfl⟩

end ErrorCode

namespace ApiError

/-- The text of an envelope. The record in it is an array, and its code differs from a known one by
a capital letter. -/
def oddText : Bytes :=
  textBytes "\x7b\"error\":[\"Conflict\",\"busy\",\x7b\"n\":[1,null]\x7d]\x7d"

/-- What it is read as. -/
def odd : ApiError where
  code := .other "Conflict"
  message := "busy"
  details := some (.other (.object [("n", .array [.number (.whole 1), .null])]))
  response := none

/-- The envelope of the odd error with the members reversed. -/
def oddEnvelope : Value := .object [("error", .object odd.body.members.reverse)]

theorem isExact_oddDetails {raw : Value} (h : odd.details = some (.other raw)) : raw.IsExact := by
  cases h
  exact .object (List.forall_mem_singleton.2
    (.array (List.forall_mem_cons.2 ⟨.whole 1, List.forall_mem_singleton.2 .null⟩)))

theorem isSpelled_oddEnvelope : odd.IsSpelled oddEnvelope.bytes := by
  have hexact : oddEnvelope.IsExact := by
    refine .object (List.forall_mem_singleton.2 (.object ?_))
    exact List.forall_mem_cons.2 ⟨isExact_oddDetails rfl, List.forall_mem_cons.2
      ⟨.string _, List.forall_mem_singleton.2 (.string _)⟩⟩
  exact ⟨_, List.reverse_perm _, Tree.parse?_eq_some_iff.1 hexact.parse?_bytes⟩

end ApiError

namespace ErrorCode

/-- A code with a capital letter is kept, also where an error and an action are written and read
again. -/
theorem tables_inverse_odd :
    ofText "Conflict" = other "Conflict" ∧
    (∃ e, ApiError.parse? ApiError.oddEnvelope.bytes = some e ∧
      Error.SameClass (.api e) (.api .odd)) ∧
    ∃ a, Action.parse? Action.odd.value.bytes = some a ∧ a.failure = Action.odd.failure ∧
      a.error? = Action.odd.error? := by
  obtain ⟨-, -, hother, -, -, -, -, herror, haction⟩ := tables_inverse
  refine ⟨hother _ ?_, ?_,
    haction Action.oddText _ _ (by decide +kernel) (Action.isSpelled_bytes _)⟩
  · intro k hk
    cases k with
    | other => cases hk
    | _ => decide
  · obtain ⟨hclass, hsome, hdetails⟩ :=
      herror ApiError.oddText _ _ rfl ApiError.isSpelled_oddEnvelope
    obtain ⟨e, he⟩ :=
      Option.isSome_iff_exists.1 (hsome.2 (hdetails fun _ => ApiError.isExact_oddDetails))
    exact ⟨e, he, hclass e he⟩

end ErrorCode

end CloudClient
