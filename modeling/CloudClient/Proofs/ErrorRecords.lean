import CloudClient.Error.Api

/-!
# Errors and the records that report them

An error is read from a record, and it can be written as a record again. Only two codes have details
with a type of their own, and only details in the shape of the code get it; all others are kept as
they are. So not every error comes from a record. One whose details have the type of another code
does not, nor does one with the shape of its code kept as it is.

* `ErrorDetails.Fits` — the details that can be read under a code.
* `ErrorDetails.ofValue_value` and `ErrorDetails.fits_ofValue` — these are read as they were
  written, and no others are read.
* `ApiError.ofBody_body_iff` — hence an error comes from a record exactly if it comes from the one
  that reports it, and then nothing but the answer is lost on the way.
-/

namespace CloudClient

open Json

/-! ## Details -/

namespace ErrorDetails

/-- The details can be read under the code: they have its type, or they have no type and not its
shape. -/
def Fits (code : ErrorCode) : ErrorDetails → Prop
  | invalidInput _ => code = .invalidInput
  | deprecatedEndpoint _ => code = .deprecatedApiEndpoint
  | other raw =>
    (code = .invalidInput → invalidInput? raw = none) ∧
      (code = .deprecatedApiEndpoint → deprecatedEndpoint? raw = none)

/-- An array is read as it was written, if its elements are. -/
theorem list?_array_map {α : Type} {read : Value → Option α} {write : α → Value}
    (h : ∀ a, read (write a) = some a) (items : List α) :
    list? read (.array (items.map write)) = some items := by
  change (items.map write).mapM read = some items
  induction items with
  | nil => rfl
  | cons a items ih => simp [h a, ih]

theorem fieldValue_eq (f : InvalidField) :
    fieldValue f =
      .object [("messages", .array (f.messages.map .string)), ("name", .string f.name)] := by
  have hlt : "messages" < "name" := by decide
  rw [fieldValue, Value.ofMembers]
  simp only [List.foldl_cons, List.foldl_nil, Value.setMember, if_pos hlt]

/-- A refused field is read as it was written. -/
theorem invalidField?_fieldValue (f : InvalidField) : invalidField? (fieldValue f) = some f := by
  have hfields : fields? ["name", "messages"] (fieldValue f) =
      some [some (.string f.name), some (.array (f.messages.map .string))] := by
    rw [fieldValue_eq]
    rfl
  have hstring : ∀ s, string? (.string s) = some s := fun _ => rfl
  simp [invalidField?, hfields, hstring, list?_array_map hstring]

theorem invalidInput?_value (fields : List InvalidField) :
    invalidInput? (invalidInput fields).value = some (.invalidInput fields) := by
  have hfields : fields? ["fields"] (invalidInput fields).value =
      some [some (.array (fields.map fieldValue))] := rfl
  simp [invalidInput?, hfields, list?_array_map invalidField?_fieldValue]

theorem deprecatedEndpoint?_value (announcement : String) :
    deprecatedEndpoint? (deprecatedEndpoint announcement).value =
      some (.deprecatedEndpoint announcement) := rfl

/-- Details that are made of the only field of a record have the type that they are made with. -/
theorem exists_of_field? {α : Type} {names : List String} {read : Value → Option α}
    {make : α → ErrorDetails} {raw : Value} {d : ErrorDetails}
    (h : (do
      match ← fields? names raw with
      | [some field] => return make (← read field)
      | _ => none) = some d) :
    ∃ a, d = make a := by
  obtain ⟨fields, -, h⟩ := Option.bind_eq_some_iff.1 h
  split at h
  · obtain ⟨a, -, hd⟩ := Option.bind_eq_some_iff.1 h
    exact ⟨a, (Option.some.inj hd).symm⟩
  · cases h

/-- Details of a code without a type of its own are kept as they are. -/
theorem ofValue_of_ne {code : ErrorCode} (hinput : code ≠ .invalidInput)
    (hdeprecated : code ≠ .deprecatedApiEndpoint) (raw : Value) :
    ofValue code raw = .other raw := by
  cases code <;> first | rfl | contradiction

/-- **What is read fits**: only such details are read under a code. -/
theorem fits_ofValue (code : ErrorCode) (raw : Value) : (ofValue code raw).Fits code := by
  by_cases hinput : code = .invalidInput
  · subst hinput
    rw [ofValue]
    cases hread : invalidInput? raw with
    | none => exact ⟨fun _ => hread, nofun⟩
    | some d =>
      obtain ⟨fields, rfl⟩ := exists_of_field? hread
      rfl
  by_cases hdeprecated : code = .deprecatedApiEndpoint
  · subst hdeprecated
    rw [ofValue]
    cases hread : deprecatedEndpoint? raw with
    | none => exact ⟨nofun, fun _ => hread⟩
    | some d =>
      obtain ⟨announcement, rfl⟩ := exists_of_field? hread
      rfl
  rw [ofValue_of_ne hinput hdeprecated]
  exact ⟨fun h => absurd h hinput, fun h => absurd h hdeprecated⟩

/-- **What fits is read as it was written.** Details without a type are kept again, because they do
not have the shape of the code. -/
theorem ofValue_value {code : ErrorCode} {d : ErrorDetails} (h : d.Fits code) :
    ofValue code d.value = d := by
  cases d with
  | invalidInput fields =>
    obtain rfl : code = .invalidInput := h
    rw [ofValue, invalidInput?_value, Option.getD_some]
  | deprecatedEndpoint announcement =>
    obtain rfl : code = .deprecatedApiEndpoint := h
    rw [ofValue, deprecatedEndpoint?_value, Option.getD_some]
  | other raw =>
    obtain ⟨hinput, hdeprecated⟩ := h
    rw [value]
    by_cases hcode : code = .invalidInput
    · subst hcode
      rw [ofValue, hinput rfl, Option.getD_none]
    by_cases hcode' : code = .deprecatedApiEndpoint
    · subst hcode'
      rw [ofValue, hdeprecated rfl, Option.getD_none]
    exact ofValue_of_ne hcode hcode' raw

end ErrorDetails

/-! ## Errors -/

namespace ApiError

/-- The error can be read from a record: a string has its code, and its details fit the code. -/
structure Fits (e : ApiError) : Prop where
  code : ∃ s, e.code = .ofText s
  details : ∀ d ∈ e.details, d.Fits e.code

/-- What is read from a record can be read from one. -/
theorem fits_ofBody (b : ErrorBody) : (ofBody b).Fits where
  code := ⟨b.code, rfl⟩
  details d hd := by
    obtain ⟨raw, -, rfl⟩ := Option.map_eq_some_iff.1 hd
    exact ErrorDetails.fits_ofValue _ raw

/-- An error that can be read from a record is read from the one that reports it. -/
theorem Fits.ofBody_body {e : ApiError} (h : e.Fits) :
    ofBody e.body = { e with response := none } := by
  obtain ⟨s, hs⟩ := h.code
  have hcode : ErrorCode.ofText e.code.text = e.code := by rw [hs, ErrorCode.text_ofText]
  have hdetails :
      (e.details.map ErrorDetails.value).map (ErrorDetails.ofValue e.code) = e.details := by
    cases hd : e.details with
    | none => rfl
    | some d => simp [ErrorDetails.ofValue_value (h.details d hd)]
  simp only [ofBody, body, hcode, hdetails]

/-- **Reading undoes writing**, for the errors that can be read at all and for no others: the error
that is read from its own record is the same, but for the answer, exactly if a string has its code
and its details fit the code. Every error that is read from a record is such an error, whatever the
record has for a code and for details; so if it is written and read again, nothing changes. -/
theorem ofBody_body_iff :
    (∀ e : ApiError, e.Fits ↔ ofBody e.body = { e with response := none }) ∧
    (∀ b : ErrorBody, (ofBody b).Fits) ∧
    ∀ b : ErrorBody, ofBody (ofBody b).body = ofBody b := by
  refine ⟨fun e => ⟨Fits.ofBody_body, fun h => ?_⟩, fits_ofBody,
    fun b => (fits_ofBody b).ofBody_body⟩
  -- an error that is read from its own record is one that is read from a record
  obtain ⟨hcode, hdetails⟩ := h ▸ fits_ofBody e.body
  exact ⟨hcode, hdetails⟩

end ApiError

end CloudClient
