import CloudClient.Proofs.ErrorRecords

/-!
# Records that come back

A record is read as an error, and the error can be written as a record again. The code and the
message always come back, and so do details without a type. Details that get a type come back only
in the shape that the type is written in: a member that the type has no field for is not kept, and a
record that is written as an array becomes an object.

* `ErrorDetails.IsPlain` — the shape in which the details of a code are written.
* `ErrorDetails.value_ofValue_iff` — details come back if they do not get a type or have this shape.
* `ApiError.body_ofBody_iff` — hence a record comes back exactly if its details do.
-/

namespace CloudClient

open Json

/-! ## Details -/

namespace ErrorDetails

/-- The value is an object with these members in turn, and no others. -/
def HasOnly (names : List String) : Value → Prop
  | .object members => members.map (·.1) = names
  | _ => False

/-- The details hold nothing but what details of this code have fields for. Members stand in the
order of their names. -/
def IsPlain : ErrorCode → Value → Prop
  | .invalidInput, raw => HasOnly ["fields"] raw ∧
      ∀ items, raw.get? "fields" = some (.array items) → ∀ item ∈ items,
        HasOnly ["messages", "name"] item
  | .deprecatedApiEndpoint, raw => HasOnly ["announcement"] raw
  | _, _ => True

/-- Do the details have a type? -/
def IsTyped : ErrorDetails → Prop
  | other _ => False
  | _ => True

variable {names : List String} {raw v : Value} {f : InvalidField} {d : ErrorDetails}

/-! ### Objects with one or two members -/

theorem exists_of_hasOnly_one {name : String} (h : HasOnly [name] raw) :
    ∃ v, raw = .object [(name, v)] := by
  cases raw with
  | object members =>
    obtain ⟨⟨n, v⟩, rfl, rfl⟩ := List.map_eq_singleton_iff.1 h
    exact ⟨v, rfl⟩
  | null | bool | number | string | array => cases h

theorem exists_of_hasOnly_two {name name' : String} (h : HasOnly [name, name'] raw) :
    ∃ v v', raw = .object [(name, v), (name', v')] := by
  cases raw with
  | object members =>
    obtain ⟨⟨n, v⟩, rest, rfl, rfl, hrest⟩ := List.map_eq_cons_iff.1 h
    obtain ⟨⟨n', v'⟩, rfl, rfl⟩ := List.map_eq_singleton_iff.1 hrest
    exact ⟨v, v', rfl⟩
  | null | bool | number | string | array => cases h

/-! ### What was read -/

theorem eq_of_string? {s : String} (h : string? v = some s) : v = .string s := by
  cases v with
  | string t => rw [Option.some.inj h]
  | null | bool | number | array | object => cases h

/-- An array is written as it was read, if its elements are. -/
theorem eq_of_list? {α : Type} {read : Value → Option α} {as : List α} (write : α → Value)
    (h : list? read v = some as) :
    ∃ items, v = .array items ∧
      ((∀ item ∈ items, ∀ a, read item = some a → write a = item) →
        items = as.map write) := by
  cases v with
  | array items =>
    refine ⟨items, rfl, fun hwrite => ?_⟩
    have hread : items.mapM read = some as := h
    clear h
    induction items generalizing as with
    | nil =>
      obtain rfl : [] = as := by simpa using hread
      rfl
    | cons item items ih =>
      rw [List.mapM_cons] at hread
      obtain ⟨a, ha, hrest⟩ := Option.bind_eq_some_iff.1 hread
      obtain ⟨rest, hitems, heq⟩ := Option.bind_eq_some_iff.1 hrest
      obtain rfl := Option.some.inj heq
      rw [List.map_cons, hwrite item List.mem_cons_self a ha,
        ← ih (fun i hi => hwrite i (List.mem_cons_of_mem item hi)) hitems]
  | null | bool | number | string | object => cases h

/-- A refused field that was read from an object with its two members only is written as this
object. -/
theorem fieldValue_of_invalidField? (hplain : HasOnly ["messages", "name"] v)
    (h : invalidField? v = some f) : fieldValue f = v := by
  obtain ⟨messages, name, rfl⟩ := exists_of_hasOnly_two hplain
  have hfields : fields? ["name", "messages"] (.object [("messages", messages), ("name", name)]) =
      some [some name, some messages] := rfl
  rw [invalidField?, hfields, Option.bind_eq_bind, Option.bind_some] at h
  obtain ⟨s, hname, h⟩ := Option.bind_eq_some_iff.1 h
  obtain ⟨texts, hmessages, h⟩ := Option.bind_eq_some_iff.1 h
  obtain rfl := Option.some.inj h
  obtain ⟨items, rfl, hitems⟩ := eq_of_list? .string hmessages
  rw [fieldValue_eq, eq_of_string? hname,
    hitems fun item _ s hs => (eq_of_string? hs).symm]

theorem hasOnly_fieldValue (f : InvalidField) : HasOnly ["messages", "name"] (fieldValue f) := by
  rw [fieldValue_eq]
  rfl

theorem value_of_invalidInput? (h : invalidInput? raw = some d) :
    d.value = raw ↔ IsPlain .invalidInput raw := by
  constructor
  · obtain ⟨fields, rfl⟩ := exists_of_field? h
    rintro rfl
    refine ⟨rfl, fun items hitems item hitem => ?_⟩
    obtain rfl : fields.map fieldValue = items := Value.array.inj (Option.some.inj hitems)
    obtain ⟨f, -, rfl⟩ := List.mem_map.1 hitem
    exact hasOnly_fieldValue f
  · rintro ⟨honly, hitems⟩
    obtain ⟨v, rfl⟩ := exists_of_hasOnly_one honly
    have hfields : fields? ["fields"] (.object [("fields", v)]) = some [some v] := rfl
    rw [invalidInput?, hfields, Option.bind_eq_bind, Option.bind_some] at h
    obtain ⟨fields, hlist, h⟩ := Option.bind_eq_some_iff.1 h
    obtain rfl := Option.some.inj h
    obtain ⟨items, rfl, hwritten⟩ := eq_of_list? fieldValue hlist
    rw [value, ← hwritten fun item hitem f hf =>
      fieldValue_of_invalidField? (hitems items rfl item hitem) hf]

theorem value_of_deprecatedEndpoint? (h : deprecatedEndpoint? raw = some d) :
    d.value = raw ↔ IsPlain .deprecatedApiEndpoint raw := by
  constructor
  · obtain ⟨announcement, rfl⟩ := exists_of_field? h
    rintro rfl
    rfl
  · intro honly
    obtain ⟨v, rfl⟩ := exists_of_hasOnly_one honly
    have hfields : fields? ["announcement"] (.object [("announcement", v)]) = some [some v] := rfl
    rw [deprecatedEndpoint?, hfields, Option.bind_eq_bind, Option.bind_some] at h
    obtain ⟨announcement, hstring, h⟩ := Option.bind_eq_some_iff.1 h
    obtain rfl := Option.some.inj h
    rw [value, eq_of_string? hstring]

/-- **Details come back** exactly if they do not get a type, or hold nothing but what the type has
fields for. -/
theorem value_ofValue_iff (code : ErrorCode) (raw : Value) :
    (ofValue code raw).value = raw ↔ ((ofValue code raw).IsTyped → IsPlain code raw) := by
  have hkept : (other raw).value = raw ↔ ((other raw).IsTyped → IsPlain code raw) :=
    ⟨fun _ h => h.elim, fun _ => rfl⟩
  by_cases hinput : code = .invalidInput
  · subst hinput
    rw [ofValue]
    cases hread : invalidInput? raw with
    | none => exact hkept
    | some d =>
      obtain ⟨fields, rfl⟩ := exists_of_field? hread
      rw [Option.getD_some, value_of_invalidInput? hread]
      exact ⟨fun h _ => h, fun h => h trivial⟩
  by_cases hdeprecated : code = .deprecatedApiEndpoint
  · subst hdeprecated
    rw [ofValue]
    cases hread : deprecatedEndpoint? raw with
    | none => exact hkept
    | some d =>
      obtain ⟨announcement, rfl⟩ := exists_of_field? hread
      rw [Option.getD_some, value_of_deprecatedEndpoint? hread]
      exact ⟨fun h _ => h, fun h => h trivial⟩
  rw [ofValue_of_ne hinput hdeprecated]
  exact hkept

end ErrorDetails

/-! ## Records -/

namespace ApiError

/-- **A record comes back** exactly if its details do: if there are none, if they do not get a type
under the code, or if they hold nothing but what the type has fields for. The code and the message
come back in any case, and so does whether there are details at all. -/
theorem body_ofBody_iff (b : ErrorBody) :
    ((ofBody b).body = b ↔ ∀ raw ∈ b.details,
      (ErrorDetails.ofValue (.ofText b.code) raw).IsTyped →
        ErrorDetails.IsPlain (.ofText b.code) raw) ∧
    (ofBody b).body.code = b.code ∧ (ofBody b).body.message = b.message ∧
      ((ofBody b).body.details.isSome ↔ b.details.isSome) := by
  have hcode : (ofBody b).body.code = b.code := ErrorCode.text_ofText b.code
  have hdetails : (ofBody b).body.details =
      b.details.map fun raw => (ErrorDetails.ofValue (.ofText b.code) raw).value :=
    Option.map_map _ _ _
  refine ⟨?_, hcode, rfl, by rw [hdetails, Option.isSome_map]⟩
  have hiff : (ofBody b).body = b ↔ (ofBody b).body.details = b.details := by
    constructor
    · intro h
      rw [h]
    · intro h
      generalize hb : (ofBody b).body = written at h hcode
      have hmessage : written.message = b.message := hb ▸ rfl
      obtain ⟨code, message, details⟩ := written
      obtain ⟨code', message', details'⟩ := b
      obtain rfl : code = code' := hcode
      obtain rfl : message = message' := hmessage
      obtain rfl : details = details' := h
      rfl
  rw [hiff, hdetails]
  cases b.details with
  | none => simp
  | some raw => simpa using ErrorDetails.value_ofValue_iff _ raw

/-- The record of an invalid input with a hint that no field is for. -/
def hinted : ErrorBody :=
  ⟨"invalid_input", "invalid input",
    some (.object [("fields", .array []), ("hint", .string "x")])⟩

/-- The hint does not come back. -/
theorem not_body_ofBody_hinted : ¬ (ofBody hinted).body = hinted := by
  intro h
  have hdetails : (ofBody hinted).body.details = some (.object [("fields", .array [])]) := rfl
  rw [h] at hdetails
  cases hdetails

end ApiError

end CloudClient
