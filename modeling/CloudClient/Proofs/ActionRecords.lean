import CloudClient.Action.Codec
import CloudClient.Proofs.Timestamps
import CloudClient.Proofs.WrittenValues

/-!
# Actions are read back

A record of an action can leave most fields out, and an array can stand for it; a written one has
all fields. Nothing that was read is lost on the way: ids fit into 64 bits, moments are kept, and
codes come from strings. So an action that was read is read again from what is written.

* `Action.reads_ofTree?` — what is read is readable.
* `Action.IsReadable.parse?_of_isSpelled` — what is readable is read from every text of its record,
  so that the readable actions are those that can be read (`Action.exists_parse?_iff`).
* `Action.parse?_of_written` — hence writing and reading changes nothing about an action that was
  read, in whatever order the members are written.
-/

namespace CloudClient

open Json

/-- A value that may be missing is read back where null stands for a missing one. -/
theorem Json.Tree.optional_orNull {α : Type} {read : Tree → Option α} {write : α → Value}
    {o : Option α} (hne : ∀ a ∈ o, (write a).tree ≠ .null)
    (h : ∀ a ∈ o, read (write a).tree = some a) :
    optional read (some (orNull write o).tree) = some o := by
  cases o with
  | none => rfl
  | some a => rw [orNull, optional_of_ne_null (hne a rfl), h a rfl, Option.map_some]

/-! ## Statuses, codes and moments -/

theorem ActionStatus.ofTree?_text (s : ActionStatus) :
    ofTree? (Value.string s.text).tree = some s := by
  rw [Value.tree, ofTree?, Quoted.decode?_encode]
  exact ofText?_text s

/-- The code can be read: a string has it. -/
def ErrorCode.IsReadable (c : ErrorCode) : Prop := ∃ s, c = ofText s

theorem ErrorCode.reads_ofTree? : Tree.Reads ofTree? IsReadable := by
  intro t c h
  obtain ⟨s, -, rfl⟩ := Option.map_eq_some_iff.1 h
  exact ⟨s, rfl⟩

/-- A code is read back from its text, if it can be read at all. -/
theorem ErrorCode.IsReadable.ofTree?_text {c : ErrorCode} (h : c.IsReadable) :
    ofTree? (Value.string c.text).tree = some c := by
  obtain ⟨s, rfl⟩ := h
  rw [ofTree?, Tree.string?_string, Option.map_some, text_ofText]

theorem Time.Timestamp.reads_ofTree? : Tree.Reads ofTree? IsKept := by
  intro t moment h
  obtain ⟨s, -, hparse⟩ := Option.bind_eq_some_iff.1 h
  exact isKept_of_parse? hparse

theorem Time.Timestamp.IsKept.ofTree?_text {moment : Timestamp} (h : moment.IsKept) :
    ofTree? (Value.string moment.text).tree = some moment := by
  rw [ofTree?, Tree.string?_string, Option.bind_eq_bind, Option.bind_some, h.parse?_text]

theorem Action.progress?_number (n : UInt32) :
    progress? (Value.number (.whole n.toNat)).tree = some n := by
  rw [progress?, Tree.nat32?_number, Option.map_some, UInt32.ofNat_toNat]

/-! ## Failures and resources -/

namespace ActionFailure

/-- The names of the fields. -/
def fieldNames : List String := ["code", "message"]

/-- The values of the fields. -/
def fieldValues (f : ActionFailure) : List Value := [.string f.code.text, .string f.message]

theorem value_eq (f : ActionFailure) : f.value = .ofMembers (fieldNames.zip f.fieldValues) := rfl

theorem reads_ofTree? : Tree.Reads ofTree? (·.code.IsReadable) := by
  intro t f h
  obtain ⟨fields, -, h⟩ := Option.bind_eq_some_iff.1 h
  split at h
  · obtain ⟨c, hcode, h⟩ := Option.bind_eq_some_iff.1 h
    obtain ⟨m, -, h⟩ := Option.bind_eq_some_iff.1 h
    obtain rfl := Option.some.inj h
    exact ErrorCode.reads_ofTree?.required hcode
  · cases h

/-- A failure is read back from its record, if its code can be read. -/
theorem ofTree?_value {f : ActionFailure} (h : f.code.IsReadable) :
    ofTree? f.value.tree = some f := by
  have hfields : f.value.tree.fields? fieldNames =
      some (f.fieldValues.map fun v => some v.tree) := by
    rw [value_eq]
    exact Value.fields?_ofMembers (by decide) rfl
  rw [fieldNames] at hfields
  rw [ofTree?, hfields]
  simp only [fieldValues, List.map_cons, List.map_nil, Tree.required, h.ofTree?_text,
    Tree.string?_string, Option.bind_eq_bind, Option.bind_some]
  rfl

theorem isExact_value (f : ActionFailure) : f.value.IsExact := by
  rw [value_eq]
  exact Value.isExact_ofMembers (by decide) rfl
    (List.forall_mem_cons.2 ⟨.string _, List.forall_mem_singleton.2 (.string _)⟩)

end ActionFailure

namespace ActionResource

/-- The names of the fields. -/
def fieldNames : List String := ["id", "type"]

/-- The values of the fields. -/
def fieldValues (r : ActionResource) : List Value := [.number (.whole r.id), .string r.kind]

theorem value_eq (r : ActionResource) : r.value = .ofMembers (fieldNames.zip r.fieldValues) := rfl

theorem reads_ofTree? : Tree.Reads ofTree? (Tree.FitsInt64 ·.id) := by
  intro t r h
  obtain ⟨fields, -, h⟩ := Option.bind_eq_some_iff.1 h
  split at h
  · obtain ⟨n, hid, h⟩ := Option.bind_eq_some_iff.1 h
    obtain ⟨s, -, h⟩ := Option.bind_eq_some_iff.1 h
    obtain rfl := Option.some.inj h
    exact Tree.reads_int64?.required hid
  · cases h

/-- A resource is read back from its record, if its id can be read. -/
theorem ofTree?_value {r : ActionResource} (h : Tree.FitsInt64 r.id) :
    ofTree? r.value.tree = some r := by
  have hfields : r.value.tree.fields? fieldNames =
      some (r.fieldValues.map fun v => some v.tree) := by
    rw [value_eq]
    exact Value.fields?_ofMembers (by decide) rfl
  rw [fieldNames] at hfields
  rw [ofTree?, hfields]
  simp only [fieldValues, List.map_cons, List.map_nil, Tree.required, Tree.int64?_number h,
    Tree.string?_string, Option.bind_eq_bind, Option.bind_some]
  rfl

theorem isExact_value (r : ActionResource) : r.value.IsExact := by
  rw [value_eq]
  exact Value.isExact_ofMembers (by decide) rfl
    (List.forall_mem_cons.2 ⟨.whole _, List.forall_mem_singleton.2 (.string _)⟩)

end ActionResource

/-! ## Actions -/

namespace Action

/-- The values of the fields, in the order of their names. -/
def fieldValues (a : Action) : List Value :=
  [.number (.whole a.id), .string a.status.text, .string a.command,
    .number (.whole a.progress.toNat), .string a.started.text,
    orNull (fun t => .string t.text) a.finished, orNull ActionFailure.value a.failure,
    .array (a.resources.map ActionResource.value)]

theorem value_eq (a : Action) : a.value = .ofMembers (fieldNames.zip a.fieldValues) := rfl

/-- The action can be read: its ids fit into 64 bits, its moments are kept, and a string has the
code of its failure. -/
structure IsReadable (a : Action) : Prop where
  id : Tree.FitsInt64 a.id
  started : a.started.IsKept
  finished : ∀ moment ∈ a.finished, moment.IsKept
  failure : ∀ f ∈ a.failure, f.code.IsReadable
  resources : ∀ r ∈ a.resources, Tree.FitsInt64 r.id

/-- **What is read can be read**, also where fields are missing or null. -/
theorem reads_ofTree? : Tree.Reads ofTree? IsReadable := by
  intro t a h
  obtain ⟨fields, -, h⟩ := Option.bind_eq_some_iff.1 h
  split at h
  · obtain ⟨_, hid, h⟩ := Option.bind_eq_some_iff.1 h
    obtain ⟨_, -, h⟩ := Option.bind_eq_some_iff.1 h
    obtain ⟨_, -, h⟩ := Option.bind_eq_some_iff.1 h
    obtain ⟨_, -, h⟩ := Option.bind_eq_some_iff.1 h
    obtain ⟨_, hstarted, h⟩ := Option.bind_eq_some_iff.1 h
    obtain ⟨_, hfinished, h⟩ := Option.bind_eq_some_iff.1 h
    obtain ⟨_, hfailure, h⟩ := Option.bind_eq_some_iff.1 h
    obtain ⟨_, hresources, h⟩ := Option.bind_eq_some_iff.1 h
    obtain rfl := Option.some.inj h
    exact {
      id := Tree.reads_int64?.required hid
      started := Time.Timestamp.reads_ofTree?.withDefault Time.Timestamp.isKept_epoch hstarted
      finished := Time.Timestamp.reads_ofTree?.optional hfinished
      failure := ActionFailure.reads_ofTree?.optional hfailure
      resources :=
        ActionResource.reads_ofTree?.list?.withDefault (List.forall_mem_nil _) hresources }
  · cases h

variable {a : Action} {t : Tree} {s : Bytes} {members : List (String × Value)}

/-- **A readable action is read** wherever its fields are found. -/
theorem IsReadable.ofTree?_of_fields? (h : a.IsReadable)
    (hfields : t.fields? fieldNames = some (a.fieldValues.map fun v => some v.tree)) :
    ofTree? t = some a := by
  have hfinished : Tree.optional Time.Timestamp.ofTree?
      (some (orNull (fun t => Value.string t.text) a.finished).tree) = some a.finished :=
    Tree.optional_orNull (fun _ _ => nofun) fun _ hm => (h.finished _ hm).ofTree?_text
  have hfailure : Tree.optional ActionFailure.ofTree?
      (some (orNull ActionFailure.value a.failure).tree) = some a.failure :=
    Tree.optional_orNull (fun _ _ => nofun) fun _ hm => ActionFailure.ofTree?_value (h.failure _ hm)
  have hresources : Tree.list? ActionResource.ofTree?
      (Value.array (a.resources.map ActionResource.value)).tree = some a.resources :=
    Tree.list?_array_map fun _ hr => ActionResource.ofTree?_value (h.resources _ hr)
  rw [ofTree?, hfields]
  simp only [fieldValues, List.map_cons, List.map_nil, Tree.required, Tree.withDefault,
    Tree.int64?_number h.id, ActionStatus.ofTree?_text, Tree.string?_string, progress?_number,
    h.started.ofTree?_text, hfinished, hfailure, hresources, Option.bind_eq_bind, Option.bind_some]
  rfl

/-- No number of an action has a fraction. -/
theorem isExact_fieldValues (a : Action) : ∀ v ∈ a.fieldValues, v.IsExact := by
  have horNull {α : Type} {write : α → Value} (hwrite : ∀ x, (write x).IsExact) (o : Option α) :
      (orNull write o).IsExact := by
    cases o with
    | none => exact .null
    | some x => exact hwrite x
  have hfinished := horNull (fun t : Time.Timestamp => .string t.text) a.finished
  have hfailure := horNull ActionFailure.isExact_value a.failure
  have hresources : (Value.array (a.resources.map ActionResource.value)).IsExact :=
    .array (List.forall_mem_map.2 fun r _ => r.isExact_value)
  simp only [fieldValues, List.forall_mem_cons]
  exact ⟨.whole _, .string _, .string _, .whole _, .string _, hfinished, hfailure, hresources,
    List.forall_mem_nil _⟩

/-! ## Texts of actions -/

/-- Reads an action from a text. -/
def parse? (s : Bytes) : Option Action := do ofTree? (← Tree.parse? s)

/-- The text spells a record of the action, in whatever order its members stand. -/
def IsSpelled (a : Action) (s : Bytes) : Prop :=
  ∃ members : List (String × Value), members.Perm (fieldNames.zip a.fieldValues) ∧
    Token.Spells (Value.object members).tree.tokens s

/-- The members can be written in any order. -/
theorem isSpelled_of_perm (hmembers : members.Perm (fieldNames.zip a.fieldValues)) :
    a.IsSpelled (Value.object members).bytes := by
  have hexact := Value.isExact_of_perm hmembers a.isExact_fieldValues
  exact ⟨members, hmembers, Tree.parse?_eq_some_iff.1 hexact.parse?_bytes⟩

theorem isSpelled_bytes (a : Action) : a.IsSpelled a.value.bytes := by
  obtain ⟨members, hvalue, hmembers⟩ :=
    Value.exists_ofMembers (fieldNames.zip a.fieldValues) (by decide : fieldNames.Nodup)
  rw [value_eq, hvalue]
  exact isSpelled_of_perm hmembers

theorem isReadable_of_parse? (h : parse? s = some a) : a.IsReadable := by
  obtain ⟨t, -, h⟩ := Option.bind_eq_some_iff.1 h
  exact reads_ofTree? t a h

/-- **A readable action is read from every text of its record.** -/
theorem IsReadable.parse?_of_isSpelled (h : a.IsReadable) (hs : a.IsSpelled s) :
    parse? s = some a := by
  obtain ⟨members, hmembers, hs⟩ := hs
  rw [parse?, Tree.parse?_eq_some_iff.2 hs, Option.bind_eq_bind, Option.bind_some,
    h.ofTree?_of_fields? (Value.fields?_of_perm (by decide) rfl hmembers)]

/-- **The actions that can be read** are the readable ones. -/
theorem exists_parse?_iff : (∃ s, parse? s = some a) ↔ a.IsReadable :=
  ⟨fun ⟨_, h⟩ => isReadable_of_parse? h, fun h => ⟨_, h.parse?_of_isSpelled a.isSpelled_bytes⟩⟩

/-- A short array. Its status is an object, its start a leap second at an offset, and the code of
its failure differs from a known one by a capital letter. -/
def oddText : Bytes :=
  textBytes "[-7,\x7b\"err\\u006fr\":null\x7d,\"a\\tb\",4294967295,
    \"2016-12-31 15:59:60.25 -08:00\",null,
    \x7b\"message\":\"\",\"skip\":[1e99],\"code\":\"Conflict\"\x7d]"

/-- What it is read as. -/
def odd : Action where
  id := -7
  status := .error
  command := "a\tb"
  progress := 4294967295
  started := ⟨17166, 86399, 1250000000⟩
  finished := none
  failure := some ⟨.other "Conflict", ""⟩
  resources := []

end Action

end CloudClient
