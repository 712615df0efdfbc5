import CloudClient.Error.Basic

/-!
# Layers of an error

Errors stand in each other: an error of the caller is handed on by one of the client, and a foreign
error names its cause. Whoever looks for an API error has to find it wherever it stands. The search
is made of two walks. The outer one goes from cause to cause; but a layer that only hands an error
on names the cause of that error, so the outer walk steps over what such a layer holds. The inner
one takes these layers off.

* `AnyError.HasLayer` — what stands in an error, by both ways of standing in it.
* `AnyError.Walk` — the errors that the outer walk comes to.
* `AnyError.Walk.hasLayer_iff` — both walks together come to every layer.
* `AnyError.hasCode_iff_hasLayer` — so an API error is found exactly if it is there, and the walk
  ends.
-/

namespace CloudClient.AnyError

/-! ## Layers -/

/-- The cause that an error names, if the client can see one at all: the errors that are made of a
failed round trip or of a bad URL name that as a foreign error. -/
def source? : AnyError → Option AnyError
  | .client (.network cause) => some (.foreign cause.text)
  | .client (.invalidUrl cause) => some (.foreign cause.text)
  | .client (.custom cause) => cause.source?
  | .wrapped _ cause => some cause
  | _ => none

/-- The errors that can be reached in an error, through what it hands on and through the causes that
are named. -/
inductive HasLayer : AnyError → AnyError → Prop
  /-- the error itself -/
  | self (e : AnyError) : HasLayer e e
  /-- a layer of the error that is handed on -/
  | held {cause layer : AnyError} (h : HasLayer cause layer) :
      HasLayer (.client (.custom cause)) layer
  /-- a layer of the cause -/
  | source {e cause layer : AnyError} (hcause : e.source? = some cause)
      (h : HasLayer cause layer) : HasLayer e layer

/-- The error is an API error with this code, on its own or as an error of the client. -/
inductive IsApi (code : ErrorCode) : AnyError → Prop
  | client {cause : ApiError} (h : cause.code = code) : IsApi code (.client (.api cause))
  | plain {cause : ApiError} (h : cause.code = code) : IsApi code (.api cause)

/-- What the error hands on, layer by layer; the inner walk comes to these. -/
inductive Holds : AnyError → AnyError → Prop
  | self (e : AnyError) : Holds e e
  | held {cause layer : AnyError} (h : Holds cause layer) : Holds (.client (.custom cause)) layer

/-- The outer walk: from each error to the cause that it names, up to one that names none. -/
inductive Walk : AnyError → List AnyError → Prop
  | last {e : AnyError} (h : e.source? = none) : Walk e [e]
  | more {e cause : AnyError} {rest : List AnyError} (h : e.source? = some cause)
      (hrest : Walk cause rest) : Walk e (e :: rest)

variable {e cause layer : AnyError} {code : ErrorCode}

/-- An error is one that hands another on, one that a foreign error wraps, or neither; for the
former two the errors in them come first. -/
@[elab_as_elim]
theorem layerRec {motive : AnyError → Prop}
    (custom : ∀ cause, motive cause → motive (.client (.custom cause)))
    (wrapped : ∀ text cause, motive cause → motive (.wrapped text cause))
    (leaf : ∀ e, (∀ cause, e ≠ .client (.custom cause)) → (∀ text cause, e ≠ .wrapped text cause) →
      motive e) : ∀ e, motive e
  | .client (.custom cause) => custom cause (layerRec custom wrapped leaf cause)
  | .wrapped text cause => wrapped text cause (layerRec custom wrapped leaf cause)
  | .api _ | .foreign _ => leaf _ nofun nofun
  | .client (.network _) | .client (.status _) | .client (.api _) | .client (.action _)
  | .client (.actionsNotFound _) | .client (.undecodable ..) | .client (.configuration _)
  | .client (.unwritable _) | .client (.invalidUrl _) | .client (.ended _) => leaf _ nofun nofun

/-! ## One step of each walk -/

/-- Only an error that hands another on has layers to take off. -/
theorem bare_of_ne (h : ∀ cause, e ≠ .client (.custom cause)) : e.bare = e := by
  rw [bare]
  exact h

/-- The error that is handed on names the cause. -/
theorem cause?_custom (cause : AnyError) : (client (.custom cause)).cause? = cause.cause? := by
  rw [cause?, cause?, bare]

theorem api?_custom (cause : AnyError) : (client (.custom cause)).api? = cause.api? := by
  rw [api?, api?, bare]

/-- The causes that the client can see are those that it looks at, but for foreign errors without a
cause. -/
theorem source?_eq_or (e : AnyError) :
    e.source? = e.cause? ∨ (e.cause? = none ∧ ∃ text, e.source? = some (.foreign text)) := by
  induction e using layerRec with
  | custom cause ih => rwa [cause?_custom, source?]
  | wrapped text cause => exact .inl rfl
  | leaf e hcustom hwrapped =>
    have hnone : e.cause? = none := by
      rw [cause?, bare_of_ne hcustom]
      split
      · exact absurd rfl (hwrapped _ _)
      · rfl
    rw [hnone]
    fun_cases source? e with
    | case1 cause => exact .inr ⟨rfl, cause.text, rfl⟩
    | case2 cause => exact .inr ⟨rfl, cause.text, rfl⟩
    | case3 cause => exact absurd rfl (hcustom cause)
    | case4 text cause => exact absurd rfl (hwrapped text cause)
    | case5 => exact .inl rfl

/-- **The inner walk** comes to all that is handed on. -/
theorem exists_api?_iff_holds :
    (∃ cause, e.api? = some cause ∧ cause.code = code) ↔
      ∃ layer, e.Holds layer ∧ layer.IsApi code := by
  induction e using layerRec with
  | custom cause ih =>
    rw [api?_custom, ih]
    constructor
    · rintro ⟨layer, hholds, hapi⟩
      exact ⟨layer, .held hholds, hapi⟩
    · rintro ⟨layer, hholds, hapi⟩
      cases hholds with
      | self => cases hapi
      | held hholds => exact ⟨layer, hholds, hapi⟩
  | wrapped text cause =>
    constructor
    · rintro ⟨_, h, -⟩
      cases h
    · rintro ⟨layer, ⟨⟩, ⟨⟩⟩
  | leaf e hcustom _ =>
    rw [api?, bare_of_ne hcustom]
    constructor
    · rintro ⟨cause, h, hcode⟩
      refine ⟨e, .self e, ?_⟩
      split at h
      · obtain rfl := Option.some.inj h
        exact .client hcode
      · obtain rfl := Option.some.inj h
        exact .plain hcode
      · cases h
    · rintro ⟨layer, hholds, hapi⟩
      cases hholds with
      | self =>
        cases hapi with
        | client hcode => exact ⟨_, rfl, hcode⟩
        | plain hcode => exact ⟨_, rfl, hcode⟩
      | held => exact absurd rfl (hcustom _)

/-- The search, one step of the outer walk at a time. -/
theorem hasCode_iff_source :
    e.hasCode code = true ↔ (∃ cause, e.api? = some cause ∧ cause.code = code) ∨
      ∃ cause, e.source? = some cause ∧ cause.hasCode code = true := by
  have hstep : e.hasCode code = true ↔ (∃ cause, e.api? = some cause ∧ cause.code = code) ∨
      ∃ cause, e.cause? = some cause ∧ cause.hasCode code = true := by
    have hhere : (e.api?.map (·.code == code)).getD false = true ↔
        ∃ cause, e.api? = some cause ∧ cause.code = code := by
      cases e.api? <;> simp
    rw [hasCode, Bool.or_eq_true, hhere]
    refine or_congr_right ?_
    split
    · rename_i cause hcause
      simp [hcause]
    · rename_i hnone
      simp [hnone]
  have hforeign : ∀ text, (foreign text).hasCode code = false := fun text => by
    rw [hasCode]
    rfl
  rw [hstep]
  rcases source?_eq_or e with heq | ⟨hnone, text, hsome⟩
  · rw [heq]
  · simp [hnone, hsome, hforeign]

/-- A layer is handed on, or it is one of the cause. -/
theorem hasLayer_iff_source :
    e.HasLayer layer ↔
      e.Holds layer ∨ ∃ cause, e.source? = some cause ∧ cause.HasLayer layer := by
  constructor
  · intro h
    induction h with
    | self e => exact .inl (.self e)
    | held _ ih => exact ih.imp_left .held
    | source hcause h => exact .inr ⟨_, hcause, h⟩
  · rintro (h | ⟨cause, hcause, h⟩)
    · induction h with
      | self e => exact .self e
      | held _ ih => exact .held ih
    · exact .source hcause h

/-! ## Whole walks -/

namespace Walk

variable {stops stops' : List AnyError}

/-- **Both walks come to every layer**, and to nothing else: what an error of the outer walk hands
on is all that the outer walk steps over. -/
theorem hasLayer_iff (h : e.Walk stops) : e.HasLayer layer ↔ ∃ stop ∈ stops, stop.Holds layer := by
  induction h with
  | last h =>
    rw [hasLayer_iff_source]
    simp [h]
  | more h _ ih =>
    rw [hasLayer_iff_source]
    simp [h, ih]

/-- The search looks at the errors of the outer walk. -/
theorem hasCode_iff (h : e.Walk stops) :
    e.hasCode code = true ↔
      ∃ stop ∈ stops, ∃ cause, stop.api? = some cause ∧ cause.code = code := by
  induction h with
  | last h =>
    rw [hasCode_iff_source]
    simp [h]
  | more h _ ih =>
    rw [hasCode_iff_source]
    simp [h, ih]

theorem unique (h : e.Walk stops) (h' : e.Walk stops') : stops = stops' := by
  induction h generalizing stops' with
  | last h =>
    cases h' with
    | last => rfl
    | more h' => cases h.symm.trans h'
  | more h _ ih =>
    cases h' with
    | last h' => cases h.symm.trans h'
    | more h' hrest' =>
      obtain rfl := Option.some.inj (h.symm.trans h')
      rw [ih hrest']

end Walk

/-- The outer walk ends. -/
theorem exists_walk (e : AnyError) : ∃ stops, e.Walk stops := by
  induction e using layerRec with
  | custom cause ih =>
    obtain ⟨stops, h⟩ := ih
    cases h with
    | last h => exact ⟨_, .last h⟩
    | more h hrest => exact ⟨_, .more h hrest⟩
  | wrapped text cause ih =>
    obtain ⟨stops, h⟩ := ih
    exact ⟨_, .more rfl h⟩
  | leaf e hcustom hwrapped =>
    cases hsource : e.source? with
    | none => exact ⟨_, .last hsource⟩
    | some cause =>
      rcases source?_eq_or e with heq | ⟨-, text, hforeign⟩
      · rw [hsource, cause?, bare_of_ne hcustom] at heq
        split at heq
        · exact absurd rfl (hwrapped _ _)
        · cases heq
      · obtain rfl := Option.some.inj (hsource.symm.trans hforeign)
        exact ⟨_, .more hsource (.last rfl)⟩

/-- **An API error is found wherever it stands.** An error counts as one with a code exactly if one
of its layers is an API error with this code, on its own or as an error of the client; a layer is
what can be reached through errors that are handed on and through causes that are named, in any
order and to any depth. The search for it ends: there is one walk from cause to cause, it has
finitely many errors, and the code is found exactly if what one of them hands on in the end is an
API error with it. -/
theorem hasCode_iff_hasLayer (code : ErrorCode) (e : AnyError) :
    (e.hasCode code = true ↔ ∃ layer, e.HasLayer layer ∧ layer.IsApi code) ∧
      ∃ stops, (∀ stops', e.Walk stops' ↔ stops' = stops) ∧
        (e.hasCode code = true ↔
          ∃ stop ∈ stops, ∃ cause, stop.api? = some cause ∧ cause.code = code) := by
  obtain ⟨stops, hwalk⟩ := e.exists_walk
  refine ⟨?_, stops, fun stops' => ⟨fun h => h.unique hwalk, ?_⟩, hwalk.hasCode_iff⟩
  · rw [hwalk.hasCode_iff]
    simp only [exists_api?_iff_holds, hwalk.hasLayer_iff]
    constructor
    · rintro ⟨stop, hstop, layer, hholds, hapi⟩
      exact ⟨layer, ⟨stop, hstop, hholds⟩, hapi⟩
    · rintro ⟨layer, ⟨stop, hstop, hholds⟩, hapi⟩
      exact ⟨stop, hstop, layer, hholds, hapi⟩
  · rintro rfl
    exact hwalk

/-- The code is found under a foreign error that an error of the client hands on, which another
foreign error has for its cause. -/
example :
    let locked : AnyError := .client (.api ⟨.locked, "locked", none, none⟩)
    (wrapped "outer" (.client (.custom (.wrapped "inner" locked)))).hasCode .locked = true := by
  cbv

end CloudClient.AnyError
