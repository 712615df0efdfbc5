import CloudClient.Json.Tree
import CloudClient.Proofs.JsonTokens

/-!
# Which texts are JSON

A text is valid JSON if it spells the tokens of a tree. Here it is shown that just these texts are
read, each as the tree that it spells; so a text spells one tree at most.

The stack of the reader stands for the part of the text that is behind: `Frame.tokens` says which
tokens have opened a container and filled it so far.

* `Tree.value_tokens` — after the tokens of a tree, the reader goes on with this tree.
* `Tree.value_sound` — whatever is read, the tokens behind and those ahead are its tokens.
* `Tree.parse?_eq_some_iff` — the texts that are read.
-/

namespace CloudClient.Json.Tree

/-! ## Tokens of trees -/

section Separated

open Token (Separated)

variable {t : Token} {ts us : List Token}

theorem separated_cons (ht : t.isWord = false) (h : Separated ts) : Separated (t :: ts) :=
  List.IsChain.cons h fun u _ hword => by rw [ht] at hword; cases hword

theorem separated_append (h : Separated ts) (ht : t.isPunctuation = true) (hus : Separated us) :
    Separated (ts ++ t :: us) := by
  have hword : t.isWord = false := by
    cases t with
    | null | bool | number => cases ht
    | _ => rfl
  refine List.isChain_append.2 ⟨h, separated_cons hword hus, ?_⟩
  rintro _ _ _ ⟨⟩ _
  exact ht

/-- In a tree every word is followed by punctuation. -/
theorem separated_tokens (t : Tree) : Separated t.tokens := by
  induction t using tokens.induct
    (motive_2 := fun members => Separated (memberTokens members))
    (motive_3 := fun items => Separated (itemTokens items)) with
  | case1 | case2 | case3 | case4 => exact List.isChain_singleton _
  | case5 items ih =>
    rw [tokens]
    exact separated_cons rfl (separated_append ih rfl List.isChain_nil)
  | case6 members ih =>
    rw [tokens]
    exact separated_cons rfl (separated_append ih rfl List.isChain_nil)
  | case7 => exact List.isChain_nil
  | case8 t ih => exact ih
  | case9 t u rest iht ihrest =>
    rw [itemTokens]
    exact separated_append iht rfl ihrest
  | case10 => exact List.isChain_nil
  | case11 name t ih => exact separated_cons rfl (separated_cons rfl ih)
  | case12 name t m rest iht ihrest =>
    rw [memberTokens]
    exact separated_cons rfl (separated_cons rfl (separated_append iht rfl ihrest))

end Separated

/-! ## Reading the tokens of a tree -/

section Values

variable {stack : List Frame} {s rest : List Token}

/-- No value starts with the end of an array. -/
theorem tokens_append_ne_endArray (t : Tree) (s : List Token) :
    t.tokens ++ rest ≠ .endArray :: s := by
  cases t <;> simp [tokens]

theorem itemTokens_append_ne_endArray (t : Tree) (items : List Tree) (s : List Token) :
    itemTokens (t :: items) ++ rest ≠ .endArray :: s := by
  cases items with
  | nil =>
    rw [itemTokens]
    exact tokens_append_ne_endArray t s
  | cons u items =>
    rw [itemTokens, List.append_assoc]
    exact tokens_append_ne_endArray t s

/-- Elements do not start like a member. -/
theorem itemTokens_append_ne_name (t : Tree) (items : List Tree) (name : Bytes) (s : List Token) :
    itemTokens (t :: items) ++ .endArray :: rest ≠ .string name :: .colon :: s := by
  cases items with
  | nil => cases t <;> simp [itemTokens, tokens]
  | cons u items => cases t <;> simp [itemTokens, tokens]

/-- Members start with a name. -/
theorem exists_of_memberTokens (m : Bytes × Tree) (members : List (Bytes × Tree)) :
    ∃ name s, memberTokens (m :: members) = .string name :: .colon :: s := by
  obtain ⟨name, t⟩ := m
  cases members <;> exact ⟨name, _, rfl⟩

/-- An array is read on after its bracket, unless it ends there. -/
theorem value_beginArray (h : ∀ s', s ≠ .endArray :: s') :
    value stack (.beginArray :: s) = value (.items [] :: stack) s := by
  rw [value]
  exact h

/-- An array is read on after a comma, unless a member follows. -/
theorem closed_comma {before : List Tree} {t : Tree}
    (h : ∀ name s', s ≠ .string name :: .colon :: s') :
    closed (.items before :: stack) t (.comma :: s) = value (.items (t :: before) :: stack) s := by
  rw [closed]
  exact h

/-- **The tokens of a tree are read as this tree**, whatever follows them. -/
theorem value_tokens (t : Tree) (stack : List Frame) (rest : List Token) :
    value stack (t.tokens ++ rest) = closed stack t rest := by
  -- for elements and members that are still to come, in a container that holds some already
  induction t using tokens.induct
    (motive_2 := fun members => ∀ before stack rest name s,
      memberTokens members ++ .endObject :: rest = .string name :: .colon :: s →
      value (.members before name :: stack) s =
        closed stack (.object (before.reverse ++ members)) rest)
    (motive_3 := fun items => ∀ before stack rest, items ≠ [] →
      value (.items before :: stack) (itemTokens items ++ .endArray :: rest) =
        closed stack (.array (before.reverse ++ items)) rest)
    generalizing stack rest with
  | case1 => rfl
  | case2 b => rfl
  | case3 n => rfl
  | case4 q => rfl
  | case5 items ih =>
    cases items with
    | nil => rfl
    | cons t items =>
      rw [tokens, List.cons_append, List.cons_append, List.append_assoc, List.singleton_append,
        value_beginArray (itemTokens_append_ne_endArray t items),
        ih [] stack rest (List.cons_ne_nil _ _)]
      rfl
  | case6 members ih =>
    cases members with
    | nil => rfl
    | cons m members =>
      obtain ⟨name, s, hstart⟩ := exists_of_memberTokens m members
      have hs : memberTokens (m :: members) ++ .endObject :: rest =
          .string name :: .colon :: (s ++ .endObject :: rest) := by
        rw [hstart]
        rfl
      rw [tokens, List.cons_append, List.cons_append, List.append_assoc, List.singleton_append, hs,
        value, ih [] stack rest name _ hs]
      rfl
  | case7 => exact absurd rfl ‹_›
  | case8 t ih =>
    rename_i before stack rest _
    rw [itemTokens, ih, closed, List.reverse_cons]
  | case9 t u items iht ih =>
    rename_i before stack rest _
    rw [itemTokens, List.append_assoc, List.cons_append, iht,
      closed_comma (itemTokens_append_ne_name u items), ih _ _ _ (List.cons_ne_nil _ _)]
    simp
  | case10 =>
    rename_i h
    cases h
  | case11 name t ih =>
    rename_i before stack rest name' s h
    obtain ⟨rfl, rfl⟩ : name = name' ∧ t.tokens ++ .endObject :: rest = s := by
      simpa [memberTokens] using h
    rw [ih, closed, List.reverse_cons]
  | case12 name t m members iht ih =>
    rename_i before stack rest name' s h
    obtain ⟨next, after, hstart⟩ := exists_of_memberTokens m members
    have hs : memberTokens (m :: members) ++ .endObject :: rest =
        .string next :: .colon :: (after ++ .endObject :: rest) := by
      rw [hstart]
      rfl
    obtain ⟨rfl, rfl⟩ : name = name' ∧
        t.tokens ++ .comma :: .string next :: .colon :: (after ++ .endObject :: rest) = s := by
      simpa [memberTokens, hstart] using h
    rw [iht, closed, ih _ _ _ _ _ hs]
    simp

/-! ## What has been read -/

/-- The tokens of elements, each with a comma behind it. -/
def itemsBehind (items : List Tree) : List Token := items.flatMap fun t => t.tokens ++ [.comma]

/-- The tokens of members, each with a comma behind it. -/
def membersBehind (members : List (Bytes × Tree)) : List Token :=
  members.flatMap fun m => .string m.1 :: .colon :: m.2.tokens ++ [.comma]

/-- The tokens that have opened a container and filled it so far. -/
def Frame.tokens : Frame → List Token
  | .items before => .beginArray :: itemsBehind before.reverse
  | .members before name =>
    .beginObject :: membersBehind before.reverse ++ [.string name, .colon]

/-- The tokens in front of a value inside the open containers. -/
def behind (stack : List Frame) : List Token := stack.reverse.flatMap Frame.tokens

theorem behind_cons (frame : Frame) (stack : List Frame) :
    behind (frame :: stack) = behind stack ++ frame.tokens := by
  simp [behind]

theorem itemTokens_concat (items : List Tree) (t : Tree) :
    itemTokens (items ++ [t]) = itemsBehind items ++ t.tokens := by
  induction items with
  | nil => rfl
  | cons u items ih =>
    cases items with
    | nil => simp [itemTokens, itemsBehind]
    | cons v items =>
      rw [List.cons_append, List.cons_append, itemTokens, ← List.cons_append, ih]
      simp [itemsBehind]

theorem memberTokens_concat (members : List (Bytes × Tree)) (name : Bytes) (t : Tree) :
    memberTokens (members ++ [(name, t)]) =
      membersBehind members ++ .string name :: .colon :: t.tokens := by
  induction members with
  | nil => rfl
  | cons m members ih =>
    cases members with
    | nil => simp [memberTokens, membersBehind]
    | cons m' members =>
      rw [List.cons_append, List.cons_append, memberTokens, ← List.cons_append, ih]
      simp [membersBehind]

/-- **Whatever is read, the tokens behind and those ahead are its tokens.** -/
theorem value_sound {t : Tree} (h : value stack s = some t) : t.tokens = behind stack ++ s := by
  induction stack, s using value.induct
    (motive_2 := fun stack u s => ∀ t, closed stack u s = some t →
      t.tokens = behind stack ++ (u.tokens ++ s))
    generalizing t with
  | case1 stack s ih => exact ih t h
  | case2 stack b s ih => exact ih t h
  | case3 stack n s ih => exact ih t h
  | case4 stack q s ih => exact ih t h
  | case5 stack s ih => exact ih t h
  | case6 stack s hs ih =>
    rw [value_beginArray fun s' heq => hs s' heq] at h
    rw [ih h, behind_cons]
    simp [Frame.tokens, itemsBehind]
  | case7 stack s ih => exact ih t h
  | case8 stack name s ih =>
    rw [value] at h
    rw [ih h, behind_cons]
    simp [Frame.tokens, membersBehind]
  | case9 s stack h₁ h₂ h₃ h₄ h₅ h₆ h₇ h₈ =>
    rw [value] at h
    cases h
    all_goals assumption
  | case10 stack u hempty =>
    rename_i t h
    obtain rfl := List.isEmpty_iff.1 hempty
    obtain rfl := Option.some.inj h
    rw [behind, List.reverse_nil, List.flatMap_nil, List.nil_append, List.append_nil]
  | case11 stack u hfull =>
    rename_i t h
    rw [closed, if_neg hfull] at h
    cases h
  | case12 u name s before last stack ih =>
    rename_i t h
    rw [closed] at h
    rw [ih h, behind_cons, behind_cons]
    simp [Frame.tokens, membersBehind]
  | case14 u s hs before stack ih =>
    rename_i t h
    rw [closed_comma hs] at h
    rw [ih h, behind_cons, behind_cons]
    simp [Frame.tokens, itemsBehind]
  | case16 u s before stack ih =>
    rename_i t h
    rw [closed] at h
    rw [ih _ h, behind_cons, List.reverse_cons, tokens, itemTokens_concat]
    simp [Frame.tokens]
  | case18 u s before last stack ih =>
    rename_i t h
    rw [closed] at h
    rw [ih _ h, behind_cons, List.reverse_cons, tokens, memberTokens_concat]
    simp [Frame.tokens]
  | case13 | case15 | case17 | case19 | case20 =>
    -- the token does not fit the innermost open container
    rename_i t h
    rw [closed] at h
    · cases h
    all_goals assumption

/-- **A list of tokens is read as the tree whose tokens it is.** -/
theorem ofTokens?_eq_some_iff {t : Tree} : ofTokens? s = some t ↔ s = t.tokens := by
  rw [ofTokens?]
  constructor
  · intro h
    rw [value_sound h]
    rfl
  · rintro rfl
    have hread := t.value_tokens [] []
    rw [List.append_nil] at hread
    rw [hread]
    rfl

end Values

/-- **The texts that are read as a tree** are those that spell its tokens. -/
theorem parse?_eq_some_iff {t : Tree} {s : Bytes} :
    parse? s = some t ↔ Token.Spells t.tokens s := by
  rw [parse?, Option.bind_eq_bind, Option.bind_eq_some_iff]
  constructor
  · rintro ⟨ts, hlex, htree⟩
    obtain rfl := ofTokens?_eq_some_iff.1 htree
    exact Token.lex_sound hlex
  · intro h
    exact ⟨t.tokens, Token.lex_complete h t.separated_tokens, ofTokens?_eq_some_iff.2 rfl⟩

end CloudClient.Json.Tree
