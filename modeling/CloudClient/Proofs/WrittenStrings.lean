import CloudClient.Json.Quoted
import CloudClient.Proofs.JsonTokens

/-!
# Strings are read back

A string is written with escapes for quotes, backslashes and control characters, and as UTF-8. Both
are undone character by character, whatever follows. None of the bytes that are written ends the
string, so that it can stand between quotes in a text.

* `Quoted.decode?_encode` — the text is read back.
* `Quoted.isQuoted_encode` — what is written is the inside of a string.
-/

namespace CloudClient

theorem Utf8.decode?_encode (s : List Char) : decode? (encode s) = some s := by
  rw [decode?, pieces_encode s _ (Nat.le_refl _)]
  induction s with
  | nil => rfl
  | cons c s ih => simp [ih]

namespace Json.Quoted

/-! ## Escapes -/

/-- How a character is written: with an escape of its own, with the number of a control character,
or as it is. -/
theorem escape_cases (c : Char) :
    (∃ e, Token.isSimpleEscape e = true ∧ simpleEscape? e = some c ∧ escape c = ['\\', e]) ∨
      (c.toNat < 0x20 ∧
        escape c = ['\\', 'u', '0', '0', hexDigit (c.toNat / 16), hexDigit (c.toNat % 16)]) ∨
      (¬ c.toNat < 0x20 ∧ c ≠ '"' ∧ c ≠ '\\' ∧ escape c = [c]) := by
  rw [escape.eq_def]
  split
  · exact .inl ⟨'"', by decide, rfl, rfl⟩
  · exact .inl ⟨'\\', by decide, rfl, rfl⟩
  · exact .inl ⟨'b', by decide, rfl, rfl⟩
  · exact .inl ⟨'f', by decide, rfl, rfl⟩
  · exact .inl ⟨'n', by decide, rfl, rfl⟩
  · exact .inl ⟨'r', by decide, rfl, rfl⟩
  · exact .inl ⟨'t', by decide, rfl, rfl⟩
  · rename_i hquote hbackslash _ _ _ _ _
    split
    · exact .inr (.inl ⟨‹_›, rfl⟩)
    · exact .inr (.inr ⟨‹_›, hquote, hbackslash, rfl⟩)

/-- Two hexadecimal digits denote the control character that they are written for. -/
theorem unit_hexDigit : ∀ n < 0x20,
    isLow n = false ∧ isHigh n = false ∧
      unit '0' '0' (hexDigit (n / 16)) (hexDigit (n % 16)) = n := by decide

/-- **A character is read back**, whatever follows. -/
theorem unescape?_escape (c : Char) (s : List Char) :
    unescape? (escape c ++ s) = (unescape? s).map (c :: ·) := by
  rcases escape_cases c with ⟨e, hsimple, he, hescape⟩ | ⟨hcontrol, hescape⟩ |
    ⟨-, -, hbackslash, hescape⟩ <;> rw [hescape]
  · have hunit : e ≠ 'u' := by
      rintro rfl
      exact absurd hsimple (by decide)
    rw [List.cons_append, List.singleton_append,
      unescape?.eq_4 _ _ fun _ _ _ _ _ h => (hunit h).elim, he]
  · obtain ⟨hlow, hhigh, hunit⟩ := unit_hexDigit c.toNat hcontrol
    simp only [List.cons_append, List.nil_append]
    rw [unescape?.eq_def]
    simp only [hunit, hlow, hhigh, Bool.false_eq_true, if_false, Char.ofNat_toNat]
  · rw [List.singleton_append, unescape?.eq_5]
    · exact fun _ _ _ _ _ h => absurd h hbackslash
    · exact fun _ _ h => absurd h hbackslash

/-- **A text is read back** from its escapes. -/
theorem unescape?_flatMap_escape (s : List Char) : unescape? (s.flatMap escape) = some s := by
  induction s with
  | nil => rfl
  | cons c s ih => rw [List.flatMap_cons, unescape?_escape, ih, Option.map_some]

/-- **A string is read back.** -/
theorem decode?_encode (s : String) : decode? (encode s) = some s := by
  rw [decode?, encode, Utf8.decode?_encode, Option.bind_eq_bind, Option.bind_some,
    unescape?_flatMap_escape, Option.bind_some, String.ofList_toList]
  rfl

/-! ## The inside of a string -/

variable {b : UInt8} {q r : Bytes}

/-- The byte stands for itself in a string. -/
def IsPlain (b : UInt8) : Prop :=
  Char.ofUInt8 b ≠ '"' ∧ Char.ofUInt8 b ≠ '\\' ∧ ¬ b < 0x20

theorem isQuoted_append_of_isPlain (hplain : ∀ b ∈ q, IsPlain b) (h : IsQuoted r) :
    IsQuoted (q ++ r) := by
  induction q with
  | nil => exact h
  | cons b q ih =>
    obtain ⟨⟨hquote, hescape, hcontrol⟩, hq⟩ := List.forall_mem_cons.1 hplain
    exact .plain hquote hescape hcontrol (ih hq)

/-- A byte stands for itself if its value is not one of those that do not. -/
theorem isPlain_of_toNat (hquote : b.toNat ≠ 34) (hescape : b.toNat ≠ 92)
    (hcontrol : 32 ≤ b.toNat) : IsPlain b := by
  refine ⟨fun h => hquote ?_, fun h => hescape ?_, fun h => ?_⟩
  · rw [Token.eq_byte h]
    rfl
  · rw [Token.eq_byte h]
    rfl
  · rw [UInt8.lt_iff_toNat_lt] at h
    exact absurd h (Nat.not_lt.2 hcontrol)

theorem isPlain_of_le (h : 0x80 ≤ b.toNat) : IsPlain b :=
  isPlain_of_toNat (by omega) (by omega) (by omega)

/-- The bytes of a character that is written as it is stand for themselves. -/
theorem isPlain_of_mem_utf8EncodeChar {c : Char} (hcontrol : ¬ c.toNat < 0x20) (hquote : c ≠ '"')
    (hescape : c ≠ '\\') (hb : b ∈ String.utf8EncodeChar c) : IsPlain b := by
  have htail : ∀ n, IsPlain (Utf8.tailByte n) := fun n =>
    isPlain_of_le (by rw [Utf8.toNat_tailByte]; omega)
  have hlead : ∀ n, 0x80 ≤ n → n < 0x100 → IsPlain (UInt8.ofNat n) := fun n hlow hhigh =>
    isPlain_of_le (by rw [UInt8.toNat_ofNat']; omega)
  rw [Utf8.utf8EncodeChar_eq] at hb
  split at hb
  · have hvalue : b.toNat = c.toNat := by
      rw [List.mem_singleton.1 hb, UInt8.toNat_ofNat']
      omega
    refine isPlain_of_toNat ?_ ?_ (by omega)
    · exact fun h => hquote (Char.toNat_inj.1 (hvalue.symm.trans h))
    · exact fun h => hescape (Char.toNat_inj.1 (hvalue.symm.trans h))
  split at hb
  · rcases List.mem_cons.1 hb with rfl | hb
    · exact hlead _ (by omega) (by omega)
    · exact List.mem_singleton.1 hb ▸ htail _
  split at hb
  · simp only [List.mem_cons, List.not_mem_nil, or_false] at hb
    rcases hb with rfl | rfl | rfl
    · exact hlead _ (by omega) (by omega)
    · exact htail _
    · exact htail _
  · simp only [List.mem_cons, List.not_mem_nil, or_false] at hb
    rcases hb with rfl | rfl | rfl | rfl
    · exact hlead _ (by omega) (by omega)
    · exact htail _
    · exact htail _
    · exact htail _

/-- A hexadecimal digit is one byte, and is known by it. -/
theorem hexDigit_byte : ∀ n < 16, (hexDigit n).toNat ≤ 0x7F ∧
    Token.isHexDigit (Char.ofUInt8 (Token.byte (hexDigit n))) = true := by decide

theorem toNat_le_of_isSimpleEscape {e : Char} (h : Token.isSimpleEscape e = true) :
    e.toNat ≤ 0x7F := by
  have hall : "\"\\/bfnrt".toList.all (fun e => e.toNat ≤ 0x7F) = true := rfl
  exact of_decide_eq_true (List.all_eq_true.1 hall e (List.contains_iff_mem.1 h))

/-- ASCII characters are written as one byte each. -/
theorem encode_cons_of_le {c : Char} (h : c.toNat ≤ 0x7F) (s : List Char) :
    Utf8.encode (c :: s) = Token.byte c :: Utf8.encode s := by
  rw [Utf8.encode, List.flatMap_cons, Token.utf8EncodeChar_of_le h]
  rfl

/-- What is written for a character goes on a string. -/
theorem isQuoted_escape_append (c : Char) (h : IsQuoted r) :
    IsQuoted (Utf8.encode (escape c) ++ r) := by
  rcases escape_cases c with ⟨e, hsimple, -, hescape⟩ | ⟨hcontrol, hescape⟩ |
    ⟨hcontrol, hquote, hbackslash, hescape⟩ <;> rw [hescape]
  · have hle := toNat_le_of_isSimpleEscape hsimple
    rw [encode_cons_of_le (by decide), encode_cons_of_le hle]
    exact .simple (by rwa [Token.ofUInt8_byte_of_le hle]) h
  · obtain ⟨hle, hdigit⟩ := hexDigit_byte (c.toNat / 16) (by omega)
    obtain ⟨hle', hdigit'⟩ := hexDigit_byte (c.toNat % 16) (by omega)
    rw [encode_cons_of_le (by decide), encode_cons_of_le (by decide), encode_cons_of_le (by decide),
      encode_cons_of_le (by decide), encode_cons_of_le hle, encode_cons_of_le hle', Utf8.encode_nil]
    exact .unit (by simpa using ⟨by decide, hdigit, hdigit'⟩) h
  · rw [Utf8.encode, List.flatMap_singleton]
    exact isQuoted_append_of_isPlain
      (fun b => isPlain_of_mem_utf8EncodeChar hcontrol hquote hbackslash) h

/-- **What is written is the inside of a string.** -/
theorem isQuoted_encode (s : String) : IsQuoted (encode s) := by
  rw [encode]
  induction s.toList with
  | nil => exact .nil
  | cons c s ih =>
    rw [List.flatMap_cons, Utf8.encode_append]
    exact isQuoted_escape_append c ih

end Json.Quoted

end CloudClient
