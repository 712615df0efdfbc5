import CloudClient.Proofs.Utf8
import CloudClient.Url.Basic

/-!
# Parameters of a query are read back

Whatever the parameters of a query are, what is written for them is read back as the same
parameters. The reason is that the three signs of a query, `&`, `=` and `+`, never stand for
themselves in what is written for a key or a value, so that each of them can only mean one thing.

* `Percent.decode_flatMap_encodeByte` — percent-encoded bytes are read back.
* `Form.decode_encodeChar` — so is what is written for one character, whatever follows it.
* `partsAt_joinWith` — parts without separators are found again.
* `Url.parameters_withParameters` — added parameters are read back after those that were there.
-/

namespace CloudClient

/-! ## Parts -/

/-- A text up to a separator is the first part. -/
theorem partsAt_append_cons (separator : Char) (s t : List Char) :
    partsAt separator (s ++ separator :: t) = partsAt separator s ++ partsAt separator t := by
  induction s with
  | nil => simp [partsAt]
  | cons c s ih =>
    rw [List.cons_append, partsAt, partsAt, ih]
    by_cases hc : c = separator
    · rw [if_pos hc, if_pos hc, List.cons_append]
    · rw [if_neg hc, if_neg hc]
      cases hs : partsAt separator s with
      | nil => exact absurd hs (partsAt_ne_nil separator s)
      | cons part parts => rfl

/-- A text without separators is one part. -/
theorem partsAt_of_notMem {separator : Char} {s : List Char} (h : separator ∉ s) :
    partsAt separator s = [s] := by
  induction s with
  | nil => rfl
  | cons c s ih =>
    have hc : c ≠ separator := fun heq => h (heq ▸ List.mem_cons_self)
    have hs : separator ∉ s := fun hmem => h (List.mem_cons_of_mem c hmem)
    rw [partsAt, if_neg hc, ih hs]

/-- Parts with a separator in front of each are found behind any text. -/
theorem partsAt_append_flatMap {separator : Char} {parts : List (List Char)}
    (h : ∀ part ∈ parts, separator ∉ part) (s : List Char) :
    partsAt separator (s ++ parts.flatMap (separator :: ·)) = partsAt separator s ++ parts := by
  induction parts generalizing s with
  | nil => rw [List.flatMap_nil, List.append_nil, List.append_nil]
  | cons part rest ih =>
    rw [List.forall_mem_cons] at h
    rw [List.flatMap_cons, List.cons_append, partsAt_append_cons, ih h.2, partsAt_of_notMem h.1]
    rfl

/-- **Parts without separators are found again.** -/
theorem partsAt_joinWith {separator : Char} {parts : List (List Char)} (hne : parts ≠ [])
    (h : ∀ part ∈ parts, separator ∉ part) :
    partsAt separator (joinWith separator parts) = parts := by
  induction parts with
  | nil => exact absurd rfl hne
  | cons part rest ih =>
    have hpart : separator ∉ part := h part List.mem_cons_self
    cases rest with
    | nil => exact partsAt_of_notMem hpart
    | cons next rest =>
      rw [joinWith, partsAt_append_cons, partsAt_of_notMem hpart,
        ih (List.cons_ne_nil _ _) fun p hp => h p (List.mem_cons_of_mem _ hp)]
      rfl

/-! ## Percent encoding -/

namespace Percent

theorem hexValue?_hexDigit : ∀ n < 16, hexValue? (hexDigit n) = some n := by decide

/-- A hexadecimal digit is none of the signs of a query. -/
theorem hexDigit_ne : ∀ n < 16, hexDigit n ≠ '&' ∧ hexDigit n ≠ '=' ∧ hexDigit n ≠ '+' := by
  decide

/-- What is written for a byte has none of the signs of a query. -/
theorem ne_of_mem_encodeByte {b : UInt8} {c : Char} (h : c ∈ encodeByte b) :
    c ≠ '&' ∧ c ≠ '=' ∧ c ≠ '+' := by
  have hb : b.toNat < 256 := b.toNat_lt
  simp only [encodeByte, List.mem_cons, List.not_mem_nil, or_false] at h
  obtain rfl | rfl | rfl := h
  · decide
  · exact hexDigit_ne _ (by omega)
  · exact hexDigit_ne _ (by omega)

/-- A percent sign begins a byte. -/
theorem decode_encodeByte (b : UInt8) (rest : List Char) :
    decode (encodeByte b ++ rest) = b :: decode rest := by
  have hb : b.toNat < 256 := b.toNat_lt
  have hbyte : byte? (hexDigit (b.toNat / 16)) (hexDigit (b.toNat % 16)) = some b := by
    have hsum : b.toNat / 16 * 16 + b.toNat % 16 = b.toNat := by omega
    simp only [byte?, hexValue?_hexDigit _ (show b.toNat / 16 < 16 by omega),
      hexValue?_hexDigit _ (show b.toNat % 16 < 16 by omega), Option.bind_eq_bind, Option.bind_some,
      hsum, UInt8.ofNat_toNat]
    rfl
  simp only [encodeByte, List.cons_append, List.nil_append, decode, hbyte]

/-- Any other character stands for itself. -/
theorem decode_cons_of_ne {c : Char} (hc : c ≠ '%') (s : List Char) :
    decode (c :: s) = String.utf8EncodeChar c ++ decode s := by
  rw [decode]
  intro high low s' h
  exact absurd h hc

/-- **Percent-encoded bytes are read back**, whatever follows them. -/
theorem decode_flatMap_encodeByte (bytes : Bytes) (rest : List Char) :
    decode (bytes.flatMap encodeByte ++ rest) = bytes ++ decode rest := by
  induction bytes with
  | nil => rfl
  | cons b bytes ih =>
    rw [List.flatMap_cons, List.append_assoc, decode_encodeByte, ih, List.cons_append]

end Percent

/-! ## Keys and values -/

namespace Form

/-- A blank for a plus sign. -/
abbrev unplus (c : Char) : Char := if c = '+' then ' ' else c

/-- What is written for a character has none of the signs of a query but the plus sign of a
blank. -/
theorem ne_of_mem_encodeChar {c d : Char} (h : d ∈ encodeChar c) :
    d ≠ '&' ∧ d ≠ '=' ∧ (c ≠ ' ' → d ≠ '+') := by
  rw [encodeChar] at h
  split at h
  · rename_i hc
    obtain rfl := List.mem_singleton.1 h
    exact ⟨by decide, by decide, fun hne => absurd hc hne⟩
  · rw [Percent.encodeChar] at h
    split at h
    · obtain ⟨b, -, hd⟩ := List.mem_flatMap.1 h
      obtain ⟨h₁, h₂, h₃⟩ := Percent.ne_of_mem_encodeByte hd
      exact ⟨h₁, h₂, fun _ => h₃⟩
    · rename_i hplain
      obtain rfl := List.mem_singleton.1 h
      have hd : isPlain d = true := by simpa using hplain
      refine ⟨?_, ?_, fun _ => ?_⟩ <;> rintro rfl <;> revert hd <;> decide

/-- **What is written for a character is read back**, whatever follows it. -/
theorem decode_encodeChar (c : Char) (rest : List Char) :
    Percent.decode ((encodeChar c).map unplus ++ rest) =
      String.utf8EncodeChar c ++ Percent.decode rest := by
  by_cases hc : c = ' '
  · subst hc
    exact Percent.decode_cons_of_ne (by decide) rest
  · have hmap : (encodeChar c).map unplus = encodeChar c :=
      (List.map_congr_left fun d hd => if_neg ((ne_of_mem_encodeChar hd).2.2 hc)).trans
        (List.map_id _)
    rw [hmap, encodeChar, if_neg hc, Percent.encodeChar]
    split
    · exact Percent.decode_flatMap_encodeByte _ rest
    · rename_i hplain
      refine Percent.decode_cons_of_ne ?_ rest
      rintro rfl
      revert hplain
      decide

/-- **A key or a value is read back.** -/
theorem decodeText_encodeText (s : String) : decodeText (encodeText s) = s := by
  have hbytes : ∀ cs : List Char,
      Percent.decode ((cs.flatMap encodeChar).map unplus) = Utf8.encode cs := by
    intro cs
    induction cs with
    | nil => rfl
    | cons c cs ih =>
      rw [List.flatMap_cons, List.map_append, decode_encodeChar, ih]
      exact List.flatMap_cons.symm
  have hmap : ((encodeText s).map fun c => if c = '+' then ' ' else c) =
      (s.toList.flatMap encodeChar).map unplus := rfl
  rw [decodeText, hmap, hbytes, lossyText, Utf8.decodeLossy_encode, String.ofList_toList]

theorem notMem_encodeText (s : String) : '&' ∉ encodeText s ∧ '=' ∉ encodeText s := by
  constructor
  all_goals
    intro h
    obtain ⟨c, -, hc⟩ := List.mem_flatMap.1 h
    obtain ⟨h₁, h₂, -⟩ := ne_of_mem_encodeChar hc
    contradiction

/-! ## Parameters -/

/-- **A parameter is read back**: the first equals sign ends its key. -/
theorem decodePair_encodePair (p : String × String) : decodePair (encodePair p) = p := by
  have hkey : ∀ c ∈ encodeText p.1, decide (c ≠ '=') = true := by
    intro c hc
    rw [decide_eq_true_eq]
    rintro rfl
    exact (notMem_encodeText p.1).2 hc
  rw [decodePair, encodePair, List.takeWhile_append_of_pos hkey, List.dropWhile_append_of_pos hkey]
  simp [decodeText_encodeText]

/-- What is written for a parameter is one part of a query. -/
theorem notMem_encodePair (p : String × String) : '&' ∉ encodePair p := by
  rw [encodePair, List.mem_append, List.mem_cons]
  rintro (h | h | h)
  · exact (notMem_encodeText p.1).1 h
  · revert h
    decide
  · exact (notMem_encodeText p.2).1 h

/-- **Parameters are read back.** -/
theorem decode_encode (pairs : List (String × String)) : decode (encode pairs) = pairs := by
  cases pairs with
  | nil => rfl
  | cons p rest =>
    -- each parameter is one part, and none is empty, not even one with an empty key and value
    have hparts : ∀ part ∈ (p :: rest).map encodePair, '&' ∉ part := by
      intro part hpart
      obtain ⟨q, -, rfl⟩ := List.mem_map.1 hpart
      exact notMem_encodePair q
    have hfull : ∀ part ∈ (p :: rest).map encodePair, (!part.isEmpty) = true := by
      intro part hpart
      obtain ⟨q, -, rfl⟩ := List.mem_map.1 hpart
      simp [encodePair]
    rw [decode, encode, partsAt_joinWith (by simp) hparts, List.filter_eq_self.2 hfull,
      List.map_map]
    exact List.map_id'' decodePair_encodePair _

/-- The parameters before and after an ampersand are those of the whole. -/
theorem decode_append_cons (s t : List Char) : decode (s ++ '&' :: t) = decode s ++ decode t := by
  rw [decode, partsAt_append_cons, List.filter_append, List.map_append, decode, decode]

end Form

/-! ## URLs -/

/-- **Added parameters are read back**, after those that the query had. -/
theorem Url.parameters_withParameters (u : Url) (pairs : List (String × String)) :
    (u.withParameters pairs).parameters = u.parameters ++ pairs := by
  cases pairs with
  | nil => simp [withParameters]
  | cons p rest =>
    have hadded : Form.decode (String.ofList (Form.encode (p :: rest))).toList = p :: rest := by
      rw [String.toList_ofList, Form.decode_encode]
    rw [withParameters, if_neg (by simp)]
    rcases hq : u.query with _ | query
    · simp only [parameters, hq, hadded, List.nil_append]
    · -- an empty query needs no ampersand
      by_cases hempty : query = ""
      · subst hempty
        simp only [parameters, hq, hadded]
        rfl
      · have hquery : (query ++ "&" ++ String.ofList (Form.encode (p :: rest))).toList =
            query.toList ++ '&' :: (String.ofList (Form.encode (p :: rest))).toList := by
          simp
        simp only [parameters, hq, hquery, Form.decode_append_cons, hadded]

end CloudClient
