import ProofKey.Proofs.Transform

/-! # UTF-8 as a prefix code

The form of a code point begins the form of no other, surrogates included, so the
bytes of a text can be parted in one way only. Two surrogates in a row keep their
six bytes, which are not the four of the character that UTF-16 means by them. This
is why a comparison of bytes is a comparison of texts.
-/

namespace ProofKey

namespace Utf8

section Forms

variable {c d : CodePoint}

theorem encodeOne_ofChar (c : Char) : encodeOne (.ofChar c) = String.utf8EncodeChar c := by
  have bound := (CodePoint.ofChar c).value_le
  have number : c.val.toNat = (CodePoint.ofChar c).value := rfl
  simp only [encodeOne, String.utf8EncodeChar, continuation]
  -- both sides go by the width of the number, and differ in how they cut off its high bits
  by_cases one : (CodePoint.ofChar c).value < 0x80
  · rw [if_pos one, if_pos (by omega), number]
  by_cases two : (CodePoint.ofChar c).value < 0x800
  · rw [if_neg one, if_pos two, if_neg (by omega), if_pos (by omega), number, Nat.add_comm 0xC0]
    simp only [Nat.add_comm 0x80, Nat.mod_eq_of_lt
      (show (CodePoint.ofChar c).value / 0x40 < 32 by omega)]
  by_cases three : (CodePoint.ofChar c).value < 0x10000
  · rw [if_neg one, if_neg two, if_pos three, if_neg (by omega), if_neg (by omega),
      if_pos (by omega), number, Nat.add_comm 0xE0]
    simp only [Nat.add_comm 0x80, Nat.mod_eq_of_lt
      (show (CodePoint.ofChar c).value / 0x1000 < 16 by omega)]
  · rw [if_neg one, if_neg two, if_neg three, if_neg (by omega), if_neg (by omega),
      if_neg (by omega), number, Nat.add_comm 0xF0]
    simp only [Nat.add_comm 0x80, Nat.mod_eq_of_lt
      (show (CodePoint.ofChar c).value / 0x40000 < 8 by omega)]

theorem encodeOne_of_isSurrogate (surrogate : c.isSurrogate = true) :
    encodeOne c = [0xED, continuation (c.value / 0x40), continuation c.value] := by
  simp only [CodePoint.isSurrogate, Bool.and_eq_true, decide_eq_true_eq] at surrogate
  have lead : c.value / 0x1000 = 0xD := by omega
  simp only [encodeOne]
  rw [if_neg (by omega), if_neg (by omega), if_pos (by omega), lead]
  rfl

/-- No form begins another. -/
theorem encodeOne_prefix_iff : encodeOne c <+: encodeOne d ↔ c = d := by
  constructor
  · rintro ⟨rest, whole⟩
    have same : encodeOne c ++ rest = encodeOne d ++ [] := by rw [whole, List.append_nil]
    exact (encodeOne_append_inj same).1
  · rintro rfl
    exact List.prefix_rfl

end Forms

theorem encode_append (left right : Text) : encode (left ++ right) = encode left ++ encode right :=
  List.flatMap_append

theorem encode_prefix_iff {left right : Text} : encode left <+: encode right ↔ left <+: right := by
  constructor
  · intro begins
    induction left generalizing right with
    | nil => exact List.nil_prefix
    | cons c rest ih =>
        obtain ⟨later, whole⟩ := begins
        cases right with
        | nil => simp [encode, encodeOne_ne_nil] at whole
        | cons d more =>
            simp only [encode, List.flatMap_cons, List.append_assoc] at whole
            obtain ⟨rfl, below⟩ := encodeOne_append_inj whole
            exact List.cons_prefix_cons.mpr ⟨rfl, ih ⟨later, below⟩⟩
  · rintro ⟨rest, rfl⟩
    rw [encode_append]
    exact List.prefix_append _ _

end Utf8

namespace Transform

/-- Texts are compared by their bytes, and the verdict is whether they are the same sequence of code
points. A character has the bytes of a string and a surrogate the three that its number gives, and
no form begins another; so the bytes of one text begin those of another only if the text does.
`plain` answers on anything and logs nothing; it accepts exactly if both values are there and are
one text. -/
theorem plain_matches_identical :
    (∀ c : Char, Utf8.encodeOne (.ofChar c) = String.utf8EncodeChar c) ∧
    (∀ c : CodePoint, c.isSurrogate = true → Utf8.encodeOne c =
      [0xED, .ofNat (0x80 + c.value / 0x40 % 0x40), .ofNat (0x80 + c.value % 0x40)]) ∧
    (∀ c d : CodePoint, Utf8.encodeOne c <+: Utf8.encodeOne d ↔ c = d) ∧
    (∀ left right : Text, Utf8.encode left <+: Utf8.encode right ↔ left <+: right) ∧
    (∀ left right : Text, sameBytes left right = true ↔ left = right) ∧
    ∀ verifier challenge : Option Text, ∃ matched,
      plain.verify verifier challenge = .ok matched ∧
      (matched = true ↔ ∃ t, verifier = some t ∧ challenge = some t) := by
  refine ⟨Utf8.encodeOne_ofChar, fun c => Utf8.encodeOne_of_isSurrogate,
    fun c d => Utf8.encodeOne_prefix_iff, fun left right => Utf8.encode_prefix_iff,
    fun left right => sameBytes_iff, ?_⟩
  intro verifier challenge
  cases verifier with
  | none => exact ⟨false, by cases challenge <;> rfl, by simp⟩
  | some presented =>
      cases challenge with
      | none => exact ⟨false, rfl, by simp⟩
      | some stored =>
          exact ⟨sameBytes presented stored, rfl, by simpa [sameBytes_iff] using eq_comm⟩

/-- A pair of surrogates is no match for the character that UTF-16 means by it. -/
theorem plain_matches_identical_sample :
    let high : CodePoint := ⟨0xD83D, by decide⟩
    let low : CodePoint := ⟨0xDE00, by decide⟩
    let astral : CodePoint := ⟨0x1F600, by decide⟩
    high.isSurrogate = true ∧ Utf8.encodeOne high = [0xED, 0xA0, 0xBD] ∧
      sameBytes [high, low] [astral] = false := by
  intro high low astral
  obtain ⟨_, surrogates, _, _, compared, _⟩ := plain_matches_identical
  refine ⟨rfl, (surrogates high rfl).trans (by decide), ?_⟩
  have apart : sameBytes [high, low] [astral] ≠ true := by
    rw [ne_eq, compared]
    decide
  simpa using apart

end Transform

end ProofKey
