import Mathlib.Data.List.DropRight
import ProofKey.Base64Url

/-! # Base64url and back

Letters and six-bit numbers stand for each other, so the letters of some bytes are
read as these bytes, and different bytes have different letters. No letter is a
`=`: written in whole groups of four with `=` behind them, the letters are what is
left when the `=` at the end are taken off.
-/

namespace ProofKey.Base64Url

section Letters

variable {c : CodePoint} {bytes : List UInt8}

/-- The six-bit numbers that some bytes are written by. -/
def sextets : List UInt8 → List Nat
  | [] => []
  | [a] => [a.toNat / 4, a.toNat % 4 * 16]
  | [a, b] => [a.toNat / 4, a.toNat % 4 * 16 + b.toNat / 16, b.toNat % 16 * 4]
  | a :: b :: c :: rest =>
      a.toNat / 4 :: (a.toNat % 4 * 16 + b.toNat / 16) :: (b.toNat % 16 * 4 + c.toNat / 64) ::
        c.toNat % 64 :: sextets rest

theorem encode_eq_map_letter (bytes : List UInt8) : encode bytes = (sextets bytes).map letter := by
  fun_induction encode bytes with
  | case1 => rfl
  | case2 a => rfl
  | case3 a b => rfl
  | case4 a b c rest ih => simp only [sextets, List.map_cons, ih]

theorem sextets_lt : ∀ n ∈ sextets bytes, n < 64 := by
  fun_induction sextets bytes with
  | case1 => simp
  | case2 a =>
      have := a.toNat_lt
      simp only [List.forall_mem_cons, List.not_mem_nil, false_implies, implies_true, and_true]
      omega
  | case3 a b =>
      have := a.toNat_lt
      have := b.toNat_lt
      simp only [List.forall_mem_cons, List.not_mem_nil, false_implies, implies_true, and_true]
      omega
  | case4 a b c rest ih =>
      have := a.toNat_lt
      have := b.toNat_lt
      have := c.toNat_lt
      simp only [List.forall_mem_cons]
      exact ⟨by omega, by omega, by omega, by omega, ih⟩

theorem index?_letter : ∀ n < 64, index? (letter n) = some n := by decide

theorem letter_mem_alphabet : ∀ n < 64, (letter n).isLetter = true ∨ (letter n).isDigit = true ∨
    letter n = CodePoint.ofChar '-' ∨ letter n = CodePoint.ofChar '_' := by
  decide

theorem mem_alphabet_of_mem_encode (member : c ∈ encode bytes) : c.isLetter = true ∨
    c.isDigit = true ∨ c = CodePoint.ofChar '-' ∨ c = CodePoint.ofChar '_' := by
  rw [encode_eq_map_letter] at member
  obtain ⟨n, listed, rfl⟩ := List.mem_map.mp member
  exact letter_mem_alphabet n (sextets_lt n listed)

end Letters

section RoundTrip

theorem mapM_index?_letters {numbers : List Nat} (small : ∀ n ∈ numbers, n < 64) :
    (numbers.map letter).mapM index? = some numbers := by
  induction numbers with
  | nil => rfl
  | cons n more ih =>
      obtain ⟨first, later⟩ := List.forall_mem_cons.mp small
      simp [index?_letter n first, ih later]

theorem bytes?_sextets (bytes : List UInt8) : bytes? (sextets bytes) = some bytes := by
  fun_induction sextets bytes with
  | case1 => rfl
  | case2 a =>
      have first : a.toNat / 4 * 4 + a.toNat % 4 * 16 / 16 = a.toNat := by omega
      have filled : a.toNat % 4 * 16 % 16 = 0 := by omega
      simp only [bytes?, filled, if_true, first, UInt8.ofNat_toNat]
  | case3 a b =>
      have := b.toNat_lt
      have first : a.toNat / 4 * 4 + (a.toNat % 4 * 16 + b.toNat / 16) / 16 = a.toNat := by omega
      have second :
          (a.toNat % 4 * 16 + b.toNat / 16) % 16 * 16 + b.toNat % 16 * 4 / 4 = b.toNat := by
        omega
      have filled : b.toNat % 16 * 4 % 4 = 0 := by omega
      simp only [bytes?, filled, if_true, first, second, UInt8.ofNat_toNat]
  | case4 a b c rest ih =>
      have := b.toNat_lt
      have := c.toNat_lt
      have first : a.toNat / 4 * 4 + (a.toNat % 4 * 16 + b.toNat / 16) / 16 = a.toNat := by omega
      have second : (a.toNat % 4 * 16 + b.toNat / 16) % 16 * 16 +
          (b.toNat % 16 * 4 + c.toNat / 64) / 4 = b.toNat := by omega
      have third : (b.toNat % 16 * 4 + c.toNat / 64) % 4 * 64 + c.toNat % 64 = c.toNat := by omega
      simp only [bytes?, ih, Option.map_some, first, second, third, UInt8.ofNat_toNat]

theorem decode_encode (bytes : List UInt8) : decode (encode bytes) = some bytes := by
  rw [decode, encode_eq_map_letter, mapM_index?_letters sextets_lt]
  exact bytes?_sextets bytes

theorem encode_injective : Function.Injective encode := by
  intro bytes other same
  exact Option.some.inj ((decode_encode bytes).symm.trans
    ((congrArg decode same).trans (decode_encode other)))

end RoundTrip

section Padding

/-- Fills up a group of letters. -/
def filler : CodePoint := '='

/-- The letters of some bytes in whole groups of four, the last one filled up. -/
def padded (bytes : List UInt8) : Text :=
  encode bytes ++ List.replicate ((3 - bytes.length % 3) % 3) filler

/-- Reads letters in whole groups of four, of which the last may have one or two `=` at its end. -/
def decodePadded (t : Text) : Option (List UInt8) :=
  let letters := t.rdropWhile fun c => c = filler
  if t.length % 4 = 0 ∧ t.length ≤ letters.length + 2 then decode letters else none

theorem filler_not_mem_encode (bytes : List UInt8) : filler ∉ encode bytes := by
  intro member
  have apart : ¬(filler.isLetter = true ∨ filler.isDigit = true ∨
    filler = CodePoint.ofChar '-' ∨ filler = CodePoint.ofChar '_') := by decide
  exact apart (mem_alphabet_of_mem_encode member)

theorem rdropWhile_padding (bytes : List UInt8) (count : Nat) :
    (encode bytes ++ List.replicate count filler).rdropWhile (fun c => c = filler) =
      encode bytes := by
  induction count with
  | zero =>
      rw [List.replicate_zero, List.append_nil, List.rdropWhile_eq_self_iff]
      intro nonempty last
      have same := of_decide_eq_true last
      exact filler_not_mem_encode bytes (same ▸ List.getLast_mem nonempty)
  | succ count ih =>
      rw [List.replicate_succ', ← List.append_assoc, List.rdropWhile_concat_pos _ _ _ (by simp), ih]

theorem rdropWhile_padded (bytes : List UInt8) :
    (padded bytes).rdropWhile (fun c => c = filler) = encode bytes :=
  rdropWhile_padding bytes _

theorem decodePadded_padded (bytes : List UInt8) : decodePadded (padded bytes) = some bytes := by
  have length : (padded bytes).length =
      (bytes.length * 4 + 2) / 3 + (3 - bytes.length % 3) % 3 := by
    rw [padded, List.length_append, length_encode, List.length_replicate]
  have whole : (padded bytes).length % 4 = 0 := by
    have remainder : bytes.length % 3 = 0 ∨ bytes.length % 3 = 1 ∨ bytes.length % 3 = 2 := by omega
    rcases remainder with none | one | two
    · rw [length, none]
      omega
    · rw [length, one]
      omega
    · rw [length, two]
      omega
  rw [decodePadded, rdropWhile_padded, length_encode, if_pos ⟨whole, by omega⟩, decode_encode]

end Padding

end ProofKey.Base64Url
