import Mathlib.Algebra.Group.Nat.Defs
import ProofKey.Proofs.Scalar
import ProofKey.Text.Utf8

/-! # Reading UTF-8

What is read is free of surrogates, whatever the bytes are: the ranges of the
second byte leave no way to complete a character to one. The bytes of a text that
is free of them are read as this text.
-/

namespace ProofKey

theorem CodePoint.isSurrogate_ofNat {n : Nat} (apart : n < 0xD800 ∨ 0xE000 ≤ n) :
    (CodePoint.ofNat n).isSurrogate = false := by
  unfold CodePoint.ofNat
  split
  · simp only [isSurrogate, ← Bool.decide_and, decide_eq_false_iff_not]
    omega
  · decide

namespace Text

theorem scalar_nil : Scalar [] := by simp [Scalar]

theorem scalar_cons {c : CodePoint} {t : Text} :
    Scalar (c :: t) ↔ c.isSurrogate = false ∧ t.Scalar :=
  List.forall_mem_cons

end Text

namespace Utf8

section RoundTrip

theorem toNat_continuation (n : Nat) : (continuation n).toNat = 0x80 + n % 0x40 := by
  simp only [continuation, UInt8.toNat_ofNat']
  omega

theorem lead_one {n : Nat} (small : n < 0x80) : lead (UInt8.ofNat n) = .done (.ofNat n) := by
  have value : (UInt8.ofNat n).toNat = n := by
    rw [UInt8.toNat_ofNat']
    omega
  simp only [lead, value, small, if_true]

theorem lead_two : ∀ m < 0x20, 2 ≤ m →
    lead (UInt8.ofNat (0xC0 + m)) = .more ⟨1, 0x80, 0xBF, m⟩ := by
  decide

theorem lead_three : ∀ m < 0x10, lead (UInt8.ofNat (0xE0 + m)) =
    .more ⟨2, if m = 0 then 0xA0 else 0x80, if m = 0xD then 0x9F else 0xBF, m⟩ := by
  decide

theorem lead_four : ∀ m < 5, lead (UInt8.ofNat (0xF0 + m)) =
    .more ⟨3, if m = 0 then 0x90 else 0x80, if m = 4 then 0x8F else 0xBF, m⟩ := by
  decide

variable {owed low high bits n : Nat} {rest : List UInt8}

theorem decodeFrom_lead {byte : UInt8} {p : Partial} (more : lead byte = .more p) :
    decodeFrom none (byte :: rest) = decodeFrom (some p) rest := by
  simp only [decodeFrom, more]

theorem decodeFrom_next (least : low ≤ 0x80 + n % 0x40) (greatest : 0x80 + n % 0x40 ≤ high) :
    decodeFrom (some ⟨owed + 2, low, high, bits⟩) (continuation n :: rest) =
      decodeFrom (some ⟨owed + 1, 0x80, 0xBF, bits * 0x40 + n % 0x40⟩) rest := by
  simp [decodeFrom, toNat_continuation, least, greatest]

theorem decodeFrom_last (least : low ≤ 0x80 + n % 0x40) (greatest : 0x80 + n % 0x40 ≤ high) :
    decodeFrom (some ⟨1, low, high, bits⟩) (continuation n :: rest) =
      .ofNat (bits * 0x40 + n % 0x40) :: decodeFrom none rest := by
  simp [decodeFrom, toNat_continuation, least, greatest]

theorem decodeFrom_encodeOne {c : CodePoint} (scalar : c.isSurrogate = false) :
    decodeFrom none (encodeOne c ++ rest) = c :: decodeFrom none rest := by
  have bound := c.value_le
  have whole := CodePoint.ofNat_value c
  simp only [CodePoint.isSurrogate, ← Bool.decide_and, decide_eq_false_iff_not] at scalar
  simp only [encodeOne]
  generalize c.value = n at *
  subst whole
  -- one case for each width; that the second byte fits says that no shorter form would do
  split
  · rename_i small
    simp only [List.cons_append, List.nil_append, decodeFrom, lead_one small]
  split
  · have number : n / 0x40 * 0x40 + n % 0x40 = n := by omega
    simp only [List.cons_append, List.nil_append]
    rw [decodeFrom_lead (lead_two _ (by omega) (by omega)), decodeFrom_last (by omega) (by omega),
      number]
  split
  · have number : (n / 0x1000 * 0x40 + n / 0x40 % 0x40) * 0x40 + n % 0x40 = n := by omega
    simp only [List.cons_append, List.nil_append]
    rw [decodeFrom_lead (lead_three _ (by omega)),
      decodeFrom_next (by split <;> omega) (by split <;> omega),
      decodeFrom_last (by omega) (by omega), number]
  · have number : ((n / 0x40000 * 0x40 + n / 0x1000 % 0x40) * 0x40 + n / 0x40 % 0x40) * 0x40 +
        n % 0x40 = n := by omega
    simp only [List.cons_append, List.nil_append]
    rw [decodeFrom_lead (lead_four _ (by omega)),
      decodeFrom_next (by split <;> omega) (by split <;> omega),
      decodeFrom_next (by omega) (by omega), decodeFrom_last (by omega) (by omega), number]

theorem decode_encode {t : Text} (scalar : t.Scalar) : decode (encode t) = t := by
  unfold decode encode
  induction t with
  | nil => rfl
  | cons c rest ih =>
      rw [List.flatMap_cons, decodeFrom_encodeOne (scalar c List.mem_cons_self),
        ih fun d member => scalar d (List.mem_cons_of_mem c member)]

end RoundTrip

section Scalar

/-- The bytes that a character can still get complete it to no surrogate. -/
def Partial.Clear (p : Partial) : Prop :=
  (p.bits * 0x40 + (p.high - 0x80) + 1) * 0x40 ^ (p.owed - 1) ≤ 0xD800 ∨
    0xE000 ≤ (p.bits * 0x40 + (p.low - 0x80)) * 0x40 ^ (p.owed - 1)

theorem lead_clear {byte : UInt8} {p : Partial} (more : lead byte = .more p) : p.Clear := by
  have bound := byte.toNat_lt
  unfold lead at more
  simp only at more
  repeat' split at more
  all_goals cases more
  all_goals simp only [Partial.Clear]
  all_goals omega

theorem scalar_of_lead_done {byte : UInt8} {c : CodePoint} (done : lead byte = .done c) :
    c.isSurrogate = false := by
  unfold lead at done
  simp only at done
  repeat' split at done
  all_goals cases done
  exact CodePoint.isSurrogate_ofNat (by omega)

theorem Partial.Clear.last {p : Partial} {n : Nat} (clear : p.Clear) (last : p.owed ≤ 1)
    (fits : p.low ≤ n ∧ n ≤ p.high) :
    (CodePoint.ofNat (p.bits * 0x40 + (n - 0x80))).isSurrogate = false := by
  have none : p.owed - 1 = 0 := by omega
  simp only [Partial.Clear, none, Nat.pow_zero, Nat.mul_one] at clear
  exact CodePoint.isSurrogate_ofNat (by omega)

/-- A byte that fits narrows down what a character can become. -/
theorem Partial.Clear.next {p : Partial} {n : Nat} (clear : p.Clear) (more : ¬p.owed ≤ 1)
    (fits : p.low ≤ n ∧ n ≤ p.high) :
    Partial.Clear ⟨p.owed - 1, 0x80, 0xBF, p.bits * 0x40 + (n - 0x80)⟩ := by
  have width : 0x40 ^ (p.owed - 1) = 0x40 * 0x40 ^ (p.owed - 1 - 1) := by
    rw [← Nat.pow_succ']
    congr 1
    omega
  have upper : (p.bits * 0x40 + (n - 0x80) + 1) * 0x40 ^ (p.owed - 1) ≤
      (p.bits * 0x40 + (p.high - 0x80) + 1) * 0x40 ^ (p.owed - 1) :=
    Nat.mul_le_mul_right _ (by omega)
  have lower : (p.bits * 0x40 + (p.low - 0x80)) * 0x40 ^ (p.owed - 1) ≤
      (p.bits * 0x40 + (n - 0x80)) * 0x40 ^ (p.owed - 1) :=
    Nat.mul_le_mul_right _ (by omega)
  simp only [Partial.Clear] at clear ⊢
  generalize p.bits * 0x40 + (n - 0x80) = known at upper lower ⊢
  have all : known * 0x40 + (0xBF - 0x80) + 1 = (known + 1) * 0x40 := by omega
  have none : known * 0x40 + (0x80 - 0x80) = known * 0x40 := Nat.add_zero _
  rw [all, none, Nat.mul_assoc, Nat.mul_assoc, ← width]
  exact clear.imp (Nat.le_trans upper) fun above => Nat.le_trans above lower

/-- Nothing that is read is a surrogate, also not from the middle of a character. -/
theorem scalar_decodeFrom (state : Option Partial) (bytes : List UInt8)
    (clear : ∀ p ∈ state, p.Clear) : Text.Scalar (decodeFrom state bytes) := by
  have replacement : CodePoint.replacement.isSurrogate = false := by decide
  -- a character under way stays clear byte by byte, and is no surrogate when the last one is read
  fun_induction decodeFrom state bytes with
  | case1 => exact Text.scalar_nil
  | case2 p => exact Text.scalar_cons.mpr ⟨replacement, Text.scalar_nil⟩
  | case3 byte rest c done ih =>
      exact Text.scalar_cons.mpr ⟨scalar_of_lead_done done, ih (by simp)⟩
  | case4 byte rest p more ih => exact ih (by simpa using lead_clear more)
  | case5 byte rest invalid ih => exact Text.scalar_cons.mpr ⟨replacement, ih (by simp)⟩
  | case6 p byte rest fits bits last ih =>
      exact Text.scalar_cons.mpr ⟨(clear p rfl).last last fits, ih (by simp)⟩
  | case7 p byte rest fits bits more ih => exact ih (by simpa using (clear p rfl).next more fits)
  | case8 p byte rest misfit c done ih =>
      exact Text.scalar_cons.mpr ⟨replacement,
        Text.scalar_cons.mpr ⟨scalar_of_lead_done done, ih (by simp)⟩⟩
  | case9 p byte rest misfit q more ih =>
      exact Text.scalar_cons.mpr ⟨replacement, ih (by simpa using lead_clear more)⟩
  | case10 p byte rest misfit invalid ih =>
      exact Text.scalar_cons.mpr ⟨replacement, Text.scalar_cons.mpr ⟨replacement, ih (by simp)⟩⟩

theorem scalar_decode (bytes : List UInt8) : Text.Scalar (decode bytes) :=
  scalar_decodeFrom none bytes (by simp)

end Scalar

end Utf8

end ProofKey
