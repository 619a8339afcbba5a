import ProofKey.Percent
import ProofKey.Proofs.Utf8.Decode

/-! # Percent-encoding and back

An escaped text is ASCII throughout, and its bytes are the UTF-8 form of the text
behind it, so reading gives this text back. What is read from any text is free of
surrogates if that text is.
-/

namespace ProofKey.Percent

section Alphabet

variable {c : CodePoint} {t : Text}

theorem isUnreserved_hexDigit : ∀ n < 16, Grammar.isUnreserved (hexDigit n) = true := by
  decide

theorem mem_escape {byte : UInt8} (member : c ∈ escape byte) :
    Grammar.isUnreserved c = true ∨ c = CodePoint.ofChar '%' := by
  have bound := byte.toNat_lt
  simp only [escape, List.mem_cons, List.not_mem_nil, or_false] at member
  rcases member with rfl | rfl | rfl
  · exact .inr rfl
  · exact .inl (isUnreserved_hexDigit _ (by omega))
  · exact .inl (isUnreserved_hexDigit _ (by omega))

theorem mem_encode (member : c ∈ encode t) :
    Grammar.isUnreserved c = true ∨ c = CodePoint.ofChar '%' := by
  obtain ⟨d, _, member⟩ := List.mem_flatMap.mp member
  unfold encodeOne at member
  split at member
  · rename_i unreserved
    obtain rfl := List.mem_singleton.mp member
    exact .inl unreserved
  · obtain ⟨byte, _, member⟩ := List.mem_flatMap.mp member
    exact mem_escape member

theorem isAscii_of_mem_encode (member : c ∈ encode t) : c.isAscii = true := by
  rcases mem_encode member with unreserved | rfl
  · exact Grammar.isAscii_of_isUnreserved unreserved
  · decide

end Alphabet

section Octets

theorem byte?_hexDigit (byte : UInt8) :
    byte? (hexDigit (byte.toNat / 16)) (hexDigit (byte.toNat % 16)) = some byte := by
  have bound := byte.toNat_lt
  have number : byte.toNat / 16 * 16 + byte.toNat % 16 = byte.toNat := by omega
  simp only [byte?, hexValue?_hexDigit _ (show byte.toNat / 16 < 16 by omega),
    hexValue?_hexDigit _ (show byte.toNat % 16 < 16 by omega), number, UInt8.ofNat_toNat]

theorem octets_escape (byte : UInt8) (rest : Text) :
    octets (escape byte ++ rest) = byte :: octets rest := by
  simp only [escape, List.cons_append, List.nil_append, octets, if_true, byte?_hexDigit]

theorem octets_cons_of_ne {c : CodePoint} (plain : c ≠ CodePoint.ofChar '%') (rest : Text) :
    octets (c :: rest) = UInt8.ofNat c.value :: octets rest := by
  -- only before two more code points is a `%` looked for at all
  match rest with
  | [] => rfl
  | [_] => rfl
  | _ :: _ :: _ => simp only [octets, plain, if_false]

theorem octets_flatMap_escape (bytes : List UInt8) (rest : Text) :
    octets (bytes.flatMap escape ++ rest) = bytes ++ octets rest := by
  induction bytes with
  | nil => rfl
  | cons byte more ih =>
      rw [List.flatMap_cons, List.append_assoc, octets_escape, ih, List.cons_append]

theorem octets_encodeOne (c : CodePoint) (rest : Text) :
    octets (encodeOne c ++ rest) = Utf8.encodeOne c ++ octets rest := by
  unfold encodeOne
  split
  · rename_i unreserved
    have plain : c ≠ CodePoint.ofChar '%' := by
      rintro rfl
      revert unreserved
      decide
    have ascii : c.value < 0x80 := by
      simpa [CodePoint.isAscii] using Grammar.isAscii_of_isUnreserved unreserved
    rw [List.singleton_append, octets_cons_of_ne plain]
    simp only [Utf8.encodeOne, ascii, if_true, List.singleton_append]
  · exact octets_flatMap_escape _ _

theorem octets_encode (t : Text) : octets (encode t) = Utf8.encode t := by
  unfold encode Utf8.encode
  induction t with
  | nil => rfl
  | cons c rest ih => rw [List.flatMap_cons, List.flatMap_cons, octets_encodeOne, ih]

end Octets

section Decoding

variable {c : CodePoint} {t : Text}

theorem runs_of_ascii (ascii : ∀ c ∈ t, c.isAscii = true) :
    runs t = if t.isEmpty then [] else [.ascii t] := by
  induction t with
  | nil => rfl
  | cons c rest ih =>
      have below := ih fun d member => ascii d (List.mem_cons_of_mem c member)
      rw [runs, if_pos (ascii c List.mem_cons_self), below]
      cases rest <;> rfl

theorem decode_of_ascii (ascii : ∀ c ∈ t, c.isAscii = true) :
    decode t = Utf8.decode (octets t) := by
  rw [decode, runs_of_ascii ascii]
  cases t with
  | nil => rfl
  | cons c rest => simp [Run.decode]

theorem decode_encode (scalar : t.Scalar) : decode (encode t) = t := by
  rw [decode_of_ascii fun _ => isAscii_of_mem_encode, octets_encode, Utf8.decode_encode scalar]

theorem other_mem_prepend {d : CodePoint} {rs : List Run} :
    Run.other c ∈ Run.prepend d rs ↔ Run.other c ∈ rs := by
  cases rs with
  | nil => simp [Run.prepend]
  | cons run more => cases run <;> simp [Run.prepend]

theorem other_mem_runs_iff : Run.other c ∈ runs t ↔ c ∈ t ∧ c.isAscii = false := by
  induction t with
  | nil => simp [runs]
  | cons d rest ih =>
      cases ascii : d.isAscii with
      | true =>
          have apart : c.isAscii = false → c ≠ d := by
            rintro beyond rfl
            simp [beyond] at ascii
          rw [runs, if_pos ascii, other_mem_prepend, ih, List.mem_cons]
          exact and_congr_left fun beyond => (or_iff_right (apart beyond)).symm
      | false =>
          rw [runs, if_neg (by simp [ascii]), List.mem_cons, ih, List.mem_cons, Run.other.injEq,
            or_and_right]
          exact or_congr_left ⟨fun same => ⟨same, same ▸ ascii⟩, And.left⟩

/-- Reading escapes makes no surrogates and loses none. -/
theorem scalar_decode_iff : Text.Scalar (decode t) ↔ t.Scalar := by
  constructor
  · intro scalar c member
    cases ascii : c.isAscii with
    | true =>
        simp only [CodePoint.isAscii, decide_eq_true_eq] at ascii
        simp only [CodePoint.isSurrogate, Bool.and_eq_false_iff, decide_eq_false_iff_not]
        omega
    | false =>
        have among : .other c ∈ runs t := other_mem_runs_iff.mpr ⟨member, ascii⟩
        exact scalar c (List.mem_flatMap.mpr ⟨.other c, among, List.mem_singleton_self c⟩)
  · intro scalar c member
    obtain ⟨run, among, member⟩ := List.mem_flatMap.mp member
    cases run with
    | ascii part => exact Utf8.scalar_decode (octets part) c member
    | other d =>
        obtain rfl := List.mem_singleton.mp member
        exact scalar c (other_mem_runs_iff.mp among).1

end Decoding

end ProofKey.Percent
