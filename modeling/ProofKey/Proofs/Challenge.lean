import ProofKey.Proofs.Base64Url
import ProofKey.Proofs.Transform

/-! # What an S256 challenge stands for

An ASCII verifier has a challenge and no other verifier has one. The challenge is the
hash of the verifier and nothing is lost on the way: with the `=` that was left out it
is read as the 32 bytes of the hash. The transform answers on anything, and accepts
what is the challenge of the verifier.
-/

namespace ProofKey

namespace Ascii

variable {t : Text}

/-- The bytes that ASCII has for a text; only for ASCII texts do they tell what the text is. -/
def bytes (t : Text) : List UInt8 := t.map fun c => UInt8.ofNat c.value

theorem isAscii_iff {c : CodePoint} : c.isAscii = true ↔ c.value ≤ 0x7F := by
  rw [CodePoint.isAscii, decide_eq_true_iff]
  omega

theorem encode_eq_ok_iff {message : List UInt8} :
    encode t = .ok message ↔ (∀ c ∈ t, c.value ≤ 0x7F) ∧ message = bytes t := by
  simp only [← isAscii_iff, ← Run.firstWithout?_eq_none_iff, encode]
  cases Run.firstWithout? CodePoint.isAscii t with
  | none => simp [bytes, eq_comm]
  | some run => simp

theorem exists_encode_error_iff : (∃ run, encode t = .error run) ↔ ∃ c ∈ t, 0x7F < c.value := by
  have ascii_iff : (∃ c ∈ t, 0x7F < c.value) ↔ ¬∀ c ∈ t, c.isAscii = true := by
    simp [isAscii_iff]
  rw [ascii_iff, ← Run.firstWithout?_eq_none_iff, encode]
  cases Run.firstWithout? CodePoint.isAscii t with
  | none => simp
  | some run => simp

end Ascii

namespace Base64Url

/-- Only one `=` is missing behind the letters of 32 bytes. -/
theorem padded_of_length {bytes : List UInt8} (length : bytes.length = 32) :
    padded bytes = encode bytes ++ [filler] := by
  rw [padded, length]
  rfl

end Base64Url

namespace Challenge

variable {verifier challenge : Text}

/-- The hash of a verifier, which its challenge is made of. -/
def hash (verifier : Text) : List UInt8 := Sha256.digest (Ascii.bytes verifier)

theorem exists_s256_error_iff :
    (∃ run, s256 verifier = .error run) ↔ ∃ c ∈ verifier, 0x7F < c.value := by
  rw [← Ascii.exists_encode_error_iff, s256]
  cases Ascii.encode verifier with
  | error run => simp [Except.map]
  | ok message => simp [Except.map]

theorem s256_eq_ok_iff_message : s256 verifier = .ok challenge ↔
    ∃ message, Ascii.encode verifier = .ok message ∧
      challenge = Base64Url.encode (Sha256.digest message) := by
  rw [s256]
  cases Ascii.encode verifier with
  | error run => simp [Except.map]
  | ok message => simp [Except.map, eq_comm]

theorem s256_eq_ok_iff_hash : s256 verifier = .ok challenge ↔
    (∀ c ∈ verifier, c.value ≤ 0x7F) ∧ challenge = Base64Url.encode (hash verifier) := by
  rw [s256_eq_ok_iff_message]
  constructor
  · rintro ⟨message, encoded, rfl⟩
    obtain ⟨ascii, rfl⟩ := Ascii.encode_eq_ok_iff.mp encoded
    exact ⟨ascii, rfl⟩
  · rintro ⟨ascii, rfl⟩
    exact ⟨Ascii.bytes verifier, Ascii.encode_eq_ok_iff.mpr ⟨ascii, rfl⟩, rfl⟩

theorem length_hash (verifier : Text) : (hash verifier).length = 32 := Sha256.length_digest _

theorem decodePadded_of_s256 (derived : s256 verifier = .ok challenge) :
    Base64Url.decodePadded (challenge ++ [Base64Url.filler]) = some (hash verifier) := by
  obtain ⟨_, rfl⟩ := s256_eq_ok_iff_hash.mp derived
  rw [← Base64Url.padded_of_length (length_hash verifier), Base64Url.decodePadded_padded]

theorem eq_iff_hash_eq {other otherChallenge : Text} (derived : s256 verifier = .ok challenge)
    (alsoDerived : s256 other = .ok otherChallenge) :
    challenge = otherChallenge ↔ hash verifier = hash other := by
  obtain ⟨_, rfl⟩ := s256_eq_ok_iff_hash.mp derived
  obtain ⟨_, rfl⟩ := s256_eq_ok_iff_hash.mp alsoDerived
  exact Base64Url.encode_injective.eq_iff

theorem verify_s256 (presented stored : Option Text) : ∃ matched,
    (Transform.s256.verify presented stored).result = .ok matched ∧
    (matched = true ↔ ∃ verifier challenge, presented = some verifier ∧
      stored = some challenge ∧ s256 verifier = .ok challenge) := by
  obtain ⟨matched, answered⟩ := Transform.s256_total presented stored
  refine ⟨matched, answered, ?_⟩
  cases presented with
  | none =>
      have refused : (Transform.s256.verify none stored).result = .ok false := by
        cases stored <;> rfl
      simp [← Except.ok.inj (refused.symm.trans answered)]
  | some verifier =>
      cases stored with
      | none =>
          have refused : (Transform.s256.verify (some verifier) none).result = .ok false := rfl
          simp [← Except.ok.inj (refused.symm.trans answered)]
      | some challenge =>
          have accepted : matched = true ↔ Transform.s256.Accepts verifier challenge := by
            simp [Transform.Accepts, answered]
          simp [accepted, Transform.s256_accepts_iff]

/-- The S256 challenge is faithful to the hash. A verifier has no challenge exactly if a code point
of it is above U+007F. Else the challenge has 43 letters of the URL-safe alphabet and passes the
grammar. It is what the base64url form of the hash is without the `=` at its end, and with this one
`=` it is read as the 32 bytes of the hash; so two challenges are the same exactly if the hashes
are. The transform fails on nothing, and accepts exactly the challenge of an ASCII verifier. -/
theorem s256_faithful_to_hash (verifier : Text) :
    ((∃ run, s256 verifier = .error run) ↔ ∃ c ∈ verifier, 0x7F < c.value) ∧
    ((∀ c ∈ verifier, c.value ≤ 0x7F) → ∃ challenge, s256 verifier = .ok challenge ∧
      challenge.length = 43 ∧
      (∀ c ∈ challenge, c.isLetter = true ∨ c.isDigit = true ∨
        c = CodePoint.ofChar '-' ∨ c = CodePoint.ofChar '_') ∧
      Grammar.wellFormed challenge = true ∧
      (hash verifier).length = 32 ∧
      Base64Url.padded (hash verifier) = challenge ++ [Base64Url.filler] ∧
      Base64Url.decodePadded (challenge ++ [Base64Url.filler]) = some (hash verifier) ∧
      ∀ other otherChallenge, s256 other = .ok otherChallenge →
        (challenge = otherChallenge ↔ hash verifier = hash other)) ∧
    ∀ presented stored, ∃ matched,
      (Transform.s256.verify presented stored).result = .ok matched ∧
      (matched = true ↔ ∃ verifier challenge, presented = some verifier ∧
        stored = some challenge ∧ (∀ c ∈ verifier, c.value ≤ 0x7F) ∧
        s256 verifier = .ok challenge) := by
  refine ⟨exists_s256_error_iff, ?_, ?_⟩
  · intro ascii
    have derived : s256 verifier = .ok (Base64Url.encode (hash verifier)) :=
      s256_eq_ok_iff_hash.mpr ⟨ascii, rfl⟩
    exact ⟨_, derived, length_of_s256 derived, fun c => Base64Url.mem_alphabet_of_mem_encode,
      wellFormed_of_s256 derived, length_hash verifier,
      Base64Url.padded_of_length (length_hash verifier), decodePadded_of_s256 derived,
      fun other otherChallenge => eq_iff_hash_eq derived⟩
  · intro presented stored
    obtain ⟨matched, answered, accepts⟩ := verify_s256 presented stored
    refine ⟨matched, answered, accepts.trans ?_⟩
    constructor
    · rintro ⟨verifier, challenge, sent, held, derived⟩
      exact ⟨verifier, challenge, sent, held, (s256_eq_ok_iff_hash.mp derived).1, derived⟩
    · rintro ⟨verifier, challenge, sent, held, _, derived⟩
      exact ⟨verifier, challenge, sent, held, derived⟩

/-- The example of RFC 7636, appendix B, is the challenge of its verifier and of no other hash. -/
theorem s256_faithful_to_hash_sample :
    (∀ c ∈ sampleVerifier, c.value ≤ 0x7F) ∧ sampleChallenge.length = 43 ∧
      Base64Url.decodePadded (sampleChallenge ++ [Base64Url.filler]) =
        some (hash sampleVerifier) := by
  have ascii : ∀ c ∈ sampleVerifier, c.value ≤ 0x7F := by decide
  obtain ⟨_, faithful, _⟩ := s256_faithful_to_hash sampleVerifier
  obtain ⟨challenge, derived, length, _, _, _, _, read, _⟩ := faithful ascii
  obtain rfl : sampleChallenge = challenge :=
    Except.ok.inj (s256_sampleVerifier.symm.trans derived)
  exact ⟨ascii, length, read⟩

end Challenge

end ProofKey
