import ProofKey.Proofs.Utf8
import ProofKey.Transform

/-! # What the built-in transforms accept

Every verifier that passes the grammar has an S256 challenge, and that challenge
passes the grammar too. The verdicts of the built-in transforms are equalities
of texts, since UTF-8 is injective.
-/

namespace ProofKey

namespace Base64Url

theorem isUnreserved_letter (n : Nat) : Grammar.isUnreserved (letter n) = true := by
  have beforeLast : ∀ m < 63, Grammar.isUnreserved (letter m) = true := by decide
  by_cases small : n < 63
  · exact beforeLast n small
  · have last : letter n = CodePoint.ofChar '_' := by
      unfold letter
      rw [if_neg (by omega), if_neg (by omega), if_neg (by omega), if_neg (by omega)]
    rw [last]
    decide

theorem isUnreserved_of_mem_encode {bytes : List UInt8} :
    ∀ c ∈ encode bytes, Grammar.isUnreserved c = true := by
  fun_induction encode bytes with
  | case1 => simp
  | case2 a => simp [isUnreserved_letter]
  | case3 a b => simp [isUnreserved_letter]
  | case4 a b c rest ih => simpa [isUnreserved_letter] using ih

end Base64Url

namespace Ascii

theorem encode_of_ascii {t : Text} (h : ∀ c ∈ t, c.isAscii = true) :
    encode t = .ok (t.map fun c => UInt8.ofNat c.value) := by
  have allWritable : Run.firstWithout? CodePoint.isAscii t = none :=
    Run.firstWithout?_eq_none_iff.mpr h
  simp only [encode, allWritable]

end Ascii

namespace Challenge

theorem exists_s256 {verifier : Text} (wf : Grammar.wellFormed verifier = true) :
    ∃ challenge, s256 verifier = .ok challenge := by
  obtain ⟨_, _, unreserved⟩ := Grammar.wellFormed_iff.mp wf
  have ascii : ∀ c ∈ verifier, c.isAscii = true :=
    fun c member => Grammar.isAscii_of_isUnreserved (unreserved c member)
  simp only [s256, Ascii.encode_of_ascii ascii, Except.map]
  exact ⟨_, rfl⟩

theorem wellFormed_of_s256 {verifier challenge : Text} (h : s256 verifier = .ok challenge) :
    Grammar.wellFormed challenge = true := by
  have length := length_of_s256 h
  refine Grammar.wellFormed_iff.mpr ⟨by simp [length, Grammar.minLength],
    by simp [length, Grammar.maxLength], ?_⟩
  simp only [s256] at h
  cases bytes : Ascii.encode verifier with
  | error run => simp [bytes, Except.map] at h
  | ok message =>
      simp only [bytes, Except.map, Except.ok.injEq] at h
      subst h
      exact Base64Url.isUnreserved_of_mem_encode

/-- The verifier of the example in RFC 7636, appendix B. -/
def sampleVerifier : Text := "dBjftJeZ4CVP-mB92K27uhbUJU1p1r_wW1gFWFOEjXk"

def sampleChallenge : Text := "E9Melhoa2OwvFrEMTJguCHaoeK1t8URWbuGJSstw-cM"

theorem s256_sampleVerifier : s256 sampleVerifier = .ok sampleChallenge := by
  have derived : (s256 sampleVerifier).toOption = some sampleChallenge := by decide +kernel
  cases result : s256 sampleVerifier with
  | error run => simp [result, Except.toOption] at derived
  | ok challenge => simpa [result, Except.toOption] using derived

end Challenge

namespace Transform

/-- The transform's verdict on a verifier and a challenge is that they match. -/
def Accepts (t : Transform) (verifier challenge : Text) : Prop :=
  (t.verify (some verifier) (some challenge)).result = .ok true

/-- The transform gives a verdict on anything, absent values included. -/
def Total (t : Transform) : Prop :=
  ∀ verifier challenge, ∃ matched, (t.verify verifier challenge).result = .ok matched

theorem sameBytes_iff {left right : Text} : sameBytes left right = true ↔ left = right := by
  simp only [sameBytes, beq_iff_eq]
  exact Utf8.encode_injective.eq_iff

theorem plain_accepts_iff {verifier challenge : Text} :
    plain.Accepts verifier challenge ↔ verifier = challenge := by
  simp [Accepts, plain, Report.ok, sameBytes_iff]

theorem s256_accepts_iff {verifier challenge : Text} :
    s256.Accepts verifier challenge ↔ Challenge.s256 verifier = .ok challenge := by
  cases derived : Challenge.s256 verifier with
  | error run => simp [Accepts, s256, derived]
  | ok expected => simp [Accepts, s256, derived, Report.ok, sameBytes_iff]

theorem plain_total : plain.Total := by
  intro verifier challenge
  cases verifier <;> cases challenge <;> exact ⟨_, rfl⟩

theorem s256_total : s256.Total := by
  intro verifier challenge
  cases verifier with
  | none => exact ⟨false, by cases challenge <;> rfl⟩
  | some presented =>
      cases challenge with
      | none => exact ⟨false, rfl⟩
      | some challenge =>
          cases derived : Challenge.s256 presented with
          | error run => exact ⟨false, by simp [s256, derived]⟩
          | ok expected => exact ⟨sameBytes expected challenge, by simp [s256, derived, Report.ok]⟩

theorem mem_builtIn_iff {t : Transform} : t ∈ builtIn ↔ t = .s256 ∨ t = .plain := by
  simp [builtIn]

end Transform

end ProofKey
