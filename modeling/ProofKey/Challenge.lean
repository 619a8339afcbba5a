import ProofKey.Base64Url
import ProofKey.Sha256
import ProofKey.Text.Run

/-!
# The S256 code challenge

RFC 7636 derives the challenge of a verifier as the unpadded base64url form of the SHA-256 hash of
its ASCII bytes. A verifier that is not ASCII has no challenge; the failure says where its first
run of other code points stands.
-/

namespace ProofKey

namespace Ascii

def encode (t : Text) : Except Run (List UInt8) :=
  match Run.firstWithout? CodePoint.isAscii t with
  | none => .ok (t.map fun c => UInt8.ofNat c.value)
  | some run => .error run

/-- The complaint about a run of code points outside ASCII. -/
def complaint (run : Run) : Text := run.message "ascii" "ordinal not in range(128)"

end Ascii

namespace Challenge

def s256 (verifier : Text) : Except Run Text :=
  (Ascii.encode verifier).map fun bytes => Base64Url.encode (Sha256.digest bytes)

theorem length_of_s256 {verifier challenge : Text} (h : s256 verifier = .ok challenge) :
    challenge.length = 43 := by
  simp only [s256] at h
  cases bytes : Ascii.encode verifier with
  | error run => simp [bytes, Except.map] at h
  | ok message =>
      simp only [bytes, Except.map, Except.ok.injEq] at h
      rw [← h, Base64Url.length_encode, Sha256.length_digest]

end Challenge

end ProofKey
