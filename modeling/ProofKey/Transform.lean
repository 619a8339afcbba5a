import ProofKey.Report
import ProofKey.Text.Utf8

/-!
# Challenge transforms

A transform belongs to a code challenge method and decides whether a verifier maps onto a
challenge. `plain` and `s256` are the methods of RFC 7636; others may be added. Either value may
be absent, and then no transform of this module accepts.
-/

namespace ProofKey

/-- A way to check a verifier against a challenge, selected by its method id. -/
structure Transform where
  /-- The name under which logs show the transform. -/
  name : Text
  methodId : Text
  /-- Whether the verifier, the first value, maps onto the challenge. -/
  verify : Option Text → Option Text → Report Bool

namespace Transform

/-- The id of the method that compares the verifier itself. -/
def plainId : Text := "plain"

/-- The id of the method that compares the hash of the verifier. -/
def s256Id : Text := "S256"

def shown (t : Transform) : Text := t.name ++ "(method_id=" ++ Text.quoted t.methodId ++ ")"

/-- Two texts are compared by all bytes of their UTF-8 form, which keeps surrogates apart. -/
def sameBytes (left right : Text) : Bool := Utf8.encode left == Utf8.encode right

def plain : Transform where
  name := "PlainTransform"
  methodId := plainId
  verify
    | some verifier, some challenge => .ok (sameBytes verifier challenge)
    | _, _ => .ok false

/-- The challenge is derived from the verifier; a verifier outside ASCII matches none. -/
def s256 : Transform where
  name := "S256Transform"
  methodId := s256Id
  verify
    | some verifier, some challenge =>
        match Challenge.s256 verifier with
        | .ok expected => .ok (sameBytes expected challenge)
        | .error run => ⟨.ok false, [.unhashableVerifier run]⟩
    | _, _ => .ok false

/-- The transforms that settings can name, in the order in which they are listed. -/
def builtIn : List Transform := [s256, plain]

def builtIn? (methodId : Text) : Option Transform :=
  builtIn.find? fun t => t.methodId = methodId

end Transform

end ProofKey
