import ProofKey.Challenge
import ProofKey.Error

/-!
# Log events

Each operation lists the events that it logs, in order. What an event shows is fixed here: the
only one whose text depends on a verifier is `unhashableVerifier`.
-/

namespace ProofKey

inductive LogLevel where
  | debug
  | info
  | warning
  deriving DecidableEq, Repr

def LogLevel.name : LogLevel → Text
  | debug => "DEBUG"
  | info => "INFO"
  | warning => "WARNING"

/-- Something worth a line in the log. -/
inductive LogEvent where
  /-- A method id got its first transform, or the one it had. -/
  | registered (methodId : Text)
  /-- Another transform took the place of one with the same id; both are shown. -/
  | replaced (methodId old new : Text)
  /-- A verifier outside ASCII met the S256 transform. -/
  | unhashableVerifier (run : Run)
  /-- An authorization request was accepted with a challenge. -/
  | challengeAccepted (methodId : Text)
  /-- Neither side used PKCE. -/
  | noPkce
  /-- A transform gave its verdict. -/
  | verdict (methodId : Text) (matched : Bool)
  /-- A code was issued. -/
  | codeIssued (outstanding : Nat)
  /-- The code of a redemption is not outstanding. -/
  | unknownCode
  /-- The verifier of a redemption does not match. -/
  | codeRejected
  /-- A query string came where none is allowed. -/
  | queryNotAllowed
  /-- A token request ended with an OAuth error. -/
  | requestRejected (errorName errorCode : Text)
  deriving DecidableEq, Repr

namespace LogEvent

/-- Replacing a transform is notable, hashing trouble is a warning, all else is detail. -/
def level : LogEvent → LogLevel
  | replaced .. => .info
  | unhashableVerifier _ => .warning
  | _ => .debug

def message : LogEvent → Text
  | registered methodId => "Registered code challenge method " ++ Text.quoted methodId
  | replaced methodId old new =>
      "Replaced code challenge method " ++ Text.quoted methodId ++ ": " ++ old ++ " -> " ++ new
  | unhashableVerifier run =>
      "S256 transform could not hash code verifier: " ++ Ascii.complaint run
  | challengeAccepted methodId => "Authorization request uses PKCE method " ++ Text.quoted methodId
  | noPkce => "No PKCE parameters, plain authorization code grant"
  | verdict methodId matched =>
      "PKCE " ++ methodId ++ " verification result: matched=" ++
        (if matched then "True" else "False")
  | codeIssued outstanding =>
      "Issued authorization code (" ++ Text.ofNat outstanding ++ " outstanding)"
  | unknownCode => "Redemption of unknown or already used authorization code"
  | codeRejected => "Authorization code rejected by PKCE verification"
  | queryNotAllowed => "Call to token endpoint contains a query string. Aborting."
  | requestRejected errorName errorCode =>
      "Token request rejected: " ++ errorName ++ ": " ++ errorCode

end LogEvent

end ProofKey
