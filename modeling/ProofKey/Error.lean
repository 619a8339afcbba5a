import ProofKey.Grammar
import ProofKey.Text.Charset.Fault
import ProofKey.Text.Pieces
import ProofKey.Text.Run

/-!
# Errors

An `OAuthError` is the expected result of bad client input: it has a kind, which fixes the OAuth
error code, and a description, which the client is shown. A `Fault` is not the client's doing.
`Failure` is either.
-/

namespace ProofKey

/-- What went wrong with a request. An unsupported method may name the method. -/
inductive ErrorKind where
  /-- Any OAuth error. -/
  | general
  /-- A code that cannot be redeemed, whether unknown, used, or not matched. -/
  | invalidGrant
  /-- Any PKCE parameter that is missing, malformed or unsupported. -/
  | pkce
  /-- A challenge was stored and no verifier came. -/
  | missingVerifier
  /-- A verifier came and no challenge was stored. -/
  | missingChallenge
  /-- The challenge breaks the grammar. -/
  | invalidChallengeSyntax
  /-- The verifier breaks the grammar. -/
  | invalidVerifierSyntax
  /-- The challenge method is not registered. -/
  | unsupportedMethod (methodId : Option Text)
  /-- The code holds a space before a verifier is joined to it. -/
  | malformedCode
  deriving DecidableEq, Repr

namespace ErrorKind

def name : ErrorKind → Text
  | general => "OAuth2Error"
  | invalidGrant => "InvalidGrantError"
  | pkce => "PKCEError"
  | missingVerifier => "MissingVerifierError"
  | missingChallenge => "MissingChallengeError"
  | invalidChallengeSyntax => "InvalidChallengeSyntaxError"
  | invalidVerifierSyntax => "InvalidVerifierSyntaxError"
  | unsupportedMethod _ => "UnsupportedMethodError"
  | malformedCode => "MalformedCodeError"

/-- A kind and all more general ones, up to the general OAuth error. -/
def ancestry (kind : ErrorKind) : List ErrorKind :=
  match kind with
  | general => [general]
  | invalidGrant => [invalidGrant, general]
  | pkce => [pkce, general]
  | _ => [kind, pkce, general]

/-- The OAuth error code (RFC 6749). -/
def code : ErrorKind → Text
  | invalidGrant => "invalid_grant"
  | _ => "invalid_request"

end ErrorKind

/-- An error that the client is told about. -/
structure OAuthError where
  kind : ErrorKind
  description : Text
  deriving DecidableEq, Repr

namespace OAuthError

/-- A challenge is stored with the code, and the token request has no verifier. -/
def missingVerifier : OAuthError :=
  ⟨.missingVerifier, "Code verifier must be provided for this authorization code."⟩

/-- The token request has a verifier for a code without a challenge. -/
def missingChallenge : OAuthError :=
  ⟨.missingChallenge, "Code verifier not required for this authorization code."⟩

/-- The same for unknown, used and mismatched codes, so that a client cannot tell them apart. -/
def invalidCode : OAuthError := ⟨.invalidGrant, "Invalid authorization code"⟩

def malformedChallenge : OAuthError :=
  ⟨.invalidChallengeSyntax, "Code challenge " ++ Grammar.rule ++ "."⟩

def malformedVerifier : OAuthError :=
  ⟨.invalidVerifierSyntax, "Code verifier " ++ Grammar.rule ++ "."⟩

/-- The verifier parameter was sent without a value. -/
def emptyVerifier : OAuthError :=
  ⟨.invalidVerifierSyntax, "Code verifier parameter must not be empty if provided."⟩

def codeWithSpace : OAuthError :=
  ⟨.malformedCode, "Authorization code must not contain spaces."⟩

/-- At the authorization step: says which methods there are and nothing of the one asked for. -/
def methodNotOffered (methodId : Text) (offered : List Text) : OAuthError :=
  ⟨.unsupportedMethod (some methodId),
    "Unsupported code challenge method. Supported: " ++
      List.intercalate (Text.ofString ", ") offered⟩

/-- At the token step: the method stored with the code has no transform. -/
def methodNotRegistered (methodId : Text) : OAuthError :=
  ⟨.unsupportedMethod (some methodId),
    "Unsupported code challenge method " ++ Text.quoted methodId⟩

/-- In the settings: no built-in transform has this id. -/
def methodNotBuiltIn (methodId : Text) (builtIn : List Text) : OAuthError :=
  ⟨.unsupportedMethod (some methodId),
    "Unknown code challenge method " ++ Text.quoted methodId ++ ". Available: " ++
      List.intercalate (Text.ofString ", ") builtIn⟩

/-- The description of the kinds that have one of their own. -/
def defaultDescription? : ErrorKind → Option Text
  | .missingVerifier => some missingVerifier.description
  | .missingChallenge => some missingChallenge.description
  | _ => none

end OAuthError

/-- A failure that no client input explains. -/
inductive Fault where
  /-- The source of fresh codes made one with a space in it. -/
  | codeWithSpace
  /-- The source of fresh codes made one that is still outstanding. -/
  | duplicateCode
  /-- The source of fresh codes failed. -/
  | codeSource (message : Text)
  /-- A transform failed instead of giving a verdict. -/
  | transform (message : Text)
  /-- The grant handler failed. -/
  | handler (message : Text)
  /-- The character set of a form failed instead of giving a verdict on its bytes. -/
  | charset (fault : CharsetFault)
  /-- The framework failed on the URL of a request. -/
  | url (message : Text)
  /-- The grant handler gave a value for which JSON has no form. -/
  | notJson (message : Text)
  /-- The body of an answer has surrogates, which no bytes can carry. -/
  | surrogates (run : Run)
  /-- A number in a path has more digits than are ever read. -/
  | tooManyDigits (digits : Nat)
  deriving DecidableEq, Repr

/-- The greatest number of digits that is read as a number. -/
def digitLimit : Nat := 4300

def Fault.message : Fault → Text
  | codeWithSpace => "Code factory produced a code containing a space"
  | duplicateCode => "Code factory produced a duplicate code"
  | codeSource message => message
  | transform message => message
  | handler message => message
  | charset fault => fault.message
  | url message => message
  | notJson message => message
  | surrogates run => run.surrogatesMessage
  | tooManyDigits digits =>
      "Exceeds the limit (" ++ Text.ofNat digitLimit ++
        " digits) for integer string conversion: value has " ++ Text.ofNat digits ++
        " digits; use sys.set_int_max_str_digits() to increase the limit"

/-- Why an operation gave no answer. -/
inductive Failure where
  | refused (error : OAuthError)
  | fault (fault : Fault)
  deriving DecidableEq, Repr

def Failure.message : Failure → Text
  | refused error => error.description
  | fault f => f.message

end ProofKey
