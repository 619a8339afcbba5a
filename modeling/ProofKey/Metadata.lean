import ProofKey.Registry
import ProofKey.Wire

/-!
# Server metadata

The part of the authorization server metadata (RFC 8414) that tells clients which challenge
methods there are. The list has at least one method and is strictly increasing by code point.
-/

namespace ProofKey

structure Metadata where
  methods : List Text
  deriving DecidableEq, Repr

namespace Metadata

def methodsName : Text := "code_challenge_methods_supported"

/-- The metadata of some methods, of which there must be one. -/
def ofMethods (methods : List Text) : Except (List FieldError) Metadata :=
  if methods.isEmpty then .error [⟨.emptyList, [methodsName]⟩]
  else .ok ⟨Text.sorted methods⟩

def ofFields (fields : Wire.Fields) : Except (List FieldError) Metadata :=
  (Wire.someTexts fields methodsName) >>= ofMethods

def ofRegistry (r : Registry) : Except (List FieldError) Metadata := ofMethods r.ids

end Metadata

end ProofKey
