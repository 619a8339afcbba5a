import ProofKey.Error
import ProofKey.Proofs.Scalar

/-! # What errors say can be sent

Error codes are fixed words, and so are the descriptions of errors in syntax.
-/

namespace ProofKey

theorem Grammar.scalar_rule : Text.Scalar rule := by
  -- fixed words and the two limits in turn
  refine .append (.append (.append (.append ?_ ?_) ?_) ?_) ?_
  all_goals exact Text.scalar_ofString _

theorem ErrorKind.scalar_code (kind : ErrorKind) : kind.code.Scalar := by
  cases kind <;> exact Text.scalar_ofString _

namespace OAuthError

theorem scalar_aboutSyntax (subject : String) : Text.Scalar (subject ++ Grammar.rule ++ ".") :=
  ((Text.scalar_ofString subject).append Grammar.scalar_rule).append (Text.scalar_ofString _)

theorem scalar_malformedChallenge : malformedChallenge.description.Scalar := scalar_aboutSyntax _

theorem scalar_malformedVerifier : malformedVerifier.description.Scalar := scalar_aboutSyntax _

end OAuthError

end ProofKey
