import UriTemplate.Proofs.Expansion.Closure
import UriTemplate.Proofs.UriReference.Components

namespace UriTemplate

open PercentEncoding

namespace UriReference

section Plain

variable {text : Text} (isMadeOf : IsMadeOf isPlainCharacter text)

include isMadeOf

end Plain

/-! Texts that start with a scheme and an authority. -/

end UriReference

namespace Expansion

open UriReference

section Alphabet

variable {test : CodePoint → Bool}
  (unreserved : ∀ codePoint, codePoint.isUnreserved = true → test codePoint = true)

include unreserved

end Alphabet

end Expansion

namespace Template

variable {source : Text} {template : Template}

end Template

end UriTemplate
