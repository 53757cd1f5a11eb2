import UriTemplate.Proofs.Expansion.Closure
import UriTemplate.Proofs.UriReference.Derivation

namespace UriTemplate

namespace Template

end Template

end UriTemplate
