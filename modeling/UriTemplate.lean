import UriTemplate.Bindings.Assignments
import UriTemplate.Bindings.File
import UriTemplate.Main
import UriTemplate.Number.Fixed
import UriTemplate.Proofs.Bindings.Assignments
import UriTemplate.Proofs.Cache.Accounting
import UriTemplate.Proofs.Cache.Disabled
import UriTemplate.Proofs.Cache.Freshness
import UriTemplate.Proofs.Cache.Inclusion
import UriTemplate.Proofs.Cache.UseOrder
import UriTemplate.Proofs.Expansion.Composition
import UriTemplate.Proofs.Expansion.Contributions
import UriTemplate.Proofs.Expansion.Definedness
import UriTemplate.Proofs.Expansion.Delimiters
import UriTemplate.Proofs.Expansion.Members
import UriTemplate.Proofs.Expansion.Modifiers
import UriTemplate.Proofs.Expansion.Octets
import UriTemplate.Proofs.Expansion.QueryFields
import UriTemplate.Proofs.Expansion.References
import UriTemplate.Proofs.Expansion.Rereading
import UriTemplate.Proofs.Expansion.Splitting
import UriTemplate.Proofs.Expansion.Strict
import UriTemplate.Proofs.Expansion.VariableNames
import UriTemplate.Proofs.PercentEncoding.FixedPoints
import UriTemplate.Proofs.Session.Failures
import UriTemplate.Proofs.Settings.Environment
import UriTemplate.Proofs.Syntax.CursorReadings
import UriTemplate.Proofs.Syntax.FaultPlace
import UriTemplate.Proofs.UriReference.LineFeeds
import UriTemplate.Proofs.UriReference.Published
import UriTemplate.Proofs.Value.Identity
import UriTemplate.Syntax.Document
