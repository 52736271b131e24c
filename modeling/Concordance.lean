import Concordance.View.Batch
import Concordance.Backend.Client
import Concordance.Backend.Rehearsal
import Concordance.Config.Save
import Concordance.Main
import Concordance.Proofs.Numeral
import Concordance.Proofs.Pattern.RoundTrip
import Concordance.Proofs.Pattern.Canonical
import Concordance.Proofs.Filter.RoundTrip
import Concordance.Proofs.Json.Text
import Concordance.Proofs.View.Group
import Concordance.Proofs.Url.Parts
import Concordance.Proofs.Link.Interface
import Concordance.Proofs.Link.Parameters
import Concordance.Proofs.Link.RoundTrip
import Concordance.Proofs.Annotation.Value
import Concordance.Proofs.Pattern.Layout
import Concordance.Proofs.View.Faithful
import Concordance.Proofs.Annotation.Column
import Concordance.Proofs.Pattern.Decoded
import Concordance.Proofs.View.Extended
import Concordance.Proofs.View.Tokens
import Concordance.Proofs.Navigation
import Concordance.Proofs.Backend.Latest
import Concordance.Proofs.Link.Reread
import Concordance.Proofs.Binary64.Text
import Concordance.Proofs.Link.Number
import Concordance.Proofs.View.Simple
import Concordance.Proofs.Link.Settings
import Concordance.Proofs.Pattern.Unconstrained
import Concordance.Proofs.Link.Simple
import Concordance.Proofs.Filter.Stable
import Concordance.Proofs.Pattern.Order
import Concordance.Proofs.View.Stable
import Concordance.Proofs.View.Ngram
import Concordance.Proofs.View.Slot
import Concordance.Proofs.View.Chosen
import Concordance.Proofs.Link.Shown
import Concordance.Proofs.Link.Stable
import Concordance.Proofs.View.Canonical
import Concordance.Proofs.Link.Explore
import Concordance.Proofs.Filter.Derivation
import Concordance.Proofs.Pattern.Derivation
import Concordance.Proofs.Filter.Canonical
import Concordance.Proofs.Filter.Contained
import Concordance.Proofs.Filter.Composed
import Concordance.Proofs.Pattern.Refused
import Concordance.Proofs.Backend.Client
import Concordance.Proofs.Backend.Clock
import Concordance.Proofs.Backend.Size
import Concordance.Proofs.Backend.LatestSize
import Concordance.Proofs.Backend.Reached
import Concordance.Proofs.Backend.Course
import Concordance.Proofs.Backend.Undisturbed
import Concordance.Proofs.Json.Number
import Concordance.Proofs.Json.Reread
import Concordance.Proofs.History
import Concordance.Proofs.Coordinator.Refusal
import Concordance.Proofs.Coordinator.Batch
import Concordance.Proofs.Json.Sorted
import Concordance.Proofs.Snapshot.Stable
import Concordance.Proofs.Snapshot.Prepared
import Concordance.Proofs.Link.Truncated
import Concordance.Proofs.Navigation.Trail
import Concordance.Proofs.Link.Usable
import Concordance.Proofs.Annotation.Marked
import Concordance.Proofs.Link.Bounded
import Concordance.Proofs.Snapshot.Group
import Concordance.Proofs.FilePath
import Concordance.Proofs.Config.Escape
import Concordance.Proofs.Pattern.Literal
