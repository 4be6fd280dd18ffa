import RequestRouting.Config.Router
import RequestRouting.Proofs.Routing.FirstMatch
import RequestRouting.Proofs.Template.Alternation
import RequestRouting.Proofs.Routing.Effects
import RequestRouting.Proofs.Regex.Reading
import RequestRouting.Proofs.Regex.Enclosed
import RequestRouting.Proofs.Template.Anchors
import RequestRouting.Proofs.Regex.Groups
import RequestRouting.Proofs.Template.Numbering
import RequestRouting.Proofs.Template.Calls
import RequestRouting.Proofs.Routing.Agreement
import RequestRouting.Proofs.Config.Entries
import RequestRouting.Proofs.Config.Meaning
import RequestRouting.Proofs.Config.Faults
import RequestRouting.Proofs.Uri.Reference
import RequestRouting.Proofs.Uri.Faults
import RequestRouting.Proofs.Routing.RequestTarget
import RequestRouting.Proofs.Routing.AbsoluteForm
import RequestRouting.Proofs.Routing.LiteralStart
import RequestRouting.Proofs.Template.Substitution
import RequestRouting.Proofs.Template.SegmentSplat
import RequestRouting.Proofs.Query.Encoding
import RequestRouting.Proofs.Template.NormalForm
import RequestRouting.Proofs.Template.RepeatedSplats
import RequestRouting.Proofs.Config.WellFormed
import RequestRouting.Proofs.Query.Concatenation
import RequestRouting.Proofs.Config.Rendering
import RequestRouting.Proofs.Routing.Leaves
import RequestRouting.Proofs.Template.Replacements
import RequestRouting.Proofs.Routing.Descriptions
