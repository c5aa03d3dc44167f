import EmojiText.Command
import EmojiText.Main
import EmojiText.Proofs.Index.LeadingUnit
import EmojiText.Proofs.Scan.NormalForm
import EmojiText.Proofs.Scan.Loop
import EmojiText.Proofs.Scan.Longest
import EmojiText.Proofs.ShortCode.Leftmost
import EmojiText.Proofs.Handle.Resolve
import EmojiText.Proofs.ShortCode.Replacement
import EmojiText.Proofs.Dataset.Records
import EmojiText.Proofs.Index.Empty
import EmojiText.Proofs.Engine.Call
import EmojiText.Proofs.Engine.Run
import EmojiText.Proofs.Text.Case
import EmojiText.Proofs.Text.Order
import EmojiText.Proofs.Index.Code
import EmojiText.Proofs.Index.Pass
import EmojiText.Proofs.Index.Representation
import EmojiText.Proofs.Scan.Rescan
import EmojiText.Proofs.Dataset.Findable
import EmojiText.Proofs.Dataset.RoundTrip
import EmojiText.Proofs.Dataset.Flattening
import EmojiText.Proofs.Dataset.Complete
import EmojiText.Proofs.Engine.Serving
import EmojiText.Proofs.Text.Hexadecimal
import EmojiText.Proofs.Code.LetterCase
import EmojiText.Proofs.Code.Spelling
import EmojiText.Proofs.Engine.CodeRoundTrip
import EmojiText.Proofs.Engine.Addresses
import EmojiText.Proofs.Json.Reading
import EmojiText.Proofs.Json.Encoded
import EmojiText.Proofs.Engine.LoadSignal
import EmojiText.Proofs.Scan.Agreement
import EmojiText.Proofs.Index.UnifiedCode
import EmojiText.Proofs.ShortCode.Separator
import EmojiText.Proofs.ShortCode.Settled
import EmojiText.Proofs.Session.Procedure
import EmojiText.Proofs.Session.Holdings
import EmojiText.Proofs.Session.Making
import EmojiText.Proofs.Session.Run
import EmojiText.Proofs.Session.Reload
import EmojiText.Proofs.Files.Path
import EmojiText.Proofs.Files.Change
import EmojiText.Proofs.Files.Refusal
import EmojiText.Proofs.Logging.Paths
import EmojiText.Proofs.Logging.Backend
import EmojiText.Proofs.Logging.SetUp
import EmojiText.Proofs.Logging.Standard
import EmojiText.Proofs.Logging.Recovery
import EmojiText.Proofs.Command.Filter
import EmojiText.Proofs.Config.Accepted
import EmojiText.Proofs.Config.ImageScale
import EmojiText.Proofs.Engine.Scale
import EmojiText.Proofs.Code.Canonical
import EmojiText.Proofs.Dataset.CanonicalCode
import EmojiText.Proofs.Dataset.Diagnostics
import EmojiText.Proofs.Scan.Separator
import EmojiText.Proofs.ShortCode.Overlooked
import EmojiText.Proofs.Text.Literal
import EmojiText.Proofs.Code.Grammar
import EmojiText.Proofs.Code.Denotation
import EmojiText.Proofs.Text.CaseParts
import EmojiText.Proofs.Index.Completion
import EmojiText.Proofs.Engine.ListedCodes
import EmojiText.Proofs.Tone.Naming
import EmojiText.Proofs.Dataset.VariantCodes
