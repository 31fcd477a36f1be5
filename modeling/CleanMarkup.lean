import CleanMarkup.Text.Words
import CleanMarkup.Text.Entity
import CleanMarkup.Unicode.Script
import CleanMarkup.Unicode.Word
import CleanMarkup.Unicode.Lowercase
import CleanMarkup.Unicode.Folding
import CleanMarkup.Unicode.Bidi
import CleanMarkup.Unicode.Joining
import CleanMarkup.Host.Mapping
import CleanMarkup.Token
import CleanMarkup.Policy
import CleanMarkup.OpenTags
import CleanMarkup.Settings
import CleanMarkup.Shorthand
import CleanMarkup.Log
import CleanMarkup.Summary
import CleanMarkup.Pattern.Property
import CleanMarkup.Proofs.Encoding
import CleanMarkup.Proofs.Names
import CleanMarkup.Proofs.Spans
import CleanMarkup.Proofs.Finding
import CleanMarkup.Proofs.Segments
import CleanMarkup.Proofs.Trimming
import CleanMarkup.Proofs.Scans
import CleanMarkup.Proofs.Restyling
import CleanMarkup.Proofs.Styles
import CleanMarkup.Proofs.Survivors
import CleanMarkup.Proofs.Acceptance
import CleanMarkup.Proofs.Settling
import CleanMarkup.Proofs.Counting
import CleanMarkup.Proofs.Pieces
import CleanMarkup.Proofs.Nesting
import CleanMarkup.Proofs.Shown
import CleanMarkup.Proofs.Stored
import CleanMarkup.Proofs.Shapes
import CleanMarkup.Proofs.Emission
import CleanMarkup.Proofs.Containment
import CleanMarkup.Proofs.Balance
import CleanMarkup.Proofs.Guarding
import CleanMarkup.Proofs.Idempotence
import CleanMarkup.Proofs.Skipping
import CleanMarkup.Proofs.CutOut
import CleanMarkup.Proofs.Storage
import CleanMarkup.Proofs.Faults
import CleanMarkup.Proofs.Unchanged
import CleanMarkup.Proofs.Documents
import CleanMarkup.Proofs.Appending
import CleanMarkup.Proofs.Concatenation
import CleanMarkup.Proofs.Rechecking
import CleanMarkup.Proofs.Agreement
import CleanMarkup.Proofs.JoinedWords
import CleanMarkup.Proofs.Extraction
import CleanMarkup.Proofs.Sizes
import CleanMarkup.Proofs.Clearance
import CleanMarkup.Proofs.Enclosure
import CleanMarkup.Proofs.Expansion
import CleanMarkup.Proofs.Loosening
import CleanMarkup.Proofs.Limits
import CleanMarkup.Proofs.Verdict
import CleanMarkup.Proofs.SafeAttributes
import CleanMarkup.Proofs.References
import CleanMarkup.Proofs.SafeStyles
import CleanMarkup.Proofs.Segmentation
import CleanMarkup.Proofs.Grammar
import CleanMarkup.Proofs.Accounting
import CleanMarkup.Proofs.Keys
import CleanMarkup.Proofs.Origins
import CleanMarkup.Proofs.NameCounts
import CleanMarkup.Proofs.Risk
import CleanMarkup.Proofs.Ranking
import CleanMarkup.Proofs.Histories
import CleanMarkup.Proofs.Matching
import CleanMarkup.Proofs.ExactNames
import CleanMarkup.Proofs.Mirroring
