import NetQuery.Main
import NetQuery.Proofs.Plan.Demands
import NetQuery.Proofs.Query.Grammar
import NetQuery.Proofs.Query.Reading
import NetQuery.Proofs.Query.Printing
import NetQuery.Proofs.Text.Delimited
import NetQuery.Proofs.Plan.CacheKey
import NetQuery.Proofs.Score.Gate
import NetQuery.Proofs.Session.OneShot
import NetQuery.Proofs.Spelling.Idempotence
import NetQuery.Proofs.Query.Alike
import NetQuery.Proofs.Query.Placement
import NetQuery.Proofs.Spelling.Alone
import NetQuery.Proofs.Spelling.Meaning
import NetQuery.Proofs.Spelling.Preservation
import NetQuery.Proofs.Plan.Failure
import NetQuery.Proofs.Compilation
import NetQuery.Proofs.Plan.Journal
import NetQuery.Proofs.Number.Digits
import NetQuery.Proofs.Query.Reprinting
import NetQuery.Proofs.Compilation.Leftovers
import NetQuery.Proofs.Score.Weights
import NetQuery.Proofs.Score.NormalForm
import NetQuery.Proofs.Regex.Wildcards
import NetQuery.Proofs.Score.Patterns
import NetQuery.Proofs.Plan.Running
import NetQuery.Proofs.Plan.Order
import NetQuery.Proofs.Token.Tiling
import NetQuery.Proofs.Token.Quotations
import NetQuery.Proofs.Spelling.Alternatives
import NetQuery.Proofs.Compilation.Warnings
import NetQuery.Proofs.Plan.Effect
import NetQuery.Proofs.Calendar.Texts
import NetQuery.Proofs.Plan.Windows
import NetQuery.Proofs.Plan.SentDates
import NetQuery.Proofs.Plan.Addresses
import NetQuery.Proofs.Address.Blocks
import NetQuery.Proofs.Plan.StoredTimes
import NetQuery.Proofs.Plan.Overflow
import NetQuery.Proofs.Address.InFull
import NetQuery.Proofs.Plan.Equality
import NetQuery.Proofs.Glob.Texts
import NetQuery.Proofs.Address.Wildcards
import NetQuery.Proofs.Plan.Flags
import NetQuery.Proofs.Plan.Missing
import NetQuery.Proofs.Plan.OwnTexts
import NetQuery.Proofs.Spelling.Guard
import NetQuery.Proofs.Score.FreeText
import NetQuery.Proofs.Query.Faults
import NetQuery.Proofs.Query.Height
import NetQuery.Proofs.Query.Rounds
import NetQuery.Proofs.Query.Depth
import NetQuery.Proofs.Query.SideBySide
import NetQuery.Proofs.Query.Recovery
import NetQuery.Proofs.Query.Fields
import NetQuery.Proofs.Query.Hints
import NetQuery.Proofs.Token.Spacing
import NetQuery.Proofs.Query.Closest
import NetQuery.Proofs.Score.Separators
import NetQuery.Proofs.Query.Progress
