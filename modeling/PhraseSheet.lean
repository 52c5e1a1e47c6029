import PhraseSheet.Command.Reply
import PhraseSheet.Conversion.Document
import PhraseSheet.Formula.Evaluate
import PhraseSheet.Formula.Parser
import PhraseSheet.Intent.Detection
import PhraseSheet.Json.Printer
import PhraseSheet.Json.Reader
import PhraseSheet.Main
import PhraseSheet.Proofs.Acceptance
import PhraseSheet.Proofs.Agreement
import PhraseSheet.Proofs.ColumnOrder
import PhraseSheet.Proofs.Coverage
import PhraseSheet.Proofs.Rewriting
import PhraseSheet.Proofs.RowContext
import PhraseSheet.Request.Document
import PhraseSheet.Row.Document
import PhraseSheet.Sheet.Document
import PhraseSheet.Text.Fold
import PhraseSheet.Proofs.Exchange
import PhraseSheet.Proofs.Inlining
import PhraseSheet.Proofs.Doubles
import PhraseSheet.Proofs.DecimalReading
import PhraseSheet.Proofs.ReadingBack
import PhraseSheet.Proofs.Dependence
import PhraseSheet.Proofs.Ranking
import PhraseSheet.Proofs.WorkingContext
import PhraseSheet.Proofs.HeaderReading
import PhraseSheet.Proofs.EntryOrder
import PhraseSheet.Proofs.AssignedNames
import PhraseSheet.Proofs.ResolvedRows
import PhraseSheet.Proofs.TreeHeight
import PhraseSheet.Proofs.DraftValidity
import PhraseSheet.Proofs.ErrorOrigin
import PhraseSheet.Proofs.ReadFaults
import PhraseSheet.Proofs.Spacing
import PhraseSheet.Proofs.RangeValues
import PhraseSheet.Proofs.ValueOrder
import PhraseSheet.Proofs.LetterCase
import PhraseSheet.Proofs.Aggregates
import PhraseSheet.Proofs.Conditions
import PhraseSheet.Proofs.GroupedAmounts
import PhraseSheet.Proofs.TableLookup
import PhraseSheet.Proofs.StableFolding
import PhraseSheet.Proofs.TemplateText
import PhraseSheet.Proofs.WrittenNumerals
import PhraseSheet.Proofs.AmountSeparators
import PhraseSheet.Proofs.Failures
import PhraseSheet.Proofs.MachineWords
import PhraseSheet.Proofs.PackedRanges
import PhraseSheet.Proofs.ValueDocuments
