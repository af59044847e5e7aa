import ObjectSpec.Description
import ObjectSpec.Fault.Report
import ObjectSpec.Fault.Serialized
import ObjectSpec.Proofs.Accounting
import ObjectSpec.Proofs.BareValues
import ObjectSpec.Proofs.Conformance
import ObjectSpec.Proofs.Idempotence
import ObjectSpec.Proofs.Reordering
import ObjectSpec.Proofs.RequiredRecords
import ObjectSpec.Proofs.Siblings
import ObjectSpec.Proofs.Violations
import ObjectSpec.Source
import ObjectSpec.Proofs.Relaxation
import ObjectSpec.Proofs.Leniency
import ObjectSpec.Proofs.Aborts
import ObjectSpec.Proofs.Pruning
import ObjectSpec.Proofs.FaultTrees
import ObjectSpec.Proofs.FirstFault
import ObjectSpec.Proofs.Reconstruction
import ObjectSpec.Proofs.FittingFaults
import ObjectSpec.Proofs.Serialization
import ObjectSpec.Proofs.CheckedKeys
import ObjectSpec.Proofs.MessageTrees
import ObjectSpec.Proofs.MessageReports
import ObjectSpec.Proofs.Numerals
import ObjectSpec.Proofs.QuotedTexts
import ObjectSpec.Proofs.PathTexts
import ObjectSpec.Proofs.Pieces
import ObjectSpec.Proofs.SequenceItems
import ObjectSpec.Proofs.ObjectSequences
import ObjectSpec.Proofs.MapKeys
import ObjectSpec.Proofs.KeyLookups
import ObjectSpec.Proofs.Rounding
import ObjectSpec.Proofs.NumberRange
import ObjectSpec.Proofs.NumeralGrammar
import ObjectSpec.Proofs.UnreadNumbers
import ObjectSpec.Proofs.SpelledIntegers
import ObjectSpec.Proofs.DeclarationHistories
import ObjectSpec.Proofs.DomainNames
import ObjectSpec.Proofs.EmailAddresses
import ObjectSpec.Proofs.DateTimeScans
import ObjectSpec.Proofs.AcceptedDateTimes
import ObjectSpec.Proofs.ModifierOrder
import ObjectSpec.Proofs.OneLineTexts
import ObjectSpec.Proofs.EachViolation
import ObjectSpec.Proofs.ReportLines
