import InlineDice.Random.Twister
import InlineDice.Processor.Recipe
import InlineDice.Registry.Family
import InlineDice.Workbench
import InlineDice.CommandLine.Arguments
import InlineDice.CommandLine.Directory
import InlineDice.CommandLine.Run
import InlineDice.Main
import InlineDice.Web.Routes
import InlineDice.Proofs.LineGrammar
import InlineDice.Proofs.LineAnswers
import InlineDice.Proofs.DocumentRewriting
import InlineDice.Proofs.ExpandedDocuments
import InlineDice.Proofs.DiceThrows
import InlineDice.Proofs.RollCourse
import InlineDice.Proofs.TokenLimits
import InlineDice.Proofs.BoundedTokens
import InlineDice.Proofs.ReproducedNames
import InlineDice.Proofs.TrueReports
import InlineDice.Proofs.SharedPipeline
import InlineDice.Proofs.RegistryLineages
import InlineDice.Proofs.ReportReading
import InlineDice.Proofs.RequestErasure
import InlineDice.Proofs.CommandOutcomes
import InlineDice.Proofs.ProcessorIsolation
import InlineDice.Proofs.AlignedColumns
import InlineDice.Proofs.CommandTexts
import InlineDice.Proofs.LineReplacement
import InlineDice.Proofs.RegistrableSymbols
import InlineDice.Proofs.StrictDocuments
import InlineDice.Proofs.PageMarkup
import InlineDice.Proofs.TokenMessages
import InlineDice.Proofs.CommandOptions
import InlineDice.Proofs.ExpandedFiles
