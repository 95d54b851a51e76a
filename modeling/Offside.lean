import Offside.Grammar.Frontend
import Offside.Main
import Offside.Proofs.Reading
import Offside.Proofs.Levels
import Offside.Proofs.Lines
import Offside.Proofs.Rewinding
import Offside.Proofs.Nesting
import Offside.Proofs.Margins
import Offside.Proofs.MarginStack
import Offside.Proofs.StartingOver
import Offside.Proofs.SnapshotEquality
import Offside.Proofs.Acceptance
import Offside.Proofs.Causality
import Offside.Proofs.Refills
import Offside.Proofs.Sessions
import Offside.Proofs.CurrentLine
import Offside.Proofs.Conservation
import Offside.Proofs.EndOfText
import Offside.Proofs.Questions
import Offside.Proofs.RepeatedPatterns
import Offside.Proofs.Scanning
import Offside.Proofs.StandardTable
import Offside.Proofs.Quoting
import Offside.Proofs.Origins
import Offside.Proofs.Listing
import Offside.Proofs.LexerClasses
import Offside.Proofs.BlockGrammar
import Offside.Proofs.BlockLines
import Offside.Proofs.BlockTexts
import Offside.Proofs.BlockTrees
import Offside.Proofs.Resuming
import Offside.Proofs.Output
import Offside.Proofs.LineEnds
import Offside.Proofs.Places
import Offside.Proofs.BlankLines
import Offside.Proofs.SideBySide
import Offside.Proofs.DepthOrder
import Offside.Proofs.Refusals
import Offside.Proofs.Relocation
import Offside.Proofs.SourceLines
import Offside.Proofs.GrammarLines
