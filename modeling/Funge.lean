import Funge.Main
import Funge.Proofs.BottomlessStack
import Funge.Proofs.Bounds
import Funge.Proofs.Budget
import Funge.Proofs.Classic
import Funge.Proofs.Ending
import Funge.Proofs.Footprint
import Funge.Proofs.Memory
import Funge.Proofs.Reading
import Funge.Proofs.SourceLines
import Funge.Proofs.Reloading
import Funge.Proofs.Completion
import Funge.Proofs.FullSink
import Funge.Proofs.LongerInput
import Funge.Proofs.RandomStream
import Funge.Proofs.StraightLine
import Funge.Proofs.StringLiteral
import Funge.Proofs.Expressions
import Funge.Proofs.Resources
import Funge.Proofs.Transcript
import Funge.Proofs.Containment
import Funge.Proofs.Marking
import Funge.Proofs.Labelling
import Funge.Proofs.Numerals
import Funge.Proofs.ReadBack
import Funge.Proofs.Transposition
import Funge.Proofs.BoundedMap
import Funge.Proofs.Header
import Funge.Proofs.CommandLine
import Funge.Proofs.Countdown
import Funge.Proofs.DataDump
import Funge.Proofs.CellsAndValues
import Funge.Proofs.Division
