import Breadboard.Circuit.Basic
import Breadboard.Circuit.Claims
import Breadboard.Circuit.Edit
import Breadboard.Command.Arguments
import Breadboard.Command.Directory
import Breadboard.Command.Execute
import Breadboard.Command.Failure
import Breadboard.Command.Log
import Breadboard.Command.Run
import Breadboard.Editor
import Breadboard.Journal
import Breadboard.Main
import Breadboard.Part.Basic
import Breadboard.Part.Kind
import Breadboard.Part.OfEntry
import Breadboard.Part.Power
import Breadboard.Pin
import Breadboard.Program.OfCircuit
import Breadboard.Program.Statement
import Breadboard.Program.Text
import Breadboard.Program.Wiring
import Breadboard.Proofs.FirstUse
import Breadboard.Proofs.Outline
import Breadboard.Script.Entry
import Breadboard.Script.Error
import Breadboard.Script.OfText
import Breadboard.Script.Parameters
import Breadboard.Script.Reading
import Breadboard.Script.Scanner
import Breadboard.Script.Sketch
import Breadboard.Script.Token
import Breadboard.Text.Blank
import Breadboard.Text.Case
import Breadboard.Text.Lines
import Breadboard.Text.Lowercase
import Breadboard.Text.Numeral
import Breadboard.Text.Quoted
import Breadboard.Text.Ranges
import Breadboard.Text.Record
import Breadboard.Text.Terminal
import Breadboard.Text.Word
import Breadboard.Proofs.OutlineText
import Breadboard.Proofs.Scope
import Breadboard.Proofs.LineReading
import Breadboard.Proofs.PrintedLines
import Breadboard.Proofs.Grammar
import Breadboard.Proofs.Lexis
import Breadboard.Proofs.Passage
import Breadboard.Proofs.Acceptance
import Breadboard.Proofs.EntryReading
import Breadboard.Proofs.RoundTrip
import Breadboard.Proofs.Session
import Breadboard.Proofs.Provenance
import Breadboard.Proofs.Blankness
import Breadboard.Proofs.Hardware
import Breadboard.Proofs.Exclusivity
import Breadboard.Proofs.Removal
import Breadboard.Proofs.Rearrangement
import Breadboard.Proofs.Attributes
import Breadboard.Proofs.Outcome
import Breadboard.Proofs.Calls
import Breadboard.Proofs.ClearText
import Breadboard.Proofs.Rows
import Breadboard.Proofs.Notes
import Breadboard.Proofs.RowReading
import Breadboard.Proofs.Recovery
import Breadboard.Proofs.Addressing
import Breadboard.Proofs.Rebuilding
import Breadboard.Proofs.Contribution
import Breadboard.Proofs.Allocation
import Breadboard.Proofs.Respelling
import Breadboard.Proofs.Regions
import Breadboard.Proofs.LineByLine
import Breadboard.Proofs.Concatenation
import Breadboard.Proofs.Gaps
import Breadboard.Proofs.Description
import Breadboard.Proofs.LetterCase
import Breadboard.Proofs.Rewording
import Breadboard.Proofs.RewordedText
import Breadboard.Proofs.ParameterTable
import Breadboard.Proofs.Delivery
import Breadboard.Proofs.PinReport
import Breadboard.Proofs.Collisions
import Breadboard.Proofs.Location
import Breadboard.Proofs.Settling
import Breadboard.Proofs.Logging
import Breadboard.Proofs.Numbering
import Breadboard.Proofs.Progress
import Breadboard.Proofs.Numerals
import Breadboard.Proofs.StoredNumbers
import Breadboard.Proofs.PrintedNumbers
