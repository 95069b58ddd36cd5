import Stylesheet.Sheet
import Stylesheet.Reading
import Stylesheet.Notice
import Stylesheet.Text.Alphanumeric
import Stylesheet.Log
import Stylesheet.Build
import Stylesheet.Settings
import Stylesheet.Encoding.Decoder
import Stylesheet.Encoding.Name
import Stylesheet.Text.Newline
import Stylesheet.Folder
import Stylesheet.Source
import Stylesheet.CommandLine.Options
import Stylesheet.CommandLine.Program
import Stylesheet.Main
import Stylesheet.Compact
import Stylesheet.Grammar
import Stylesheet.Text.Spacing
import Stylesheet.Proofs.Derived
import Stylesheet.Proofs.Breach
import Stylesheet.Proofs.Accepted
import Stylesheet.Proofs.Announced
import Stylesheet.Proofs.Rejected
import Stylesheet.Proofs.Viable
import Stylesheet.Proofs.Lines
import Stylesheet.Proofs.PlacesInLines
import Stylesheet.Proofs.SheetText
import Stylesheet.Proofs.NoticeText
import Stylesheet.Proofs.NoticeMessage
import Stylesheet.Proofs.Joined
import Stylesheet.Proofs.Behind
import Stylesheet.Proofs.Relayout
import Stylesheet.Proofs.Renamed
import Stylesheet.Proofs.Final
import Stylesheet.Proofs.Utf8
import Stylesheet.Proofs.LineEnds
import Stylesheet.Proofs.Stripped
import Stylesheet.Proofs.Alphabet
import Stylesheet.Proofs.Terminal
import Stylesheet.Proofs.Caret
import Stylesheet.Proofs.Logged
import Stylesheet.Proofs.Commands
import Stylesheet.Proofs.Attempts
import Stylesheet.Proofs.Bounds
import Stylesheet.Proofs.Runs
import Stylesheet.Proofs.Local
import Stylesheet.Proofs.FromEnd
import Stylesheet.Proofs.Records
