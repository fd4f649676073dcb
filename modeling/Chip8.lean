import Chip8.CommandLine
import Chip8.Decimal.Binary
import Chip8.Decimal.Nearest
import Chip8.Decimal.Numeral
import Chip8.Decimal.Rounded
import Chip8.Decimal.Shortest
import Chip8.Display
import Chip8.Execute
import Chip8.Fault
import Chip8.Files
import Chip8.Instruction
import Chip8.Layout
import Chip8.Log.Console
import Chip8.Log.Journal
import Chip8.Log.Level
import Chip8.Log.Logger
import Chip8.Machine
import Chip8.Main
import Chip8.Path
import Chip8.Picture.Bmp
import Chip8.Picture.Bytes
import Chip8.Picture.Color
import Chip8.Picture.Format
import Chip8.Picture.Grid
import Chip8.Picture.Image
import Chip8.Picture.Png
import Chip8.Picture.Text
import Chip8.Proofs.AfterFault
import Chip8.Proofs.BitFields
import Chip8.Proofs.Calls
import Chip8.Proofs.Cells
import Chip8.Proofs.Composition
import Chip8.Proofs.Confinement
import Chip8.Proofs.Dispatch
import Chip8.Proofs.Drafts
import Chip8.Proofs.Drawing
import Chip8.Proofs.Encoding
import Chip8.Proofs.Faults
import Chip8.Proofs.Filtering
import Chip8.Proofs.Flow
import Chip8.Proofs.Frame
import Chip8.Proofs.HighBits
import Chip8.Proofs.Iteration
import Chip8.Proofs.Keys
import Chip8.Proofs.Lines
import Chip8.Proofs.Loading
import Chip8.Proofs.Locality
import Chip8.Proofs.Merging
import Chip8.Proofs.Mnemonic
import Chip8.Proofs.Observation
import Chip8.Proofs.Raster
import Chip8.Proofs.Rectangle
import Chip8.Proofs.Redraw
import Chip8.Proofs.Reference
import Chip8.Proofs.Report
import Chip8.Proofs.Sizes
import Chip8.Proofs.Sources
import Chip8.Proofs.SpriteRows
import Chip8.Proofs.Squares
import Chip8.Proofs.Stamps
import Chip8.Proofs.Step
import Chip8.Proofs.Storable
import Chip8.Proofs.StraightLine
import Chip8.Proofs.Tracing
import Chip8.Proofs.Transcript
import Chip8.Proofs.Views
import Chip8.Proofs.WrapAround
import Chip8.Session
import Chip8.Settings.Check
import Chip8.Settings.Convert
import Chip8.Settings.Error
import Chip8.Settings.Field
import Chip8.Settings.Loader
import Chip8.Settings.Merge
import Chip8.Settings.Template
import Chip8.Sprite
import Chip8.State
import Chip8.Text.Base64
import Chip8.Text.Blank
import Chip8.Text.DecimalDigit
import Chip8.Text.Hex
import Chip8.Text.Integer
import Chip8.Text.UpperCase
import Chip8.Value
import Chip8.Word
import Chip8.Yaml.Cursor
import Chip8.Yaml.Document
import Chip8.Yaml.Moment
import Chip8.Yaml.Node
import Chip8.Yaml.Number
import Chip8.Yaml.Plain
import Chip8.Yaml.Property
import Chip8.Yaml.Scalar
import Chip8.Yaml.Token
