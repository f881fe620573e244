import CommandScript.BuiltIn
import CommandScript.Calendar
import CommandScript.Dispatch.Basic
import CommandScript.Dispatch.Calls
import CommandScript.Dispatch.Reading
import CommandScript.Effect
import CommandScript.Failure
import CommandScript.File
import CommandScript.Function.Descriptor
import CommandScript.Function.Registry
import CommandScript.Function.Routine
import CommandScript.Http.Basic
import CommandScript.Http.Client
import CommandScript.Interpreter
import CommandScript.Json.Reader
import CommandScript.Json.Token
import CommandScript.Json.Writer
import CommandScript.Log
import CommandScript.Log.Message
import CommandScript.Log.Setup
import CommandScript.Main
import CommandScript.Number.Binary64
import CommandScript.Number.Numeral
import CommandScript.Number.Rounded
import CommandScript.Number.Shortest
import CommandScript.Payload
import CommandScript.Printed
import CommandScript.Program
import CommandScript.Result
import CommandScript.Script.Argument
import CommandScript.Script.Condition
import CommandScript.Script.Glyph
import CommandScript.Script.Scalar
import CommandScript.Script.Segment
import CommandScript.Settings.Basic
import CommandScript.Settings.Building
import CommandScript.Settings.Environment
import CommandScript.Settings.Source
import CommandScript.Store
import CommandScript.Template
import CommandScript.Template.Rendering
import CommandScript.Terminal.Basic
import CommandScript.Terminal.CommandLine
import CommandScript.Terminal.Recorded
import CommandScript.Text.Base64
import CommandScript.Text.Case
import CommandScript.Text.Case.Tables
import CommandScript.Text.CharClass
import CommandScript.Text.Charset
import CommandScript.Text.Charset.Big5
import CommandScript.Text.Charset.Big5.Table
import CommandScript.Text.Charset.CodePage
import CommandScript.Text.Charset.Escaped
import CommandScript.Text.Charset.Gb
import CommandScript.Text.Charset.Gb.Table
import CommandScript.Text.Charset.Grid
import CommandScript.Text.Charset.Jis
import CommandScript.Text.Charset.Jis.Table
import CommandScript.Text.Charset.Ks
import CommandScript.Text.Charset.Ks.Table
import CommandScript.Text.Charset.Punycode
import CommandScript.Text.Charset.Reading
import CommandScript.Text.Charset.Switched
import CommandScript.Text.Charset.Utf7
import CommandScript.Text.Charset.Wide
import CommandScript.Text.Printable
import CommandScript.Text.Quoted
import CommandScript.Text.Split
import CommandScript.Text.Utf8
import CommandScript.Value.Attribute
import CommandScript.Value.Basic
import CommandScript.Value.Conversion
import CommandScript.Value.Equality
import CommandScript.Value.Literal
import CommandScript.Value.Order
import CommandScript.Value.Path
import CommandScript.Value.Table
import CommandScript.World
import CommandScript.Yaml.Loader
import CommandScript.Yaml.Node
import CommandScript.Yaml.Reader
import CommandScript.Yaml.Tag
import CommandScript.Yaml.Timestamp
import CommandScript.Yaml.Token.Basic
import CommandScript.Yaml.Token.Name
import CommandScript.Yaml.Token.Scalar
import CommandScript.Yaml.Token.Scan
import CommandScript.Yaml.Writer
import CommandScript.Proofs.Program
import CommandScript.Proofs.Dispatch.Course
import CommandScript.Proofs.Dispatch.Halting
import CommandScript.Proofs.Script.Nesting
import CommandScript.Proofs.Dispatch.Parsing
import CommandScript.Proofs.Interpreter.Malformed
import CommandScript.Proofs.Dispatch.Sequence
import CommandScript.Proofs.Script.Marks
import CommandScript.Proofs.Script.Outline
import CommandScript.Proofs.Template.Placeholders
import CommandScript.Proofs.Template.Tags
import CommandScript.Proofs.Dispatch.Hygiene
import CommandScript.Proofs.Script.Coverage
import CommandScript.Proofs.Script.Arguments
import CommandScript.Proofs.Dispatch.Frames
import CommandScript.Proofs.Dispatch.Depth
import CommandScript.Proofs.Dispatch.Recursion
import CommandScript.Proofs.Dispatch.Lines
import CommandScript.Proofs.Script.Respelling
import CommandScript.Proofs.Script.Joining
import CommandScript.Proofs.Dispatch.Escaped
import CommandScript.Proofs.Script.Replacement
import CommandScript.Proofs.Dispatch.Discreet
import CommandScript.Proofs.BuiltIn
import CommandScript.Proofs.Dispatch.Unread
import CommandScript.Proofs.Interleaving
import CommandScript.Proofs.Store
import CommandScript.Proofs.Function.Counterparts
import CommandScript.Proofs.Function.History
import CommandScript.Proofs.Function.Layers
import CommandScript.Proofs.Function.Versions
import CommandScript.Proofs.Interpreter.Twins
import CommandScript.Proofs.Interpreter.Concurrency
import CommandScript.Proofs.World
import CommandScript.Proofs.Dispatch.Acts
import CommandScript.Proofs.BuiltIn.Restraint
import CommandScript.Proofs.Dispatch.Reports
import CommandScript.Proofs.Interpreter.Diagnostics
import CommandScript.Proofs.Interpreter.Classification
import CommandScript.Proofs.Interpreter.Switch
import CommandScript.Proofs.Script.CallTree
import CommandScript.Proofs.Dispatch.Order
import CommandScript.Proofs.Interpreter.Overlay
import CommandScript.Proofs.Interpreter.Variables
import CommandScript.Proofs.BuiltIn.Objects
import CommandScript.Proofs.Dispatch.Numbers
import CommandScript.Proofs.BuiltIn.Decoding
import CommandScript.Proofs.Interpreter.Exchanges
import CommandScript.Proofs.Terminal.Shown
import CommandScript.Proofs.Settings.Priority
import CommandScript.Proofs.Script.Unclosed
import CommandScript.Proofs.Script.Recasing
import CommandScript.Proofs.Dispatch.Mirrors
import CommandScript.Proofs.Interpreter.Recasing
import CommandScript.Proofs.Http.Retries
import CommandScript.Proofs.BuiltIn.Drawings
import CommandScript.Proofs.BuiltIn.Paths
import CommandScript.Proofs.BuiltIn.Random
import CommandScript.Proofs.Interpreter.Drawings
import CommandScript.Proofs.Settings.Malformed
import CommandScript.Proofs.Value.Comparison
import CommandScript.Proofs.Script.Condition
import CommandScript.Proofs.BuiltIn.Exchanges
import CommandScript.Proofs.BuiltIn.Calculation
import CommandScript.Proofs.Interpreter.Calculations
import CommandScript.Proofs.Store.History
import CommandScript.Proofs.Function.Sequences
import CommandScript.Proofs.Function.Bulk
import CommandScript.Proofs.Function.Loading
import CommandScript.Proofs.Value.Literal
import CommandScript.Proofs.Dispatch.Kinds
import CommandScript.Proofs.Printed.Sets
