import EnvProvision.Batch.Basic
import EnvProvision.Batch.Resolve
import EnvProvision.CommandLine.Arguments
import EnvProvision.CommandLine.Filter
import EnvProvision.CommandLine.Help
import EnvProvision.CommandLine.Log
import EnvProvision.CommandLine.Needs
import EnvProvision.CommandLine.Run
import EnvProvision.CommandLine.Topic
import EnvProvision.CommandLine.ValuePattern
import EnvProvision.CommandLine.World
import EnvProvision.Configuration.Basic
import EnvProvision.Configuration.Build
import EnvProvision.Configuration.Location
import EnvProvision.Configuration.OfYaml
import EnvProvision.Decimal.Binary64
import EnvProvision.Decimal.Places
import EnvProvision.Decimal.Shortest
import EnvProvision.Error
import EnvProvision.Files
import EnvProvision.Load.Basic
import EnvProvision.Load.Locate
import EnvProvision.Load.Preview
import EnvProvision.Main
import EnvProvision.Path
import EnvProvision.Program.Basic
import EnvProvision.Program.Columns
import EnvProvision.Program.Condition
import EnvProvision.Program.Digest
import EnvProvision.Program.Directory
import EnvProvision.Program.Editing
import EnvProvision.Program.Encoding
import EnvProvision.Program.Expression
import EnvProvision.Program.Filters
import EnvProvision.Program.Installed
import EnvProvision.Program.Launching
import EnvProvision.Program.Named
import EnvProvision.Program.Naming
import EnvProvision.Program.Options
import EnvProvision.Program.Printing
import EnvProvision.Program.Search
import EnvProvision.Program.Selection
import EnvProvision.Program.ShellWord
import EnvProvision.Program.System
import EnvProvision.Proofs.Alternatives
import EnvProvision.Proofs.Composition
import EnvProvision.Proofs.Concealment
import EnvProvision.Proofs.Declarations
import EnvProvision.Proofs.Descent
import EnvProvision.Proofs.Emptiness
import EnvProvision.Proofs.Enrichment
import EnvProvision.Proofs.Evaluation
import EnvProvision.Proofs.Expansion
import EnvProvision.Proofs.ExportFailure
import EnvProvision.Proofs.ExportScript
import EnvProvision.Proofs.Frame
import EnvProvision.Proofs.Freshness
import EnvProvision.Proofs.Grammar
import EnvProvision.Proofs.Guard
import EnvProvision.Proofs.GuardErrors
import EnvProvision.Proofs.Insertion
import EnvProvision.Proofs.Lawful
import EnvProvision.Proofs.Lifting
import EnvProvision.Proofs.Lookups
import EnvProvision.Proofs.Masking
import EnvProvision.Proofs.MissingKeys
import EnvProvision.Proofs.NameLists
import EnvProvision.Proofs.Nesting
import EnvProvision.Proofs.NormalForm
import EnvProvision.Proofs.Openings
import EnvProvision.Proofs.Order
import EnvProvision.Proofs.Pass
import EnvProvision.Proofs.Preview
import EnvProvision.Proofs.ProcessPreview
import EnvProvision.Proofs.ProcessRefinement
import EnvProvision.Proofs.ProcessVariables
import EnvProvision.Proofs.QuotedWord
import EnvProvision.Proofs.Quoting
import EnvProvision.Proofs.Reach
import EnvProvision.Proofs.Readdressing
import EnvProvision.Proofs.Records
import EnvProvision.Proofs.Refusal
import EnvProvision.Proofs.Retry
import EnvProvision.Proofs.Scope
import EnvProvision.Proofs.SecretValues
import EnvProvision.Proofs.SecretsFormat
import EnvProvision.Proofs.SpelledWords
import EnvProvision.Proofs.TableEntries
import EnvProvision.Proofs.Trimming
import EnvProvision.Proofs.Unfolding
import EnvProvision.Proofs.WorkingDirectory
import EnvProvision.Shell.Arithmetic
import EnvProvision.Shell.Builtin
import EnvProvision.Shell.Expansion
import EnvProvision.Shell.Pattern
import EnvProvision.Shell.Quote
import EnvProvision.Shell.Run
import EnvProvision.Shell.Script
import EnvProvision.Shell.Session
import EnvProvision.Shell.Token
import EnvProvision.Shell.Word
import EnvProvision.Storage.Basic
import EnvProvision.Storage.Kind
import EnvProvision.Storage.SecretsFile
import EnvProvision.Storage.Setup
import EnvProvision.Storage.Store
import EnvProvision.Table
import EnvProvision.Template
import EnvProvision.Text.Alphanumeric
import EnvProvision.Text.Blank
import EnvProvision.Text.Bytes
import EnvProvision.Text.Hexadecimal
import EnvProvision.Text.Lossy
import EnvProvision.Text.Split
import EnvProvision.Text.Terminal
import EnvProvision.Text.Units
import EnvProvision.Trace
import EnvProvision.Variables.Basic
import EnvProvision.Variables.Memory
import EnvProvision.Variables.Overlay
import EnvProvision.Variables.Process
import EnvProvision.Yaml.Character
import EnvProvision.Yaml.Cursor
import EnvProvision.Yaml.Node.Basic
import EnvProvision.Yaml.Node.OfTokens
import EnvProvision.Yaml.Scalar.Block
import EnvProvision.Yaml.Scalar.Fold
import EnvProvision.Yaml.Scalar.Plain
import EnvProvision.Yaml.Scalar.Quoted
import EnvProvision.Yaml.Tag
import EnvProvision.Yaml.Token.Basic
import EnvProvision.Yaml.Token.Lexer
import EnvProvision.Yaml.Value.Basic
import EnvProvision.Yaml.Value.Plain
import EnvProvision.Yaml.Value.Read
