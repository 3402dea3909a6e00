import FormCompiler.Component.Export
import FormCompiler.Form.Record
import FormCompiler.Proofs.App.Naming
import FormCompiler.Proofs.Form.Coverage
import FormCompiler.Proofs.Form.Depth
import FormCompiler.Proofs.Form.Outcome
import FormCompiler.Proofs.Json.Encoders
import FormCompiler.Proofs.Tree.Export
import FormCompiler.Proofs.Tree.Isolation
import FormCompiler.Session
import FormCompiler.Proofs.Json.Roundtrip
import FormCompiler.Proofs.Registry.Registrations
import FormCompiler.Proofs.Registry.Reachable
import FormCompiler.Proofs.Yaml.Merging
import FormCompiler.Proofs.Yaml.Unfit
import FormCompiler.Proofs.Yaml.Lexing
import FormCompiler.Proofs.Yaml.Parsing
import FormCompiler.Proofs.Yaml.Loading
import FormCompiler.Proofs.Document.Failing
import FormCompiler.Proofs.Entries.Occurrence
import FormCompiler.Proofs.Registry.Lifecycle
import FormCompiler.Proofs.Event.Recording
import FormCompiler.Proofs.Form.Types
import FormCompiler.Proofs.Properties.Following
import FormCompiler.Proofs.Tree.Handlers
import FormCompiler.Proofs.Properties.Table
import FormCompiler.Proofs.Form.Options
import FormCompiler.Proofs.Document.WellFormed
import FormCompiler.Proofs.Tree.Values
import FormCompiler.Proofs.Registry.Resolution
import FormCompiler.Proofs.Form.Targets
import FormCompiler.Proofs.App.Context
import FormCompiler.Proofs.Tree.Debugging
import FormCompiler.Proofs.Layout.Collections
