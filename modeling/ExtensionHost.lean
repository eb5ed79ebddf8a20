import ExtensionHost.Abi
import ExtensionHost.Assoc
import ExtensionHost.Binary.Float
import ExtensionHost.Bridge.Call
import ExtensionHost.Bridge.HostFunction
import ExtensionHost.Bytes
import ExtensionHost.Clock
import ExtensionHost.Config.Basic
import ExtensionHost.Config.Environment
import ExtensionHost.Config.Layer
import ExtensionHost.Config.Setting
import ExtensionHost.Document.Fault
import ExtensionHost.Document.Format
import ExtensionHost.Document.Path
import ExtensionHost.Document.Toml.Reader
import ExtensionHost.Document.Toml.Scalar
import ExtensionHost.Document.Toml.Table
import ExtensionHost.Document.Value
import ExtensionHost.Document.Yaml.Cursor
import ExtensionHost.Document.Yaml.Layout
import ExtensionHost.Document.Yaml.Node
import ExtensionHost.Document.Yaml.Reader
import ExtensionHost.Document.Yaml.Scalar
import ExtensionHost.Document.Yaml.Token
import ExtensionHost.Engine
import ExtensionHost.Error
import ExtensionHost.Factory
import ExtensionHost.Files
import ExtensionHost.Guest.Evaluation
import ExtensionHost.Guest.Execution
import ExtensionHost.Guest.Failure
import ExtensionHost.Guest.Machine
import ExtensionHost.Guest.Standard
import ExtensionHost.Guest.Syntax
import ExtensionHost.Guest.WellFormed
import ExtensionHost.Json.Form
import ExtensionHost.Json.Reader
import ExtensionHost.Json.Value
import ExtensionHost.Json.Writer
import ExtensionHost.Limits
import ExtensionHost.Memory.Linear
import ExtensionHost.Memory.Slice
import ExtensionHost.Memory.Staging
import ExtensionHost.Metrics
import ExtensionHost.Module
import ExtensionHost.Package.Basic
import ExtensionHost.Package.Url
import ExtensionHost.State.Adapter
import ExtensionHost.State.Error
import ExtensionHost.State.Tables
import ExtensionHost.State.Value
import ExtensionHost.Proofs.Bridge.Binding
import ExtensionHost.Proofs.Bridge.Serving
import ExtensionHost.Proofs.Bridge.Story
import ExtensionHost.Proofs.Guest.Causes
import ExtensionHost.Proofs.Guest.Effect
import ExtensionHost.Proofs.Engine.Agreement
import ExtensionHost.Proofs.Engine.Classification
import ExtensionHost.Proofs.Engine.Counters
import ExtensionHost.Proofs.Engine.Operation
import ExtensionHost.Proofs.Engine.Recovery
import ExtensionHost.Proofs.Engine.Staging
import ExtensionHost.Proofs.Engine.Taxonomy
import ExtensionHost.Proofs.Guest.Ending
import ExtensionHost.Proofs.Guest.History
import ExtensionHost.Proofs.Guest.Payloads
import ExtensionHost.Proofs.Guest.Run
import ExtensionHost.Proofs.Guest.Soundness
import ExtensionHost.Proofs.Guest.Story
import ExtensionHost.Proofs.Assoc
import ExtensionHost.Proofs.Memory.Linear
import ExtensionHost.Proofs.Memory.Slice
import ExtensionHost.Proofs.Module.Calls
import ExtensionHost.Proofs.Module.Invocation
import ExtensionHost.Proofs.Module.Preparation
import ExtensionHost.Proofs.Module.Rejection
import ExtensionHost.Proofs.Module.Restore
import ExtensionHost.Proofs.Memory.Staging
import ExtensionHost.Proofs.State.Calls
import ExtensionHost.Text.ByteOrderMark
import ExtensionHost.Text.Lower
import ExtensionHost.Text.Numeral
import ExtensionHost.Text.Percent
import ExtensionHost.Text.Quoted
import ExtensionHost.Text.Utf8
import ExtensionHost.Proofs.Guest.Calls
import ExtensionHost.Proofs.Engine.Isolation
import ExtensionHost.Proofs.Guest.Untouched
import ExtensionHost.Proofs.Bridge.Fields
import ExtensionHost.Proofs.Guest.Passage
import ExtensionHost.Proofs.Engine.Fields
import ExtensionHost.Proofs.Factory.Loading
import ExtensionHost.Proofs.Factory.Pools
import ExtensionHost.Proofs.Engine.Interleaving
import ExtensionHost.Proofs.Engine.Ceiling
import ExtensionHost.Proofs.Guest.Origin
import ExtensionHost.Proofs.Bridge.Inquiry
import ExtensionHost.Proofs.Engine.HostErrors
import ExtensionHost.Proofs.Bridge.Complaints
import ExtensionHost.Proofs.Engine.Lifecycle
import ExtensionHost.Proofs.Document.Fields
import ExtensionHost.Proofs.Config.Layering
import ExtensionHost.Proofs.Binary.Rounding
import ExtensionHost.Proofs.Json.Text
import ExtensionHost.Proofs.Config.Saving
import ExtensionHost.Proofs.Json.Members
import ExtensionHost.Proofs.Json.Forms
import ExtensionHost.Proofs.Engine.Admission
import ExtensionHost.Proofs.Bridge.Decoding
import ExtensionHost.Proofs.Engine.Introspection
import ExtensionHost.Proofs.Module.Acceptance
import ExtensionHost.Proofs.Memory.Replay
import ExtensionHost.Proofs.Guest.Law
import ExtensionHost.Proofs.Guest.Thrift
import ExtensionHost.Proofs.Bridge.Allocation
import ExtensionHost.Proofs.Engine.Invariants
import ExtensionHost.Proofs.Engine.Allocation
import ExtensionHost.Proofs.Engine.Replay
import ExtensionHost.Proofs.State.Contract
import ExtensionHost.Proofs.Guest.Iteration
import ExtensionHost.Proofs.Binary.Widening
import ExtensionHost.Proofs.Guest.Reading
import ExtensionHost.Proofs.Clock
import ExtensionHost.Proofs.Config.Validation
import ExtensionHost.Proofs.Limits
import ExtensionHost.Proofs.Engine.Deadline
import ExtensionHost.Proofs.Memory.Accounts
