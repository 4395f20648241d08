import CertRenewal.Access.Connection
import CertRenewal.Access.Error
import CertRenewal.Access.Kubeconfig
import CertRenewal.Base64
import CertRenewal.Calendar
import CertRenewal.Certificate.Der
import CertRenewal.Certificate.Error
import CertRenewal.Certificate.NotAfter
import CertRenewal.Certificate.Pem
import CertRenewal.Certificate.Time
import CertRenewal.Cluster.Failure
import CertRenewal.Cluster.Metadata
import CertRenewal.Cluster.Node
import CertRenewal.Cluster.Pod
import CertRenewal.Cluster.Resource
import CertRenewal.Cluster.ResourceKind
import CertRenewal.Cluster.Secret
import CertRenewal.Cluster.Shape
import CertRenewal.Cluster.Shapes
import CertRenewal.Cluster.Timestamp
import CertRenewal.CommandLine.Arguments
import CertRenewal.CommandLine.Help
import CertRenewal.CommandLine.Words
import CertRenewal.Dialogue
import CertRenewal.Duration
import CertRenewal.Expiry.AnnotationDate
import CertRenewal.Expiry.Annotations
import CertRenewal.Expiry.Check
import CertRenewal.Expiry.Error
import CertRenewal.Expiry.Threshold
import CertRenewal.Inventory.Client
import CertRenewal.Inventory.Store
import CertRenewal.Json.Basic
import CertRenewal.Json.Describe
import CertRenewal.Json.Parser
import CertRenewal.Json.Patch
import CertRenewal.Json.Printer
import CertRenewal.Kubeconfig
import CertRenewal.Logging
import CertRenewal.Machines.Client
import CertRenewal.Machines.ControlPlane
import CertRenewal.Machines.Reference
import CertRenewal.Machines.Store
import CertRenewal.Main
import CertRenewal.Maintenance.Client
import CertRenewal.Maintenance.Node
import CertRenewal.Maintenance.Pod
import CertRenewal.Number.Double
import CertRenewal.Polling
import CertRenewal.Program.Command
import CertRenewal.Program.Run
import CertRenewal.Proofs.Dialogue
import CertRenewal.Proofs.InPlace.Answers
import CertRenewal.Proofs.Polling
import CertRenewal.Renewal.InPlace
import CertRenewal.Renewal.Rolling
import CertRenewal.Renewal.Strategy
import CertRenewal.Report.Basic
import CertRenewal.Report.Format
import CertRenewal.Report.Sink
import CertRenewal.Report.Table
import CertRenewal.Report.Write
import CertRenewal.Server.Address
import CertRenewal.Server.Clients
import CertRenewal.Server.Collection
import CertRenewal.Server.Layout
import CertRenewal.Server.Message
import CertRenewal.Server.Reply
import CertRenewal.Server.Request
import CertRenewal.Text.Blank
import CertRenewal.Text.Casing
import CertRenewal.Text.Integer
import CertRenewal.Text.Printable
import CertRenewal.Text.Quoted
import CertRenewal.Text.Split
import CertRenewal.Text.Utf8
import CertRenewal.Tokens.Rotation
import CertRenewal.Yaml.BlockText
import CertRenewal.Yaml.Character
import CertRenewal.Yaml.Cursor
import CertRenewal.Yaml.Document
import CertRenewal.Yaml.Node
import CertRenewal.Yaml.NodeReader
import CertRenewal.Yaml.PlainText
import CertRenewal.Yaml.Properties
import CertRenewal.Yaml.QuotedText
import CertRenewal.Yaml.Scalar
import CertRenewal.Yaml.Writer
import CertRenewal.Proofs.InPlace.NodeRun
import CertRenewal.Proofs.InPlace.OneByOne
import CertRenewal.Proofs.InPlace.Outcome
import CertRenewal.Proofs.InPlace.Placement
import CertRenewal.Proofs.Machines.ControlPlane
import CertRenewal.Proofs.Rolling.SinglePass
import CertRenewal.Proofs.Json.Canonical
import CertRenewal.Proofs.Json.Patch
import CertRenewal.Proofs.Cluster.Resource
import CertRenewal.Proofs.Machines.Registry
import CertRenewal.Proofs.Rolling.Repetition
import CertRenewal.Proofs.Rolling.Numbering
import CertRenewal.Proofs.Interleaving
import CertRenewal.Proofs.Expiry.Completeness
import CertRenewal.Proofs.Inventory.Served
import CertRenewal.Proofs.Json.PatchText
import CertRenewal.Proofs.Rolling.Cleanup
import CertRenewal.Proofs.Rolling.Concurrency
import CertRenewal.Proofs.Tokens.Rotation
import CertRenewal.Proofs.Faults
import CertRenewal.Proofs.Tokens.Course
import CertRenewal.Proofs.Expiry.FirstFault
import CertRenewal.Proofs.Expiry.Threshold
import CertRenewal.Proofs.Expiry.Widening
import CertRenewal.Proofs.Strategy
import CertRenewal.Proofs.Report.Emptiness
import CertRenewal.Proofs.Calendar
import CertRenewal.Proofs.Json.Pretty
import CertRenewal.Proofs.Report.JsonText
import CertRenewal.Proofs.Server.Scope
import CertRenewal.Proofs.Program.Confinement
import CertRenewal.Proofs.Polling.Schedule
import CertRenewal.Proofs.Text.Pieces
import CertRenewal.Proofs.Expiry.AnnotationEntries
import CertRenewal.Proofs.Calendar.DayCount
import CertRenewal.Proofs.Expiry.AnnotationDate
import CertRenewal.Proofs.Expiry.AnnotationText
import CertRenewal.Proofs.Program.Output
import CertRenewal.Proofs.Expiry.WholeDays
import CertRenewal.Proofs.Calendar.Years
import CertRenewal.Proofs.Certificate.Range
import CertRenewal.Proofs.Report.CutOff
import CertRenewal.Proofs.Base64
import CertRenewal.Proofs.Certificate.Element
import CertRenewal.Proofs.Certificate.Time
import CertRenewal.Proofs.Certificate.Layout
import CertRenewal.Proofs.Certificate.Armour
import CertRenewal.Proofs.Report.Sections
import CertRenewal.Proofs.Machines.Reading
import CertRenewal.Proofs.Machines.Repointing
import CertRenewal.Proofs.CommandLine.Arguments
import CertRenewal.Proofs.Kubeconfig.Reading
