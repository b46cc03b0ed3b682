import PeerCheck.Cert.Algorithm
import PeerCheck.Cert.Certificate
import PeerCheck.Cert.CommonName
import PeerCheck.Cert.Der
import PeerCheck.Cert.Name
import PeerCheck.Cert.Pem
import PeerCheck.Cert.Subject
import PeerCheck.Cert.Validity
import PeerCheck.Cli.Arguments
import PeerCheck.Cli.Run
import PeerCheck.Config.Algorithm
import PeerCheck.Config.Environment
import PeerCheck.Config.Fault
import PeerCheck.Config.Load
import PeerCheck.Config.Schema
import PeerCheck.Config.Settings
import PeerCheck.Digest.Sha256
import PeerCheck.Factory
import PeerCheck.Failure
import PeerCheck.Fault
import PeerCheck.Files.Fault
import PeerCheck.Files.Path
import PeerCheck.Files.Tree
import PeerCheck.Host.Match
import PeerCheck.Host.Wildcard
import PeerCheck.Json.Display
import PeerCheck.Json.Reader
import PeerCheck.Json.Value
import PeerCheck.Json.Writer
import PeerCheck.Log.Draft
import PeerCheck.Log.Journal
import PeerCheck.Log.Line
import PeerCheck.Log.Record
import PeerCheck.Log.Setup
import PeerCheck.Log.Template
import PeerCheck.Log.Template.Fault
import PeerCheck.Log.Timestamp
import PeerCheck.Number.Binary64
import PeerCheck.Number.Decimal
import PeerCheck.Number.Reading
import PeerCheck.Number.Rounding
import PeerCheck.Script
import PeerCheck.Session.Dialogue
import PeerCheck.Session.Recovery
import PeerCheck.Session.Socket
import PeerCheck.Text.Base64
import PeerCheck.Text.Blank
import PeerCheck.Text.Casing
import PeerCheck.Text.Casing.Table
import PeerCheck.Text.CodeRange
import PeerCheck.Text.Digit
import PeerCheck.Text.Printable
import PeerCheck.Text.Printable.Table
import PeerCheck.Text.Quoted
import PeerCheck.Text.Search
import PeerCheck.Text.Utf8
import PeerCheck.Tls.Bundle
import PeerCheck.Tls.Context
import PeerCheck.Tls.Stores
import PeerCheck.Verdict
import PeerCheck.Verification
import PeerCheck.World
import PeerCheck.Main
import PeerCheck.Proofs.Text.Casing
import PeerCheck.Proofs.Text.Search
import PeerCheck.Proofs.Text.Recasing
import PeerCheck.Proofs.Cert.Escape
import PeerCheck.Proofs.Host.Match
import PeerCheck.Proofs.Host.Invariance
import PeerCheck.Proofs.Host.Subdomain
import PeerCheck.Proofs.Cert.WrittenName
import PeerCheck.Proofs.Cert.Attribute
import PeerCheck.Proofs.Identity
import PeerCheck.Proofs.Session.Dialogue
import PeerCheck.Proofs.Session.Ladder
import PeerCheck.Proofs.SocketFaults
import PeerCheck.Proofs.World
import PeerCheck.Proofs.Factory.Securing
import PeerCheck.Proofs.Factory.Handover
import PeerCheck.Proofs.Factory.Release
import PeerCheck.Proofs.Log.Console
import PeerCheck.Proofs.Cli.Outcome
import PeerCheck.Proofs.Cli.Report
import PeerCheck.Proofs.LeafOnly
import PeerCheck.Proofs.Session.Later
import PeerCheck.Proofs.Factory.Verdict
import PeerCheck.Proofs.Json.RoundTrip
import PeerCheck.Proofs.AuditTrail
import PeerCheck.Proofs.Number.Whole
import PeerCheck.Proofs.Text.Utf8
import PeerCheck.Proofs.Json.Fields
import PeerCheck.Proofs.Json.Printable
import PeerCheck.Proofs.Config.Schema
import PeerCheck.Proofs.Config.Settings
import PeerCheck.Proofs.Config.Environment
import PeerCheck.Proofs.Config.Written
import PeerCheck.Proofs.Config.Outcome
import PeerCheck.Proofs.Config.Acceptance
import PeerCheck.Proofs.Config.Override
import PeerCheck.Proofs.Log.Period
import PeerCheck.Proofs.Log.Timestamp
import PeerCheck.Proofs.Log.Line
import PeerCheck.Proofs.Files.Content
import PeerCheck.Proofs.Files.Refusal
import PeerCheck.Proofs.Log.Entries
import PeerCheck.Proofs.Text.Ending
import PeerCheck.Proofs.Tls.Answer
import PeerCheck.Proofs.Tls.Enforcement
import PeerCheck.Proofs.Abreast
import PeerCheck.Proofs.Config.Secrecy
import PeerCheck.Proofs.Tls.Secrecy
import PeerCheck.Proofs.Text.Lowered
import PeerCheck.Proofs.Reported
import PeerCheck.Proofs.Host.Veto
import PeerCheck.Proofs.Extraction
import PeerCheck.Proofs.Cert.Armour
import PeerCheck.Proofs.Config.Timeout
import PeerCheck.Proofs.Config.Canonical
import PeerCheck.Proofs.Tls.StoreFault
import PeerCheck.Proofs.Tls.KeyFile
import PeerCheck.Proofs.Cert.CommonName
import PeerCheck.Proofs.Factory.Attempt
