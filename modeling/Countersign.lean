import Countersign.Caller
import Countersign.Canonical
import Countersign.Canonical.Coverage
import Countersign.Carrier
import Countersign.Clock
import Countersign.Credentials
import Countersign.Credentials.Reader
import Countersign.Credentials.Writer
import Countersign.Digest
import Countersign.Event
import Countersign.Fault
import Countersign.Files
import Countersign.Hash.Hmac
import Countersign.Hash.Sha256
import Countersign.Http.Body
import Countersign.Http.Connection
import Countersign.Http.Field
import Countersign.Http.Message
import Countersign.Http.Target
import Countersign.Json.DoublePrecision
import Countersign.Json.Reader
import Countersign.Json.Writer
import Countersign.Keys.CommaList
import Countersign.Keys.Name
import Countersign.Keys.Properties
import Countersign.Keys.Ring
import Countersign.Keys.Source
import Countersign.Proofs.Canonical.Builders
import Countersign.Proofs.Canonical.Coverage
import Countersign.Proofs.Canonical.Multiplicity
import Countersign.Proofs.Canonical.SignedText
import Countersign.Proofs.Credentials.Carried
import Countersign.Proofs.Credentials.Grammar
import Countersign.Proofs.Credentials.RoundTrip
import Countersign.Proofs.Credentials.Signing
import Countersign.Proofs.Credentials.Survival
import Countersign.Proofs.Digest
import Countersign.Proofs.Digest.Calls
import Countersign.Proofs.Http.Body
import Countersign.Proofs.Http.Values
import Countersign.Proofs.Keys.Agreement
import Countersign.Proofs.Keys.Defaults
import Countersign.Proofs.Keys.Lines
import Countersign.Proofs.Keys.Names
import Countersign.Proofs.Keys.Ring
import Countersign.Proofs.Keys.Secrecy
import Countersign.Proofs.Requests.Acceptance
import Countersign.Proofs.Requests.Integrity
import Countersign.Proofs.Requests.Repeating
import Countersign.Proofs.Requests.Reported
import Countersign.Proofs.Requests.SignedFields
import Countersign.Proofs.Responses.Integrity
import Countersign.Proofs.Responses.Verification
import Countersign.Proofs.Serving.Admission
import Countersign.Proofs.Serving.Blindness
import Countersign.Proofs.Serving.Decision
import Countersign.Proofs.Serving.Delivery
import Countersign.Proofs.Serving.Demands
import Countersign.Proofs.Serving.Guards
import Countersign.Proofs.Serving.Indifference
import Countersign.Proofs.Serving.Passage
import Countersign.Proofs.Serving.Presenting
import Countersign.Proofs.Serving.Reading
import Countersign.Proofs.Serving.Runs
import Countersign.Proofs.Serving.Settling
import Countersign.Proofs.Serving.Sight
import Countersign.Proofs.Serving.Slot
import Countersign.Proofs.Serving.Traces
import Countersign.Proofs.Serving.Verdict
import Countersign.Proofs.Signature
import Countersign.Proofs.Steps
import Countersign.Proofs.Text.ByteOrder
import Countersign.Proofs.Text.Edges
import Countersign.Proofs.Text.Numerals
import Countersign.Serving.Admission
import Countersign.Serving.Countersigning
import Countersign.Serving.Desk
import Countersign.Serving.Echo
import Countersign.Serving.Flow
import Countersign.Serving.Gate
import Countersign.Serving.Intake
import Countersign.Serving.Program
import Countersign.Settings
import Countersign.Settings.Json
import Countersign.Signature
import Countersign.Text.Blank
import Countersign.Text.CodeRanges
import Countersign.Text.Cut
import Countersign.Text.Decimal
import Countersign.Text.Extending
import Countersign.Text.Hex
import Countersign.Text.Ignorable
import Countersign.Text.Printable
import Countersign.Text.Quoted
import Countersign.Text.Utf8
