import KeyApproval.Calendar.Date
import KeyApproval.Calendar.HttpDate
import KeyApproval.Calendar.Instant
import KeyApproval.Client.Call
import KeyApproval.Client.Error
import KeyApproval.Client.Request
import KeyApproval.Client.Transmission
import KeyApproval.CommandLine
import KeyApproval.Config.Document
import KeyApproval.Config.Section
import KeyApproval.Config.Settings
import KeyApproval.Credentials
import KeyApproval.Decimal.Binary64
import KeyApproval.Decimal.Rounding
import KeyApproval.Delivery.Activation
import KeyApproval.Delivery.Error
import KeyApproval.Delivery.Flag
import KeyApproval.Delivery.Registry
import KeyApproval.Delivery.Rehearsal
import KeyApproval.Delivery.Sink
import KeyApproval.Delivery.SocketSink
import KeyApproval.Delivery.WriterSink
import KeyApproval.Digest.Hmac
import KeyApproval.Digest.Sha512
import KeyApproval.Domain.Direction
import KeyApproval.Domain.Joining
import KeyApproval.Domain.Mapping
import KeyApproval.Domain.Name
import KeyApproval.Domain.Punycode
import KeyApproval.Domain.Valid
import KeyApproval.Endpoint
import KeyApproval.Failure
import KeyApproval.Http.Header
import KeyApproval.Http.Message
import KeyApproval.Http.Wire
import KeyApproval.Json.Reader
import KeyApproval.Json.Value
import KeyApproval.Json.Writer
import KeyApproval.Main
import KeyApproval.Polling
import KeyApproval.Program
import KeyApproval.Proofs.ActivationVariables
import KeyApproval.Proofs.Addresses
import KeyApproval.Proofs.Answers
import KeyApproval.Proofs.Authorization
import KeyApproval.Proofs.BaseUrl
import KeyApproval.Proofs.BelowBase
import KeyApproval.Proofs.Cadence
import KeyApproval.Proofs.CalmWorld
import KeyApproval.Proofs.Causes
import KeyApproval.Proofs.Chronicle
import KeyApproval.Proofs.CodeTables
import KeyApproval.Proofs.Composition
import KeyApproval.Proofs.Concealment
import KeyApproval.Proofs.Conclusion
import KeyApproval.Proofs.ContentType
import KeyApproval.Proofs.DateText
import KeyApproval.Proofs.DayCount
import KeyApproval.Proofs.Decoders
import KeyApproval.Proofs.Discipline
import KeyApproval.Proofs.Discretion
import KeyApproval.Proofs.DomainNames
import KeyApproval.Proofs.EncodedText
import KeyApproval.Proofs.EndpointJson
import KeyApproval.Proofs.EndpointMembers
import KeyApproval.Proofs.EndpointUrls
import KeyApproval.Proofs.Exchanges
import KeyApproval.Proofs.ExitCodes
import KeyApproval.Proofs.Faults
import KeyApproval.Proofs.HeaderLists
import KeyApproval.Proofs.History
import KeyApproval.Proofs.Hosts
import KeyApproval.Proofs.Interruption
import KeyApproval.Proofs.JoinedUrls
import KeyApproval.Proofs.JsonNumbers
import KeyApproval.Proofs.JsonPassing
import KeyApproval.Proofs.JsonStrings
import KeyApproval.Proofs.JsonText
import KeyApproval.Proofs.JsonWriting
import KeyApproval.Proofs.Lasting
import KeyApproval.Proofs.Lenience
import KeyApproval.Proofs.Lives
import KeyApproval.Proofs.LogLevels
import KeyApproval.Proofs.LongNames
import KeyApproval.Proofs.NormalUrls
import KeyApproval.Proofs.Numerals
import KeyApproval.Proofs.Parallel
import KeyApproval.Proofs.Precedence
import KeyApproval.Proofs.Protocol
import KeyApproval.Proofs.Punycode
import KeyApproval.Proofs.RequestText
import KeyApproval.Proofs.ResourcePath
import KeyApproval.Proofs.Rounds
import KeyApproval.Proofs.Routing
import KeyApproval.Proofs.SecretBytes
import KeyApproval.Proofs.SendableHeaders
import KeyApproval.Proofs.Settlement
import KeyApproval.Proofs.SharedSecret
import KeyApproval.Proofs.SignatureStack
import KeyApproval.Proofs.SignedText
import KeyApproval.Proofs.SocketDecision
import KeyApproval.Proofs.Steps
import KeyApproval.Proofs.Termination
import KeyApproval.Proofs.Timeless
import KeyApproval.Proofs.Traffic
import KeyApproval.Proofs.Turns
import KeyApproval.Proofs.Undisturbed
import KeyApproval.Proofs.Unobserved
import KeyApproval.Proofs.UrlRoundTrip
import KeyApproval.Proofs.Veils
import KeyApproval.Proofs.Verdict
import KeyApproval.Proofs.WellFormedText
import KeyApproval.Proofs.WireSafety
import KeyApproval.Run.Applicant
import KeyApproval.Run.Error
import KeyApproval.Run.Handover
import KeyApproval.Run.World
import KeyApproval.Signing
import KeyApproval.Text.Ascii
import KeyApproval.Text.Base64
import KeyApproval.Text.Blank
import KeyApproval.Text.CanonicalTable
import KeyApproval.Text.CodeTable
import KeyApproval.Text.Hex
import KeyApproval.Text.Hidden
import KeyApproval.Text.Mark
import KeyApproval.Text.NormalForm
import KeyApproval.Text.Number
import KeyApproval.Text.Quoted
import KeyApproval.Text.Split
import KeyApproval.Text.Utf8
import KeyApproval.Ticket
import KeyApproval.Toml.Document
import KeyApproval.Toml.Reader
import KeyApproval.Toml.Scalar
import KeyApproval.Toml.Value
import KeyApproval.Toml.Writer
import KeyApproval.Url.Address
import KeyApproval.Url.Basic
import KeyApproval.Url.Encoding
import KeyApproval.Url.Host
import KeyApproval.Url.Parser
