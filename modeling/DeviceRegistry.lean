import DeviceRegistry.Device.Operation
import DeviceRegistry.Main
import DeviceRegistry.Presence
import DeviceRegistry.Proofs.Time.RoundTrip
import DeviceRegistry.Proofs.Json.Members
import DeviceRegistry.Proofs.Json.Normal
import DeviceRegistry.Proofs.Credential.Lawful
import DeviceRegistry.Proofs.Json.Decoder
import DeviceRegistry.Proofs.Json.Present
import DeviceRegistry.Proofs.Credential.Secret
import DeviceRegistry.Proofs.Credential.RoundTrip
import DeviceRegistry.Proofs.Time.Shortest
import DeviceRegistry.Proofs.Credential.Kept
import DeviceRegistry.Proofs.Management.Body
import DeviceRegistry.Proofs.Management.Handle
import DeviceRegistry.Proofs.CommandLine.Payload
import DeviceRegistry.Proofs.Management.Versions
import DeviceRegistry.Proofs.Client.Address
import DeviceRegistry.Proofs.Credential.DecodeAll
import DeviceRegistry.Proofs.Management.Accounting
import DeviceRegistry.Proofs.Credential.Rules
import DeviceRegistry.Proofs.Json.Reader
import DeviceRegistry.Proofs.Management.Run
import DeviceRegistry.Proofs.Management.Submission
import DeviceRegistry.Proofs.Json.Token
import DeviceRegistry.Proofs.Text.Utf8
import DeviceRegistry.Proofs.Json.RoundTrip
import DeviceRegistry.Proofs.Credential.Body
import DeviceRegistry.Proofs.Management.Remembering
import DeviceRegistry.Proofs.Device.Consistent
import DeviceRegistry.Proofs.Client.Error
import DeviceRegistry.Proofs.CommandLine.ExitCode
import DeviceRegistry.Proofs.CommandLine.Flags
import DeviceRegistry.Proofs.Json.Loops
import DeviceRegistry.Proofs.Json.Written
import DeviceRegistry.Proofs.Json.Streaming
import DeviceRegistry.Proofs.Client.Read
import DeviceRegistry.Proofs.Json.Lexeme
import DeviceRegistry.Proofs.Json.Skip
import DeviceRegistry.Proofs.Json.PlainRecord
import DeviceRegistry.Proofs.Device.Document
import DeviceRegistry.Proofs.CommandLine.Validate
import DeviceRegistry.Proofs.Client.Exchange
import DeviceRegistry.Proofs.Client.Headers
import DeviceRegistry.Proofs.Client.Proxy
import DeviceRegistry.Proofs.CommandLine.Requests
import DeviceRegistry.Proofs.CommandLine.SameButFlags
import DeviceRegistry.Proofs.CommandLine.Reporting
import DeviceRegistry.Proofs.CommandLine.Outcome
import DeviceRegistry.Proofs.Settings.Layers
import DeviceRegistry.Proofs.Settings.Passwords
import DeviceRegistry.Proofs.CommandLine.Show
import DeviceRegistry.Proofs.Device.Written
import DeviceRegistry.Proofs.CommandLine.Normalizing
import DeviceRegistry.Proofs.Toml.Scalar
import DeviceRegistry.Proofs.Toml.RoundTrip
import DeviceRegistry.Proofs.Settings.Ordered
import DeviceRegistry.Proofs.Settings.Written
import DeviceRegistry.Proofs.CommandLine.Encoded
import DeviceRegistry.Proofs.Credential.Batch
import DeviceRegistry.Proofs.Text.Order
import DeviceRegistry.Proofs.Device.Reload
import DeviceRegistry.Proofs.Json.Repeated
import DeviceRegistry.Proofs.Json.Direct
import DeviceRegistry.Proofs.Texts
import DeviceRegistry.Proofs.Time.Elapsed
import DeviceRegistry.Proofs.Presence
import DeviceRegistry.Proofs.CommandLine.Target
import DeviceRegistry.Proofs.Settings.Paths
import DeviceRegistry.Proofs.Settings.Fields
import DeviceRegistry.Proofs.Settings.Places
import DeviceRegistry.Proofs.Settings.Sources
import DeviceRegistry.Proofs.Settings.Loading
import DeviceRegistry.Proofs.Classes
import DeviceRegistry.Proofs.Text.Base64
import DeviceRegistry.Proofs.Credential.Key
import DeviceRegistry.Proofs.CommandLine.Variables
import DeviceRegistry.Proofs.CommandLine.Fallback
import DeviceRegistry.Proofs.Client.HandBack
import DeviceRegistry.Proofs.CommandLine.Assertion
import DeviceRegistry.Proofs.CommandLine.HandBack
import DeviceRegistry.Proofs.Management.Span
