import Keyring.Setup
import Keyring.Proofs.Bytes.Integer
import Keyring.Proofs.Bytes.Shortest
import Keyring.Proofs.Bytes.Text
import Keyring.Proofs.Error
import Keyring.Proofs.Action
import Keyring.Proofs.Text.Base64Url
import Keyring.Proofs.Number.Text
import Keyring.Proofs.Json.Reader
import Keyring.Proofs.Json.Text
import Keyring.Proofs.Json.Writable
import Keyring.Proofs.Json.Number
import Keyring.Proofs.Json.RoundTrip
import Keyring.Proofs.Json.Canonical
import Keyring.Proofs.Json.Characters
import Keyring.Proofs.Wire.Reading
import Keyring.Proofs.Wire.Writing
import Keyring.Proofs.Wire.Record
import Keyring.Proofs.Rsa.Block
import Keyring.Proofs.Rsa.Exponent
import Keyring.Proofs.Rsa.Verification
import Keyring.Proofs.Rsa.Parts
import Keyring.Proofs.Jwt.Records
import Keyring.Proofs.Jwt.RoundTrip
import Keyring.Proofs.Jwt.KeyIds
import Keyring.Proofs.Manager.Operations
import Keyring.Proofs.Jwt.SelfTest
import Keyring.Proofs.Jwt.KeyIdInput
import Keyring.Proofs.Jwt.LeadingZeros
import Keyring.Proofs.Jwt.Token
import Keyring.Proofs.Jwt.PublicHalf
import Keyring.Proofs.Jwt.Signing
import Keyring.Proofs.Jwt.Generation
import Keyring.Proofs.Jwt.Payload
import Keyring.Proofs.Jwt.ReplacedParts
import Keyring.Proofs.Jwt.DeclaredHash
import Keyring.Proofs.Jwt.PublicPart
import Keyring.Proofs.Directory
import Keyring.Proofs.Registry.Calls
import Keyring.Proofs.Registry.History
import Keyring.Proofs.Registry.Family
import Keyring.Proofs.Settings.Reading
import Keyring.Proofs.Settings.Overriding
import Keyring.Proofs.Settings.History
import Keyring.Proofs.Settings.Hashing
import Keyring.Proofs.Directory.Disallowing
import Keyring.Proofs.Context.Carrying
import Keyring.Proofs.Context.Keeping
import Keyring.Proofs.Context.Changing
import Keyring.Proofs.SigningKeys.Populated
import Keyring.Proofs.SigningKeys.Creation
import Keyring.Proofs.Conversation
import Keyring.Proofs.Registry.Answering
import Keyring.Proofs.Copies
import Keyring.Proofs.Metrics
import Keyring.Proofs.Session.Script
import Keyring.Proofs.Session.Operations
import Keyring.Proofs.Session.Counting
import Keyring.Proofs.Session.Switching
import Keyring.Proofs.Session.Disallowed
import Keyring.Proofs.Manager.FipsSizes
import Keyring.Proofs.Jwt.TemplateFormat
import Keyring.Proofs.SigningKeys.Family
import Keyring.Proofs.Named
import Keyring.Proofs.Settings.Loading
import Keyring.Proofs.Jwt.TemplateTable
import Keyring.Proofs.Templates.History
import Keyring.Proofs.SigningKeys.Registration
import Keyring.Proofs.SigningKeys.Refusals
import Keyring.Proofs.Log.Masking
import Keyring.Proofs.Log.Noting
import Keyring.Proofs.Log.Blocks
import Keyring.Proofs.Json.Keyed
import Keyring.Proofs.Json.Decoding
import Keyring.Proofs.Log.Line
import Keyring.Proofs.Log.Envelope
import Keyring.Proofs.Log.Routing
import Keyring.Proofs.Log.Operations
import Keyring.Proofs.Log.Configuring
