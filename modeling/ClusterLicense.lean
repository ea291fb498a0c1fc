import ClusterLicense.Bytes.BigEndian
import ClusterLicense.Bytes.Base64
import ClusterLicense.Text.Utf8
import ClusterLicense.Text.Blank
import ClusterLicense.Text.Printable
import ClusterLicense.Text.Quoted
import ClusterLicense.Cipher.Aes
import ClusterLicense.Cipher.Padding
import ClusterLicense.Digest.Sha2
import ClusterLicense.Storage.File
import ClusterLicense.Storage.Directory
import ClusterLicense.CryptoError
import ClusterLicense.Cipher.SymmetricKey
import ClusterLicense.Arithmetic.Modular
import ClusterLicense.Der.Element
import ClusterLicense.Rsa.Key
import ClusterLicense.Rsa.Encoding
import ClusterLicense.Rsa.Signature
import ClusterLicense.Rsa.KeyFile
import ClusterLicense.Decimal.Digits
import ClusterLicense.Decimal.Shortest
import ClusterLicense.Json.Problem
import ClusterLicense.Json.Reader
import ClusterLicense.Json.Numeral
import ClusterLicense.Json.Text
import ClusterLicense.Json.Skipped
import ClusterLicense.Json.Scalar
import ClusterLicense.Json.Form
import ClusterLicense.Json.Choice
import ClusterLicense.Json.Value
import ClusterLicense.Calendar.Timestamp
import ClusterLicense.License.Error
import ClusterLicense.License.Kind
import ClusterLicense.License.Key
import ClusterLicense.License.Record
import ClusterLicense.License.Verifier
import ClusterLicense.License.Registration
import ClusterLicense.License.Metadata
import ClusterLicense.Cluster.Error
import ClusterLicense.Cluster.Config
import ClusterLicense.Cluster.Expiry
import ClusterLicense.Cluster.Snapshot
import ClusterLicense.Cluster.Source
import ClusterLicense.Cluster.Coordinator
import ClusterLicense.Cluster.Worker
import ClusterLicense.Cluster.Fleet
import ClusterLicense.Authority.Error
import ClusterLicense.Authority.Issue
import ClusterLicense.Authority.Inspection
import ClusterLicense.CommandLine.Arguments
import ClusterLicense.CommandLine.Run
import ClusterLicense.Arithmetic.Primality
import ClusterLicense.Rsa.Generation
import ClusterLicense.Main
import ClusterLicense.Proofs.Arithmetic.Modular
import ClusterLicense.Proofs.Bytes.BigEndian
import ClusterLicense.Proofs.Cipher.Aes
import ClusterLicense.Proofs.Text.Utf8
import ClusterLicense.Proofs.Text.Blank
import ClusterLicense.Proofs.Bytes.Base64
import ClusterLicense.Proofs.Cipher.SymmetricKey
import ClusterLicense.Proofs.Outcome
import ClusterLicense.Proofs.License.Envelope
import ClusterLicense.Proofs.License.Formatting
import ClusterLicense.Proofs.License.Acceptance
import ClusterLicense.Proofs.Decimal.Digits
import ClusterLicense.Proofs.Json.Text
import ClusterLicense.Proofs.License.Record
import ClusterLicense.Proofs.Rsa.Signature
import ClusterLicense.Proofs.License.Binding
import ClusterLicense.Proofs.License.SelfIssued
import ClusterLicense.Proofs.Cluster.Learning
import ClusterLicense.Proofs.Cluster.Publishing
import ClusterLicense.Proofs.Cluster.Registering
import ClusterLicense.Proofs.Json.Grammar
import ClusterLicense.Proofs.Json.Reader
import ClusterLicense.Proofs.Json.Numeral
import ClusterLicense.Proofs.Json.Spelling
import ClusterLicense.Proofs.Json.Scalar
import ClusterLicense.Proofs.Json.Value
import ClusterLicense.Proofs.Json.Skipping
import ClusterLicense.Proofs.Json.Form
import ClusterLicense.Proofs.Json.Members
import ClusterLicense.Proofs.Json.Slots
import ClusterLicense.Proofs.License.Payload
import ClusterLicense.Proofs.License.Storage
import ClusterLicense.Proofs.Cluster.Bootstrapping
import ClusterLicense.Proofs.Authority.Issue
import ClusterLicense.Proofs.Cluster.Wire
import ClusterLicense.Proofs.Cluster.Accounting
import ClusterLicense.Proofs.Cluster.Delivering
import ClusterLicense.Proofs.Cluster.Moving
import ClusterLicense.Proofs.Cluster.Restarting
import ClusterLicense.Proofs.Cipher.Refusal
import ClusterLicense.Proofs.License.Malformation
import ClusterLicense.Proofs.License.Position
import ClusterLicense.Proofs.Cluster.Caching
import ClusterLicense.Proofs.License.Persisted
import ClusterLicense.Proofs.License.Packing
import ClusterLicense.Proofs.License.Shape
import ClusterLicense.Proofs.License.Replication
import ClusterLicense.Proofs.License.Recreation
import ClusterLicense.Proofs.Rsa.Recovery
import ClusterLicense.Proofs.License.Signing
import ClusterLicense.Proofs.Authority.Inspection
import ClusterLicense.Proofs.Arithmetic.Inverse
import ClusterLicense.Proofs.Der.Element
import ClusterLicense.Proofs.Rsa.Encoding
import ClusterLicense.Proofs.Storage.Directory
import ClusterLicense.Proofs.Storage.Volume
import ClusterLicense.Proofs.Rsa.KeyFile
import ClusterLicense.Proofs.Cluster.Configuring
import ClusterLicense.Proofs.Cluster.Warning
