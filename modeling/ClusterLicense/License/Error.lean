/-
  ClusterLicense/License/Error.lean
  =================================
  **Why a license is refused or cannot be handled.**

  The first causes, up to an expiration that has passed, are what a license of
  unknown origin may fail on; the others are faults of the caller, the cluster
  or its storage.
-/
import ClusterLicense.Bytes.Base64
import ClusterLicense.CryptoError

namespace ClusterLicense

inductive Malformation where
  | notBase64 (cause : Base64.Error)
  | unsupportedVersion (version : Int32)
  | unknownKind (code : Int32)
  | negativeLength (length : Int32)
  /-- A field of `need` octets at `offset` runs over the end. -/
  | truncated (need offset left : Nat)
  | trailing (count : Nat)
  /-- There is more content than the length field can say. -/
  | oversized (length : Nat)
  /-- A reason in the words of whoever reports it. -/
  | other (text : String)
  deriving DecidableEq

def Malformation.message : Malformation → String
  | .notBase64 cause => s!"invalid base64: {cause.message}"
  | .unsupportedVersion version => s!"unsupported license version {version}"
  | .unknownKind code => s!"unknown license type {code}"
  | .negativeLength length => s!"negative content length {length}"
  | .truncated need offset left =>
    s!"truncated envelope: need {need} bytes at offset {offset}, have {left}"
  | .trailing count => s!"{count} trailing bytes after envelope"
  | .oversized length => s!"content length {length} exceeds the envelope limit"
  | .other text => text

inductive LicenseError where
  /-- The envelope cannot be decoded. -/
  | malformedKey (cause : Malformation)
  /-- The payload cannot be decrypted. -/
  | decryption (cause : CryptoError)
  /-- The payload is no record. -/
  | parse (detail : String)
  /-- A key of the licensing authority cannot be loaded or used. -/
  | keyMaterial (cause : CryptoError)
  /-- The signature does not belong to the record. -/
  | signatureMismatch
  /-- The record's expiration has passed. -/
  | expired (expiration : Int64)
  /-- There is no kind of license with this code. -/
  | invalidLicenseType (code : Int32)
  /-- What was asked for is not done with this kind of license. -/
  | unsupportedOperation (detail : String)
  /-- A license was refused before anything was written. -/
  | invalidLicense (detail : String)
  /-- A license that the cluster has already accepted cannot be read any more. -/
  | clusterLicenseCorruption (detail : String)
  /-- Stored metadata cannot be read. -/
  | metadataParsing (detail : String)
  /-- The cluster did not take the license into its metadata. -/
  | registration (detail : String)
  /-- Storage failed. -/
  | io (cause : StorageError)
  /-- JSON could not be read. -/
  | serialization (detail : String)
  deriving DecidableEq

def LicenseError.message : LicenseError → String
  | .malformedKey cause => s!"malformed license key: {cause.message}"
  | .decryption cause => s!"unable to decrypt license: {cause.message}"
  | .parse detail => s!"invalid license payload: {detail}"
  | .keyMaterial cause => s!"key material error: {cause.message}"
  | .signatureMismatch => "license signature invalid"
  | .expired expiration => s!"license expired at {expiration}ms"
  | .invalidLicenseType code => s!"Invalid License Type: {code}"
  | .unsupportedOperation detail => s!"unsupported operation: {detail}"
  | .invalidLicense detail => s!"invalid license: {detail}"
  | .clusterLicenseCorruption detail => s!"invalid license present in cluster: {detail}"
  | .metadataParsing detail => s!"unable to parse license metadata: {detail}"
  | .registration detail => s!"license registration failed: {detail}"
  | .io cause => s!"i/o error: {cause.message}"
  | .serialization detail => s!"serialization error: {detail}"

def LicenseError.chain (e : LicenseError) : List String :=
  e.message ::
    match e with
    | .decryption cause => cause.chain
    | .keyMaterial cause => cause.chain
    | .io cause => [cause.message]
    | .serialization detail => [detail]
    | _ => []

end ClusterLicense
