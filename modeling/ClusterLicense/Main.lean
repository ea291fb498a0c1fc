/-
  ClusterLicense/Main.lean
  ========================
  **The licensing authority's tool as a program**: the disk, the clock, random
  octets and the standard streams around `CommandLine.run`.
-/
import ClusterLicense.CommandLine.Run
import ClusterLicense.Rsa.Generation
import Std.Time.DateTime.Timestamp

namespace ClusterLicense

/-- The number of a failure, which some of the system's parts report as its negative. -/
def failureNumber (code : UInt32) : UInt32 := if code < 0x80000000 then code else 0 - code

def StorageError.ofSystem : IO.Error → StorageError
  | .noFileOrDirectory _ _ _ => .missing
  | .inappropriateType _ code _ =>
    if failureNumber code = 20 then .notDirectory else .isDirectory
  | .invalidArgument _ code _ => if failureNumber code = 36 then .nameTooLong else .nulInName
  | e => .other (toString e)

def Bytes.ofArray (bytes : ByteArray) : Bytes := bytes.toList

instance : Files IO where
  read name := do
    try
      return .ok (Bytes.ofArray (← IO.FS.readBinFile name))
    catch e =>
      return .error (.ofSystem e)
  write name bytes := do
    try
      IO.FS.writeBinFile name ⟨bytes.toArray⟩
      return .ok ()
    catch e =>
      return .error (.ofSystem e)

def currentMillis : IO Int64 := do
  let now ← Std.Time.Timestamp.now
  return LicenseRecord.clamp now.toMillisecondsSinceUnixEpoch.val

/-- A key pair from random octets of the system. -/
def generateKey : IO (Except CryptoError Rsa.PrivateKey) := do
  let seedP ← IO.getRandomBytes (USize.ofNat Rsa.seedSize)
  let seedQ ← IO.getRandomBytes (USize.ofNat Rsa.seedSize)
  return Rsa.PrivateKey.generate (Bytes.ofArray seedP) (Bytes.ofArray seedQ)

end ClusterLicense

open ClusterLicense in
def main (line : List String) : IO UInt32 := do
  let report ← CommandLine.run (← currentMillis) generateKey line
  (← IO.getStdout).write ⟨report.output.toArray⟩
  if report.showsUsage then
    if report.exitCode = 0 then IO.print CommandLine.usage else IO.eprint CommandLine.usage
  if let some e := report.error then
    IO.eprintln e
  return UInt32.ofNat report.exitCode
