/-
  ClusterLicense/CommandLine/Run.lean
  ===================================
  **What the licensing authority's tool does and prints.**

  A run depends on the command line, the files, the time, and a source of new
  key pairs that is only asked when one is wanted.
-/
import ClusterLicense.Authority.Inspection
import ClusterLicense.Authority.Issue
import ClusterLicense.CommandLine.Arguments

namespace ClusterLicense.CommandLine

structure Report where
  exitCode : Nat
  /-- What goes to standard output. -/
  output : Bytes
  /-- What goes to standard error as the reason of a failure. -/
  error : Option String
  /-- Whether the tool's usage is shown. -/
  showsUsage : Bool

def lineFeed : UInt8 := 10

/-- A cause on lines of its own: its first line after `lead`, the others after `indent`. -/
def indented (lead indent text : String) : String :=
  lead ++ ("\n" ++ indent).intercalate (text.splitOn "\n")

def rightAligned (width n : Nat) : String :=
  let digits := Nat.toDigits 10 n
  String.ofList (List.replicate (width - digits.length) ' ' ++ digits)

def causes : List String → List String
  | [cause] => [indented "    " "    " cause]
  | several => several.zipIdx.map fun (cause, i) =>
    indented (rightAligned 5 i ++ ": ") "       " cause

def explanation : List String → String
  | [] => "Error: "
  | [text] => "Error: " ++ text
  | text :: chain => "Error: " ++ text ++ "\n\nCaused by:\n" ++ "\n".intercalate (causes chain)

def Report.success (output : Bytes) : Report := ⟨0, output, none, false⟩

def Report.failure (e : AuthorityError) : Report := ⟨1, [], some (explanation e.chain), false⟩

/-- A run without anything to do: asking for help is no failure. -/
def Report.refusal : Refusal → Report
  | .help => ⟨0, [], none, true⟩
  | .usage => ⟨2, [], none, true⟩

def Report.ofExcept : Except AuthorityError Bytes → Report
  | .ok output => .success output
  | .error e => .failure e

def keyLine (key : LicenseKey) : Bytes := Utf8.encode key.text ++ [lineFeed]

/-- When a license expires that is issued now. -/
def Expiration.instant (now : Int64) : Expiration → Except AuthorityError Int64
  | .inDays days => Authority.expirationInDays now days
  | .atMillis instant => .ok instant

variable {m : Type → Type} [Monad m] [Files m]

def Command.run (now : Int64) (generate : m (Except CryptoError Rsa.PrivateKey))
    (symmetricKey : SymmetricKey) : Command → m (Except AuthorityError Bytes)
  | .generateKeys publicKey privateKey => do
    let saved ← Authority.saveKeys (← generate) publicKey privateKey
    return saved.map fun () => []
  | .issue privateKey issuedTo expiration => do
    match expiration.instant now with
    | .error e => return .error e
    | .ok instant =>
      let issued ← Authority.issue symmetricKey privateKey issuedTo instant now
      return issued.map keyLine
  | .selfGenerated issuedTo => do
    return (Authority.selfGenerated symmetricKey issuedTo).map keyLine
  | .inspect key publicKey => do
    match ← Authority.loadVerifier symmetricKey publicKey with
    | .error e => return .error e
    | .ok verifier =>
      return (Authority.inspect verifier key now).map fun report =>
        report.json.pretty 0 ++ [lineFeed]

def run (now : Int64) (generate : m (Except CryptoError Rsa.PrivateKey)) (line : List String) :
    m Report := do
  match Arguments.parse line with
  | .error refusal => return .refusal refusal
  | .ok arguments =>
    match Authority.symmetricKey arguments.passphrase with
    | .error e => return .failure e
    | .ok key => return .ofExcept (← arguments.command.run now generate key)

end ClusterLicense.CommandLine
