/-
  ClusterLicense/CommandLine/Arguments.lean
  =========================================
  **Reading the command line** of the licensing authority's tool.

  A line is a few general options, a command, and the command's options among
  further general ones.  An option takes its value from behind an equals sign or
  from the next word; a word that starts with a hyphen is no value.  The line is
  read from left to right, and the first thing that is wrong, or a call for
  help, decides.
-/
import ClusterLicense.Bytes.BigEndian

namespace ClusterLicense.CommandLine

inductive Expiration where
  /-- A number of days from now. -/
  | inDays (days : UInt32)
  /-- At an instant, in milliseconds since 1970. -/
  | atMillis (instant : Int64)
  deriving DecidableEq

inductive Command where
  | generateKeys (publicKey privateKey : String)
  | issue (privateKey issuedTo : String) (expiration : Expiration)
  | selfGenerated (issuedTo : String)
  | inspect (key : String) (publicKey : Option String)
  deriving DecidableEq

structure Arguments where
  passphrase : Option String
  command : Command
  deriving DecidableEq

inductive Refusal where
  /-- The line asks for help. -/
  | help
  /-- The line is not understood. -/
  | usage
  deriving DecidableEq

/-! ### Options -/

/-- What an option's value has to be. -/
inductive ValueKind where
  | text
  /-- The name of a file, which is not empty. -/
  | file
  /-- A whole number of 32 bits. -/
  | days
  /-- A whole number of 64 bits with a sign. -/
  | instant
  deriving DecidableEq

def integer? (text : String) : Option Int :=
  let digits? (cs : List Char) : Option Nat :=
    if cs.isEmpty || !cs.all Char.isDigit then none
    else some (cs.foldl (fun n c => 10 * n + (c.toNat - 48)) 0)
  match text.toList with
  | '-' :: cs => (digits? cs).map fun n => -(n : Int)
  | '+' :: cs => (digits? cs).map Int.ofNat
  | cs => (digits? cs).map Int.ofNat

def int64? (text : String) : Option Int64 := do
  let n ← integer? text
  guard (Int64.minValue.toInt ≤ n ∧ n ≤ Int64.maxValue.toInt)
  pure (Int64.ofInt n)

def uint32? (text : String) : Option UInt32 := do
  let n ← integer? text
  guard (0 ≤ n ∧ n < UInt32.size)
  pure (UInt32.ofNat n.toNat)

def ValueKind.admits : ValueKind → String → Bool
  | .text, _ => true
  | .file, value => value != ""
  | .days, value => (uint32? value).isSome
  | .instant, value => (int64? value).isSome

structure ValueOption where
  name : String
  kind : ValueKind
  deriving DecidableEq

def passphraseOption : ValueOption := ⟨"passphrase", .text⟩

def commandOptions : List (String × List ValueOption) := [
  ("generate-keys", [⟨"public-key", .file⟩, ⟨"private-key", .file⟩]),
  ("issue", [⟨"private-key", .file⟩, ⟨"issued-to", .text⟩, ⟨"expires-in-days", .days⟩,
    ⟨"expires-at-ms", .instant⟩]),
  ("self-generated", [⟨"issued-to", .text⟩]),
  ("inspect", [⟨"key", .text⟩, ⟨"public-key", .file⟩])]

def helpCommand : String := "help"

def verboseName : String := "verbose"

def usage : String :=
  "Issue and inspect license keys\n\n" ++
  "  generate-keys --public-key FILE --private-key FILE\n" ++
  "  issue --private-key FILE --issued-to NAME (--expires-in-days N | --expires-at-ms MS)\n" ++
  "  self-generated --issued-to NAME\n" ++
  "  inspect --key KEY [--public-key FILE]\n" ++
  "  help [COMMAND]\n\n" ++
  "Every command takes --passphrase TEXT, -v or --verbose, and -h or --help.\n"

/-! ### Words -/

inductive Word where
  /-- Two hyphens: only operands follow. -/
  | endOfOptions
  /-- A name after two hyphens, with what follows an equals sign. -/
  | long (name : String) (attached : Option String)
  /-- The letters after one hyphen. -/
  | short (letters : List Char)
  | operand (text : String)

def Word.ofString (word : String) : Word :=
  match word.toList with
  | ['-', '-'] => .endOfOptions
  | '-' :: '-' :: cs =>
    let name := String.ofList (cs.takeWhile (· != '='))
    match cs.dropWhile (· != '=') with
    | _ :: value => .long name (some (String.ofList value))
    | [] => .long name none
  | '-' :: c :: cs => .short (c :: cs)
  | _ => .operand word

/-- Whether a word can be the value of the option before it. -/
def Word.isValue (word : String) : Bool :=
  match Word.ofString word with
  | .operand _ => true
  | _ => false

/-! ### Reading one level of the line -/

/-- What has been given so far on a level: the values of options, and whether the log is to be
verbose. -/
structure Given where
  values : List (String × String)
  verbose : Bool

def Given.nothing : Given := ⟨[], false⟩

def Given.value? (given : Given) (name : String) : Option String := given.values.lookup name

def Given.put (given : Given) (option : ValueOption) (value : String) : Except Refusal Given :=
  if (given.value? option.name).isSome || !option.kind.admits value then .error .usage
  else .ok { given with values := given.values ++ [(option.name, value)] }

def Given.beVerbose (given : Given) : Except Refusal Given :=
  if given.verbose then .error .usage else .ok { given with verbose := true }

/-- Reads letters after one hyphen. -/
def Given.letters : List Char → Given → Except Refusal Given
  | [], given => .ok given
  | 'v' :: cs, given => do Given.letters cs (← given.beVerbose)
  | 'h' :: _, _ => .error .help
  | _, _ => .error .usage

/-- Reads options up to the first operand, and gives that operand with the words after it. -/
def readOptions (options : List ValueOption) :
    List String → Given → Except Refusal (Given × List String)
  | [], given => .ok (given, [])
  | word :: words, given =>
    match Word.ofString word with
    | .operand _ => .ok (given, word :: words)
    | .endOfOptions => if words.isEmpty then .ok (given, []) else .error .usage
    | .short letters => do readOptions options words (← given.letters letters)
    | .long name attached =>
      if name = verboseName then
        match attached with
        | none => do readOptions options words (← given.beVerbose)
        | some _ => .error .usage
      else if name = helpCommand then .error (if attached.isNone then .help else .usage)
      else
        match options.find? (·.name == name) with
        | none => .error .usage
        | some option =>
          match attached with
          | some value => do readOptions options words (← given.put option value)
          | none =>
            match words with
            | [] => .error .usage
            | value :: rest =>
              if Word.isValue value then do readOptions options rest (← given.put option value)
              else .error .usage

/-! ### The whole line -/

def required (given : Given) (name : String) : Except Refusal String :=
  match given.value? name with
  | some value => .ok value
  | none => .error .usage

/-- When the license is to expire, which is said in exactly one of two ways. -/
def expiration (given : Given) : Except Refusal Expiration :=
  match given.value? "expires-in-days", given.value? "expires-at-ms" with
  | some days, none => ((uint32? days).map Expiration.inDays).elim (.error .usage) .ok
  | none, some instant => ((int64? instant).map Expiration.atMillis).elim (.error .usage) .ok
  | _, _ => .error .usage

def Command.ofGiven (name : String) (given : Given) : Except Refusal Command := do
  match name with
  | "generate-keys" =>
    pure (.generateKeys (← required given "public-key") (← required given "private-key"))
  | "issue" =>
    pure (.issue (← required given "private-key") (← required given "issued-to")
      (← expiration given))
  | "self-generated" => pure (.selfGenerated (← required given "issued-to"))
  | "inspect" => pure (.inspect (← required given "key") (given.value? "public-key"))
  | _ => throw .usage

/-- What the help command answers: it explains the tool or one of its commands. -/
def helpOn : List String → Refusal
  | [] => .help
  | [topic] =>
    if topic = helpCommand || (commandOptions.lookup topic).isSome then .help else .usage
  | _ => .usage

/-- Reads a command line.  A general option that is given twice counts as it was given after the
command. -/
def Arguments.parse (line : List String) : Except Refusal Arguments := do
  let (before, words) ← readOptions [passphraseOption] line .nothing
  match words with
  | [] => throw .usage
  | name :: words =>
    if name = helpCommand then throw (helpOn words)
    match commandOptions.lookup name with
    | none => throw .usage
    | some options =>
      let (given, rest) ← readOptions (passphraseOption :: options) words .nothing
      unless rest.isEmpty do
        throw .usage
      let passphrase := given.value? passphraseOption.name <|> before.value? passphraseOption.name
      pure ⟨passphrase, ← Command.ofGiven name given⟩

end ClusterLicense.CommandLine
