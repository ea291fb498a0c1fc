/-
  ClusterLicense/Json/Reader.lean
  ===============================
  **Reading JSON off the front of octets.**

  A reader takes what it needs from the front of its input and leaves the rest,
  or stops with a fault.  There is one way to go round in a loop, `iterate`: it
  repeats a step for as long as the step asks for it and has made the input
  shorter, so every reader ends.
-/
import ClusterLicense.Json.Problem

namespace ClusterLicense.Json

/-- Takes a value from the front of octets. -/
abbrev Reader := StateT Bytes (Except Fault)

/-- The octets that may stand between tokens: space, line feed, tab, carriage return. -/
def isBlank (b : UInt8) : Bool := b = 32 || b = 10 || b = 9 || b = 13

namespace Reader

variable {α σ : Type}

/-! ### Steps -/

def fail (problem : Problem) : Reader α := fun s => .error ⟨problem, s.length⟩

/-- Stops after the next octet, if there is one. -/
def failNext (problem : Problem) : Reader α := fun s => .error ⟨problem, s.length - 1⟩

/-- Stops `unread` octets before the place that has been reached. -/
def failBefore (unread : Nat) (problem : Problem) : Reader α := fun s =>
  .error ⟨problem, s.length + unread⟩

def peek : Reader (Option UInt8) := fun s => .ok (s.head?, s)

def advance : Reader Unit := fun s => .ok ((), s.drop 1)

def blanks : Reader Unit := fun s => .ok ((), s.dropWhile isBlank)

/-- The next octet that is not blank, which stays where it is. -/
def next : Reader (Option UInt8) := do
  blanks
  peek

def takeWhile (p : UInt8 → Bool) : Reader Bytes := fun s => .ok (s.takeWhile p, s.dropWhile p)

/-- Takes the next octet away if it is the given one, and tells whether it was. -/
def skip? (b : UInt8) : Reader Bool := do
  if (← peek) = some b then
    advance
    return true
  else return false

/-! ### Loops -/

/-- Runs `step` on `x`, then on what it asks to go on with, until it has a result.  A step that
goes on has to take something away; one that does not is treated as finding no value. -/
def iterate (step : σ → Reader (σ ⊕ α)) (x : σ) (s : Bytes) : Except Fault (α × Bytes) :=
  match step x s with
  | .error fault => .error fault
  | .ok (.inr result, rest) => .ok (result, rest)
  | .ok (.inl y, rest) =>
    if rest.length < s.length then iterate step y rest
    else .error ⟨.expectedValue, rest.length⟩
  termination_by s.length

/-! ### Whole inputs -/

def atEnd : Reader Unit := do
  match ← next with
  | none => pure ()
  | some _ => failNext .trailingCharacters

/-- Reads one value that makes up the whole input. -/
def whole (reader : Reader α) (input : Bytes) : Except Fault α :=
  match (do let a ← reader; atEnd; pure a : Reader α) input with
  | .ok (a, _) => .ok a
  | .error fault => .error fault

end Reader

/-! ### Key words -/

def keyword : Bytes → Reader Unit
  | [] => pure ()
  | b :: bs => do
    match ← Reader.peek with
    | none => Reader.fail .endInValue
    | some c =>
      Reader.advance
      if c = b then keyword bs else Reader.fail .expectedIdent

def nullTail : Bytes := [0x75, 0x6C, 0x6C]

def trueTail : Bytes := [0x72, 0x75, 0x65]

def falseTail : Bytes := [0x61, 0x6C, 0x73, 0x65]

end ClusterLicense.Json
