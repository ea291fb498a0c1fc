/-
  ClusterLicense/Proofs/License/Position.lean
  ===========================================
  **Reading an envelope by position never leaves the envelope.**

  `open?` takes fields off the front of what is left, so there is nothing outside
  that it could reach.  A reader that keeps the whole envelope and a position in it
  could: by an index or a slice behind the end, by a difference below zero, or by
  standing behind the end itself.  `Cursor.read` is that reader, and whatever would
  be out of range is a step without an outcome.  It has an outcome on every input,
  and it is that of `open?` (`Cursor.read_eq_open?`).
-/
import ClusterLicense.Proofs.License.Malformation

namespace ClusterLicense.LicenseKey

open Bytes (ofInt32)

structure Cursor where
  envelope : Bytes
  position : Nat

namespace Cursor

variable {α β : Type}

/-! ### Ranges -/

/-- How many positions a machine can tell apart. -/
def positions : Nat := 2 ^ 64

def sum? (a b : Nat) : Option Nat := if a + b < positions then some (a + b) else none

def difference? (a b : Nat) : Option Nat := if b ≤ a then some (a - b) else none

/-- The octets from one position up to another, if there are these positions. -/
def slice? (octets : Bytes) (start stop : Nat) : Option Bytes :=
  if start ≤ stop ∧ stop ≤ octets.length then some ((octets.drop start).take (stop - start))
  else none

/-- The position behind the next octets, if there are as many. -/
def stop? (cursor : Cursor) (count : Nat) : Option Nat :=
  (sum? cursor.position count).filter (· ≤ cursor.envelope.length)

def left? (cursor : Cursor) : Option Nat := difference? cursor.envelope.length cursor.position

/-! ### Steps -/

/-- A step from one position to the next.  It has no outcome if it uses what is out of range;
otherwise it gives a value or tells what is wrong with the envelope. -/
abbrev Step := ExceptT Malformation (StateT Cursor Option)

def Step.outcome? (step : Step α) (cursor : Cursor) : Option (Except Malformation α × Cursor) :=
  StateT.run (ExceptT.run step) cursor

def inRange (value? : Option α) : Step α := ExceptT.lift (StateT.lift value?)

/-- Goes to a position, which has to be in the envelope or right behind it. -/
def goTo (position : Nat) : Step Unit := do
  let cursor ← get
  inRange (if position ≤ cursor.envelope.length then some () else none)
  set { cursor with position := position }

def take (count : Nat) : Step Bytes := do
  let cursor ← get
  match cursor.stop? count with
  | some stop =>
    let octets ← inRange (slice? cursor.envelope cursor.position stop)
    goTo stop
    return octets
  | none =>
    let left ← inRange cursor.left?
    throw (.truncated count cursor.position left)

def int32 : Step Int32 := do
  let octets ← take 4
  let a ← inRange octets[0]?
  let b ← inRange octets[1]?
  let c ← inRange octets[2]?
  let d ← inRange octets[3]?
  return Bytes.int32 a b c d

def finish : Step Unit := do
  let cursor ← get
  if cursor.position = cursor.envelope.length then return ()
  else
    let left ← inRange cursor.left?
    throw (.trailing left)

def content (kind : LicenseKind) (length : Int32) : Step DecodedLicense := do
  if length < 0 then throw (.negativeLength length)
  else
    let content ← take length.toInt.toNat
    finish
    return ⟨kind, currentVersion, content⟩

def afterKind (kind : LicenseKind) : Step DecodedLicense := do
  content kind (← int32)

def afterVersion : Step DecodedLicense := do
  let code ← int32
  match LicenseKind.ofCode? code with
  | none => throw (.unknownKind code)
  | some kind => afterKind kind

/-- What the envelope holds, read from its start to its end. -/
def read : Step DecodedLicense := do
  let version ← int32
  if version ≠ currentVersion then throw (.unsupportedVersion version) else afterVersion

/-! ### Outcomes -/

theorem outcome?_bind {step : Step α} {f : α → Step β} {cursor later : Cursor} {a : α}
    (h : step.outcome? cursor = some (.ok a, later)) :
    (step >>= f).outcome? cursor = (f a).outcome? later := by
  show (step.outcome? cursor >>= fun p => StateT.run (ExceptT.bindCont f p.1) p.2) = _
  rw [h]
  rfl

theorem outcome?_bind_error {step : Step α} {f : α → Step β} {cursor later : Cursor}
    {cause : Malformation} (h : step.outcome? cursor = some (.error cause, later)) :
    (step >>= f).outcome? cursor = some (.error cause, later) := by
  show (step.outcome? cursor >>= fun p => StateT.run (ExceptT.bindCont f p.1) p.2) = _
  rw [h]
  rfl

theorem outcome?_get (cursor : Cursor) :
    (get : Step Cursor).outcome? cursor = some (.ok cursor, cursor) := rfl

theorem outcome?_pure (a : α) (cursor : Cursor) :
    (pure a : Step α).outcome? cursor = some (.ok a, cursor) := rfl

theorem outcome?_throw (cause : Malformation) (cursor : Cursor) :
    (throw cause : Step α).outcome? cursor = some (.error cause, cursor) := rfl

theorem outcome?_inRange {value? : Option α} {a : α} (h : value? = some a) (cursor : Cursor) :
    (inRange value?).outcome? cursor = some (.ok a, cursor) := by
  rw [h]
  rfl

theorem outcome?_goTo {position : Nat} {cursor : Cursor}
    (h : position ≤ cursor.envelope.length) :
    (goTo position).outcome? cursor = some (.ok (), { cursor with position := position }) := by
  rw [goTo, outcome?_bind (outcome?_get cursor), outcome?_bind (outcome?_inRange (if_pos h) cursor)]
  rfl

/-- The reader stands between the octets that it has read and those that are left. -/
def between (done left : Bytes) : Cursor := ⟨done ++ left, done.length⟩

theorem between_nil (envelope : Bytes) : between [] envelope = ⟨envelope, 0⟩ := rfl

variable {done left : Bytes}

theorem left?_between (done left : Bytes) : (between done left).left? = some left.length := by
  rw [left?, between, difference?, List.length_append, if_pos (Nat.le_add_right _ _),
    Nat.add_sub_cancel_left]

/-- Octets that are there are taken, and the position moves behind them.  Their end has to be a
number that a position can be, which is why the length of what was read so far comes in. -/
theorem outcome?_take {octets : Bytes} (hsmall : done.length + octets.length < positions) :
    (take octets.length).outcome? (between done (octets ++ left)) =
      some (.ok octets, between (done ++ octets) left) := by
  have hend : done.length + octets.length ≤ (done ++ (octets ++ left)).length := by
    simp only [List.length_append]
    omega
  have hstop : (between done (octets ++ left)).stop? octets.length =
      some (done.length + octets.length) := by
    rw [stop?, between, sum?, if_pos hsmall, Option.filter_some, if_pos (decide_eq_true hend)]
  have hslice : slice? (done ++ (octets ++ left)) done.length (done.length + octets.length) =
      some octets := by
    rw [slice?, if_pos ⟨Nat.le_add_right _ _, hend⟩, List.drop_left, Nat.add_sub_cancel_left,
      List.take_left]
  rw [take, outcome?_bind (outcome?_get _), hstop, between, between]
  simp only
  rw [outcome?_bind (outcome?_inRange hslice _), outcome?_bind (outcome?_goTo hend), outcome?_pure,
    List.append_assoc, List.length_append]

/-- If too few octets are left, the error says how many were asked for, where, and how many there
are, and the position stays. -/
theorem outcome?_take_short {count : Nat} (h : left.length < count) :
    (take count).outcome? (between done left) =
      some (.error (.truncated count done.length left.length), between done left) := by
  have hstop : (between done left).stop? count = none := by
    rw [stop?, Option.filter_eq_none_iff]
    intro stop hsum
    rw [sum?] at hsum
    split at hsum
    · cases hsum
      simp only [between, decide_eq_true_eq, List.length_append]
      omega
    · cases hsum
  rw [take, outcome?_bind (outcome?_get _), hstop]
  simp only
  rw [outcome?_bind (outcome?_inRange (left?_between done left) _), outcome?_throw]
  rfl

theorem outcome?_int32 (hsmall : done.length + 4 < positions) (n : Int32) :
    int32.outcome? (between done (ofInt32 n ++ left)) =
      some (.ok n, between (done ++ ofInt32 n) left) := by
  obtain ⟨a, b, c, d, hoctets, hn⟩ := Bytes.int32_ofInt32 n
  have htake := @outcome?_take done left (ofInt32 n) (by rwa [Bytes.length_ofInt32])
  rw [Bytes.length_ofInt32] at htake
  rw [int32, outcome?_bind htake, hoctets, ← hn]
  rfl

theorem outcome?_int32_short (h : left.length < 4) :
    int32.outcome? (between done left) =
      some (.error (.truncated 4 done.length left.length), between done left) := by
  rw [int32, outcome?_bind_error (outcome?_take_short h)]

theorem outcome?_finish (done : Bytes) :
    finish.outcome? (between done []) = some (.ok (), between done []) := by
  have hend : (between done []).position = (between done []).envelope.length := by
    rw [between, List.append_nil]
  rw [finish, outcome?_bind (outcome?_get _), if_pos hend, outcome?_pure]

theorem outcome?_finish_trailing (h : left ≠ []) :
    finish.outcome? (between done left) =
      some (.error (.trailing left.length), between done left) := by
  have hmore : ¬ (between done left).position = (between done left).envelope.length := by
    have hpos := List.length_pos_iff.mpr h
    simp only [between, List.length_append]
    omega
  rw [finish, outcome?_bind (outcome?_get _), if_neg hmore,
    outcome?_bind (outcome?_inRange (left?_between done left) _), outcome?_throw]

/-! ### Whole envelopes -/

/-- The reader is where it started or further on, and not outside the envelope. -/
structure Within (envelope : Bytes) (cursor : Cursor) : Prop where
  envelope_eq : cursor.envelope = envelope
  position_le : cursor.position ≤ envelope.length

theorem within_between (done left : Bytes) : Within (done ++ left) (between done left) where
  envelope_eq := rfl
  position_le := by
    rw [between, List.length_append]
    exact Nat.le_add_right _ _

def header (kind : LicenseKind) (length : Int32) : Bytes :=
  ofInt32 currentVersion ++ ofInt32 kind.code ++ ofInt32 length

theorem header_append (kind : LicenseKind) (length : Int32) (content : Bytes) :
    header kind length ++ content =
      ofInt32 currentVersion ++ (ofInt32 kind.code ++ (ofInt32 length ++ content)) := by
  rw [header, List.append_assoc, List.append_assoc]

@[simp] theorem length_header (kind : LicenseKind) (length : Int32) :
    (header kind length).length = 12 := by
  simp only [header, List.length_append, Bytes.length_ofInt32]

theorem outcome?_read (rest : Bytes) :
    read.outcome? ⟨ofInt32 currentVersion ++ rest, 0⟩ =
      afterVersion.outcome? (between (ofInt32 currentVersion) rest) := by
  rw [← between_nil, read, outcome?_bind (outcome?_int32 (by decide) _),
    if_neg (not_not_intro rfl), List.nil_append]

theorem outcome?_read_kind (kind : LicenseKind) (rest : Bytes) :
    read.outcome? ⟨ofInt32 currentVersion ++ (ofInt32 kind.code ++ rest), 0⟩ =
      (afterKind kind).outcome? (between (ofInt32 currentVersion ++ ofInt32 kind.code) rest) := by
  rw [outcome?_read, afterVersion, outcome?_bind (outcome?_int32 (by decide) _),
    LicenseKind.ofCode?_code]

/-- Behind a version and a kind that are right, and whatever the length says, the reader stands
before the content. -/
theorem outcome?_read_header (kind : LicenseKind) (length : Int32) (rest : Bytes) :
    read.outcome? ⟨header kind length ++ rest, 0⟩ =
      (content kind length).outcome? (between (header kind length) rest) := by
  have hsmall : (ofInt32 currentVersion ++ ofInt32 kind.code).length + 4 < positions := by
    rw [List.length_append, Bytes.length_ofInt32, Bytes.length_ofInt32]
    decide
  rw [header_append, outcome?_read_kind, afterKind, outcome?_bind (outcome?_int32 hsmall _), header]

/-- No content is so long that the position behind it is not a number.  The length field has 31 bits
for it, and positions have 64. -/
theorem content_lt_positions (kind : LicenseKind) (length : Int32) :
    (header kind length).length + length.toInt.toNat < positions := by
  have hlt := length.toInt_lt
  rw [length_header, positions]
  omega

/-- What was encoded is read to its end, and the reader finds in it what was put there.  All sums of
positions are in range on the way, since the whole envelope is. -/
theorem read_encoded {kind : LicenseKind} {content envelope : Bytes}
    (h : encode kind currentVersion content = .ok ⟨envelope⟩) :
    ∃ cursor, read.outcome? ⟨envelope, 0⟩ = some (.ok ⟨kind, currentVersion, content⟩, cursor) ∧
      Within envelope cursor := by
  obtain ⟨hle, henvelope⟩ := encode_eq_ok_iff.mp h
  obtain ⟨hpos, hlength⟩ := toInt_ofNat_of_le hle
  have hsmall := content_lt_positions kind (Int32.ofNat content.length)
  rw [hlength] at hsmall
  have htake := @outcome?_take _ [] content hsmall
  rw [List.append_nil] at htake
  rw [← header_append] at henvelope
  subst henvelope
  refine ⟨between (header kind (Int32.ofNat content.length) ++ content) [], ?_, ?_⟩
  · rw [outcome?_read_header, Cursor.content, if_neg hpos, hlength, outcome?_bind htake,
      outcome?_bind (outcome?_finish _), outcome?_pure]
  · have hwithin := within_between (header kind (Int32.ofNat content.length) ++ content) []
    rwa [List.append_nil] at hwithin

/-- Octets with a flaw are refused for it, and the reader stops inside them.  One case for each
flaw; in each the reader has come as far as the octets are right. -/
theorem read_of_flaw {envelope : Bytes} {cause : Malformation} (h : Flaw envelope cause) :
    ∃ cursor, read.outcome? ⟨envelope, 0⟩ = some (.error cause, cursor) ∧
      Within envelope cursor := by
  cases h with
  | noVersion h =>
    refine ⟨between [] envelope, ?_, within_between [] envelope⟩
    rw [← between_nil, read, outcome?_bind_error (outcome?_int32_short h), List.length_nil]
  | @otherVersion version rest h =>
    refine ⟨between (ofInt32 version) rest, ?_, within_between _ _⟩
    rw [← between_nil, read, outcome?_bind (outcome?_int32 (by decide) _), if_pos h,
      outcome?_throw, List.nil_append]
  | @noKind rest h =>
    refine ⟨between (ofInt32 currentVersion) rest, ?_, within_between _ _⟩
    rw [outcome?_read, afterVersion, outcome?_bind_error (outcome?_int32_short h),
      Bytes.length_ofInt32]
  | @otherKind code rest h =>
    refine ⟨between (ofInt32 currentVersion ++ ofInt32 code) rest, ?_, ?_⟩
    · rw [outcome?_read, afterVersion, outcome?_bind (outcome?_int32 (by decide) _),
        ofCode?_eq_none h]
      exact outcome?_throw _ _
    · rw [← List.append_assoc]
      exact within_between _ _
  | @noLength kind rest h =>
    refine ⟨between (ofInt32 currentVersion ++ ofInt32 kind.code) rest, ?_, ?_⟩
    · rw [outcome?_read_kind, afterKind, outcome?_bind_error (outcome?_int32_short h),
        List.length_append, Bytes.length_ofInt32, Bytes.length_ofInt32]
    · rw [← List.append_assoc]
      exact within_between _ _
  | @negative kind length rest h =>
    rw [← header_append]
    refine ⟨between (header kind length) rest, ?_, within_between _ _⟩
    rw [outcome?_read_header, content, if_pos h, outcome?_throw]
  | @cutOff kind length rest hpos h =>
    rw [← header_append]
    refine ⟨between (header kind length) rest, ?_, within_between _ _⟩
    rw [outcome?_read_header, content, if_neg hpos, outcome?_bind_error (outcome?_take_short h),
      length_header]
  | @trailing kind length rest hpos h =>
    obtain ⟨taken, extra, rfl, hlength⟩ :
        ∃ taken extra, taken ++ extra = rest ∧ taken.length = length.toInt.toNat :=
      ⟨_, _, List.take_append_drop length.toInt.toNat rest,
        List.length_take_of_le (Nat.le_of_lt h)⟩
    have hsmall := content_lt_positions kind length
    rw [← hlength] at hsmall h ⊢
    rw [List.length_append] at h
    have hextra : extra ≠ [] := List.length_pos_iff.mp (by omega)
    rw [← header_append]
    refine ⟨between (header kind length ++ taken) extra, ?_, ?_⟩
    · rw [outcome?_read_header, content, if_neg hpos, ← hlength,
        outcome?_bind (outcome?_take hsmall), outcome?_bind_error (outcome?_finish_trailing hextra),
        List.length_append, Nat.add_sub_cancel_left]
    · rw [← List.append_assoc]
      exact within_between _ _

/-- **The reader by positions always has an outcome, and it is that of the reader from the
front.**  So on no input does it leave the envelope. -/
theorem read_eq_open? (envelope : Bytes) :
    ∃ cursor, read.outcome? ⟨envelope, 0⟩ = some (open? envelope, cursor) ∧
      Within envelope cursor := by
  rcases encoded_or_flaw envelope with ⟨kind, content, hencode⟩ | ⟨cause, hflaw⟩
  · rw [open?_eq_ok_iff.mpr ⟨rfl, hencode⟩]
    exact read_encoded hencode
  · rw [open?_of_flaw hflaw]
    exact read_of_flaw hflaw

end Cursor

/-! ### Keys -/

theorem decode_of_open?_error {envelope : Bytes} {cause : Malformation}
    (h : open? envelope = .error cause) :
    (⟨envelope⟩ : LicenseKey).decode = .error (.malformedKey cause) := by
  rw [decode, h]

/-- **What was encoded is decoded, and nothing else is.**  Any other octets are refused for
their flaw, whether they are a key that is cut or extended or no key at all, and reading them
by position never leaves them. -/
theorem decode_exactly_encoded (envelope : Bytes) :
    (∀ kind content, content.length ≤ largestLength →
      ∃ key, encode kind currentVersion content = .ok key ∧
        ((⟨envelope⟩ : LicenseKey).decode = .ok ⟨kind, currentVersion, content⟩ ↔
          envelope = key.envelope)) ∧
    ((∀ kind content, encode kind currentVersion content ≠ .ok ⟨envelope⟩) →
      ∃ cause, Flaw envelope cause ∧
        (⟨envelope⟩ : LicenseKey).decode = .error (.malformedKey cause)) ∧
    (∀ kind content, encode kind currentVersion content = .ok ⟨envelope⟩ →
      (∀ front missing, envelope = front ++ missing → missing ≠ [] →
        ∃ need offset left, (⟨front⟩ : LicenseKey).decode =
          .error (.malformedKey (.truncated need offset left))) ∧
      ∀ extra, extra ≠ [] → (⟨envelope ++ extra⟩ : LicenseKey).decode =
        .error (.malformedKey (.trailing extra.length))) ∧
    ∃ cursor, Cursor.read.outcome? ⟨envelope, 0⟩ = some (open? envelope, cursor) ∧
      Cursor.Within envelope cursor := by
  refine ⟨?_, ?_, ?_, Cursor.read_eq_open? envelope⟩
  · intro kind content hle
    refine ⟨wrap kind content, encode_eq_wrap kind hle, ?_⟩
    rw [decode_eq_ok_iff, encode_eq_ok_iff]
    constructor
    · rintro ⟨-, -, henvelope⟩
      exact henvelope
    · intro henvelope
      exact ⟨rfl, hle, henvelope⟩
  · intro hother
    rcases encoded_or_flaw envelope with ⟨kind, content, hencode⟩ | ⟨cause, hflaw⟩
    · exact absurd hencode (hother kind content)
    · exact ⟨cause, hflaw, decode_of_open?_error (open?_of_flaw hflaw)⟩
  · intro kind content hencode
    constructor
    · rintro front missing rfl hmissing
      obtain ⟨need, offset, left, hopen⟩ := open?_cut hencode hmissing
      exact ⟨need, offset, left, decode_of_open?_error hopen⟩
    · intro extra hextra
      exact decode_of_open?_error (open?_encode_append hencode hextra)

/-- A key of fifteen octets as it is, cut, extended, and with another version in its place. -/
theorem decode_exactly_encoded_enterprise :
    let key := wrap .enterprise [1, 2, 3]
    key.decode = .ok ⟨.enterprise, currentVersion, [1, 2, 3]⟩ ∧
      (∃ need offset left, (⟨key.envelope.take 14⟩ : LicenseKey).decode =
        .error (.malformedKey (.truncated need offset left))) ∧
      (⟨key.envelope ++ [0]⟩ : LicenseKey).decode = .error (.malformedKey (.trailing 1)) ∧
      ∃ cause, (⟨[0, 0, 0, 9]⟩ : LicenseKey).decode = .error (.malformedKey cause) := by
  intro key
  have hsmall : [1, 2, 3].length ≤ largestLength := by decide
  have hkey : encode .enterprise currentVersion [1, 2, 3] = .ok key := encode_eq_wrap _ hsmall
  obtain ⟨hdecode, -, hnear, -⟩ := decode_exactly_encoded key.envelope
  obtain ⟨hcut, hextended⟩ := hnear _ _ hkey
  obtain ⟨-, hother, -, -⟩ := decode_exactly_encoded [0, 0, 0, 9]
  refine ⟨?_, ?_, ?_, ?_⟩
  · obtain ⟨found, hfound, hiff⟩ := hdecode .enterprise [1, 2, 3] hsmall
    cases hkey.symm.trans hfound
    exact hiff.mpr rfl
  · exact hcut _ _ (List.take_append_drop 14 _).symm (by decide)
  · exact hextended [0] (List.cons_ne_nil _ _)
  · obtain ⟨cause, -, hrefused⟩ := hother fun kind content hencode => by
      obtain ⟨-, henvelope⟩ := encode_eq_ok_iff.mp hencode
      have hlength := congrArg List.length henvelope
      simp only [List.length_append, Bytes.length_ofInt32, List.length_cons, List.length_nil]
        at hlength
      omega
    exact ⟨cause, hrefused⟩

end ClusterLicense.LicenseKey
