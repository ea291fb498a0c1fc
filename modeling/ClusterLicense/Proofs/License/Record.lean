/-
  ClusterLicense/Proofs/License/Record.lean
  =========================================
  **A written record determines what it says.**

  In each of the written forms the expiration ends at the first comma after it,
  and the holder at its closing mark, whatever marks and escapes it is made of.  So
  two forms are the same if the members are, up to what comes after the holder
  (`canonical_inj`): nothing in the form that is signed, and a signature member in
  the others.  A signature that is missing is written like an empty one where it
  has to be written, and is left out where the record is stored.
-/
import ClusterLicense.License.Record
import ClusterLicense.Proofs.Decimal.Digits
import ClusterLicense.Proofs.Json.Text

namespace ClusterLicense.LicenseRecord

/-- What comes before the first comma, say, is determined, and so is what comes after it. -/
theorem append_cons_inj_of_notMem {x y s t : Bytes} {c : UInt8} (hx : c ∉ x) (hy : c ∉ y)
    (h : x ++ c :: s = y ++ c :: t) : x = y ∧ s = t := by
  induction x generalizing y with
  | nil =>
    cases y with
    | nil => exact ⟨rfl, (List.cons.inj h).2⟩
    | cons b y =>
      obtain ⟨rfl, -⟩ := List.cons.inj h
      exact absurd List.mem_cons_self hy
  | cons a x ih =>
    cases y with
    | nil =>
      obtain ⟨rfl, -⟩ := List.cons.inj h
      exact absurd List.mem_cons_self hx
    | cons b y =>
      obtain ⟨rfl, hrest⟩ := List.cons.inj h
      obtain ⟨rfl, hs⟩ := ih (fun hc => hx (List.mem_cons_of_mem a hc))
        (fun hc => hy (List.mem_cons_of_mem a hc)) hrest
      exact ⟨rfl, hs⟩

def comma : UInt8 := 44

theorem comma_notMem_ofInt (n : Int) : comma ∉ Decimal.ofInt n := by
  intro h
  rcases Decimal.mem_ofInt h with hminus | hdigit
  · exact absurd hminus (by decide)
  · exact absurd hdigit (by decide)

def ending (record : LicenseRecord) (withSignature : Bool) : Bytes :=
  if withSignature then
    comma :: (Json.quoted signatureMember ++ 58 ::
      (Json.quoted (record.signature.getD "") ++ [125]))
  else [125]

theorem canonical_eq (record : LicenseRecord) (withSignature : Bool) :
    record.canonical withSignature = 123 :: (Json.quoted expirationMember ++ 58 ::
      (Decimal.ofInt record.expiration.toInt ++ comma ::
        (Json.quoted issuedToMember ++ 58 ::
          (Json.quoted record.issuedTo ++ record.ending withSignature)))) := by
  cases withSignature with
  | false =>
    simp only [canonical, ending, Bool.false_eq_true, if_false, List.append_nil,
      Json.Value.compact, Json.Value.compactMembers, comma, List.append_assoc, List.cons_append]
  | true =>
    simp only [canonical, ending, if_true, List.cons_append, List.nil_append,
      Json.Value.compact, Json.Value.compactMembers, comma, List.append_assoc]

/-- A written form is cut at its first comma, and again behind the string that the holder is written
as, so each of its parts is determined.  That is all it takes for the different forms, which differ
in their endings. -/
theorem canonical_inj {a b : LicenseRecord} {v w : Bool} :
    a.canonical v = b.canonical w ↔
      a.expiration = b.expiration ∧ a.issuedTo = b.issuedTo ∧ a.ending v = b.ending w := by
  constructor
  · intro h
    rw [canonical_eq, canonical_eq, List.cons_inj_right, List.append_cancel_left_eq,
      List.cons_inj_right] at h
    obtain ⟨hexpiration, hrest⟩ := append_cons_inj_of_notMem (comma_notMem_ofInt _)
      (comma_notMem_ofInt _) h
    rw [List.append_cancel_left_eq, List.cons_inj_right, Json.quoted_append_inj] at hrest
    exact ⟨Int64.toInt_inj.mp (Decimal.ofInt_injective hexpiration), hrest⟩
  · rintro ⟨hexpiration, hissuedTo, hending⟩
    rw [canonical_eq, canonical_eq, hexpiration, hissuedTo, hending]

/-- What is signed determines the expiration and the holder, and is determined by them.  The
signature is no part of it. -/
theorem signingBytes_inj {a b : LicenseRecord} :
    a.signingBytes = b.signingBytes ↔ a.expiration = b.expiration ∧ a.issuedTo = b.issuedTo := by
  have hending : a.ending false = b.ending false := rfl
  rw [signingBytes, signingBytes, canonical_inj, and_iff_left hending]

/-! ### Equality -/

theorem ending_true_inj {a b : LicenseRecord} :
    a.ending true = b.ending true ↔ a.signature.getD "" = b.signature.getD "" := by
  simp only [ending, if_true, List.cons_inj_right, List.append_cancel_left_eq,
    Json.quoted_append_inj, and_true]

/-- With and without a signature, a written form ends differently.  The braces close at different
places. -/
theorem ending_true_ne_false (a b : LicenseRecord) : a.ending true ≠ b.ending false := by
  intro h
  have hhead : comma = 125 := (List.cons.inj h).1
  revert hhead
  decide

theorem ending_isSigned_inj {a b : LicenseRecord} :
    a.ending a.isSigned = b.ending b.isSigned ↔ a.signature = b.signature := by
  constructor
  · intro h
    obtain ⟨_, _, signature⟩ := a
    obtain ⟨_, _, other⟩ := b
    cases signature with
    | none =>
      cases other with
      | none => rfl
      | some other => exact absurd h.symm (ending_true_ne_false _ _)
    | some signature =>
      cases other with
      | none => exact absurd h (ending_true_ne_false _ _)
      | some other => exact congrArg some (ending_true_inj.mp h)
  · intro h
    rw [ending, ending, isSigned, isSigned, h]

/-- The stored form determines the whole record: a signature that is missing is not written, and an
empty one is. -/
theorem stored_inj {a b : LicenseRecord} :
    a.stored = b.stored ↔
      a.expiration = b.expiration ∧ a.issuedTo = b.issuedTo ∧ a.signature = b.signature := by
  rw [stored, stored, canonical_inj, ending_isSigned_inj]

theorem agrees_iff {a b : LicenseRecord} :
    a.agrees b = true ↔ a.expiration = b.expiration ∧ a.issuedTo = b.issuedTo ∧
      a.signature.getD "" = b.signature.getD "" := by
  simp only [agrees, Bool.and_eq_true, decide_eq_true_eq, and_assoc]

/-- **Records are equal as far as they are written alike**: with a signature written in either
case, they agree; without it, they have the same expiration and holder; and as they are stored,
they are the same, so that a signature that is missing is no empty one. -/
theorem equal_iff_written_alike (a b : LicenseRecord) :
    (a.agrees b = true ↔ a.canonical true = b.canonical true) ∧
    (a.signingBytes = b.signingBytes ↔ a.expiration = b.expiration ∧ a.issuedTo = b.issuedTo) ∧
    (a.stored = b.stored ↔
      a.expiration = b.expiration ∧ a.issuedTo = b.issuedTo ∧ a.signature = b.signature) := by
  refine ⟨?_, signingBytes_inj, stored_inj⟩
  rw [agrees_iff, canonical_inj, ending_true_inj]

end ClusterLicense.LicenseRecord
