/-
  ClusterLicense/Proofs/License/Malformation.lean
  ===============================================
  **Octets are one envelope, or have one flaw.**

  The fields of an envelope are looked at one after the other, so what is wrong
  with octets is told by the first field that is missing or says what no envelope
  says (`Flaw`).  Every octet string is the envelope of something or has a flaw
  (`encoded_or_flaw`), the flaw is the cause that opening it reports
  (`open?_eq_error_iff`), and no envelope begins with another
  (`eq_nil_of_encode_append`).
-/
import ClusterLicense.Proofs.License.Envelope

namespace ClusterLicense.LicenseKey

open Bytes (ofInt32)

/-! ### Flaws -/

/-- What is wrong with octets that are no envelope of the current version. -/
inductive Flaw : Bytes → Malformation → Prop where
  /-- The octets end before the version does. -/
  | noVersion {rest : Bytes} (h : rest.length < 4) : Flaw rest (.truncated 4 0 rest.length)
  | otherVersion {version : Int32} {rest : Bytes} (h : version ≠ currentVersion) :
      Flaw (ofInt32 version ++ rest) (.unsupportedVersion version)
  | noKind {rest : Bytes} (h : rest.length < 4) :
      Flaw (ofInt32 currentVersion ++ rest) (.truncated 4 4 rest.length)
  | otherKind {code : Int32} {rest : Bytes} (h : ∀ kind : LicenseKind, code ≠ kind.code) :
      Flaw (ofInt32 currentVersion ++ (ofInt32 code ++ rest)) (.unknownKind code)
  | noLength {kind : LicenseKind} {rest : Bytes} (h : rest.length < 4) :
      Flaw (ofInt32 currentVersion ++ (ofInt32 kind.code ++ rest)) (.truncated 4 8 rest.length)
  | negative {kind : LicenseKind} {length : Int32} {content : Bytes} (h : length < 0) :
      Flaw (ofInt32 currentVersion ++ (ofInt32 kind.code ++ (ofInt32 length ++ content)))
        (.negativeLength length)
  /-- The length is too large for what follows. -/
  | cutOff {kind : LicenseKind} {length : Int32} {content : Bytes} (hpos : ¬ length < 0)
      (h : content.length < length.toInt.toNat) :
      Flaw (ofInt32 currentVersion ++ (ofInt32 kind.code ++ (ofInt32 length ++ content)))
        (.truncated length.toInt.toNat 12 content.length)
  /-- The length is too small for what follows. -/
  | trailing {kind : LicenseKind} {length : Int32} {content : Bytes} (hpos : ¬ length < 0)
      (h : length.toInt.toNat < content.length) :
      Flaw (ofInt32 currentVersion ++ (ofInt32 kind.code ++ (ofInt32 length ++ content)))
        (.trailing (content.length - length.toInt.toNat))

theorem field_cases (bytes : Bytes) :
    bytes.length < 4 ∨ ∃ n rest, bytes = ofInt32 n ++ rest := by
  match bytes with
  | a :: b :: c :: d :: rest =>
    refine .inr ⟨Bytes.int32 a b c d, rest, ?_⟩
    rw [Bytes.ofInt32_int32]
    rfl
  | [] => exact .inl (by decide)
  | [_] => exact .inl (by simp)
  | [_, _] => exact .inl (by simp)
  | [_, _, _] => exact .inl (by simp)

/-- Octets are the envelope of something or have a flaw.  Field by field, each is there and right,
or the first that is not is the flaw. -/
theorem encoded_or_flaw (envelope : Bytes) :
    (∃ kind content, encode kind currentVersion content = .ok ⟨envelope⟩) ∨
      ∃ cause, Flaw envelope cause := by
  rcases field_cases envelope with hshort | ⟨version, afterVersion, rfl⟩
  · exact .inr ⟨_, .noVersion hshort⟩
  by_cases hversion : version = currentVersion
  · subst hversion
    rcases field_cases afterVersion with hshort | ⟨code, afterKind, rfl⟩
    · exact .inr ⟨_, .noKind hshort⟩
    by_cases hkind : ∃ kind : LicenseKind, code = kind.code
    · obtain ⟨kind, rfl⟩ := hkind
      rcases field_cases afterKind with hshort | ⟨length, content, rfl⟩
      · exact .inr ⟨_, .noLength hshort⟩
      by_cases hneg : length < 0
      · exact .inr ⟨_, .negative hneg⟩
      rcases Nat.lt_trichotomy content.length length.toInt.toNat with hless | hexact | hmore
      · exact .inr ⟨_, .cutOff hneg hless⟩
      · obtain ⟨hlength, hle⟩ := eq_ofNat_of_toInt hneg hexact.symm
        rw [hlength]
        exact .inl ⟨kind, content, encode_eq_ok_iff.mpr ⟨hle, rfl⟩⟩
      · exact .inr ⟨_, .trailing hneg hmore⟩
    · exact .inr ⟨_, .otherKind fun kind hcode => hkind ⟨kind, hcode⟩⟩
  · exact .inr ⟨_, .otherVersion hversion⟩

/-! ### Opening -/

theorem field_append (size : Nat) (n : Int32) (rest : Bytes) :
    field size (ofInt32 n ++ rest) = .ok (n, rest) :=
  field_eq_ok_iff.mpr rfl

theorem field_short {size : Nat} {rest : Bytes} (h : rest.length < 4) :
    field size rest = .error (.truncated 4 (size - rest.length) rest.length) := by
  unfold field
  split
  · simp only [List.length_cons] at h
    omega
  · rfl

theorem ofCode?_eq_none {code : Int32} (h : ∀ kind : LicenseKind, code ≠ kind.code) :
    LicenseKind.ofCode? code = none := by
  rw [Option.eq_none_iff_forall_ne_some]
  intro kind hkind
  exact h kind (LicenseKind.ofCode?_eq_some_iff.mp hkind)

/-- After a version and a kind that are right, the length decides: it may be below zero, or count
more octets than there are, or fewer. -/
theorem open?_header (kind : LicenseKind) (length : Int32) (content : Bytes) :
    open? (ofInt32 currentVersion ++ (ofInt32 kind.code ++ (ofInt32 length ++ content))) =
      if length < 0 then .error (.negativeLength length)
      else if content.length < length.toInt.toNat then
        .error (.truncated length.toInt.toNat 12 content.length)
      else if length.toInt.toNat < content.length then
        .error (.trailing (content.length - length.toInt.toNat))
      else .ok ⟨kind, currentVersion, content⟩ := by
  have hoffset : (ofInt32 currentVersion ++ (ofInt32 kind.code ++
      (ofInt32 length ++ content))).length - content.length = 12 := by
    simp only [List.length_append, Bytes.length_ofInt32]
    omega
  simp only [open?, field_append, ok_bind, throw_bind, if_true, LicenseKind.ofCode?_code, hoffset]
  rfl

theorem open?_of_flaw {envelope : Bytes} {cause : Malformation} (h : Flaw envelope cause) :
    open? envelope = .error cause := by
  cases h with
  | noVersion h => simp only [open?, field_short h, error_bind, Nat.sub_self]
  | otherVersion h => simp only [open?, field_append, ok_bind, if_neg h, throw_bind]
  | noKind h =>
    simp only [open?, field_append, field_short h, ok_bind, error_bind, if_true, List.length_append,
      Bytes.length_ofInt32, Nat.add_sub_cancel]
  | otherKind h =>
    simp only [open?, field_append, ok_bind, if_true, ofCode?_eq_none h]
    rfl
  | @noLength kind rest h =>
    have hoffset : (ofInt32 currentVersion ++ (ofInt32 kind.code ++ rest)).length - rest.length =
        8 := by
      simp only [List.length_append, Bytes.length_ofInt32]
      omega
    simp only [open?, field_append, field_short h, ok_bind, error_bind, if_true,
      LicenseKind.ofCode?_code, hoffset]
  | negative h => rw [open?_header, if_pos h]
  | cutOff hpos h => rw [open?_header, if_neg hpos, if_pos h]
  | trailing hpos h => rw [open?_header, if_neg hpos, if_neg (Nat.lt_asymm h), if_pos h]

/-- Octets that are no envelope have one flaw, and it is the cause that is reported.  The flaws
exclude each other, as the fields are looked at in their order. -/
theorem open?_eq_error_iff {envelope : Bytes} {cause : Malformation} :
    open? envelope = .error cause ↔ Flaw envelope cause := by
  constructor
  · intro h
    rcases encoded_or_flaw envelope with ⟨kind, content, hencode⟩ | ⟨found, hflaw⟩
    · rw [open?_eq_ok_iff.mpr ⟨rfl, hencode⟩] at h
      cases h
    · rw [open?_of_flaw hflaw] at h
      cases h
      exact hflaw
  · exact open?_of_flaw

/-! ### Cutting and extending -/

theorem ofInt32_append_inj {m n : Int32} {s t : Bytes} (h : ofInt32 m ++ s = ofInt32 n ++ t) :
    m = n ∧ s = t := by
  have hsame := field_append 0 m s
  rw [h, field_append] at hsame
  cases hsame
  exact ⟨rfl, rfl⟩

theorem fields_inj {version code length version' code' length' : Int32} {s t : Bytes}
    (h : ofInt32 version ++ (ofInt32 code ++ (ofInt32 length ++ s)) =
      ofInt32 version' ++ (ofInt32 code' ++ (ofInt32 length' ++ t))) :
    code = code' ∧ length = length' ∧ s = t := by
  obtain ⟨-, hcode⟩ := ofInt32_append_inj h
  obtain ⟨hsame, hlength⟩ := ofInt32_append_inj hcode
  exact ⟨hsame, ofInt32_append_inj hlength⟩

/-- An envelope with octets behind it is refused because of them, and the error says how many they
are. -/
theorem open?_encode_append {kind : LicenseKind} {content envelope extra : Bytes}
    (hencode : encode kind currentVersion content = .ok ⟨envelope⟩) (h : extra ≠ []) :
    open? (envelope ++ extra) = .error (.trailing extra.length) := by
  obtain ⟨hle, rfl⟩ := encode_eq_ok_iff.mp hencode
  obtain ⟨hpos, hlength⟩ := toInt_ofNat_of_le hle
  have hmore : (Int32.ofNat content.length).toInt.toNat < (content ++ extra).length := by
    rw [hlength, List.length_append]
    exact Nat.lt_add_of_pos_right (List.length_pos_iff.mpr h)
  simp only [List.append_assoc]
  rw [open?_of_flaw (.trailing hpos hmore), hlength, List.length_append, Nat.add_sub_cancel_left]

/-- No envelope begins with another. -/
theorem eq_nil_of_encode_append {kind other : LicenseKind} {content found shorter extra : Bytes}
    (hshorter : encode kind currentVersion content = .ok ⟨shorter⟩)
    (hlonger : encode other currentVersion found = .ok ⟨shorter ++ extra⟩) : extra = [] := by
  by_contra hextra
  have hopen := open?_eq_ok_iff.mpr ⟨rfl, hlonger⟩
  rw [open?_encode_append hshorter hextra] at hopen
  cases hopen

/-- An envelope that is cut anywhere is refused because a field is cut off.  The cut is in one of
the three numbers or in the content, and what comes before it is right, so it is the first thing
that is wrong. -/
theorem open?_cut {kind : LicenseKind} {content front missing : Bytes}
    (hencode : encode kind currentVersion content = .ok ⟨front ++ missing⟩) (h : missing ≠ []) :
    ∃ need offset left, open? front = .error (.truncated need offset left) := by
  obtain ⟨hle, henvelope⟩ := encode_eq_ok_iff.mp hencode
  obtain ⟨hnonneg, hlength⟩ := toInt_ofNat_of_le hle
  rcases encoded_or_flaw front with ⟨other, found, hfront⟩ | ⟨cause, hflaw⟩
  · exact absurd (eq_nil_of_encode_append hfront hencode) h
  · have hreported := open?_of_flaw hflaw
    -- What is there of the envelope is as it was, so only an end that is missing can be a flaw.
    cases hflaw with
    | noVersion => exact ⟨_, _, _, hreported⟩
    | noKind => exact ⟨_, _, _, hreported⟩
    | noLength => exact ⟨_, _, _, hreported⟩
    | cutOff => exact ⟨_, _, _, hreported⟩
    | otherVersion hother =>
      simp only [List.append_assoc] at henvelope
      exact absurd (ofInt32_append_inj henvelope).1 hother
    | otherKind hother =>
      simp only [List.append_assoc] at henvelope
      obtain ⟨-, hkind⟩ := ofInt32_append_inj henvelope
      exact absurd (ofInt32_append_inj hkind).1 (hother kind)
    | negative hneg =>
      simp only [List.append_assoc] at henvelope
      obtain ⟨-, rfl, -⟩ := fields_inj henvelope
      exact absurd hneg hnonneg
    | trailing hpos hmore =>
      simp only [List.append_assoc] at henvelope
      obtain ⟨-, rfl, rfl⟩ := fields_inj henvelope
      rw [hlength, List.length_append] at hmore
      omega

end ClusterLicense.LicenseKey
