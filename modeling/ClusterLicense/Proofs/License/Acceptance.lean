/-
  ClusterLicense/Proofs/License/Acceptance.lean
  =============================================
  **A verdict is the conjunction of what the format asks for.**

  `Attests` says what the format asks of the text of a license, without reading
  it: the text is the one that encryption, envelope and base64 make of a payload.
  Since each layer accepts only what it writes, `check` succeeds for exactly these
  texts, and it depends on no more than they do: on the time by one comparison,
  and on the authority only for the authority's own licenses.
-/
import ClusterLicense.License.Verifier
import ClusterLicense.Proofs.Cipher.SymmetricKey
import ClusterLicense.Proofs.License.Envelope

namespace ClusterLicense

/-- What the format asks of a text that attests a record at an instant. -/
structure Verifier.Attests (verifier : Verifier) (text : String) (now : Int64)
    (record : LicenseRecord) (kind : LicenseKind) (payload : Bytes) : Prop where
  /-- Between blanks, the text is the one that the payload is handed on as. -/
  written : ∃ key, LicenseKey.encode kind LicenseKey.currentVersion
    (verifier.symmetricKey.encrypt payload) = .ok key ∧ Text.trim text = key.text
  parsed : LicenseRecord.parse payload = .ok record
  unexpired : now ≤ record.expiration
  signed : kind = .enterprise → ∃ signature, record.signature = some (Base64.text signature) ∧
    verifier.authority.verify (Sha2.sha256 (record.canonical false)) signature = true

namespace Verifier

variable {verifier : Verifier} {key : LicenseKey} {now : Int64} {record : LicenseRecord}

/-! ### The stages of a check -/

theorem decrypt_eq_ok_iff {decoded : DecodedLicense} :
    verifier.decrypt decoded = .ok record ↔
      ∃ payload, decoded.content = verifier.symmetricKey.encrypt payload ∧
        LicenseRecord.parse payload = .ok record := by
  simp only [← SymmetricKey.decrypt_eq_ok_iff, decrypt]
  cases verifier.symmetricKey.decrypt decoded.content with
  | ok payload => simp
  | error cause => simp

/-- The signature of a record verifies exactly if its text is the base64 text of octets that the
authority's key verifies.  A text that is no base64 counts as no signature. -/
theorem verifySignature_eq_true_iff :
    verifier.verifySignature record = true ↔
      ∃ signature, record.signature = some (Base64.text signature) ∧
        verifier.authority.verify (signedDigest record) signature = true := by
  unfold verifySignature
  cases record.signature with
  | none => simp
  | some text =>
    simp only [Option.some.injEq, ← Base64.decode_utf8_eq_ok_iff]
    cases Base64.decode (Utf8.encode text) with
    | ok signature => simp
    | error cause => simp

theorem licenseData_eq_ok_iff :
    verifier.licenseData key = .ok record ↔
      ∃ decoded, key.decode = .ok decoded ∧ verifier.decrypt decoded = .ok record := by
  rw [licenseData, bind_eq_ok_iff]

/-- Once there is a record, only two things can be held against it, its expiration first.
Everything about the verdict is read from this equation, acceptance as well as refusal. -/
theorem check_of_decrypt {decoded : DecodedLicense} (hdecode : key.decode = .ok decoded)
    (hdecrypt : verifier.decrypt decoded = .ok record) :
    verifier.check key now =
      if record.expiration < now then .error (.expired record.expiration)
      else if decoded.kind = .enterprise ∧ verifier.verifySignature record = false then
        .error .signatureMismatch
      else .ok record := by
  simp only [check, hdecode, hdecrypt, ok_bind, throw_bind, LicenseRecord.isExpired,
    decide_eq_true_eq]
  by_cases hexpired : record.expiration < now
  · simp only [if_pos hexpired]
  · simp only [if_neg hexpired]
    cases hkind : decoded.kind with
    | selfGenerated => simp only [reduceCtorEq, false_and, if_false]; rfl
    | enterprise =>
      cases verifier.verifySignature record with
      | true => simp only [Bool.true_eq_false, and_false, if_true, if_false]; rfl
      | false => simp only [and_self, if_true, Bool.false_eq_true, if_false]; rfl

/-- A license is valid exactly if it decodes, its content decrypts to a record, the expiration has
not passed, and for a license of the authority the signature is good.  The order of the checks does
not matter here, only for what an error says. -/
theorem check_eq_ok_iff :
    verifier.check key now = .ok record ↔
      ∃ decoded, key.decode = .ok decoded ∧ verifier.decrypt decoded = .ok record ∧
        now ≤ record.expiration ∧
        (decoded.kind = .enterprise → verifier.verifySignature record = true) := by
  constructor
  · intro hcheck
    have hread := hcheck
    simp only [check, bind_eq_ok_iff] at hread
    obtain ⟨decoded, hdecode, found, hdecrypt, -⟩ := hread
    rw [check_of_decrypt hdecode hdecrypt, refuse_if_eq_ok_iff, refuse_if_eq_ok_iff,
      Int64.not_lt] at hcheck
    obtain ⟨hnow, hsigned, hfound⟩ := hcheck
    obtain rfl := Except.ok.inj hfound
    refine ⟨decoded, hdecode, hdecrypt, hnow, ?_⟩
    intro hkind
    rw [← Bool.not_eq_false]
    exact fun hmismatch => hsigned ⟨hkind, hmismatch⟩
  · rintro ⟨decoded, hdecode, hdecrypt, hnow, hsigned⟩
    rw [check_of_decrypt hdecode hdecrypt, if_neg (Int64.not_lt.mpr hnow), if_neg]
    rintro ⟨hkind, hmismatch⟩
    rw [hsigned hkind] at hmismatch
    cases hmismatch

/-! ### What a verdict depends on -/

/-- From text to verdict, the steps of a check are those of the format, so what is accepted is what
the format asks for. -/
theorem attests_iff {text : String} :
    (LicenseKey.ofText text >>= fun key => verifier.check key now) = .ok record ↔
      ∃ kind payload, verifier.Attests text now record kind payload := by
  simp only [bind_eq_ok_iff, LicenseKey.ofText_eq_ok_iff, check_eq_ok_iff]
  constructor
  · rintro ⟨key, htext, ⟨kind, version, content⟩, hdecode, hdecrypt, hnow, hsigned⟩
    obtain ⟨rfl, hencode⟩ := LicenseKey.decode_eq_ok_iff.mp hdecode
    obtain ⟨payload, rfl, hparse⟩ := decrypt_eq_ok_iff.mp hdecrypt
    exact ⟨kind, payload, ⟨key, hencode, htext⟩, hparse, hnow,
      fun hkind => verifySignature_eq_true_iff.mp (hsigned hkind)⟩
  · rintro ⟨kind, payload, ⟨key, hencode, htext⟩, hparse, hnow, hsigned⟩
    exact ⟨key, htext, _, LicenseKey.decode_eq_ok_iff.mpr ⟨rfl, hencode⟩,
      decrypt_eq_ok_iff.mpr ⟨payload, rfl, hparse⟩, hnow,
      fun hkind => verifySignature_eq_true_iff.mpr (hsigned hkind)⟩

/-- The authority is asked about its own licenses only.  Any two verifiers with the symmetric key
agree on the licenses that clusters issue to themselves. -/
theorem check_congr_authority {decoded : DecodedLicense} (hdecode : key.decode = .ok decoded)
    (hkind : decoded.kind = .selfGenerated) (symmetricKey : SymmetricKey)
    (authority other : Rsa.PublicKey) (now : Int64) :
    (Verifier.mk symmetricKey authority).check key now =
      (Verifier.mk symmetricKey other).check key now := by
  obtain ⟨kind, version, content⟩ := decoded
  subst hkind
  simp only [check, hdecode]
  rfl

/-- A key is valid never, or until its record expires.  Everything else that is checked has the same
outcome at all times. -/
theorem accepts_never_or_until (verifier : Verifier) (key : LicenseKey) :
    (∀ now, verifier.accepts key now = false) ∨
      ∃ record, verifier.licenseData key = .ok record ∧
        ∀ now, verifier.accepts key now = true ↔ now ≤ record.expiration := by
  by_cases h : ∃ now record, verifier.check key now = .ok record
  · obtain ⟨now, record, hcheck⟩ := h
    obtain ⟨decoded, hdecode, hdecrypt, -, hsigned⟩ := check_eq_ok_iff.mp hcheck
    refine .inr ⟨record, licenseData_eq_ok_iff.mpr ⟨decoded, hdecode, hdecrypt⟩, ?_⟩
    intro later
    constructor
    · intro haccepts
      cases hlater : verifier.check key later with
      | error cause => simp [accepts, hlater, Except.isOk, Except.toBool] at haccepts
      | ok found =>
        obtain ⟨again, hagain, hfound, hle, -⟩ := check_eq_ok_iff.mp hlater
        obtain rfl := Except.ok.inj (hdecode.symm.trans hagain)
        obtain rfl := Except.ok.inj (hdecrypt.symm.trans hfound)
        exact hle
    · intro hle
      rw [accepts, check_eq_ok_iff.mpr ⟨decoded, hdecode, hdecrypt, hle, hsigned⟩]
      rfl
  · refine .inl fun now => ?_
    cases hcheck : verifier.check key now with
    | error cause => simp [accepts, hcheck, Except.isOk, Except.toBool]
    | ok record => exact absurd ⟨now, record, hcheck⟩ h

/-- **Exactly the licenses of the format are accepted**: a text is answered with a record if
and only if it attests it; the authority does not matter for the licenses that clusters issue to
themselves; and the instants at which a key is valid are none, or all up to its expiration. -/
theorem accepts_exactly_format (symmetricKey : SymmetricKey) (authority : Rsa.PublicKey)
    (text : String) (now : Int64) (record : LicenseRecord) :
    ((LicenseKey.ofText text >>= fun key => (Verifier.mk symmetricKey authority).check key now) =
        .ok record ↔
      ∃ kind payload, (Verifier.mk symmetricKey authority).Attests text now record kind payload) ∧
    (∀ key decoded, key.decode = .ok decoded → decoded.kind = .selfGenerated →
      ∀ other : Rsa.PublicKey, (Verifier.mk symmetricKey authority).check key now =
        (Verifier.mk symmetricKey other).check key now) ∧
    (∀ key, (∀ t, (Verifier.mk symmetricKey authority).accepts key t = false) ∨
      ∃ r, (Verifier.mk symmetricKey authority).licenseData key = .ok r ∧
        ∀ t, (Verifier.mk symmetricKey authority).accepts key t = true ↔ t ≤ r.expiration) := by
  refine ⟨attests_iff, ?_, fun key => accepts_never_or_until _ key⟩
  intro key decoded hdecode hkind other
  exact check_congr_authority hdecode hkind symmetricKey authority other now

end Verifier

end ClusterLicense
