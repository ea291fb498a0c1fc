/-
  ClusterLicense/Proofs/License/Formatting.lean
  =============================================
  **How a payload is formatted does not matter.**

  A verifier looks at the record that a payload is read as, and at no octet of the
  payload itself: the signature covers a form that is written anew.  So payloads that
  tell the same record stand for each other in any envelope.
-/
import ClusterLicense.Proofs.License.Creation
import ClusterLicense.Proofs.License.Storage

namespace ClusterLicense

variable {kind : LicenseKind} {version : Int32}

/-- What was put into an envelope is found in it, if the envelope is of the current version.  An
envelope of another version is refused, whatever it holds. -/
theorem LicenseKey.decode_of_encode {key : LicenseKey} {content : Bytes}
    (h : LicenseKey.encode kind version content = .ok key) :
    key.decode = if version = LicenseKey.currentVersion then .ok ⟨kind, version, content⟩
      else .error (.malformedKey (.unsupportedVersion version)) := by
  split_ifs with hversion
  · exact LicenseKey.decode_eq_ok_iff.mpr ⟨hversion, h⟩
  · obtain ⟨-, henvelope⟩ := LicenseKey.encode_eq_ok_iff.mp h
    have hfield : LicenseKey.field key.envelope.length key.envelope = .ok (version, _) :=
      LicenseKey.field_eq_ok_iff.mpr henvelope
    have hopen : LicenseKey.open? key.envelope = .error (.unsupportedVersion version) := by
      rw [LicenseKey.open?]
      simp only [hfield, ok_bind, if_neg hversion]
      rfl
    rw [LicenseKey.decode, hopen]

/-- The answer depends on a payload only through the record that it is read as.  The check looks at
the octets of a payload in one place, where it parses them. -/
theorem Verifier.check_congr_payload {verifier : Verifier} {record : LicenseRecord}
    {p q : Bytes} {a b : LicenseKey} (hp : LicenseRecord.parse p = .ok record)
    (hq : LicenseRecord.parse q = .ok record)
    (ha : LicenseKey.encode kind version (verifier.symmetricKey.encrypt p) = .ok a)
    (hb : LicenseKey.encode kind version (verifier.symmetricKey.encrypt q) = .ok b)
    (now : Int64) : verifier.check a now = verifier.check b now := by
  rw [check, check, LicenseKey.decode_of_encode ha, LicenseKey.decode_of_encode hb]
  split_ifs
  · rw [ok_bind, ok_bind, decrypt_encrypt hp, decrypt_encrypt hq]
  · rfl

namespace LicenseRecord

open Json (IsMember IsValue Items Quotes Spells blanks_nil)

/-! ### The same in another form -/

/-- A signed record whose holder is one character that can be escaped. -/
def reformattedRecord : LicenseRecord := ⟨5, "é", some "A"⟩

/-- The record in another order, with blanks, an escape and a member that nobody asked for, whose
value has half of a pair of surrogates in it. -/
def reformatted : Bytes :=
  Utf8.encode (" \x7b\"signature\":\"A\",\"x\":[null,\"\\uD800\"] ," ++
    "\"issuedTo\"\t:\"\\u00e9\",\"expirationDateInMs\": 5\x7d\n")

/-- The members of the payload tell the record: each field once, an escape for a character of the
holder, and the unknown member is a value although it spells no text. -/
theorem tells_reformatted : Tells reformatted reformattedRecord := by
  have hnull : IsValue [110, 117, 108, 108] := .word (by decide)
  have hsurrogate : IsValue [34, 92, 117, 68, 56, 48, 48, 34] :=
    .literal ⟨_, .number ⟨68, 56, 48, 48, rfl, rfl⟩ .nil, rfl⟩
  have hother : IsValue [91, 110, 117, 108, 108, 44, 34, 92, 117, 68, 56, 48, 48, 34, 93] :=
    .bracket .array (.item .first .element blanks_nil hnull
      (.item (.later blanks_nil) .element blanks_nil hsurrogate (.close blanks_nil)))
  have hholder : Quotes "é" [34, 92, 117, 48, 48, 101, 57, 34] := by
    have hchar : Spells ['é'] ([92, 117, 48, 48, 101, 57] ++ []) :=
      .cons (.escaped (.number ⟨48, 48, 101, 57, rfl, rfl⟩)) .nil
    exact ⟨_, hchar, rfl⟩
  have hspace : Json.Blanks [32] := Json.blanks_singleton rfl
  have htab : Json.Blanks [9] := Json.blanks_singleton rfl
  have hline : Json.Blanks [10] := Json.blanks_singleton rfl
  have hname (name : String) := Json.quotes_quoted name
  have hfirst := IsMember.intro blanks_nil (hname signatureMember) blanks_nil blanks_nil
    (Json.Value.isValue_compact (.string "A"))
  have hsecond := IsMember.intro blanks_nil (hname "x") blanks_nil blanks_nil hother
  have hthird := IsMember.intro blanks_nil (hname issuedToMember) htab blanks_nil
    (.literal hholder.isLiteral)
  have hfourth := IsMember.intro blanks_nil (hname expirationMember) blanks_nil hspace
    (Json.Value.isValue_compact (.integer 5))
  have hitems : Items IsMember 125 true _ _ :=
    .item .first hfirst (.item (.later blanks_nil) hsecond (.item (.later hspace) hthird
      (.item (.later blanks_nil) hfourth (.close blanks_nil))))
  refine ⟨[32], _, [10], _, hspace, hline, ⟨_, hitems, rfl⟩, ?_, by decide +kernel⟩
  exact ⟨rfl, ⟨_, hholder, rfl⟩, .written (.value (hname "A"))⟩

/-! ### Any form -/

/-- **How a payload is formatted does not matter.**  Every object that tells what the record says,
in whatever order and spelling and among whatever other members, is read as the record; so two such
payloads in envelopes of one kind and version get the same answer at every instant. -/
theorem payload_formatting_irrelevant (verifier : Verifier) (record : LicenseRecord) :
    (∀ payload, Tells payload record → parse payload = .ok record) ∧
    ∀ kind version p q a b, Tells p record → Tells q record →
      LicenseKey.encode kind version (verifier.symmetricKey.encrypt p) = .ok a →
      LicenseKey.encode kind version (verifier.symmetricKey.encrypt q) = .ok b →
      ∀ now, verifier.check a now = verifier.check b now := by
  constructor
  · intro payload htells
    exact parse_of_tells htells
  · intro kind version p q a b hp hq ha hb now
    exact Verifier.check_congr_payload (parse_of_tells hp) (parse_of_tells hq) ha hb now

/-- The stored form and another one are read alike, and neither has a good signature. -/
theorem payload_formatting_irrelevant_reformatted :
    Tells reformatted reformattedRecord ∧ Tells reformattedRecord.stored reformattedRecord ∧
    reformatted ≠ reformattedRecord.stored ∧ parse reformatted = .ok reformattedRecord ∧
    ∃ a b, LicenseKey.encode .enterprise LicenseKey.currentVersion
        (SymmetricKey.shipped.encrypt reformatted) = .ok a ∧
      LicenseKey.encode .enterprise LicenseKey.currentVersion
        (SymmetricKey.shipped.encrypt reformattedRecord.stored) = .ok b ∧
      Verifier.check ⟨.shipped, ⟨15, 3⟩⟩ a 3 = Verifier.check ⟨.shipped, ⟨15, 3⟩⟩ b 3 := by
  obtain ⟨hparse, hcheck⟩ := payload_formatting_irrelevant ⟨.shipped, ⟨15, 3⟩⟩ reformattedRecord
  have hstored := tells_stored reformattedRecord
  have hfits : LicenseKey.Fits reformatted ∧ LicenseKey.Fits reformattedRecord.stored := by
    decide +kernel
  have ha : LicenseKey.encode .enterprise _ _ = .ok _ := LicenseKey.encode_encrypt .shipped hfits.1
  have hb : LicenseKey.encode .enterprise _ _ = .ok _ := LicenseKey.encode_encrypt .shipped hfits.2
  exact ⟨tells_reformatted, hstored, by decide +kernel, hparse _ tells_reformatted, _, _, ha, hb,
    hcheck _ _ _ _ _ _ tells_reformatted hstored ha hb 3⟩

end LicenseRecord

end ClusterLicense
