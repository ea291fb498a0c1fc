/-
  ClusterLicense/Proofs/License/Envelope.lean
  ===========================================
  **An envelope is read if and only if it was written.**

  A field that is read is the four octets of its number, and the length field
  leaves no room: the content is all that follows it.  So an envelope that opens
  is the one that `encode` makes of what it holds (`decode_eq_ok_iff`), and the
  text of a key is the base64 text of its envelope with blanks around it
  (`ofText_eq_ok_iff`).
-/
import ClusterLicense.License.Key
import ClusterLicense.Proofs.Bytes.Base64
import ClusterLicense.Proofs.Bytes.BigEndian
import ClusterLicense.Proofs.Outcome
import ClusterLicense.Proofs.Text.Blank

namespace ClusterLicense

theorem LicenseKind.ofCode?_eq_some_iff {code : Int32} {kind : LicenseKind} :
    ofCode? code = some kind ↔ code = kind.code := by
  constructor
  · intro h
    unfold ofCode? at h
    split at h
    · cases h; assumption
    · split at h
      · cases h; assumption
      · cases h
  · rintro rfl
    exact ofCode?_code kind

namespace LicenseKey

/-! ### Fields -/

theorem field_eq_ok_iff {size : Nat} {bytes rest : Bytes} {n : Int32} :
    field size bytes = .ok (n, rest) ↔ bytes = Bytes.ofInt32 n ++ rest := by
  constructor
  · intro h
    unfold field at h
    split at h
    · simp only [Except.ok.injEq, Prod.mk.injEq] at h
      obtain ⟨rfl, rfl⟩ := h
      rw [Bytes.ofInt32_int32]
      rfl
    · cases h
  · rintro rfl
    obtain ⟨a, b, c, d, hfield, hn⟩ := Bytes.int32_ofInt32 n
    simp [hfield, field, hn]

/-- A length field that is not negative and counts `size` octets is the one that is written
for them. -/
theorem eq_ofNat_of_toInt {n : Int32} {size : Nat} (hpos : ¬ n < 0) (h : n.toInt.toNat = size) :
    n = Int32.ofNat size ∧ size ≤ largestLength := by
  have hle : 0 ≤ n.toInt := by
    rw [Int32.not_lt, Int32.le_iff_toInt_le] at hpos
    exact hpos
  have hlt := n.toInt_lt
  refine ⟨?_, by unfold largestLength; omega⟩
  rw [← Int32.toInt_inj, Int32.toInt_ofNat_of_lt (by omega)]
  omega

theorem toInt_ofNat_of_le {size : Nat} (h : size ≤ largestLength) :
    ¬ Int32.ofNat size < 0 ∧ (Int32.ofNat size).toInt.toNat = size := by
  have hsize : (Int32.ofNat size).toInt = size :=
    Int32.toInt_ofNat_of_lt (by unfold largestLength at h; omega)
  refine ⟨?_, by rw [hsize, Int.toNat_natCast]⟩
  rw [Int32.not_lt, Int32.le_iff_toInt_le, hsize]
  exact Int.natCast_nonneg size

/-! ### Envelopes -/

/-- Content is put into an envelope exactly if its length can be written as a number of 31
bits; the octets are version, kind, length and content, one after the other. -/
theorem encode_eq_ok_iff {kind : LicenseKind} {version : Int32} {content : Bytes}
    {key : LicenseKey} :
    encode kind version content = .ok key ↔
      content.length ≤ largestLength ∧
        key.envelope = Bytes.ofInt32 version ++ (Bytes.ofInt32 kind.code ++
          (Bytes.ofInt32 (Int32.ofNat content.length) ++ content)) := by
  obtain ⟨envelope⟩ := key
  rw [encode, refuse_unless_eq_ok_iff, Except.ok.injEq, LicenseKey.mk.injEq, List.append_assoc,
    List.append_assoc, eq_comm (a := envelope)]

def wrap (kind : LicenseKind) (content : Bytes) : LicenseKey :=
  ⟨Bytes.ofInt32 currentVersion ++ (Bytes.ofInt32 kind.code ++
    (Bytes.ofInt32 (Int32.ofNat content.length) ++ content))⟩

theorem encode_eq_wrap (kind : LicenseKind) {content : Bytes}
    (h : content.length ≤ largestLength) :
    encode kind currentVersion content = .ok (wrap kind content) :=
  encode_eq_ok_iff.mpr ⟨h, rfl⟩

/-- Opening an envelope finds what it was encoded from, in the current version.  Nothing may follow
the content, and so the length field has to say how much there is. -/
theorem open?_eq_ok_iff {envelope : Bytes} {kind : LicenseKind} {version : Int32}
    {content : Bytes} :
    open? envelope = .ok ⟨kind, version, content⟩ ↔
      version = currentVersion ∧ encode kind version content = .ok ⟨envelope⟩ := by
  rw [encode_eq_ok_iff]
  unfold open?
  simp only [bind_eq_ok_iff, Prod.exists, field_eq_ok_iff, throw_bind, refuse_unless_eq_ok_iff]
  constructor
  · rintro ⟨found, _, rfl, rfl, code, rest, rfl, h⟩
    cases hkind : LicenseKind.ofCode? code with
    | none => simp only [hkind, throw_eq_ok_iff] at h
    | some found =>
      simp only [hkind, bind_eq_ok_iff, Prod.exists, field_eq_ok_iff, refuse_if_eq_ok_iff,
        pure_eq_ok_iff] at h
      obtain ⟨length, found, rfl, hpos, henough, hexact, h⟩ := h
      cases h
      obtain ⟨hlength, hle⟩ := eq_ofNat_of_toInt hpos (show _ = content.length by omega)
      rw [hlength, LicenseKind.ofCode?_eq_some_iff.mp hkind]
      exact ⟨rfl, hle, rfl⟩
  · rintro ⟨rfl, hle, rfl⟩
    obtain ⟨hpos, hlength⟩ := toInt_ofNat_of_le hle
    refine ⟨_, _, rfl, rfl, _, _, rfl, ?_⟩
    simp only [LicenseKind.ofCode?_code, bind_eq_ok_iff, Prod.exists, field_eq_ok_iff,
      refuse_if_eq_ok_iff, pure_eq_ok_iff]
    exact ⟨_, _, rfl, hpos, by omega, by omega, rfl⟩

/-- **One key for what it holds**: a key decodes to what it was encoded from, and to nothing else.
The envelope has no octet that reading passes over. -/
theorem decode_eq_ok_iff {key : LicenseKey} {kind : LicenseKind} {version : Int32}
    {content : Bytes} :
    key.decode = .ok ⟨kind, version, content⟩ ↔
      version = currentVersion ∧ encode kind version content = .ok key := by
  rw [← open?_eq_ok_iff, decode]
  cases open? key.envelope with
  | ok decoded => simp
  | error cause => simp

/-! ### Texts -/

theorem ofText_eq_ok_iff {text : String} {key : LicenseKey} :
    ofText text = .ok key ↔ Text.trim text = key.text := by
  obtain ⟨envelope⟩ := key
  rw [ofText, LicenseKey.text, ← Base64.decode_utf8_eq_ok_iff]
  cases Base64.decode (Utf8.encode (Text.trim text)) with
  | ok found => simp
  | error cause => simp

theorem text_not_blank (key : LicenseKey) : ∀ c ∈ key.text.toList, Text.isBlank c = false := by
  intro c hc
  have hsymbols : ∀ v < 64, Text.isBlank (Char.ofUInt8 (Base64.symbol v)) = false := by
    decide +kernel
  rw [text, Base64.text, String.toList_ofList] at hc
  obtain ⟨b, hb, rfl⟩ := List.mem_map.mp hc
  rcases Base64.mem_encode hb with ⟨v, hv, rfl⟩ | rfl
  · exact hsymbols v hv
  · decide

/-- A key is read back from its text. -/
theorem ofText_text (key : LicenseKey) : ofText key.text = .ok key :=
  ofText_eq_ok_iff.mpr (Text.trim_of_not_blank (text_not_blank key))

theorem ofText_eq_ok_iff_surrounds {text : String} {key : LicenseKey} :
    ofText text = .ok key ↔ ∃ front back, Text.Surrounds front back key.text text := by
  rw [ofText_eq_ok_iff]
  constructor
  · intro h
    rw [← h]
    exact Text.eq_surrounded text
  · rintro ⟨front, back, hsurrounds⟩
    exact Text.trim_surrounded hsurrounds (text_not_blank key)

theorem text_inj {key other : LicenseKey} : key.text = other.text ↔ key = other := by
  constructor
  · intro h
    have hread := ofText_text key
    rw [h, ofText_text other] at hread
    exact (Except.ok.inj hread).symm
  · intro h
    rw [h]

/-- **The text form of a key is canonical**: a text is accepted as a key if and only if it is the
key's text between blanks, so each key is read back from its text, different keys have different
texts, and two accepted texts of one key differ in nothing but the blanks around them. -/
theorem text_form_canonical (text : String) (key : LicenseKey) :
    (ofText text = .ok key ↔ Text.trim text = key.text) ∧
    (ofText text = .ok key ↔ ∃ front back, Text.Surrounds front back key.text text) ∧
    ofText key.text = .ok key ∧
    (∀ other : LicenseKey, key.text = other.text ↔ key = other) ∧
    (ofText text = .ok key →
      ∀ other, ofText other = .ok key ↔ Text.trim other = Text.trim text) := by
  refine ⟨ofText_eq_ok_iff, ofText_eq_ok_iff_surrounds, ofText_text key, fun _ => text_inj, ?_⟩
  intro h other
  rw [ofText_eq_ok_iff, ofText_eq_ok_iff.mp h]

/-- A text with an ideographic space before it and a line feed behind it. -/
theorem text_form_canonical_surrounded :
    ofText "\u3000AAE=\n" = .ok ⟨[0, 1]⟩ ∧ (ofText "AAE= " = .ok ⟨[0, 1]⟩ ↔
      Text.trim "AAE= " = Text.trim "\u3000AAE=\n") := by
  have htrim : Text.trim "\u3000AAE=\n" = (⟨[0, 1]⟩ : LicenseKey).text := by decide +kernel
  have hread := (text_form_canonical _ _).1.mpr htrim
  exact ⟨hread, (text_form_canonical _ _).2.2.2.2 hread _⟩

end LicenseKey

end ClusterLicense
