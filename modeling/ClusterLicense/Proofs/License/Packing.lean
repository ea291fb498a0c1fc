/-
  ClusterLicense/Proofs/License/Packing.lean
  ==========================================
  **Objects that are packed one behind the other are told apart.**

  A license in JSON ends with its closing bracket, so neither what it is read as nor
  where it ends depends on what follows, be that JSON or not.  Whoever reads one object
  after the other therefore finds what was packed.
-/
import ClusterLicense.Proofs.License.Metadata
import ClusterLicense.Proofs.License.Persisted

namespace ClusterLicense

namespace LicenseKey

open Json (Value isBlank)

/-! ### One object -/

variable {input rest : Bytes} {key : LicenseKey}

theorem isPersisted_json (key : LicenseKey) : IsPersisted key.text key.json.compact := by
  have hbody := Value.isObject_compact [(keyMember, .string key.text)]
  have hlicense := Value.isObject_compact [(licenseMember, .object [(keyMember, .string key.text)])]
  exact .object hlicense (.object hbody (Json.quotes_quoted key.text))

/-- A key that is written in JSON is read from it, with blanks before it and anything behind it,
since the value ends with its closing brace. -/
theorem ofJsonStream_json {blanks : Bytes} (h : ∀ b ∈ blanks, isBlank b = true)
    (key : LicenseKey) (rest : Bytes) :
    ofJsonStream (blanks ++ key.json.compact ++ rest) = .ok (key, rest) :=
  ofJsonStream_eq_ok_iff.mpr
    ⟨blanks, _, key.text, h, isPersisted_json key, ofText_text key, List.append_assoc _ _ _⟩

/-- The octets of an object settle which key it holds.  What follows them makes no difference, so
several may be packed one behind the other. -/
theorem ofJsonStream_append (h : ofJsonStream input = .ok (key, rest)) :
    ∃ front, input = front ++ rest ∧ ∀ other, ofJsonStream (front ++ other) = .ok (key, other) := by
  obtain ⟨w, v, text, hw, hv, htext, rfl⟩ := ofJsonStream_eq_ok_iff.mp h
  refine ⟨w ++ v, (List.append_assoc w v rest).symm, fun other => ?_⟩
  exact ofJsonStream_eq_ok_iff.mpr ⟨w, v, text, hw, hv, htext, List.append_assoc w v other⟩

/-- Reading a key from a stream fails in one way only, whatever is wrong with the input: the
metadata is blamed. -/
theorem ofJsonStream_eq_error {cause : LicenseError} (h : ofJsonStream input = .error cause) :
    ∃ detail, cause = .metadataParsing detail := by
  unfold ofJsonStream at h
  split at h
  · exact ⟨_, (Except.error.inj h).symm⟩
  · split at h
    · exact ⟨_, (Except.error.inj h).symm⟩
    · split at h
      · cases h
      · exact ⟨_, (Except.error.inj h).symm⟩

/-! ### Many objects -/

/-- The key in the object at the front, and how many octets the object takes with the blanks
before it. -/
def ofPacked (input : Bytes) : Except LicenseError ((LicenseKey × Nat) × Bytes) := do
  let (key, rest) ← ofJsonStream input
  pure ((key, input.length - rest.length), rest)

def packed : Bytes × LicenseKey → Bytes
  | (blanks, key) => blanks ++ key.json.compact

theorem ofPacked_eq_ok_iff {n : Nat} :
    ofPacked input = .ok ((key, n), rest) ↔
      ofJsonStream input = .ok (key, rest) ∧ n = input.length - rest.length := by
  rw [ofPacked, bind_eq_ok_iff]
  constructor
  · rintro ⟨⟨found, after⟩, hread, h⟩
    cases h
    exact ⟨hread, rfl⟩
  · rintro ⟨hread, rfl⟩
    exact ⟨_, hread, rfl⟩

/-- The octets that are reported as taken are those of the object and the blanks before it, and no
other. -/
theorem ofPacked_packed {blanks : Bytes} (h : ∀ b ∈ blanks, isBlank b = true)
    (key : LicenseKey) (rest : Bytes) :
    ofPacked (packed (blanks, key) ++ rest) =
      .ok ((key, (packed (blanks, key)).length), rest) := by
  refine ofPacked_eq_ok_iff.mpr ⟨ofJsonStream_json h key rest, ?_⟩
  rw [List.length_append, Nat.add_sub_cancel]

/-- **Packed objects are consumed exactly.**  Keys that are packed, with blanks before each and
anything behind the last, come back one by one, and each call takes what belongs to its key; a call
that goes well takes octets of the input, and finds the same in them whatever follows; and a call
that fails blames the metadata. -/
theorem packed_objects_consumed_exactly :
    (∀ items : List (Bytes × LicenseKey), (∀ item ∈ items, ∀ b ∈ item.1, isBlank b = true) →
      ∀ rest, readMany ofPacked items.length (items.flatMap packed ++ rest) =
        .ok (items.map fun item => (item.2, item.1.length + item.2.json.compact.length), rest)) ∧
    (∀ input key n rest, ofPacked input = .ok ((key, n), rest) →
      n ≤ input.length ∧ rest = input.drop n ∧
        ∀ other, ofPacked (input.take n ++ other) = .ok ((key, n), other)) ∧
    (∀ input cause, ofPacked input = .error cause → ∃ detail, cause = .metadataParsing detail) := by
  refine ⟨?_, ?_, ?_⟩
  · intro items hblank rest
    apply readMany_append
    rintro ⟨blanks, key⟩ hitem rest
    rw [ofPacked_packed (hblank _ hitem), packed, List.length_append]
  · intro input key n rest h
    obtain ⟨hread, hn⟩ := ofPacked_eq_ok_iff.mp h
    obtain ⟨front, rfl, hfront⟩ := ofJsonStream_append hread
    rw [List.length_append, Nat.add_sub_cancel] at hn
    subst hn
    refine ⟨by rw [List.length_append]; exact Nat.le_add_right _ _, List.drop_left.symm, ?_⟩
    intro other
    rw [List.take_left]
    refine ofPacked_eq_ok_iff.mpr ⟨hfront other, ?_⟩
    rw [List.length_append, Nat.add_sub_cancel]
  · intro input cause h
    rw [ofPacked] at h
    cases hread : ofJsonStream input with
    | ok found =>
      rw [hread] at h
      cases h
    | error reason =>
      rw [hread] at h
      obtain rfl := Except.error.inj h
      exact ofJsonStream_eq_error hread

/-- Two keys, one without an envelope, and behind them octets that are no JSON. -/
theorem packed_objects_consumed_exactly_pair :
    (∀ item ∈ [([32, 10], LicenseKey.mk [0, 1, 2]), ([], LicenseKey.mk [])], ∀ b ∈ item.1,
      isBlank b = true) ∧
    readMany ofPacked 2 ([([32, 10], .mk [0, 1, 2]), ([], .mk [])].flatMap packed ++ [255, 125]) =
      .ok ([(.mk [0, 1, 2], 35), (.mk [], 29)], [255, 125]) ∧
    (∃ n, ofPacked (packed ([9], .mk [7]) ++ [255]) = .ok ((.mk [7], n), [255]) ∧
      ofPacked ((packed ([9], .mk [7]) ++ [255]).take n ++ [123]) = .ok ((.mk [7], n), [123])) ∧
    (∃ cause, ofPacked [] = .error cause ∧ ∃ detail, cause = .metadataParsing detail) := by
  obtain ⟨hpacked, hsettled, hfails⟩ := packed_objects_consumed_exactly
  have hblank : ∀ item ∈ [([32, 10], LicenseKey.mk [0, 1, 2]), ([], LicenseKey.mk [])],
      ∀ b ∈ item.1, isBlank b = true := by decide +kernel
  have hone : ofPacked (packed ([9], .mk [7]) ++ [255]) = .ok ((.mk [7], _), [255]) :=
    ofPacked_packed (by decide +kernel) (.mk [7]) [255]
  have hnone : ofPacked [] = .error (.metadataParsing "expected a license object") := rfl
  refine ⟨hblank, ?_, ⟨_, hone, (hsettled _ _ _ _ hone).2.2 [123]⟩, _, hnone, hfails _ _ hnone⟩
  have hlength : (LicenseKey.mk [0, 1, 2]).json.compact.length = 33 ∧
      (LicenseKey.mk []).json.compact.length = 29 := by decide +kernel
  have hread := hpacked _ hblank [255, 125]
  simp only [List.map_cons, List.map_nil, hlength] at hread
  exact hread

end LicenseKey

end ClusterLicense
