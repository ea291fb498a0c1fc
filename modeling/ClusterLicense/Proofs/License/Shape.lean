/-
  ClusterLicense/Proofs/License/Shape.lean
  ========================================
  **Which shapes are read beside the documented ones.**

  A payload is documented as an object with an integer and a string, and a license in
  JSON as an object inside an object.  A record is read from an array of its fields as
  well, and so is each of the two objects; what nobody asks for may hold strings that
  are no text.  Nothing else is read: an input that is read has the documented shape
  if and only if no array takes the place of an object and, for a payload, the octets
  are a text.
-/
import ClusterLicense.Proofs.License.Packing
import ClusterLicense.Proofs.License.Storage

namespace ClusterLicense

open Json (Blanks IsArray IsFlat IsObject Quotes isBlank)
open Utf8 (IsText)

namespace LicenseRecord

/-! ### Payloads -/

def TellsInOrder (payload : Bytes) (record : LicenseRecord) : Prop :=
  ∃ w v u elements, Blanks w ∧ Blanks u ∧ IsArray elements v ∧ Lists elements record ∧
    payload = w ++ (v ++ u)

/-- The documented shape: the text of an object, with an integer for the expiration and a string
for the holder. -/
def IsDocumented (payload : Bytes) : Prop :=
  IsText payload ∧ ∃ w v u members, Blanks w ∧ Blanks u ∧ IsObject members v ∧
    payload = w ++ (v ++ u) ∧ (∃ n, (expirationMember, Decimal.ofInt n) ∈ members) ∧
      ∃ text q, Quotes text q ∧ (issuedToMember, q) ∈ members

variable {payload : Bytes} {record : LicenseRecord}

/-- A payload is parsed from an object or from an array, and there is no third shape. -/
theorem parse_eq_ok_iff_tells :
    parse payload = .ok record ↔ Tells payload record ∨ TellsInOrder payload record := by
  rw [parse_eq_ok_iff]
  constructor
  · rintro ⟨w, v, u, hw, ⟨members, hv, h⟩ | ⟨elements, hv, h⟩, hu, rfl⟩
    · exact .inl ⟨w, v, u, members, hw, hu, hv, h, rfl⟩
    · exact .inr ⟨w, v, u, elements, hw, hu, hv, h, rfl⟩
  · rintro (⟨w, v, u, members, hw, hu, hv, h, rfl⟩ | ⟨w, v, u, elements, hw, hu, hv, h, rfl⟩)
    · exact ⟨w, v, u, hw, .inl ⟨members, hv, h⟩, hu, rfl⟩
    · exact ⟨w, v, u, hw, .inr ⟨elements, hv, h⟩, hu, rfl⟩

theorem TellsInOrder.head? (h : TellsInOrder payload record) :
    (payload.dropWhile isBlank).head? = some 91 := by
  obtain ⟨w, v, u, elements, hw, -, hv, -, rfl⟩ := h
  rw [hw.dropWhile_append hv.isValue]
  obtain ⟨t, -, rfl⟩ := hv
  rfl

theorem IsDocumented.head? (h : IsDocumented payload) :
    (payload.dropWhile isBlank).head? = some 123 := by
  obtain ⟨-, w, v, u, members, hw, -, hv, rfl, -⟩ := h
  rw [hw.dropWhile_append hv.isValue]
  obtain ⟨t, -, rfl⟩ := hv
  rfl

theorem Tells.isDocumented (h : Tells payload record) (htext : IsText payload) :
    IsDocumented payload := by
  obtain ⟨w, v, u, members, hw, hu, hv, ⟨hexpiration, ⟨q, hq, hissuedTo⟩, -⟩, rfl⟩ := h
  refine ⟨htext, w, v, u, members, hw, hu, hv, rfl, ⟨record.expiration.toInt, ?_⟩, _, q, hq, ?_⟩
  · apply Json.mem_of_mem_values
    rw [hexpiration]
    exact List.mem_singleton_self _
  · apply Json.mem_of_mem_values
    rw [hissuedTo]
    exact List.mem_singleton_self _

/-- Of what is parsed, an array is not the documented shape, and neither is an object with octets in
it that are no text, which can only stand in a member that nobody asked for. -/
theorem isDocumented_iff_of_parse (h : parse payload = .ok record) :
    IsDocumented payload ↔ (payload.dropWhile isBlank).head? ≠ some 91 ∧ IsText payload := by
  constructor
  · intro hdocumented
    refine ⟨?_, hdocumented.1⟩
    rw [hdocumented.head?]
    decide
  · rintro ⟨hhead, htext⟩
    rcases parse_eq_ok_iff_tells.mp h with htells | hlists
    · exact htells.isDocumented htext
    · exact absurd hlists.head? hhead

end LicenseRecord

namespace LicenseKey

variable {text member : String} {v input rest : Bytes} {key : LicenseKey}

/-! ### Licenses in JSON -/

/-- An object whose only member is the license, which is an object whose only member is the text of
the key. -/
def IsPersistedObject (text : String) (v : Bytes) : Prop :=
  ∃ body q, IsObject [(licenseMember, body)] v ∧ IsObject [(keyMember, q)] body ∧ Quotes text q

/-- The documented shape: the first value of the input is the text of such an object. -/
def StartsDocumented (input : Bytes) : Prop :=
  ∃ w v rest text, Blanks w ∧ IsText v ∧ IsPersistedObject text v ∧ input = w ++ (v ++ rest)

theorem IsPersistedObject.isPersisted (h : IsPersistedObject text v) : IsPersisted text v := by
  obtain ⟨body, q, hv, hbody, hq⟩ := h
  exact .object hv (.object hbody hq)

/-- An object with the text of a key, in an object of its own, has no array in it unless the text
has a bracket. -/
theorem IsPersistedObject.isFlat (h : IsPersistedObject text v) (htext : '[' ∉ text.toList) :
    IsFlat v := by
  obtain ⟨body, q, hv, hbody, hq⟩ := h
  obtain ⟨a, b, ha, hb, rfl⟩ := hv.singleton (by decide)
  obtain ⟨c, d, hc, hd, rfl⟩ := hbody.singleton (by decide)
  exact ha.append ((hc.append ((hq.isFlat htext).append hd)).append hb)

theorem Single.isObject {α : Type} {language : α → Bytes → Prop} {a : α}
    (h : Single member language a v) (hv : 91 ∉ v) (hmember : '[' ∉ member.toList) :
    ∃ u, IsObject [(member, u)] v ∧ language a u ∧ 91 ∉ u := by
  cases h with
  | @object u _ hobject hu =>
    refine ⟨u, hobject, hu, ?_⟩
    obtain ⟨b, c, -, -, rfl⟩ := hobject.singleton hmember
    intro hmem
    exact hv (List.mem_append_right b (List.mem_append_left c hmem))
  | array harray =>
    obtain ⟨t, -, rfl⟩ := harray
    exact absurd List.mem_cons_self hv

theorem IsPersisted.isPersistedObject (h : IsPersisted text v) (hv : 91 ∉ v) :
    IsPersistedObject text v := by
  obtain ⟨body, hlicense, hbody, hflat⟩ := h.isObject hv (by decide)
  obtain ⟨q, hkey, hq, -⟩ := hbody.isObject hflat (by decide)
  exact ⟨body, q, hlicense, hkey, hq⟩

/-- No key has a bracket in its text, and blanks around it are none. -/
theorem bracket_notMem_of_ofText (h : ofText text = .ok key) : '[' ∉ text.toList := by
  obtain ⟨front, back, hfront, hback, htext⟩ := Text.eq_surrounded text
  rw [ofText_eq_ok_iff.mp h] at htext
  have hsymbols : ∀ v < 64, Char.ofUInt8 (Base64.symbol v) ≠ '[' := by decide +kernel
  rw [htext]
  intro hmem
  simp only [List.mem_append] at hmem
  rcases hmem with hmem | hmem | hmem
  · exact absurd (hfront _ hmem) (by decide)
  · rw [LicenseKey.text, Base64.text, String.toList_ofList] at hmem
    obtain ⟨b, hb, hbracket⟩ := List.mem_map.mp hmem
    rcases Base64.mem_encode hb with ⟨v, hv, rfl⟩ | rfl
    · exact hsymbols v hv hbracket
    · exact absurd hbracket (by decide)
  · exact absurd (hback _ hmem) (by decide)

/-- The text of a key has no bracket in it, so brackets among the octets that are taken come from
arrays in place of objects. -/
theorem startsDocumented_iff_of_ofJsonStream (h : ofJsonStream input = .ok (key, rest)) :
    StartsDocumented input ↔ 91 ∉ input.take (input.length - rest.length) := by
  obtain ⟨w, v, text, hw, hv, htext, rfl⟩ := ofJsonStream_eq_ok_iff.mp h
  have hflat : '[' ∉ text.toList := bracket_notMem_of_ofText htext
  have htaken : (w ++ (v ++ rest)).take ((w ++ (v ++ rest)).length - rest.length) = w ++ v := by
    rw [← List.append_assoc, List.length_append, Nat.add_sub_cancel, List.take_left]
  rw [htaken]
  constructor
  · rintro ⟨x, u, after, other, hx, -, hu, hinput⟩
    -- What is read from the input is settled, so both are the same object.
    have hread : persistedForm.read (w ++ (v ++ rest)) = .ok (text, rest) :=
      persistedForm_read_eq_ok_iff.mpr ⟨w, v, hw, hv, rfl⟩
    have hother : persistedForm.read (w ++ (v ++ rest)) = .ok (other, after) :=
      persistedForm_read_eq_ok_iff.mpr ⟨x, u, hx, hu.isPersisted, hinput⟩
    obtain ⟨rfl, rfl⟩ := Prod.mk.inj (Except.ok.inj (hread.symm.trans hother))
    rw [← List.append_assoc, ← List.append_assoc] at hinput
    rw [List.append_cancel_right hinput]
    exact (hx.isFlat.append (hu.isFlat hflat)).2
  · intro hbracket
    have hobject := hv.isPersistedObject fun hmem => hbracket (List.mem_append_right w hmem)
    exact ⟨w, v, rest, text, hw, (hobject.isFlat hflat).1, hobject, rfl⟩

theorem StartsDocumented.head? (h : StartsDocumented input) :
    (input.dropWhile isBlank).head? = some 123 := by
  obtain ⟨w, v, rest, text, hw, -, hv, rfl⟩ := h
  obtain ⟨body, q, hv, -⟩ := hv
  rw [hw.dropWhile_append hv.isValue]
  obtain ⟨t, -, rfl⟩ := hv
  rfl

end LicenseKey

/-! ### Arrays of fields -/

theorem tellsInOrder_acme :
    LicenseRecord.TellsInOrder (Utf8.encode "[5,\"acme\"]") ⟨5, "acme", none⟩ := by
  have hholder : Quotes "acme" [34, 97, 99, 109, 101, 34] := Json.quotes_quoted "acme"
  have hexpiration : Json.IsValue (Decimal.ofInt (5 : Int64).toInt) :=
    Json.Value.isValue_compact (.integer 5)
  have harray : IsArray [Decimal.ofInt (5 : Int64).toInt, [34, 97, 99, 109, 101, 34]] _ :=
    ⟨_, .item .first (.intro Json.blanks_nil hexpiration)
      (.item (.later Json.blanks_nil) (.intro Json.blanks_nil (.literal hholder.isLiteral))
        (.close Json.blanks_nil)), rfl⟩
  have hlists : LicenseRecord.Lists _ ⟨5, "acme", none⟩ := ⟨_, _, rfl, hholder, .missing⟩
  exact ⟨[], _, [], _, Json.blanks_nil, Json.blanks_nil, harray, hlists, by decide +kernel⟩

theorem isPersisted_listed : LicenseKey.IsPersisted "AAAA" (Utf8.encode "[[\"AAAA\"]]") := by
  have htext : Quotes "AAAA" [34, 65, 65, 65, 65, 34] := Json.quotes_quoted "AAAA"
  have hbody : IsArray [[34, 65, 65, 65, 65, 34]] [91, 34, 65, 65, 65, 65, 34, 93] :=
    ⟨_, .item .first (.intro Json.blanks_nil (.literal htext.isLiteral))
      (.close Json.blanks_nil), rfl⟩
  have hlicense : IsArray [[91, 34, 65, 65, 65, 65, 34, 93]]
      [91, 91, 34, 65, 65, 65, 65, 34, 93, 93] :=
    ⟨_, .item .first (.intro Json.blanks_nil hbody.isValue) (.close Json.blanks_nil), rfl⟩
  exact .array hlicense (.array hbody htext)

/-- An array of fields is no object, but it is read like one: `[5,"acme"]` as a record, and
`[["AAAA"]]` as a license in JSON. -/
theorem listed_fields_read :
    LicenseRecord.parse (Utf8.encode "[5,\"acme\"]") = .ok ⟨5, "acme", none⟩ ∧
      ¬ LicenseRecord.IsDocumented (Utf8.encode "[5,\"acme\"]") ∧
      LicenseKey.ofJsonStream (Utf8.encode "[[\"AAAA\"]]") = .ok (.mk [0, 0, 0], []) ∧
      ¬ LicenseKey.StartsDocumented (Utf8.encode "[[\"AAAA\"]]") := by
  have hparse : LicenseRecord.parse (Utf8.encode "[5,\"acme\"]") = .ok ⟨5, "acme", none⟩ :=
    LicenseRecord.parse_eq_ok_iff_tells.mpr (.inr tellsInOrder_acme)
  have hread : LicenseKey.ofJsonStream (Utf8.encode "[[\"AAAA\"]]") = .ok (.mk [0, 0, 0], []) :=
    LicenseKey.ofJsonStream_eq_ok_iff.mpr ⟨[], _, "AAAA", Json.blanks_nil, isPersisted_listed,
      LicenseKey.ofText_text (.mk [0, 0, 0]), by rw [List.append_nil, List.nil_append]⟩
  refine ⟨hparse, fun hdocumented => ?_, hread, fun hdocumented => ?_⟩
  · exact absurd hdocumented.head? (by decide +kernel)
  · exact absurd hdocumented.head? (by decide +kernel)

/-! ### Other shapes -/

/-- **What is read beside the documented shapes.**  A payload is read from an object or an array
that tells what the record says, and it has the documented shape unless it is an array or no text; a
license in JSON has the documented shape unless an array opens in the octets that are taken.
Whatever is not read is blamed on the payload, or on the metadata. -/
theorem read_as_documented_iff_no_array (payload input : Bytes) :
    (∀ record, LicenseRecord.parse payload = .ok record ↔
      LicenseRecord.Tells payload record ∨ LicenseRecord.TellsInOrder payload record) ∧
    (∀ record, LicenseRecord.parse payload = .ok record →
      (LicenseRecord.IsDocumented payload ↔
        (payload.dropWhile isBlank).head? ≠ some 91 ∧ IsText payload)) ∧
    (∀ cause, LicenseRecord.parse payload = .error cause → ∃ detail, cause = .parse detail) ∧
    (∀ key rest, LicenseKey.ofJsonStream input = .ok (key, rest) →
      (LicenseKey.StartsDocumented input ↔ 91 ∉ input.take (input.length - rest.length))) ∧
    ∀ cause, LicenseKey.ofJsonStream input = .error cause →
      ∃ detail, cause = .metadataParsing detail := by
  refine ⟨?_, ?_, ?_, ?_, ?_⟩
  · intro record
    exact LicenseRecord.parse_eq_ok_iff_tells
  · intro record hparse
    exact LicenseRecord.isDocumented_iff_of_parse hparse
  · intro cause hparse
    exact LicenseRecord.parse_eq_error hparse
  · intro key rest hread
    exact LicenseKey.startsDocumented_iff_of_ofJsonStream hread
  · intro cause hread
    exact LicenseKey.ofJsonStream_eq_error hread

/-- Both shapes of one record, a license with an array behind it, and inputs that hold nothing. -/
theorem read_as_documented_iff_no_array_acme :
    (LicenseRecord.parse (LicenseRecord.mk 5 "acme" none).stored = .ok ⟨5, "acme", none⟩ ∧
      LicenseRecord.IsDocumented (LicenseRecord.mk 5 "acme" none).stored) ∧
    (LicenseKey.ofJsonStream ((LicenseKey.mk [0, 0, 0]).json.compact ++ [91]) =
        .ok (.mk [0, 0, 0], [91]) ∧
      LicenseKey.StartsDocumented ((LicenseKey.mk [0, 0, 0]).json.compact ++ [91])) ∧
    (LicenseRecord.parse (Utf8.encode "[5,\"acme\"]") = .ok ⟨5, "acme", none⟩ ∧
      ¬ LicenseRecord.IsDocumented (Utf8.encode "[5,\"acme\"]")) ∧
    (∃ cause, LicenseRecord.parse [] = .error cause ∧ ∃ detail, cause = .parse detail) ∧
    ∃ cause, LicenseKey.ofJsonStream [] = .error cause ∧
      ∃ detail, cause = .metadataParsing detail := by
  obtain ⟨haccepts, hshape, -, hkey, -⟩ := read_as_documented_iff_no_array
    (LicenseRecord.mk 5 "acme" none).stored ((LicenseKey.mk [0, 0, 0]).json.compact ++ [91])
  obtain ⟨hlists, hlist, -, -, -⟩ := read_as_documented_iff_no_array (Utf8.encode "[5,\"acme\"]") []
  obtain ⟨-, -, hrefuses, -, hrefusesKey⟩ := read_as_documented_iff_no_array [] []
  have hstored := (haccepts _).mpr (.inl (LicenseRecord.tells_stored _))
  have htext : IsText (LicenseRecord.mk 5 "acme" none).stored :=
    Utf8.isText_of_lt (by decide +kernel)
  have hread : LicenseKey.ofJsonStream ((LicenseKey.mk [0, 0, 0]).json.compact ++ [91]) = .ok _ :=
    LicenseKey.ofJsonStream_json Json.blanks_nil (.mk [0, 0, 0]) [91]
  have hlisted := (hlists _).mpr (.inr tellsInOrder_acme)
  have hempty : LicenseRecord.parse [] = .error (.parse _) := rfl
  have hnone : LicenseKey.ofJsonStream [] = .error (.metadataParsing _) := rfl
  refine ⟨⟨hstored, (hshape _ hstored).mpr ⟨by decide +kernel, htext⟩⟩,
    ⟨hread, (hkey _ _ hread).mpr (by decide +kernel)⟩, ⟨hlisted, ?_⟩,
    ⟨_, hempty, hrefuses _ hempty⟩, _, hnone, hrefusesKey _ hnone⟩
  intro hdocumented
  exact ((hlist _ hlisted).mp hdocumented).1 (by decide +kernel)

end ClusterLicense
