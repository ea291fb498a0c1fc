/-
  ClusterLicense/Proofs/License/Metadata.lean
  ===========================================
  **Keys and changes on the wire.**

  Whoever writes a key can say every length that fits into the length field;
  whoever reads one refuses lengths above `LicenseKey.largestEnvelope`.  So what
  was written is read back, and nothing behind it is touched, if and only if the
  envelope is short enough (`LicenseKey.read_wire`).

  Such readers can be called again and again, each time on what the last call has
  left (`readMany`): if each takes exactly what was written for it, whatever comes
  next, then all of it is read back (`readMany_append`).
-/
import ClusterLicense.License.Metadata
import ClusterLicense.Proofs.License.Envelope

namespace ClusterLicense

/-! ### One reader, many times -/

section

variable {α β : Type}

/-- The values that a reader finds when it is called `count` times, and what the last call
leaves. -/
def readMany (read : Bytes → Except LicenseError (α × Bytes)) :
    (count : Nat) → Bytes → Except LicenseError (List α × Bytes)
  | 0, input => .ok ([], input)
  | count + 1, input => do
    let (a, rest) ← read input
    let (others, rest) ← readMany read count rest
    pure (a :: others, rest)

/-- What was written item by item is read item by item, if a reader stops behind what was written
for one item whatever follows.  The induction is on the items. -/
theorem readMany_append {read : Bytes → Except LicenseError (α × Bytes)} {written : β → Bytes}
    {value : β → α} {items : List β}
    (h : ∀ item ∈ items, ∀ rest, read (written item ++ rest) = .ok (value item, rest))
    (rest : Bytes) :
    readMany read items.length (items.flatMap written ++ rest) =
      .ok (items.map value, rest) := by
  induction items with
  | nil => rfl
  | cons item items ih =>
    have hothers := ih fun other hother => h other (List.mem_cons_of_mem item hother)
    have hitem := h item List.mem_cons_self (items.flatMap written ++ rest)
    rw [List.flatMap_cons, List.append_assoc, List.length_cons]
    simp only [readMany, hitem, ok_bind, hothers]
    rfl

end

/-! ### Keys -/

theorem Sink.write_unbounded (written bytes : Bytes) :
    Sink.write ⟨none, written⟩ bytes = (.ok (), ⟨none, written ++ bytes⟩) := rfl

namespace LicenseKey

variable {key : LicenseKey}

theorem write_unbounded (hlength : key.envelope.length ≤ largestLength) (written : Bytes) :
    key.write ⟨none, written⟩ = (.ok (), ⟨none, written ++ key.wire⟩) := by
  rw [write, if_pos hlength, Sink.write_unbounded]

/-- Why an envelope is refused on the wire. -/
def refusal (key : LicenseKey) : LicenseError :=
  .metadataParsing s!"invalid envelope length {Int32.ofNat key.envelope.length}"

/-- A key that is written on the wire is read back if its envelope has at most 64 KiB, and refused
otherwise: writing has no such limit. -/
theorem read_wire (hlength : key.envelope.length ≤ largestLength) (rest : Bytes) :
    read (key.wire ++ rest) =
      if key.envelope.length ≤ largestEnvelope then .ok (key, rest) else .error key.refusal := by
  obtain ⟨a, b, c, d, hfield, hnumber⟩ := Bytes.int32_ofInt32 (Int32.ofNat key.envelope.length)
  obtain ⟨hnonneg, hsize⟩ := toInt_ofNat_of_le hlength
  rw [wire, hfield]
  simp only [List.cons_append, List.nil_append, read, hnumber, hsize]
  by_cases hshort : key.envelope.length ≤ largestEnvelope
  · have hthere : ¬ (key.envelope ++ rest).length < key.envelope.length := by
      rw [List.length_append]
      omega
    rw [if_neg (not_or.mpr ⟨hnonneg, Nat.not_lt.mpr hshort⟩), if_neg hthere, if_pos hshort,
      List.take_left, List.drop_left]
  · rw [if_pos (.inr (Nat.lt_of_not_le hshort)), if_neg hshort]
    rfl

end LicenseKey

/-! ### Changes -/

namespace LicenseDiff

variable {key : LicenseKey}

theorem write_complete (hlength : key.envelope.length ≤ LicenseKey.largestLength)
    (written : Bytes) :
    (complete key).write ⟨none, written⟩ = (.ok (), ⟨none, written ++ (complete key).wire⟩) := by
  rw [write, Sink.write_unbounded]
  simp only [LicenseKey.write_unbounded hlength, wire, List.append_assoc, List.singleton_append]

theorem read_complete (hlength : key.envelope.length ≤ LicenseKey.largestLength) (rest : Bytes) :
    read ((complete key).wire ++ rest) =
      if key.envelope.length ≤ LicenseKey.largestEnvelope then .ok (.complete key, rest)
      else .error key.refusal := by
  simp only [wire, List.cons_append, read, LicenseKey.read_wire hlength]
  by_cases hshort : key.envelope.length ≤ LicenseKey.largestEnvelope
  · rw [if_pos hshort, if_pos hshort]
    rfl
  · rw [if_neg hshort, if_neg hshort]
    rfl

end LicenseDiff

end ClusterLicense
