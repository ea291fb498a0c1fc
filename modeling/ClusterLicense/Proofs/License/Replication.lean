/-
  ClusterLicense/Proofs/License/Replication.lean
  ==============================================
  **Whoever reads the changes of a license holds what their writer holds.**

  A change is read if and only if it was written with a short envelope
  (`read_eq_ok_iff`), so a stream of changes falls apart into the changes that it was
  written from, and the octets behind the last are left alone (`follow_wires`).

  What a follower holds after each change then only depends on the changes.  If it
  started where the writer did, it holds the writer's keys.  If it did not, it keeps
  what it has until a key is sent in full, and from then on it holds the writer's keys
  as well (`stages_of_same`, `stages_of_complete`).
-/
import ClusterLicense.Proofs.License.Metadata

namespace ClusterLicense

namespace LicenseKey

theorem read_eq_ok_iff {input rest : Bytes} {key : LicenseKey} :
    read input = .ok (key, rest) ↔
      key.envelope.length ≤ largestEnvelope ∧ input = key.wire ++ rest := by
  constructor
  · intro h
    unfold read at h
    split at h
    · rename_i a b c d octets
      simp only [refuse_if_eq_ok_iff, not_or, Nat.not_lt, Except.ok.injEq, Prod.mk.injEq] at h
      obtain ⟨⟨hnonneg, hshort⟩, hthere, rfl, rfl⟩ := h
      have hsize : (octets.take (Bytes.int32 a b c d).toInt.toNat).length =
          (Bytes.int32 a b c d).toInt.toNat := List.length_take_of_le hthere
      obtain ⟨hfield, -⟩ := eq_ofNat_of_toInt hnonneg hsize.symm
      refine ⟨by rw [hsize]; exact hshort, ?_⟩
      rw [wire, ← hfield, Bytes.ofInt32_int32, List.append_assoc, List.take_append_drop]
      rfl
    · cases h
  · rintro ⟨hshort, rfl⟩
    have hfits : key.envelope.length ≤ largestLength := hshort.trans (by decide)
    rw [read_wire hfits, if_pos hshort]

end LicenseKey

namespace LicenseDiff

variable {start held follower : Option LicenseKey} {key : LicenseKey} {keys : List LicenseKey}
  {diff : LicenseDiff} {diffs : List LicenseDiff} {input rest written : Bytes} {sink : Sink}

/-! ### One change -/

/-- The envelope that the change brings, if any, has at most `size` octets. -/
def Within (size : Nat) : LicenseDiff → Prop
  | .same => True
  | .complete key => key.envelope.length ≤ size

theorem Within.mono {size larger : Nat} (h : diff.Within size) (hle : size ≤ larger) :
    diff.Within larger := by
  cases diff with
  | same => trivial
  | complete key => exact Nat.le_trans h hle

/-- A change is written in full exactly if the length of its envelope can be written.  The bound of
reading is smaller, and between the two there are changes that are sent and not understood. -/
theorem write_eq_ok_iff :
    diff.write ⟨none, written⟩ = (.ok (), sink) ↔
      diff.Within LicenseKey.largestLength ∧ sink = ⟨none, written ++ diff.wire⟩ := by
  cases diff with
  | same =>
    rw [write, Sink.write_unbounded, Prod.mk.injEq]
    exact ⟨fun h => ⟨trivial, h.2.symm⟩, fun h => ⟨rfl, h.2.symm⟩⟩
  | complete key =>
    by_cases hlength : key.envelope.length ≤ LicenseKey.largestLength
    · rw [write_complete hlength, Prod.mk.injEq]
      exact ⟨fun h => ⟨hlength, h.2.symm⟩, fun h => ⟨rfl, h.2.symm⟩⟩
    · rw [write, Sink.write_unbounded]
      simp only [LicenseKey.write, if_neg hlength]
      constructor
      · intro h
        cases h
      · rintro ⟨hwithin, -⟩
        exact absurd hwithin hlength

/-- A change is read exactly if it brings no envelope of more than 64 KiB and the input begins with
its octets.  So a stream falls apart in one way. -/
theorem read_eq_ok_iff :
    read input = .ok (diff, rest) ↔
      diff.Within LicenseKey.largestEnvelope ∧ input = diff.wire ++ rest := by
  constructor
  · intro h
    unfold read at h
    split at h
    · cases h
    rename_i tag octets
    split_ifs at h with hsame hcomplete
    · cases h
      exact ⟨trivial, by rw [hsame]; rfl⟩
    · obtain ⟨⟨key, after⟩, hread, h⟩ := bind_eq_ok_iff.mp h
      cases h
      obtain ⟨hshort, rfl⟩ := LicenseKey.read_eq_ok_iff.mp hread
      exact ⟨hshort, by rw [hcomplete]; rfl⟩
  · rintro ⟨hshort, rfl⟩
    cases diff with
    | same => rfl
    | complete key =>
      have hshort' : key.envelope.length ≤ LicenseKey.largestEnvelope := hshort
      rw [read_complete (hshort'.trans (by decide)), if_pos hshort']

/-- Of a change that can be written, no part that lacks the end is read as a change.  The octets of
a change say how long it is before they end. -/
theorem read_cut {front back : Bytes} (hwithin : diff.Within LicenseKey.largestLength)
    (hcut : diff.wire = front ++ back) (hback : back ≠ []) :
    ∃ cause, read front = .error cause := by
  cases hread : read front with
  | error cause => exact ⟨cause, rfl⟩
  | ok found =>
    -- The rest of the octets would follow what is read in front, but nothing is left of a change.
    exfalso
    obtain ⟨found, rest⟩ := found
    obtain ⟨hshort, rfl⟩ := read_eq_ok_iff.mp hread
    have hfound : read diff.wire = .ok (found, rest ++ back) := by
      rw [hcut, List.append_assoc]
      exact read_eq_ok_iff.mpr ⟨hshort, rfl⟩
    have hwhole : ∀ other left, read diff.wire = .ok (other, left) → left = [] := by
      intro other left h
      cases diff with
      | same => cases h; rfl
      | complete key =>
        have hwire := read_complete hwithin []
        rw [List.append_nil, h] at hwire
        split at hwire
        · cases hwire; rfl
        · cases hwire
    exact hback (List.append_eq_nil_iff.mp (hwhole _ _ hfound)).2

/-! ### Many changes -/

def changes : Option LicenseKey → List LicenseKey → List LicenseDiff
  | _, [] => []
  | held, key :: keys => between held key :: changes (some key) keys

def writeAll : List LicenseDiff → Sink → Except StorageError Unit × Sink
  | [], sink => (.ok (), sink)
  | diff :: diffs, sink =>
    match diff.write sink with
    | (.ok (), sink) => writeAll diffs sink
    | failed => failed

def stages : Option LicenseKey → List LicenseDiff → List (Option LicenseKey)
  | _, [] => []
  | held, diff :: diffs => diff.apply held :: stages (diff.apply held) diffs

/-- Reads `count` changes and applies them: what is held after each, and the octets behind the
last. -/
def follow (held : Option LicenseKey) (count : Nat) (input : Bytes) :
    Except LicenseError (List (Option LicenseKey) × Bytes) := do
  let (diffs, rest) ← readMany read count input
  pure (stages held diffs, rest)

theorem length_changes : (changes start keys).length = keys.length := by
  induction keys generalizing start with
  | nil => rfl
  | cons key keys ih => exact congrArg (· + 1) ih

theorem length_stages : (stages held diffs).length = diffs.length := by
  induction diffs generalizing held with
  | nil => rfl
  | cons diff diffs ih => exact congrArg (· + 1) ih

theorem within_between {size : Nat} (h : key.envelope.length ≤ size) :
    (between held key).Within size := by
  unfold between
  split
  · trivial
  · exact h

theorem within_changes {size : Nat} (h : ∀ key ∈ keys, key.envelope.length ≤ size) :
    ∀ diff ∈ changes start keys, diff.Within size := by
  induction keys generalizing start with
  | nil =>
    intro diff hdiff
    cases hdiff
  | cons key keys ih =>
    obtain ⟨hkey, hkeys⟩ := List.forall_mem_cons.mp h
    exact List.forall_mem_cons.mpr ⟨within_between hkey, ih hkeys⟩

theorem writeAll_unbounded (h : ∀ diff ∈ diffs, diff.Within LicenseKey.largestLength)
    (written : Bytes) :
    writeAll diffs ⟨none, written⟩ = (.ok (), ⟨none, written ++ diffs.flatMap wire⟩) := by
  induction diffs generalizing written with
  | nil => rw [List.flatMap_nil, List.append_nil, writeAll]
  | cons diff diffs ih =>
    obtain ⟨hdiff, hdiffs⟩ := List.forall_mem_cons.mp h
    rw [writeAll, write_eq_ok_iff.mpr ⟨hdiff, rfl⟩, List.flatMap_cons, ← List.append_assoc]
    exact ih hdiffs _

/-- The stream falls apart into the changes that were written, and nothing behind it is taken.  The
induction is on the changes; each is read to its end whatever comes after it. -/
theorem follow_wires (h : ∀ diff ∈ diffs, diff.Within LicenseKey.largestEnvelope)
    (held : Option LicenseKey) (rest : Bytes) :
    follow held diffs.length (diffs.flatMap wire ++ rest) = .ok (stages held diffs, rest) := by
  have hread : ∀ diff ∈ diffs, ∀ rest, read (diff.wire ++ rest) = .ok (id diff, rest) := by
    intro diff hdiff rest
    exact read_eq_ok_iff.mpr ⟨h diff hdiff, rfl⟩
  rw [follow, readMany_append hread, List.map_id]
  rfl

/-! ### What a follower holds -/

theorem apply_between : (between held key).apply held = some key := by
  unfold between
  split
  · assumption
  · rfl

/-- Who starts where the writer did holds the writer's keys after each change.  A change is the
difference between two keys, and is applied to the first of them. -/
theorem stages_changes : stages start (changes start keys) = keys.map some := by
  induction keys generalizing start with
  | nil => rfl
  | cons key keys ih => rw [changes, stages, apply_between, ih, List.map_cons]

theorem stages_of_same {i : Nat} (hi : i < diffs.length)
    (h : ∀ diff ∈ diffs.take (i + 1), diff = .same) : (stages held diffs)[i]? = some held := by
  induction diffs generalizing i with
  | nil => cases hi
  | cons diff diffs ih =>
    rw [List.take_succ_cons] at h
    obtain ⟨rfl, hothers⟩ := List.forall_mem_cons.mp h
    cases i with
    | zero => rfl
    | succ i => exact ih (Nat.lt_of_succ_lt_succ hi) hothers

/-- From the first key on that is sent in full, everyone holds the writer's keys.  What was held
before that plays no part, since a full change does not refer to it. -/
theorem stages_of_complete {i : Nat} {sent : LicenseKey}
    (h : complete sent ∈ (changes start keys).take (i + 1)) :
    (stages held (changes start keys))[i]? = (keys.map some)[i]? := by
  induction keys generalizing start i with
  | nil => cases h
  | cons key keys ih =>
    rw [changes, List.take_succ_cons] at h
    rw [changes]
    unfold between at h ⊢
    split_ifs at h ⊢ with hsame
    · rcases List.mem_cons.mp h with heq | hmem
      · cases heq
      · -- The key that was sent in full comes after this one.
        cases i with
        | zero => cases hmem
        | succ i => exact ih hmem
    · -- From here on, nobody can tell the follower from one that started where the writer did.
      rw [stages, apply, stages_changes]
      rfl

/-- **Followers converge.**  Changes with short envelopes are all written, and a follower that
reads them from the stream takes all of their octets and no more; it holds the writer's keys if it
started where the writer did, and otherwise from the first key on that is sent in full.  A change
is read if and only if its envelope is short and the input begins with what is written for it, and
no part that lacks the end of what is written for a change is read as one. -/
theorem followers_converge (start : Option LicenseKey) (keys : List LicenseKey)
    (hshort : ∀ key ∈ keys, key.envelope.length ≤ LicenseKey.largestEnvelope) :
    (∃ sink, writeAll (changes start keys) (.empty none) = (.ok (), sink) ∧
      ∀ follower rest, ∃ held,
        follow follower keys.length (sink.written ++ rest) = .ok (held, rest) ∧
        held.length = keys.length ∧
        (follower = start → held = keys.map some) ∧
        ∀ i key, keys[i]? = some key →
          ((∀ diff ∈ (changes start keys).take (i + 1), diff = .same) →
            held[i]? = some follower) ∧
          ((∃ sent, .complete sent ∈ (changes start keys).take (i + 1)) →
            held[i]? = some (some key))) ∧
    (∀ input diff rest, read input = .ok (diff, rest) ↔
      diff.Within LicenseKey.largestEnvelope ∧
        ∃ sink, diff.write (.empty none) = (.ok (), sink) ∧ input = sink.written ++ rest) ∧
    (∀ (diff : LicenseDiff) (sink : Sink), diff.write (.empty none) = (.ok (), sink) →
      ∀ front back, sink.written = front ++ back → back ≠ [] →
        ∃ cause, read front = .error cause) := by
  refine ⟨?_, ?_, ?_⟩
  · have hwithin : ∀ diff ∈ changes start keys, diff.Within LicenseKey.largestEnvelope :=
      within_changes hshort
    refine ⟨_, writeAll_unbounded (fun diff hdiff => (hwithin diff hdiff).mono (by decide)) [], ?_⟩
    intro follower rest
    have hfollow := follow_wires hwithin follower rest
    rw [length_changes] at hfollow
    refine ⟨_, hfollow, length_stages.trans length_changes, ?_, ?_⟩
    · rintro rfl
      exact stages_changes
    · intro i key hi
      obtain ⟨hlt, -⟩ := List.getElem?_eq_some_iff.mp hi
      refine ⟨stages_of_same (hlt.trans_eq length_changes.symm), ?_⟩
      rintro ⟨sent, hsent⟩
      rw [stages_of_complete hsent, List.getElem?_map, hi]
      rfl
  · intro input diff rest
    rw [read_eq_ok_iff]
    constructor
    · rintro ⟨hdiff, rfl⟩
      exact ⟨hdiff, _, write_eq_ok_iff.mpr ⟨hdiff.mono (by decide), rfl⟩, rfl⟩
    · rintro ⟨hdiff, sink, hwrite, rfl⟩
      obtain ⟨-, rfl⟩ := write_eq_ok_iff.mp hwrite
      exact ⟨hdiff, rfl⟩
  · intro diff sink hwrite front back hcut hback
    obtain ⟨hwithin, rfl⟩ := write_eq_ok_iff.mp hwrite
    exact read_cut hwithin hcut hback

/-- A key that stays, one that replaces it, and one more: what a follower holds that has had no key
so far; and a change without its last octet. -/
theorem followers_converge_elsewhere :
    (∀ key ∈ [LicenseKey.mk [7], .mk [8, 9], .mk []],
      key.envelope.length ≤ LicenseKey.largestEnvelope) ∧
    (∃ sink, writeAll (changes (some (.mk [7])) [.mk [7], .mk [8, 9], .mk []]) (.empty none) =
        (.ok (), sink) ∧
      ∃ held, follow none 3 (sink.written ++ [255]) = .ok (held, [255]) ∧
        held[0]? = some none ∧ held[1]? = some (some (.mk [8, 9])) ∧
        held[2]? = some (some (.mk []))) ∧
    (∃ cause, read [1, 0, 0, 0, 2, 8] = .error cause) := by
  have hshort : ∀ key ∈ [LicenseKey.mk [7], .mk [8, 9], .mk []],
      key.envelope.length ≤ LicenseKey.largestEnvelope := by decide
  obtain ⟨⟨sink, hwrite, hfollow⟩, -, hcut⟩ := followers_converge (some (.mk [7])) _ hshort
  obtain ⟨held, hread, -, -, hheld⟩ := hfollow none [255]
  refine ⟨hshort, ⟨sink, hwrite, held, hread, ?_, ?_, ?_⟩, ?_⟩
  · exact (hheld 0 _ rfl).1 (by decide)
  · exact (hheld 1 _ rfl).2 ⟨.mk [8, 9], by decide⟩
  · exact (hheld 2 _ rfl).2 ⟨.mk [8, 9], by decide⟩
  · have hone : (complete (.mk [8, 9])).write (.empty none) =
        (.ok (), ⟨none, [] ++ (complete (.mk [8, 9])).wire⟩) :=
      write_complete (by decide) []
    exact hcut _ _ hone [1, 0, 0, 0, 2, 8] [9] (by decide) (by decide)

end LicenseDiff

end ClusterLicense
