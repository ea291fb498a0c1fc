/-
  ClusterLicense/Proofs/Storage/Directory.lean
  ============================================
  **What is written to a file is read from it**, and other files stay as they are.

  `LawfulFiles` states what is relied on where files are written and read back, for any
  place that keeps files.  What a write leaves that fails is a matter of its own:
  `SequentialFiles` says it of a place that opens a file, which empties it, and then adds
  the octets one after the other.  If the file cannot be opened nothing has changed; after
  that a failure leaves as much of the file as was written.

  A directory in memory keeps all of these promises, and writing to it fails on opening
  only.  The reason is that the place a name leads to does not depend on which files there
  are (`follow_congr`): files can only keep a name from leading anywhere.
-/
import ClusterLicense.Storage.Directory

namespace ClusterLicense

/-! ### Places that keep files -/

section Files

variable {σ : Type}

/-- What can be read from the file that a name leads to. -/
def contents [Files (StateM σ)] (s : σ) (name : String) : Option Bytes :=
  ((Files.read name : StateM σ _).run s).1.toOption

/-- A place that keeps files, and what it promises of files that were written.  Names are what files
are found by, and two names may lead to one file, so that other files are those under names that
lead elsewhere. -/
class LawfulFiles (σ : Type) extends Files (StateM σ) where
  /-- Two names lead to different files, which writing does not change. -/
  Apart : String → String → Prop
  /-- Reading changes nothing. -/
  run_read (name : String) (s : σ) : ((Files.read name : StateM σ _).run s).2 = s
  /-- A file reads back as last written. -/
  contents_write {name : String} {bytes : Bytes} {s after : σ} :
    (Files.write name bytes : StateM σ _).run s = (.ok (), after) →
      contents after name = some bytes
  /-- Writing to one file leaves another one alone. -/
  contents_apart {name other : String} {bytes : Bytes} {s after : σ} : Apart name other →
    (Files.write other bytes : StateM σ _).run s = (.ok (), after) →
      contents after name = contents s name

/-- A place that opens a file, which empties it, and then writes octets to it in their order.
Opening may fail, and then nothing has happened; writing may fail, and then the file has as many
octets as were written. -/
class SequentialFiles (σ : Type) extends LawfulFiles σ where
  /-- A name leads to a file that can be opened for writing. -/
  Opens : String → σ → Prop
  /-- A file that cannot be opened is refused, and left alone. -/
  run_write_unopened {name : String} {s : σ} (bytes : Bytes) : ¬ Opens name s →
    ∃ cause, (Files.write name bytes : StateM σ _).run s = (.error cause, s)
  /-- Writing that ends early has come as far as some octet, and not to the last. -/
  beginning_of_cut {name : String} {bytes found : Bytes} {s after : σ} {cause : StorageError} :
    Opens name s → (Files.write name bytes : StateM σ _).run s = (.error cause, after) →
      contents after name = some found → found <+: bytes ∧ found.length < bytes.length
  /-- Writing that ends early leaves other files alone. -/
  contents_apart_of_cut {name other : String} {bytes : Bytes} {s after : σ}
    {cause : StorageError} : Apart name other → Opens other s →
      (Files.write other bytes : StateM σ _).run s = (.error cause, after) →
      contents after name = contents s name

variable [LawfulFiles σ] {s : σ} {name : String} {bytes : Bytes}

/-- What can be read from a file is all that a computation learns from reading it.  Together with
`run_read` this replaces a read inside a longer computation by its outcome. -/
theorem run_read_of_contents (h : contents s name = some bytes) :
    (Files.read name : StateM σ _).run s = (.ok bytes, s) := by
  have hstate := LawfulFiles.run_read name s
  rw [contents] at h
  generalize (Files.read name : StateM σ _).run s = outcome at h hstate
  obtain ⟨result, after⟩ := outcome
  obtain rfl : after = s := hstate
  cases result with
  | error cause => cases h
  | ok found => rw [Option.some.inj h]

end Files

/-! ### A directory in memory -/

namespace Directory

variable {dir after : Directory} {name other : String} {bytes : Bytes} {location : Location}
  {destination : Destination} {cause : StorageError}

theorem at?_put (dir : Directory) (location other : Location) (bytes : Bytes) :
    (dir.put location bytes).at? other =
      if other = location then some bytes else dir.at? other := by
  by_cases hsame : other = location
  · subst other
    rw [if_pos rfl, at?, put, List.lookup_cons_self]
  · rw [if_neg hsame, at?, at?, put, List.lookup_cons, beq_false_of_ne hsame]
    induction dir.files with
    | nil => rfl
    | cons file files ih =>
      obtain ⟨place, found⟩ := file
      by_cases hplace : place = location
      · subst place
        simpa [List.lookup_cons, beq_false_of_ne hsame] using ih
      · simp only [List.filter_cons, bne_iff_ne, ne_eq, hplace, not_false_eq_true, if_true,
          List.lookup_cons]
        split
        · rfl
        · exact ih

/-! #### Following a name -/

theorem followParts_congr {folder : Folder} {parts : List (List Char)}
    (h : dir.followParts folder parts = .ok destination) (dir' : Directory) :
    dir'.followParts folder parts = .ok destination := by
  fun_induction followParts dir folder parts with
  | case1 => exact h
  | case2 folder part parts hstays ih =>
    rw [followParts, if_pos hstays]
    exact ih h
  | case3 folder parts hstays ih =>
    rw [followParts, if_neg hstays, if_pos rfl]
    exact ih h
  | case4 folder part parts hstays hup hlast =>
    rw [followParts, if_neg hstays, if_neg hup, if_pos hlast]
    exact h
  -- Only where a name fails is it asked which files there are.
  | case5 => cases h
  | case6 => cases h
  | case7 => cases h

/-- A name that leads somewhere leads there whatever files there are.  Files are only asked for
where a part in the middle of a name is met, and there the name fails one way or the other. -/
theorem follow_congr (h : dir.follow name = .ok destination) (dir' : Directory) :
    dir'.follow name = .ok destination := by
  unfold follow at h ⊢
  dsimp only at h ⊢
  split at h
  · cases h
  · split at h
    · cases h
    · rw [if_neg (by assumption), if_neg (by assumption)]
      exact followParts_congr h dir'

/-- A name leads to a place where a file can be, whatever files there are. -/
def Reaches (name : String) (location : Location) : Prop :=
  empty.follow name = .ok (.file location false) ∧ octetCount location.name ≤ longestPart

theorem Reaches.unique {other : Location} (h : Reaches name location) (h' : Reaches name other) :
    location = other := by
  have hsame := h.1.symm.trans h'.1
  cases hsame
  rfl

/-- Two names that do not lead to one place. -/
def Apart (name other : String) : Prop :=
  ∀ location, Reaches name location → ¬ Reaches other location

/-! #### Reading and writing -/

/-- Reading succeeds exactly for names that lead to a place, and gives the file there.  The place is
found without the files, so that two states of the directory can be compared at it. -/
theorem read_eq_ok_iff :
    dir.read name = .ok bytes ↔
      ∃ location, Reaches name location ∧ dir.at? location = some bytes := by
  constructor
  · intro h
    unfold read at h
    split at h
    · cases h
    · cases h
    · rename_i location asFolder hfollow
      split at h
      · cases h
      · rename_i hshort
        split at h
        · cases h
        · rename_i found hfound
          cases asFolder with
          | true => cases h
          | false =>
            obtain rfl := Except.ok.inj h
            exact ⟨location, ⟨follow_congr hfollow _, Nat.le_of_not_lt hshort⟩, hfound⟩
  · rintro ⟨location, ⟨hfollow, hshort⟩, hfound⟩
    simp [read, follow_congr hfollow dir, Nat.not_lt.mpr hshort, hfound]

/-- Writing succeeds exactly for names that lead to a place, whether or not there is a file, and the
only change is to that place. -/
theorem write_eq_ok_iff :
    dir.write name bytes = .ok after ↔
      ∃ location, Reaches name location ∧ after = dir.put location bytes := by
  constructor
  · intro h
    unfold write at h
    split at h
    · cases h
    · cases h
    · rename_i location asFolder hfollow
      cases asFolder with
      | true => cases h
      | false =>
        rw [if_neg Bool.false_ne_true] at h
        split at h
        · cases h
        · rename_i hshort
          obtain rfl := Except.ok.inj h
          exact ⟨location, ⟨follow_congr hfollow _, Nat.le_of_not_lt hshort⟩, rfl⟩
  · rintro ⟨location, ⟨hfollow, hshort⟩, rfl⟩
    simp [write, follow_congr hfollow dir, Nat.not_lt.mpr hshort]

theorem contents_eq_some_iff :
    contents dir name = some bytes ↔
      ∃ location, Reaches name location ∧ dir.at? location = some bytes := by
  rw [← read_eq_ok_iff]
  change (dir.read name).toOption = some bytes ↔ dir.read name = .ok bytes
  cases dir.read name with
  | error cause => simp [Except.toOption]
  | ok found => simp [Except.toOption]

theorem Reaches.contents_eq (h : Reaches name location) (dir : Directory) :
    contents dir name = dir.at? location := by
  apply Option.ext
  intro bytes
  rw [contents_eq_some_iff]
  constructor
  · rintro ⟨place, hplace, hfound⟩
    rw [h.unique hplace, hfound]
  · intro hfound
    exact ⟨location, h, hfound⟩

theorem run_write (dir : Directory) (name : String) (bytes : Bytes) :
    (Files.write name bytes : DirectoryM _).run dir =
      match dir.write name bytes with
      | .ok after => (.ok (), after)
      | .error cause => (.error cause, dir) := by
  simp only [Files.write, StateT.run_bind, StateT.run_get, pure_bind]
  cases dir.write name bytes with
  | error cause => rfl
  | ok after => rfl

/-- The same of the operation in its monad: on success the state is the directory with one more
file, and a refusal leaves the state alone. -/
theorem run_write_eq_ok_iff :
    (Files.write name bytes : DirectoryM _).run dir = (.ok (), after) ↔
      ∃ location, Reaches name location ∧ after = dir.put location bytes := by
  rw [run_write, ← write_eq_ok_iff]
  cases dir.write name bytes with
  | error cause => constructor <;> intro h <;> cases h
  | ok found => constructor <;> intro h <;> cases h <;> rfl

theorem Reaches.run_write (h : Reaches name location) (dir : Directory) (bytes : Bytes) :
    (Files.write name bytes : DirectoryM _).run dir = (.ok (), dir.put location bytes) :=
  run_write_eq_ok_iff.mpr ⟨location, h, rfl⟩

/-- A file at one place is not seen under a name that leads to another.  Which place a name leads
to does not depend on the files, so this is a fact about places alone. -/
theorem contents_put_of_apart (hapart : Apart name other) (hreaches : Reaches other location)
    (dir : Directory) (bytes : Bytes) :
    contents (dir.put location bytes) name = contents dir name := by
  apply Option.ext
  intro found
  rw [contents_eq_some_iff, contents_eq_some_iff]
  apply exists_congr
  intro place
  apply and_congr_right
  intro hplace
  have hother : place ≠ location := by
    rintro rfl
    exact hapart place hplace hreaches
  rw [at?_put, if_neg hother]

instance : LawfulFiles Directory where
  Apart := Apart
  run_read name dir := rfl
  contents_write h := by
    obtain ⟨location, hreaches, rfl⟩ := run_write_eq_ok_iff.mp h
    rw [hreaches.contents_eq, at?_put, if_pos rfl]
  contents_apart hapart h := by
    obtain ⟨location, hreaches, rfl⟩ := run_write_eq_ok_iff.mp h
    exact contents_put_of_apart hapart hreaches _ _

/-- A name that leads to no place for a file is refused before the directory is touched; the cause
depends on the name and the files, and nothing rests on which one it is. -/
theorem exists_run_write_error (h : ¬ ∃ location, Reaches name location) (dir : Directory)
    (bytes : Bytes) :
    ∃ cause, (Files.write name bytes : DirectoryM _).run dir = (.error cause, dir) := by
  rw [run_write]
  cases hwrite : dir.write name bytes with
  | error cause => exact ⟨cause, rfl⟩
  | ok after =>
    obtain ⟨location, hreaches, -⟩ := write_eq_ok_iff.mp hwrite
    exact absurd ⟨location, hreaches⟩ h

/-- In memory there is always room, so whatever is opened is written in full. -/
theorem run_write_ne_error (h : ∃ location, Reaches name location) :
    (Files.write name bytes : DirectoryM _).run dir ≠ (.error cause, after) := by
  obtain ⟨location, hreaches⟩ := h
  rw [hreaches.run_write]
  intro herror
  cases herror

instance : SequentialFiles Directory where
  Opens name _ := ∃ location, Reaches name location
  run_write_unopened bytes h := exists_run_write_error h _ bytes
  beginning_of_cut h herror := absurd herror (run_write_ne_error h)
  contents_apart_of_cut _ h herror := absurd herror (run_write_ne_error h)

end Directory

end ClusterLicense
