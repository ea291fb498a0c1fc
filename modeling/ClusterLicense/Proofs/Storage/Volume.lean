/-
  ClusterLicense/Proofs/Storage/Volume.lean
  =========================================
  **A disk that may be full**, and what is left of a file that did not fit.

  In memory a write succeeds or changes nothing.  A disk is different: opening a file
  empties it before anything is known about the room that is left, and the octets are
  then written for as long as there is some.  The laws of `SequentialFiles` hold here, and
  they say something: there are writes that end early (`contents_of_full`).
-/
import ClusterLicense.Proofs.Storage.Directory

namespace ClusterLicense

structure Volume where
  directory : Directory
  /-- How many octets all files together may have. -/
  room : Nat

namespace Volume

def free (room : Nat) (opened : Directory) : Nat :=
  room - (opened.files.flatMap (·.2)).length

/-- Opens a file, which empties it, and writes what there is room for. -/
def write (volume : Volume) (name : String) (bytes : Bytes) :
    Except StorageError Unit × Volume :=
  match volume.directory.write name [] with
  | .error cause => (.error cause, volume)
  | .ok opened =>
    let (outcome, sink) := (Sink.empty (some (free volume.room opened))).write bytes
    match opened.write name sink.written with
    | .error cause => (.error cause, { volume with directory := opened })
    | .ok directory => (outcome, { volume with directory := directory })

end Volume

instance : Files (StateM Volume) where
  read name := return (← get).directory.read name
  write name bytes := modifyGet fun volume => volume.write name bytes

namespace Volume

open Directory (Reaches Apart)

variable {volume after : Volume} {name other : String} {bytes found : Bytes}
  {location : Location} {cause : StorageError}

theorem contents_eq (volume : Volume) (name : String) :
    contents volume name = contents volume.directory name := rfl

def roomAt (volume : Volume) (location : Location) : Nat :=
  free volume.room (volume.directory.put location [])

/-- The disk once a file has been emptied and has taken what there was room for. -/
def fill (volume : Volume) (location : Location) (bytes : Bytes) : Volume :=
  { volume with
    directory := (volume.directory.put location []).put location
      (bytes.take (volume.roomAt location)) }

/-- Whether or not there is room for all of them, the octets that there is room for are written; the
outcome only tells the two apart.  Opening has emptied the file by then, so its former content does
not count against the room. -/
theorem run_write_of_reaches (h : Reaches name location) (volume : Volume) (bytes : Bytes) :
    (Files.write name bytes : StateM Volume _).run volume =
      (if bytes.length ≤ volume.roomAt location then .ok () else .error .full,
        volume.fill location bytes) := by
  have hput (dir : Directory) (bytes : Bytes) :
      dir.write name bytes = .ok (dir.put location bytes) :=
    Directory.write_eq_ok_iff.mpr ⟨location, h, rfl⟩
  change volume.write name bytes = _
  simp only [write, hput, Sink.write, Sink.empty, List.length_nil, Nat.sub_zero, List.nil_append]
  rfl

theorem exists_run_write_error (h : ¬ ∃ location, Reaches name location) (volume : Volume)
    (bytes : Bytes) :
    ∃ cause, (Files.write name bytes : StateM Volume _).run volume = (.error cause, volume) := by
  change ∃ cause, volume.write name bytes = (.error cause, volume)
  cases hopen : volume.directory.write name [] with
  | error cause => exact ⟨cause, by simp only [write, hopen]⟩
  | ok opened =>
    obtain ⟨location, hreaches, -⟩ := Directory.write_eq_ok_iff.mp hopen
    exact absurd ⟨location, hreaches⟩ h

theorem contents_fill (h : Reaches name location) (volume : Volume) (bytes : Bytes) :
    contents (volume.fill location bytes) name = some (bytes.take (volume.roomAt location)) := by
  rw [contents_eq, h.contents_eq, fill, Directory.at?_put, if_pos rfl]

/-- Both steps of a write, emptying and filling, put a file at the same place, so a name that leads
elsewhere sees neither. -/
theorem contents_fill_of_apart (hapart : Apart name other) (h : Reaches other location)
    (volume : Volume) (bytes : Bytes) :
    contents (volume.fill location bytes) name = contents volume name := by
  rw [contents_eq, contents_eq, fill, Directory.contents_put_of_apart hapart h,
    Directory.contents_put_of_apart hapart h]

theorem run_write_eq_ok
    (h : (Files.write name bytes : StateM Volume _).run volume = (.ok (), after)) :
    ∃ location, Reaches name location ∧ bytes.length ≤ volume.roomAt location ∧
      after = volume.fill location bytes := by
  by_cases hreaches : ∃ location, Reaches name location
  · obtain ⟨location, hreaches⟩ := hreaches
    rw [run_write_of_reaches hreaches, Prod.mk.injEq] at h
    obtain ⟨hfits, rfl⟩ := h
    by_cases hlength : bytes.length ≤ volume.roomAt location
    · exact ⟨location, hreaches, hlength, rfl⟩
    · rw [if_neg hlength] at hfits
      cases hfits
  · obtain ⟨cause, herror⟩ := exists_run_write_error hreaches volume bytes
    rw [herror] at h
    cases h

/-- What is left of a file that did not fit: as many octets as there was room for, which is fewer
than were to be written.  This is the interruption that `SequentialFiles` allows for. -/
theorem contents_of_full (hreaches : Reaches name location)
    (h : (Files.write name bytes : StateM Volume _).run volume = (.error cause, after)) :
    contents after name = some (bytes.take (volume.roomAt location)) ∧
      volume.roomAt location < bytes.length := by
  rw [run_write_of_reaches hreaches, Prod.mk.injEq] at h
  obtain ⟨hfull, rfl⟩ := h
  refine ⟨contents_fill hreaches volume bytes, ?_⟩
  by_cases hfits : bytes.length ≤ volume.roomAt location
  · rw [if_pos hfits] at hfull
    cases hfull
  · exact Nat.lt_of_not_le hfits

instance : LawfulFiles Volume where
  Apart := Apart
  run_read name volume := rfl
  contents_write h := by
    obtain ⟨location, hreaches, hfits, rfl⟩ := run_write_eq_ok h
    rw [contents_fill hreaches, List.take_of_length_le hfits]
  contents_apart hapart h := by
    obtain ⟨location, hreaches, -, rfl⟩ := run_write_eq_ok h
    exact contents_fill_of_apart hapart hreaches _ _

instance : SequentialFiles Volume where
  Opens name _ := ∃ location, Reaches name location
  run_write_unopened bytes h := exists_run_write_error h _ bytes
  beginning_of_cut {name bytes found volume after cause} h herror hfound := by
    obtain ⟨location, hreaches⟩ := h
    obtain ⟨hcontents, hroom⟩ := contents_of_full hreaches herror
    obtain rfl := Option.some.inj (hcontents.symm.trans hfound)
    refine ⟨List.take_prefix _ _, ?_⟩
    rw [List.length_take, Nat.min_eq_left (Nat.le_of_lt hroom)]
    exact hroom
  contents_apart_of_cut hapart h herror := by
    obtain ⟨location, hreaches⟩ := h
    rw [run_write_of_reaches hreaches, Prod.mk.injEq] at herror
    rw [← herror.2]
    exact contents_fill_of_apart hapart hreaches _ _

end Volume

end ClusterLicense
