/-
  ClusterLicense/Proofs/Rsa/KeyFile.lean
  ======================================
  **What is left of a key in its two files**, for any place that keeps files.

  After a success both files hold what the halves are written as; only a public half whose
  modulus is too long for reading is not read back (`saved_pair_read_back`).

  Saving writes the public half before it is known whether the private half can be
  written, and nothing is taken back.  What a failure leaves is therefore said half by
  half (`failed_save_leaves`): a half that cannot be begun leaves everything as it was, and
  one whose writing ends early leaves a proper beginning in its own file.  For the private
  half, this comes on top of a public half that is there in full.
-/
import ClusterLicense.Proofs.Rsa.Encoding
import ClusterLicense.Proofs.Storage.Volume
import ClusterLicense.Rsa.KeyFile

namespace ClusterLicense.Rsa

variable {σ : Type} [LawfulFiles σ] {s after : σ} {key : PrivateKey}
  {publicName privateName : String} {bytes : Bytes} {e : CryptoError}

/-! ### Saving -/

section Half

variable {name : String} {half : Except CryptoError Bytes}

/-- A half is saved exactly if there are octets for it and these were written; nothing else is done
to the files. -/
theorem saveHalf_eq_ok_iff :
    (saveHalf name half : StateM σ _).run s = (.ok (), after) ↔
      ∃ bytes, half = .ok bytes ∧
        (Files.write name bytes : StateM σ _).run s = (.ok (), after) := by
  cases half with
  | error e =>
    constructor
    · intro h
      cases h
    · rintro ⟨_, h, -⟩
      cases h
  | ok bytes =>
    simp only [Except.ok.injEq, exists_eq_left', saveHalf, StateT.run_bind]
    rcases (Files.write name bytes : StateM σ _).run s with ⟨_ | ⟨⟨⟩⟩, between⟩
    · constructor <;> intro h <;> cases h
    · constructor <;> intro h <;> cases h <;> rfl

/-- A half is not saved for one of two reasons, and the error tells which: there are no octets for
it, in which case the files are not touched, or the write has failed. -/
theorem saveHalf_eq_error_iff :
    (saveHalf name half : StateM σ _).run s = (.error e, after) ↔
      half = .error e ∧ after = s ∨
      ∃ bytes cause, half = .ok bytes ∧ e = .io cause ∧
        (Files.write name bytes : StateM σ _).run s = (.error cause, after) := by
  cases half with
  | error e' =>
    simp only [Except.error.injEq, reduceCtorEq, false_and, exists_false, or_false]
    constructor <;> intro h
    · cases h
      exact ⟨rfl, rfl⟩
    · obtain ⟨rfl, rfl⟩ := h
      rfl
  | ok bytes =>
    simp only [reduceCtorEq, false_and, false_or, Except.ok.injEq, exists_and_left,
      exists_eq_left', saveHalf, StateT.run_bind]
    rcases (Files.write name bytes : StateM σ _).run s with ⟨cause | ⟨⟨⟩⟩, between⟩
    · constructor <;> intro h
      · cases h
        exact ⟨cause, rfl, rfl⟩
      · obtain ⟨_, rfl, h⟩ := h
        cases h
        rfl
    · constructor <;> intro h
      · cases h
      · obtain ⟨_, -, h⟩ := h
        cases h

end Half

theorem PrivateKey.save_eq_ok_iff :
    (key.save publicName privateName : StateM σ _).run s = (.ok (), after) ↔
      ∃ between,
        (saveHalf publicName key.publicKey.document : StateM σ _).run s = (.ok (), between) ∧
        (saveHalf privateName key.encode : StateM σ _).run between = (.ok (), after) := by
  simp only [save, StateT.run_bind]
  rcases (saveHalf publicName key.publicKey.document : StateM σ _).run s with ⟨_ | _, between⟩
  · constructor
    · intro h
      cases h
    · rintro ⟨_, h, -⟩
      cases h
  · constructor
    · intro h
      exact ⟨between, rfl, h⟩
    · rintro ⟨_, h, hprivate⟩
      cases h
      exact hprivate

/-- A save fails at its public half, or at its private half after the public one has been saved.
There is no way back from the second. -/
theorem PrivateKey.save_eq_error_iff :
    (key.save publicName privateName : StateM σ _).run s = (.error e, after) ↔
      (saveHalf publicName key.publicKey.document : StateM σ _).run s = (.error e, after) ∨
      ∃ between,
        (saveHalf publicName key.publicKey.document : StateM σ _).run s = (.ok (), between) ∧
        (saveHalf privateName key.encode : StateM σ _).run between = (.error e, after) := by
  simp only [save, StateT.run_bind]
  rcases (saveHalf publicName key.publicKey.document : StateM σ _).run s with ⟨_ | _, between⟩
  · constructor
    · exact .inl
    · rintro (h | ⟨_, h, -⟩)
      · exact h
      · cases h
  · constructor
    · intro h
      exact .inr ⟨between, rfl, h⟩
    · rintro (h | ⟨_, h, hprivate⟩)
      · cases h
      · cases h
        exact hprivate

theorem PrivateKey.private_contents_of_save
    (hsave : (key.save publicName privateName : StateM σ _).run s = (.ok (), after)) :
    ∃ bytes, key.encode = .ok bytes ∧ contents after privateName = some bytes := by
  obtain ⟨between, -, hprivate⟩ := save_eq_ok_iff.mp hsave
  obtain ⟨bytes, hencode, hwrite⟩ := saveHalf_eq_ok_iff.mp hprivate
  exact ⟨bytes, hencode, LawfulFiles.contents_write hwrite⟩

/-- After a success the public file holds the public half.  The private half is written later, so
this needs the two names to lead to different files. -/
theorem PrivateKey.public_contents_of_save (hapart : LawfulFiles.Apart σ publicName privateName)
    (hsave : (key.save publicName privateName : StateM σ _).run s = (.ok (), after)) :
    ∃ bytes, key.publicKey.document = .ok bytes ∧ contents after publicName = some bytes := by
  obtain ⟨between, hpublic, hprivate⟩ := save_eq_ok_iff.mp hsave
  obtain ⟨bytes, hdocument, hwrite⟩ := saveHalf_eq_ok_iff.mp hpublic
  obtain ⟨_, -, hprivate⟩ := saveHalf_eq_ok_iff.mp hprivate
  refine ⟨bytes, hdocument, ?_⟩
  rw [LawfulFiles.contents_apart hapart hprivate]
  exact LawfulFiles.contents_write hwrite

/-- In a directory, a key is saved if both names lead to places for files and both halves can
be written as octets. -/
theorem PrivateKey.exists_save_of_reaches (dir : Directory) {publicPlace privatePlace : Location}
    {publicBytes privateBytes : Bytes} (hpublicName : Directory.Reaches publicName publicPlace)
    (hprivateName : Directory.Reaches privateName privatePlace)
    (hdocument : key.publicKey.document = .ok publicBytes)
    (hencode : key.encode = .ok privateBytes) :
    ∃ after, (key.save publicName privateName : DirectoryM _).run dir = (.ok (), after) := by
  have hpublic := saveHalf_eq_ok_iff.mpr ⟨_, hdocument, hpublicName.run_write dir publicBytes⟩
  have hprivate := saveHalf_eq_ok_iff.mpr ⟨_, hencode,
    hprivateName.run_write (dir.put publicPlace publicBytes) privateBytes⟩
  exact ⟨_, save_eq_ok_iff.mpr ⟨_, hpublic, hprivate⟩⟩

/-! ### Loading -/

theorem run_loadHalf {α : Type} {decode : Bytes → Except CryptoError α} {name : String}
    (h : contents s name = some bytes) :
    (loadHalf decode name : StateM σ _).run s = (decode bytes, s) := by
  simp only [loadHalf, StateT.run_bind, run_read_of_contents h]
  rfl

/-- **Written key files read back as the same pair**, except that a public half with a modulus of
more than 4096 bits is refused.  The private file holds what the key is written as, which reads as
the key; so does the public file, since the private half was written to another one. -/
theorem saved_pair_read_back (hkey : PrivateKey.decode bytes = .ok key)
    (hapart : LawfulFiles.Apart σ publicName privateName)
    (hsave : (key.save publicName privateName : StateM σ _).run s = (.ok (), after)) :
    (PrivateKey.load privateName : StateM σ _).run after = (.ok key, after) ∧
      (PublicKey.load publicName : StateM σ _).run after =
        (if key.publicKey.modulus < 1 <<< largestModulusBits then .ok key.publicKey
          else .error (.keyEncoding "not a public key"), after) := by
  have hvalid := PrivateKey.isValid_of_decode hkey
  obtain ⟨privateBytes, hencode, hprivate⟩ := PrivateKey.private_contents_of_save hsave
  obtain ⟨publicBytes, hdocument, hpublic⟩ := PrivateKey.public_contents_of_save hapart hsave
  constructor
  · rw [PrivateKey.load, run_loadHalf hprivate, PrivateKey.decode_encode hvalid hencode]
  · rw [PublicKey.load, run_loadHalf hpublic, PublicKey.decode_document hdocument]
    simp only [hvalid.1, true_and]

theorem reaches_public : Directory.Reaches "public" ⟨.above 0, "public".toList⟩ :=
  ⟨rfl, by decide⟩

theorem reaches_private : Directory.Reaches "private" ⟨.above 0, "private".toList⟩ :=
  ⟨rfl, by decide⟩

theorem apart_public_private : Directory.Apart "public" "private" := by
  intro location hpublic hprivate
  have hsame := (reaches_public.unique hpublic).trans (hprivate.unique reaches_private)
  revert hsame
  decide

theorem saved_pair_read_back_smallKey :
    ∃ after, (smallKey.save "public" "private" : DirectoryM _).run .empty = (.ok (), after) ∧
      (PrivateKey.load "private" : DirectoryM _).run after = (.ok smallKey, after) ∧
      (PublicKey.load "public" : DirectoryM _).run after = (.ok smallKey.publicKey, after) := by
  have hdocument := (PublicKey.decode_eq_ok_iff.mp decode_smallPublicFile).2
  obtain ⟨after, hsave⟩ :=
    PrivateKey.exists_save_of_reaches .empty reaches_public reaches_private hdocument
      smallKey_encode
  obtain ⟨hprivate, hpublic⟩ :=
    saved_pair_read_back decode_foreignPrivateFile apart_public_private hsave
  exact ⟨after, hsave, hprivate, hpublic⟩

/-- A key whose modulus has 4098 bits, and whose second factor is 3. -/
def largeKey : PrivateKey :=
  ⟨⟨3 * (2 ^ 4096 + 1), 3⟩, (2 ^ 4097 + 1) / 3, 2 ^ 4096 + 1, 3⟩

theorem largeKey_isValid : largeKey.IsValid := by
  decide +kernel

/-- Its coefficient is the inverse of the second factor 3 modulo the first, which is `(2 ^ 4096 + 2)
/ 3`. -/
theorem largeKey_encode : ∃ bytes, largeKey.encode = .ok bytes := by
  have hcoefficient : largeKey.coefficient? = some ((2 ^ 4096 + 2) / 3) := by
    apply (PrivateKey.coefficient?_eq_some_iff largeKey_isValid).mpr
    decide +kernel
  have hshort : (largeKey.wrap ((2 ^ 4096 + 2) / 3)).length ≤ largestDocument := by decide +kernel
  exact ⟨_, PrivateKey.encode_eq_ok_iff.mpr ⟨_, hcoefficient, hshort, rfl⟩⟩

def PrivateKey.SavedUnread (key : PrivateKey) (publicName privateName : String) : Prop :=
  ∃ after, (key.save publicName privateName : DirectoryM _).run .empty = (.ok (), after) ∧
    ∀ found, (PublicKey.load publicName : DirectoryM _).run after ≠ (.ok found, after)

theorem largeKey_unread (hencode : largeKey.encode = .ok bytes) :
    largeKey.SavedUnread "public" "private" := by
  have hshort : largeKey.publicKey.encode.length ≤ largestDocument := by decide +kernel
  have hdocument := PublicKey.document_eq_ok_iff.mpr ⟨hshort, rfl⟩
  obtain ⟨after, hsave⟩ :=
    PrivateKey.exists_save_of_reaches .empty reaches_public reaches_private hdocument hencode
  refine ⟨after, hsave, ?_⟩
  intro found hload
  obtain ⟨publicBytes, hpublic, hcontents⟩ :=
    PrivateKey.public_contents_of_save apart_public_private hsave
  rw [PublicKey.load, run_loadHalf hcontents, PublicKey.decode_document hpublic,
    if_neg (by decide +kernel)] at hload
  cases hload

/-- Two names that differ may lead to one file, which then holds the private half. -/
theorem smallKey_unread : smallKey.SavedUnread "key" "./key" := by
  have hpublic : Directory.Reaches "key" ⟨.above 0, "key".toList⟩ := ⟨rfl, by decide⟩
  have hprivate : Directory.Reaches "./key" ⟨.above 0, "key".toList⟩ := ⟨rfl, by decide⟩
  have hdocument := (PublicKey.decode_eq_ok_iff.mp decode_smallPublicFile).2
  obtain ⟨after, hsave⟩ :=
    PrivateKey.exists_save_of_reaches .empty hpublic hprivate hdocument smallKey_encode
  refine ⟨after, hsave, ?_⟩
  intro found hload
  obtain ⟨bytes, hencode, hcontents⟩ := PrivateKey.private_contents_of_save hsave
  rw [smallKey_encode] at hencode
  cases hencode
  rw [hprivate.contents_eq, ← hpublic.contents_eq] at hcontents
  rw [PublicKey.load, run_loadHalf hcontents] at hload
  have hrefused : PublicKey.decode (smallKey.wrap 2) = .error (.keyEncoding "not a public key") := by
    decide +kernel
  rw [hrefused] at hload
  cases hload

/-- A public half is not read back if its modulus has more than 4096 bits, and not if both names
lead to one file either. -/
theorem saved_public_halves_unread :
    (∃ bytes, PrivateKey.decode bytes = .ok largeKey) ∧ largeKey.SavedUnread "public" "private" ∧
      (∃ bytes, PrivateKey.decode bytes = .ok smallKey) ∧ smallKey.SavedUnread "key" "./key" := by
  obtain ⟨bytes, hencode⟩ := largeKey_encode
  exact ⟨⟨bytes, PrivateKey.decode_encode largeKey_isValid hencode⟩, largeKey_unread hencode,
    ⟨_, decode_foreignPrivateFile⟩, smallKey_unread⟩

/-! ### What a failure leaves -/

section Failure

variable {σ : Type} [SequentialFiles σ] {s after : σ}

/-- Writing to a file has ended early.  The file, if it can be read, holds a proper beginning of
what was to be written, and the files under other names are as they were. -/
structure CutShort (s after : σ) (name : String) (bytes : Bytes) : Prop where
  beginning : ∀ found, contents after name = some found →
    found <+: bytes ∧ found.length < bytes.length
  others : ∀ other, LawfulFiles.Apart σ other name → contents after other = contents s other

/-- What a half leaves that could not be saved. -/
inductive HalfFailed (s after : σ) (name : String) (half : Except CryptoError Bytes) : Prop where
  /-- There are no octets for it, or its file cannot be opened, and nothing has changed. -/
  | unbegun (hsame : after = s)
      (hcannot : ∀ bytes, half = .ok bytes → ¬ SequentialFiles.Opens name s)
  | cutShort (bytes : Bytes) (hhalf : half = .ok bytes) (hopens : SequentialFiles.Opens name s)
      (hcut : CutShort s after name bytes)

theorem HalfFailed.contents_apart {name other : String} {half : Except CryptoError Bytes}
    (h : HalfFailed s after name half) (hapart : LawfulFiles.Apart σ other name) :
    contents after other = contents s other := by
  cases h with
  | unbegun hsame => rw [hsame]
  | cutShort bytes _ _ hcut => exact hcut.others other hapart

/-- The file is opened before anything is written, so what a failure leaves depends on whether it
could be.  A file that cannot be opened is refused as it stands; in one that was opened, the octets
stand up to where writing stopped. -/
theorem halfFailed_of_saveHalf {name : String} {half : Except CryptoError Bytes}
    (h : (saveHalf name half : StateM σ _).run s = (.error e, after)) :
    HalfFailed s after name half := by
  rcases saveHalf_eq_error_iff.mp h with ⟨rfl, rfl⟩ | ⟨bytes, cause, rfl, -, hwrite⟩
  · exact .unbegun rfl fun bytes hbytes => by cases hbytes
  by_cases hopens : SequentialFiles.Opens name s
  · refine .cutShort bytes rfl hopens ⟨?_, ?_⟩
    · intro found hfound
      exact SequentialFiles.beginning_of_cut hopens hwrite hfound
    · intro other hapart
      exact SequentialFiles.contents_apart_of_cut hapart hopens hwrite
  · obtain ⟨_, hrefused⟩ := SequentialFiles.run_write_unopened bytes hopens
    have hsame : after = s := (Prod.mk.inj (hwrite.symm.trans hrefused)).2
    refine .unbegun hsame ?_
    intro found hfound
    cases hfound
    exact hopens

/-- A half is in its file in full, and the files under other names are as they were. -/
structure HalfSaved (s after : σ) (name : String) (half : Except CryptoError Bytes) : Prop where
  whole : ∃ bytes, half = .ok bytes ∧ contents after name = some bytes
  others : ∀ other, LawfulFiles.Apart σ other name → contents after other = contents s other

/-- A half that was saved reads back in full, by the promise that a file reads back as last written,
and was written to its own file only. -/
theorem halfSaved_of_saveHalf {name : String} {half : Except CryptoError Bytes}
    (h : (saveHalf name half : StateM σ _).run s = (.ok (), after)) :
    HalfSaved s after name half := by
  obtain ⟨bytes, hhalf, hwrite⟩ := saveHalf_eq_ok_iff.mp h
  exact ⟨⟨bytes, hhalf, LawfulFiles.contents_write hwrite⟩,
    fun _ hapart => LawfulFiles.contents_apart hapart hwrite⟩

/-- What is left of a key, and of the files that were there, when the two halves could not both
be saved. -/
structure SaveFailed (s after : σ) (key : PrivateKey) (publicName privateName : String) :
    Prop where
  /-- Files that neither name leads to are as they were. -/
  others : ∀ name, LawfulFiles.Apart σ name publicName → LawfulFiles.Apart σ name privateName →
    contents after name = contents s name
  /-- Either the public half failed, or it was saved and then the private half failed, which
  leaves a public half in another file as it is. -/
  halves : HalfFailed s after publicName key.publicKey.document ∨
    ∃ between, HalfSaved s between publicName key.publicKey.document ∧
      HalfFailed between after privateName key.encode ∧
      (LawfulFiles.Apart σ publicName privateName →
        contents after publicName = contents between publicName)

/-- **What a failed save leaves.**  The public half comes first and is not taken back, so it is
there in full if the private half is what failed.  A half that failed has changed nothing if
there are no octets for it or its file cannot be opened; if writing ended early, its file holds
a proper beginning of it.  So the private file is never replaced in full by a save that fails,
and it changes only if the place that keeps the files gave up in the middle of it. -/
theorem failed_save_leaves
    (hsave : (key.save publicName privateName : StateM σ _).run s = (.error e, after)) :
    SaveFailed s after key publicName privateName := by
  rcases PrivateKey.save_eq_error_iff.mp hsave with hpublic | ⟨between, hpublic, hprivate⟩
  · have hfailed := halfFailed_of_saveHalf hpublic
    exact ⟨fun name hapart _ => hfailed.contents_apart hapart, .inl hfailed⟩
  · have hsaved := halfSaved_of_saveHalf hpublic
    have hfailed := halfFailed_of_saveHalf hprivate
    refine ⟨?_, .inr ⟨between, hsaved, hfailed, hfailed.contents_apart⟩⟩
    intro name hpublicApart hprivateApart
    exact (hfailed.contents_apart hprivateApart).trans (hsaved.others name hpublicApart)

end Failure

def publicOnly (bytes : Bytes) : Directory := Directory.empty.put ⟨.above 0, "public".toList⟩ bytes

theorem contents_publicOnly_ne (bytes : Bytes) :
    contents (publicOnly bytes) "public" ≠ contents Directory.empty "public" := by
  rw [publicOnly, LawfulFiles.contents_write (reaches_public.run_write .empty bytes)]
  exact Option.some_ne_none bytes

theorem PrivateKey.save_eq_publicOnly (hdocument : key.publicKey.document = .ok bytes)
    (hprivate : (saveHalf privateName key.encode : DirectoryM _).run (publicOnly bytes) =
      (.error e, publicOnly bytes)) :
    (key.save "public" privateName : DirectoryM _).run .empty = (.error e, publicOnly bytes) := by
  have hpublic := saveHalf_eq_ok_iff.mpr ⟨_, hdocument, reaches_public.run_write .empty bytes⟩
  exact save_eq_error_iff.mpr (.inr ⟨_, hpublic, hprivate⟩)

/-- The directory of the private file does not exist, and by the time this turns out the public file
is there. -/
theorem save_smallKey_nowhere :
    (smallKey.save "public" "nowhere/private" : DirectoryM _).run .empty =
      (.error (.io .missing), publicOnly smallPublicFile) := by
  apply PrivateKey.save_eq_publicOnly (PublicKey.decode_eq_ok_iff.mp decode_smallPublicFile).2
  rw [smallKey_encode]
  rfl

/-- A disk on which the public half of the small key fits, and twelve octets more. -/
def smallVolume : Volume := ⟨.empty, 40⟩

/-- The private half does not fit, and a part of it is left.  Its file had been opened, and hence
emptied, before the room ran out. -/
theorem save_smallKey_full :
    ∃ after, (smallKey.save "public" "private" : StateM Volume _).run smallVolume =
        (.error (.io .full), after) ∧
      contents after "public" = some smallPublicFile ∧
      contents after "private" = some ((smallKey.wrap 2).take 12) := by
  have hdocument := (PublicKey.decode_eq_ok_iff.mp decode_smallPublicFile).2
  have hpublic := Volume.run_write_of_reaches reaches_public smallVolume smallPublicFile
  generalize hbetween : smallVolume.fill _ smallPublicFile = between at hpublic
  have hprivate := Volume.run_write_of_reaches reaches_private between (smallKey.wrap 2)
  have hroom : between.roomAt ⟨.above 0, "private".toList⟩ = 12 := by
    rw [← hbetween]
    decide +kernel
  rw [if_pos (by decide +kernel)] at hpublic
  rw [hroom, if_neg (by decide +kernel)] at hprivate
  have hsave := PrivateKey.save_eq_error_iff.mpr
    (.inr ⟨between, saveHalf_eq_ok_iff.mpr ⟨_, hdocument, hpublic⟩,
      saveHalf_eq_error_iff.mpr (.inr ⟨_, _, smallKey_encode, rfl, hprivate⟩)⟩)
  refine ⟨_, hsave, ?_, ?_⟩
  · rw [Volume.contents_fill_of_apart apart_public_private reaches_private, ← hbetween,
      Volume.contents_fill reaches_public]
    decide +kernel
  · rw [Volume.contents_fill reaches_private, hroom]

theorem failed_save_leaves_smallKey :
    (∃ after, (smallKey.save "public" "nowhere/private" : DirectoryM _).run .empty =
        (.error (.io .missing), after) ∧
      SaveFailed Directory.empty after smallKey "public" "nowhere/private") ∧
      ∃ after, (smallKey.save "public" "private" : StateM Volume _).run smallVolume =
          (.error (.io .full), after) ∧
        SaveFailed smallVolume after smallKey "public" "private" := by
  obtain ⟨after, hsave, -, -⟩ := save_smallKey_full
  exact ⟨⟨_, save_smallKey_nowhere, failed_save_leaves save_smallKey_nowhere⟩,
    after, hsave, failed_save_leaves hsave⟩

/-- A key whose factors are the same, so that it can be read but not written. -/
def squareKey : PrivateKey := ⟨⟨9, 3⟩, 1, 3, 3⟩

/-- A key with equal factors passes the checks of reading, which do not ask for different ones, and
has no coefficient, so that writing refuses it after the public half has been saved. -/
theorem save_squareKey :
    ∃ e bytes, (squareKey.save "public" "private" : DirectoryM _).run .empty =
      (.error e, publicOnly bytes) := by
  have hshort : squareKey.publicKey.encode.length ≤ largestDocument := by decide +kernel
  have hdocument := PublicKey.document_eq_ok_iff.mpr ⟨hshort, rfl⟩
  cases hencode : squareKey.encode with
  | error e =>
    refine ⟨e, _, PrivateKey.save_eq_publicOnly hdocument ?_⟩
    rw [hencode]
    rfl
  | ok bytes =>
    exact absurd (PrivateKey.coprime_of_encode hencode) (by decide)

/-- The private name may lead nowhere, and a key that was read may be one that cannot be
written; either way a public file is left that was not there.  Where the disk is full, a part of
the private half is left as well. -/
theorem failed_saves_leave_public_half :
    (∃ e after, (smallKey.save "public" "nowhere/private" : DirectoryM _).run .empty =
        (.error e, after) ∧ contents after "public" ≠ contents Directory.empty "public") ∧
      (∃ bytes, PrivateKey.decode bytes = .ok squareKey) ∧
      (∃ e after, (squareKey.save "public" "private" : DirectoryM _).run .empty =
        (.error e, after) ∧ contents after "public" ≠ contents Directory.empty "public") ∧
      ∃ e after, (smallKey.save "public" "private" : StateM Volume _).run smallVolume =
        (.error e, after) ∧ contents after "private" ≠ contents smallVolume "private" := by
  have hread : PrivateKey.decode (squareKey.wrap 1) = .ok squareKey := by
    decide +kernel
  obtain ⟨e, bytes, hsave⟩ := save_squareKey
  obtain ⟨full, hfull, -, hprivate⟩ := save_smallKey_full
  refine ⟨⟨_, _, save_smallKey_nowhere, contents_publicOnly_ne _⟩, ⟨_, hread⟩,
    ⟨e, _, hsave, contents_publicOnly_ne bytes⟩, _, full, hfull, ?_⟩
  rw [hprivate]
  exact Option.some_ne_none _

end ClusterLicense.Rsa
