/-
  ClusterLicense/Proofs/Cipher/Aes.lean
  =====================================
  **The block cipher is a bijection for every key.**

  Deciphering undoes enciphering because every layer of a round has its inverse
  beside it (`unround_round`, `lastUnround_lastRound`), and the inner rounds are
  undone from the last to the first (`foldr_unround_foldl_round`).  The round keys
  themselves do not matter: the argument holds for any schedule.

  The column mix is the only layer with algebra in it.  It is linear over exclusive
  or (`double_xor`), and a mixed and unmixed column differs from the column by
  multiples that cancel, one family for each place of the circulant matrix.  A turn
  of the column carries the first place to the others (`mix_turn`, `unmix_turn`).

  The opposite law needs no algebra: there are finitely many blocks, so a map with a
  left inverse is onto (`encipher_decipher`).
-/
import ClusterLicense.Cipher.Aes
import ClusterLicense.Proofs.Bytes.BigEndian
import Mathlib.Data.Finite.Prod

namespace ClusterLicense.Aes

/-! ### Substitution -/

/-- The inverse table undoes the substitution.  There are only 256 octets, and all are tried. -/
theorem restore_substitute (x : UInt8) : restore (substitute x) = x := by
  -- One pass over the table: each entry is looked up in the inverse table only.
  have table : ∀ entry ∈ substitutes.toList.zipIdx, restore entry.1 = UInt8.ofNat entry.2 := by
    decide +kernel
  have hlt : x.toNat < substitutes.toList.length := by simpa using x.toNat_lt
  have hentry : (substitute x, x.toNat) ∈ substitutes.toList.zipIdx := by
    rw [List.mk_mem_zipIdx_iff_getElem?, List.getElem?_eq_getElem hlt, Vector.getElem_toList]
    rfl
  simpa using table _ hentry

theorem Column.map_restore_substitute (x : Column) : (x.map substitute).map restore = x := by
  simp only [Column.map, restore_substitute]

theorem Block.map_restore_substitute (x : Block) : (x.map substitute).map restore = x := by
  simp only [Block.map, Column.map_restore_substitute]

/-! ### Row shift -/

theorem Block.unshiftRows_shiftRows (x : Block) : x.shiftRows.unshiftRows = x := rfl

/-! ### Round key -/

theorem xor_cancel_right (x k : UInt8) : x ^^^ k ^^^ k = x := by
  rw [UInt8.xor_assoc, UInt8.xor_self, UInt8.xor_zero]

theorem Column.add_add_cancel (x k : Column) : (x.add k).add k = x := by
  simp only [Column.add, xor_cancel_right]

theorem Block.add_add_cancel (x k : Block) : (x.add k).add k = x := by
  simp only [Block.add, Column.add_add_cancel]

/-! ### Column mix -/

theorem xor_left_comm (x y z : UInt8) : x ^^^ (y ^^^ z) = y ^^^ (x ^^^ z) := by
  rw [← UInt8.xor_assoc, UInt8.xor_comm x, UInt8.xor_assoc]

theorem xor_cancel_left (x y : UInt8) : x ^^^ (x ^^^ y) = y := by
  rw [← UInt8.xor_assoc, UInt8.xor_self, UInt8.zero_xor]

theorem double_eq (x : UInt8) :
    double x = (x <<< 1) ^^^ (if x.toBitVec.msb then 0x1B else 0) :=
  Bytes.forall_octet (p := fun x => double x = (x <<< 1) ^^^ (if x.toBitVec.msb then 0x1B else 0))
    (by decide +kernel) x

theorem double_xor (x y : UInt8) : double (x ^^^ y) = double x ^^^ double y := by
  rw [double_eq, double_eq, double_eq, UInt8.toBitVec_xor, BitVec.msb_xor, UInt8.shiftLeft_xor]
  cases x.toBitVec.msb <;> cases y.toBitVec.msb <;>
    simp [UInt8.xor_assoc, UInt8.xor_comm, xor_left_comm]

theorem times14_xor (x y : UInt8) : times14 (x ^^^ y) = times14 x ^^^ times14 y := by
  simp only [times14, double_xor]; ac_rfl

theorem times11_xor (x y : UInt8) : times11 (x ^^^ y) = times11 x ^^^ times11 y := by
  simp only [times11, double_xor]; ac_rfl

theorem times13_xor (x y : UInt8) : times13 (x ^^^ y) = times13 x ^^^ times13 y := by
  simp only [times13, double_xor]; ac_rfl

theorem times9_xor (x y : UInt8) : times9 (x ^^^ y) = times9 x ^^^ times9 y := by
  simp only [times9, double_xor]; ac_rfl

/-- What a column's own octet contributes to its place after mixing and unmixing.  Multiplying is
linear, so the four contributions add up, and only this one is left. -/
theorem unmix_mix_same (x : UInt8) :
    times14 (double x) ^^^ times11 x ^^^ times13 x ^^^ times9 (double x ^^^ x) = x := by
  simp only [times14, times11, times13, times9, double_xor, UInt8.xor_assoc]
  simp only [UInt8.xor_comm, xor_left_comm, xor_cancel_left, UInt8.xor_self, UInt8.xor_zero]

theorem unmix_mix_next (x : UInt8) :
    times14 (double x ^^^ x) ^^^ times11 (double x) ^^^ times13 x ^^^ times9 x = 0 := by
  simp only [times14, times11, times13, times9, double_xor, UInt8.xor_assoc]
  simp only [UInt8.xor_comm, xor_left_comm, xor_cancel_left, UInt8.xor_self]

theorem unmix_mix_opposite (x : UInt8) :
    times14 x ^^^ times11 (double x ^^^ x) ^^^ times13 (double x) ^^^ times9 x = 0 := by
  simp only [times14, times11, times13, times9, double_xor, UInt8.xor_assoc]
  simp only [UInt8.xor_comm, xor_left_comm, xor_cancel_left, UInt8.xor_self, UInt8.xor_zero]

theorem unmix_mix_previous (x : UInt8) :
    times14 x ^^^ times11 x ^^^ times13 (double x ^^^ x) ^^^ times9 (double x) = 0 := by
  simp only [times14, times11, times13, times9, double_xor, UInt8.xor_assoc]
  simp only [UInt8.xor_comm, xor_left_comm, xor_cancel_left, UInt8.xor_self]

theorem Column.unmix_mix_a (x : Column) : x.mix.unmix.a = x.a := by
  obtain ⟨a, b, c, d⟩ := x
  have regroup : (Column.mk a b c d).mix.unmix.a =
      (times14 (double a) ^^^ times11 a ^^^ times13 a ^^^ times9 (double a ^^^ a)) ^^^
      (times14 (double b ^^^ b) ^^^ times11 (double b) ^^^ times13 b ^^^ times9 b) ^^^
      (times14 c ^^^ times11 (double c ^^^ c) ^^^ times13 (double c) ^^^ times9 c) ^^^
      (times14 d ^^^ times11 d ^^^ times13 (double d ^^^ d) ^^^ times9 (double d)) := by
    simp only [Column.mix, Column.unmix, times14_xor, times11_xor, times13_xor, times9_xor]
    ac_rfl
  rw [regroup, unmix_mix_same, unmix_mix_next, unmix_mix_opposite, unmix_mix_previous]
  simp only [UInt8.xor_zero]

/-- The column with its octets one place further up. -/
def Column.turn (x : Column) : Column := ⟨x.b, x.c, x.d, x.a⟩

/-- Mixing treats all four places alike: a column that is turned is mixed to the mixed column
turned.  So it is enough to undo the mixing at one place. -/
theorem Column.mix_turn (x : Column) : x.turn.mix = x.mix.turn := by
  simp only [Column.turn, Column.mix, Column.mk.injEq]
  refine ⟨?_, ?_, ?_, ?_⟩ <;> ac_rfl

theorem Column.unmix_turn (x : Column) : x.turn.unmix = x.unmix.turn := by
  simp only [Column.turn, Column.unmix, Column.mk.injEq]
  refine ⟨?_, ?_, ?_, ?_⟩ <;> ac_rfl

theorem Column.unmix_mix_turn (x : Column) : x.turn.mix.unmix = x.mix.unmix.turn := by
  rw [Column.mix_turn, Column.unmix_turn]

/-- The multiplications of the inverse mixing undo those of the mixing.  By linearity each of the
four octets is followed on its own, and by turning the column one place stands for all. -/
theorem Column.unmix_mix (x : Column) : x.mix.unmix = x := by
  have ha := Column.unmix_mix_a x
  have hb := Column.unmix_mix_a x.turn
  have hc := Column.unmix_mix_a x.turn.turn
  have hd := Column.unmix_mix_a x.turn.turn.turn
  rw [Column.unmix_mix_turn] at hb hc hd
  rw [Column.unmix_mix_turn] at hc hd
  rw [Column.unmix_mix_turn] at hd
  have eta : x.mix.unmix =
      ⟨x.mix.unmix.a, x.mix.unmix.b, x.mix.unmix.c, x.mix.unmix.d⟩ := rfl
  rw [eta, ha, show x.mix.unmix.b = x.b from hb, show x.mix.unmix.c = x.c from hc,
    show x.mix.unmix.d = x.d from hd]

theorem Block.unmix_mix (x : Block) : x.mix.unmix = x := by
  simp only [Block.mix, Block.unmix, Column.unmix_mix]

/-! ### Rounds -/

/-- A round is undone step by step, in the opposite order: the round key, the mixing, the shift of
the rows, and the substitution. -/
theorem unround_round (x key : Block) : unround key (round x key) = x := by
  rw [unround, round, Block.add_add_cancel, Block.unmix_mix, Block.unshiftRows_shiftRows,
    Block.map_restore_substitute]

theorem lastUnround_lastRound (x key : Block) : lastUnround key (lastRound x key) = x := by
  rw [lastUnround, lastRound, Block.add_add_cancel, Block.unshiftRows_shiftRows,
    Block.map_restore_substitute]

/-- The rounds are undone from the last to the first; the induction is on the round keys. -/
theorem foldr_unround_foldl_round (keys : List Block) (x : Block) :
    keys.foldr unround (keys.foldl round x) = x := by
  induction keys generalizing x with
  | nil => rfl
  | cons key keys ih => rw [List.foldl_cons, List.foldr_cons, ih, unround_round]

/-- **Deciphering undoes enciphering**, whatever the round keys are.  Nothing about how round keys
are derived from a key is needed for this. -/
theorem Schedule.decipher_encipher (keys : Schedule) (x : Block) :
    keys.decipher (keys.encipher x) = x := by
  rw [Schedule.decipher, Schedule.encipher, lastUnround_lastRound, foldr_unround_foldl_round,
    Block.add_add_cancel]

instance : Finite Column :=
  Finite.of_injective (fun x : Column => (x.a.toFin, x.b.toFin, x.c.toFin, x.d.toFin)) <| by
    intro x y h
    simp only [Prod.mk.injEq, UInt8.toFin_inj] at h
    obtain ⟨ha, hb, hc, hd⟩ := h
    cases x; cases y; simp_all

instance : Finite Block :=
  Finite.of_injective (fun x : Block => (x.p, x.q, x.r, x.s)) <| by
    intro x y h
    simp only [Prod.mk.injEq] at h
    obtain ⟨hp, hq, hr, hs⟩ := h
    cases x; cases y; simp_all

/-- **Enciphering undoes deciphering**: on finitely many blocks, a map that can be undone
reaches every block. -/
theorem Schedule.encipher_decipher (keys : Schedule) (x : Block) :
    keys.encipher (keys.decipher x) = x := by
  have left : Function.LeftInverse keys.decipher keys.encipher := keys.decipher_encipher
  have onto : Function.Surjective keys.encipher := Finite.injective_iff_surjective.mp left.injective
  exact left.rightInverse_of_surjective onto x

theorem Schedule.map_decipher_encipher (keys : Schedule) (xs : List Block) :
    (xs.map keys.encipher).map keys.decipher = xs := by
  have hid : keys.decipher ∘ keys.encipher = id := funext keys.decipher_encipher
  rw [List.map_map, hid, List.map_id]

theorem Schedule.map_encipher_decipher (keys : Schedule) (xs : List Block) :
    (xs.map keys.decipher).map keys.encipher = xs := by
  have hid : keys.encipher ∘ keys.decipher = id := funext keys.encipher_decipher
  rw [List.map_map, hid, List.map_id]

end ClusterLicense.Aes
