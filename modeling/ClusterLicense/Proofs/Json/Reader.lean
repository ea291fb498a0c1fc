/-
  ClusterLicense/Proofs/Json/Reader.lean
  ======================================
  **How readers run on octets that are known.**

  A reader is a function on what is left of the input, so a reader that is made
  of steps runs by rewriting with the outcome of each step (`bind_run`).

  What a reader takes off the front is a language (`Recognizes`): it takes nothing
  else, and it takes each value of the language wherever it ends.  Only numbers look
  beyond their last octet, and after a value there is nothing, a blank, a comma or a
  closing bracket (`Delimited`); so no more than that has to be known of what comes
  next.
-/
import ClusterLicense.Proofs.Bytes.BigEndian
import ClusterLicense.Proofs.Json.Grammar
import ClusterLicense.Proofs.Outcome

namespace ClusterLicense.Json

variable {α β σ : Type}

namespace Reader

/-! ### Steps -/

theorem bind_run {reader : Reader α} {f : α → Reader β} {s rest : Bytes} {a : α}
    (h : reader s = .ok (a, rest)) : (reader >>= f) s = f a rest := by
  show (reader s >>= fun p => f p.1 p.2) = f a rest
  rw [h]
  rfl

theorem map_run {reader : Reader α} {g : α → β} {s rest : Bytes} {a : α}
    (h : reader s = .ok (a, rest)) : (g <$> reader) s = .ok (g a, rest) := by
  show (reader s >>= fun p => pure (g p.1, p.2)) = .ok (g a, rest)
  rw [h]
  rfl

/-- A reader made of two parts has read what the second gives on the octets that the first has left.
All statements about readers are composed along this. -/
theorem bind_eq_ok_iff {reader : Reader α} {f : α → Reader β} {s rest : Bytes} {b : β} :
    (reader >>= f) s = .ok (b, rest) ↔
      ∃ a mid, reader s = .ok (a, mid) ∧ f a mid = .ok (b, rest) := by
  show (reader s >>= fun p => f p.1 p.2) = .ok (b, rest) ↔ _
  rw [ClusterLicense.bind_eq_ok_iff, Prod.exists]

theorem map_eq_ok_iff {reader : Reader α} {g : α → β} {s rest : Bytes} {b : β} :
    (g <$> reader) s = .ok (b, rest) ↔ ∃ a, reader s = .ok (a, rest) ∧ g a = b := by
  rw [map_eq_pure_bind, bind_eq_ok_iff]
  constructor
  · rintro ⟨a, mid, hread, hpure⟩
    cases hpure
    exact ⟨a, hread, rfl⟩
  · rintro ⟨a, hread, rfl⟩
    exact ⟨a, rest, hread, rfl⟩

theorem pure_eq_ok_iff {a b : α} {s rest : Bytes} :
    (pure a : Reader α) s = .ok (b, rest) ↔ a = b ∧ s = rest := by
  show (Except.ok (a, s) : Except Fault (α × Bytes)) = .ok (b, rest) ↔ _
  rw [Except.ok.injEq, Prod.mk.injEq]

theorem peek_run (s : Bytes) : peek s = .ok (s.head?, s) := rfl

theorem advance_cons (b : UInt8) (s : Bytes) : advance (b :: s) = .ok ((), s) := rfl

theorem next_cons {b : UInt8} (h : isBlank b = false) (s : Bytes) :
    next (b :: s) = .ok (some b, b :: s) := by
  have hblanks : blanks (b :: s) = .ok ((), b :: s) := by
    rw [blanks, List.dropWhile_cons_of_neg (by rw [h]; exact Bool.false_ne_true)]
  exact bind_run hblanks

theorem blanks_append {w : Bytes} (hw : Blanks w) (s : Bytes) : blanks (w ++ s) = blanks s := by
  rw [blanks, List.dropWhile_append_of_pos hw]
  rfl

/-- What follows blanks is what a reader sees that looks for the next octet.  So statements about
such readers need not mention the blanks in front more than once. -/
theorem next_bind_eq_ok_iff {f : Option UInt8 → Reader β} {s rest : Bytes} {b : β} :
    (next >>= f) s = .ok (b, rest) ↔
      ∃ w mid, Blanks w ∧ (∀ c ∈ mid.head?, isBlank c = false) ∧ s = w ++ mid ∧
        f mid.head? mid = .ok (b, rest) := by
  constructor
  · intro h
    obtain ⟨x, mid, hnext, h⟩ := bind_eq_ok_iff.mp h
    obtain ⟨rfl, rfl⟩ := Prod.mk.inj (Except.ok.inj hnext)
    refine ⟨s.takeWhile isBlank, s.dropWhile isBlank, ?_, ?_, ?_, h⟩
    · exact List.all_eq_true.mp List.all_takeWhile
    · intro c hc
      have hfirst := List.head?_dropWhile_not isBlank s
      rw [hc] at hfirst
      exact hfirst
    · exact List.takeWhile_append_dropWhile.symm
  · rintro ⟨w, mid, hw, hmid, rfl, h⟩
    have hblanks : (w ++ mid).dropWhile isBlank = mid := by
      rw [List.dropWhile_append_of_pos hw]
      cases mid with
      | nil => rfl
      | cons c mid =>
        apply List.dropWhile_cons_of_neg
        rw [hmid c rfl]
        exact Bool.false_ne_true
    have hnext : next (w ++ mid) = .ok (mid.head?, mid) := by
      show Except.ok (((w ++ mid).dropWhile isBlank).head?, (w ++ mid).dropWhile isBlank) = _
      rw [hblanks]
    rw [bind_run hnext, h]

theorem next_bind_append {f : Option UInt8 → Reader β} {w : Bytes} (hw : Blanks w) (s : Bytes) :
    (next >>= f) (w ++ s) = (next >>= f) s := by
  have hnext : next (w ++ s) = next s := by
    show (blanks (w ++ s) >>= fun p => peek p.2) = (blanks s >>= fun p => peek p.2)
    rw [blanks_append hw]
  show (next (w ++ s) >>= fun p => f p.1 p.2) = (next s >>= fun p => f p.1 p.2)
  rw [hnext]

theorem next_bind_cons {f : Option UInt8 → Reader β} {b : UInt8} (h : isBlank b = false)
    (s : Bytes) : (next >>= f) (b :: s) = f (some b) (b :: s) :=
  bind_run (next_cons h s)

theorem skip?_self (b : UInt8) (s : Bytes) : skip? b (b :: s) = .ok (true, s) := by
  rw [skip?, bind_run (peek_run _), List.head?_cons, if_pos rfl, bind_run (advance_cons b s)]
  rfl

theorem skip?_of_head?_ne {b : UInt8} {s : Bytes} (h : s.head? ≠ some b) :
    skip? b s = .ok (false, s) := by
  rw [skip?, bind_run (peek_run _), if_neg h]
  rfl

/-- Octets that pass are taken up to the first that does not, and the end of the input counts as
one. -/
theorem takeWhile_run {p : UInt8 → Bool} {xs rest : Bytes} (hxs : ∀ b ∈ xs, p b = true)
    (hrest : ∀ b ∈ rest.head?, p b = false) :
    Reader.takeWhile p (xs ++ rest) = .ok (xs, rest) := by
  have hnone : rest.takeWhile p = [] ∧ rest.dropWhile p = rest := by
    cases rest with
    | nil => exact ⟨rfl, rfl⟩
    | cons b rest =>
      have hb : ¬ p b = true := by
        rw [hrest b rfl]
        exact Bool.false_ne_true
      exact ⟨List.takeWhile_cons_of_neg hb, List.dropWhile_cons_of_neg hb⟩
  rw [Reader.takeWhile, List.takeWhile_append_of_pos hxs, List.dropWhile_append_of_pos hxs,
    hnone.1, hnone.2, List.append_nil]

theorem skip?_eq_ok_iff {b : UInt8} {s rest : Bytes} {taken : Bool} :
    skip? b s = .ok (taken, rest) ↔
      taken = true ∧ s = b :: rest ∨ taken = false ∧ s = rest ∧ s.head? ≠ some b := by
  by_cases hhead : s.head? = some b
  · obtain ⟨s, rfl⟩ : ∃ t, s = b :: t := by
      cases s with
      | nil => cases hhead
      | cons c s => exact ⟨s, by rw [Option.some.inj hhead]⟩
    rw [skip?_self, Except.ok.injEq, Prod.mk.injEq]
    simp [eq_comm]
  · have hne : s ≠ b :: rest := by
      rintro rfl
      exact hhead rfl
    rw [skip?_of_head?_ne hhead, Except.ok.injEq, Prod.mk.injEq]
    simp [hne, hhead, eq_comm]

theorem takeWhile_sound {p : UInt8 → Bool} {s xs rest : Bytes}
    (h : Reader.takeWhile p s = .ok (xs, rest)) : (∀ b ∈ xs, p b = true) ∧ s = xs ++ rest := by
  obtain ⟨rfl, rfl⟩ := Prod.mk.inj (Except.ok.inj h)
  exact ⟨List.all_eq_true.mp List.all_takeWhile, List.takeWhile_append_dropWhile.symm⟩

/-! ### Whole inputs -/

theorem atEnd_eq_ok_iff {s rest : Bytes} : atEnd s = .ok ((), rest) ↔ Blanks s ∧ rest = [] := by
  rw [atEnd, next_bind_eq_ok_iff]
  constructor
  · rintro ⟨w, mid, hw, hmid, rfl, hend⟩
    cases mid with
    | nil =>
      obtain ⟨-, rfl⟩ := pure_eq_ok_iff.mp hend
      exact ⟨by rwa [List.append_nil], rfl⟩
    | cons b mid => cases hend
  · rintro ⟨hs, rfl⟩
    exact ⟨s, [], hs, by simp, (List.append_nil s).symm, rfl⟩

/-- A whole input is read if a reader takes a value off its front and leaves nothing but blanks. -/
theorem whole_eq_ok_iff {reader : Reader α} {s : Bytes} {a : α} :
    reader.whole s = .ok a ↔ ∃ rest, reader s = .ok (a, rest) ∧ Blanks rest := by
  have hwhole : reader.whole s = .ok a ↔
      ∃ rest, (reader >>= fun a => atEnd >>= fun _ => pure a) s = .ok (a, rest) := by
    unfold whole
    cases (reader >>= fun a => atEnd >>= fun _ => pure a) s with
    | error fault => simp
    | ok found => simp [Prod.ext_iff]
  rw [hwhole]
  constructor
  · rintro ⟨rest, hread⟩
    obtain ⟨found, mid, hfirst, hlast⟩ := bind_eq_ok_iff.mp hread
    obtain ⟨_, after, hend, hpure⟩ := bind_eq_ok_iff.mp hlast
    obtain ⟨rfl, rfl⟩ := pure_eq_ok_iff.mp hpure
    exact ⟨mid, hfirst, (atEnd_eq_ok_iff.mp hend).1⟩
  · rintro ⟨rest, hread, hrest⟩
    refine ⟨[], ?_⟩
    rw [bind_run hread, bind_run (atEnd_eq_ok_iff.mpr ⟨hrest, rfl⟩)]
    rfl

/-! ### Loops -/

/-- One turn of a loop.  The step has to leave a shorter rest, which is what the loop itself asks
for before it goes on. -/
theorem iterate_again {step : σ → Reader (σ ⊕ α)} {x y : σ} {s rest : Bytes}
    (h : step x s = .ok (.inl y, rest)) (hshorter : rest.length < s.length) :
    iterate step x s = iterate step y rest := by
  rw [iterate, h]
  simp only [if_pos hshorter]

theorem iterate_done {step : σ → Reader (σ ⊕ α)} {x : σ} {a : α} {s rest : Bytes}
    (h : step x s = .ok (.inr a, rest)) : iterate step x s = .ok (a, rest) := by
  rw [iterate, h]

end Reader

/-! ### What comes after a value -/

def isDelimiter (b : UInt8) : Bool := isBlank b || b = 44 || b = 93 || b = 125

/-- The octets are what may be left after a value. -/
def Delimited (rest : Bytes) : Prop := ∀ b ∈ rest.head?, isDelimiter b = true

theorem delimited_nil : Delimited [] := by
  intro b hb
  cases hb

theorem delimited_cons {b : UInt8} (h : isDelimiter b = true) (rest : Bytes) :
    Delimited (b :: rest) := by
  intro c hc
  cases hc
  exact h

theorem Delimited.head?_ne {rest : Bytes} (h : Delimited rest) {b : UInt8}
    (hb : isDelimiter b = false) : rest.head? ≠ some b := by
  intro hhead
  rw [h b hhead] at hb
  cases hb

/-! ### Languages -/

theorem Blanks.append {w u : Bytes} (hw : Blanks w) (hu : Blanks u) : Blanks (w ++ u) := by
  intro b hb
  rcases List.mem_append.mp hb with hb | hb
  · exact hw b hb
  · exact hu b hb

theorem blanks_nil : Blanks [] := by
  intro b hb
  cases hb

theorem blanks_singleton {b : UInt8} (h : isBlank b = true) : Blanks [b] :=
  List.forall_mem_singleton.mpr h

theorem Blanks.delimited {w : Bytes} (hw : Blanks w) {rest : Bytes} (hrest : Delimited rest) :
    Delimited (w ++ rest) := by
  cases w with
  | nil => exact hrest
  | cons b w =>
    apply delimited_cons
    rw [isDelimiter, hw b List.mem_cons_self]
    rfl

/-- The reader takes the values of a language off the front, with blanks before them.  It finds
nothing else, and it finds all of them that end where a value may end. -/
structure Recognizes (reader : Reader α) (language : α → Bytes → Prop) : Prop where
  isValue {a : α} {v : Bytes} (h : language a v) : IsValue v
  sound {a : α} {s rest : Bytes} (h : reader s = .ok (a, rest)) :
    ∃ w v, Blanks w ∧ language a v ∧ s = w ++ (v ++ rest)
  complete {a : α} {w v rest : Bytes} (hw : Blanks w) (h : language a v) (hrest : Delimited rest) :
    reader (w ++ (v ++ rest)) = .ok (a, rest)

namespace Recognizes

variable {reader : Reader α} {language : α → Bytes → Prop}

/-- Computing with what was read changes the language by the same function, so readers of a value
may be followed by a conversion. -/
theorem bind_pure (h : Recognizes reader language) (g : α → β) :
    Recognizes (reader >>= fun a => pure (g a)) fun b v => ∃ a, language a v ∧ g a = b where
  isValue := by
    rintro b v ⟨a, hv, -⟩
    exact h.isValue hv
  sound := by
    intro b s rest hread
    obtain ⟨a, mid, hfirst, hpure⟩ := Reader.bind_eq_ok_iff.mp hread
    obtain ⟨rfl, rfl⟩ := Reader.pure_eq_ok_iff.mp hpure
    obtain ⟨w, v, hw, hv, rfl⟩ := h.sound hfirst
    exact ⟨w, v, hw, ⟨a, hv, rfl⟩, rfl⟩
  complete := by
    rintro b w v rest hw ⟨a, hv, rfl⟩ hrest
    rw [Reader.bind_run (h.complete hw hv hrest)]
    rfl

/-- A whole input is one value of the language with blanks around it.  This is how reading a
document is stated from here on. -/
theorem whole_eq_ok_iff (h : Recognizes reader language) {s : Bytes} {a : α} :
    reader.whole s = .ok a ↔
      ∃ w v u, Blanks w ∧ language a v ∧ Blanks u ∧ s = w ++ (v ++ u) := by
  rw [Reader.whole_eq_ok_iff]
  constructor
  · rintro ⟨u, hread, hu⟩
    obtain ⟨w, v, hw, hv, rfl⟩ := h.sound hread
    exact ⟨w, v, u, hw, hv, hu, rfl⟩
  · rintro ⟨w, v, u, hw, hv, hu, rfl⟩
    have hrest := hu.delimited delimited_nil
    rw [List.append_nil] at hrest
    exact ⟨u, h.complete hw hv hrest, hu⟩

end Recognizes

end ClusterLicense.Json
