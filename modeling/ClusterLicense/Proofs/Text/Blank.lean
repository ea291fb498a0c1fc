/-
  ClusterLicense/Proofs/Text/Blank.lean
  =====================================
  **Trimming takes away what surrounds a text, and nothing else.**

  Every text stands between blanks in what it is trimmed from (`eq_surrounded`); and
  a text without blanks is what is left of it wherever it stands between blanks
  (`trim_surrounded`).
-/
import ClusterLicense.Text.Blank
import Mathlib.Data.List.Basic

namespace ClusterLicense.Text

/-- A text with characters on both sides that do not belong to it. -/
structure Surrounds (front back : List Char) (inner outer : String) : Prop where
  front_blank : ∀ c ∈ front, isBlank c = true
  back_blank : ∀ c ∈ back, isBlank c = true
  outer_eq : outer.toList = front ++ (inner.toList ++ back)

theorem eq_surrounded (text : String) : ∃ front back, Surrounds front back (trim text) text := by
  have hblank (cs : List Char) : ∀ c ∈ cs.takeWhile isBlank, isBlank c = true :=
    List.all_eq_true.mp List.all_takeWhile
  have hstart : text.toList = text.toList.takeWhile isBlank ++ trimStart text.toList :=
    List.takeWhile_append_dropWhile.symm
  have hend (cs : List Char) : cs = trimEnd cs ++ (cs.reverse.takeWhile isBlank).reverse := by
    rw [trimEnd, ← List.reverse_append, List.takeWhile_append_dropWhile, List.reverse_reverse]
  refine ⟨text.toList.takeWhile isBlank,
    ((trimStart text.toList).reverse.takeWhile isBlank).reverse, hblank _, ?_, ?_⟩
  · intro c hc
    exact hblank _ c (List.mem_reverse.mp hc)
  · rw [trim, String.toList_ofList, ← hend]
    exact hstart

theorem dropWhile_of_not_blank {cs : List Char} (h : ∀ c ∈ cs, isBlank c = false) :
    cs.dropWhile isBlank = cs := by
  cases cs with
  | nil => rfl
  | cons c cs =>
    apply List.dropWhile_cons_of_neg
    rw [h c List.mem_cons_self]
    exact Bool.false_ne_true

/-- A text without blanks comes back from between blanks.  The converse of what trimming promises,
for texts that have no blanks of their own. -/
theorem trim_surrounded {front back : List Char} {inner outer : String}
    (h : Surrounds front back inner outer) (hinner : ∀ c ∈ inner.toList, isBlank c = false) :
    trim outer = inner := by
  have hend : trimEnd (inner.toList ++ back) = inner.toList := by
    have hback : ∀ c ∈ back.reverse, isBlank c = true := by
      intro c hc
      exact h.back_blank c (List.mem_reverse.mp hc)
    have hreverse : ∀ c ∈ inner.toList.reverse, isBlank c = false := by
      intro c hc
      exact hinner c (List.mem_reverse.mp hc)
    rw [trimEnd, List.reverse_append, List.dropWhile_append_of_pos hback,
      dropWhile_of_not_blank hreverse, List.reverse_reverse]
  have hstart : trimStart (inner.toList ++ back) = inner.toList ++ back ∨ inner.toList = [] := by
    cases hempty : inner.toList with
    | nil => exact .inr rfl
    | cons c cs =>
      left
      apply List.dropWhile_cons_of_neg
      rw [hinner c (hempty ▸ List.mem_cons_self)]
      exact Bool.false_ne_true
  rw [trim, h.outer_eq, trimStart, List.dropWhile_append_of_pos h.front_blank]
  rcases hstart with hstart | hempty
  · rw [trimStart] at hstart
    rw [hstart, hend, String.ofList_toList]
  · -- Nothing is left of an empty text, whichever side takes the blanks.
    have hback : back.dropWhile isBlank = [] := by
      rw [← List.append_nil back, List.dropWhile_append_of_pos h.back_blank]
      rfl
    rw [hempty, List.nil_append, hback, ← String.ofList_toList (s := inner), hempty]
    rfl

theorem trim_of_not_blank {text : String} (h : ∀ c ∈ text.toList, isBlank c = false) :
    trim text = text := by
  have hnone : ∀ c ∈ ([] : List Char), isBlank c = true := fun c hc => absurd hc List.not_mem_nil
  have halone : Surrounds [] [] text text :=
    ⟨hnone, hnone, by rw [List.nil_append, List.append_nil]⟩
  exact trim_surrounded halone h

end ClusterLicense.Text
