/-
  WORDS and LINES of a text.

  A text is a list of symbols, some of which are blank.

  * `words` — the parts between runs of blanks: a word in front is read off (`words_word_append`), blanks
    at either end do not matter (`words_trim`).
  * `trim` — cut off the blanks at both ends.
  * `lines` — the parts between line ends, where a text that ends with one has no line after it:
    `lines_unlines`.
-/
import Mathlib.Data.List.Basic
import Mathlib.Data.List.TakeWhile

namespace Dtsys.Words

variable {α : Type}

/-! ## Words -/

/-- The parts between runs of blanks. -/
def words (blank : α → Bool) (l : List α) : List (List α) :=
  (l.splitOnP blank).filter fun w => !w.isEmpty

/-- Without the blanks at both ends. -/
def trim (blank : α → Bool) (l : List α) : List α :=
  ((l.dropWhile blank).reverse.dropWhile blank).reverse

variable {blank : α → Bool}

@[simp] theorem words_nil : words blank [] = [] := by simp [words]

/-- At a blank the words fall apart. -/
theorem words_append_cons {x : α} (hx : blank x = true) (a b : List α) :
    words blank (a ++ x :: b) = words blank a ++ words blank b := by
  rw [words, List.splitOnP_append_cons a b hx, List.filter_append]
  rfl

theorem words_cons {x : α} (hx : blank x = true) (l : List α) : words blank (x :: l) = words blank l := by
  rw [← List.nil_append (x :: l), words_append_cons hx, words_nil, List.nil_append]

theorem words_of_blank : ∀ {g : List α}, (∀ x ∈ g, blank x = true) → words blank g = [] := by
  intro g
  induction g with
  | nil => exact fun _ => words_nil
  | cons x g ih =>
    intro hg
    rw [words_cons (hg x List.mem_cons_self), ih fun y hy => hg y (List.mem_cons_of_mem x hy)]

/-- Nor do they add any in front of a text. -/
theorem words_blank_append {g : List α} (hg : ∀ x ∈ g, blank x = true) (l : List α) :
    words blank (g ++ l) = words blank l := by
  induction g with
  | nil => rfl
  | cons x g ih =>
    rw [List.cons_append, words_cons (hg x List.mem_cons_self), ih fun y hy => hg y (List.mem_cons_of_mem x hy)]

theorem words_append_blank {g : List α} (hg : ∀ x ∈ g, blank x = true) (l : List α) :
    words blank (l ++ g) = words blank l := by
  cases g with
  | nil => rw [List.append_nil]
  | cons x g =>
    rw [words_append_cons (hg x List.mem_cons_self),
      words_of_blank fun y hy => hg y (List.mem_cons_of_mem x hy), List.append_nil]

/-- Words in front of a blank, or of nothing, stay what they are. -/
theorem words_append {g : List α} (hg : ∀ x ∈ g.head?, blank x = true) (l : List α) :
    words blank (l ++ g) = words blank l ++ words blank g := by
  cases g with
  | nil => rw [List.append_nil, words_nil, List.append_nil]
  | cons x g =>
    have hx := hg x rfl
    rw [words_append_cons hx, words_cons hx]

/-- A text without blanks is one word. -/
theorem words_word {w : List α} (hw : ∀ x ∈ w, blank x = false) (hne : w ≠ []) : words blank w = [w] := by
  rw [words, List.splitOnP_eq_singleton hw]
  cases w with
  | nil => exact absurd rfl hne
  | cons x w => rfl

/-- **A word in front** of blanks is read off. -/
theorem words_word_append {w g : List α} (hw : ∀ x ∈ w, blank x = false) (hne : w ≠ [])
    (hg : ∀ x ∈ g.head?, blank x = true) : words blank (w ++ g) = w :: words blank g := by
  rw [words_append hg, words_word hw hne, List.singleton_append]

/-- A text that does not begin with a blank has a word. -/
theorem words_ne_nil {x : α} (hx : blank x = false) (l : List α) : words blank (x :: l) ≠ [] := by
  rw [words, List.splitOnP_cons_eq_if_modifyHead, if_neg (Bool.eq_false_iff.mp hx)]
  cases hl : l.splitOnP blank with
  | nil => exact absurd hl (List.splitOnP_ne_nil blank l)
  | cons w ws => exact List.cons_ne_nil _ _

/-! ## Trimming -/

theorem words_dropWhile (l : List α) : words blank (l.dropWhile blank) = words blank l := by
  conv => rhs; rw [← List.takeWhile_append_dropWhile (p := blank) (l := l)]
  exact (words_blank_append (fun x hx => List.mem_takeWhile_imp hx) _).symm

/-- A text is its trimmed end and blanks. -/
theorem words_dropWhile_reverse (l : List α) :
    words blank (l.reverse.dropWhile blank).reverse = words blank l := by
  have hl : l = (l.reverse.dropWhile blank).reverse ++ (l.reverse.takeWhile blank).reverse := by
    rw [← List.reverse_append, List.takeWhile_append_dropWhile, List.reverse_reverse]
  conv => rhs; rw [hl]
  exact (words_append_blank (fun x hx => List.mem_takeWhile_imp (List.mem_reverse.mp hx)) _).symm

/-- Blanks at the ends do not matter. -/
theorem words_trim (l : List α) : words blank (trim blank l) = words blank l :=
  (words_dropWhile_reverse _).trans (words_dropWhile l)

/-- What begins and ends without a blank survives in front. -/
theorem prefix_trim {w : List α} (hfirst : ∀ x ∈ w.head?, blank x = false)
    (hlast : ∀ x ∈ w.getLast?, blank x = false) (g : List α) : w <+: trim blank (w ++ g) := by
  have hkeep : ∀ {v : List α}, (∀ x ∈ v.head?, blank x = false) → v.dropWhile blank = v := by
    intro v hv
    cases v with
    | nil => rfl
    | cons x v => exact List.dropWhile_cons_of_neg (by simp [hv x rfl])
  have hback : w.reverse.dropWhile blank = w.reverse := by
    refine hkeep fun x hx => hlast x ?_
    rwa [List.head?_reverse] at hx
  cases w with
  | nil => exact List.nil_prefix
  | cons x w =>
    rw [trim, hkeep (v := x :: w ++ g) fun y hy => hfirst y hy, List.reverse_append, List.dropWhile_append]
    split
    · exact ⟨[], by rw [List.append_nil, hback, List.reverse_reverse]⟩
    · rw [List.reverse_append, List.reverse_reverse]
      exact List.prefix_append ..

/-- Blanks in front are trimmed. -/
theorem trim_blank_append {g : List α} (hg : ∀ x ∈ g, blank x = true) (l : List α) :
    trim blank (g ++ l) = trim blank l := by
  have hdrop : (g ++ l).dropWhile blank = l.dropWhile blank := by
    rw [List.dropWhile_append, List.dropWhile_eq_nil_iff.mpr hg]
    rfl
  rw [trim, hdrop, trim]

/-- Nothing is left of blanks alone. -/
theorem trim_eq_nil {l : List α} : trim blank l = [] ↔ ∀ x ∈ l, blank x = true := by
  rw [trim, List.reverse_eq_nil_iff, List.dropWhile_eq_nil_iff]
  constructor
  · intro h x hx
    rw [← List.takeWhile_append_dropWhile (p := blank) (l := l)] at hx
    rcases List.mem_append.mp hx with hx | hx
    · exact List.mem_takeWhile_imp hx
    · exact h x (List.mem_reverse.mpr hx)
  · exact fun h x hx => h x ((List.dropWhile_suffix _).subset (List.mem_reverse.mp hx))

theorem trim_append_blank {g : List α} (hg : ∀ x ∈ g, blank x = true) (l : List α) :
    trim blank (l ++ g) = trim blank l := by
  have hback : g.reverse.dropWhile blank = [] :=
    List.dropWhile_eq_nil_iff.mpr fun x hx => hg x (List.mem_reverse.mp hx)
  rw [trim, trim, List.dropWhile_append]
  split
  · have hl : l.dropWhile blank = [] := List.isEmpty_iff.mp ‹_›
    rw [List.dropWhile_eq_nil_iff.mpr hg, hl]
  · rw [List.reverse_append, List.dropWhile_append, hback]
    rfl

/-- Something in front that is no blank stays in front. -/
theorem head?_trim {x : α} (hx : blank x = false) (l : List α) : (trim blank (x :: l)).head? = some x := by
  have hfront : [x] <+: trim blank ([x] ++ l) := prefix_trim (by simpa using hx) (by simpa using hx) l
  obtain ⟨t, ht⟩ := hfront
  rw [List.singleton_append, List.singleton_append] at ht
  rw [← ht]
  rfl

/-! ## Lines -/

section

variable [DecidableEq α]

/-- The parts between line ends, without an empty last one. -/
def lines (nl : α) (l : List α) : List (List α) :=
  let parts := l.splitOn nl
  if parts.getLast? = some [] then parts.dropLast else parts

/-- The lines of a text of lines. -/
theorem splitOn_unlines {nl : α} {last : List α} (hlast : nl ∉ last) : ∀ {ls : List (List α)},
    (∀ l ∈ ls, nl ∉ l) → (ls.flatMap (· ++ [nl]) ++ last).splitOn nl = ls ++ [last] := by
  intro ls
  induction ls with
  | nil => exact fun _ => List.splitOn_eq_singleton hlast
  | cons l ls ih =>
    intro h
    rw [List.flatMap_cons, List.append_assoc, List.append_assoc, List.singleton_append,
      List.splitOn_append_cons_self_of_not_mem (h l List.mem_cons_self),
      ih fun k hk => h k (List.mem_cons_of_mem l hk),
      List.cons_append]

/-- **Lines that were ended are read back**, and a last one that was not. -/
theorem lines_unlines {nl : α} {ls : List (List α)} {last : List α} (hls : ∀ l ∈ ls, nl ∉ l)
    (hlast : nl ∉ last) :
    lines nl (ls.flatMap (· ++ [nl]) ++ last) = if last = [] then ls else ls ++ [last] := by
  rw [lines, splitOn_unlines hlast hls]
  simp

end

end Dtsys.Words
