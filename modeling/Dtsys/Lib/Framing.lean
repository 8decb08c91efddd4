/-
  FRAMES between separators, read in pieces.

  A stream is cut at a separator, a list of one or more symbols; a reader gets it in pieces that end
  anywhere, keeps what comes after the last separator, and cuts that together with the next piece.

  * `splitOn` — cut a list at every occurrence of the separator, from the left and without overlaps;
  * `splitOn_append` — what has been cut stays cut: only the part after the last separator meets the next
    piece;
  * `feed_chunks` — so the pieces do not matter;
  * `splitOn_frames` — frames that do not contain the first symbol of the separator are read back.
-/
import Mathlib.Data.List.Basic

namespace Dtsys.Framing

variable {α : Type}

/-! ## Cutting -/

/-- One more symbol in front of the first part. -/
def consHead (x : α) : List (List α) → List (List α)
  | [] => [[x]]
  | p :: ps => (x :: p) :: ps

theorem consHead_ne_nil (x : α) (ps : List (List α)) : consHead x ps ≠ [] := by
  cases ps with
  | nil => exact List.cons_ne_nil _ _
  | cons p ps => exact List.cons_ne_nil _ _

/-- A symbol that is not the first of the separator. -/
theorem not_prefix_cons {a x : α} {sep l : List α} (hx : a ≠ x) : ¬ a :: sep <+: x :: l :=
  fun hprefix => hx (List.cons_prefix_cons.mp hprefix).1

variable [DecidableEq α]

/-- Cut after the next `skip` symbols, the rest of a separator, have been passed over. -/
def splitFrom (sep : List α) : Nat → List α → List (List α)
  | _, [] => [[]]
  | skip + 1, _ :: l => splitFrom sep skip l
  | 0, x :: l =>
    if sep.isPrefixOf (x :: l) then [] :: splitFrom sep (sep.length - 1) l
    else consHead x (splitFrom sep 0 l)

/-- Cut a list at every occurrence of the separator. -/
def splitOn (sep l : List α) : List (List α) := splitFrom sep 0 l

variable {sep : List α}

@[simp] theorem splitOn_nil : splitOn sep [] = [[]] := rfl

/-- What has been cut off is skipped. -/
theorem splitFrom_skip (l : List α) : ∀ k : List α, splitFrom sep k.length (k ++ l) = splitOn sep l := by
  intro k
  induction k with
  | nil => rfl
  | cons x k ih => exact ih

/-- At a separator. -/
theorem splitOn_sep (hsep : sep ≠ []) (l : List α) : splitOn sep (sep ++ l) = [] :: splitOn sep l := by
  cases sep with
  | nil => exact absurd rfl hsep
  | cons a sep =>
    have hprefix : (a :: sep).isPrefixOf (a :: (sep ++ l)) = true :=
      List.isPrefixOf_iff_prefix.mpr (List.prefix_append ..)
    refine (if_pos hprefix).trans ?_
    exact congrArg _ (splitFrom_skip l sep)

/-- Before one. -/
theorem splitOn_cons {x : α} {l : List α} (h : ¬ sep <+: x :: l) :
    splitOn sep (x :: l) = consHead x (splitOn sep l) :=
  if_neg fun hprefix => h (List.isPrefixOf_iff_prefix.mp hprefix)

theorem splitFrom_ne_nil : ∀ (l : List α) (skip : Nat), splitFrom sep skip l ≠ [] := by
  intro l
  induction l with
  | nil => exact fun _ => List.cons_ne_nil _ _
  | cons x l ih =>
    intro skip
    cases skip with
    | succ skip => exact ih skip
    | zero =>
      rw [splitFrom]
      split
      · exact List.cons_ne_nil _ _
      · exact consHead_ne_nil x _

/-- There is a last part, which may be empty. -/
theorem splitOn_ne_nil (l : List α) : splitOn sep l ≠ [] := splitFrom_ne_nil l 0

/-! ## Complete frames, and the rest -/

/-- The parts that a separator ends. -/
def frames (sep l : List α) : List (List α) := (splitOn sep l).dropLast

/-- The part after the last separator. -/
def rest (sep l : List α) : List α := (splitOn sep l).getLast?.getD []

/-- The parts, and what is left behind the last separator. -/
theorem splitOn_eq (l : List α) : splitOn sep l = frames sep l ++ [rest sep l] := by
  rw [frames, rest, List.getLast?_eq_getLast_of_ne_nil (splitOn_ne_nil l)]
  exact (List.dropLast_append_getLast (splitOn_ne_nil l)).symm

/-- The last part is the rest. -/
theorem cut_of_eq {l r : List α} {ps : List (List α)} (h : splitOn sep l = ps ++ [r]) :
    frames sep l = ps ∧ rest sep l = r := by
  rw [frames, rest, h]
  simp

/-- A text without a separator has no part that is ended. -/
theorem rest_of_single {l r : List α} (h : splitOn sep l = [r]) : frames sep l = [] ∧ rest sep l = r :=
  cut_of_eq h

/-- A list in one part. -/
theorem eq_of_single (hsep : sep ≠ []) : ∀ {l r : List α}, splitOn sep l = [r] → r = l := by
  intro l
  induction l with
  | nil =>
    intro r h
    exact (List.cons.inj h).1.symm
  | cons x l ih =>
    intro r h
    by_cases hprefix : sep <+: x :: l
    · obtain ⟨k, hk⟩ := hprefix
      rw [← hk, splitOn_sep hsep] at h
      exact absurd (List.cons.inj h).2 (splitOn_ne_nil k)
    · rw [splitOn_cons hprefix, splitOn_eq l] at h
      cases hl : frames sep l with
      | nil =>
        rw [hl] at h
        have hsingle : splitOn sep l = [rest sep l] := by rw [splitOn_eq, hl]; rfl
        rw [← (List.cons.inj h).1, ih hsingle]
      | cons f fs =>
        rw [hl] at h
        have htail := (List.cons.inj h).2
        simp at htail

/-- A list shorter than the separator is one part. -/
theorem splitOn_short : ∀ l : List α, l.length < sep.length → splitOn sep l = [l] := by
  intro l
  induction l with
  | nil => exact fun _ => rfl
  | cons x l ih =>
    intro hlen
    have hnot : ¬ sep <+: x :: l := fun hprefix => by
      have := hprefix.length_le
      omega
    rw [splitOn_cons hnot, ih (by simp at hlen; omega)]
    rfl

/-- **What has been cut stays cut**: what comes later meets only the rest. -/
theorem splitOn_append (hsep : sep ≠ []) (m : List α) : ∀ l : List α,
    splitOn sep (l ++ m) = frames sep l ++ splitOn sep (rest sep l ++ m) := by
  intro l
  induction hn : l.length using Nat.strongRecOn generalizing l with
  | _ n ih =>
    by_cases hone : splitOn sep l = [l]
    · -- no separator yet: all of it is rest
      obtain ⟨hframes, hrest⟩ := rest_of_single hone
      rw [hframes, hrest]
      rfl
    · by_cases hprefix : sep <+: l
      · obtain ⟨k, rfl⟩ := hprefix
        have hlt : k.length < n := by
          have := List.length_pos_of_ne_nil hsep
          rw [← hn, List.length_append]
          omega
        have hcut : splitOn sep (sep ++ k) = ([] :: frames sep k) ++ [rest sep k] := by
          rw [splitOn_sep hsep, splitOn_eq k]
          rfl
        obtain ⟨hframes, hrest⟩ := cut_of_eq hcut
        rw [List.append_assoc, splitOn_sep hsep, ih k.length hlt k rfl, hframes, hrest]
        rfl
      · cases l with
        | nil => exact absurd rfl hone
        | cons x l =>
          have hlater : ¬ sep <+: x :: (l ++ m) := fun hlater => by
            -- a separator that ends in `m` only leaves room for nothing in `l`
            refine hone (splitOn_short _ (Nat.lt_of_not_le fun hle => hprefix ?_))
            exact List.prefix_of_prefix_length_le hlater ⟨m, rfl⟩ hle
          have hlt : l.length < n := by
            rw [← hn]
            exact Nat.lt_succ_self _
          rw [List.cons_append, splitOn_cons hlater, ih l.length hlt l rfl]
          cases hl : frames sep l with
          | nil =>
            have hsingle : splitOn sep l = [rest sep l] := by rw [splitOn_eq, hl]; rfl
            refine absurd ?_ hone
            rw [splitOn_cons hprefix, hsingle, eq_of_single hsep hsingle]
            rfl
          | cons f fs =>
            have hcut : splitOn sep (x :: l) = ((x :: f) :: fs) ++ [rest sep l] := by
              rw [splitOn_cons hprefix, splitOn_eq, hl]
              rfl
            obtain ⟨hframes, hrest⟩ := cut_of_eq hcut
            rw [hframes, hrest]
            rfl

/-! ## A reader of pieces -/

/-- The reader: what it has read, and its buffer. -/
def feed (sep : List α) (s : List (List α) × List α) (chunk : List α) : List (List α) × List α :=
  (s.1 ++ frames sep (s.2 ++ chunk), rest sep (s.2 ++ chunk))

/-- What has been read before is kept in front. -/
theorem feed_from (sep : List α) : ∀ (chunks : List (List α)) (out : List (List α)) (buffer : List α),
    chunks.foldl (feed sep) (out, buffer) = (out ++ (chunks.foldl (feed sep) ([], buffer)).1,
      (chunks.foldl (feed sep) ([], buffer)).2) := by
  intro chunks
  induction chunks with
  | nil => exact fun out buffer => by simp
  | cons chunk chunks ih =>
    intro out buffer
    rw [List.foldl_cons, List.foldl_cons]
    show chunks.foldl (feed sep) (out ++ _, _) = (out ++ (chunks.foldl (feed sep) ([] ++ _, _)).1,
      (chunks.foldl (feed sep) ([] ++ _, _)).2)
    rw [ih (out ++ _), ih ([] ++ _)]
    simp

/-- The rest holds no separator. -/
theorem splitOn_rest (hsep : sep ≠ []) (l : List α) : splitOn sep (rest sep l) = [rest sep l] := by
  have hcut := splitOn_append hsep [] l
  rw [List.append_nil, List.append_nil, splitOn_eq l] at hcut
  exact (List.append_cancel_left hcut).symm

/-- **The pieces do not matter.** -/
theorem feed_chunks (hsep : sep ≠ []) (chunks : List (List α)) :
    chunks.foldl (feed sep) ([], []) = (frames sep chunks.flatten, rest sep chunks.flatten) := by
  have hgeneral : ∀ (chunks : List (List α)) (out : List (List α)) (buffer : List α),
      splitOn sep buffer = [buffer] → chunks.foldl (feed sep) (out, buffer) =
        (out ++ frames sep (buffer ++ chunks.flatten), rest sep (buffer ++ chunks.flatten)) := by
    intro chunks
    induction chunks with
    | nil =>
      intro out buffer hbuffer
      obtain ⟨hframes, hrest⟩ := rest_of_single hbuffer
      simp [hframes, hrest]
    | cons chunk chunks ih =>
      intro out buffer _
      have hcut : splitOn sep (buffer ++ chunk ++ chunks.flatten) =
          (frames sep (buffer ++ chunk) ++
            frames sep (rest sep (buffer ++ chunk) ++ chunks.flatten)) ++
            [rest sep (rest sep (buffer ++ chunk) ++ chunks.flatten)] := by
        rw [splitOn_append hsep, splitOn_eq (rest sep (buffer ++ chunk) ++ _), List.append_assoc]
      obtain ⟨hframes, hrest⟩ := cut_of_eq hcut
      rw [List.foldl_cons]
      show chunks.foldl (feed sep) (out ++ _, _) = _
      rw [ih _ _ (splitOn_rest hsep _), List.flatten_cons, ← List.append_assoc buffer, hframes, hrest,
        List.append_assoc]
  exact (hgeneral chunks [] [] rfl).trans (by simp)

/-! ## Frames -/

/-- A frame without the first symbol of the separator. -/
theorem splitOn_frame {a : α} {sep f : List α} (hf : a ∉ f) (l : List α) :
    splitOn (a :: sep) (f ++ (a :: sep) ++ l) = f :: splitOn (a :: sep) l := by
  induction f with
  | nil => exact splitOn_sep (List.cons_ne_nil _ _) l
  | cons x f ih =>
    obtain ⟨hx, hf⟩ := List.mem_cons.not.trans not_or |>.mp hf
    show splitOn (a :: sep) (x :: (f ++ (a :: sep) ++ l)) = _
    rw [splitOn_cons (not_prefix_cons hx), ih hf]
    rfl

/-- A list without it is one part. -/
theorem splitOn_of_not_mem {a : α} {sep : List α} : ∀ {l : List α}, a ∉ l →
    splitOn (a :: sep) l = [l] := by
  intro l
  induction l with
  | nil => exact fun _ => rfl
  | cons x l ih =>
    intro hl
    obtain ⟨hx, hl⟩ := List.mem_cons.not.trans not_or |>.mp hl
    rw [splitOn_cons (not_prefix_cons hx), ih hl]
    rfl

/-- **Frames are read back**, and nothing is left over. -/
theorem splitOn_frames {a : α} {sep : List α} {fs : List (List α)} (hfs : ∀ f ∈ fs, a ∉ f) :
    splitOn (a :: sep) (fs.flatMap fun f => f ++ a :: sep) = fs ++ [[]] := by
  induction fs with
  | nil => rfl
  | cons f fs ih =>
    rw [List.flatMap_cons, splitOn_frame (hfs f List.mem_cons_self),
      ih fun g hg => hfs g (List.mem_cons_of_mem _ hg)]
    rfl

end Dtsys.Framing
