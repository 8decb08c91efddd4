/-
  WINGET'S TABLE of available updates (`collector/software_windows.go`).

  1. **Program** — `splitWingetLine` goes through a row with two variables: where the field that it is in begins,
     and whether it is in a gap.  `applyWingetUpdates` reads the fourth column of the rows behind the dashes.

  2. **Rows** — fields with only single spaces inside, gaps of two spaces or more between them, and any
     padding behind the last one.

  3. **Crux** — `start` moves when a field BEGINS, not when one ends.  A field that begins at `start` is cut off
     in the first space of the gap behind it, and the next one sets `start` (`scan_columns`).  Nothing does so
     at the end of the row: behind a padding of two spaces or more the last field, which was cut off already, is
     cut off again (`split_text`).  `split_exact_iff` says when a row is split into its fields.
-/
import Dtsys.Agent.PackageUpdates

namespace Dtsys

namespace Agent

namespace Winget

/-! ## The program -/

/-- A blank. -/
def space : GoRune := .char ' '

/-- `fields`, `start` and `inGap`. -/
structure Scan where
  fields : List GoString
  start : Nat
  inGap : Bool

/-- `line[a:b]`. -/
def slice (line : GoString) (a b : Nat) : GoString := (line.take b).drop a

/-- One turn of the loop: `line[i]` is `r`, and `next` comes after it.  A space is one byte, so that counting runes
    instead of bytes cuts in the same places. -/
def scanRound (line : GoString) (i : Nat) (s : Scan) (r : GoRune) (next : Option GoRune) : Scan :=
  if r = space then
    if s.inGap = false ∧ next = some space then
      { s with fields := s.fields ++ [trimSpace (slice line s.start i)], inGap := true }
    else s
  else if s.inGap then { s with start := i, inGap := false }
  else s

/-- The loop from `i` on; the second list is `line[i:]`. -/
def scan (line : GoString) : Nat → GoString → Scan → Scan
  | _, [], s => s
  | i, r :: rest, s => scan line (i + 1) rest (scanRound line i s r rest.head?)

/-- `splitWingetLine`. -/
def splitWingetLine (line : GoString) : List GoString :=
  let s := scan line 0 line ⟨[], 0, false⟩
  if s.start < line.length then s.fields ++ [trimSpace (line.drop s.start)] else s.fields

section

variable (lower : Char → Char)

/-- The `idx` of the loop: names in lower case. -/
def wingetIndex (pkgs : List SoftwarePackage) : GoString → Option Nat :=
  PackageUpdates.index (pkgs.map fun p => { p with name := toLower lower p.name })

/-- What a line behind the dashes says: a name in lower case, and the version that is available. -/
def wingetUpdate (line : GoString) : Option (GoString × GoString) :=
  if GoString.ofString "upgrades available" <:+: line ∨ trimSpace line = [] then none
  else
    match splitWingetLine line with
    | name :: _ :: _ :: available :: _ =>
      let latestVersion := trimSpace available
      if latestVersion = [] ∨ latestVersion = .ofString "Unknown" then none
      else some (toLower lower (trimSpace name), latestVersion)
    | _ => none

/-- The separator. -/
def dashed (line : GoString) : Bool := (GoString.ofString "-").isPrefixOf line

/-- One turn of the loop over the lines, with `pastHeader`. -/
def wingetRound (idx : GoString → Option Nat) (s : Bool × List SoftwarePackage) (line : GoString) :
    Bool × List SoftwarePackage :=
  if dashed line then (true, s.2)
  else if s.1 = false then s
  else
    match wingetUpdate lower line with
    | some update => (s.1, PackageUpdates.applyUpdate idx s.2 update)
    | none => s

/-- `applyWingetUpdates`; `none`: the command failed. -/
def applyWingetUpdates (out : Option GoString) (pkgs : List SoftwarePackage) : List SoftwarePackage :=
  match out with
  | none => pkgs
  | some out => ((scanLines out).foldl (wingetRound lower (wingetIndex lower pkgs)) (false, pkgs)).2

end

/-! ## Rows -/

/-- What may stand in a column: spaces only inside, and one at a time. -/
structure IsField (f : GoString) : Prop where
  ne_nil : f ≠ []
  head : f.head? ≠ some space
  last : f.getLast? ≠ some space
  single : ¬ [space, space] <:+: f

/-- The text of a column. -/
abbrev Field := { f : GoString // IsField f }

/-- The width of a gap. -/
abbrev Gap := { n : Nat // 2 ≤ n }

/-- A row of the table. -/
structure Row where
  /-- the fields in front of the last one, each with the gap behind it -/
  columns : List (Field × Gap)
  last : Field
  padding : Nat

/-- The blanks behind a column. -/
def spaces (n : Nat) : GoString := List.replicate n space

/-- Fields, each with the gap behind it. -/
def columnsText : List (Field × Gap) → GoString
  | [] => []
  | (f, n) :: columns => f.1 ++ (spaces n.1 ++ columnsText columns)

namespace Row

/-- The texts of a row. -/
def fields (r : Row) : List GoString := (r.columns.map fun c => c.1.1) ++ [r.last.1]

/-- The row as it is printed. -/
def text (r : Row) : GoString := columnsText r.columns ++ (r.last.1 ++ spaces r.padding)

end Row

/-! ## The loop, field by field -/

section

variable {line rest : GoString} {i : Nat} {s : Scan}

/-- Within a field nothing happens: a space there has something else behind it. -/
theorem scan_inside (hgap : s.inGap = false) : ∀ {f : GoString} {i : Nat}, f.getLast? ≠ some space →
    ¬ [space, space] <:+: f → scan line i (f ++ rest) s = scan line (i + f.length) rest s := by
  intro f
  induction f with
  | nil => exact fun _ _ => rfl
  | cons r f ih =>
    intro i hlast hsingle
    have hround : scanRound line i s r (f ++ rest).head? = s := by
      rw [scanRound]
      by_cases hr : r = space
      · subst hr
        rw [if_pos rfl, if_neg]
        rintro ⟨-, hnext⟩
        cases f with
        | nil => exact hlast rfl
        | cons x f =>
          obtain rfl := Option.some.inj hnext
          exact hsingle ⟨[], f, rfl⟩
      · rw [if_neg hr, hgap]
        rfl
    have hlast' : f.getLast? ≠ some space := by
      cases f with
      | nil => exact nofun
      | cons x f => rwa [List.getLast?_cons_cons] at hlast
    have hsingle' : ¬ [space, space] <:+: f := fun h => hsingle (h.trans (List.suffix_cons r f).isInfix)
    rw [List.cons_append, scan, hround, ih hlast' hsingle', List.length_cons]
    congr 1
    omega

/-- **A field** sets `start` to where it begins. -/
theorem scan_field {f : GoString} (hf : IsField f) (hs : s.inGap = true ∨ s.start = i) :
    scan line i (f ++ rest) s = scan line (i + f.length) rest ⟨s.fields, i, false⟩ := by
  cases f with
  | nil => exact absurd rfl hf.ne_nil
  | cons r f =>
    have hr : r ≠ space := fun hr => hf.head (congrArg some hr)
    have hround : scanRound line i s r (f ++ rest).head? = ⟨s.fields, i, false⟩ := by
      rw [scanRound, if_neg hr]
      split
      · rfl
      · obtain rfl := hs.resolve_left ‹_›
        obtain ⟨fields, start, inGap⟩ := s
        obtain rfl : inGap = false := Bool.eq_false_iff.mpr ‹_›
        rfl
    have hagain : scanRound line i ⟨s.fields, i, false⟩ r (f ++ rest).head? = ⟨s.fields, i, false⟩ := by
      rw [scanRound, if_neg hr]
      rfl
    rw [← scan_inside (s := ⟨s.fields, i, false⟩) rfl hf.last hf.single, List.cons_append, scan, hround, scan,
      hagain]

/-- Once in a gap, spaces change nothing. -/
theorem scan_spaces (hgap : s.inGap = true) : ∀ (n i : Nat),
    scan line i (spaces n ++ rest) s = scan line (i + n) rest s := by
  intro n
  induction n with
  | zero => exact fun _ => rfl
  | succ n ih =>
    intro i
    have hround : scanRound line i s space (spaces n ++ rest).head? = s := by
      rw [scanRound, if_pos rfl, if_neg]
      rintro ⟨hgap', -⟩
      rw [hgap] at hgap'
      cases hgap'
    show scan line i (space :: (spaces n ++ rest)) s = _
    rw [scan, hround, ih]
    congr 1
    omega

/-- **A gap** cuts off what began at `start`. -/
theorem scan_gap (hgap : s.inGap = false) {n : Nat} (hn : 2 ≤ n) :
    scan line i (spaces n ++ rest) s =
      scan line (i + n) rest ⟨s.fields ++ [trimSpace (slice line s.start i)], s.start, true⟩ := by
  obtain ⟨n, rfl⟩ : ∃ m, n = m + 2 := ⟨n - 2, by omega⟩
  show scan line i (space :: (spaces (n + 1) ++ rest)) s = _
  have hround : scanRound line i s space (spaces (n + 1) ++ rest).head? =
      ⟨s.fields ++ [trimSpace (slice line s.start i)], s.start, true⟩ := by
    rw [scanRound, if_pos rfl, if_pos]
    exact ⟨hgap, rfl⟩
  rw [scan, hround, scan_spaces rfl]
  congr 1
  omega

/-- A single space at the end is no gap. -/
theorem scan_padding {n : Nat} (hn : n ≤ 1) : scan line i (spaces n) s = s := by
  rcases Nat.le_one_iff_eq_zero_or_eq_one.mp hn with rfl | rfl
  · rfl
  · have hround : scanRound line i s space none = s := by
      rw [scanRound, if_pos rfl, if_neg]
      rintro ⟨-, hnext⟩
      cases hnext
    exact hround

end

/-- The slice of the middle of three texts. -/
theorem slice_append (pre f post : GoString) :
    slice (pre ++ (f ++ post)) pre.length (pre.length + f.length) = f := by
  rw [slice, List.take_length_add_append, List.take_left, List.drop_left]

/-- **The columns** in front of the last one: each field is cut off, and what follows is in a gap, or the row has
    only begun. -/
theorem scan_columns {line rest : GoString} : ∀ {columns : List (Field × Gap)} {pre : GoString} {s : Scan},
    line = pre ++ (columnsText columns ++ rest) → (s.inGap = true ∨ s.start = pre.length) →
    ∃ start inGap, scan line pre.length (columnsText columns ++ rest) s =
        scan line (pre.length + (columnsText columns).length) rest
          ⟨s.fields ++ columns.map fun c => trimSpace c.1.1, start, inGap⟩ ∧
      (inGap = true ∨ start = pre.length + (columnsText columns).length) := by
  intro columns
  induction columns with
  | nil =>
    intro pre s _ hs
    refine ⟨s.start, s.inGap, ?_, hs⟩
    rw [List.map_nil, List.append_nil]
    rfl
  | cons c columns ih =>
    intro pre s hline hs
    obtain ⟨⟨f, hf⟩, n, hn⟩ := c
    have hsplit : columnsText ((⟨f, hf⟩, ⟨n, hn⟩) :: columns) ++ rest =
        f ++ (spaces n ++ (columnsText columns ++ rest)) := by
      rw [columnsText, List.append_assoc, List.append_assoc]
    rw [hsplit] at hline
    -- the field and the gap are behind `pre` now
    have hpre : (pre ++ (f ++ spaces n)).length = pre.length + f.length + n := by
      rw [List.length_append, List.length_append, spaces, List.length_replicate]
      omega
    have hline' : line = (pre ++ (f ++ spaces n)) ++ (columnsText columns ++ rest) := by
      rw [hline, List.append_assoc, List.append_assoc]
    have hcut : slice line pre.length (pre.length + f.length) = f := by
      rw [hline]
      exact slice_append ..
    obtain ⟨start, inGap, hscan, hs'⟩ := ih (s := ⟨s.fields ++ [trimSpace f], pre.length, true⟩) hline' (.inl rfl)
    have hlength : (pre ++ (f ++ spaces n)).length + (columnsText columns).length =
        pre.length + (columnsText ((⟨f, hf⟩, ⟨n, hn⟩) :: columns)).length := by
      show _ = pre.length + (f ++ (spaces n ++ columnsText columns)).length
      rw [hpre, List.length_append, List.length_append, spaces, List.length_replicate]
      omega
    rw [hlength] at hscan hs'
    refine ⟨start, inGap, ?_, hs'⟩
    rw [hsplit, scan_field hf hs, scan_gap rfl hn, hcut, ← hpre, hscan, List.append_assoc]
    rfl

/-- There are only blanks in the padding. -/
theorem blank_spaces (n : Nat) : ∀ r ∈ spaces n, blank r = true := by
  intro r hr
  rw [List.eq_of_mem_replicate hr]
  decide

/-- **What a row is split into**: its fields, and the last one again behind a padding of two spaces. -/
theorem split_text (r : Row) :
    splitWingetLine r.text =
      r.fields.map trimSpace ++ if 2 ≤ r.padding then [trimSpace r.last.1] else [] := by
  obtain ⟨start, inGap, hcolumns, hs⟩ :=
    @scan_columns r.text (r.last.1 ++ spaces r.padding) r.columns [] ⟨[], 0, false⟩ rfl (.inr rfl)
  rw [List.length_nil, Nat.zero_add] at hcolumns hs
  have hlast := @scan_field r.text (spaces r.padding) (columnsText r.columns).length
    ⟨[] ++ r.columns.map fun c => trimSpace c.1.1, start, inGap⟩ r.last.1 r.last.2 hs
  -- what is left from `start` on is the last field and its padding
  have hdrop : trimSpace (r.text.drop (columnsText r.columns).length) = trimSpace r.last.1 := by
    rw [Row.text, List.drop_left]
    exact Words.trim_append_blank (blank_spaces _) _
  have hshort : (columnsText r.columns).length < r.text.length := by
    have hne : 0 < r.last.1.length := List.length_pos_iff.mpr r.last.2.ne_nil
    rw [Row.text, List.length_append, List.length_append]
    omega
  have hscan : scan r.text 0 r.text ⟨[], 0, false⟩ =
      ⟨(r.columns.map fun c => trimSpace c.1.1) ++ if 2 ≤ r.padding then [trimSpace r.last.1] else [],
        (columnsText r.columns).length, decide (2 ≤ r.padding)⟩ := by
    refine (hcolumns.trans hlast).trans ?_
    by_cases hpadding : 2 ≤ r.padding
    · have hgap := @scan_gap r.text [] ((columnsText r.columns).length + r.last.1.length)
        ⟨r.columns.map fun c => trimSpace c.1.1, (columnsText r.columns).length, false⟩ rfl _ hpadding
      rw [List.append_nil] at hgap
      rw [if_pos hpadding, decide_eq_true hpadding]
      refine hgap.trans ?_
      show (⟨_ ++ [trimSpace (slice r.text _ _)], _, _⟩ : Scan) = _
      rw [Row.text, slice_append]
    · rw [if_neg hpadding, decide_eq_false hpadding, List.append_nil]
      exact scan_padding (by omega)
  rw [splitWingetLine, hscan]
  dsimp only
  rw [if_pos hshort, hdrop, Row.fields, List.map_append, List.map_map]
  split
  · simp
  · simp

/-! ## When a row is split into its fields -/

/-- Every row is long enough for its fields, so an extra field shows. -/
theorem length_split (r : Row) :
    (splitWingetLine r.text).length = r.fields.length + if 2 ≤ r.padding then 1 else 0 := by
  rw [split_text, List.length_append, List.length_map]
  split
  · rfl
  · rfl

/-- **A row is split into its fields**, and the fourth of them is what is at index 3, exactly if the padding is at
    most one space and no field begins or ends with white space of another kind.

    A field is cut off in the gap behind it, and its start stays where it was until the next field begins.  At the
    end of the row none begins, so what has been cut off already is cut off once more, unless the padding is at most
    one space. -/
theorem split_exact_iff (r : Row) :
    (splitWingetLine r.text = r.fields ∧ (splitWingetLine r.text)[3]? = r.fields[3]?) ↔
      r.padding ≤ 1 ∧ ∀ f ∈ r.fields, trimSpace f = f := by
  constructor
  · rintro ⟨hsplit, -⟩
    have hpadding : ¬ 2 ≤ r.padding := by
      intro h
      have hlength := length_split r
      rw [hsplit, if_pos h] at hlength
      omega
    rw [split_text, if_neg hpadding, List.append_nil] at hsplit
    refine ⟨by omega, fun f hf => ?_⟩
    exact List.map_inj_left.mp (hsplit.trans (List.map_id _).symm) f hf
  · rintro ⟨hpadding, htrimmed⟩
    have hsplit : splitWingetLine r.text = r.fields := by
      rw [split_text, if_neg (by omega), List.append_nil]
      exact (List.map_congr_left htrimmed).trans (List.map_id _)
    exact ⟨hsplit, by rw [hsplit]⟩

/-! ## The table -/

/-- What a row says, in its first and its fourth column. -/
def Row.update (lower : Char → Char) (r : Row) : Option (GoString × GoString) :=
  match r.fields with
  | name :: _ :: _ :: available :: _ =>
    if available = .ofString "Unknown" then none else some (toLower lower name, available)
  | _ => none

/-- The output: a heading, a line of dashes, and what follows. -/
def table (heading : List GoString) (dashes : GoString) (body : List GoString) : GoString :=
  (heading ++ dashes :: body).flatMap (· ++ [newline])

section

variable {lower : Char → Char}

/-- **The Available column is read**: of a row with four columns or more whatever its padding is, of a shorter one
    nothing is read if its padding is no gap. -/
theorem wingetUpdate_text {r : Row} (htrimmed : ∀ f ∈ r.fields, trimSpace f = f)
    (hrow : ¬ GoString.ofString "upgrades available" <:+: r.text) (hread : r.padding ≤ 1 ∨ 4 ≤ r.fields.length) :
    wingetUpdate lower r.text = r.update lower := by
  have hlast : r.last.1 ∈ r.fields := List.mem_append_right _ (List.mem_singleton_self _)
  have hblank : trimSpace r.text ≠ [] := by
    intro h
    have hall := Words.trim_eq_nil.mp h
    refine r.last.2.ne_nil ((htrimmed _ hlast).symm.trans (Words.trim_eq_nil.mpr fun x hx => hall x ?_))
    exact List.mem_append_right _ (List.mem_append_left _ hx)
  have hne : ∀ f ∈ r.fields, f ≠ [] := by
    intro f hf
    rcases List.mem_append.mp hf with hf | hf
    · obtain ⟨c, -, rfl⟩ := List.mem_map.mp hf
      exact c.1.2.ne_nil
    · rw [List.mem_singleton.mp hf]
      exact r.last.2.ne_nil
  have hsplit : splitWingetLine r.text = r.fields ++ if 2 ≤ r.padding then [r.last.1] else [] := by
    rw [split_text, htrimmed _ hlast]
    exact congrArg (· ++ _) ((List.map_congr_left htrimmed).trans (List.map_id _))
  have hshort : r.fields.length < 4 → ¬ 2 ≤ r.padding := by omega
  rw [wingetUpdate, if_neg (not_or.mpr ⟨hrow, hblank⟩), hsplit, Row.update]
  revert hshort hne htrimmed
  generalize r.fields = fields
  intro htrimmed hne hshort
  match fields with
  | name :: id :: version :: available :: more =>
    have hmem : available ∈ name :: id :: version :: available :: more := by simp
    dsimp only [List.cons_append]
    rw [htrimmed available hmem, htrimmed name List.mem_cons_self]
    simp only [hne available hmem, false_or]
  | [] | [_] | [_, _] | [_, _, _] =>
    rw [if_neg (hshort (by simp)), List.append_nil]

/-- In front of the dashes nothing is read. -/
theorem foldl_heading {idx : GoString → Option Nat} {pkgs : List SoftwarePackage} : ∀ {heading : List GoString},
    (∀ line ∈ heading, dashed line = false) →
    heading.foldl (wingetRound lower idx) (false, pkgs) = (false, pkgs) := by
  intro heading
  induction heading with
  | nil => exact fun _ => rfl
  | cons line heading ih =>
    intro h
    have hround : wingetRound lower idx (false, pkgs) line = (false, pkgs) := by
      rw [wingetRound, if_neg (Bool.eq_false_iff.mp (h line List.mem_cons_self)), if_pos rfl]
    rw [List.foldl_cons, hround]
    exact ih fun l hl => h l (List.mem_cons_of_mem line hl)

/-- Behind them every line that says something is applied. -/
theorem foldl_body {idx : GoString → Option Nat} : ∀ {body : List GoString} {pkgs : List SoftwarePackage},
    (∀ line ∈ body, dashed line = false) →
    body.foldl (wingetRound lower idx) (true, pkgs) =
      (true, (body.filterMap (wingetUpdate lower)).foldl (PackageUpdates.applyUpdate idx) pkgs) := by
  intro body
  induction body with
  | nil => exact fun _ => rfl
  | cons line body ih =>
    intro pkgs h
    have hrest := fun l hl => h l (List.mem_cons_of_mem line hl)
    rw [List.foldl_cons, List.filterMap_cons, wingetRound,
      if_neg (Bool.eq_false_iff.mp (h line List.mem_cons_self)), if_neg nofun]
    cases wingetUpdate lower line with
    | none => exact ih hrest
    | some update => exact ih hrest

/-- **The whole table**: what the lines behind the dashes say is applied, in their order. -/
theorem apply_table {heading body : List GoString} {dashes : GoString}
    (hlines : ∀ line ∈ heading ++ dashes :: body, OneLine line ∧ fitsBuffer line = true)
    (hheading : ∀ line ∈ heading, dashed line = false) (hdashes : dashed dashes = true)
    (hbody : ∀ line ∈ body, dashed line = false) (pkgs : List SoftwarePackage) :
    applyWingetUpdates lower (some (table heading dashes body)) pkgs =
      (body.filterMap (wingetUpdate lower)).foldl (PackageUpdates.applyUpdate (wingetIndex lower pkgs)) pkgs := by
  have hscan : scanLines (table heading dashes body) = heading ++ dashes :: body := by
    have hnil : OneLine [] := ⟨List.not_mem_nil, List.not_mem_nil⟩
    have hall := scanLines_unlines (fun line hline => (hlines line hline).1) hnil
    rw [if_pos rfl, List.append_nil, List.takeWhile_eq_self_iff.mpr fun line hline => (hlines line hline).2] at hall
    exact hall
  have hdash : ∀ s, wingetRound lower (wingetIndex lower pkgs) s dashes = (true, s.2) := fun s => if_pos hdashes
  rw [applyWingetUpdates, hscan, List.foldl_append, foldl_heading hheading, List.foldl_cons, hdash,
    foldl_body hbody]

end

/-! ## A padded row -/

/-- A row of three columns whose version is padded. -/
def gitRow : Row :=
  ⟨[(⟨.ofString "Git", ⟨by decide, by decide, by decide, by decide⟩⟩, ⟨2, by decide⟩),
      (⟨.ofString "Git.Git", ⟨by decide, by decide, by decide, by decide⟩⟩, ⟨2, by decide⟩)],
    ⟨.ofString "2.40", ⟨by decide, by decide, by decide, by decide⟩⟩, 2⟩

/-- The version comes twice, is read from the Available column, and marks the package. -/
theorem padded_row_split_again :
    gitRow.text = .ofString "Git  Git.Git  2.40  " ∧
    gitRow.fields = [.ofString "Git", .ofString "Git.Git", .ofString "2.40"] ∧
    splitWingetLine gitRow.text = [.ofString "Git", .ofString "Git.Git", .ofString "2.40", .ofString "2.40"] ∧
    ¬ (splitWingetLine gitRow.text = gitRow.fields ∧ (splitWingetLine gitRow.text)[3]? = gitRow.fields[3]?) ∧
    applyWingetUpdates Char.toLower
        (some (table [.ofString "Name  Id  Version"] (.ofString "------------------") [gitRow.text]))
        [⟨.ofString "Git", .ofString "2.40", false, []⟩] =
      [⟨.ofString "Git", .ofString "2.40", true, .ofString "2.40"⟩] := by
  refine ⟨by decide, by decide, by decide, by decide, ?_⟩
  rw [apply_table]
  · rfl
  · decide
  · decide
  · decide
  · decide

end Winget

end Agent

end Dtsys
