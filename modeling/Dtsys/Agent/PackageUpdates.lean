/-
  AVAILABLE UPDATES of installed packages (`collector/software_linux.go`).

  1. **Program** — `applyAptUpdates` and `applyDnfUpdates` are one loop: a map from each name to the LAST
     package of that name, and for every line of the tool's output the package of the line's name is marked.
     They differ in the line: apt cuts its first field at the first slash, dnf at the first dot.

  2. **Specification** — `Matches`: the packages whose name is in a line are marked with the version of such
     a line, and nothing else changes.

  3. **What goes wrong** — a dnf field is `name.arch`, and a name may have dots: the cut is the `stem`, which
     may be another package.  Of several packages of one name only the last is marked.  And lines behind one
     that is too long for the scanner are not read.  `flags_match_iff` says when none of this shows.
-/
import Dtsys.Agent.Lines

namespace Dtsys

namespace Agent

namespace PackageUpdates

/-! ## The program -/

/-- The packages of an installed system, by name and version. -/
def collected (installed : List (GoString × GoString)) : List SoftwarePackage :=
  installed.map fun row => ⟨row.1, row.2, false, []⟩

/-- A line of `dpkg-query -W` or `rpm -qa`: `strings.SplitN(line, "\t", 2)`. -/
def installedRow (line : GoString) : Option (GoString × GoString) :=
  match line.dropWhile (· ≠ .char '\t') with
  | [] => none
  | _ :: version => some (trimSpace (line.takeWhile (· ≠ .char '\t')), trimSpace version)

/-- `collectDpkg` and `collectRpm`, on the output of the command. -/
def collect (out : GoString) : List SoftwarePackage := collected ((scanLines out).filterMap installedRow)

/-- The `idx` of both loops: where the name is, at last. -/
def index (pkgs : List SoftwarePackage) : GoString → Option Nat :=
  pkgs.zipIdx.foldl (fun idx entry => Function.update idx entry.1.name (some entry.2)) fun _ => none

/-- The name in front of `sep` in the first field, and the second field. -/
def nameAndVersion (sep : GoRune) (line : GoString) : Option (GoString × GoString) :=
  match fields line with
  | field :: latestVersion :: _ => some (field.takeWhile (· ≠ sep), latestVersion)
  | _ => none

/-- A line of `apt list --upgradable`. -/
def aptUpdate (line : GoString) : Option (GoString × GoString) :=
  if .char '/' ∉ line then none else nameAndVersion (.char '/') line

/-- A line of `dnf check-update -q`. -/
def dnfUpdate (text : GoString) : Option (GoString × GoString) :=
  let line := trimSpace text
  if line = [] ∨ (GoString.ofString "Last metadata").isPrefixOf line = true then none
  else nameAndVersion (.char '.') line

/-- The package has an update to `version`. -/
def mark (version : GoString) (p : SoftwarePackage) : SoftwarePackage :=
  { p with updateAvailable := true, latestVersion := version }

/-- One turn of the loops. -/
def applyUpdate (idx : GoString → Option Nat) (pkgs : List SoftwarePackage) (update : GoString × GoString) :
    List SoftwarePackage :=
  match idx update.1 with
  | some i => pkgs.modify i (mark update.2)
  | none => pkgs

/-- The loop over the output. -/
def applyUpdates (read : GoString → Option (GoString × GoString)) (out : GoString)
    (pkgs : List SoftwarePackage) : List SoftwarePackage :=
  ((scanLines out).filterMap read).foldl (applyUpdate (index pkgs)) pkgs

/-- `none`: the command failed. -/
def applyAptUpdates (out : Option GoString) (pkgs : List SoftwarePackage) : List SoftwarePackage :=
  match out with
  | none => pkgs
  | some out => applyUpdates aptUpdate out pkgs

/-- `applyDnfUpdates`; no output is no update. -/
def applyDnfUpdates (out : GoString) (pkgs : List SoftwarePackage) : List SoftwarePackage :=
  if out = [] then pkgs else applyUpdates dnfUpdate out pkgs

/-! ## Output of the tools -/

/-- The package managers whose output the agent reads. -/
inductive Tool
  | apt
  | dnf
  deriving DecidableEq, Repr

/-- What stands between a name and its suite or architecture. -/
def Tool.sep : Tool → GoRune
  | .apt => .char '/'
  | .dnf => .char '.'

/-- The parser of a line. -/
def Tool.read : Tool → GoString → Option (GoString × GoString)
  | .apt => aptUpdate
  | .dnf => dnfUpdate

/-- The loop over the output. -/
def Tool.apply (tool : Tool) (out : GoString) : List SoftwarePackage → List SoftwarePackage :=
  match tool with
  | .apt => applyAptUpdates (some out)
  | .dnf => applyDnfUpdates out

/-- `name/suite version ...` or `name.arch version ...`; `rest` is what comes after the version. -/
structure UpdateLine where
  name : GoString
  tag : GoString
  gap : GoString
  version : GoString
  rest : GoString
  deriving DecidableEq

/-- The first field. -/
def UpdateLine.field (tool : Tool) (l : UpdateLine) : GoString := l.name ++ tool.sep :: l.tag

/-- The line as it is printed. -/
def UpdateLine.text (tool : Tool) (l : UpdateLine) : GoString :=
  l.field tool ++ (l.gap ++ (l.version ++ l.rest))

/-- Fields without blanks, and blanks between them: a name of apt has no slash, an architecture no dot. -/
structure UpdateLine.WellFormed (tool : Tool) (l : UpdateLine) : Prop where
  oneLine : OneLine (l.text tool)
  field : ∀ r ∈ l.field tool, blank r = false
  version : ∀ r ∈ l.version, blank r = false
  gap : ∀ r ∈ l.gap, blank r = true
  gap_ne : l.gap ≠ []
  version_ne : l.version ≠ []
  rest : ∀ r ∈ l.rest.head?, blank r = true
  separated : match tool with
    | .apt => .char '/' ∉ l.name
    | .dnf => .char '.' ∉ l.tag

/-- A line that is about no package: the heading of apt, an empty line or the age of the metadata. -/
def IsNote : Tool → GoString → Prop
  | .apt, s => .char '/' ∉ s
  | .dnf, s => (∀ r ∈ s, blank r = true) ∨ GoString.ofString "Last metadata" <+: s

/-- A line of the output: one about no package, or an update. -/
inductive OutputLine
  | note (s : GoString)
  | update (l : UpdateLine)
  deriving DecidableEq

namespace OutputLine

/-- The line as it is printed. -/
def text (tool : Tool) : OutputLine → GoString
  | .note s => s
  | .update l => l.text tool

/-- Such a line. -/
def WellFormed (tool : Tool) : OutputLine → Prop
  | .note s => OneLine s ∧ IsNote tool s
  | .update l => l.WellFormed tool

/-- The update that the line is about. -/
def update? : OutputLine → Option UpdateLine
  | .note _ => none
  | .update l => some l

end OutputLine

/-- The whole output. -/
def output (tool : Tool) (o : List OutputLine) : GoString := o.flatMap fun l => l.text tool ++ [newline]

/-- The updates of an output. -/
def updates (o : List OutputLine) : List UpdateLine := o.filterMap OutputLine.update?

/-! ## What the flags should be -/

/-- `q` is the package `p`, marked if its name is in a line. -/
def Flagged (ls : List UpdateLine) (p q : SoftwarePackage) : Prop :=
  (q = p ∧ ∀ l ∈ ls, l.name ≠ p.name) ∨ ∃ l ∈ ls, l.name = p.name ∧ q = mark l.version p

/-- Exactly the packages whose name is in a line are marked. -/
def Matches (ls : List UpdateLine) (pkgs marked : List SoftwarePackage) : Prop :=
  List.Forall₂ (Flagged ls) pkgs marked

/-- What the loops take for the name: of apt the name, of dnf the part up to its first dot. -/
def UpdateLine.stem (tool : Tool) (l : UpdateLine) : GoString := l.name.takeWhile (· ≠ tool.sep)

/-- The lines in front of the first that is too long for the scanner. -/
def scanned (tool : Tool) (o : List OutputLine) : List OutputLine := o.takeWhile fun l => fitsBuffer (l.text tool)

/-- The version that one line has for a name. -/
def versionFor (u : GoString × GoString) (n : GoString) : Option GoString := if u.1 = n then some u.2 else none

/-- The version of the last line for a name, among pairs of name and version. -/
def latest : List (GoString × GoString) → GoString → Option GoString
  | [], _ => none
  | u :: us, n => (latest us n).or (versionFor u n)

/-- The stems and the versions of the lines that are scanned. -/
def stems (tool : Tool) (o : List OutputLine) : List (GoString × GoString) :=
  (updates (scanned tool o)).map fun l => (l.stem tool, l.version)

/-- `n` is the name of at most one package. -/
def Once (names : List GoString) (n : GoString) : Prop :=
  ∀ i j : Nat, names[i]? = some n → names[j]? = some n → i = j

/-- No stem misleads: for an installed name that is in a line, one package has it, and the last scanned
    line with this stem has a version of it; for every other installed name no scanned line has this
    stem. -/
def Unmistakable (tool : Tool) (o : List OutputLine) (names : List GoString) : Prop :=
  ∀ n ∈ names,
    ((∃ l ∈ updates o, l.name = n) →
      Once names n ∧ ∃ l ∈ updates o, l.name = n ∧ latest (stems tool o) n = some l.version) ∧
    ((∀ l ∈ updates o, l.name ≠ n) → latest (stems tool o) n = none)

/-! ## Reading the output -/

theorem oneLine_text {tool : Tool} {l : OutputLine} (h : l.WellFormed tool) : OneLine (l.text tool) := by
  cases l with
  | note s => exact h.1
  | update l => exact h.oneLine

/-- The scanned lines are the lines of the output. -/
theorem scanLines_output {tool : Tool} {o : List OutputLine} (h : ∀ l ∈ o, l.WellFormed tool) :
    scanLines (output tool o) = (scanned tool o).map (OutputLine.text tool) := by
  have hlines : ∀ t ∈ o.map (OutputLine.text tool), OneLine t := by
    intro t ht
    obtain ⟨l, hl, rfl⟩ := List.mem_map.mp ht
    exact oneLine_text (h l hl)
  have hnil : OneLine [] := ⟨List.not_mem_nil, List.not_mem_nil⟩
  have hscan := scanLines_unlines hlines hnil
  rw [if_pos rfl, List.append_nil, List.flatMap_map] at hscan
  rw [output, hscan, scanned, List.takeWhile_map]
  rfl

theorem field_ne_nil (tool : Tool) (l : UpdateLine) : l.field tool ≠ [] :=
  List.append_ne_nil_of_right_ne_nil _ (List.cons_ne_nil _ _)

/-- The first two fields of a line. -/
theorem fields_text {tool : Tool} {l : UpdateLine} (h : l.WellFormed tool) :
    fields (l.text tool) = l.field tool :: l.version :: fields l.rest := by
  rw [fields, UpdateLine.text, Words.words_word_append h.field (field_ne_nil tool l),
    Words.words_blank_append h.gap, Words.words_word_append h.version h.version_ne h.rest]
  · rfl
  · intro r hr
    cases hgap : l.gap with
    | nil => exact absurd hgap h.gap_ne
    | cons x gap =>
      rw [hgap] at hr
      obtain rfl := Option.some.inj hr
      exact h.gap x (hgap ▸ List.mem_cons_self)

/-- A word is cut at its first separator, wherever that is. -/
theorem takeWhile_append_cons (sep : GoRune) (b : GoString) : ∀ a : GoString,
    (a ++ sep :: b).takeWhile (· ≠ sep) = a.takeWhile (· ≠ sep) := by
  intro a
  induction a with
  | nil => simp
  | cons r a ih =>
    by_cases hr : r = sep
    · simp [hr]
    · simpa [hr] using ih

/-- What is read is the stem, not the name. -/
theorem nameAndVersion_text {tool : Tool} {l : UpdateLine} (h : l.WellFormed tool) {line : GoString}
    (hline : fields line = fields (l.text tool)) :
    nameAndVersion tool.sep line = some (l.stem tool, l.version) := by
  rw [nameAndVersion, hline, fields_text h]
  exact congrArg (fun n => some (n, l.version)) (takeWhile_append_cons tool.sep l.tag l.name)

/-- A line about an update is read as its stem and its version. -/
theorem read_update {tool : Tool} {l : UpdateLine} (h : l.WellFormed tool) :
    tool.read (l.text tool) = some (l.stem tool, l.version) := by
  have hsep : tool.sep ∈ l.field tool := List.mem_append_right _ List.mem_cons_self
  have hfirst : ∀ r ∈ (l.field tool).head?, blank r = false := fun r hr =>
    h.field r (List.mem_of_head? hr)
  have hlast : ∀ r ∈ (l.field tool).getLast?, blank r = false := fun r hr =>
    h.field r (List.mem_of_getLast? hr)
  cases tool with
  | apt =>
    refine (if_neg (not_not_intro ?_)).trans (nameAndVersion_text h rfl)
    exact List.mem_append_left _ hsep
  | dnf =>
    -- the trimmed line begins with the field, which has a dot and no blank
    have hprefix : l.field .dnf <+: trimSpace (l.text .dnf) := Words.prefix_trim hfirst hlast _
    refine (if_neg ?_).trans (nameAndVersion_text h (Words.words_trim _))
    rintro (hnil | hmeta)
    · rw [hnil] at hprefix
      exact field_ne_nil _ _ (List.prefix_nil.mp hprefix)
    · rcases List.prefix_or_prefix_of_prefix hprefix (List.isPrefixOf_iff_prefix.mp hmeta) with hle | hle
      · exact absurd (hle.subset hsep) (by decide)
      · have hspace := h.field (.char ' ') (hle.subset (by decide))
        exact absurd hspace (by decide)

/-- A line about no package is skipped. -/
theorem read_note {tool : Tool} {s : GoString} (h : IsNote tool s) : tool.read s = none := by
  cases tool with
  | apt => exact if_pos h
  | dnf =>
    refine if_pos ?_
    rcases h with hblank | hmeta
    · left
      rw [trimSpace_eq, Words.trim, List.dropWhile_eq_nil_iff.mpr hblank]
      rfl
    · right
      obtain ⟨g, rfl⟩ := hmeta
      refine List.isPrefixOf_iff_prefix.mpr (Words.prefix_trim ?_ ?_ g)
      · decide
      · decide

/-- The loops see the stems of the scanned lines. -/
theorem read_output {tool : Tool} {o : List OutputLine} (h : ∀ l ∈ o, l.WellFormed tool) :
    (scanLines (output tool o)).filterMap tool.read = stems tool o := by
  rw [scanLines_output h, stems, updates, List.filterMap_map, List.map_filterMap]
  refine List.filterMap_congr fun l hl => ?_
  have hl := h l ((List.takeWhile_prefix _).subset hl)
  cases l with
  | note s => exact read_note hl.2
  | update l => exact read_update hl

/-- The whole output: the stems of the scanned lines, one after the other. -/
theorem apply_output {tool : Tool} {o : List OutputLine} (h : ∀ l ∈ o, l.WellFormed tool)
    (pkgs : List SoftwarePackage) :
    tool.apply (output tool o) pkgs = (stems tool o).foldl (applyUpdate (index pkgs)) pkgs := by
  rw [← read_output h]
  cases tool with
  | apt => rfl
  | dnf =>
    by_cases hout : output .dnf o = []
    · refine (if_pos hout).trans ?_
      rw [hout]
      rfl
    · exact if_neg hout

/-! ## The loop -/

/-- The map after one more package: the last of a name is kept. -/
theorem index_concat (pkgs : List SoftwarePackage) (p : SoftwarePackage) :
    index (pkgs ++ [p]) = Function.update (index pkgs) p.name (some pkgs.length) := by
  rw [index, List.zipIdx_append, List.foldl_append, Nat.zero_add]
  rfl

/-- The map has the last position of a name. -/
theorem index_eq_some {n : GoString} {i : Nat} (pkgs : List SoftwarePackage) :
    index pkgs n = some i ↔ (∃ p, pkgs[i]? = some p ∧ p.name = n) ∧
      ∀ j p, i < j → pkgs[j]? = some p → p.name ≠ n := by
  induction pkgs using List.reverseRecOn with
  | nil => simp [index]
  | append_singleton pkgs q ih =>
    rw [index_concat, Function.update_apply]
    -- The last package has the name, or the map is that of those before it.
    by_cases hn : n = q.name
    · rw [if_pos hn, Option.some.injEq]
      constructor
      · rintro rfl
        refine ⟨⟨q, List.getElem?_concat_length, hn.symm⟩, fun j p hj hp => ?_⟩
        rw [List.getElem?_eq_none (by rw [List.length_append, List.length_singleton]; omega)] at hp
        cases hp
      · rintro ⟨⟨p, hp, -⟩, hlast⟩
        have hi := (List.getElem?_eq_some_iff.mp hp).1
        rw [List.length_append, List.length_singleton] at hi
        by_contra hne
        exact hlast pkgs.length q (by omega) List.getElem?_concat_length hn.symm
    · rw [if_neg hn, ih]
      constructor
      · rintro ⟨⟨p, hp, hpn⟩, hlast⟩
        have hi := (List.getElem?_eq_some_iff.mp hp).1
        refine ⟨⟨p, (List.getElem?_append_left hi).trans hp, hpn⟩, fun j p' hj hp' => ?_⟩
        by_cases hjl : j < pkgs.length
        · exact hlast j p' hj ((List.getElem?_append_left hjl).symm.trans hp')
        · rw [List.getElem?_append_right (by omega)] at hp'
          have hq := List.mem_singleton.mp (List.mem_of_getElem? hp')
          exact hq ▸ Ne.symm hn
      · rintro ⟨⟨p, hp, hpn⟩, hlast⟩
        have hi : i < pkgs.length := by
          by_contra hge
          rw [List.getElem?_append_right (by omega)] at hp
          exact hn (hpn ▸ List.mem_singleton.mp (List.mem_of_getElem? hp) ▸ rfl)
        refine ⟨⟨p, (List.getElem?_append_left hi).symm.trans hp, hpn⟩, fun j p' hj hp' => ?_⟩
        have hjl := (List.getElem?_eq_some_iff.mp hp').1
        exact hlast j p' hj ((List.getElem?_append_left hjl).trans hp')

/-- Marked, if the map has position `i` for the name and there is a version to mark it with. -/
def markAt (idx : GoString → Option Nat) (i : Nat) (version : Option GoString) (p : SoftwarePackage) :
    SoftwarePackage :=
  match version with
  | some version => if idx p.name = some i then mark version p else p
  | none => p

theorem name_markAt (idx : GoString → Option Nat) (i : Nat) (o : Option GoString) (p : SoftwarePackage) :
    (markAt idx i o p).name = p.name := by
  cases o with
  | none => rfl
  | some version =>
    show (if idx p.name = some i then mark version p else p).name = p.name
    split <;> rfl

/-- Of two marks the later one stays. -/
theorem markAt_markAt (idx : GoString → Option Nat) (i : Nat) (o o' : Option GoString) (p : SoftwarePackage) :
    markAt idx i o (markAt idx i o' p) = markAt idx i (o.or o') p := by
  cases o with
  | none => rfl
  | some version =>
    show (if idx (markAt idx i o' p).name = some i then _ else _) = if idx p.name = some i then _ else _
    rw [name_markAt]
    cases o' with
    | none => rfl
    | some version' =>
      by_cases hi : idx p.name = some i
      · rw [if_pos hi, if_pos hi, markAt, if_pos hi]
        rfl
      · rw [if_neg hi, if_neg hi, markAt, if_neg hi]

/-- One line marks the package that the map has for its name. -/
theorem getElem?_applyUpdate {idx : GoString → Option Nat} {pkgs : List SoftwarePackage}
    (hidx : ∀ n i p, idx n = some i → pkgs[i]? = some p → p.name = n) (u : GoString × GoString) {i : Nat}
    {p : SoftwarePackage} (hp : pkgs[i]? = some p) :
    (applyUpdate idx pkgs u)[i]? = some (markAt idx i (versionFor u p.name) p) := by
  by_cases hname : u.1 = p.name
  · rw [applyUpdate, versionFor, if_pos hname, hname]
    show _ = some (if idx p.name = some i then mark u.2 p else p)
    cases hu : idx p.name with
    | none => exact hp
    | some j =>
      show (pkgs.modify j _)[i]? = _
      by_cases hj : j = i
      · rw [if_pos (congrArg some hj), hj, List.getElem?_modify_eq, hp]
        rfl
      · rw [if_neg (fun h => hj (Option.some.inj h)), List.getElem?_modify_ne _ _ hj]
        exact hp
  · rw [applyUpdate, versionFor, if_neg hname]
    cases hu : idx u.1 with
    | none => exact hp
    | some j =>
      have hj : j ≠ i := fun h => hname (hidx u.1 j p hu (h ▸ hp)).symm
      show (pkgs.modify j _)[i]? = _
      rw [List.getElem?_modify_ne _ _ hj]
      exact hp

/-- **After all lines** the package that the map has for a name has the version of the last line for it. -/
theorem getElem?_foldl_applyUpdate {idx : GoString → Option Nat} {i : Nat} :
    ∀ {us : List (GoString × GoString)} {pkgs : List SoftwarePackage} {p : SoftwarePackage},
      (∀ n i p, idx n = some i → pkgs[i]? = some p → p.name = n) → pkgs[i]? = some p →
      (us.foldl (applyUpdate idx) pkgs)[i]? = some (markAt idx i (latest us p.name) p) := by
  intro us
  induction us with
  | nil => exact fun _ hp => hp
  | cons u us ih =>
    intro pkgs p hidx hp
    have hstep := getElem?_applyUpdate hidx u hp
    have hidx' : ∀ n j q, idx n = some j → (applyUpdate idx pkgs u)[j]? = some q → q.name = n := by
      intro n j q hn hq
      have hlen : (applyUpdate idx pkgs u).length = pkgs.length := by
        rw [applyUpdate]
        cases idx u.1 with
        | none => rfl
        | some k => exact List.length_modify ..
      have hj := (List.getElem?_eq_some_iff.mp hq).1
      rw [hlen] at hj
      have hget := List.getElem?_eq_getElem hj
      have hq' := (getElem?_applyUpdate hidx u hget).symm.trans hq
      rw [← Option.some.inj hq', name_markAt]
      exact hidx n j _ hn hget
    rw [List.foldl_cons, ih hidx' hstep, name_markAt, markAt_markAt]
    rfl

/-! ## When the flags match -/

section

variable {tool : Tool} {o : List OutputLine} {installed : List (GoString × GoString)}

/-- What is marked, position by position. -/
theorem getElem?_apply (h : ∀ l ∈ o, l.WellFormed tool) {i : Nat} {p : SoftwarePackage}
    (hp : (collected installed)[i]? = some p) :
    (tool.apply (output tool o) (collected installed))[i]? =
      some (markAt (index (collected installed)) i (latest (stems tool o) p.name) p) := by
  rw [apply_output h]
  refine getElem?_foldl_applyUpdate (fun n j q hn hq => ?_) hp
  obtain ⟨q', hq', hname⟩ := ((index_eq_some _).mp hn).1
  obtain rfl := Option.some.inj (hq'.symm.trans hq)
  exact hname

/-- Of several packages of one name only the last is ever marked. -/
theorem earlier_not_marked (h : ∀ l ∈ o, l.WellFormed tool) {i j : Nat} {p q : SoftwarePackage}
    (hp : (collected installed)[i]? = some p) (hq : (collected installed)[j]? = some q) (hij : i < j)
    (hname : q.name = p.name) : (tool.apply (output tool o) (collected installed))[i]? = some p := by
  have hlast : index (collected installed) p.name ≠ some i := fun hi =>
    ((index_eq_some _).mp hi).2 j q hij hq hname
  rw [getElem?_apply h hp]
  cases latest (stems tool o) p.name with
  | none => rfl
  | some version => rw [markAt, if_neg hlast]

/-- No package is added or lost. -/
theorem length_apply (h : ∀ l ∈ o, l.WellFormed tool) (pkgs : List SoftwarePackage) :
    (tool.apply (output tool o) pkgs).length = pkgs.length := by
  rw [apply_output h]
  generalize stems tool o = us
  generalize index pkgs = idx
  induction us generalizing pkgs with
  | nil => rfl
  | cons u us ih =>
    rw [List.foldl_cons, ih, applyUpdate]
    cases idx u.1 with
    | none => rfl
    | some k => exact List.length_modify ..

/-- The specification, position by position. -/
theorem matches_iff (h : ∀ l ∈ o, l.WellFormed tool) :
    Matches (updates o) (collected installed) (tool.apply (output tool o) (collected installed)) ↔
      ∀ i p, (collected installed)[i]? = some p → Flagged (updates o) p
        (markAt (index (collected installed)) i (latest (stems tool o) p.name) p) := by
  rw [Matches, List.forall₂_iff_get]
  constructor
  · rintro ⟨hlen, hall⟩ i p hp
    obtain ⟨hi, rfl⟩ := List.getElem?_eq_some_iff.mp hp
    have hget := hall i hi (hlen ▸ hi)
    have hq := getElem?_apply h hp
    obtain ⟨hi', heq⟩ := List.getElem?_eq_some_iff.mp hq
    rw [← heq]
    exact hget
  · intro hall
    refine ⟨(length_apply h _).symm, fun i hi hi' => ?_⟩
    have hq := getElem?_apply h (List.getElem?_eq_getElem hi)
    obtain ⟨_, heq⟩ := List.getElem?_eq_some_iff.mp hq
    show Flagged (updates o) ((collected installed)[i]) ((tool.apply _ _)[i])
    rw [heq]
    exact hall i _ (List.getElem?_eq_getElem hi)

/-- The name at a position, and the package, which is not marked yet. -/
theorem getElem?_collected {i : Nat} {n : GoString} :
    (installed.map Prod.fst)[i]? = some n ↔ ∃ p, (collected installed)[i]? = some p ∧ p.name = n := by
  rw [collected, List.getElem?_map, List.getElem?_map]
  cases installed[i]? with
  | none => simp
  | some row => simp

theorem not_marked {i : Nat} {p : SoftwarePackage} (hp : (collected installed)[i]? = some p) :
    p.updateAvailable = false := by
  obtain ⟨row, -, rfl⟩ := List.mem_map.mp (List.mem_of_getElem? hp)
  rfl

/-- Every name is in the map. -/
theorem index_ne_none {n : GoString} (pkgs : List SoftwarePackage) (hn : n ∈ pkgs.map SoftwarePackage.name) :
    index pkgs n ≠ none := by
  induction pkgs using List.reverseRecOn with
  | nil => cases hn
  | append_singleton pkgs q ih =>
    rw [index_concat, Function.update_apply]
    split
    · exact nofun
    · rw [List.map_append] at hn
      rcases List.mem_append.mp hn with hn | hn
      · exact ih hn
      · exact absurd (List.mem_singleton.mp hn) ‹_›

/-- The last position of an installed name. -/
theorem exists_index {n : GoString} (hn : n ∈ installed.map Prod.fst) :
    ∃ i p, index (collected installed) n = some i ∧ (collected installed)[i]? = some p ∧ p.name = n := by
  have hmem : n ∈ (collected installed).map SoftwarePackage.name := by
    rw [collected, List.map_map]
    exact hn
  obtain ⟨i, hi⟩ := Option.ne_none_iff_exists'.mp (index_ne_none _ hmem)
  obtain ⟨p, hp, hname⟩ := ((index_eq_some _).mp hi).1
  exact ⟨i, p, hi, hp, hname⟩

/-- A package that is marked is one of a line. -/
theorem flagged_mark {ls : List UpdateLine} {p : SoftwarePackage} {version : GoString}
    (hp : p.updateAvailable = false) :
    Flagged ls p (mark version p) ↔ ∃ l ∈ ls, l.name = p.name ∧ l.version = version := by
  constructor
  · rintro (⟨hsame, -⟩ | ⟨l, hl, hname, hmark⟩)
    · have hflag : (mark version p).updateAvailable = p.updateAvailable := by rw [hsame]
      rw [hp] at hflag
      cases hflag
    · have hversion : version = l.version := congrArg SoftwarePackage.latestVersion hmark
      exact ⟨l, hl, hname, hversion.symm⟩
  · rintro ⟨l, hl, hname, rfl⟩
    exact .inr ⟨l, hl, hname, rfl⟩

/-- A package that is not marked is in no line. -/
theorem flagged_self {ls : List UpdateLine} {p : SoftwarePackage} (hp : p.updateAvailable = false) :
    Flagged ls p p ↔ ∀ l ∈ ls, l.name ≠ p.name := by
  constructor
  · rintro (⟨-, hnone⟩ | ⟨l, -, -, hmark⟩)
    · exact hnone
    · have hflag : p.updateAvailable = (mark l.version p).updateAvailable := congrArg _ hmark
      rw [hp] at hflag
      cases hflag
  · exact fun hnone => .inl ⟨rfl, hnone⟩

end

/-- **The flags match the package manager**, for every installed system and every well-formed output of
    either tool, exactly if no stem misleads.

    The names are cut at the first dot, or compared as they are.  `Unmistakable` says of the lines of the output
    that this misleads nobody: for each installed name there is one package, and the last line that is read as its
    name carries a version of it. -/
theorem flags_match_iff (tool : Tool) (installed : List (GoString × GoString)) (o : List OutputLine)
    (h : ∀ l ∈ o, l.WellFormed tool) :
    Matches (updates o) (collected installed) (tool.apply (output tool o) (collected installed)) ↔
      Unmistakable tool o (installed.map Prod.fst) := by
  rw [matches_iff h]
  constructor
  · intro hall n hn
    obtain ⟨i, p, hi, hp, rfl⟩ := exists_index hn
    have hfresh := not_marked hp
    have hflag := hall i p hp
    cases hlatest : latest (stems tool o) p.name with
    | none =>
      rw [hlatest] at hflag
      exact ⟨fun ⟨l, hl, hname⟩ => ((flagged_self hfresh).mp hflag l hl hname).elim, fun _ => rfl⟩
    | some version =>
      rw [hlatest, markAt, if_pos hi, flagged_mark hfresh] at hflag
      obtain ⟨l, hl, hname, rfl⟩ := hflag
      refine ⟨fun _ => ⟨?_, l, hl, hname, rfl⟩, fun hnone => (hnone l hl hname).elim⟩
      -- another package of the name would not be marked
      have honly : ∀ j : Nat, (installed.map Prod.fst)[j]? = some p.name → i = j := by
        intro j hj
        obtain ⟨q, hq, hqname⟩ := getElem?_collected.mp hj
        by_contra hne
        have hflagq := hall j q hq
        rw [hqname, hlatest, markAt, hqname, if_neg (fun h => hne (Option.some.inj (hi.symm.trans h))),
          flagged_self (not_marked hq)] at hflagq
        exact hflagq l hl (hname.trans hqname.symm)
      exact fun j k hj hk => (honly j hj).symm.trans (honly k hk)
  · intro hgood i p hp
    have hfresh := not_marked hp
    have hn : (installed.map Prod.fst)[i]? = some p.name := getElem?_collected.mpr ⟨p, hp, rfl⟩
    obtain ⟨hin, hout⟩ := hgood p.name (List.mem_of_getElem? hn)
    by_cases hline : ∃ l ∈ updates o, l.name = p.name
    · obtain ⟨honce, l, hl, hname, hlatest⟩ := hin hline
      obtain ⟨j, q, hj, hq, hqname⟩ := exists_index (List.mem_of_getElem? hn)
      obtain rfl := honce i j hn (getElem?_collected.mpr ⟨q, hq, hqname⟩)
      rw [hlatest, markAt, if_pos hj]
      exact (flagged_mark hfresh).mpr ⟨l, hl, hname, rfl⟩
    · have hnone : ∀ l ∈ updates o, l.name ≠ p.name := fun l hl hname => hline ⟨l, hl, hname⟩
      rw [hout hnone]
      exact (flagged_self hfresh).mpr hnone

/-- The latest version of a name is one of its lines. -/
theorem latest_eq_some {us : List (GoString × GoString)} {n version : GoString}
    (h : latest us n = some version) : (n, version) ∈ us := by
  induction us with
  | nil => cases h
  | cons u us ih =>
    rcases Option.or_eq_some_iff.mp h with hrest | ⟨-, hu⟩
    · exact List.mem_cons_of_mem u (ih hrest)
    · rw [versionFor] at hu
      split at hu
      · obtain rfl := Option.some.inj hu
        exact ‹u.1 = n› ▸ List.mem_cons_self
      · cases hu

/-- A name that is in a line has a latest version. -/
theorem latest_ne_none {us : List (GoString × GoString)} {n version : GoString}
    (h : (n, version) ∈ us) : latest us n ≠ none := by
  induction us with
  | nil => cases h
  | cons u us ih =>
    rw [latest, ne_eq, Option.or_eq_none_iff, not_and_or]
    rcases List.mem_cons.mp h with rfl | h
    · exact .inr (by simp [versionFor])
    · exact .inl (ih h)

/-- Stems are no matter for names without the separator, in lines that are read, of packages that are
    installed once. -/
theorem unmistakable_of_plain {tool : Tool} {o : List OutputLine} {names : List GoString}
    (hfits : ∀ l ∈ o, fitsBuffer (l.text tool) = true) (hplain : ∀ l ∈ updates o, tool.sep ∉ l.name)
    (honce : ∀ l ∈ updates o, Once names l.name) : Unmistakable tool o names := by
  have hstems : stems tool o = (updates o).map fun l => (l.name, l.version) := by
    rw [stems, scanned, List.takeWhile_eq_self_iff.mpr hfits]
    refine List.map_congr_left fun l hl => ?_
    have hstem : l.stem tool = l.name :=
      List.takeWhile_eq_self_iff.mpr fun r hr => decide_eq_true fun h => hplain l hl (h ▸ hr)
    rw [hstem]
  intro n _
  rw [hstems]
  cases hlatest : latest ((updates o).map fun l => (l.name, l.version)) n with
  | none =>
    refine ⟨?_, fun _ => rfl⟩
    rintro ⟨l, hl, rfl⟩
    exact (latest_ne_none (List.mem_map.mpr ⟨l, hl, rfl⟩) hlatest).elim
  | some version =>
    obtain ⟨l, hl, heq⟩ := List.mem_map.mp (latest_eq_some hlatest)
    obtain ⟨rfl, rfl⟩ := Prod.mk.inj heq
    exact ⟨fun _ => ⟨honce l hl, l, hl, rfl, rfl⟩, fun hnone => (hnone l hl rfl).elim⟩

/-- An update of bash for dnf. -/
def bashLine : UpdateLine :=
  ⟨.ofString "bash", .ofString "x86_64", .ofString "    ", .ofString "5.2.26-1", .ofString "  updates"⟩

theorem bashLine_wellFormed : bashLine.WellFormed .dnf :=
  ⟨by decide, by decide, by decide, by decide, by decide, by decide, by decide, by decide⟩

/-- An update of a package with a version that has an epoch. -/
def opensslLine : UpdateLine :=
  ⟨.ofString "openssl-libs", .ofString "x86_64", .ofString "  ", .ofString "1:3.2.2-6", .ofString "  updates"⟩

/-- What dnf prints: the age of the metadata, an empty line, and two updates. -/
def dnfLines : List OutputLine :=
  [.note (.ofString "Last metadata expiration check: 0:10:00 ago."), .note [], .update opensslLine,
    .update bashLine]

/-- Three packages, and no update of the second. -/
def dnfInstalled : List (GoString × GoString) :=
  [(.ofString "bash", .ofString "5.1.8-6"), (.ofString "vim-minimal", .ofString "9.0.1-1"),
    (.ofString "openssl-libs", .ofString "1:3.0.7-2")]

/-- In a list without duplicates a name is there once. -/
theorem once_of_nodup {names : List GoString} (h : names.Nodup) (n : GoString) : Once names n := by
  intro i j hi hj
  obtain ⟨hlt, -⟩ := List.getElem?_eq_some_iff.mp hi
  exact (List.getElem?_inj hlt h).mp (hi.trans hj.symm)

theorem dnfLines_wellFormed : ∀ l ∈ dnfLines, l.WellFormed .dnf := by
  intro l hl
  rcases List.mem_cons.mp hl with rfl | hl
  · exact ⟨by decide, .inr (by decide)⟩
  · rcases List.mem_cons.mp hl with rfl | hl
    · exact ⟨by decide, .inl (by decide)⟩
    · rcases List.mem_cons.mp hl with rfl | hl
      · exact ⟨by decide, by decide, by decide, by decide, by decide, by decide, by decide, by decide⟩
      · rw [List.mem_singleton.mp hl]
        exact bashLine_wellFormed

/-- Two lines about packages among the others, and a package without an update. -/
theorem flags_match_iff_bash :
    Matches [opensslLine, bashLine] (collected dnfInstalled)
      (applyDnfUpdates (output .dnf dnfLines) (collected dnfInstalled)) :=
  (flags_match_iff .dnf dnfInstalled dnfLines dnfLines_wellFormed).mpr
    (unmistakable_of_plain (by decide) (by decide) fun l _ => once_of_nodup (by decide) l.name)

/-- An update of a package whose name has a dot. -/
def pythonLine : UpdateLine :=
  ⟨.ofString "python3.11", .ofString "x86_64", .ofString "    ", .ofString "3.11.5-1", .ofString "  updates"⟩

/-- Two installed packages; the name of the first is the beginning of the other's, up to its dot. -/
def pythons : List (GoString × GoString) :=
  [(.ofString "python3", .ofString "3.9.18-1"), (.ofString "python3.11", .ofString "3.11.2-1")]

theorem pythonLine_wellFormed : pythonLine.WellFormed .dnf :=
  ⟨by decide, by decide, by decide, by decide, by decide, by decide, by decide, by decide⟩

/-- The wrong package is marked. -/
theorem dotted_name_marks_other :
    applyDnfUpdates (output .dnf [.update pythonLine]) (collected pythons) =
      [⟨.ofString "python3", .ofString "3.9.18-1", true, .ofString "3.11.5-1"⟩,
        ⟨.ofString "python3.11", .ofString "3.11.2-1", false, []⟩] ∧
    ¬ Matches [pythonLine] (collected pythons)
      (applyDnfUpdates (output .dnf [.update pythonLine]) (collected pythons)) := by
  have hstems : stems .dnf [.update pythonLine] = [(.ofString "python3", .ofString "3.11.5-1")] := by decide
  have hwf : ∀ l ∈ [OutputLine.update pythonLine], l.WellFormed .dnf := fun l hl =>
    List.mem_singleton.mp hl ▸ pythonLine_wellFormed
  have hrun := apply_output hwf (collected pythons)
  rw [hstems] at hrun
  have hrun' : applyDnfUpdates (output .dnf [.update pythonLine]) (collected pythons) =
      [⟨.ofString "python3", .ofString "3.9.18-1", true, .ofString "3.11.5-1"⟩,
        ⟨.ofString "python3.11", .ofString "3.11.2-1", false, []⟩] := hrun.trans rfl
  refine ⟨hrun', ?_⟩
  rw [hrun']
  rintro (_ | ⟨hfirst, -⟩)
  rcases hfirst with ⟨hsame, -⟩ | ⟨l, hl, hname, -⟩
  · cases congrArg SoftwarePackage.updateAvailable hsame
  · rw [List.mem_singleton.mp hl] at hname
    revert hname
    decide

end PackageUpdates

end Agent

end Dtsys
