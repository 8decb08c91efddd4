/-
  VERSIONS of the agent (`updater/updater.go`): when is an advertised version newer?

  1. **Program** — `parseSemver` trims blanks and a `v`, splits at the dots and reads the first three
     parts with `Atoi`: parts may carry a sign and be missing (then they are 0), and what comes after
     the third part is not looked at.  `isNewerVersion` compares part by part.

  2. **Specification** — the numbers in the lexicographic order: `isNewerVersion_iff`.

  3. So on the strings that `parseSemver` accepts `Newer` is a strict weak order, and two versions
     are incomparable exactly if they are read as the same three numbers (`newer_incomparable_iff`).  A
     version string itself is no key: `1.2`, ` v1.2.0` and `1.+2.0.9` are all the same version.
-/
import Dtsys.Agent.Events
import Dtsys.Lib.Framing
import Mathlib.Data.List.Lex

namespace Dtsys

namespace Agent

/-! ## Reading a version -/

/-- A decimal digit. -/
def digitValue : GoRune → Option Nat
  | .char c => if '0' ≤ c ∧ c ≤ '9' then some (c.toNat - '0'.toNat) else none
  | .invalid _ => none

/-- At least one digit, and nothing else. -/
def decimal (s : GoString) : Option Nat :=
  if s = [] then none else s.foldlM (fun n r => (digitValue r).map (10 * n + ·)) 0

/-- `strconv.Atoi`, for an `int` of 64 bits: one sign is allowed. -/
def atoi : GoString → Option Int
  | .char '-' :: s => (decimal s).bind fun n => if n ≤ 2 ^ 63 then some (-n) else none
  | .char '+' :: s => (decimal s).bind fun n => if n < 2 ^ 63 then some n else none
  | s => (decimal s).bind fun n => if n < 2 ^ 63 then some n else none

/-- `strings.TrimPrefix`. -/
def trimPrefix (p s : GoString) : GoString := if p.isPrefixOf s then s.drop p.length else s

/-- The `[3]int` of a version. -/
structure Semver where
  major : Int
  minor : Int
  patch : Int
  deriving DecidableEq, Repr

/-- The numbers in the order in which they are compared. -/
def Semver.parts (v : Semver) : List Int := [v.major, v.minor, v.patch]

/-- `none` is the error of the first part that is no number. -/
def parseSemver (version : GoString) : Option Semver :=
  let trimmed := trimPrefix [.char 'v'] (trimSpace version)
  (((Framing.splitOn [.char '.'] trimmed).take 3).mapM atoi).map fun numbers =>
    ⟨numbers.getD 0 0, numbers.getD 1 0, numbers.getD 2 0⟩

/-- The loop of `isNewerVersion`, over the parts of both versions. -/
def newerParts : List (Int × Int) → Bool
  | [] => false
  | (remote, current) :: rest =>
    if remote > current then true
    else if remote < current then false
    else newerParts rest

/-- `none` is an error: one of the versions cannot be read. -/
def isNewerVersion (remoteVersion currentVersion : GoString) : Option Bool := do
  let remote ← parseSemver remoteVersion
  let current ← parseSemver currentVersion
  return newerParts (remote.parts.zip current.parts)

/-- `versionResponse`. -/
structure VersionResponse where
  version : GoString
  downloadUrl : GoString
  deriving DecidableEq, Repr

/-- What `CheckAndUpdate` makes of a response: download or not; `none` is an error. -/
def VersionResponse.wanted (payload : VersionResponse) (currentVersion : GoString) : Option Bool :=
  if payload.version = [] ∨ payload.downloadUrl = [] then some false
  else isNewerVersion payload.version currentVersion

/-! ## The order -/

/-- `v` would be installed over `w`. -/
def Newer (v w : GoString) : Prop := isNewerVersion v w = some true

instance (v w : GoString) : Decidable (Newer v w) := inferInstanceAs (Decidable (_ = _))

/-- The loop finds the lexicographic order. -/
theorem newerParts_zip : ∀ {remote current : List Int}, remote.length = current.length →
    (newerParts (remote.zip current) = true ↔ current < remote) := by
  intro remote
  induction remote with
  | nil =>
    intro current hlen
    obtain rfl : current = [] := List.eq_nil_of_length_eq_zero hlen.symm
    simp [newerParts]
  | cons r remote ih =>
    intro current hlen
    cases current with
    | nil => simp at hlen
    | cons c current =>
      have hlen' : remote.length = current.length := by simpa using hlen
      have hrest := ih hlen'
      rw [List.zip_cons_cons, newerParts, List.cons_lt_cons_iff]
      rcases lt_trichotomy r c with hlt | rfl | hgt
      · rw [if_neg (by omega), if_pos hlt]
        constructor
        · intro h
          cases h
        · rintro (h | ⟨h, -⟩) <;> omega
      · rw [if_neg (by omega), if_neg (by omega), hrest]
        simp
      · rw [if_pos hgt]
        exact iff_of_true rfl (.inl hgt)

theorem parts_injective : Function.Injective Semver.parts := by
  intro v w h
  obtain ⟨a, b, c⟩ := v
  obtain ⟨x, y, z⟩ := w
  simpa [Semver.parts] using h

/-- `isNewerVersion` has an answer for the versions that can be read, and it compares what is read. -/
theorem isNewerVersion_of_parse {v w : GoString} {a b : Semver} (hv : parseSemver v = some a)
    (hw : parseSemver w = some b) : isNewerVersion v w = some (decide (b.parts < a.parts)) := by
  rw [isNewerVersion, hv, hw]
  show some (newerParts (a.parts.zip b.parts)) = _
  refine congrArg some ?_
  have hlen : a.parts.length = b.parts.length := rfl
  rw [Bool.eq_iff_iff, newerParts_zip hlen, decide_eq_true_iff]

/-- `newerThan` compares the numbers in their order. -/
theorem newer_iff {v w : GoString} :
    Newer v w ↔ ∃ a b, parseSemver v = some a ∧ parseSemver w = some b ∧ b.parts < a.parts := by
  constructor
  · intro h
    obtain ⟨a, hv, h⟩ := Option.bind_eq_some_iff.mp h
    obtain ⟨b, hw, -⟩ := Option.bind_eq_some_iff.mp h
    refine ⟨a, b, hv, hw, ?_⟩
    have hnewer := (isNewerVersion_of_parse hv hw).symm.trans ‹isNewerVersion v w = some true›
    simpa using hnewer
  · rintro ⟨a, b, hv, hw, hlt⟩
    rw [Newer, isNewerVersion_of_parse hv hw, decide_eq_true hlt]

theorem newer_trans {u v w : GoString} (huv : Newer u v) (hvw : Newer v w) : Newer u w := by
  obtain ⟨a, b, hu, hv, hba⟩ := newer_iff.mp huv
  obtain ⟨b', c, hv', hw, hcb⟩ := newer_iff.mp hvw
  obtain rfl : b = b' := Option.some.inj (hv.symm.trans hv')
  exact newer_iff.mpr ⟨a, c, hu, hw, hcb.trans hba⟩

/-- No version is newer than itself. -/
theorem not_newer_self (v : GoString) : ¬ Newer v v := by
  intro h
  obtain ⟨a, b, ha, hb, hlt⟩ := newer_iff.mp h
  obtain rfl : a = b := Option.some.inj (ha.symm.trans hb)
  exact lt_irrefl _ hlt

/-- Nothing is downloaded that is not newer. -/
theorem VersionResponse.newer_of_wanted {payload : VersionResponse} {current : GoString}
    (h : payload.wanted current = some true) : Newer payload.version current := by
  rw [VersionResponse.wanted] at h
  split at h
  · cases h
  · exact h

/-- The strings that `parseSemver` accepts. -/
abbrev Accepted := { v : GoString // (parseSemver v).isSome = true }

/-- The three numbers of an accepted string. -/
def Accepted.semver (v : Accepted) : Semver := (parseSemver v.1).get v.2

/-- An accepted version has a semantic version. -/
theorem Accepted.parse (v : Accepted) : parseSemver v.1 = some v.semver := (Option.some_get v.2).symm

/-- Accepted versions are compared by their numbers. -/
theorem Accepted.newer_iff {v w : Accepted} : Newer v.1 w.1 ↔ w.semver.parts < v.semver.parts := by
  rw [Newer, isNewerVersion_of_parse v.parse w.parse]
  simp

/-- Neither of two versions is newer exactly if they are read as the same numbers. -/
theorem newer_incomparable_iff (v w : Accepted) :
    (¬ Newer v.1 w.1 ∧ ¬ Newer w.1 v.1) ↔ parseSemver v.1 = parseSemver w.1 := by
  rw [Accepted.newer_iff, Accepted.newer_iff, not_lt, not_lt, v.parse, w.parse, Option.some.injEq]
  constructor
  · rintro ⟨hle, hge⟩
    exact parts_injective (le_antisymm hle hge)
  · intro h
    rw [h]
    exact ⟨le_refl _, le_refl _⟩

/-- **`isNewerVersion` is a strict weak order** on what `parseSemver` accepts. -/
theorem newer_strictWeakOrder : IsStrictWeakOrder Accepted fun v w => Newer v.1 w.1 where
  irrefl v := not_newer_self v.1
  trans _ _ _ := newer_trans
  incomp_trans u v w huv hvw := by
    rw [newer_incomparable_iff] at huv hvw ⊢
    exact huv.trans hvw

example : parseSemver (.ofString " v1.2") = some ⟨1, 2, 0⟩ ∧
    parseSemver (.ofString "1.+2.0.rc1") = some ⟨1, 2, 0⟩ ∧ parseSemver (.ofString "1.2-rc1") = none := by
  decide

end Agent

end Dtsys
