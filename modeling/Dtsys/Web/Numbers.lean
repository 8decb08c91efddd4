/-
  The NUMBERS of the web page: what `Number(text)` reads and what `+`, `-` and `%` make of it.

  A `number` is a double: NaN, an infinity, or a rational one of the format.  Every operation is the
  exact one, rounded to the nearest double, ties to even.  The sign of a zero is left out, since
  neither `===` nor `includes` sees it.

  * `Number.ofText` — `Number(text)`: decimal, `0x`, `0o` and `0b` literals, NaN for other texts.
  * `sequence` — `Array.from({ length }, (_, index) => start + index)`, which raises for a length
    that no array has.
  * `add_int`, `sub_int`, `divides_int`, `ofText_of_digits` — on integers of up to 53 bits all this is
    exact, and a run of digits is read as the number it is.
-/
import Dtsys.Server.Values
import Mathlib.Algebra.Order.Floor.Ring
import Mathlib.Data.List.TakeWhile
import Mathlib.Data.Rat.Lemmas
import Mathlib.Tactic.FieldSimp

namespace Dtsys

namespace Web

/-- A `number`. -/
inductive Number
  | nan
  | infinity (negative : Bool)
  | finite (q : Rat)
  deriving DecidableEq

namespace Number

/-! ## Rounding -/

/-- `2 ^ e`. -/
def pow2 (e : Int) : Rat := if 0 ≤ e then 2 ^ e.toNat else 1 / 2 ^ (-e).toNat

/-- The exponent `e` with `2 ^ e ≤ q < 2 ^ (e + 1)`, for a positive `q`. -/
def exponent (q : Rat) : Int :=
  let e : Int := (Nat.log2 q.num.natAbs : Int) - (Nat.log2 q.den : Int)
  if pow2 e ≤ q then e else e - 1

/-- The double nearest to `q`: 53 bits, none below `2 ^ -1074`. -/
def round (q : Rat) : Number :=
  if q = 0 then .finite 0 else
    let unit := pow2 (max (exponent |q| - 52) (-1074))
    let r := roundHalfEven (q / unit) * unit
    if 2 ^ 1024 ≤ |r| then .infinity (decide (q < 0)) else .finite r

/-- A whole number. -/
def ofInt (n : Int) : Number := .finite n

/-! ## Operations -/

/-- `x + y`. -/
def add : Number → Number → Number
  | .nan, _ => .nan
  | _, .nan => .nan
  | .infinity s, .infinity t => if s = t then .infinity s else .nan
  | .infinity s, .finite _ => .infinity s
  | .finite _, .infinity t => .infinity t
  | .finite p, .finite q => round (p + q)

/-- `-x`. -/
def neg : Number → Number
  | .nan => .nan
  | .infinity s => .infinity (!s)
  | .finite q => .finite (-q)

/-- `x - y`. -/
def sub (x y : Number) : Number := x.add y.neg

/-- `x % y === 0`. -/
def divides (y x : Number) : Bool :=
  match x, y with
  | .finite p, .finite q => q != 0 && (p / q).den == 1
  | .finite p, .infinity _ => p == 0
  | _, _ => false

/-- The length of an array that is to have `x` elements (`ToLength`), or the `RangeError`. -/
def arrayLength : Number → Option Nat
  | .nan => some 0
  | .infinity negative => if negative then some 0 else none
  | .finite q => if q < 1 then some 0 else if 2 ^ 32 ≤ q then none else some ⌊q⌋.toNat

/-- `Array.from({ length }, (_, index) => start + index)`. -/
def sequence (start length : Number) : Option (List Number) :=
  length.arrayLength.map fun n => (List.range n).map fun index : Nat => start.add (ofInt index)

/-! ## Texts -/

/-- What `trim` and `\s` take for a space. -/
def isSpace (c : Char) : Bool :=
  let n := c.toNat
  (9 ≤ n && n ≤ 13) || n == 0x20 || n == 0xA0 || n == 0x1680 || (0x2000 ≤ n && n ≤ 0x200A) ||
    n == 0x2028 || n == 0x2029 || n == 0x202F || n == 0x205F || n == 0x3000 || n == 0xFEFF

/-- `text.trim()`. -/
def trim (cs : List Char) : List Char :=
  ((cs.dropWhile isSpace).reverse.dropWhile isSpace).reverse

/-- A digit, of a base up to 16. -/
def digit (base : Nat) (c : Char) : Option Nat :=
  let n := c.toNat
  let v := if 48 ≤ n ∧ n ≤ 57 then n - 48
    else if 65 ≤ n ∧ n ≤ 70 then n - 55
    else if 97 ≤ n ∧ n ≤ 102 then n - 87
    else base
  if v < base then some v else none

/-- At least one digit, and nothing else. -/
def digits (base : Nat) (cs : List Char) : Option Nat :=
  if cs = [] then none
  else cs.foldlM (fun n c => (digit base c).map fun d => n * base + d) 0

/-- A sign, and what comes after it. -/
def signed : List Char → Bool × List Char
  | '+' :: cs => (false, cs)
  | '-' :: cs => (true, cs)
  | cs => (false, cs)

/-- `ExponentPart`, which may be left out. -/
def exponentPart : List Char → Option Int
  | [] => some 0
  | c :: cs =>
    if c = 'e' ∨ c = 'E' then
      (digits 10 (signed cs).2).map fun n => if (signed cs).1 then -(n : Int) else n
    else none

/-- `StrUnsignedDecimalLiteral`, `Infinity` apart. -/
def unsignedDecimal (cs : List Char) : Option Rat :=
  let (whole, rest) := cs.span Char.isDigit
  let (fraction, rest) := match rest with
    | '.' :: after => after.span Char.isDigit
    | _ => ([], rest)
  match digits 10 (whole ++ fraction), exponentPart rest with
  | some n, some e =>
    let places := e - (fraction.length : Int)
    some (if 0 ≤ places then n * 10 ^ places.toNat else n / 10 ^ (-places).toNat)
  | _, _ => none

/-- `StrDecimalLiteral`. -/
def decimal (cs : List Char) : Number :=
  let (negative, cs) := signed cs
  if cs = "Infinity".toList then .infinity negative
  else match unsignedDecimal cs with
    | some q => round (if negative then -q else q)
    | none => .nan

/-- A literal with a prefix for its base. -/
def ofRadix (base : Nat) (cs : List Char) : Number :=
  match digits base cs with
  | some n => round n
  | none => .nan

/-- `Number(text)`. -/
def ofText (text : List Char) : Number :=
  match trim text with
  | [] => .finite 0
  | '0' :: c :: cs =>
    if c = 'x' ∨ c = 'X' then ofRadix 16 cs
    else if c = 'o' ∨ c = 'O' then ofRadix 8 cs
    else if c = 'b' ∨ c = 'B' then ofRadix 2 cs
    else decimal ('0' :: c :: cs)
  | cs => decimal cs

/-! ## Integers

Up to 53 bits they are doubles, and the operations are those of the integers. -/

/-- A whole number is its own rounding. -/
theorem roundHalfEven_int (n : Int) : roundHalfEven (n : Rat) = n := by
  unfold roundHalfEven
  dsimp only
  rw [Int.floor_intCast, sub_self, if_pos (by norm_num)]

/-- Below 53 bits the last place is worth at most one. -/
theorem exponent_int {n : Int} (h : n.natAbs < 2 ^ 53) : exponent |(n : Rat)| ≤ 52 := by
  have hnum : |(n : Rat)| = (n.natAbs : Rat) := by
    rw [← Int.cast_abs, Int.abs_eq_natAbs, Int.cast_natCast]
  have hlog : (Nat.log2 n.natAbs : Int) ≤ 52 := by
    by_cases hzero : n.natAbs = 0
    · rw [hzero]
      decide
    · have hlt := (Nat.log2_lt hzero).mpr h
      omega
  have hone : Nat.log2 1 = 0 := by decide
  unfold exponent
  rw [hnum, Rat.num_natCast, Rat.den_natCast, Int.natAbs_natCast, hone]
  dsimp only
  split
  · omega
  · omega

theorem pow2_of_nonpos {e : Int} (h : e ≤ 0) : pow2 e = 1 / 2 ^ (-e).toNat := by
  rw [pow2]
  split
  · next hnonneg =>
    obtain rfl : e = 0 := le_antisymm h hnonneg
    norm_num
  · rfl

/-- An integer of up to 53 bits is a double. -/
theorem round_int {n : Int} (h : n.natAbs < 2 ^ 53) : round (n : Rat) = ofInt n := by
  have hsmall : ¬ (2 : Rat) ^ 1024 ≤ |(n : Rat)| := by
    have hcast : |(n : Rat)| < 2 ^ 53 := by
      rw [← Int.cast_abs, Int.abs_eq_natAbs, Int.cast_natCast]
      exact_mod_cast h
    have hpow : (2 : Rat) ^ 53 ≤ 2 ^ 1024 := pow_le_pow_right₀ (by norm_num) (by norm_num)
    exact not_le.mpr (lt_of_lt_of_le hcast hpow)
  rw [round, ofInt]
  by_cases hzero : (n : Rat) = 0
  · rw [if_pos hzero, hzero]
  · rw [if_neg hzero]
    have hunit := pow2_of_nonpos (e := max (exponent |(n : Rat)| - 52) (-1074))
      (by have := exponent_int h; omega)
    generalize (-max (exponent |(n : Rat)| - 52) (-1074)).toNat = k at hunit
    have hscaled : (n : Rat) / (1 / 2 ^ k) = ((n * 2 ^ k : Int) : Rat) := by
      push_cast
      field_simp
    have hback : ((n * 2 ^ k : Int) : Rat) * (1 / 2 ^ k) = n := by
      rw [← hscaled]
      exact div_mul_cancel₀ _ (by positivity)
    dsimp only
    rw [hunit, hscaled, roundHalfEven_int, hback, if_neg hsmall]

/-- Below 2^53 a sum is exact. -/
theorem add_int {a b : Int} (h : (a + b).natAbs < 2 ^ 53) :
    (ofInt a).add (ofInt b) = ofInt (a + b) := by
  rw [← round_int h, Int.cast_add]
  rfl

theorem sub_int {a b : Int} (h : (a - b).natAbs < 2 ^ 53) :
    (ofInt a).sub (ofInt b) = ofInt (a - b) := by
  rw [← round_int h, Int.cast_sub, sub_eq_add_neg]
  rfl

theorem divides_int (s x : Int) : (ofInt s).divides (ofInt x) = decide (s ≠ 0 ∧ s ∣ x) := by
  show ((s : Rat) != 0 && ((x : Rat) / (s : Rat)).den == 1) = _
  by_cases hs : s = 0
  · subst hs
    simp
  · rw [Bool.eq_iff_iff, Bool.and_eq_true, bne_iff_ne, beq_iff_eq,
      Rat.den_div_intCast_eq_one_iff x s hs, decide_eq_true_eq, Int.cast_ne_zero]

theorem arrayLength_int {n : Int} (h : n < 2 ^ 32) : (ofInt n).arrayLength = some n.toNat := by
  have hlarge : ¬ (2 : Rat) ^ 32 ≤ (n : Rat) := by
    exact_mod_cast not_le.mpr h
  show (if (n : Rat) < 1 then some 0 else if (2 : Rat) ^ 32 ≤ (n : Rat) then none
    else some ⌊(n : Rat)⌋.toNat) = _
  by_cases hone : n < 1
  · have hzero : n.toNat = 0 := by omega
    rw [if_pos (by exact_mod_cast hone), hzero]
  · rw [if_neg (by exact_mod_cast hone), if_neg hlarge, Int.floor_intCast]

/-! ## Large steps

A step of more than 53 bits is rounded, or infinite, but far larger than any value it is tried on. -/

/-- Rounding does not go below the floor. -/
theorem floor_le_roundHalfEven (x : Rat) : ⌊x⌋ ≤ roundHalfEven x := by
  unfold roundHalfEven
  dsimp only
  split_ifs <;> omega

theorem exponent_nat {n : Nat} (h : n ≠ 0) : exponent |(n : Rat)| = Nat.log2 n := by
  have habs : |(n : Rat)| = n := abs_of_nonneg (by positivity)
  have hlog : Nat.log2 1 = 0 := by decide
  have hle : pow2 (Nat.log2 n : Int) ≤ (n : Rat) := by
    rw [pow2, if_pos (by omega), Int.toNat_natCast]
    exact_mod_cast Nat.log2_self_le h
  rw [exponent, habs, Rat.num_natCast, Rat.den_natCast, Int.natAbs_natCast, hlog, Nat.cast_zero,
    sub_zero, if_pos hle]

/-- Rounding a large number leaves it large. -/
theorem round_large {n : Nat} (h : 2 ^ 53 ≤ n) :
    (∃ negative, round (n : Rat) = .infinity negative) ∨
      ∃ r : Rat, round (n : Rat) = .finite r ∧ 2 ^ 52 ≤ r := by
  have hne : n ≠ 0 := by omega
  have hcast : (n : Rat) ≠ 0 := Nat.cast_ne_zero.mpr hne
  have hlog : 53 ≤ Nat.log2 n := (Nat.le_log2 hne).mpr h
  obtain ⟨k, hk⟩ : ∃ k, Nat.log2 n = k + 52 := ⟨Nat.log2 n - 52, by omega⟩
  have hunit : pow2 (max (exponent |(n : Rat)| - 52) (-1074)) = 2 ^ k := by
    have hmax : max ((Nat.log2 n : Int) - 52) (-1074) = (k : Int) := by omega
    rw [exponent_nat hne, hmax, pow2, if_pos (by omega), Int.toNat_natCast]
  have hpos : (0 : Rat) < 2 ^ k := by positivity
  have hscaled : ((2 ^ 52 : Int) : Rat) ≤ (n : Rat) / 2 ^ k := by
    rw [le_div_iff₀ hpos]
    have hself := Nat.log2_self_le hne
    rw [hk, pow_add, mul_comm] at hself
    push_cast
    exact_mod_cast hself
  have hround : (2 ^ 52 : Int) ≤ roundHalfEven ((n : Rat) / 2 ^ k) :=
    (Int.le_floor.mpr hscaled).trans (floor_le_roundHalfEven _)
  have hlarge : (2 ^ 52 : Rat) ≤ roundHalfEven ((n : Rat) / 2 ^ k) * 2 ^ k := by
    have hone : (1 : Rat) ≤ 2 ^ k := one_le_pow₀ (by norm_num)
    have hfirst : (2 ^ 52 : Rat) ≤ roundHalfEven ((n : Rat) / 2 ^ k) := by exact_mod_cast hround
    calc (2 ^ 52 : Rat) ≤ roundHalfEven ((n : Rat) / 2 ^ k) := hfirst
      _ = roundHalfEven ((n : Rat) / 2 ^ k) * 1 := (mul_one _).symm
      _ ≤ roundHalfEven ((n : Rat) / 2 ^ k) * 2 ^ k :=
        mul_le_mul_of_nonneg_left hone (le_trans (by norm_num) hfirst)
  rw [round, if_neg hcast]
  dsimp only
  rw [hunit]
  split
  · exact .inl ⟨_, rfl⟩
  · exact .inr ⟨_, rfl, hlarge⟩

/-- Nothing but zero is a multiple of something larger. -/
theorem den_div_eq_one_iff {d r : Rat} (hd : 0 ≤ d) (hlt : d < r) : (d / r).den = 1 ↔ d = 0 := by
  have hpos : 0 < r := lt_of_le_of_lt hd hlt
  constructor
  · intro hden
    have hint : ((d / r).num : Rat) = d / r := Rat.coe_int_num_of_den_eq_one hden
    have hlow : (0 : Rat) ≤ d / r := div_nonneg hd hpos.le
    have hhigh : d / r < 1 := (div_lt_one hpos).mpr hlt
    rw [← hint] at hlow hhigh
    have hlow : 0 ≤ (d / r).num := by exact_mod_cast hlow
    have hhigh : (d / r).num < 1 := by exact_mod_cast hhigh
    have hzero : (d / r).num = 0 := by omega
    rw [hzero, Int.cast_zero] at hint
    exact (div_eq_zero_iff.mp hint.symm).resolve_right hpos.ne'
  · rintro rfl
    rw [zero_div]
    rfl

/-- **Steps of any size**: what they divide is what the numbers divide. -/
theorem divides_round {n d : Nat} (hn : 0 < n) (hd : d < 2 ^ 52) :
    (round (n : Rat)).divides (ofInt d) = (d % n == 0) := by
  rcases Nat.lt_or_ge n (2 ^ 53) with hsmall | hlarge
  · have hint : round (n : Rat) = ofInt n := round_int (n := n) (by rwa [Int.natAbs_natCast])
    rw [hint, divides_int, Bool.eq_iff_iff, decide_eq_true_eq, beq_iff_eq, Int.natCast_dvd_natCast,
      Nat.dvd_iff_mod_eq_zero]
    exact ⟨fun h => h.2, fun h => ⟨by omega, h⟩⟩
  · have hmod : d % n = d := Nat.mod_eq_of_lt (by omega)
    have hzero : ((d : Int) : Rat) = 0 ↔ d = 0 := by
      rw [Int.cast_natCast, Nat.cast_eq_zero]
    rw [hmod]
    rcases round_large hlarge with ⟨negative, hround⟩ | ⟨r, hround, hr⟩
    · rw [hround, Bool.eq_iff_iff, beq_iff_eq]
      show (((d : Int) : Rat) == 0) = true ↔ d = 0
      rw [beq_iff_eq, hzero]
    · have hlt : ((d : Int) : Rat) < r := by
        refine lt_of_lt_of_le ?_ hr
        exact_mod_cast hd
      have hne : (r != 0) = true := by
        rw [bne_iff_ne]
        exact (lt_of_lt_of_le (by norm_num) hr).ne'
      rw [hround, Bool.eq_iff_iff, beq_iff_eq]
      show (r != 0 && (((d : Int) : Rat) / r).den == 1) = true ↔ d = 0
      rw [hne, Bool.true_and, beq_iff_eq, den_div_eq_one_iff (by positivity) hlt, hzero]

/-! ## What is no number -/

theorem add_nan (x : Number) : x.add .nan = .nan := by
  cases x with
  | nan => rfl
  | infinity negative => rfl
  | finite q => rfl

theorem sub_nan (x : Number) : x.sub .nan = .nan := add_nan x

theorem not_nan_divides (x : Number) : (Number.nan).divides x = false := by
  cases x with
  | nan => rfl
  | infinity negative => rfl
  | finite q => rfl

/-! ## Digits -/

theorem toNat_of_isDigit {c : Char} (h : c.isDigit = true) : 48 ≤ c.toNat ∧ c.toNat ≤ 57 := by
  rw [Char.isDigit, Bool.and_eq_true, decide_eq_true_eq, decide_eq_true_eq] at h
  exact h

theorem isSpace_of_isDigit {c : Char} (h : c.isDigit = true) : isSpace c = false := by
  have hrange := toNat_of_isDigit h
  rw [isSpace]
  simp only [Bool.or_eq_false_iff, Bool.and_eq_false_iff, decide_eq_false_iff_not,
    beq_eq_false_iff_ne]
  omega

theorem digit_of_isDigit {c : Char} (h : c.isDigit = true) : digit 10 c = some (c.toNat - 48) := by
  have hrange := toNat_of_isDigit h
  unfold digit
  dsimp only
  rw [if_pos hrange, if_pos (by omega)]

/-- A run of digits is read as a number. -/
theorem digits_eq {cs : List Char} (hne : cs ≠ []) (h : ∀ c ∈ cs, c.isDigit = true) :
    digits 10 cs = some (Nat.ofDigitChars 10 cs 0) := by
  have hfold : ∀ (cs : List Char) (n : Nat), (∀ c ∈ cs, c.isDigit = true) →
      cs.foldlM (fun n c => (digit 10 c).map fun d => n * 10 + d) n =
        some (Nat.ofDigitChars 10 cs n) := by
    intro cs
    induction cs with
    | nil => exact fun _ _ => rfl
    | cons c cs ih =>
      intro n h
      rw [List.foldlM_cons, digit_of_isDigit (h c List.mem_cons_self), Option.map_some,
        Nat.ofDigitChars_cons, Nat.mul_comm]
      exact ih _ fun d hd => h d (List.mem_cons_of_mem _ hd)
  rw [digits, if_neg hne, hfold cs 0 h]

theorem dropWhile_of_forall {p : Char → Bool} {cs : List Char} (h : ∀ c ∈ cs, p c = false) :
    cs.dropWhile p = cs := by
  cases cs with
  | nil => rfl
  | cons c cs => rw [List.dropWhile_cons, h c List.mem_cons_self, if_neg Bool.false_ne_true]

theorem trim_eq {cs : List Char} (h : ∀ c ∈ cs, isSpace c = false) : trim cs = cs := by
  have hback : ∀ c ∈ cs.reverse, isSpace c = false := fun c hc => h c (List.mem_reverse.mp hc)
  rw [trim, dropWhile_of_forall h, dropWhile_of_forall hback, List.reverse_reverse]

/-- A text that begins with a digit has no sign. -/
theorem signed_of_isDigit {c : Char} (h : c.isDigit = true) (cs : List Char) :
    signed (c :: cs) = (false, c :: cs) := by
  unfold signed
  split
  · next heq =>
    obtain ⟨rfl, -⟩ := List.cons.inj heq
    exact absurd h (by decide)
  · next heq =>
    obtain ⟨rfl, -⟩ := List.cons.inj heq
    exact absurd h (by decide)
  · rfl

/-- Without spaces, and if no letter comes second, a text that begins with a digit is decimal. -/
theorem ofText_decimal {c : Char} {cs : List Char} (hc : c.isDigit = true)
    (hspace : ∀ d ∈ c :: cs, isSpace d = false) (halpha : ∀ d ∈ cs.head?, d.isAlpha = false) :
    ofText (c :: cs) = match unsignedDecimal (c :: cs) with
      | some q => round q
      | none => .nan := by
  have hdecimal : decimal (c :: cs) = match unsignedDecimal (c :: cs) with
      | some q => round q
      | none => .nan := by
    have hinfinity : c :: cs ≠ "Infinity".toList := by
      intro heq
      obtain ⟨rfl, -⟩ := List.cons.inj heq
      exact absurd hc (by decide)
    rw [decimal, signed_of_isDigit hc]
    dsimp only
    rw [if_neg hinfinity]
    rfl
  rw [ofText, trim_eq hspace, ← hdecimal]
  split
  · next heq => cases heq
  · next d ds heq =>
    obtain ⟨rfl, rfl⟩ := List.cons.inj heq
    have hother : ∀ e : Char, e.isAlpha = true → d ≠ e := by
      rintro e he rfl
      rw [halpha d rfl] at he
      cases he
    rw [if_neg (by simp [hother]), if_neg (by simp [hother]), if_neg (by simp [hother])]
  · rfl

theorem toNat_of_isAlpha {c : Char} (h : c.isAlpha = true) :
    (65 ≤ c.toNat ∧ c.toNat ≤ 90) ∨ (97 ≤ c.toNat ∧ c.toNat ≤ 122) := by
  have hcases : (decide (c.val ≥ 'A'.val ∧ c.val ≤ 'Z'.val) ||
      (decide (c.val ≥ 'a'.val) && decide (c.val ≤ 'z'.val))) = true := h
  simp only [Bool.or_eq_true, Bool.and_eq_true, decide_eq_true_eq, UInt32.le_iff_toNat_le, ge_iff_le] at hcases
  exact hcases

theorem isAlpha_of_isDigit {c : Char} (h : c.isDigit = true) : c.isAlpha = false := by
  have hdigit := toNat_of_isDigit h
  rw [← Bool.not_eq_true]
  intro halpha
  have halpha := toNat_of_isAlpha halpha
  omega

theorem span_isDigit {cs : List Char} (h : ∀ c ∈ cs, c.isDigit = true) {c : Char}
    (hc : c.isDigit = false) (rest : List Char) :
    (cs ++ c :: rest).span Char.isDigit = (cs, c :: rest) := by
  have htake : (c :: rest).takeWhile Char.isDigit = [] := by
    rw [List.takeWhile_cons, hc, if_neg Bool.false_ne_true]
  have hdrop : (c :: rest).dropWhile Char.isDigit = c :: rest := by
    rw [List.dropWhile_cons, hc, if_neg Bool.false_ne_true]
  rw [List.span_eq_takeWhile_dropWhile, List.takeWhile_append_of_pos h,
    List.dropWhile_append_of_pos h, htake, hdrop, List.append_nil]

theorem unsignedDecimal_of_digits {cs : List Char} (hne : cs ≠ []) (h : ∀ c ∈ cs, c.isDigit = true) :
    unsignedDecimal cs = some (Nat.ofDigitChars 10 cs 0 : Nat) := by
  have hspan : cs.span Char.isDigit = (cs, []) := by
    rw [List.span_eq_takeWhile_dropWhile, List.takeWhile_eq_self_iff.mpr h,
      List.dropWhile_eq_nil_iff.mpr h]
  rw [unsignedDecimal, hspan]
  dsimp only
  rw [List.append_nil, digits_eq hne h]
  show some (if (0 : Int) ≤ 0 - 0 then _ else _) = _
  rw [if_pos (by omega)]
  simp

/-- A literal of digits is its number, rounded. -/
theorem ofText_of_digits {cs : List Char} (hne : cs ≠ []) (h : ∀ c ∈ cs, c.isDigit = true) :
    ofText cs = round (Nat.ofDigitChars 10 cs 0 : Nat) := by
  obtain ⟨c, cs, rfl⟩ := List.exists_cons_of_ne_nil hne
  have halpha : ∀ d ∈ cs.head?, d.isAlpha = false := fun d hd =>
    isAlpha_of_isDigit (h d (List.mem_cons_of_mem _ (List.mem_of_mem_head? hd)))
  rw [ofText_decimal (h c List.mem_cons_self) (fun d hd => isSpace_of_isDigit (h d hd)) halpha,
    unsignedDecimal_of_digits hne h]
  rfl

/-- Digits and then a comma are no number. -/
theorem ofText_of_comma {cs rest : List Char} (hne : cs ≠ []) (h : ∀ c ∈ cs, c.isDigit = true)
    (hspace : ∀ c ∈ rest, isSpace c = false) : ofText (cs ++ ',' :: rest) = .nan := by
  have hnone : unsignedDecimal (cs ++ ',' :: rest) = none := by
    rw [unsignedDecimal, span_isDigit h (by decide)]
    show (match digits 10 (cs ++ []), exponentPart (',' :: rest) with
      | some n, some e => _
      | _, _ => none) = none
    rw [List.append_nil, digits_eq hne h]
    rfl
  have hspaces : ∀ c ∈ cs ++ ',' :: rest, isSpace c = false := by
    intro c hc
    rcases List.mem_append.mp hc with hc | hc
    · exact isSpace_of_isDigit (h c hc)
    · rcases List.mem_cons.mp hc with rfl | hc
      · decide
      · exact hspace c hc
  obtain ⟨c, cs, rfl⟩ := List.exists_cons_of_ne_nil hne
  have halpha : ∀ d ∈ (cs ++ ',' :: rest).head?, d.isAlpha = false := by
    intro d hd
    cases cs with
    | nil =>
      obtain rfl : ',' = d := Option.some.inj hd
      decide
    | cons e cs =>
      obtain rfl : e = d := Option.some.inj hd
      exact isAlpha_of_isDigit (h e (List.mem_cons_of_mem _ List.mem_cons_self))
  rw [List.cons_append] at hnone hspaces ⊢
  rw [ofText_decimal (h c List.mem_cons_self) hspaces halpha, hnone]

theorem isSpace_of_isAlpha {c : Char} (h : c.isAlpha = true) : isSpace c = false := by
  have hrange := toNat_of_isAlpha h
  rw [isSpace]
  simp only [Bool.or_eq_false_iff, Bool.and_eq_false_iff, decide_eq_false_iff_not,
    beq_eq_false_iff_ne]
  omega

/-- A word is no number, unless it is `Infinity`. -/
theorem ofText_of_letters {c : Char} {cs : List Char} (h : ∀ d ∈ c :: cs, d.isAlpha = true)
    (hinfinity : c :: cs ≠ "Infinity".toList) : ofText (c :: cs) = .nan := by
  have hc : c.isAlpha = true := h c List.mem_cons_self
  have hne : ∀ d : Char, d.isAlpha = false → c ≠ d := by
    rintro d hd rfl
    rw [hc] at hd
    cases hd
  have hdigit : c.isDigit = false := by
    rw [← Bool.not_eq_true]
    intro hdigit
    rw [isAlpha_of_isDigit hdigit] at hc
    cases hc
  -- A letter is no sign, no digit and no point, so nothing of the word is read as a decimal.
  have hsigned : signed (c :: cs) = (false, c :: cs) := by
    unfold signed
    split
    · next heq => exact absurd (List.cons.inj heq).1 (hne '+' (by decide))
    · next heq => exact absurd (List.cons.inj heq).1 (hne '-' (by decide))
    · rfl
  have hnone : unsignedDecimal (c :: cs) = none := by
    have hspan : (c :: cs).span Char.isDigit = ([], c :: cs) := span_isDigit
      (fun d hd => absurd hd List.not_mem_nil) hdigit cs
    have hpoint : (match c :: cs with
        | '.' :: after => after.span Char.isDigit
        | _ => ([], c :: cs)) = ([], c :: cs) := by
      split
      · next heq => exact absurd (List.cons.inj heq).1 (hne '.' (by decide))
      · rfl
    rw [unsignedDecimal, hspan]
    dsimp only
    rw [hpoint]
    rfl
  rw [ofText, trim_eq fun d hd => isSpace_of_isAlpha (h d hd)]
  split
  · next heq => cases heq
  · next heq => exact absurd (List.cons.inj heq).1 (hne '0' (by decide))
  · rw [decimal, hsigned]
    dsimp only
    rw [if_neg hinfinity, hnone]

theorem isDigit_of_digit {c : Char} {d : Nat} (h : digit 10 c = some d) : c.isDigit = true := by
  have hrange : 48 ≤ c.toNat ∧ c.toNat ≤ 57 := by
    unfold digit at h
    dsimp only at h
    split_ifs at h <;> omega
  rw [Char.isDigit, Bool.and_eq_true, decide_eq_true_eq, decide_eq_true_eq]
  exact hrange

/-- A text that has a value consists of digits. -/
theorem digits_spec {cs : List Char} {n : Nat} (h : digits 10 cs = some n) :
    cs ≠ [] ∧ (∀ c ∈ cs, c.isDigit = true) ∧ Nat.ofDigitChars 10 cs 0 = n := by
  have hfold : ∀ (cs : List Char) (m n : Nat),
      cs.foldlM (fun n c => (digit 10 c).map fun d => n * 10 + d) m = some n →
        ∀ c ∈ cs, c.isDigit = true := by
    intro cs
    induction cs with
    | nil => exact fun _ _ _ c hc => absurd hc List.not_mem_nil
    | cons c cs ih =>
      intro m n h
      rw [List.foldlM_cons] at h
      obtain ⟨m', hm', hrest⟩ := Option.bind_eq_some_iff.mp h
      obtain ⟨d, hd, -⟩ := Option.map_eq_some_iff.mp hm'
      intro e he
      rcases List.mem_cons.mp he with rfl | he
      · exact isDigit_of_digit hd
      · exact ih m' n hrest e he
  have hne : cs ≠ [] := by
    rintro rfl
    cases h
  have hdigits : ∀ c ∈ cs, c.isDigit = true := by
    rw [digits, if_neg hne] at h
    exact hfold cs 0 n h
  rw [digits_eq hne hdigits, Option.some.injEq] at h
  exact ⟨hne, hdigits, h⟩

/-- What has a value is read as the double nearest to it. -/
theorem ofText_of_value {cs : List Char} {n : Nat} (h : digits 10 cs = some n) :
    ofText cs = round (n : Nat) := by
  obtain ⟨hne, hdigits, rfl⟩ := digits_spec h
  exact ofText_of_digits hne hdigits

end Number

end Web

end Dtsys
