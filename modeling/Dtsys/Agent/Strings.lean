/-
  The STRINGS of the agent, and what `encoding/json` makes of them.

  A Go string is a sequence of BYTES that is usually, but not always, UTF-8.  Reading it rune by
  rune gives for every byte that begins no valid encoding the replacement character; so a string is
  given here by its runes, in which such bytes are kept apart (`GoRune.invalid`).

  * `runes` — the runes of a byte string, as `utf8.DecodeRune` finds them.
  * `GoString.text` — the text another program reads out of the encoded string.
  * `encodeString` — the characters `encoding/json` writes for it, with HTML escaping.
  * `length_encodeString` — how many they are: six for an escape `\u....`, two for a short escape,
    one otherwise.
-/
import Dtsys.Server.Values

namespace Dtsys

namespace Agent

/-! ## Runes -/

/-- A rune of a string: a character, or a byte that is part of none. -/
inductive GoRune
  | char (c : Char)
  | invalid (b : UInt8)
  deriving DecidableEq, Repr

/-- A Go `string`, rune by rune. -/
abbrev GoString := List GoRune

/-- A string constant. -/
def GoString.ofString (s : String) : GoString := s.toList.map .char

/-- What is read where the rune was written. -/
def GoRune.replaced : GoRune → Char
  | .char c => c
  | .invalid _ => '\uFFFD'

/-- The text of a string once it has been written as JSON. -/
def GoString.text (s : GoString) : String := String.ofList (s.map GoRune.replaced)

/-- The string is the UTF-8 of the text `t`. -/
def GoString.Denotes (s : GoString) (t : String) : Prop := s = GoString.ofString t

/-- The rune is no invalid byte. -/
def GoRune.isChar : GoRune → Bool
  | .char _ => true
  | .invalid _ => false

/-- Every byte of the string is part of a character. -/
def GoString.valid (s : GoString) : Bool := s.all GoRune.isChar

/-- Valid bytes are the UTF-8 of their text. -/
theorem GoString.ofString_text : ∀ {s : GoString}, s.valid = true → GoString.ofString s.text = s := by
  intro s
  induction s with
  | nil => intro _; rfl
  | cons r s ih =>
    intro h
    have hparts : r.isChar = true ∧ GoString.valid s = true := by
      simpa [GoString.valid] using h
    have htail : (s.map GoRune.replaced).map GoRune.char = s := by
      have := ih hparts.2
      simpa [GoString.ofString, GoString.text] using this
    cases r with
    | char c => simpa [GoString.ofString, GoString.text, GoRune.replaced] using htail
    | invalid b => cases hparts.1

/-- What is read is what was meant exactly if the string is valid UTF-8. -/
theorem GoString.denotes_text {s : GoString} : s.Denotes s.text ↔ s.valid = true := by
  constructor
  · intro h
    rw [GoString.Denotes] at h
    rw [h]
    simp [GoString.valid, GoString.ofString, GoRune.isChar]
  · exact fun h => (GoString.ofString_text h).symm

/-- The bytes of a text stand for it. -/
@[simp] theorem GoString.text_ofString (t : String) : (GoString.ofString t).text = t := by
  simp [GoString.text, GoString.ofString, Function.comp_def, GoRune.replaced]

/-- A string that stands for some text is valid UTF-8. -/
theorem GoString.valid_of_denotes {s : GoString} {t : String} (h : s.Denotes t) :
    s.valid = true := by
  have htext : s.text = t := by rw [h, GoString.text_ofString]
  exact GoString.denotes_text.mp (htext.symm ▸ h)

/-! ## UTF-8 -/

/-- By the first byte: how many bytes the encoding has, and the range of the second one
    (`first` and `acceptRanges` of `unicode/utf8`). -/
def leading (b : Nat) : Option (Nat × Nat × Nat) :=
  if 0xC2 ≤ b ∧ b ≤ 0xDF then some (2, 0x80, 0xBF)
  else if b = 0xE0 then some (3, 0xA0, 0xBF)
  else if b = 0xED then some (3, 0x80, 0x9F)
  else if 0xE1 ≤ b ∧ b ≤ 0xEF then some (3, 0x80, 0xBF)
  else if b = 0xF0 then some (4, 0x90, 0xBF)
  else if 0xF1 ≤ b ∧ b ≤ 0xF3 then some (4, 0x80, 0xBF)
  else if b = 0xF4 then some (4, 0x80, 0x8F)
  else none

/-- The six bits a continuation byte carries. -/
def continuation (b : UInt8) : Option Nat :=
  if 0x80 ≤ b.toNat ∧ b.toNat ≤ 0xBF then some (b.toNat - 0x80) else none

/-- `utf8.DecodeRune(b, rest...)`: the rune, and how many bytes of `rest` belong to it. -/
def decodeRune (b : UInt8) (rest : List UInt8) : GoRune × Nat :=
  if b.toNat < 0x80 then (.char (Char.ofNat b.toNat), 0)
  else
    match leading b.toNat, rest with
    | some (2, lo, hi), b1 :: _ =>
      if lo ≤ b1.toNat ∧ b1.toNat ≤ hi then
        (.char (Char.ofNat ((b.toNat - 0xC0) * 64 + (b1.toNat - 0x80))), 1)
      else (.invalid b, 0)
    | some (3, lo, hi), b1 :: b2 :: _ =>
      match continuation b2 with
      | some x2 =>
        if lo ≤ b1.toNat ∧ b1.toNat ≤ hi then
          (.char (Char.ofNat (((b.toNat - 0xE0) * 64 + (b1.toNat - 0x80)) * 64 + x2)), 2)
        else (.invalid b, 0)
      | none => (.invalid b, 0)
    | some (4, lo, hi), b1 :: b2 :: b3 :: _ =>
      match continuation b2, continuation b3 with
      | some x2, some x3 =>
        if lo ≤ b1.toNat ∧ b1.toNat ≤ hi then
          (.char (Char.ofNat
            ((((b.toNat - 0xF0) * 64 + (b1.toNat - 0x80)) * 64 + x2) * 64 + x3)), 3)
        else (.invalid b, 0)
      | _, _ => (.invalid b, 0)
    | _, _ => (.invalid b, 0)

/-- The runes of a byte string; `skip` counts the bytes of the last rune still to be passed. -/
def runesAfter : Nat → List UInt8 → GoString
  | _, [] => []
  | skip + 1, _ :: bs => runesAfter skip bs
  | 0, b :: bs => (decodeRune b bs).1 :: runesAfter (decodeRune b bs).2 bs

/-- `string(bs)`. -/
def runes (bs : List UInt8) : GoString := runesAfter 0 bs

/-- There are no more runes than bytes. -/
theorem length_runesAfter_le : ∀ (bs : List UInt8) (skip : Nat),
    (runesAfter skip bs).length ≤ bs.length := by
  intro bs
  induction bs with
  | nil => intro skip; cases skip <;> exact Nat.le_refl _
  | cons b bs ih =>
    intro skip
    cases skip with
    | zero =>
      show (runesAfter (decodeRune b bs).2 bs).length + 1 ≤ bs.length + 1
      have := ih (decodeRune b bs).2
      omega
    | succ skip =>
      show (runesAfter skip bs).length ≤ bs.length + 1
      have := ih skip
      omega

/-- There are no more runes than bytes. -/
theorem length_runes_le (bs : List UInt8) : (runes bs).length ≤ bs.length :=
  length_runesAfter_le bs 0

/-- An ASCII byte is a rune of its own. -/
theorem runes_ascii {b : UInt8} (hb : b.toNat < 0x80) (bs : List UInt8) :
    runes (b :: bs) = .char (Char.ofNat b.toNat) :: runes bs := by
  have hrune : decodeRune b bs = (.char (Char.ofNat b.toNat), 0) := by
    unfold decodeRune
    rw [if_pos hb]
  show (decodeRune b bs).1 :: runesAfter (decodeRune b bs).2 bs = _
  rw [hrune]
  rfl

/-- So is a byte that no encoding begins with. -/
theorem runes_invalid {b : UInt8} (hb : 0x80 ≤ b.toNat) (hlead : leading b.toNat = none)
    (bs : List UInt8) : runes (b :: bs) = .invalid b :: runes bs := by
  have hrune : decodeRune b bs = (.invalid b, 0) := by
    unfold decodeRune
    rw [if_neg (by omega), hlead]
  show (decodeRune b bs).1 :: runesAfter (decodeRune b bs).2 bs = _
  rw [hrune]
  rfl

/-- ASCII bytes are a rune each. -/
theorem runes_replicate_ascii {b : UInt8} (hb : b.toNat < 0x80) (bs : List UInt8) : ∀ n : Nat,
    runes (List.replicate n b ++ bs) =
      List.replicate n (.char (Char.ofNat b.toNat)) ++ runes bs := by
  intro n
  induction n with
  | zero => rfl
  | succ n ih =>
    show runes (b :: (List.replicate n b ++ bs)) = _
    rw [runes_ascii hb, ih, List.replicate_succ]
    rfl

/-! ## The UTF-8 of a text -/

theorem toNat_ofNat {n : Nat} (h : n < 256) : (UInt8.ofNat n).toNat = n := by
  rw [UInt8.toNat_ofNat']
  exact Nat.mod_eq_of_lt h

/-- What an encoding of `1 + n` bytes whose rune is `r` adds to the runes. -/
theorem runes_cons {b : UInt8} {m bs : List UInt8} {r : GoRune}
    (h : decodeRune b (m ++ bs) = (r, m.length)) : runes (b :: (m ++ bs)) = r :: runes bs := by
  have hskip : ∀ m : List UInt8, runesAfter m.length (m ++ bs) = runes bs := by
    intro m
    induction m with
    | nil => rfl
    | cons x m ih => exact ih
  show (decodeRune b (m ++ bs)).1 :: runesAfter (decodeRune b (m ++ bs)).2 (m ++ bs) = _
  rw [h]
  exact congrArg _ (hskip m)

/-- A byte that continues a rune. -/
theorem continuation_ofNat {n : Nat} (h : n < 64) :
    continuation (UInt8.ofNat (n + 0x80)) = some n := by
  rw [continuation, toNat_ofNat (by omega), if_pos (by omega), Nat.add_sub_cancel]

/-- The second byte of a three-byte encoding is in the range its first byte sets: the range excludes longer
    forms of `v` and the surrogates. -/
theorem leading_three {v : Nat} (hlo : 0x800 ≤ v) (hhi : v < 0x10000) (hsurrogate : v < 0xD800 ∨ 0xDFFF < v) :
    ∃ lo hi, leading (v / 4096 % 0x10 + 0xe0) = some (3, lo, hi) ∧
      lo ≤ v / 64 % 0x40 + 0x80 ∧ v / 64 % 0x40 + 0x80 ≤ hi := by
  rw [leading, if_neg (by omega)]
  split
  · exact ⟨_, _, rfl, by omega, by omega⟩
  · split
    · exact ⟨_, _, rfl, by omega, by omega⟩
    · rw [if_pos (by omega)]
      exact ⟨_, _, rfl, by omega, by omega⟩

/-- And so it is of four bytes. -/
theorem leading_four {v : Nat} (hlo : 0x10000 ≤ v) (hhi : v < 0x110000) :
    ∃ lo hi, leading (v / 262144 % 0x08 + 0xf0) = some (4, lo, hi) ∧
      lo ≤ v / 4096 % 0x40 + 0x80 ∧ v / 4096 % 0x40 + 0x80 ≤ hi := by
  rw [leading, if_neg (by omega), if_neg (by omega), if_neg (by omega), if_neg (by omega)]
  split
  · exact ⟨_, _, rfl, by omega, by omega⟩
  · split
    · exact ⟨_, _, rfl, by omega, by omega⟩
    · rw [if_pos (by omega)]
      exact ⟨_, _, rfl, by omega, by omega⟩

/-- A character is read back from its encoding. -/
theorem runes_utf8EncodeChar (c : Char) (bs : List UInt8) :
    runes (String.utf8EncodeChar c ++ bs) = .char c :: runes bs := by
  have hc : c.toNat < 0xD800 ∨ 0xDFFF < c.toNat ∧ c.toNat < 0x110000 := c.valid
  have hself : Char.ofNat c.toNat = c := Char.ofNat_toNat c
  have hv : c.val.toNat = c.toNat := rfl
  rw [String.utf8EncodeChar]
  simp only [hv]
  generalize hn : c.toNat = v at *
  split
  · -- one byte
    have hb := toNat_ofNat (show v < 256 by omega)
    show runes (UInt8.ofNat v :: bs) = _
    rw [runes_ascii (by omega), hb, hself]
  · split
    · -- two bytes
      refine runes_cons (m := [UInt8.ofNat (v % 0x40 + 0x80)]) ?_
      have hb := toNat_ofNat (show v / 64 % 0x20 + 0xc0 < 256 by omega)
      have hb1 := toNat_ofNat (show v % 0x40 + 0x80 < 256 by omega)
      have hlead : leading (v / 64 % 0x20 + 0xc0) = some (2, 0x80, 0xBF) := by
        rw [leading, if_pos (by omega)]
      unfold decodeRune
      rw [hb, if_neg (by omega), hlead]
      simp only [List.cons_append, List.nil_append, hb1]
      rw [if_pos (by omega), show (v / 64 % 0x20 + 0xc0 - 0xC0) * 64 + (v % 0x40 + 0x80 - 0x80) = v
        by omega, hself]
      rfl
    · split
      · -- three bytes
        refine runes_cons
          (m := [UInt8.ofNat (v / 64 % 0x40 + 0x80), UInt8.ofNat (v % 0x40 + 0x80)]) ?_
        have hb := toNat_ofNat (show v / 4096 % 0x10 + 0xe0 < 256 by omega)
        have hb1 := toNat_ofNat (show v / 64 % 0x40 + 0x80 < 256 by omega)
        obtain ⟨lo, hi, hlead, hrange⟩ := leading_three (v := v) (by omega) (by omega) (by omega)
        unfold decodeRune
        rw [hb, if_neg (by omega), hlead]
        simp only [List.cons_append, List.nil_append, hb1,
          continuation_ofNat (show v % 0x40 < 64 by omega)]
        rw [if_pos hrange, show ((v / 4096 % 0x10 + 0xe0 - 0xE0) * 64 +
          (v / 64 % 0x40 + 0x80 - 0x80)) * 64 + v % 0x40 = v by omega, hself]
        rfl
      · -- four bytes
        refine runes_cons
          (m := [UInt8.ofNat (v / 4096 % 0x40 + 0x80), UInt8.ofNat (v / 64 % 0x40 + 0x80),
            UInt8.ofNat (v % 0x40 + 0x80)]) ?_
        have hb := toNat_ofNat (show v / 262144 % 0x08 + 0xf0 < 256 by omega)
        have hb1 := toNat_ofNat (show v / 4096 % 0x40 + 0x80 < 256 by omega)
        obtain ⟨lo, hi, hlead, hrange⟩ := leading_four (v := v) (by omega) (by omega)
        unfold decodeRune
        rw [hb, if_neg (by omega), hlead]
        simp only [List.cons_append, List.nil_append, hb1,
          continuation_ofNat (show v % 0x40 < 64 by omega),
          continuation_ofNat (show v / 64 % 0x40 < 64 by omega)]
        rw [if_pos hrange, show (((v / 262144 % 0x08 + 0xf0 - 0xF0) * 64 +
          (v / 4096 % 0x40 + 0x80 - 0x80)) * 64 + v / 64 % 0x40) * 64 + v % 0x40 = v by omega, hself]
        rfl

/-- A text is read back from its UTF-8. -/
theorem runes_utf8 (t : List Char) : runes (t.flatMap String.utf8EncodeChar) = t.map .char := by
  induction t with
  | nil => rfl
  | cons c t ih => rw [List.flatMap_cons, runes_utf8EncodeChar, ih, List.map_cons]

/-! ## JSON text -/

/-- `\u` and four hexadecimal digits. -/
def unicodeEscape (n : Nat) : List Char := '\\' :: 'u' :: Uuid.hexDigits 4 n

/-- The characters that have an escape of two characters. -/
def shortEscape : Char → Option Char
  | '"' => some '"'
  | '\\' => some '\\'
  | '\x08' => some 'b'
  | '\x0c' => some 'f'
  | '\n' => some 'n'
  | '\r' => some 'r'
  | '\t' => some 't'
  | _ => none

/-- The characters that are written by their number: the other control characters, those that
    mean something in HTML, and two line ends of JavaScript. -/
def escapedByNumber (c : Char) : Bool :=
  (shortEscape c).isNone &&
    (decide (c.toNat < 0x20) || c == '<' || c == '>' || c == '&' || c == '\u2028' || c == '\u2029')

/-- What `encoding/json` writes for a rune inside a string. -/
def encodeRune : GoRune → List Char
  | .invalid _ => "\\ufffd".toList
  | .char c =>
    match shortEscape c with
    | some e => ['\\', e]
    | none => if escapedByNumber c then unicodeEscape c.toNat else [c]

/-- What it writes for a string. -/
def encodeString (s : GoString) : List Char := '"' :: s.flatMap encodeRune ++ ['"']

/-- A rune written with six characters. -/
def GoRune.isLong : GoRune → Bool
  | .invalid _ => true
  | .char c => escapedByNumber c

/-- A rune written with two characters. -/
def GoRune.isShort : GoRune → Bool
  | .invalid _ => false
  | .char c => (shortEscape c).isSome

theorem length_hexDigits : ∀ k n : Nat, (Uuid.hexDigits k n).length = k := by
  intro k
  induction k with
  | zero => intro n; rfl
  | succ k ih =>
    intro n
    rw [Uuid.hexDigits, List.length_append, ih]
    rfl

/-- A rune is written with six characters, two or one. -/
theorem length_encodeRune (r : GoRune) :
    (encodeRune r).length = 1 + (if r.isLong then 5 else 0) + (if r.isShort then 1 else 0) := by
  cases r with
  | invalid b => rfl
  | char c =>
    have hlong : (GoRune.char c).isLong = escapedByNumber c := rfl
    have hshort : (GoRune.char c).isShort = (shortEscape c).isSome := rfl
    rw [hlong, hshort]
    unfold encodeRune
    dsimp only
    split
    · next e he =>
      have hnot : escapedByNumber c = false := by
        rw [escapedByNumber, he]
        rfl
      rw [hnot, he]
      rfl
    · next he =>
      rw [he]
      show (if escapedByNumber c then unicodeEscape c.toNat else [c]).length = _ + 0
      split
      · rw [unicodeEscape, List.length_cons, List.length_cons, length_hexDigits]
      · rfl

/-- What the escapes of a string cost. -/
theorem length_flatMap_encodeRune (s : GoString) :
    (s.flatMap encodeRune).length =
      s.length + 5 * s.countP GoRune.isLong + s.countP GoRune.isShort := by
  induction s with
  | nil => rfl
  | cons r s ih =>
    rw [List.flatMap_cons, List.length_append, length_encodeRune, ih, List.countP_cons,
      List.countP_cons, List.length_cons]
    split <;> split <;> omega

/-- How long a string is as JSON. -/
theorem length_encodeString (s : GoString) :
    (encodeString s).length =
      2 + s.length + 5 * s.countP GoRune.isLong + s.countP GoRune.isShort := by
  rw [encodeString, List.length_append, List.length_cons, length_flatMap_encodeRune]
  show _ + 1 + 1 = _
  omega

/-- At most six characters a rune. -/
theorem length_encodeString_le (s : GoString) : (encodeString s).length ≤ 2 + 6 * s.length := by
  have hcount : ∀ t : GoString,
      5 * t.countP GoRune.isLong + t.countP GoRune.isShort ≤ 5 * t.length := by
    intro t
    induction t with
    | nil => exact Nat.le_refl _
    | cons r t ih =>
      have hone : 5 * (if r.isLong then 1 else 0) + (if r.isShort then 1 else 0) ≤ 5 := by
        cases r with
        | invalid b => exact Nat.le_refl _
        | char c =>
          rcases hshort : shortEscape c with _ | e <;>
            simp [GoRune.isLong, GoRune.isShort, escapedByNumber, hshort]
          split <;> omega
      rw [List.countP_cons, List.countP_cons, List.length_cons]
      omega
  have := hcount s
  rw [length_encodeString]
  omega

end Agent

end Dtsys
