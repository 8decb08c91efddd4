/-
  JSON TEXTS: what `json.dumps` writes for a payload, and what `JSON.parse` reads.

  A payload is an object of strings, booleans and nulls.  Python's strings are code points, with lone
  surrogates; those of JavaScript are code units.  The text is ASCII without control characters: what is
  outside is written as `\\u` and four digits, as two of them beyond the basic plane.

  1. `dumps` — `json.dumps`, and that its text is printable;
  2. `JsValue.parse` — `JSON.parse`, for every text;
  3. `parse_dumps` — it reads a payload back, the strings as code units;
  4. `isText_parsed` — a field that is a string is read as one.
-/
import Dtsys.Web.Numbers
import Mathlib.Data.List.Nodup

namespace Dtsys

namespace Web

/-! ## `json.dumps` -/

/-- A code point of a Python string; surrogates are code points too. -/
abbrev CodePoint := Fin 0x110000

/-- A Python string. -/
abbrev PyStr := List CodePoint

/-- A string literal, or one of the model's strings. -/
def pyStr (s : String) : PyStr := s.toList.map fun c => Fin.ofNat _ c.toNat

/-- A value of a payload. -/
inductive Scalar where
  | str (s : PyStr)
  | bool (b : Bool)
  | null
  deriving DecidableEq

/-- A payload, a `dict`. -/
structure Payload where
  fields : List (PyStr × Scalar)
  distinct : (fields.map Prod.fst).Nodup

/-- `'\\u{0:04x}'.format(n)`. -/
def uEscape (n : Nat) : List Char := '\\' :: 'u' :: Uuid.hexDigits 4 n

/-- One character of `py_encode_basestring_ascii`. -/
def escape (c : CodePoint) : List Char :=
  let n := c.val
  if n = 0x22 then ['\\', '"']
  else if n = 0x5c then ['\\', '\\']
  else if n = 0x08 then ['\\', 'b']
  else if n = 0x0c then ['\\', 'f']
  else if n = 0x0a then ['\\', 'n']
  else if n = 0x0d then ['\\', 'r']
  else if n = 0x09 then ['\\', 't']
  else if 0x20 ≤ n ∧ n ≤ 0x7e then [Char.ofNat n]
  else if n < 0x10000 then uEscape n
  else
    -- a surrogate pair
    let n := n - 0x10000
    uEscape (0xd800 ||| ((n >>> 10) &&& 0x3ff)) ++ uEscape (0xdc00 ||| (n &&& 0x3ff))

/-- A string of `json.dumps`. -/
def dumpsStr (s : PyStr) : List Char := '"' :: s.flatMap escape ++ ['"']

/-- A scalar of `json.dumps`. -/
def dumpsScalar : Scalar → List Char
  | .str s => dumpsStr s
  | .bool true => "true".toList
  | .bool false => "false".toList
  | .null => "null".toList

/-- `json.dumps`. -/
def dumps (p : Payload) : List Char :=
  '\x7b' :: (", ".toList.intercalate
    (p.fields.map fun (k, v) => dumpsStr k ++ ": ".toList ++ dumpsScalar v)) ++ ['\x7d']

/-- The characters from the space to the tilde. -/
def Printable (c : Char) : Prop := 0x20 ≤ c.toNat ∧ c.toNat ≤ 0x7e

instance (c : Char) : Decidable (Printable c) := inferInstanceAs (Decidable (_ ∧ _))

theorem hexDigits_printable : ∀ (k n : Nat), ∀ c ∈ Uuid.hexDigits k n, Printable c := by
  have hdigit : ∀ d : Fin 16, Printable (Nat.digitChar d) := by decide
  intro k
  induction k with
  | zero => exact fun _ _ h => nomatch h
  | succ k ih =>
    intro n c hc
    rcases List.mem_append.mp hc with hc | hc
    · exact ih _ c hc
    · rw [List.mem_singleton.mp hc]
      exact hdigit ⟨n % 16, Nat.mod_lt _ (by decide)⟩

/-- For a text that can be evaluated. -/
theorem printable_of_all {l : List Char} (h : l.all (fun c => decide (Printable c)) = true) :
    ∀ c ∈ l, Printable c := fun c hc => of_decide_eq_true (List.all_eq_true.mp h c hc)

theorem uEscape_printable (n : Nat) : ∀ c ∈ uEscape n, Printable c := by
  intro c hc
  rcases List.mem_cons.mp hc with rfl | hc
  · decide
  · rcases List.mem_cons.mp hc with rfl | hc
    · decide
    · exact hexDigits_printable 4 n c hc

theorem ofNat_printable : ∀ n : Fin 0x7f, 0x20 ≤ n.val → Printable (Char.ofNat n) := by decide

/-- The characters with an escape of their own. -/
def shortEscapes : List (Nat × Char) :=
  [(0x22, '"'), (0x5c, '\\'), (0x08, 'b'), (0x0c, 'f'), (0x0a, 'n'), (0x0d, 'r'), (0x09, 't')]

/-- How a character is written. -/
theorem escape_cases (c : CodePoint) :
    (∃ x, (c.val, x) ∈ shortEscapes ∧ escape c = ['\\', x]) ∨
      ((c.val ≠ 0x22 ∧ c.val ≠ 0x5c) ∧ (0x20 ≤ c.val ∧ c.val ≤ 0x7e) ∧ escape c = [Char.ofNat c.val]) ∨
      (c.val < 0x10000 ∧ escape c = uEscape c.val) ∨
      (¬ c.val < 0x10000 ∧ escape c = uEscape (0xd800 ||| (((c.val - 0x10000) >>> 10) &&& 0x3ff)) ++
        uEscape (0xdc00 ||| ((c.val - 0x10000) &&& 0x3ff))) := by
  rw [escape]
  dsimp only
  -- In the order in which the source tests: the seven short escapes, the printable characters, the rest.
  by_cases hquote : c.val = 0x22
  · rw [if_pos hquote]
    exact .inl ⟨'"', by rw [hquote]; decide, rfl⟩
  rw [if_neg hquote]
  by_cases hback : c.val = 0x5c
  · rw [if_pos hback]
    exact .inl ⟨'\\', by rw [hback]; decide, rfl⟩
  rw [if_neg hback]
  by_cases hb : c.val = 0x08
  · rw [if_pos hb]
    exact .inl ⟨'b', by rw [hb]; decide, rfl⟩
  rw [if_neg hb]
  by_cases hf : c.val = 0x0c
  · rw [if_pos hf]
    exact .inl ⟨'f', by rw [hf]; decide, rfl⟩
  rw [if_neg hf]
  by_cases hn : c.val = 0x0a
  · rw [if_pos hn]
    exact .inl ⟨'n', by rw [hn]; decide, rfl⟩
  rw [if_neg hn]
  by_cases hr : c.val = 0x0d
  · rw [if_pos hr]
    exact .inl ⟨'r', by rw [hr]; decide, rfl⟩
  rw [if_neg hr]
  by_cases ht : c.val = 0x09
  · rw [if_pos ht]
    exact .inl ⟨'t', by rw [ht]; decide, rfl⟩
  rw [if_neg ht]
  by_cases hplain : 0x20 ≤ c.val ∧ c.val ≤ 0x7e
  · rw [if_pos hplain]
    exact .inr (.inl ⟨⟨hquote, hback⟩, hplain, rfl⟩)
  rw [if_neg hplain]
  by_cases hbmp : c.val < 0x10000
  · rw [if_pos hbmp]
    exact .inr (.inr (.inl ⟨hbmp, rfl⟩))
  · rw [if_neg hbmp]
    exact .inr (.inr (.inr ⟨hbmp, rfl⟩))

/-- Whatever a code point is, its escape is printable. -/
theorem escape_printable (c : CodePoint) : ∀ x ∈ escape c, Printable x := by
  rcases escape_cases c with ⟨x, hx, heq⟩ | ⟨-, hplain, heq⟩ | ⟨-, heq⟩ | ⟨-, heq⟩
  · have hshort : ∀ p ∈ shortEscapes, Printable p.2 := by decide
    rw [heq]
    exact List.forall_mem_cons.mpr ⟨by decide, List.forall_mem_singleton.mpr (hshort _ hx)⟩
  · rw [heq]
    exact List.forall_mem_singleton.mpr (ofNat_printable ⟨c.val, Nat.lt_succ_of_le hplain.2⟩ hplain.1)
  · rw [heq]
    exact uEscape_printable _
  · rw [heq]
    intro x hx
    rcases List.mem_append.mp hx with hx | hx
    · exact uEscape_printable _ x hx
    · exact uEscape_printable _ x hx

theorem dumpsStr_printable (s : PyStr) : ∀ c ∈ dumpsStr s, Printable c := by
  intro c hc
  rcases List.mem_append.mp hc with hc | hc
  · rcases List.mem_cons.mp hc with rfl | hc
    · decide
    · obtain ⟨x, -, hx⟩ := List.mem_flatMap.mp hc
      exact escape_printable x c hx
  · rw [List.mem_singleton.mp hc]
    decide

theorem dumpsScalar_printable (v : Scalar) : ∀ c ∈ dumpsScalar v, Printable c := by
  cases v with
  | str s => exact dumpsStr_printable s
  | bool b =>
    cases b with
    | false => exact printable_of_all rfl
    | true => exact printable_of_all rfl
  | null => exact printable_of_all rfl

theorem mem_intercalate {sep : List Char} {c : Char} : ∀ {ls : List (List Char)},
    c ∈ sep.intercalate ls → c ∈ sep ∨ ∃ l ∈ ls, c ∈ l := by
  intro ls
  induction ls with
  | nil => exact fun h => nomatch h
  | cons l ls ih =>
    intro h
    cases ls with
    | nil =>
      rw [List.intercalate_singleton] at h
      exact .inr ⟨l, List.mem_cons_self, h⟩
    | cons l' ls =>
      rw [List.intercalate_cons_cons] at h
      rcases List.mem_append.mp h with h | h
      · rcases List.mem_append.mp h with h | h
        · exact .inr ⟨l, List.mem_cons_self, h⟩
        · exact .inl h
      · rcases ih h with h | ⟨m, hm, h⟩
        · exact .inl h
        · exact .inr ⟨m, List.mem_cons_of_mem _ hm, h⟩

/-- **The text of a payload is printable.** -/
theorem dumps_printable (p : Payload) : ∀ c ∈ dumps p, Printable c := by
  have hcomma : ∀ c ∈ ", ".toList, Printable c := printable_of_all rfl
  have hcolon : ∀ c ∈ ": ".toList, Printable c := printable_of_all rfl
  intro c hc
  rcases List.mem_append.mp hc with hc | hc
  · rcases List.mem_cons.mp hc with rfl | hc
    · decide
    · rcases mem_intercalate hc with hc | ⟨l, hl, hc⟩
      · exact hcomma c hc
      · obtain ⟨⟨k, v⟩, -, rfl⟩ := List.mem_map.mp hl
        rcases List.mem_append.mp hc with hc | hc
        · rcases List.mem_append.mp hc with hc | hc
          · exact dumpsStr_printable k c hc
          · exact hcolon c hc
        · exact dumpsScalar_printable v c hc
  · rw [List.mem_singleton.mp hc]
    decide

/-! ## `JSON.parse` -/

/-- A string of JavaScript. -/
abbrev JsStr := List (Fin 0x10000)

/-- The code units of a code point. -/
def utf16 (n : Nat) : JsStr :=
  if n < 0x10000 then [Fin.ofNat _ n]
  else [Fin.ofNat _ (0xd800 + (n - 0x10000) / 0x400), Fin.ofNat _ (0xdc00 + (n - 0x10000) % 0x400)]

/-- A value `JSON.parse` returns; the entries of an object are in the order of the text, where the last
    one of a name counts. -/
inductive JsValue where
  | null
  | bool (b : Bool)
  | num (x : Number)
  | str (s : JsStr)
  | arr (elements : List JsValue)
  | obj (entries : List (JsStr × JsValue))

namespace JsValue

/-- White space between tokens. -/
def skipSpace (cs : List Char) : List Char :=
  cs.dropWhile fun c => c == ' ' || c == '\n' || c == '\r' || c == '\t'

/-- What a character stands for after a backslash, `u` apart. -/
def escaped (c : Char) : Option Nat :=
  [('"', 0x22), ('\\', 0x5c), ('/', 0x2f), ('b', 0x08), ('f', 0x0c), ('n', 0x0a), ('r', 0x0d),
    ('t', 0x09)].lookup c

/-- A string, after its first quote, and what follows it. -/
def stringBody : List Char → Option (JsStr × List Char)
  | [] => none
  | c :: cs =>
    if c = '"' then some ([], cs)
    else if c = '\\' then
      match cs with
      | 'u' :: x₁ :: x₂ :: x₃ :: x₄ :: cs =>
        (Uuid.hexValue 0 [x₁, x₂, x₃, x₄]).bind fun n =>
          (stringBody cs).map fun (s, rest) => (Fin.ofNat _ n :: s, rest)
      | x :: cs =>
        (escaped x).bind fun n => (stringBody cs).map fun (s, rest) => (Fin.ofNat _ n :: s, rest)
      | [] => none
    else if c.toNat < 0x20 then none
    else (stringBody cs).map fun (s, rest) => (utf16 c.toNat ++ s, rest)

/-- An exponent, which may be left out. -/
def isExponent : List Char → Bool
  | [] => true
  | c :: cs =>
    let digits := (Number.signed cs).2
    (c == 'e' || c == 'E') && !digits.isEmpty && digits.all Char.isDigit

/-- A fraction and an exponent. -/
def isFraction : List Char → Bool
  | '.' :: cs => (cs.head?.any Char.isDigit) && isExponent (cs.dropWhile Char.isDigit)
  | cs => isExponent cs

/-- A number without its sign. -/
def isUnsigned : List Char → Bool
  | '0' :: cs => isFraction cs
  | c :: cs => c.isDigit && isFraction (cs.dropWhile Char.isDigit)
  | [] => false

/-- A number, as far as its characters go. -/
def number (cs : List Char) : Option (JsValue × List Char) :=
  let (literal, rest) := cs.span fun c => c.isDigit || "+-.eE".toList.contains c
  let unsigned := match literal with
    | '-' :: cs => cs
    | cs => cs
  if isUnsigned unsigned then some (.num (Number.decimal literal), rest) else none

mutual

/-- A value, and what follows it. -/
def value : Nat → List Char → Option (JsValue × List Char)
  | 0, _ => none
  | fuel + 1, cs =>
    match skipSpace cs with
    | '\x7b' :: cs =>
      match skipSpace cs with
      | '\x7d' :: cs => some (.obj [], cs)
      | cs => (entries fuel cs).map fun (entries, cs) => (.obj entries, cs)
    | '[' :: cs =>
      match skipSpace cs with
      | ']' :: cs => some (.arr [], cs)
      | cs => (elements fuel cs).map fun (elements, cs) => (.arr elements, cs)
    | '"' :: cs => (stringBody cs).map fun (s, cs) => (.str s, cs)
    | 't' :: 'r' :: 'u' :: 'e' :: cs => some (.bool true, cs)
    | 'f' :: 'a' :: 'l' :: 's' :: 'e' :: cs => some (.bool false, cs)
    | 'n' :: 'u' :: 'l' :: 'l' :: cs => some (.null, cs)
    | cs => number cs

/-- The entries of an object, and what follows it. -/
def entries : Nat → List Char → Option (List (JsStr × JsValue) × List Char)
  | 0, _ => none
  | fuel + 1, cs =>
    match skipSpace cs with
    | '"' :: cs =>
      (stringBody cs).bind fun (name, cs) =>
        match skipSpace cs with
        | ':' :: cs =>
          (value fuel cs).bind fun (v, cs) =>
            match skipSpace cs with
            | ',' :: cs => (entries fuel cs).map fun (entries, cs) => ((name, v) :: entries, cs)
            | '\x7d' :: cs => some ([(name, v)], cs)
            | _ => none
        | _ => none
    | _ => none

/-- The elements of an array, and what follows it. -/
def elements : Nat → List Char → Option (List JsValue × List Char)
  | 0, _ => none
  | fuel + 1, cs =>
    (value fuel cs).bind fun (v, cs) =>
      match skipSpace cs with
      | ',' :: cs => (elements fuel cs).map fun (elements, cs) => (v :: elements, cs)
      | ']' :: cs => some ([v], cs)
      | _ => none

end

/-- `JSON.parse`; of two nested calls at least one takes a character. -/
def parse (text : List Char) : Option JsValue :=
  match value (2 * text.length + 2) text with
  | some (v, rest) => if skipSpace rest = [] then some v else none
  | none => none

/-! ## Reading a payload back -/

/-- A string goes in front of what is read. -/
def prepend (u : JsStr) (p : JsStr × List Char) : JsStr × List Char := (u ++ p.1, p.2)

theorem stringBody_quote (t : List Char) : stringBody ('"' :: t) = some ([], t) := by
  rw [stringBody.eq_def]
  exact if_pos rfl

theorem stringBody_escaped {x : Char} {n : Nat} (hx : escaped x = some n) (t : List Char) :
    stringBody ('\\' :: x :: t) = (stringBody t).map (prepend [Fin.ofNat _ n]) := by
  have hu : x ≠ 'u' := by
    rintro rfl
    cases hx
  rw [stringBody.eq_def]
  dsimp only
  rw [if_neg (by decide), if_pos rfl]
  split
  · rename_i heq
    exact absurd (List.cons.inj heq).1 hu
  · rename_i heq
    obtain ⟨rfl, rfl⟩ := List.cons.inj heq
    rw [hx]
    rfl
  · rename_i heq
    nomatch heq

/-- Four digits are read back. -/
theorem hexValue_hexDigits {n : Nat} (hn : n < 0x10000) : Uuid.hexValue 0 (Uuid.hexDigits 4 n) = some n := by
  have hdigit : ∀ d : Fin 16, Uuid.hexDigit (Nat.digitChar d) = some d.val := by decide
  have hd : ∀ m : Nat, Uuid.hexDigit (Nat.digitChar (m % 16)) = some (m % 16) := fun m =>
    hdigit ⟨m % 16, Nat.mod_lt _ (by decide)⟩
  show Uuid.hexValue 0 [_, _, _, _] = _
  simp only [Uuid.hexValue, hd, Option.bind_some]
  congr 1
  omega

theorem stringBody_uEscape {n : Nat} (hn : n < 0x10000) (t : List Char) :
    stringBody (uEscape n ++ t) = (stringBody t).map (prepend [Fin.ofNat _ n]) := by
  show stringBody ('\\' :: 'u' :: (Uuid.hexDigits 4 n ++ t)) = _
  have hhex := hexValue_hexDigits hn
  have hfour : ∃ x₁ x₂ x₃ x₄, Uuid.hexDigits 4 n = [x₁, x₂, x₃, x₄] := ⟨_, _, _, _, rfl⟩
  obtain ⟨x₁, x₂, x₃, x₄, hfour⟩ := hfour
  rw [hfour] at hhex ⊢
  rw [stringBody.eq_def]
  dsimp only
  rw [if_neg (by decide), if_pos rfl]
  show (Uuid.hexValue 0 [x₁, x₂, x₃, x₄]).bind _ = _
  rw [hhex]
  rfl

theorem stringBody_plain {x : Char} (hquote : x ≠ '"') (hback : x ≠ '\\') (hx : 0x20 ≤ x.toNat)
    (t : List Char) : stringBody (x :: t) = (stringBody t).map (prepend (utf16 x.toNat)) := by
  rw [stringBody.eq_def]
  dsimp only
  rw [if_neg hquote, if_neg hback, if_neg (Nat.not_lt.mpr hx)]
  rfl

/-- The two surrogates. -/
theorem surrogates {m : Nat} (hm : m < 0x100000) :
    0xd800 ||| ((m >>> 10) &&& 0x3ff) = 0xd800 + m / 0x400 ∧
      0xdc00 ||| (m &&& 0x3ff) = 0xdc00 + m % 0x400 := by
  have hhigh : (m >>> 10) &&& 0x3ff = m / 0x400 := by
    rw [Nat.shiftRight_eq_div_pow, show 0x3ff = 2 ^ 10 - 1 from rfl, Nat.and_two_pow_sub_one_eq_mod]
    exact Nat.mod_eq_of_lt (by omega)
  have hlow : m &&& 0x3ff = m % 0x400 := Nat.and_two_pow_sub_one_eq_mod m 10
  have hd8 : ∀ b < 2 ^ 10, 2 ^ 10 * 54 ||| b = 2 ^ 10 * 54 + b := fun b hb =>
    (Nat.two_pow_add_eq_or_of_lt hb 54).symm
  have hdc : ∀ b < 2 ^ 10, 2 ^ 10 * 55 ||| b = 2 ^ 10 * 55 + b := fun b hb =>
    (Nat.two_pow_add_eq_or_of_lt hb 55).symm
  rw [hhigh, hlow]
  exact ⟨hd8 _ (by omega), hdc _ (by omega)⟩

/-- A character of a string. -/
theorem stringBody_escape (c : CodePoint) (t : List Char) :
    stringBody (escape c ++ t) = (stringBody t).map (prepend (utf16 c.val)) := by
  rcases escape_cases c with ⟨x, hx, heq⟩ | ⟨⟨hne, hne'⟩, hplain, heq⟩ | ⟨hbmp, heq⟩ | ⟨hbmp, heq⟩
  · have hshort : ∀ p ∈ shortEscapes, escaped p.2 = some p.1 := by decide
    rw [heq]
    have hlow : c.val < 0x10000 := by
      have hsmall : ∀ p ∈ shortEscapes, p.1 < 0x10000 := by decide
      exact hsmall _ hx
    have hunits : utf16 c.val = [Fin.ofNat _ c.val] := if_pos hlow
    rw [hunits]
    exact stringBody_escaped (hshort _ hx) t
  · have hval : (Char.ofNat c.val).toNat = c.val := by
      have hall : ∀ n : Fin 0x7f, (Char.ofNat n.val).toNat = n.val := by decide
      exact hall ⟨c.val, Nat.lt_succ_of_le hplain.2⟩
    have hquote : Char.ofNat c.val ≠ '"' := fun h => hne (hval.symm.trans (congrArg Char.toNat h))
    have hback : Char.ofNat c.val ≠ '\\' := fun h => hne' (hval.symm.trans (congrArg Char.toNat h))
    have hread := stringBody_plain hquote hback (by rw [hval]; exact hplain.1) t
    rw [hval] at hread
    rw [heq]
    exact hread
  · have hunits : utf16 c.val = [Fin.ofNat _ c.val] := if_pos hbmp
    rw [heq, hunits]
    exact stringBody_uEscape hbmp t
  · have hlt : c.val < 0x110000 := c.isLt
    obtain ⟨hhigh, hlow⟩ := surrogates (m := c.val - 0x10000) (by omega)
    have hunits : utf16 c.val = [Fin.ofNat _ (0xd800 + (c.val - 0x10000) / 0x400),
        Fin.ofNat _ (0xdc00 + (c.val - 0x10000) % 0x400)] := if_neg hbmp
    rw [heq, hunits, hhigh, hlow, List.append_assoc, stringBody_uEscape (by omega),
      stringBody_uEscape (by omega), Option.map_map]
    rfl

/-- The code units of a string. -/
def units (s : PyStr) : JsStr := s.flatMap fun c => utf16 c.val

/-- A string. -/
theorem stringBody_dumps (s : PyStr) (t : List Char) :
    stringBody (s.flatMap escape ++ '"' :: t) = some (units s, t) := by
  induction s with
  | nil => exact stringBody_quote t
  | cons c s ih =>
    rw [List.flatMap_cons, List.append_assoc, stringBody_escape, ih]
    rfl

/-- A value, as it is read. -/
def ofScalar : Scalar → JsValue
  | .str s => .str (units s)
  | .bool b => .bool b
  | .null => .null

theorem value_space (fuel : Nat) (cs : List Char) : value (fuel + 1) (' ' :: cs) = value (fuel + 1) cs := by
  rw [value, value]
  rfl

/-- A scalar is read back, and the rest is left. -/
theorem value_dumps (fuel : Nat) (v : Scalar) (t : List Char) :
    value (fuel + 1) (dumpsScalar v ++ t) = some (ofScalar v, t) := by
  cases v with
  | str s =>
    show value (fuel + 1) ('"' :: ((s.flatMap escape ++ ['"']) ++ t)) = _
    rw [List.append_assoc]
    show (stringBody (s.flatMap escape ++ '"' :: t)).map _ = _
    rw [stringBody_dumps]
    rfl
  | bool b =>
    cases b with
    | false => rfl
    | true => rfl
  | null => rfl

/-- An entry, and what follows it. -/
theorem entries_entry (fuel : Nat) (k : PyStr) (v : Scalar) (t : List Char) :
    entries (fuel + 2) (dumpsStr k ++ ": ".toList ++ dumpsScalar v ++ t) =
      match skipSpace t with
      | ',' :: cs => (entries (fuel + 1) cs).map fun (entries, cs) =>
        ((units k, ofScalar v) :: entries, cs)
      | '\x7d' :: cs => some ([(units k, ofScalar v)], cs)
      | _ => none := by
  have htext : dumpsStr k ++ ": ".toList ++ dumpsScalar v ++ t =
      '"' :: (k.flatMap escape ++ '"' :: ':' :: ' ' :: (dumpsScalar v ++ t)) := by
    simp [dumpsStr]
  rw [htext]
  show (stringBody (k.flatMap escape ++ '"' :: ':' :: ' ' :: (dumpsScalar v ++ t))).bind _ = _
  rw [stringBody_dumps]
  show (value (fuel + 1) (' ' :: (dumpsScalar v ++ t))).bind _ = _
  rw [value_space, value_dumps]
  rfl

/-- Blanks before an entry. -/
theorem entries_space (fuel : Nat) (cs : List Char) :
    entries (fuel + 1) (' ' :: cs) = entries (fuel + 1) cs := by
  rw [entries, entries]
  rfl

/-- The text of an entry. -/
def entryText (e : PyStr × Scalar) : List Char := dumpsStr e.1 ++ ": ".toList ++ dumpsScalar e.2

/-- The entries of an object. -/
theorem entries_dumps (t : List Char) : ∀ (es : List (PyStr × Scalar)) (e : PyStr × Scalar) (fuel : Nat),
    es.length + 2 ≤ fuel →
      entries fuel (", ".toList.intercalate ((e :: es).map entryText) ++ '\x7d' :: t) =
        some ((e :: es).map fun (k, v) => (units k, ofScalar v), t) := by
  intro es
  induction es with
  | nil =>
    intro e fuel hfuel
    obtain ⟨fuel, rfl⟩ := Nat.exists_eq_add_of_le' hfuel
    rw [List.map_singleton, List.intercalate_singleton]
    exact entries_entry fuel e.1 e.2 _
  | cons e' es ih =>
    intro e fuel hfuel
    obtain ⟨fuel, rfl⟩ := Nat.exists_eq_add_of_le' hfuel
    have hrest := (entries_space (fuel + es.length + 1) _).trans (ih e' (fuel + es.length + 2) (by omega))
    rw [List.map_cons, List.map_cons, List.intercalate_cons_cons, ← List.map_cons, List.append_assoc,
      List.append_assoc]
    refine (entries_entry (fuel + es.length + 1) e.1 e.2 _).trans ?_
    show (entries (fuel + es.length + 1 + 1)
      (' ' :: (", ".toList.intercalate ((e' :: es).map entryText) ++ '\x7d' :: t))).map _ = _
    rw [hrest]
    rfl

/-- The entries begin with the quote of a name. -/
theorem entries_quote (es : List (PyStr × Scalar)) (e : PyStr × Scalar) (t : List Char) :
    ∃ rest, ", ".toList.intercalate ((e :: es).map entryText) ++ t = '"' :: rest := by
  cases es with
  | nil =>
    rw [List.map_singleton, List.intercalate_singleton]
    exact ⟨_, rfl⟩
  | cons e' es =>
    rw [List.map_cons, List.map_cons, List.intercalate_cons_cons]
    exact ⟨_, rfl⟩

/-- The separators are part of the text. -/
theorem length_le_entries (es : List (PyStr × Scalar)) (e : PyStr × Scalar) :
    es.length ≤ (", ".toList.intercalate ((e :: es).map entryText)).length := by
  induction es generalizing e with
  | nil => exact Nat.zero_le _
  | cons e' es ih =>
    have hrest := ih e'
    rw [List.map_cons, List.map_cons, List.intercalate_cons_cons, ← List.map_cons]
    simp only [List.length_append, List.length_cons]
    have hsep : ", ".toList.length = 2 := rfl
    omega

end JsValue

/-- The entries `JSON.parse` reads of a payload. -/
def Payload.parsed (p : Payload) : List (JsStr × JsValue) :=
  p.fields.map fun (k, v) => (JsValue.units k, JsValue.ofScalar v)

/-- **`JSON.parse` reads what `json.dumps` wrote.** -/
theorem parse_dumps (p : Payload) : JsValue.parse (dumps p) = some (.obj p.parsed) := by
  obtain ⟨fields, distinct⟩ := p
  cases fields with
  | nil => rfl
  | cons e es =>
    let inner := ", ".toList.intercalate ((e :: es).map JsValue.entryText)
    have htext : dumps ⟨e :: es, distinct⟩ = '\x7b' :: (inner ++ '\x7d' :: []) := rfl
    have hlength : (dumps ⟨e :: es, distinct⟩).length = inner.length + 2 := by
      rw [htext]
      simp
    have hle : es.length ≤ inner.length := JsValue.length_le_entries es e
    have hentries := JsValue.entries_dumps [] es e (2 * (inner.length + 2) + 1) (by omega)
    have hread : JsValue.value (2 * (inner.length + 2) + 2) (dumps ⟨e :: es, distinct⟩) =
        some (.obj (Payload.parsed ⟨e :: es, distinct⟩), []) := by
      obtain ⟨rest, hrest⟩ := JsValue.entries_quote es e ['\x7d']
      rw [hrest] at hentries
      rw [htext]
      show JsValue.value _
        ('\x7b' :: (", ".toList.intercalate ((e :: es).map JsValue.entryText) ++ ['\x7d'])) = _
      rw [hrest]
      show (JsValue.entries (2 * (inner.length + 2) + 1) ('"' :: rest)).map _ = _
      rw [hentries]
      rfl
    rw [JsValue.parse, hlength, hread]
    rfl

/-! ## Fields -/

/-- A literal of the page. -/
def jsStr (s : String) : JsStr := JsValue.units (pyStr s)

/-- `object.k`; `none` is `undefined`. -/
def field (k : String) (entries : List (JsStr × JsValue)) : Option JsValue :=
  entries.reverse.lookup (jsStr k)

/-- The field is a string. -/
def isText (k : String) (entries : List (JsStr × JsValue)) : Bool :=
  match field k entries with
  | some (.str _) => true
  | _ => false

/-- The field of the `dict` is a string. -/
def Payload.isText (k : String) (p : Payload) : Bool :=
  match p.fields.lookup (pyStr k) with
  | some (.str _) => true
  | _ => false

/-- Code units below the surrogates are code points. -/
theorem map_units {s : PyStr} (h : ∀ u ∈ JsValue.units s, u.val < 0xd800) :
    ((JsValue.units s).map fun u => (Fin.ofNat 0x110000 u.val)) = s := by
  induction s with
  | nil => rfl
  | cons c s ih =>
    have hcons : JsValue.units (c :: s) = utf16 c.val ++ JsValue.units s := rfl
    rw [hcons] at h ⊢
    have hlt : c.val < 0x110000 := c.isLt
    have hbmp : c.val < 0x10000 := by
      by_contra hhigh
      have hunits : utf16 c.val = [Fin.ofNat _ (0xd800 + (c.val - 0x10000) / 0x400),
        Fin.ofNat _ (0xdc00 + (c.val - 0x10000) % 0x400)] := if_neg hhigh
      have hfirst := h (Fin.ofNat _ (0xd800 + (c.val - 0x10000) / 0x400)) (by
        rw [hunits]
        exact List.mem_cons_self)
      have hval : (Fin.ofNat 0x10000 (0xd800 + (c.val - 0x10000) / 0x400)).val =
        (0xd800 + (c.val - 0x10000) / 0x400) % 0x10000 := rfl
      omega
    have hunits : utf16 c.val = [Fin.ofNat _ c.val] := if_pos hbmp
    rw [List.map_append, ih fun u hu => h u (List.mem_append_right _ hu), hunits]
    refine congrArg (· :: s) (Fin.ext ?_)
    show c.val % 0x10000 % 0x110000 = c.val
    omega

/-- A name below the surrogates is the only one with its code units. -/
theorem units_inj {s k : PyStr} (hk : ∀ u ∈ JsValue.units k, u.val < 0xd800)
    (h : JsValue.units s = JsValue.units k) : s = k := by
  have hs := map_units (s := s) (by rw [h]; exact hk)
  rw [← hs, h]
  exact map_units hk

theorem jsStr_low {k : String} (hk : (k.toList.all fun c => c.toNat < 0xd800) = true) :
    ∀ u ∈ jsStr k, u.val < 0xd800 := by
  intro u hu
  obtain ⟨x, hx, hu⟩ := List.mem_flatMap.mp hu
  obtain ⟨c, hc, rfl⟩ := List.mem_map.mp hx
  have hlow : c.toNat < 0xd800 := of_decide_eq_true (List.all_eq_true.mp hk c hc)
  have hval : (Fin.ofNat 0x110000 c.toNat).val = c.toNat := Nat.mod_eq_of_lt (by omega)
  have hunits : utf16 c.toNat = [Fin.ofNat _ c.toNat] := if_pos (by omega)
  rw [hval, hunits] at hu
  rw [List.mem_singleton.mp hu]
  show c.toNat % 0x10000 < 0xd800
  omega

/-- A string is read as a string. -/
theorem isText_parsed {k : String} (hlow : (k.toList.all fun c => c.toNat < 0xd800) = true)
    {p : Payload} (h : p.isText k = true) : isText k p.parsed = true := by
  have hk := jsStr_low hlow
  obtain ⟨text, htext⟩ : ∃ text, (pyStr k, Scalar.str text) ∈ p.fields := by
    rw [Payload.isText] at h
    split at h
    · rename_i text hlookup
      obtain ⟨l₁, l₂, hfields, -⟩ := List.lookup_eq_some_iff.mp hlookup
      exact ⟨text, by rw [hfields]; exact List.mem_append_right _ List.mem_cons_self⟩
    · cases h
  have hsome : (field k p.parsed).isSome = true :=
    List.lookup_isSome_iff.mpr ⟨_, List.mem_reverse.mpr (List.mem_map_of_mem htext), beq_self_eq_true _⟩
  obtain ⟨v, hv⟩ := Option.isSome_iff_exists.mp hsome
  -- the last entry of the name is the only one
  obtain ⟨l₁, l₂, hreverse, -⟩ := List.lookup_eq_some_iff.mp hv
  have hentry : (jsStr k, v) ∈ p.parsed := by
    rw [← List.mem_reverse, hreverse]
    exact List.mem_append_right _ List.mem_cons_self
  obtain ⟨e, he, heq⟩ := List.mem_map.mp hentry
  obtain ⟨hname, hvalue⟩ := Prod.mk.inj heq
  have hsame : e = (pyStr k, .str text) :=
    List.inj_on_of_nodup_map p.distinct he htext (units_inj hk hname)
  rw [isText, hv, ← hvalue, hsame]
  rfl

end Web

end Dtsys
