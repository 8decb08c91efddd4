/-
  VALUES the server computes with: UUIDs, decoded JSON, Python's exceptions.

  An agent's message reaches the server as whatever `json.loads` returned, and the handlers take it
  apart with `.get`, `for`, `len`, `<`, `abs`, `str`, `uuid.UUID` — each of which may raise on a
  value of the wrong shape.  Which of them raises, and before or after which write, is what the
  atomicity results are about, so the Python operations are spelled out here with their exceptions
  (`PyErr`) instead of assuming well-typed payloads.

  * `Uuid` — `uuid.UUID`: a 128-bit value, `Uuid.parse` the constructor on a string.
  * `Json` — a decoded JSON value.  Python keeps integers and floats apart, so there are two
    constructors; a float is given by the exact rational value of the double.
  * `Json.get`, `Json.getD`, `Json.iter`, `Json.truthy`, `Json.number`, … — the operations.
-/
import Mathlib.Data.Rat.Floor

namespace Dtsys

/-! ## Exceptions -/

/-- The exceptions the modelled code can raise.  `db` is any error the driver or PostgreSQL reports
    for a statement (the transaction is then only good for a rollback); `http` is FastAPI's
    `HTTPException` with its status code and detail. -/
inductive PyErr where
  | attributeError
  | typeError
  | valueError
  | overflowError
  | unboundLocalError
  | runtimeError
  | multipleResultsFound
  | db
  | http (status : Nat) (detail : String)
  deriving DecidableEq, Repr

/-- `NotFoundError(detail)` of `app/core/exceptions.py`. -/
def notFoundError (detail : String) : PyErr := .http 404 detail

/-- `BadRequestError(detail)`. -/
def badRequestError (detail : String) : PyErr := .http 400 detail

/-- `ConflictError(detail)`. -/
def conflictError (detail : String) : PyErr := .http 409 detail

/-- `TooManyRequestsError(detail)`. -/
def tooManyRequestsError (detail : String) : PyErr := .http 429 detail

/-! ## UUIDs -/

/-- `uuid.UUID`. -/
abbrev Uuid := BitVec 128

namespace Uuid

/-- `s.replace(pat, "")`; `skip` counts the characters of the last match still to be dropped. -/
def erasePat (pat : List Char) : Nat → List Char → List Char
  | _, [] => []
  | skip + 1, _ :: cs => erasePat pat skip cs
  | 0, c :: cs =>
    if pat.isPrefixOf (c :: cs) then erasePat pat (pat.length - 1) cs
    else c :: erasePat pat 0 cs

/-- `s.strip("{}")`: drop braces at both ends. -/
def stripBraces (cs : List Char) : List Char :=
  let isBrace := fun c => c == '\x7b' || c == '\x7d'
  ((cs.dropWhile isBrace).reverse.dropWhile isBrace).reverse

/-- A hexadecimal digit of either case. -/
def hexDigit (c : Char) : Option Nat :=
  if '0' ≤ c ∧ c ≤ '9' then some (c.toNat - '0'.toNat)
  else if 'a' ≤ c ∧ c ≤ 'f' then some (c.toNat - 'a'.toNat + 10)
  else if 'A' ≤ c ∧ c ≤ 'F' then some (c.toNat - 'A'.toNat + 10)
  else none

/-- The number that hexadecimal digits are. -/
def hexValue : Nat → List Char → Option Nat
  | acc, [] => some acc
  | acc, c :: cs => (hexDigit c).bind fun d => hexValue (16 * acc + d) cs

/-! ### `int(s, 16)`

  Beside digits, `int` reads white space at both ends, a sign, a prefix `0x`, single underscores between digits,
  and the decimal digits of every script. -/

/-- The zeros of the decimal digits beyond ASCII, as Python 3.12 has them; nine more digits follow each. -/
def decimalZeros : List Nat :=
  [0x660, 0x6f0, 0x7c0, 0x966, 0x9e6, 0xa66, 0xae6, 0xb66, 0xbe6, 0xc66, 0xce6, 0xd66, 0xde6, 0xe50, 0xed0, 0xf20,
    0x1040, 0x1090, 0x17e0, 0x1810, 0x1946, 0x19d0, 0x1a80, 0x1a90, 0x1b50, 0x1bb0, 0x1c40, 0x1c50, 0xa620, 0xa8d0,
    0xa900, 0xa9d0, 0xa9f0, 0xaa50, 0xabf0, 0xff10, 0x104a0, 0x10d30, 0x11066, 0x110f0, 0x11136, 0x111d0, 0x112f0,
    0x11450, 0x114d0, 0x11650, 0x116c0, 0x11730, 0x118e0, 0x11950, 0x11c50, 0x11d50, 0x11da0, 0x11f50, 0x16a60,
    0x16ac0, 0x16b50, 0x1d7ce, 0x1d7d8, 0x1d7e2, 0x1d7ec, 0x1d7f6, 0x1e140, 0x1e2f0, 0x1e4f0, 0x1e950, 0x1fbf0]

/-- White space beyond ASCII. -/
def isWideSpace (n : Nat) : Bool :=
  n == 0x85 || n == 0xa0 || n == 0x1680 || (0x2000 ≤ n && n ≤ 0x200a) || n == 0x2028 || n == 0x2029 ||
    n == 0x202f ||
    n == 0x205f || n == 0x3000

/-- `_PyUnicode_TransformDecimalAndSpaceToASCII`, on one character; a question mark is no digit. -/
def toAscii (c : Char) : Char :=
  if c.toNat < 127 then c
  else if isWideSpace c.toNat then ' '
  else match decimalZeros.find? fun first => first ≤ c.toNat && c.toNat ≤ first + 9 with
    | some first => Nat.digitChar (c.toNat - first)
    | none => '?'

/-- `Py_ISSPACE`. -/
def isAsciiSpace (c : Char) : Bool := (9 ≤ c.toNat && c.toNat ≤ 13) || c == ' '

/-- The text between the white space. -/
def stripSpace (cs : List Char) : List Char :=
  ((cs.dropWhile isAsciiSpace).reverse.dropWhile isAsciiSpace).reverse

/-- Behind `0x`, which an underscore may follow. -/
def withoutPrefix : List Char → List Char
  | '0' :: 'x' :: '_' :: cs | '0' :: 'X' :: '_' :: cs | '0' :: 'x' :: cs | '0' :: 'X' :: cs => cs
  | cs => cs

/-- The number that the digits are; an underscore stands between two of them. -/
def literalValue : Nat → Bool → List Char → Option Nat
  | acc, afterDigit, [] => if afterDigit then some acc else none
  | acc, afterDigit, c :: cs =>
    if c = '_' then if afterDigit then literalValue acc false cs else none
    else (hexDigit c).bind fun d => literalValue (16 * acc + d) true cs

/-- `int(s, 16)` -/
def int16 (s : List Char) : Option Int :=
  match stripSpace (s.map toAscii) with
  | '-' :: cs => (literalValue 0 false (withoutPrefix cs)).map fun n => -Int.ofNat n
  | '+' :: cs => (literalValue 0 false (withoutPrefix cs)).map Int.ofNat
  | cs => (literalValue 0 false (withoutPrefix cs)).map Int.ofNat

/-- `uuid.UUID(s)`: `urn:` and `uuid:`, surrounding braces and hyphens are dropped; 32 characters must remain,
    and `int(_, 16)` reads them as a number of 128 bits.  Else it is a `ValueError` (`none`). -/
def parse (s : String) : Option Uuid :=
  let hex := (stripBraces (erasePat "uuid:".toList 0 (erasePat "urn:".toList 0 s.toList))).filter
    (fun c => c != '-')
  if hex.length = 32 then
    match int16 hex with
    | some (.ofNat n) => if n < 2 ^ 128 then some (BitVec.ofNat 128 n) else none
    | _ => none
  else none

/-- The `k` lowest hexadecimal digits of `n`, most significant first. -/
def hexDigits : Nat → Nat → List Char
  | 0, _ => []
  | k + 1, n => hexDigits k (n / 16) ++ [Nat.digitChar (n % 16)]

/-- `str(u)`: lower case, grouped 8-4-4-4-12. -/
def str (u : Uuid) : String :=
  let d := hexDigits 32 u.toNat
  String.ofList (d.take 8 ++ '-' :: (d.drop 8).take 4 ++ '-' :: (d.drop 12).take 4
    ++ '-' :: (d.drop 16).take 4 ++ '-' :: d.drop 20)

/-! ### The text of an id is read back -/

theorem length_hexDigits : ∀ k n : Nat, (hexDigits k n).length = k := by
  intro k
  induction k with
  | zero => exact fun n => rfl
  | succ k ih =>
    intro n
    rw [hexDigits, List.length_append, ih]
    rfl

theorem mem_hexDigits {c : Char} : ∀ {k n : Nat}, c ∈ hexDigits k n → ∃ d < 16, c = Nat.digitChar d := by
  intro k
  induction k with
  | zero => exact fun h => (List.not_mem_nil h).elim
  | succ k ih =>
    intro n h
    rcases List.mem_append.mp h with h | h
    · exact ih h
    · exact ⟨n % 16, Nat.mod_lt n (by decide), List.mem_singleton.mp h⟩

theorem hexDigit_digitChar : ∀ d < 16, hexDigit (Nat.digitChar d) = some d := by decide

/-- The value of two runs of digits. -/
theorem hexValue_append (ys : List Char) : ∀ (xs : List Char) (acc : Nat),
    hexValue acc (xs ++ ys) = (hexValue acc xs).bind fun n => hexValue n ys := by
  intro xs
  induction xs with
  | nil => exact fun acc => rfl
  | cons x xs ih =>
    intro acc
    rw [List.cons_append, hexValue, hexValue, Option.bind_assoc]
    exact congrArg _ (funext fun d => ih _)

/-- The digits of a number are read back. -/
theorem hexValue_hexDigits : ∀ k n acc : Nat,
    hexValue acc (hexDigits k n) = some (acc * 16 ^ k + n % 16 ^ k) := by
  intro k
  induction k with
  | zero =>
    intro n acc
    rw [Nat.pow_zero, Nat.mod_one, Nat.mul_one]
    rfl
  | succ k ih =>
    intro n acc
    have hlow : hexDigit (Nat.digitChar (n % 16)) = some (n % 16) :=
      hexDigit_digitChar _ (Nat.mod_lt n (by decide))
    have hsplit : n % 16 ^ (k + 1) = n % 16 + 16 * (n / 16 % 16 ^ k) := by
      rw [Nat.pow_succ', Nat.mod_mul]
    rw [hexDigits, hexValue_append, ih, Option.bind_some, hexValue, hlow, Option.bind_some, hexValue,
      hsplit, Nat.pow_succ]
    congr 1
    ring

/-- Without an underscore, `int` reads digits. -/
theorem literalValue_of_forall : ∀ {cs : List Char}, (∀ c ∈ cs, c ≠ '_') → ∀ acc : Nat,
    literalValue acc true cs = hexValue acc cs := by
  intro cs
  induction cs with
  | nil => exact fun _ acc => rfl
  | cons c cs ih =>
    intro h acc
    rw [literalValue, hexValue, if_neg (h c List.mem_cons_self)]
    exact congrArg _ (funext fun d => ih (fun c hc => h c (List.mem_cons_of_mem _ hc)) _)

/-- Where there are digits only. -/
theorem literalValue_eq {cs : List Char} (h : ∀ c ∈ cs, c ≠ '_') (hcs : cs ≠ []) (acc : Nat) :
    literalValue acc false cs = hexValue acc cs := by
  cases cs with
  | nil => exact absurd rfl hcs
  | cons c cs =>
    rw [← literalValue_of_forall h, literalValue, literalValue, if_neg (h c List.mem_cons_self),
      if_neg (h c List.mem_cons_self)]

/-- A prefix that does not occur is not removed. -/
theorem erasePat_of_notMem {p : Char} {ps : List Char} : ∀ {cs : List Char}, p ∉ cs →
    erasePat (p :: ps) 0 cs = cs := by
  intro cs
  induction cs with
  | nil => exact fun _ => rfl
  | cons c cs ih =>
    intro h
    have hc : p ≠ c := fun heq => h (heq ▸ List.mem_cons_self)
    have hcs : p ∉ cs := fun hin => h (List.mem_cons_of_mem c hin)
    have hprefix : (p :: ps).isPrefixOf (c :: cs) = false := by
      rw [List.isPrefixOf_cons_cons]
      simp [hc]
    rw [erasePat, hprefix, ih hcs]
    rfl

theorem stripBraces_of_forall {cs : List Char} (h : ∀ c ∈ cs, c ≠ '\x7b' ∧ c ≠ '\x7d') :
    stripBraces cs = cs := by
  have hkeep : ∀ l : List Char, (∀ c ∈ l, c ≠ '\x7b' ∧ c ≠ '\x7d') →
      l.dropWhile (fun c => c == '\x7b' || c == '\x7d') = l := by
    intro l hl
    cases l with
    | nil => rfl
    | cons c l =>
      obtain ⟨hopen, hclose⟩ := hl c List.mem_cons_self
      simp [hopen, hclose]
  show ((cs.dropWhile fun c => c == '\x7b' || c == '\x7d').reverse.dropWhile
    fun c => c == '\x7b' || c == '\x7d').reverse = cs
  rw [hkeep cs h, hkeep cs.reverse fun c hc => h c (List.mem_reverse.mp hc), List.reverse_reverse]

theorem groups_eq (d : List Char) :
    d.take 8 ++ ((d.drop 8).take 4 ++ ((d.drop 12).take 4 ++ ((d.drop 16).take 4 ++ d.drop 20))) =
      d := by
  have hgroup : ∀ i, (d.drop i).take 4 ++ d.drop (i + 4) = d.drop i := by
    intro i
    rw [← List.drop_drop, List.take_append_drop]
  rw [hgroup 16, hgroup 12, hgroup 8, List.take_append_drop]

/-- What is in the text: digits and hyphens. -/
theorem mem_str {u : Uuid} {c : Char} (h : c ∈ u.str.toList) :
    c = '-' ∨ c ∈ hexDigits 32 u.toNat := by
  rw [str] at h
  simp only [String.toList_ofList, List.append_assoc, List.cons_append, List.mem_append, List.mem_cons] at h
  rcases h with h | h | h | h | h | h | h | h | h
  · exact .inr (List.mem_of_mem_take h)
  · exact .inl h
  · exact .inr (List.mem_of_mem_drop (List.mem_of_mem_take h))
  · exact .inl h
  · exact .inr (List.mem_of_mem_drop (List.mem_of_mem_take h))
  · exact .inl h
  · exact .inr (List.mem_of_mem_drop (List.mem_of_mem_take h))
  · exact .inl h
  · exact .inr (List.mem_of_mem_drop h)

theorem digitChar_plain : ∀ d < 16, Nat.digitChar d ≠ 'u' ∧ Nat.digitChar d ≠ '-' ∧
    Nat.digitChar d ≠ '\x7b' ∧ Nat.digitChar d ≠ '\x7d' := by decide

/-- The text of an id without its hyphens. -/
theorem filter_str (u : Uuid) :
    u.str.toList.filter (fun c => c != '-') = hexDigits 32 u.toNat := by
  have hdigits : ∀ c ∈ hexDigits 32 u.toNat, c ≠ '-' := by
    intro c hc
    obtain ⟨d, hd, rfl⟩ := mem_hexDigits hc
    exact (digitChar_plain d hd).2.1
  rw [str]
  generalize hexDigits 32 u.toNat = d at hdigits
  have hkeep : ∀ l : List Char, (∀ c ∈ l, c ∈ d) → l.filter (fun c => c != '-') = l := by
    intro l hl
    rw [List.filter_eq_self]
    exact fun c hc => bne_iff_ne.mpr (hdigits c (hl c hc))
  have hhyphen : ∀ l : List Char, ('-' :: l).filter (fun c => c != '-') = l.filter fun c => c != '-' :=
    fun l => List.filter_cons_of_neg (by decide)
  simp only [String.toList_ofList, List.filter_append, hhyphen, List.append_assoc]
  rw [hkeep _ fun c => List.mem_of_mem_take, hkeep ((d.drop 8).take 4) fun c hc =>
      List.mem_of_mem_drop (List.mem_of_mem_take hc),
    hkeep ((d.drop 12).take 4) fun c hc => List.mem_of_mem_drop (List.mem_of_mem_take hc),
    hkeep ((d.drop 16).take 4) fun c hc => List.mem_of_mem_drop (List.mem_of_mem_take hc),
    hkeep (d.drop 20) fun c hc => List.mem_of_mem_drop hc]
  exact groups_eq d

/-- The digits of an id are plain: not blank, no sign, no prefix. -/
theorem digitChar_ascii : ∀ d < 16, toAscii (Nat.digitChar d) = Nat.digitChar d ∧
    isAsciiSpace (Nat.digitChar d) = false ∧ Nat.digitChar d ∉ ['+', '-', 'x', 'X', '_'] := by decide

theorem stripSpace_of_forall {cs : List Char} (h : ∀ c ∈ cs, isAsciiSpace c = false) : stripSpace cs = cs := by
  have hkeep : ∀ l : List Char, (∀ c ∈ l, isAsciiSpace c = false) → l.dropWhile isAsciiSpace = l := by
    intro l hl
    cases l with
    | nil => rfl
    | cons c l => exact List.dropWhile_cons_of_neg (by rw [hl c List.mem_cons_self]; decide)
  rw [stripSpace, hkeep cs h, hkeep cs.reverse fun c hc => h c (List.mem_reverse.mp hc), List.reverse_reverse]

theorem withoutPrefix_of_forall {cs : List Char} (h : ∀ c ∈ cs, c ∉ ['x', 'X']) : withoutPrefix cs = cs := by
  unfold withoutPrefix
  split
  · exact absurd (h 'x' (by simp)) (by decide)
  · exact absurd (h 'X' (by simp)) (by decide)
  · exact absurd (h 'x' (by simp)) (by decide)
  · exact absurd (h 'X' (by simp)) (by decide)
  · rfl

/-- Plain digits need none of what else `int` reads. -/
theorem int16_hexDigits (k n : Nat) (hk : k ≠ 0) : int16 (hexDigits k n) = some (.ofNat (n % 16 ^ k)) := by
  have hascii : ∀ c ∈ hexDigits k n, toAscii c = c ∧ isAsciiSpace c = false ∧ c ∉ ['+', '-', 'x', 'X', '_'] := by
    intro c hc
    obtain ⟨d, hd, rfl⟩ := mem_hexDigits hc
    exact digitChar_ascii d hd
  have htext : stripSpace ((hexDigits k n).map toAscii) = hexDigits k n := by
    rw [List.map_congr_left fun c hc => (hascii c hc).1, List.map_id']
    exact stripSpace_of_forall fun c hc => (hascii c hc).2.1
  have hbare : withoutPrefix (hexDigits k n) = hexDigits k n := by
    refine withoutPrefix_of_forall fun c hc hx => (hascii c hc).2.2 ?_
    rcases List.mem_pair.mp hx with rfl | rfl
    · decide
    · decide
  have hne : hexDigits k n ≠ [] := fun hnil => hk ((length_hexDigits k n).symm.trans (congrArg List.length hnil))
  have hvalue : literalValue 0 false (hexDigits k n) = some (n % 16 ^ k) := by
    have hdigits : ∀ c ∈ hexDigits k n, c ≠ '_' := by
      rintro c hc rfl
      exact (hascii _ hc).2.2 (by decide)
    rw [literalValue_eq hdigits hne, hexValue_hexDigits, Nat.zero_mul, Nat.zero_add]
  have hplain : ∀ c cs, hexDigits k n = c :: cs → c ∉ ['+', '-', 'x', 'X', '_'] :=
    fun c cs heq => (hascii c (heq ▸ List.mem_cons_self)).2.2
  rw [int16, htext]
  split
  · rename_i cs heq
    exact absurd (hplain _ cs heq) (by decide)
  · rename_i cs heq
    exact absurd (hplain _ cs heq) (by decide)
  · rw [hbare, hvalue, Option.map_some]

/-- `uuid.UUID(str(u)) == u` -/
theorem parse_str (u : Uuid) : parse u.str = some u := by
  have hplain : ∀ c ∈ u.str.toList, c ≠ 'u' ∧ c ≠ '\x7b' ∧ c ≠ '\x7d' := by
    intro c hc
    rcases mem_str hc with rfl | hc
    · decide
    · obtain ⟨d, hd, rfl⟩ := mem_hexDigits hc
      exact ⟨(digitChar_plain d hd).1, (digitChar_plain d hd).2.2⟩
  have hnot : 'u' ∉ u.str.toList := fun hc => (hplain _ hc).1 rfl
  rw [parse]
  rw [show "urn:".toList = 'u' :: "rn:".toList from rfl, erasePat_of_notMem hnot,
    show "uuid:".toList = 'u' :: "uid:".toList from rfl, erasePat_of_notMem hnot,
    stripBraces_of_forall fun c hc => (hplain c hc).2, filter_str]
  have hlt : u.toNat < 16 ^ 32 := u.isLt
  simp only [length_hexDigits, int16_hexDigits 32 u.toNat (by decide), Nat.mod_eq_of_lt hlt]
  rw [if_pos trivial, if_pos u.isLt]
  exact congrArg some (BitVec.ofNat_toNat 128 u)

/-- An id in another spelling. -/
example : parse "0x00000000_0000_0000_0000_000014" = some 20 := by decide +kernel

/-- Two ids with one text are one. -/
theorem str_injective {u v : Uuid} (h : u.str = v.str) : u = v := by
  have hparse := parse_str u
  rw [h, parse_str] at hparse
  exact (Option.some.inj hparse).symm

end Uuid

/-! ## JSON values and the Python operations on them -/

/-- A value `json.loads` returns (the keys of an object are distinct). -/
inductive Json where
  | null
  | bool (b : Bool)
  | int (n : Int)
  | float (x : Rat)
  | str (s : String)
  | arr (xs : List Json)
  | obj (fields : List (String × Json))

namespace Json

/-- `v.get(key)`: `None` if the key is absent, `AttributeError` if `v` is not a dict. -/
def get (v : Json) (key : String) : Except PyErr Json :=
  match v with
  | .obj fields => .ok ((fields.lookup key).getD .null)
  | _ => .error .attributeError

/-- `v.get(key, default)`: the default stands in for an ABSENT key only, not for a `null`. -/
def getD (v : Json) (key : String) (default : Json) : Except PyErr Json :=
  match v with
  | .obj fields => .ok ((fields.lookup key).getD default)
  | _ => .error .attributeError

/-- `for x in v`: lists, strings (their characters) and dicts (their keys) can be iterated. -/
def iter : Json → Except PyErr (List Json)
  | .arr xs => .ok xs
  | .str s => .ok (s.toList.map fun c => .str (String.singleton c))
  | .obj fields => .ok (fields.map fun kv => .str kv.1)
  | _ => .error .typeError

/-- `len(v)`. -/
def len : Json → Except PyErr Nat
  | .arr xs => .ok xs.length
  | .str s => .ok s.length
  | .obj fields => .ok fields.length
  | _ => .error .typeError

/-- `bool(v)`. -/
def truthy : Json → Bool
  | .null => false
  | .bool b => b
  | .int n => n != 0
  | .float x => x != 0
  | .str s => s != ""
  | .arr xs => !xs.isEmpty
  | .obj fields => !fields.isEmpty

/-- The numeric value of a number (`True` and `False` are the integers 1 and 0). -/
def number : Json → Option Rat
  | .bool b => some (if b then 1 else 0)
  | .int n => some n
  | .float x => some x
  | _ => none

/-- `v is None`. -/
def isNone : Json → Bool
  | .null => true
  | _ => false

/-- `v == 0`. -/
def isZero (v : Json) : Bool := v.number == some 0

/-- `v == "s"`. -/
def isStr (v : Json) (s : String) : Bool :=
  match v with
  | .str t => t == s
  | _ => false

/-- `v > bound` for a float bound. -/
def gt (v : Json) (bound : Rat) : Except PyErr Bool :=
  match v.number with
  | some x => .ok (decide (bound < x))
  | none => .error .typeError

/-- `v < bound` for a float bound. -/
def lt (v : Json) (bound : Rat) : Except PyErr Bool :=
  match v.number with
  | some x => .ok (decide (x < bound))
  | none => .error .typeError

/-- `abs(v)`. -/
def abs : Json → Except PyErr Json
  | .bool b => .ok (.int (if b then 1 else 0))
  | .int n => .ok (.int n.natAbs)
  | .float x => .ok (.float |x|)
  | _ => .error .typeError

/-- The least integer magnitude that `float(n)` refuses: halfway between the largest double and
    `2 ^ 1024`. -/
def floatLimit : Rat := 2 ^ 1024 - 2 ^ 970

/-- `float(v)` for a number: only an integer beyond the range of a double fails. -/
def toFloat (v : Json) : Except PyErr Rat :=
  match v, v.number with
  | .int _, some x => if floatLimit ≤ |x| then .error .overflowError else .ok x
  | _, some x => .ok x
  | _, none => .error .typeError

/-- `v / 1000` for a number: true division of an integer fails only if the QUOTIENT is beyond the
    range of a double. -/
def thousandth (v : Json) : Except PyErr Rat :=
  match v, v.number with
  | .int _, some x => if floatLimit ≤ |x / 1000| then .error .overflowError else .ok (x / 1000)
  | _, some x => .ok (x / 1000)
  | _, none => .error .typeError

/-- `uuid.UUID(v)`: `ValueError` on a malformed string, `AttributeError` on anything else. -/
def toUuid : Json → Except PyErr Uuid
  | .str s => match Uuid.parse s with
    | some u => .ok u
    | none => .error .valueError
  | _ => .error .attributeError

end Json

/-! ## Fixed-point formatting -/

/-- Round to the nearest integer, ties to even. -/
def roundHalfEven (x : Rat) : Int :=
  let f := ⌊x⌋
  if x - f < 1 / 2 then f
  else if 1 / 2 < x - f then f + 1
  else if f % 2 = 0 then f else f + 1

/-- `f"{x:.kf}"`. -/
def fixedText (k : Nat) (x : Rat) : String :=
  let scaled := (roundHalfEven (|x| * 10 ^ k)).toNat
  let whole := toString (scaled / 10 ^ k)
  let digits := Nat.toDigits 10 (scaled % 10 ^ k)
  let frac := String.ofList (List.replicate (k - digits.length) '0' ++ digits)
  (if x < 0 then "-" else "") ++ whole ++ (if k = 0 then "" else "." ++ frac)

end Dtsys
