/-
  IPv4 ADDRESSES as the server reads them: `_extract_ip` (`app/websocket/handler.py`) over Python's
  `ipaddress` module.

  `ipaddress.ip_interface` takes a dotted quad with an optional `/mask` (a prefix length, a netmask
  or a hostmask) and an integer; anything else that parses at all parses as IPv6, which
  `_extract_ip` discards, so only the IPv4 side is needed.  The second attempt with
  `ipaddress.ip_address` accepts nothing the first one refuses (a string with a slash is no
  address, one without a slash was already tried).

  1. `parseInterface` — `ip_interface(s).ip`, when it is an IPv4 address: the mask is checked and dropped.
  2. `validMask` — a mask that is a prefix length, a netmask or a hostmask.
  3. `isPrivate` — the networks that `ipaddress` calls private; `is_private` decides which address a
     device is shown with.
  4. `parseQuad_str`, `str_injective` — what is printed is parsed, so an address is its text.
-/
import Dtsys.Server.Values

namespace Dtsys

/-- `ipaddress.IPv4Address`. -/
abbrev Ipv4 := BitVec 32

namespace Ipv4

/-- `s.split(sep)`. -/
def splitOn (sep : Char) : List Char → List (List Char)
  | [] => [[]]
  | c :: cs =>
    if c = sep then [] :: splitOn sep cs
    else match splitOn sep cs with
      | p :: ps => (c :: p) :: ps
      | [] => [[c]]

/-- An ASCII decimal number. -/
def decimal : List Char → Option Nat
  | [] => none
  | cs => if cs.all (fun c => '0' ≤ c ∧ c ≤ '9') then
      some (cs.foldl (fun acc c => 10 * acc + (c.toNat - '0'.toNat)) 0)
    else none

/-- `_parse_octet`: at most three digits, no leading zero, at most 255. -/
def parseOctet (cs : List Char) : Option Nat :=
  (decimal cs).bind fun n =>
    if cs.length ≤ 3 ∧ (cs = ['0'] ∨ cs.head? ≠ some '0') ∧ n ≤ 255 then some n else none

/-- `_ip_int_from_string`. -/
def parseQuad (cs : List Char) : Option Nat :=
  match (splitOn '.' cs).mapM parseOctet with
  | some [a, b, c, d] => some (((a * 256 + b) * 256 + c) * 256 + d)
  | _ => none

/-- `_prefix_from_ip_int` succeeds: a run of ones followed by a run of zeros. -/
def isNetmask (n : Nat) : Bool := (List.range 33).any fun p => n == 2 ^ 32 - 2 ^ (32 - p)

/-- `_make_netmask` succeeds: a prefix length, a netmask or a hostmask. -/
def validMask (cs : List Char) : Bool :=
  (match decimal cs with
    | some n => decide (n ≤ 32)
    | none => false) ||
  (match parseQuad cs with
    | some n => isNetmask n || isNetmask (2 ^ 32 - 1 - n)
    | none => false)

/-- `ipaddress.ip_interface(s).ip` when it is an IPv4 address. -/
def parseInterface (s : String) : Option Ipv4 :=
  match splitOn '/' s.toList with
  | [addr] => (parseQuad addr).map (BitVec.ofNat 32)
  | [addr, mask] => if validMask mask then (parseQuad addr).map (BitVec.ofNat 32) else none
  | _ => none

/-- `a` lies in the network `net/len`. -/
def inNetwork (a : Ipv4) (net : Nat × Nat × Nat × Nat) (len : Nat) : Bool :=
  let n := ((net.1 * 256 + net.2.1) * 256 + net.2.2.1) * 256 + net.2.2.2
  a.toNat / 2 ^ (32 - len) == n / 2 ^ (32 - len)

/-- `is_private`: the IANA special-purpose registry as `ipaddress` carries it. -/
def isPrivate (a : Ipv4) : Bool :=
  (inNetwork a (0, 0, 0, 0) 8 || inNetwork a (10, 0, 0, 0) 8 || inNetwork a (127, 0, 0, 0) 8 ||
    inNetwork a (169, 254, 0, 0) 16 || inNetwork a (172, 16, 0, 0) 12 ||
    inNetwork a (192, 0, 0, 0) 24 || inNetwork a (192, 0, 2, 0) 24 ||
    inNetwork a (192, 168, 0, 0) 16 || inNetwork a (198, 18, 0, 0) 15 ||
    inNetwork a (198, 51, 100, 0) 24 || inNetwork a (203, 0, 113, 0) 24 ||
    inNetwork a (240, 0, 0, 0) 4) &&
  !(inNetwork a (192, 0, 0, 9) 32 || inNetwork a (192, 0, 0, 10) 32)

/-- `str(ip)`. -/
def str (a : Ipv4) : String :=
  let n := a.toNat
  toString (n / 2 ^ 24) ++ "." ++ toString (n / 2 ^ 16 % 256) ++ "." ++
    toString (n / 2 ^ 8 % 256) ++ "." ++ toString (n % 256)

/-! ## What is printed is parsed -/

/-- A text without the separator is its only part. -/
theorem splitOn_of_not_mem {sep : Char} : ∀ {a : List Char}, sep ∉ a → splitOn sep a = [a] := by
  intro a
  induction a with
  | nil => exact fun _ => rfl
  | cons c cs ih =>
    intro h
    have hne : c ≠ sep := fun he => h (he ▸ List.mem_cons_self)
    rw [splitOn, if_neg hne, ih fun hc => h (List.mem_cons_of_mem _ hc)]

/-- The part before the first separator. -/
theorem splitOn_append {sep : Char} : ∀ {a : List Char}, sep ∉ a → ∀ b : List Char,
    splitOn sep (a ++ sep :: b) = a :: splitOn sep b := by
  intro a
  induction a with
  | nil =>
    intro _ b
    show (if sep = sep then _ else _) = _
    rw [if_pos rfl]
  | cons c cs ih =>
    intro h b
    have hne : c ≠ sep := fun he => h (he ▸ List.mem_cons_self)
    rw [List.cons_append, splitOn, if_neg hne, ih fun hc => h (List.mem_cons_of_mem _ hc)]

/-- The text of a number below 256: a number again, in the form the parser wants. -/
theorem octet_text : ∀ n < 256, parseOctet (toString n).toList = some n ∧
    '.' ∉ (toString n).toList ∧ '/' ∉ (toString n).toList := by
  decide +kernel

/-- A prefix length is a mask. -/
theorem validMask_text : ∀ n < 33, validMask (toString n).toList = true := by
  decide +kernel

/-- Four numbers below 256 are read as one. -/
theorem parseQuad_text {a b c d : Nat} (ha : a < 256) (hb : b < 256) (hc : c < 256)
    (hd : d < 256) :
    parseQuad ((toString a).toList ++ '.' :: ((toString b).toList ++ '.' ::
      ((toString c).toList ++ '.' :: (toString d).toList))) =
      some (((a * 256 + b) * 256 + c) * 256 + d) := by
  rw [parseQuad]
  rw [splitOn_append (octet_text a ha).2.1, splitOn_append (octet_text b hb).2.1,
    splitOn_append (octet_text c hc).2.1, splitOn_of_not_mem (octet_text d hd).2.1]
  simp only [List.mapM_cons, List.mapM_nil, (octet_text a ha).1, (octet_text b hb).1,
    (octet_text c hc).1, (octet_text d hd).1]
  rfl

/-- An address is written as its four bytes. -/
theorem toList_str (a : Ipv4) :
    a.str.toList = (toString (a.toNat / 2 ^ 24)).toList ++ '.' ::
      ((toString (a.toNat / 2 ^ 16 % 256)).toList ++ '.' ::
        ((toString (a.toNat / 2 ^ 8 % 256)).toList ++ '.' :: (toString (a.toNat % 256)).toList)) := by
  rw [str]
  simp only [String.toList_append, List.append_assoc]
  rfl

/-- And read back as the same number. -/
theorem parseQuad_str (a : Ipv4) : parseQuad a.str.toList = some a.toNat := by
  have hlt : a.toNat < 4294967296 := a.isLt
  rw [toList_str, parseQuad_text (by omega) (by omega) (by omega) (by omega)]
  refine congrArg some ?_
  omega

theorem slash_not_mem_str (a : Ipv4) : '/' ∉ a.str.toList := by
  have hlt : a.toNat < 4294967296 := a.isLt
  have hoctet : ∀ n < 256, '/' ∉ (toString n).toList := fun n hn => (octet_text n hn).2.2
  rw [toList_str]
  simp only [List.mem_append, List.mem_cons, not_or]
  exact ⟨hoctet _ (by omega), by decide, hoctet _ (by omega), by decide, hoctet _ (by omega),
    by decide, hoctet _ (by omega)⟩

/-- An address with a prefix length is read as that address. -/
theorem parseInterface_prefix (a : Ipv4) {len : Nat} (h : len ≤ 32) :
    parseInterface (a.str ++ "/" ++ toString len) = some a := by
  have htext : (a.str ++ "/" ++ toString len).toList =
      a.str.toList ++ '/' :: (toString len).toList := by
    simp only [String.toList_append, List.append_assoc]
    rfl
  rw [parseInterface]
  rw [htext, splitOn_append (slash_not_mem_str a),
    splitOn_of_not_mem (octet_text len (by omega)).2.2]
  dsimp only
  rw [validMask_text len (by omega), if_pos rfl, parseQuad_str, Option.map_some,
    BitVec.ofNat_toNat, BitVec.setWidth_eq]

theorem str_injective {a b : Ipv4} (h : a.str = b.str) : a = b := by
  have hparsed := parseQuad_str a
  rw [h, parseQuad_str] at hparsed
  exact BitVec.eq_of_toNat_eq (Option.some.inj hparsed).symm

end Ipv4

/-- `_extract_ip(value)`.  An integer is an address too, and `True` is the integer 1. -/
def extractIp : Json → Option Ipv4
  | .str s => Ipv4.parseInterface s
  | .int n => if 0 ≤ n ∧ n < 2 ^ 32 then some (BitVec.ofInt 32 n) else none
  | .bool b => some (if b then 1 else 0)
  | _ => none

end Dtsys
