/-
  SSH KEYS of a host (`collector/ssh_keys_unix.go`).

  1. **Program** — `collectSSHKeys` goes through the lines of two `authorized_keys` files, takes the first two
     fields of a line for the key's type and the key and the others for its comment, and keeps the first
     line of each fingerprint.

  2. **The files** — a line is empty, a comment, or `[options] keytype key [comment]`; options are there if
     the first word is no key type, and they have blanks only within quotes.

  3. **Specification** — `Exact`: every key of a line is there once, with the type and the comment of its first
     line, and nothing else is.

  4. **What goes wrong** — behind options the fields are shifted: the first words of the OPTIONS are reported
     as type and key, and the key is lost.  Blanks within a comment are collapsed, and what follows a line that
     is too long for the scanner is not read.  `inventory_exact_iff` says when none of this shows.
-/
import Dtsys.Agent.Lines
import Dtsys.Lib.Firsts

namespace Dtsys

namespace Agent

namespace AuthorizedKeys

/-! ## The program -/

/-- The alphabet of `base64.StdEncoding`. -/
def base64Alphabet : List Char :=
  "ABCDEFGHIJKLMNOPQRSTUVWXYZabcdefghijklmnopqrstuvwxyz0123456789+/".toList

/-- The digit for six bits. -/
def base64Char (n : Nat) : Char := base64Alphabet.getD (n % 64) 'A'

/-- `base64.StdEncoding.EncodeToString`. -/
def base64 : List UInt8 → List Char
  | [] => []
  | [a] => [base64Char (a.toNat / 4), base64Char (a.toNat * 16), '=', '=']
  | [a, b] =>
    [base64Char (a.toNat / 4), base64Char (a.toNat * 16 + b.toNat / 16), base64Char (b.toNat * 4), '=']
  | a :: b :: c :: rest =>
    base64Char (a.toNat / 4) :: base64Char (a.toNat * 16 + b.toNat / 16) ::
      base64Char (b.toNat * 4 + c.toNat / 64) :: base64Char c.toNat :: base64 rest

/-- `sshFingerprint`; `sum256` is `sha256.Sum256`. -/
def sshFingerprint (sum256 : GoString → List UInt8) (publicKey : GoString) : GoString :=
  GoString.ofString "SHA256:" ++ (base64 (sum256 publicKey)).map .char

/-- What a line is read as: type, key and comment. -/
structure Entry where
  keyType : GoString
  key : GoString
  comment : GoString
  deriving DecidableEq

/-- `strings.Join(words, " ")`. -/
def joinWords (words : List GoString) : GoString := [GoRune.char ' '].intercalate words

/-- The first two fields, and the others as the comment. -/
def entryOf : List GoString → Option Entry
  | keyType :: key :: comment => some ⟨keyType, key, joinWords comment⟩
  | _ => none

/-- One turn of the inner loop, up to the fingerprint. -/
def readLine (text : GoString) : Option Entry :=
  let line := trimSpace text
  if line = [] ∨ line.head? = some (.char '#') then none else entryOf (fields line)

variable (sum256 : GoString → List UInt8)

/-- What the agent sends for an entry. -/
def Entry.info (e : Entry) : SSHKeyInfo := ⟨e.keyType, e.key, e.comment, sshFingerprint sum256 e.key⟩

/-- `seen` and `keys`. -/
structure Inventory where
  seen : List GoString
  keys : List SSHKeyInfo

/-- `if seen[fingerprint] { continue }`, and otherwise the key is reported. -/
def addEntry (s : Inventory) (e : Entry) : Inventory :=
  let fingerprint := sshFingerprint sum256 e.key
  if fingerprint ∈ s.seen then s else ⟨s.seen ++ [fingerprint], s.keys ++ [e.info sum256]⟩

/-- The loop over the lines of one file; `none` is a file that cannot be opened. -/
def addFile (s : Inventory) (file : Option GoString) : Inventory :=
  match file with
  | none => s
  | some text => ((scanLines text).filterMap readLine).foldl (addEntry sum256) s

/-- `CollectSSHKeys`: the file of root, and the one of the home directory. -/
def collectSSHKeys (root home : Option GoString) : List SSHKeyInfo :=
  ([root, home].foldl (addFile sum256) ⟨[], []⟩).keys

/-! ## The files -/

/-- A space or a tab. -/
def IsGap (g : GoString) : Prop := g ≠ [] ∧ ∀ r ∈ g, r = .char ' ' ∨ r = .char '\t'

/-- Blanks only within quotes, where a backslash may protect a quote. -/
def quoted : Bool → GoString → Bool
  | inside, [] => !inside
  | inside, .char '\\' :: .char '"' :: s => quoted inside s
  | inside, .char '"' :: s => quoted (!inside) s
  | inside, r :: s => (inside || !blank r) && quoted inside s

/-- A line with a key.  Options and comment come with the blanks that separate them from the key. -/
structure KeyLine where
  options : Option (GoString × GoString)
  keyType : GoString
  gap : GoString
  key : GoString
  comment : Option (GoString × GoString)
  deriving DecidableEq

namespace KeyLine

/-- The options with the blanks behind them. -/
def optionsText (l : KeyLine) : GoString :=
  match l.options with
  | some (options, gap) => options ++ gap
  | none => []

/-- The comment as it is written. -/
def commentText (l : KeyLine) : GoString :=
  match l.comment with
  | some (_, comment) => comment
  | none => []

/-- The blanks between the key and its comment. -/
def commentGap (l : KeyLine) : GoString :=
  match l.comment with
  | some (gap, _) => gap
  | none => []

/-- The line as it is written. -/
def text (l : KeyLine) : GoString :=
  l.optionsText ++ (l.keyType ++ (l.gap ++ (l.key ++ (l.commentGap ++ l.commentText))))

/-- `isKeyType` are the words that are key types. -/
structure WellFormed (isKeyType : GoString → Prop) (l : KeyLine) : Prop where
  oneLine : OneLine l.text
  options : ∀ options gap, l.options = some (options, gap) →
    quoted false options = true ∧ options ≠ [] ∧ options.head? ≠ some (.char '#') ∧ IsGap gap ∧
      ∀ w ∈ (fields options).head?, ¬ isKeyType w
  keyType : isKeyType l.keyType
  keyType_word : ∀ r ∈ l.keyType, blank r = false
  keyType_ne : l.keyType ≠ []
  keyType_head : l.keyType.head? ≠ some (.char '#')
  gap : IsGap l.gap
  key_word : ∀ r ∈ l.key, blank r = false
  key_ne : l.key ≠ []
  comment : ∀ gap comment, l.comment = some (gap, comment) →
    IsGap gap ∧ comment ≠ [] ∧ (∀ r ∈ comment.head?, blank r = false) ∧ ∀ r ∈ comment.getLast?, blank r = false

end KeyLine

/-- A line of a file: one without a key is empty or begins with `#`, behind blanks. -/
inductive Line
  | ignored (s : GoString)
  | key (lead : GoString) (l : KeyLine) (trail : GoString)
  deriving DecidableEq

namespace Line

/-- The line as it is written, without its end. -/
def text : Line → GoString
  | .ignored s => s
  | .key lead l trail => lead ++ (l.text ++ trail)

/-- A line of such a file: a comment, or a key between blanks. -/
def WellFormed (isKeyType : GoString → Prop) : Line → Prop
  | .ignored s => OneLine s ∧ ∀ r ∈ (s.dropWhile blank).head?, r = .char '#'
  | .key lead l trail =>
    l.WellFormed isKeyType ∧ (∀ r ∈ lead ++ trail, r = .char ' ' ∨ r = .char '\t')

/-- The line with a key. -/
def key? : Line → Option KeyLine
  | .ignored _ => none
  | .key _ l _ => some l

end Line

/-- A file: the lines that are ended, and what comes after the last line end. -/
structure KeyFile where
  ended : List Line
  last : Line

namespace KeyFile

/-- All lines, the last one included. -/
def lines (f : KeyFile) : List Line := f.ended ++ [f.last]

/-- What is in the file. -/
def text (f : KeyFile) : GoString := (f.ended.map Line.text).flatMap (· ++ [newline]) ++ f.last.text

/-- A file of such lines. -/
def WellFormed (isKeyType : GoString → Prop) (f : KeyFile) : Prop := ∀ l ∈ f.lines, l.WellFormed isKeyType

/-- The lines with a key. -/
def keyLines (f : KeyFile) : List KeyLine := f.lines.filterMap Line.key?

/-- Those of them in front of the first line that is too long for the scanner. -/
def scanned (f : KeyFile) : List KeyLine := (f.lines.takeWhile fun l => fitsBuffer l.text).filterMap Line.key?

end KeyFile

/-- The lines with a key of both files. -/
def keyLines (root home : Option KeyFile) : List KeyLine := [root, home].flatMap fun f => f.elim [] KeyFile.keyLines

/-- The lines with a key that are read of both files. -/
def scanned (root home : Option KeyFile) : List KeyLine := [root, home].flatMap fun f => f.elim [] KeyFile.scanned

/-! ## What the inventory should be -/

/-- Each key once, as its first line has it, and nothing else. -/
structure Exact (lines : List KeyLine) (inventory : List SSHKeyInfo) : Prop where
  once : (inventory.map SSHKeyInfo.publicKey).Nodup
  keys : ∀ k, k ∈ inventory.map SSHKeyInfo.publicKey ↔ ∃ l ∈ lines, l.key = k
  first : ∀ e ∈ inventory, ∃ l, lines.find? (fun l => l.key = e.publicKey) = some l ∧
    e.type = l.keyType ∧ e.comment = l.commentText ∧ e.fingerprint = sshFingerprint sum256 l.key

/-- The fields of a line: those of the options come first. -/
def KeyLine.words (l : KeyLine) : List GoString :=
  fields l.optionsText ++ l.keyType :: l.key :: fields l.commentText

/-- The field that is taken for the key. -/
def KeyLine.second (l : KeyLine) : GoString := l.words.getD 1 []

/-- The scanned lines can be read by position: the second field of a line with options is the key of a line
    without options before it, and for each key the first such line has the type and, up to blanks,
    the comment of the key's first line. -/
structure ByPosition (lines scanned : List KeyLine) : Prop where
  options : ∀ pre l post, scanned = pre ++ l :: post → l.options ≠ none →
    ∃ m ∈ pre, m.options = none ∧ m.key = l.second
  first : ∀ k l, lines.find? (fun l => l.key = k) = some l →
    ∃ m, scanned.find? (fun m => decide (m.options = none) && decide (m.key = k)) = some m ∧
      m.keyType = l.keyType ∧ joinWords (fields m.commentText) = l.commentText

/-! ## Reading a line -/

theorem blank_of_gap {g : GoString} (h : ∀ r ∈ g, r = .char ' ' ∨ r = .char '\t') : ∀ r ∈ g, blank r = true := by
  intro r hr
  rcases h r hr with rfl | rfl <;> decide

theorem IsGap.head {g : GoString} (h : IsGap g) (s : GoString) : ∀ r ∈ (g ++ s).head?, blank r = true := by
  intro r hr
  cases g with
  | nil => exact absurd rfl h.1
  | cons x g =>
    obtain rfl := Option.some.inj hr
    exact blank_of_gap h.2 x List.mem_cons_self

/-- Options do not begin with a blank. -/
theorem blank_of_quoted {r : GoRune} {s : GoString} (h : quoted false (r :: s) = true) : blank r = false := by
  rw [quoted.eq_def] at h
  split at h
  · contradiction
  · rename_i heq
    cases heq
    decide
  · rename_i heq
    cases heq
    decide
  · rename_i heq
    cases heq
    simpa using (Bool.and_eq_true_iff.mp h).1

section

variable {isKeyType : GoString → Prop} {l : KeyLine}

/-- The fields of a line. -/
theorem fields_text (h : l.WellFormed isKeyType) : fields l.text = l.words := by
  have hrest : fields (l.keyType ++ (l.gap ++ (l.key ++ (l.commentGap ++ l.commentText)))) =
      l.keyType :: l.key :: fields l.commentText := by
    have hcomment : (∀ r ∈ (l.commentGap ++ l.commentText).head?, blank r = true) ∧
        fields (l.commentGap ++ l.commentText) = fields l.commentText := by
      cases hc : l.comment with
      | none => simp [KeyLine.commentGap, KeyLine.commentText, hc]
      | some c =>
        obtain ⟨hgap, -⟩ := h.comment c.1 c.2 hc
        simp only [KeyLine.commentGap, KeyLine.commentText, hc]
        exact ⟨hgap.head _, Words.words_blank_append (blank_of_gap hgap.2) _⟩
    rw [fields, Words.words_word_append h.keyType_word h.keyType_ne (h.gap.head _),
      Words.words_blank_append (blank_of_gap h.gap.2), Words.words_word_append h.key_word h.key_ne hcomment.1]
    exact congrArg (fun ws => l.keyType :: l.key :: ws) hcomment.2
  rw [KeyLine.words, ← hrest, KeyLine.text]
  cases ho : l.options with
  | none =>
    simp only [KeyLine.optionsText, ho]
    rw [List.nil_append, fields, fields, Words.words_nil, List.nil_append]
  | some o =>
    obtain ⟨-, -, -, hgap, -⟩ := h.options o.1 o.2 ho
    simp only [KeyLine.optionsText, ho, fields]
    rw [List.append_assoc, Words.words_append (hgap.head _), Words.words_blank_append (blank_of_gap hgap.2),
      Words.words_append_blank (blank_of_gap hgap.2)]

/-- A line with a key begins neither with a blank nor with `#`. -/
theorem text_head (h : l.WellFormed isKeyType) :
    ∃ r s, l.text = r :: s ∧ blank r = false ∧ r ≠ .char '#' := by
  rw [KeyLine.text]
  cases ho : l.options with
  | none =>
    simp only [KeyLine.optionsText, ho, List.nil_append]
    cases ht : l.keyType with
    | nil => exact absurd ht h.keyType_ne
    | cons r s =>
      refine ⟨r, _, rfl, h.keyType_word r (ht ▸ List.mem_cons_self), fun hr => h.keyType_head ?_⟩
      rw [ht, hr]
      rfl
  | some o =>
    obtain ⟨hquoted, hne, hhead, -⟩ := h.options o.1 o.2 ho
    simp only [KeyLine.optionsText, ho]
    cases ht : o.1 with
    | nil => exact absurd ht hne
    | cons r s =>
      rw [ht] at hquoted hhead
      refine ⟨r, _, rfl, blank_of_quoted hquoted, fun hr => hhead ?_⟩
      rw [hr]
      rfl

/-- What a line with a key is read as. -/
def KeyLine.entry (l : KeyLine) : Entry := ⟨l.words.getD 0 [], l.second, joinWords (l.words.drop 2)⟩

/-- The fields of a line are read by position. -/
theorem entryOf_words (l : KeyLine) : entryOf l.words = some l.entry := by
  rw [KeyLine.entry, KeyLine.second, KeyLine.words]
  cases fields l.optionsText with
  | nil => rfl
  | cons w ws =>
    cases ws with
    | nil => rfl
    | cons w' ws => rfl

/-- A line with a key is read as its entry, whatever blanks stand around it. -/
theorem readLine_key {lead trail : GoString} (h : (Line.key lead l trail).WellFormed isKeyType) :
    readLine (Line.key lead l trail).text = some l.entry := by
  obtain ⟨hl, hblank⟩ := h
  have hlead := blank_of_gap fun r hr => hblank r (List.mem_append_left _ hr)
  have htrail := blank_of_gap fun r hr => hblank r (List.mem_append_right _ hr)
  obtain ⟨r, s, htext, hr, hhash⟩ := text_head hl
  have hhead : (trimSpace (Line.key lead l trail).text).head? = some r := by
    rw [trimSpace_eq, Line.text, Words.trim_blank_append hlead, htext]
    exact Words.head?_trim hr _
  have hfields : fields (trimSpace (Line.key lead l trail).text) = l.words := by
    rw [← fields_text hl, trimSpace_eq, fields, Words.words_trim, Line.text, Words.words_blank_append hlead,
      Words.words_append_blank htrail]
    rfl
  refine (if_neg ?_).trans (hfields ▸ entryOf_words l)
  rintro (hnil | hh)
  · rw [hnil] at hhead
    cases hhead
  · rw [hhead] at hh
    exact hhash (Option.some.inj hh)

/-- A comment or an empty line is skipped. -/
theorem readLine_ignored {s : GoString} (h : (Line.ignored s).WellFormed isKeyType) :
    readLine (Line.ignored s).text = none := by
  have htrim : trimSpace s = Words.trim blank (s.dropWhile blank) := by
    conv => lhs; rw [← List.takeWhile_append_dropWhile (p := blank) (l := s)]
    exact Words.trim_blank_append (fun r hr => List.mem_takeWhile_imp hr) _
  refine if_pos ?_
  rw [Line.text, htrim]
  cases hs : s.dropWhile blank with
  | nil => exact .inl rfl
  | cons r t =>
    right
    obtain rfl : r = .char '#' := h.2 r (by rw [hs]; rfl)
    exact Words.head?_trim (by decide) t

end

/-! ## Reading the files -/

theorem oneLine_blank {g : GoString} (h : ∀ r ∈ g, r = .char ' ' ∨ r = .char '\t') : OneLine g := by
  constructor
  · intro hr
    rcases h _ hr with heq | heq <;> cases heq
  · intro hr
    rcases h _ hr with heq | heq <;> cases heq

theorem oneLine_append {a b : GoString} (ha : OneLine a) (hb : OneLine b) : OneLine (a ++ b) :=
  ⟨fun h => (List.mem_append.mp h).elim ha.1 hb.1, fun h => (List.mem_append.mp h).elim ha.2 hb.2⟩

/-- The text of a line has no line end in it. -/
theorem Line.WellFormed.oneLine {isKeyType : GoString → Prop} {l : Line} (h : l.WellFormed isKeyType) :
    OneLine l.text := by
  cases l with
  | ignored s => exact h.1
  | key lead l trail =>
    have hlead := oneLine_blank fun r hr => h.2 r (List.mem_append_left _ hr)
    have htrail := oneLine_blank fun r hr => h.2 r (List.mem_append_right _ hr)
    exact oneLine_append hlead (oneLine_append h.1.oneLine htrail)

/-- An empty last line is no line, and nothing would be read from it. -/
theorem filterMap_takeWhile_concat (ls : List GoString) :
    ((ls ++ [[]]).takeWhile fitsBuffer).filterMap readLine = (ls.takeWhile fitsBuffer).filterMap readLine := by
  induction ls with
  | nil => rfl
  | cons l ls ih =>
    rw [List.cons_append, List.takeWhile_cons, List.takeWhile_cons]
    split
    · rw [List.filterMap_cons, List.filterMap_cons, ih]
    · rfl

section

variable {isKeyType : GoString → Prop}

/-- What is read of any line. -/
theorem readLine_line {l : Line} (h : l.WellFormed isKeyType) :
    readLine l.text = l.key?.map KeyLine.entry := by
  cases l with
  | ignored s => exact readLine_ignored h
  | key lead l trail => exact readLine_key h

/-- A file is read line by line, up to one that is too long. -/
theorem read_file {f : KeyFile} (h : f.WellFormed isKeyType) :
    (scanLines f.text).filterMap readLine = f.scanned.map KeyLine.entry := by
  have hended : ∀ t ∈ f.ended.map Line.text, OneLine t := by
    intro t ht
    obtain ⟨l, hl, rfl⟩ := List.mem_map.mp ht
    exact (h l (List.mem_append_left _ hl)).oneLine
  have hlast := (h f.last (List.mem_append_right _ (List.mem_singleton.mpr rfl))).oneLine
  have hscan : (scanLines f.text).filterMap readLine =
      ((f.lines.map Line.text).takeWhile fitsBuffer).filterMap readLine := by
    rw [KeyFile.text, scanLines_unlines hended hlast, KeyFile.lines, List.map_append]
    split
    · rw [List.map_singleton, ‹f.last.text = []›, filterMap_takeWhile_concat]
    · rfl
  rw [hscan, KeyFile.scanned, List.takeWhile_map, List.filterMap_map, List.map_filterMap]
  exact List.filterMap_congr fun l hl => readLine_line (h l ((List.takeWhile_prefix _).subset hl))

/-- The loops over the files are one loop over their entries. -/
theorem collect_eq_foldl {sum256 : GoString → List UInt8} {root home : Option KeyFile}
    (hroot : ∀ f ∈ root, f.WellFormed isKeyType) (hhome : ∀ f ∈ home, f.WellFormed isKeyType) :
    collectSSHKeys sum256 (root.map KeyFile.text) (home.map KeyFile.text) =
      (((scanned root home).map KeyLine.entry).foldl (addEntry sum256) ⟨[], []⟩).keys := by
  have hfile : ∀ (f : Option KeyFile) (s : Inventory), (∀ g ∈ f, g.WellFormed isKeyType) →
      addFile sum256 s (f.map KeyFile.text) =
        ((f.elim [] KeyFile.scanned).map KeyLine.entry).foldl (addEntry sum256) s := by
    intro f s hf
    cases f with
    | none => rfl
    | some f =>
      show ((scanLines f.text).filterMap readLine).foldl (addEntry sum256) s = _
      rw [read_file (hf f rfl)]
      rfl
  show (addFile sum256 (addFile sum256 ⟨[], []⟩ (root.map KeyFile.text)) (home.map KeyFile.text)).keys = _
  rw [hfile root _ hroot, hfile home _ hhome, ← List.foldl_append, ← List.map_append, scanned]
  simp

/-- `seen` has the fingerprints of `keys`, the first entry for each. -/
theorem foldl_addEntry (sum256 : GoString → List UInt8) (es : List Entry) :
    let kept := firsts (fun e => sshFingerprint sum256 e.key) es
    es.foldl (addEntry sum256) ⟨[], []⟩ =
      ⟨kept.map fun e => sshFingerprint sum256 e.key, kept.map (Entry.info sum256)⟩ := by
  induction es using List.reverseRecOn with
  | nil => rfl
  | append_singleton es e ih =>
    rw [List.foldl_append, ih, firsts_concat, keepFirst]
    show addEntry sum256 _ e = _
    rw [addEntry]
    split
    · rfl
    · rw [List.map_append, List.map_append]
      rfl

end

/-! ## When the inventory is exact -/

/-- The first entry of each key agrees with the first line of the key. -/
def SameFirst (lines : List KeyLine) (es : List Entry) : Prop :=
  ∀ k, (es.find? fun e => e.key = k).map (fun e => (e.keyType, e.comment)) =
    (lines.find? fun l => l.key = k).map fun l => (l.keyType, l.commentText)

/-- Something with a key is found by the key, and is what it is looked for. -/
theorem find?_key {α : Type} {key : α → GoString} {k : GoString} {l : List α} :
    (∃ x ∈ l, key x = k) ↔ ∃ x, l.find? (fun x => key x = k) = some x ∧ x ∈ l ∧ key x = k := by
  constructor
  · rintro ⟨x, hx, rfl⟩
    obtain ⟨y, hy⟩ := Option.isSome_iff_exists.mp
      (List.find?_isSome (p := fun y => decide (key y = key x)).mpr ⟨x, hx, decide_eq_true rfl⟩)
    exact ⟨y, hy, List.mem_of_find?_eq_some hy, by simpa using List.find?_some hy⟩
  · rintro ⟨x, -, hx, hk⟩
    exact ⟨x, hx, hk⟩

/-- As long as no two fields have one fingerprint, the inventory is exact if it finds the first lines. -/
theorem exact_iff_sameFirst {sum256 : GoString → List UInt8} {lines : List KeyLine} {es : List Entry}
    (hdistinct : ∀ d ∈ es, ∀ e ∈ es, sshFingerprint sum256 d.key = sshFingerprint sum256 e.key → d.key = e.key) :
    Exact sum256 lines
        ((firsts (fun e => sshFingerprint sum256 e.key) es).map (Entry.info sum256)) ↔
      SameFirst lines es := by
  have hnodup : ((firsts (fun e => sshFingerprint sum256 e.key) es).map _).Nodup := nodup_firsts es
  have hfind : ∀ k, (firsts (fun e => sshFingerprint sum256 e.key) es).find? (fun e => e.key = k) =
      es.find? fun e => e.key = k :=
    fun k => find?_firsts fun d hd e he heq => by rw [hdistinct d hd e he heq]
  -- From here on only two facts about the kept entries matter: they are distinct, and lookups by key are those
  -- of all entries.
  revert hnodup hfind
  generalize firsts (fun e => sshFingerprint sum256 e.key) es = kept
  intro hnodup hfind
  have hkeys : ∀ k, k ∈ (kept.map (Entry.info sum256)).map SSHKeyInfo.publicKey ↔ ∃ e ∈ kept, e.key = k := by
    intro k
    rw [List.map_map, List.mem_map]
    rfl
  constructor
  · intro hexact k
    rw [← hfind]
    by_cases hk : ∃ e ∈ kept, e.key = k
    · obtain ⟨e, he, hmem, rfl⟩ := find?_key.mp hk
      obtain ⟨l, hl, htype, hcomment, -⟩ := hexact.first _ (List.mem_map.mpr ⟨e, hmem, rfl⟩)
      replace hl : lines.find? (fun l => l.key = e.key) = some l := hl
      rw [he, hl]
      exact congrArg some (Prod.ext htype hcomment)
    · have hline : ¬ ∃ l ∈ lines, l.key = k := fun h => hk ((hkeys k).mp ((hexact.keys k).mpr h))
      rw [List.find?_eq_none.mpr fun e he heq => hk ⟨e, he, by simpa using heq⟩,
        List.find?_eq_none.mpr fun l hl heq => hline ⟨l, hl, by simpa using heq⟩]
      rfl
  · intro hsame
    refine ⟨?_, fun k => ?_, fun e he => ?_⟩
    · rw [List.map_map]
      have hmap : (kept.map Entry.key).map (sshFingerprint sum256) =
          kept.map fun e => sshFingerprint sum256 e.key := List.map_map ..
      exact List.Nodup.of_map _ (hmap ▸ hnodup)
    · have hsome := congrArg Option.isSome (hsame k)
      rw [← hfind, Option.isSome_map, Option.isSome_map, Bool.eq_iff_iff, List.find?_isSome,
        List.find?_isSome] at hsome
      rw [hkeys k]
      simpa using hsome
    · obtain ⟨x, hx, rfl⟩ := List.mem_map.mp he
      obtain ⟨y, hy, hymem, hyx⟩ := find?_key.mp ⟨x, hx, rfl⟩
      obtain rfl : y = x := List.inj_on_of_nodup_map hnodup hymem hx (congrArg (sshFingerprint sum256) hyx)
      have hline := hsame y.key
      rw [← hfind, hy] at hline
      obtain ⟨l, hl, heq⟩ := Option.map_eq_some_iff.mp hline.symm
      obtain ⟨htype, hcomment⟩ := Prod.mk.inj heq
      have hkey : l.key = y.key := by simpa using List.find?_some hl
      exact ⟨l, hl, htype.symm, hcomment.symm, congrArg (sshFingerprint sum256) hkey.symm⟩

section

variable {isKeyType : GoString → Prop} {lines scanned : List KeyLine}

/-- Without options, type and key are what they should be. -/
theorem entry_plain {l : KeyLine} (h : l.options = none) :
    l.entry = ⟨l.keyType, l.key, joinWords (fields l.commentText)⟩ ∧ l.second = l.key := by
  have hwords : l.words = l.keyType :: l.key :: fields l.commentText := by
    rw [KeyLine.words, KeyLine.optionsText, h]
    exact congrArg (· ++ _) Words.words_nil
  rw [KeyLine.entry, KeyLine.second, hwords]
  exact ⟨rfl, rfl⟩

/-- Behind options no key type is read. -/
theorem not_keyType_of_options {l : KeyLine} (h : l.WellFormed isKeyType) (ho : l.options ≠ none) :
    ¬ isKeyType l.entry.keyType := by
  obtain ⟨o, ho⟩ := Option.ne_none_iff_exists'.mp ho
  obtain ⟨hquoted, hne, -, hgap, hhead⟩ := h.options o.1 o.2 ho
  have hwords : l.words = fields o.1 ++ l.keyType :: l.key :: fields l.commentText := by
    rw [KeyLine.words, KeyLine.optionsText, ho]
    exact congrArg (· ++ _) (Words.words_append_blank (blank_of_gap hgap.2) _)
  have hfields : fields o.1 ≠ [] := by
    cases ht : o.1 with
    | nil => exact absurd ht hne
    | cons r s => exact Words.words_ne_nil (blank_of_quoted (ht ▸ hquoted)) s
  obtain ⟨w, ws, hw⟩ := List.exists_cons_of_ne_nil hfields
  rw [KeyLine.entry, hwords, hw]
  exact hhead w (by rw [hw]; rfl)

/-- A line is looked up by the second field of the entries. -/
theorem find?_entry (k : GoString) :
    ((scanned.map KeyLine.entry).find? fun e => e.key = k) =
      (scanned.find? fun l => l.second = k).map KeyLine.entry := List.find?_map ..

/-- The first line of a second field, if it has no options, is the first line without options that has
    the key. -/
theorem find?_plain {k : GoString} {m : KeyLine} (hm : scanned.find? (fun l => l.second = k) = some m)
    (hplain : m.options = none) :
    scanned.find? (fun m => decide (m.options = none) && decide (m.key = k)) = some m := by
  obtain ⟨hmk, as, bs, hsplit, has⟩ := List.find?_eq_some_iff_append.mp hm
  refine List.find?_eq_some_iff_append.mpr ⟨?_, as, bs, hsplit, fun a ha => ?_⟩
  · rw [(entry_plain hplain).2] at hmk
    rw [hmk, decide_eq_true hplain]
    rfl
  · have hak := has a ha
    by_cases hao : a.options = none
    · rw [(entry_plain hao).2] at hak
      simpa [hao] using hak
    · simp [hao]

/-- A line that is found by its second field has no options, if the inventory has the type of a line. -/
theorem plain_of_sameFirst (hwf : ∀ l ∈ lines, l.WellFormed isKeyType) (hsub : scanned ⊆ lines)
    (hsame : SameFirst lines (scanned.map KeyLine.entry)) {k : GoString} {m : KeyLine}
    (hm : scanned.find? (fun l => l.second = k) = some m) : m.options = none := by
  by_contra ho
  have hk := hsame k
  rw [find?_entry, hm] at hk
  obtain ⟨l, hl, heq⟩ := Option.map_eq_some_iff.mp hk.symm
  have htype : l.keyType = m.entry.keyType := congrArg Prod.fst heq
  refine not_keyType_of_options (hwf m (hsub (List.mem_of_find?_eq_some hm))) ho ?_
  rw [← htype]
  exact (hwf l (List.mem_of_find?_eq_some hl)).keyType

/-- The first direction: what the entries are, says where the lines stand. -/
theorem byPosition_of_sameFirst (hwf : ∀ l ∈ lines, l.WellFormed isKeyType) (hsub : scanned ⊆ lines)
    (hsame : SameFirst lines (scanned.map KeyLine.entry)) : ByPosition lines scanned := by
  refine ⟨fun pre l post hscanned ho => ?_, fun k l hl => ?_⟩
  · obtain ⟨m, hm, hmem, hkey⟩ := find?_key.mp ⟨l, hscanned ▸ List.mem_append_right _ List.mem_cons_self, rfl⟩
    have hm' := plain_of_sameFirst hwf hsub hsame hm
    refine ⟨m, ?_, hm', (entry_plain hm').2.symm.trans hkey⟩
    rw [hscanned, List.find?_append] at hm
    rcases Option.or_eq_some_iff.mp hm with hpre | ⟨-, hpost⟩
    · exact List.mem_of_find?_eq_some hpre
    · rw [List.find?_cons_of_pos (by simp)] at hpost
      exact absurd (Option.some.inj hpost ▸ hm') ho
  · have hk := hsame k
    rw [hl, find?_entry] at hk
    obtain ⟨e, he, heq⟩ := Option.map_eq_some_iff.mp hk
    obtain ⟨m, hm, rfl⟩ := Option.map_eq_some_iff.mp he
    have hm' := plain_of_sameFirst hwf hsub hsame hm
    rw [(entry_plain hm').1] at heq
    obtain ⟨htype, hcomment⟩ := Prod.mk.inj heq
    exact ⟨m, find?_plain hm hm', htype, hcomment⟩

/-- Both ways of looking for a key find the same line. -/
theorem ByPosition.find?_second (hpos : ByPosition lines scanned) (k : GoString) :
    scanned.find? (fun l => l.second = k) =
      scanned.find? fun m => decide (m.options = none) && decide (m.key = k) := by
  cases hm : scanned.find? (fun l => l.second = k) with
  | some m =>
    obtain ⟨hmk, as, bs, hsplit, has⟩ := List.find?_eq_some_iff_append.mp hm
    refine (find?_plain hm ?_).symm
    by_contra ho
    obtain ⟨a, ha, hao, hkey⟩ := hpos.options as m bs hsplit ho
    have hak := has a ha
    rw [(entry_plain hao).2, hkey, hmk] at hak
    cases hak
  | none =>
    refine (List.find?_eq_none.mpr fun a ha hak => ?_).symm
    simp only [Bool.and_eq_true, decide_eq_true_eq] at hak
    refine List.find?_eq_none.mp hm a ha (decide_eq_true ?_)
    rw [(entry_plain hak.1).2, hak.2]

/-- The second: for each key, the first scanned line without options is the one that counts. -/
theorem sameFirst_of_byPosition (hsub : scanned ⊆ lines) (hpos : ByPosition lines scanned) :
    SameFirst lines (scanned.map KeyLine.entry) := by
  intro k
  rw [find?_entry, hpos.find?_second]
  cases hl : lines.find? (fun l => l.key = k) with
  | some l =>
    obtain ⟨m, hm, htype, hcomment⟩ := hpos.first k l hl
    have hplain : m.options = none := by
      have hfound := List.find?_some hm
      simp only [Bool.and_eq_true, decide_eq_true_eq] at hfound
      exact hfound.1
    rw [hm]
    show some (m.entry.keyType, m.entry.comment) = some (l.keyType, l.commentText)
    rw [(entry_plain hplain).1, htype, hcomment]
  | none =>
    rw [List.find?_eq_none.mpr fun m hm hmk => ?_]
    · rfl
    · simp only [Bool.and_eq_true, decide_eq_true_eq] at hmk
      exact absurd (decide_eq_true hmk.2) (List.find?_eq_none.mp hl m (hsub hm))

/-- **Reading by position** finds the first lines. -/
theorem sameFirst_iff_byPosition (hwf : ∀ l ∈ lines, l.WellFormed isKeyType) (hsub : scanned ⊆ lines) :
    SameFirst lines (scanned.map KeyLine.entry) ↔ ByPosition lines scanned :=
  ⟨byPosition_of_sameFirst hwf hsub, sameFirst_of_byPosition hsub⟩

end

/-- The lines with a key of a well-formed file are well-formed. -/
theorem mem_keyLines {isKeyType : GoString → Prop} {f : KeyFile} (h : f.WellFormed isKeyType) :
    ∀ l ∈ f.keyLines, l.WellFormed isKeyType := by
  intro l hl
  obtain ⟨line, hline, hkey⟩ := List.mem_filterMap.mp hl
  cases line with
  | ignored s => cases hkey
  | key lead m trail =>
    obtain rfl := Option.some.inj hkey
    exact (h _ hline).1

/-- Nothing is scanned but the lines. -/
theorem scanned_subset (root home : Option KeyFile) : scanned root home ⊆ keyLines root home := by
  intro l hl
  obtain ⟨f, hf, hlf⟩ := List.mem_flatMap.mp hl
  refine List.mem_flatMap.mpr ⟨f, hf, ?_⟩
  cases f with
  | none => exact hlf
  | some f => exact ((List.takeWhile_prefix _).sublist.filterMap _).subset hlf

/-- **The inventory is exact**, for every pair of files and whatever the words for key types are, exactly if
    the lines can be read by position.  No two fields that are taken for keys have the same fingerprint.

    The collector takes the first two words of a line, options or not.  `ByPosition` says that the lines with
    options name keys that are listed without, and that the first such line has the type and the comment of the key.
    -/
theorem inventory_exact_iff (sum256 : GoString → List UInt8) (isKeyType : GoString → Prop)
    (root home : Option KeyFile) (hroot : ∀ f ∈ root, f.WellFormed isKeyType)
    (hhome : ∀ f ∈ home, f.WellFormed isKeyType)
    (hdistinct : ∀ l ∈ scanned root home, ∀ m ∈ scanned root home,
      sshFingerprint sum256 l.second = sshFingerprint sum256 m.second → l.second = m.second) :
    Exact sum256 (keyLines root home) (collectSSHKeys sum256 (root.map KeyFile.text) (home.map KeyFile.text)) ↔
      ByPosition (keyLines root home) (scanned root home) := by
  have hwf : ∀ l ∈ keyLines root home, l.WellFormed isKeyType := by
    intro l hl
    obtain ⟨f, hf, hlf⟩ := List.mem_flatMap.mp hl
    cases f with
    | none => cases hlf
    | some f =>
      rcases List.mem_cons.mp hf with hf | hf
      · exact mem_keyLines (hroot f hf.symm) l hlf
      · exact mem_keyLines (hhome f (List.mem_singleton.mp hf).symm) l hlf
  rw [collect_eq_foldl hroot hhome, foldl_addEntry, exact_iff_sameFirst,
    sameFirst_iff_byPosition hwf (scanned_subset root home)]
  intro d hd e he
  obtain ⟨l, hl, rfl⟩ := List.mem_map.mp hd
  obtain ⟨m, hm, rfl⟩ := List.mem_map.mp he
  exact hdistinct l hl m hm

/-- Lines that are all scanned, without options and without two blanks in a comment, can be read by position. -/
theorem byPosition_of_plain {lines : List KeyLine} (hplain : ∀ l ∈ lines, l.options = none)
    (hcomment : ∀ l ∈ lines, joinWords (fields l.commentText) = l.commentText) : ByPosition lines lines := by
  refine ⟨fun pre l post hlines ho => ?_, fun k l hl => ?_⟩
  · exact absurd (hplain l (hlines ▸ List.mem_append_right _ List.mem_cons_self)) ho
  · obtain ⟨hkey, before, after, hlines, hbefore⟩ := List.find?_eq_some_iff_append.mp hl
    have hmem : l ∈ lines := List.mem_of_find?_eq_some hl
    refine ⟨l, List.find?_eq_some_iff_append.mpr ⟨?_, before, after, hlines, fun m hm => ?_⟩, rfl, hcomment l hmem⟩
    · rw [decide_eq_true (hplain l hmem), Bool.true_and]
      exact hkey
    · have hother := hbefore m hm
      rw [Bool.not_and, hother, Bool.or_true]

/-- A key of alice, without options. -/
def aliceLine : KeyLine :=
  ⟨none, .ofString "ssh-ed25519", .ofString " ", .ofString "AAAAC3NzaC1lZDI1NTE5",
    some (.ofString " ", .ofString "alice")⟩

/-- A comment, her key, and a line end. -/
def aliceFile : KeyFile := ⟨[.ignored (.ofString "# keys"), .key [] aliceLine []], .ignored []⟩

/-- Her key again, with another comment. -/
def laptopLine : KeyLine := { aliceLine with comment := some (.ofString "  ", .ofString "alice on a laptop") }

/-- A key of bob, without a comment. -/
def bobLine : KeyLine :=
  ⟨none, .ofString "ssh-rsa", .ofString "\t", .ofString "AAAAB3NzaC1yc2EAAAAD", none⟩

/-- The second file, which does not end with a line end. -/
def homeFile : KeyFile := ⟨[.key [] laptopLine []], .key (.ofString "  ") bobLine []⟩

/-- The SHA-256 digests of the two keys. -/
def aliceDigest : List UInt8 :=
  [0xA8, 0xC4, 0x90, 0xB5, 0x78, 0x3F, 0x19, 0x59, 0x4C, 0x65, 0x6A, 0xB4, 0x1A, 0xCD, 0xF4, 0xEF, 0x0C,
    0xC6, 0x2F, 0x9B, 0xD5, 0xE4, 0x0B, 0xA9, 0x4C, 0xB4, 0x96, 0xFA, 0xFA, 0xE1, 0x61, 0x75]

/-- `sha256.Sum256` of bob's key. -/
def bobDigest : List UInt8 :=
  [0xC9, 0xD8, 0xC1, 0xD6, 0xCB, 0x43, 0x27, 0x80, 0x39, 0x96, 0xD6, 0x9E, 0x38, 0x53, 0x56, 0x68, 0x55,
    0x6E, 0x1E, 0x2E, 0xB9, 0x66, 0xA6, 0xDA, 0x3D, 0x80, 0x81, 0x1E, 0x66, 0x60, 0x4B, 0x1E]

/-- `sha256.Sum256`, for the two keys. -/
def digests (key : GoString) : List UInt8 := if key = bobLine.key then bobDigest else aliceDigest

/-- The key types of the two lines. -/
def IsSampleType (s : GoString) : Prop := s = .ofString "ssh-ed25519" ∨ s = .ofString "ssh-rsa"

theorem aliceFile_wellFormed : aliceFile.WellFormed IsSampleType := by
  have hline : aliceLine.WellFormed IsSampleType := by
    refine ⟨by decide, nofun, .inl rfl, by decide, by decide, by decide, ⟨by decide, by decide⟩,
      by decide, by decide, fun gap comment h => ?_⟩
    cases h
    exact ⟨⟨by decide, by decide⟩, by decide, by decide, by decide⟩
  intro l hl
  rcases List.mem_cons.mp hl with rfl | hl
  · exact ⟨by decide, by decide⟩
  · rcases List.mem_cons.mp hl with rfl | hl
    · exact ⟨hline, by decide⟩
    · rw [List.mem_singleton.mp hl]
      exact ⟨by decide, by decide⟩

theorem homeFile_wellFormed : homeFile.WellFormed IsSampleType := by
  have hlaptop : laptopLine.WellFormed IsSampleType := by
    refine ⟨by decide, nofun, .inl rfl, by decide, by decide, by decide, ⟨by decide, by decide⟩,
      by decide, by decide, fun gap comment h => ?_⟩
    cases h
    exact ⟨⟨by decide, by decide⟩, by decide, by decide, by decide⟩
  have hbob : bobLine.WellFormed IsSampleType :=
    ⟨by decide, nofun, .inr rfl, by decide, by decide, by decide, ⟨by decide, by decide⟩, by decide, by decide,
      nofun⟩
  intro l hl
  rcases List.mem_cons.mp hl with rfl | hl
  · exact ⟨hlaptop, by decide⟩
  · rw [List.mem_singleton.mp hl]
    exact ⟨hbob, by decide⟩

/-- Two files that share a key, and a key in one of them. -/
theorem inventory_exact_iff_alice :
    Exact digests [aliceLine, laptopLine, bobLine]
      (collectSSHKeys digests
        (some (.ofString "# keys\nssh-ed25519 AAAAC3NzaC1lZDI1NTE5 alice\n"))
        (some (.ofString
          "ssh-ed25519 AAAAC3NzaC1lZDI1NTE5  alice on a laptop\n  ssh-rsa\tAAAAB3NzaC1yc2EAAAAD"))) :=
  (inventory_exact_iff digests IsSampleType (some aliceFile) (some homeFile)
    (fun _ hf => Option.some.inj hf ▸ aliceFile_wellFormed)
    (fun _ hf => Option.some.inj hf ▸ homeFile_wellFormed)
    (show ∀ l ∈ [aliceLine, laptopLine, bobLine], ∀ m ∈ [aliceLine, laptopLine, bobLine],
        sshFingerprint digests l.second = sshFingerprint digests m.second → l.second = m.second by
      decide +kernel)).mpr
    (show ByPosition [aliceLine, laptopLine, bobLine] [aliceLine, laptopLine, bobLine] from
      byPosition_of_plain (by decide) (by decide))

/-- A key that may only run one command. -/
def backupLine : KeyLine :=
  ⟨some (.ofString "command=\"/bin/backup --all\"", .ofString " "), .ofString "ssh-ed25519", .ofString " ",
    .ofString "AAAAC3NzaC1lZDI1NTE5", some (.ofString " ", .ofString "backup")⟩

/-- A file with that key. -/
def backupFile : KeyFile := ⟨[.key [] backupLine []], .ignored []⟩

theorem backupFile_wellFormed : backupFile.WellFormed (· = .ofString "ssh-ed25519") := by
  have hline : backupLine.WellFormed (· = .ofString "ssh-ed25519") := by
    refine ⟨by decide, fun options gap h => ?_, rfl, by decide, by decide, by decide, ⟨by decide, by decide⟩,
      by decide, by decide, fun gap comment h => ?_⟩
    · cases h
      exact ⟨by decide, by decide, by decide, ⟨by decide, by decide⟩, by decide⟩
    · cases h
      exact ⟨⟨by decide, by decide⟩, by decide, by decide, by decide⟩
  intro l hl
  rcases List.mem_cons.mp hl with rfl | hl
  · exact ⟨hline, by decide⟩
  · rw [List.mem_singleton.mp hl]
    exact ⟨by decide, by decide⟩

/-- The SHA-256 digest of what is taken for the key. -/
def wordDigest : List UInt8 :=
  [0x9B, 0x6D, 0xA8, 0x62, 0xE3, 0x8D, 0x5A, 0x3E, 0xD4, 0xBE, 0xEB, 0xC3, 0x5F, 0xA9, 0x54, 0x0F, 0x27,
    0x2F, 0x4D, 0x05, 0x15, 0x9E, 0x83, 0x61, 0xEB, 0x3F, 0x08, 0x0A, 0x96, 0x61, 0x85, 0x16]

/-- The inventory has words of the command for type and key, and lacks the key. -/
theorem options_read_as_key :
    let keys := collectSSHKeys (fun _ => wordDigest) (some backupFile.text) none
    keys.map SSHKeyInfo.type = [.ofString "command=\"/bin/backup"] ∧
      keys.map SSHKeyInfo.publicKey = [.ofString "--all\""] ∧
      keys.map SSHKeyInfo.comment = [.ofString "ssh-ed25519 AAAAC3NzaC1lZDI1NTE5 backup"] ∧
      ¬ Exact (fun _ => wordDigest) [backupLine] keys := by
  have hcollect : collectSSHKeys (fun _ => wordDigest) (some backupFile.text) none =
      [backupLine.entry.info fun _ => wordDigest] :=
    (@collect_eq_foldl _ _ (some backupFile) none
      (fun f hf => Option.some.inj hf ▸ backupFile_wellFormed) (fun _ hf => nomatch hf)).trans rfl
  dsimp only
  rw [hcollect]
  refine ⟨by decide, by decide, by decide, fun hexact => ?_⟩
  have hkey := (hexact.keys backupLine.key).mpr ⟨backupLine, List.mem_cons_self, rfl⟩
  revert hkey
  decide

end AuthorizedKeys

end Agent

end Dtsys
