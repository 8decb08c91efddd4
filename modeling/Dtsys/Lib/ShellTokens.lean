/-
  TOKENS of the shell command language (POSIX.1, sections 2.2 Quoting and 2.3 Token Recognition).

  The shell reads a text character by character and keeps a `Mode`: outside quotes, after a backslash,
  within single or double quotes, in a comment, in an operator.  `step` is one character, `scan` a text.  A
  word is kept with what quoted its characters, since a quoted character is never special; what a word
  stands for is `Word.literal`, once the quotes are removed.

  Not every text is only words and operators.  `scan` and `literal` return nothing where the text alone does
  not say what is read: at a parameter or command substitution, a here-document, a pattern that may match
  names of files, a tilde, a quote that is not closed.

  * `step_cases` — what a character does: all that is said of a text below is said of these cases;
  * `charge` — the least number of characters that a token takes, its delimiter included: a text is never
    shorter than its tokens (`charge_scan`), and quoting is paid for;
  * `PlainWord` — a text that is one word and stands for itself (`PlainWord.feed`).
-/
import Mathlib.Data.List.Basic
import Mathlib.Algebra.BigOperators.Group.List.Basic
import Mathlib.Algebra.GroupWithZero.Nat

namespace Dtsys.Shell

/-! ## Words and operators -/

/-- A part of a word: a quoting character, a character that is quoted, one that is not. -/
inductive Piece where
  | quote
  | quoted (c : Char)
  | bare (c : Char)
  deriving DecidableEq, Repr

/-- A word, by its pieces. -/
abbrev Word := List Piece

/-- The operators, but `<<` and `<<-`: a here-document is not made of tokens. -/
inductive Op where
  | semi
  | dsemi
  | amp
  | andIf
  | pipe
  | orIf
  | lparen
  | rparen
  | less
  | great
  | dgreat
  | lessAnd
  | greatAnd
  | lessGreat
  | clobber
  deriving DecidableEq, Repr

namespace Op

/-- How many characters the operator has. -/
def length : Op → Nat
  | .semi | .amp | .pipe | .lparen | .rparen | .less | .great => 1
  | .dsemi | .andIf | .orIf | .dgreat | .lessAnd | .greatAnd | .lessGreat | .clobber => 2

/-- The operator that begins with a character. -/
def ofChar (c : Char) : Option Op :=
  if c = ';' then some .semi
  else if c = '&' then some .amp
  else if c = '|' then some .pipe
  else if c = '(' then some .lparen
  else if c = ')' then some .rparen
  else if c = '<' then some .less
  else if c = '>' then some .great
  else none

/-- The operator with one more character. -/
def extend (o : Op) (c : Char) : Option Op :=
  match o with
  | .semi => if c = ';' then some .dsemi else none
  | .amp => if c = '&' then some .andIf else none
  | .pipe => if c = '|' then some .orIf else none
  | .less => if c = '&' then some .lessAnd else if c = '>' then some .lessGreat else none
  | .great =>
    if c = '>' then some .dgreat else if c = '&' then some .greatAnd
    else if c = '|' then some .clobber else none
  | _ => none

/-- The operators of redirections. -/
def isRedirect : Op → Bool
  | .less | .great | .dgreat | .lessAnd | .greatAnd | .lessGreat | .clobber => true
  | _ => false

end Op

/-- The tokens of the shell. -/
inductive Token where
  | word (w : Word)
  | number (w : Word)
  | op (o : Op)
  | newline
  deriving DecidableEq, Repr

/-! ## Token recognition -/

/-- What has been read of the next token: a word, `[]` between two tokens, or an operator. -/
inductive Mode where
  | plain (w : Word)
  | escape (w : Word)
  | single (w : Word)
  | double (w : Word)
  | doubleEscape (w : Word)
  | comment
  | op (o : Op)
  | opEscape (o : Op)
  deriving DecidableEq, Repr

/-- The word that has been read, if there is one. -/
def pending (w : Word) : List Token := if w = [] then [] else [.word w]

/-- A digit that is not quoted. -/
def Piece.isDigit : Piece → Bool
  | .bare c => c.isDigit
  | _ => false

/-- The word in front of an operator: digits in front of a redirection are a number. -/
def before (o : Op) (w : Word) : List Token :=
  if w ≠ [] ∧ w.all Piece.isDigit ∧ (o = .less ∨ o = .great) then [.number w] else pending w

/-- A character outside quotes. -/
def stepPlain (w : Word) (c : Char) : Option (List Token × Mode) :=
  if c = ' ' ∨ c = '\t' then some (pending w, .plain [])
  else if c = '\n' then some (pending w ++ [.newline], .plain [])
  else if c = '\'' then some ([], .single (w ++ [.quote]))
  else if c = '"' then some ([], .double (w ++ [.quote]))
  else if c = '\\' then some ([], .escape w)
  else if c = '$' ∨ c = '`' then none
  else if c = '#' ∧ w = [] then some ([], .comment)
  else match Op.ofChar c with
    | some o => some (before o w, .op o)
    | none => some ([], .plain (w ++ [.bare c]))

/-- What a backslash quotes within double quotes. -/
def quotedInDouble (c : Char) : Bool := c = '$' || c = '`' || c = '"' || c = '\\'

/-- One character.  A text of the shell has no NUL. -/
def step (m : Mode) (c : Char) : Option (List Token × Mode) :=
  if c = '\x00' then none
  else match m with
    | .plain w => stepPlain w c
    | .escape w =>
      if c = '\n' then some ([], .plain w) else some ([], .plain (w ++ [.quote, .quoted c]))
    | .single w => some ([], if c = '\'' then .plain w else .single (w ++ [.quoted c]))
    | .double w =>
      if c = '"' then some ([], .plain w)
      else if c = '\\' then some ([], .doubleEscape w)
      else if c = '$' ∨ c = '`' then none
      else some ([], .double (w ++ [.quoted c]))
    | .doubleEscape w =>
      if c = '\n' then some ([], .double w)
      else if quotedInDouble c then some ([], .double (w ++ [.quoted c]))
      else some ([], .double (w ++ [.quoted '\\', .quoted c]))
    | .comment => if c = '\n' then some ([.newline], .plain []) else some ([], .comment)
    | .op o =>
      if o = .less ∧ c = '<' then none
      else match o.extend c with
        | some o' => some ([], .op o')
        | none =>
          if c = '\\' then some ([], .opEscape o)
          else (stepPlain [] c).map fun r => (.op o :: r.1, r.2)
    | .opEscape o =>
      if c = '\n' then some ([], .op o) else some ([.op o], .plain [.quote, .quoted c])

/-- The end of the text. -/
def finish : Mode → Option (List Token)
  | .plain w => some (pending w)
  | .comment => some []
  | .op o => some [.op o]
  | _ => none

/-- The automaton, over a text. -/
def feed : Mode → List Char → Option (List Token × Mode)
  | m, [] => some ([], m)
  | m, c :: cs => (step m c).bind fun r => (feed r.2 cs).map fun q => (r.1 ++ q.1, q.2)

/-- The tokens of a text, from a mode on. -/
def scan (m : Mode) (cs : List Char) : Option (List Token) :=
  (feed m cs).bind fun r => (finish r.2).map fun ts => r.1 ++ ts

/-- The tokens of a text. -/
def tokens (s : String) : Option (List Token) := scan (.plain []) s.toList

/-! ## What a word stands for -/

/-- The character that is left of a piece. -/
def Piece.value : Piece → Option Char
  | .quote => none
  | .quoted c | .bare c => some c

/-- The characters of a word once the quotes are removed. -/
def Word.chars (w : Word) : List Char := w.filterMap Piece.value

/-- A bracket expression is closed, in front of any slash. -/
def closes : Word → Bool
  | [] => false
  | p :: w => p == .bare ']' || (p.value != some '/' && closes w)

/-- A bracket expression has a first member, which may be a `]`. -/
def member : Word → Bool
  | [] => false
  | p :: w => p.value != some '/' && closes w

/-- The word has a bracket expression that is not quoted. -/
def brackets : Word → Bool
  | [] => false
  | p :: w =>
    (p == .bare '[' && member (if w.head? = some (.bare '!') then w.tail else w)) || brackets w

/-- Pathname expansion may put names of files in the place of the word (2.13 Pattern Matching). -/
def Word.isPattern (w : Word) : Bool :=
  let v := w.filter fun p => p != .quote
  v.any (fun p => p == .bare '*' || p == .bare '?') || brackets v

/-- The text a word stands for, where nothing but the word says so. -/
def Word.literal (w : Word) : Option String :=
  if w.isPattern ∨ w.head? = some (.bare '~') then none else some (String.ofList w.chars)

/-! ## Reading in parts -/

/-- One character, and then the others. -/
theorem feed_cons_eq_some {m m' : Mode} {c : Char} {cs : List Char} {ts : List Token} :
    feed m (c :: cs) = some (ts, m') ↔
      ∃ ts₁ m₁ ts₂, step m c = some (ts₁, m₁) ∧ feed m₁ cs = some (ts₂, m') ∧ ts = ts₁ ++ ts₂ := by
  rw [feed, Option.bind_eq_some_iff]
  constructor
  · rintro ⟨⟨ts₁, m₁⟩, hstep, hrest⟩
    obtain ⟨⟨ts₂, m₂⟩, hfeed, heq⟩ := Option.map_eq_some_iff.mp hrest
    cases heq
    exact ⟨ts₁, m₁, ts₂, hstep, hfeed, rfl⟩
  · rintro ⟨ts₁, m₁, ts₂, hstep, hfeed, rfl⟩
    exact ⟨(ts₁, m₁), hstep, Option.map_eq_some_iff.mpr ⟨(ts₂, m'), hfeed, rfl⟩⟩

/-- The tokens of a text, and the one that its end ends. -/
theorem scan_eq_some {m : Mode} {cs : List Char} {ts : List Token} :
    scan m cs = some ts ↔
      ∃ ts₁ m₁ ts₂, feed m cs = some (ts₁, m₁) ∧ finish m₁ = some ts₂ ∧ ts = ts₁ ++ ts₂ := by
  rw [scan, Option.bind_eq_some_iff]
  constructor
  · rintro ⟨⟨ts₁, m₁⟩, hfeed, hrest⟩
    obtain ⟨ts₂, hfinish, rfl⟩ := Option.map_eq_some_iff.mp hrest
    exact ⟨ts₁, m₁, ts₂, hfeed, hfinish, rfl⟩
  · rintro ⟨ts₁, m₁, ts₂, hfeed, hfinish, rfl⟩
    exact ⟨(ts₁, m₁), hfeed, Option.map_eq_some_iff.mpr ⟨ts₂, hfinish, rfl⟩⟩

theorem feed_append (cs : List Char) : ∀ {m m₁ m₂ : Mode} {ds : List Char} {ts₁ ts₂ : List Token},
    feed m cs = some (ts₁, m₁) → feed m₁ ds = some (ts₂, m₂) →
      feed m (cs ++ ds) = some (ts₁ ++ ts₂, m₂) := by
  induction cs with
  | nil =>
    intro m m₁ m₂ ds ts₁ ts₂ h₁ h₂
    cases h₁
    exact h₂
  | cons c cs ih =>
    intro m m₁ m₂ ds ts₁ ts₂ h₁ h₂
    obtain ⟨ts₃, m₃, ts₄, hstep, hfeed, rfl⟩ := feed_cons_eq_some.mp h₁
    rw [List.append_assoc]
    exact feed_cons_eq_some.mpr ⟨ts₃, m₃, ts₄ ++ ts₂, hstep, ih hfeed h₂, rfl⟩

/-- One character, and the tokens behind it. -/
theorem scan_cons_eq_some {m : Mode} {c : Char} {cs : List Char} {ts : List Token} :
    scan m (c :: cs) = some ts ↔
      ∃ ts₁ m₁ ts₂, step m c = some (ts₁, m₁) ∧ scan m₁ cs = some ts₂ ∧ ts = ts₁ ++ ts₂ := by
  rw [scan_eq_some]
  constructor
  · rintro ⟨ts₁, m₂, ts₂, hfeed, hfinish, rfl⟩
    obtain ⟨ts₃, m₁, ts₄, hstep, hrest, rfl⟩ := feed_cons_eq_some.mp hfeed
    exact ⟨ts₃, m₁, ts₄ ++ ts₂, hstep, scan_eq_some.mpr ⟨ts₄, m₂, ts₂, hrest, hfinish, rfl⟩,
      List.append_assoc _ _ _⟩
  · rintro ⟨ts₁, m₁, ts₂, hstep, hscan, rfl⟩
    obtain ⟨ts₃, m₂, ts₄, hfeed, hfinish, rfl⟩ := scan_eq_some.mp hscan
    exact ⟨ts₁ ++ ts₃, m₂, ts₄, feed_cons_eq_some.mpr ⟨_, _, _, hstep, hfeed, rfl⟩, hfinish,
      (List.append_assoc _ _ _).symm⟩

/-- A text that is read has a first part that is read, and a second one read from there. -/
theorem scan_append_eq_some (cs : List Char) : ∀ {m : Mode} {ds : List Char} {ts : List Token},
    scan m (cs ++ ds) = some ts ↔
      ∃ ts₁ m' ts₂, feed m cs = some (ts₁, m') ∧ scan m' ds = some ts₂ ∧ ts = ts₁ ++ ts₂ := by
  induction cs with
  | nil =>
    intro m ds ts
    constructor
    · intro h
      exact ⟨[], m, ts, rfl, h, rfl⟩
    · rintro ⟨ts₁, m', ts₂, hfeed, hscan, rfl⟩
      cases hfeed
      exact hscan
  | cons c cs ih =>
    intro m ds ts
    rw [List.cons_append, scan_cons_eq_some]
    constructor
    · rintro ⟨ts₁, m₁, ts₂, hstep, hscan, rfl⟩
      obtain ⟨ts₃, m', ts₄, hfeed, hrest, rfl⟩ := ih.mp hscan
      exact ⟨ts₁ ++ ts₃, m', ts₄, feed_cons_eq_some.mpr ⟨_, _, _, hstep, hfeed, rfl⟩, hrest,
        (List.append_assoc _ _ _).symm⟩
    · rintro ⟨ts₁, m', ts₂, hfeed, hscan, rfl⟩
      obtain ⟨ts₃, m₁, ts₄, hstep, hrest, rfl⟩ := feed_cons_eq_some.mp hfeed
      exact ⟨ts₃, m₁, ts₄ ++ ts₂, hstep, ih.mpr ⟨ts₄, m', ts₂, hrest, hscan, rfl⟩,
        List.append_assoc _ _ _⟩

/-! ## What a character does -/

/-- The characters that mean something outside quotes, wherever they stand in a word. -/
def specialChars : List Char :=
  ['\x00', ' ', '\t', '\n', '\'', '"', '\\', '$', '`', ';', '&', '|', '(', ')', '<', '>']

/-- A character without a meaning, but perhaps as the first of a word, or in a pattern. -/
def Inert (c : Char) : Prop := c ∉ specialChars

instance (c : Char) : Decidable (Inert c) :=
  decidable_of_iff (specialChars.elem c = false) (by rw [Inert, ← List.elem_iff, Bool.not_eq_true])

/-- A character without a meaning is no operator. -/
theorem ofChar_inert {c : Char} (h : Inert c) : Op.ofChar c = none := by
  simp only [Inert, specialChars, List.mem_cons, not_or] at h
  simp [Op.ofChar, h]

/-- Nor does it end a word. -/
theorem stepPlain_inert {w : Word} {c : Char} (h : Inert c) (hfirst : w = [] → c ≠ '#') :
    stepPlain w c = some ([], .plain (w ++ [.bare c])) := by
  have hcomment : ¬ (c = '#' ∧ w = []) := fun hc => hfirst hc.2 hc.1
  have hop := ofChar_inert h
  simp only [Inert, specialChars, List.mem_cons, not_or] at h
  simp only [stepPlain, h, hcomment, hop, or_self, if_false]

/-- What a character does outside quotes. -/
inductive PlainStep (w : Word) (c : Char) : List Token → Mode → Prop
  | blank : PlainStep w c (pending w) (.plain [])
  | newline : PlainStep w c (pending w ++ [.newline]) (.plain [])
  | single : PlainStep w c [] (.single (w ++ [.quote]))
  | double : PlainStep w c [] (.double (w ++ [.quote]))
  | escape : PlainStep w c [] (.escape w)
  | comment (hw : w = []) : PlainStep w c [] .comment
  | op (o : Op) (ho : o.length = 1) : PlainStep w c (before o w) (.op o)
  | bare (hc : Inert c) (hfirst : w = [] → c ≠ '#') : PlainStep w c [] (.plain (w ++ [.bare c]))

/-- An operator begins with one character. -/
theorem Op.length_ofChar {c : Char} {o : Op} (h : Op.ofChar c = some o) : o.length = 1 := by
  rw [Op.ofChar] at h
  repeat' split at h
  all_goals cases h
  all_goals rfl

/-- Each further one makes it longer. -/
theorem Op.length_extend {o o' : Op} {c : Char} (h : o.extend c = some o') :
    o'.length = o.length + 1 := by
  unfold Op.extend at h
  repeat' split at h
  all_goals cases h
  all_goals rfl

theorem Op.length_pos (o : Op) : 0 < o.length := by cases o <;> decide

/-- What the automaton does with an unquoted character. -/
theorem stepPlain_cases {w : Word} {c : Char} {ts : List Token} {m : Mode} (hc : c ≠ '\x00')
    (h : stepPlain w c = some (ts, m)) : PlainStep w c ts m := by
  by_cases hinert : Inert c ∧ (w = [] → c ≠ '#')
  · rw [stepPlain_inert hinert.1 hinert.2] at h
    cases h
    exact .bare hinert.1 hinert.2
  rw [stepPlain] at h
  split at h
  · cases h
    exact .blank
  split at h
  · cases h
    exact .newline
  split at h
  · cases h
    exact .single
  split at h
  · cases h
    exact .double
  split at h
  · cases h
    exact .escape
  split at h
  · cases h
  split at h
  · next hcomment =>
    cases h
    exact .comment hcomment.2
  split at h
  · next o ho =>
    cases h
    exact .op o (Op.length_ofChar ho)
  · -- the character would be inert
    next hblank hnewline hsingle hdouble hescape hexpand hcomment _ hop =>
    refine absurd ⟨?_, fun hw hhash => hcomment ⟨hhash, hw⟩⟩ hinert
    rw [Op.ofChar] at hop
    repeat' split at hop
    all_goals cases hop
    simp only [not_or] at hblank hexpand
    simp only [Inert, specialChars, List.mem_cons, List.not_mem_nil, not_or, or_false]
    refine ⟨hc, hblank.1, hblank.2, hnewline, hsingle, hdouble, hescape, hexpand.1, hexpand.2, ?_⟩
    refine ⟨?_, ?_, ?_, ?_, ?_, ?_, ?_⟩ <;> assumption

/-- What a character does, in every mode. -/
inductive Step (c : Char) : Mode → List Token → Mode → Prop
  | plain (w : Word) {ts : List Token} {m : Mode} (h : PlainStep w c ts m) : Step c (.plain w) ts m
  | joined (w : Word) : Step c (.escape w) [] (.plain w)
  | escaped (w : Word) : Step c (.escape w) [] (.plain (w ++ [.quote, .quoted c]))
  | singleEnd (w : Word) : Step c (.single w) [] (.plain w)
  | single (w : Word) : Step c (.single w) [] (.single (w ++ [.quoted c]))
  | doubleEnd (w : Word) : Step c (.double w) [] (.plain w)
  | doubleEscape (w : Word) : Step c (.double w) [] (.doubleEscape w)
  | double (w : Word) : Step c (.double w) [] (.double (w ++ [.quoted c]))
  | doubleJoined (w : Word) : Step c (.doubleEscape w) [] (.double w)
  | doubleEscaped (w : Word) : Step c (.doubleEscape w) [] (.double (w ++ [.quoted c]))
  | backslash (w : Word) : Step c (.doubleEscape w) [] (.double (w ++ [.quoted '\\', .quoted c]))
  | commentEnd : Step c .comment [.newline] (.plain [])
  | comment : Step c .comment [] .comment
  | extend (o o' : Op) (h : o'.length = o.length + 1) : Step c (.op o) [] (.op o')
  | opEscape (o : Op) : Step c (.op o) [] (.opEscape o)
  | opEnd (o : Op) {ts : List Token} {m : Mode} (h : PlainStep [] c ts m) : Step c (.op o) (.op o :: ts) m
  | opJoined (o : Op) : Step c (.opEscape o) [] (.op o)
  | opEscaped (o : Op) : Step c (.opEscape o) [.op o] (.plain [.quote, .quoted c])

/-- **The step of a character**, by its cases. -/
theorem step_cases {m m' : Mode} {c : Char} {ts : List Token} (h : step m c = some (ts, m')) :
    Step c m ts m' := by
  unfold step at h
  split at h
  · cases h
  next hc =>
  cases m with
  | plain w => exact .plain w (stepPlain_cases hc h)
  | escape w =>
    dsimp only at h
    split at h
    · cases h
      exact .joined w
    · cases h
      exact .escaped w
  | single w =>
    cases h
    split
    · exact .singleEnd w
    · exact .single w
  | double w =>
    dsimp only at h
    split at h
    · cases h
      exact .doubleEnd w
    split at h
    · cases h
      exact .doubleEscape w
    split at h
    · cases h
    · cases h
      exact .double w
  -- In double quotes the backslash escapes only some characters and is literal before the others.
  | doubleEscape w =>
    dsimp only at h
    split at h
    · cases h
      exact .doubleJoined w
    split at h
    · cases h
      exact .doubleEscaped w
    · cases h
      exact .backslash w
  | comment =>
    dsimp only at h
    split at h
    · cases h
      exact .commentEnd
    · cases h
      exact .comment
  -- An operator grows as long as the longer one exists; else it ends, and the character is read again.
  | op o =>
    dsimp only at h
    split at h
    · cases h
    split at h
    · next o' ho =>
      cases h
      exact .extend o o' (Op.length_extend ho)
    split at h
    · cases h
      exact .opEscape o
    · obtain ⟨⟨ts', m''⟩, hplain, heq⟩ := Option.map_eq_some_iff.mp h
      cases heq
      exact .opEnd o (stepPlain_cases hc hplain)
  | opEscape o =>
    dsimp only at h
    split at h
    · cases h
      exact .opJoined o
    · cases h
      exact .opEscaped o

/-! ## What tokens cost -/

/-- The characters a token takes at least, with one that ends a word or a number; the first character of an
    operator may end the token before. -/
def Token.charge : Token → Nat
  | .word w | .number w => w.length + 1
  | .op o => o.length - 1
  | .newline => 0

/-- The characters that the tokens have needed. -/
def charge (ts : List Token) : Nat := (ts.map Token.charge).sum

/-- The characters that have been read of the next token. -/
def Mode.read : Mode → Nat
  | .plain w | .single w | .double w => w.length
  | .escape w | .doubleEscape w => w.length + 1
  | .comment => 0
  | .op o => o.length - 1
  | .opEscape o => o.length

@[simp] theorem charge_nil : charge [] = 0 := rfl

@[simp] theorem charge_cons (t : Token) (ts : List Token) : charge (t :: ts) = t.charge + charge ts := by
  simp [charge]

@[simp] theorem charge_append (ts ts' : List Token) : charge (ts ++ ts') = charge ts + charge ts' := by
  simp [charge]

/-- The word that is ended costs its characters. -/
theorem charge_pending (w : Word) : charge (pending w) ≤ w.length + 1 := by
  rw [pending]
  split
  · exact Nat.zero_le _
  · simp [Token.charge]

/-- So does one in front of an operator. -/
theorem charge_before (o : Op) (w : Word) : charge (before o w) ≤ w.length + 1 := by
  rw [before]
  split
  · simp [Token.charge]
  · exact charge_pending w

/-- An unquoted character pays for itself. -/
theorem charge_plainStep {w : Word} {c : Char} {ts : List Token} {m : Mode} (h : PlainStep w c ts m) :
    charge ts + m.read ≤ w.length + 1 := by
  cases h with
  | blank => exact charge_pending w
  | newline =>
    rw [charge_append]
    exact charge_pending w
  | single => simp [Mode.read]
  | double => simp [Mode.read]
  | escape => simp [Mode.read]
  | comment hw => exact Nat.zero_le _
  | op o ho =>
    rw [Mode.read, ho]
    exact charge_before o w
  | bare hc hfirst => simp [Mode.read]

/-- A character pays for what is read of it. -/
theorem charge_step {m m' : Mode} {c : Char} {ts : List Token} (h : step m c = some (ts, m')) :
    charge ts + m'.read ≤ m.read + 1 := by
  cases step_cases h with
  | plain w h => exact charge_plainStep h
  | extend o o' ho =>
    have hpos := o.length_pos
    simp only [charge_nil, Mode.read, ho]
    omega
  | opEscape o =>
    have hpos := o.length_pos
    simp only [charge_nil, Mode.read]
    omega
  | opEnd o h =>
    have hpos := o.length_pos
    have hrest := charge_plainStep h
    simp only [charge_cons, Mode.read, Token.charge, List.length_nil] at hrest ⊢
    omega
  | opJoined o =>
    simp only [charge_nil, Mode.read]
    omega
  | opEscaped o =>
    have hpos := o.length_pos
    simp only [charge_cons, charge_nil, Mode.read, Token.charge, List.length_cons, List.length_nil]
    omega
  | commentEnd => simp [Mode.read, Token.charge]
  | _ =>
    simp only [charge_nil, Mode.read, List.length_append, List.length_cons, List.length_nil]
    omega

/-- **Every token** is paid for by the characters that have been read. -/
theorem charge_feed (cs : List Char) : ∀ {m m' : Mode} {ts : List Token},
    feed m cs = some (ts, m') → charge ts + m'.read ≤ m.read + cs.length := by
  induction cs with
  | nil =>
    intro m m' ts h
    cases h
    simp
  | cons c cs ih =>
    intro m m' ts h
    obtain ⟨ts₁, m₁, ts₂, hstep, hfeed, rfl⟩ := feed_cons_eq_some.mp h
    have hone := charge_step hstep
    have hrest := ih hfeed
    rw [charge_append, List.length_cons]
    omega

/-- And so is the last one. -/
theorem charge_finish {m : Mode} {ts : List Token} (h : finish m = some ts) :
    charge ts ≤ m.read + 1 := by
  cases m with
  | plain w =>
    cases h
    exact charge_pending w
  | op o =>
    cases h
    simp [Mode.read, Token.charge]
  | comment =>
    cases h
    exact Nat.zero_le _
  | _ => cases h

/-- **A text is not shorter than its tokens.** -/
theorem charge_scan {m : Mode} {cs : List Char} {ts : List Token} (h : scan m cs = some ts) :
    charge ts ≤ m.read + cs.length + 1 := by
  obtain ⟨ts₁, m₁, ts₂, hfeed, hfinish, rfl⟩ := scan_eq_some.mp h
  have hread := charge_feed cs hfeed
  have hend := charge_finish hfinish
  rw [charge_append]
  omega

/-! ## Inside a word -/

/-- Some of a word has been read. -/
def Mode.InWord : Mode → Prop
  | .plain w | .escape w | .single w | .double w | .doubleEscape w => w ≠ []
  | _ => False

theorem pending_of_ne_nil {w : Word} (h : w ≠ []) : pending w = [.word w] := if_neg h

theorem before_of_ne_nil {w : Word} (h : w ≠ []) (o : Op) : ∃ t, before o w = [t] := by
  rw [before]
  split
  · exact ⟨_, rfl⟩
  · exact ⟨_, pending_of_ne_nil h⟩

theorem concat_ne_nil (w : Word) (p : Piece) : w ++ [p] ≠ [] := List.append_ne_nil_of_right_ne_nil w nofun

/-- A character goes on with the word, or ends it and is not kept. -/
theorem step_inWord {m m' : Mode} {c : Char} {ts : List Token} (hm : m.InWord)
    (h : step m c = some (ts, m')) :
    (ts = [] ∧ m'.InWord) ∨ ∃ t rest, ts = t :: rest ∧ charge rest = 0 ∧ m'.read = 0 := by
  cases step_cases h with
  | plain w h =>
    have hpending := pending_of_ne_nil hm
    cases h with
    | blank => exact .inr ⟨_, _, hpending, rfl, rfl⟩
    | newline => exact .inr ⟨_, _, by rw [hpending]; rfl, rfl, rfl⟩
    | single => exact .inl ⟨rfl, concat_ne_nil w _⟩
    | double => exact .inl ⟨rfl, concat_ne_nil w _⟩
    | escape => exact .inl ⟨rfl, hm⟩
    | comment hw => exact absurd hw hm
    | op o ho =>
      obtain ⟨t, ht⟩ := before_of_ne_nil hm o
      refine .inr ⟨t, [], ht, rfl, ?_⟩
      rw [Mode.read, ho]
    | bare hc hfirst => exact .inl ⟨rfl, concat_ne_nil w _⟩
  | joined w => exact .inl ⟨rfl, hm⟩
  | escaped w => exact .inl ⟨rfl, List.append_ne_nil_of_left_ne_nil hm _⟩
  | singleEnd w => exact .inl ⟨rfl, hm⟩
  | single w => exact .inl ⟨rfl, concat_ne_nil w _⟩
  | doubleEnd w => exact .inl ⟨rfl, hm⟩
  | doubleEscape w => exact .inl ⟨rfl, hm⟩
  | double w => exact .inl ⟨rfl, concat_ne_nil w _⟩
  | doubleJoined w => exact .inl ⟨rfl, hm⟩
  | doubleEscaped w => exact .inl ⟨rfl, concat_ne_nil w _⟩
  | backslash w => exact .inl ⟨rfl, List.append_ne_nil_of_left_ne_nil hm _⟩
  | _ => exact hm.elim

/-- **What follows a word** is paid for by the rest of the text, whatever the word has taken. -/
theorem charge_tail (cs : List Char) : ∀ {m : Mode} {ts : List Token}, m.InWord →
    scan m cs = some ts → charge ts.tail ≤ cs.length + 1 := by
  induction cs with
  | nil =>
    intro m ts hm h
    obtain ⟨ts₁, m₁, ts₂, hfeed, hfinish, rfl⟩ := scan_eq_some.mp h
    cases hfeed
    cases m with
    | plain w =>
      cases hfinish
      rw [List.nil_append, pending_of_ne_nil hm]
      exact Nat.zero_le _
    | comment => exact hm.elim
    | op o => exact hm.elim
    | _ => cases hfinish
  | cons c cs ih =>
    intro m ts hm h
    obtain ⟨ts₁, m₁, ts₂, hstep, hscan, rfl⟩ := scan_cons_eq_some.mp h
    rcases step_inWord hm hstep with ⟨rfl, hm₁⟩ | ⟨t, rest, rfl, hrest, hread⟩
    · exact Nat.le_succ_of_le (ih hm₁ hscan)
    · have hbound := charge_scan hscan
      rw [List.cons_append, List.tail_cons, charge_append, List.length_cons]
      omega

/-- An operator that has been begun is the next token. -/
theorem scan_op (cs : List Char) : ∀ {o : Op} {ts : List Token},
    (scan (.op o) cs = some ts ∨ scan (.opEscape o) cs = some ts) → ∃ o' rest, ts = .op o' :: rest := by
  induction cs with
  | nil =>
    rintro o ts (h | h)
    · cases h
      exact ⟨o, [], rfl⟩
    · cases h
  | cons c cs ih =>
    rintro o ts (h | h)
    · obtain ⟨ts₁, m₁, ts₂, hstep, hscan, rfl⟩ := scan_cons_eq_some.mp h
      cases step_cases hstep with
      | extend => exact ih (.inl hscan)
      | opEscape => exact ih (.inr hscan)
      | opEnd => exact ⟨o, _, rfl⟩
    · obtain ⟨ts₁, m₁, ts₂, hstep, hscan, rfl⟩ := scan_cons_eq_some.mp h
      cases step_cases hstep with
      | opJoined => exact ih (.inl hscan)
      | opEscaped => exact ⟨o, _, rfl⟩

/-! ## Within quotes -/

/-- The characters that mean something within quotes, or in a comment. -/
def quoteChars : List Char := ['\'', '"', '\\', '$', '`', '\n', '\x00']

/-- Within single quotes the characters are kept. -/
theorem feed_single {cs : List Char} (h : ∀ c ∈ cs, c ∉ quoteChars) : ∀ w : Word,
    feed (.single w) cs = some ([], .single (w ++ cs.map .quoted)) := by
  induction cs with
  | nil => intro w; simp [feed]
  | cons c cs ih =>
    intro w
    obtain ⟨hc, hcs⟩ := List.forall_mem_cons.mp h
    have hstep : step (.single w) c = some ([], .single (w ++ [.quoted c])) := by
      simp only [quoteChars, List.mem_cons, not_or] at hc
      simp [step, hc]
    have hrest := ih hcs (w ++ [.quoted c])
    rw [List.append_assoc] at hrest
    exact feed_cons_eq_some.mpr ⟨[], _, [], hstep, hrest, rfl⟩

/-- So they are within double quotes, without backslashes and dollars. -/
theorem feed_double {cs : List Char} (h : ∀ c ∈ cs, c ∉ quoteChars) : ∀ w : Word,
    feed (.double w) cs = some ([], .double (w ++ cs.map .quoted)) := by
  induction cs with
  | nil => intro w; simp [feed]
  | cons c cs ih =>
    intro w
    obtain ⟨hc, hcs⟩ := List.forall_mem_cons.mp h
    have hstep : step (.double w) c = some ([], .double (w ++ [.quoted c])) := by
      simp only [quoteChars, List.mem_cons, not_or] at hc
      simp [step, hc]
    have hrest := ih hcs (w ++ [.quoted c])
    rw [List.append_assoc] at hrest
    exact feed_cons_eq_some.mpr ⟨[], _, [], hstep, hrest, rfl⟩

theorem feed_comment {cs : List Char} (h : ∀ c ∈ cs, c ∉ quoteChars) :
    feed .comment cs = some ([], .comment) := by
  induction cs with
  | nil => rfl
  | cons c cs ih =>
    obtain ⟨hc, hcs⟩ := List.forall_mem_cons.mp h
    have hstep : step .comment c = some ([], .comment) := by
      simp only [quoteChars, List.mem_cons, not_or] at hc
      simp [step, hc]
    exact feed_cons_eq_some.mpr ⟨[], _, [], hstep, ih hcs, rfl⟩

/-! ## Words as they are read -/

/-- What holds of every word that is read. -/
structure Word.Read (w : Word) : Prop where
  bare : ∀ c, .bare c ∈ w → Inert c
  quoted : ∀ c, .quoted c ∈ w → .quote ∈ w
  first : w.head? ≠ some (.bare '#')

theorem Word.Read.nil : Word.Read [] := ⟨nofun, nofun, nofun⟩

namespace Word.Read

variable {w : Word} (h : Word.Read w)

include h

theorem concat {p : Piece} (hbare : ∀ c, p = .bare c → Inert c ∧ (w = [] → c ≠ '#'))
    (hquoted : ∀ c, p = .quoted c → .quote ∈ w) : Word.Read (w ++ [p]) where
  bare c hc := by
    rcases List.mem_append.mp hc with hc | hc
    · exact h.bare c hc
    · exact (hbare c (List.mem_singleton.mp hc).symm).1
  quoted c hc := by
    rcases List.mem_append.mp hc with hc | hc
    · exact List.mem_append_left _ (h.quoted c hc)
    · exact List.mem_append_left _ (hquoted c (List.mem_singleton.mp hc).symm)
  first := by
    cases w with
    | nil =>
      intro hhash
      exact (hbare '#' (Option.some.inj hhash)).2 rfl rfl
    | cons q w => exact h.first

theorem concat_bare {c : Char} (hc : Inert c) (hfirst : w = [] → c ≠ '#') :
    Word.Read (w ++ [.bare c]) :=
  h.concat (fun d hd => by cases hd; exact ⟨hc, hfirst⟩) (fun d hd => by cases hd)

theorem concat_quote : Word.Read (w ++ [.quote]) :=
  h.concat (fun d hd => by cases hd) (fun d hd => by cases hd)

theorem concat_quoted (hquote : .quote ∈ w) (c : Char) : Word.Read (w ++ [.quoted c]) :=
  h.concat (fun d hd => by cases hd) (fun _ _ => hquote)

end Word.Read

/-- What holds of the word that is being read. -/
def Mode.Reads : Mode → Prop
  | .plain w | .escape w => w.Read
  | .single w | .double w | .doubleEscape w => w.Read ∧ .quote ∈ w
  | .comment | .op _ | .opEscape _ => True

/-- The token was read character by character. -/
def Token.Read : Token → Prop
  | .word w => w.Read ∧ w ≠ []
  | _ => True

/-- The word that is ended was read. -/
theorem read_pending {w : Word} (h : w.Read) : ∀ t ∈ pending w, t.Read := by
  rw [pending]
  split
  · exact nofun
  · next hne =>
    intro t ht
    cases List.mem_singleton.mp ht
    exact ⟨h, hne⟩

/-- So was the one in front of an operator. -/
theorem read_before {w : Word} (h : w.Read) (o : Op) : ∀ t ∈ before o w, t.Read := by
  rw [before]
  split
  · intro t ht
    cases List.mem_singleton.mp ht
    trivial
  · exact read_pending h

theorem mem_concat_quote (w : Word) : Piece.quote ∈ w ++ [.quote] :=
  List.mem_append_right _ (List.mem_singleton.mpr rfl)

/-- An unquoted character keeps what is known of the word. -/
theorem reads_plainStep {w : Word} {c : Char} {ts : List Token} {m : Mode} (hw : w.Read)
    (h : PlainStep w c ts m) : (∀ t ∈ ts, t.Read) ∧ m.Reads := by
  cases h with
  | blank => exact ⟨read_pending hw, .nil⟩
  | newline =>
    refine ⟨fun t ht => ?_, .nil⟩
    rcases List.mem_append.mp ht with ht | ht
    · exact read_pending hw t ht
    · cases List.mem_singleton.mp ht
      trivial
  | single => exact ⟨List.forall_mem_nil _, hw.concat_quote, mem_concat_quote w⟩
  | double => exact ⟨List.forall_mem_nil _, hw.concat_quote, mem_concat_quote w⟩
  | escape => exact ⟨List.forall_mem_nil _, hw⟩
  | comment _ => exact ⟨List.forall_mem_nil _, trivial⟩
  | op o _ => exact ⟨read_before hw o, trivial⟩
  | bare hc hfirst => exact ⟨List.forall_mem_nil _, hw.concat_bare hc hfirst⟩

theorem reads_step {m m' : Mode} {c : Char} {ts : List Token} (hm : m.Reads)
    (h : step m c = some (ts, m')) : (∀ t ∈ ts, t.Read) ∧ m'.Reads := by
  cases step_cases h with
  | plain w h => exact reads_plainStep hm h
  | joined w => exact ⟨List.forall_mem_nil _, hm⟩
  | escaped w =>
    have hquoted := (Word.Read.concat_quote hm).concat_quoted (mem_concat_quote w) c
    rw [List.append_assoc] at hquoted
    exact ⟨List.forall_mem_nil _, hquoted⟩
  | singleEnd w => exact ⟨List.forall_mem_nil _, hm.1⟩
  | single w => exact ⟨List.forall_mem_nil _, hm.1.concat_quoted hm.2 c, List.mem_append_left _ hm.2⟩
  | doubleEnd w => exact ⟨List.forall_mem_nil _, hm.1⟩
  | doubleEscape w => exact ⟨List.forall_mem_nil _, hm⟩
  | double w => exact ⟨List.forall_mem_nil _, hm.1.concat_quoted hm.2 c, List.mem_append_left _ hm.2⟩
  | doubleJoined w => exact ⟨List.forall_mem_nil _, hm⟩
  | doubleEscaped w => exact ⟨List.forall_mem_nil _, hm.1.concat_quoted hm.2 c, List.mem_append_left _ hm.2⟩
  | backslash w =>
    have hquoted := (hm.1.concat_quoted hm.2 '\\').concat_quoted (List.mem_append_left _ hm.2) c
    rw [List.append_assoc] at hquoted
    exact ⟨List.forall_mem_nil _, hquoted, List.mem_append_left _ hm.2⟩
  | commentEnd => exact ⟨List.forall_mem_singleton.mpr trivial, .nil⟩
  | comment => exact ⟨List.forall_mem_nil _, trivial⟩
  | extend o o' _ => exact ⟨List.forall_mem_nil _, trivial⟩
  | opEscape o => exact ⟨List.forall_mem_nil _, trivial⟩
  | opEnd o h =>
    obtain ⟨hts, hm'⟩ := reads_plainStep .nil h
    exact ⟨List.forall_mem_cons.mpr ⟨trivial, hts⟩, hm'⟩
  | opJoined o => exact ⟨List.forall_mem_nil _, trivial⟩
  | opEscaped o =>
    exact ⟨List.forall_mem_singleton.mpr trivial,
      Word.Read.nil.concat_quote.concat_quoted (mem_concat_quote []) c⟩

/-- And the end of the text. -/
theorem reads_finish {m : Mode} {ts : List Token} (hm : m.Reads) (h : finish m = some ts) :
    ∀ t ∈ ts, t.Read := by
  cases m with
  | plain w =>
    cases h
    exact read_pending hm
  | op o =>
    cases h
    intro t ht
    cases List.mem_singleton.mp ht
    trivial
  | comment =>
    cases h
    exact nofun
  | _ => cases h

/-- **The words of a text**: no character outside quotes means anything else. -/
theorem reads_scan (cs : List Char) : ∀ {m : Mode} {ts : List Token}, m.Reads → scan m cs = some ts →
    ∀ t ∈ ts, t.Read := by
  induction cs with
  | nil =>
    intro m ts hm h
    obtain ⟨ts₁, m₁, ts₂, hfeed, hfinish, rfl⟩ := scan_eq_some.mp h
    cases hfeed
    exact reads_finish hm hfinish
  | cons c cs ih =>
    intro m ts hm h
    obtain ⟨ts₁, m₁, ts₂, hstep, hscan, rfl⟩ := scan_cons_eq_some.mp h
    obtain ⟨hts, hm₁⟩ := reads_step hm hstep
    intro t ht
    rcases List.mem_append.mp ht with ht | ht
    · exact hts t ht
    · exact ih hm₁ hscan t ht

/-! ## Plain words -/

/-- A text without quotes. -/
def bareWord (s : String) : Word := s.toList.map .bare

/-- A text that is one word and stands for itself. -/
structure PlainWord (s : String) : Prop where
  nonempty : s.toList ≠ []
  inert : ∀ c ∈ s.toList, Inert c
  first : s.toList.head? ≠ some '#' ∧ s.toList.head? ≠ some '~'
  pattern : (bareWord s).isPattern = false

instance (s : String) : Decidable (PlainWord s) :=
  decidable_of_iff (s.toList ≠ [] ∧ s.toList.all (fun c => decide (Inert c)) = true ∧
      (s.toList.head? ≠ some '#' ∧ s.toList.head? ≠ some '~') ∧ (bareWord s).isPattern = false)
    ⟨fun ⟨hne, hinert, hfirst, hpattern⟩ =>
        ⟨hne, fun c hc => of_decide_eq_true (List.all_eq_true.mp hinert c hc), hfirst, hpattern⟩,
      fun h => ⟨h.nonempty, List.all_eq_true.mpr fun c hc => decide_eq_true (h.inert c hc), h.first, h.pattern⟩⟩

/-- A word without quotes is its characters. -/
theorem chars_bare (cs : List Char) : Word.chars (cs.map .bare) = cs := by
  rw [Word.chars, List.filterMap_map]
  exact List.filterMap_some

theorem head?_bare (cs : List Char) (c : Char) :
    (cs.map Piece.bare).head? = some (.bare c) ↔ cs.head? = some c := by
  cases cs with
  | nil => simp
  | cons d cs => simp

/-- It is read as it is spelled. -/
theorem PlainWord.literal {s : String} (h : PlainWord s) : (bareWord s).literal = some s := by
  have hcond : ¬ ((bareWord s).isPattern = true ∨ (bareWord s).head? = some (.bare '~')) := by
    rw [h.pattern, bareWord, head?_bare]
    rintro (hpattern | htilde)
    · cases hpattern
    · exact h.first.2 htilde
  rw [Word.literal, if_neg hcond, bareWord, chars_bare, String.ofList_toList]

theorem all_bare : ∀ {w : Word}, (∀ p ∈ w, ∃ c, p = .bare c) → ∃ cs : List Char, w = cs.map .bare := by
  intro w
  induction w with
  | nil => exact fun _ => ⟨[], rfl⟩
  | cons p w ih =>
    intro h
    obtain ⟨⟨c, rfl⟩, hw⟩ := List.forall_mem_cons.mp h
    obtain ⟨cs, rfl⟩ := ih hw
    exact ⟨c :: cs, rfl⟩

/-- A word that is read without quotes is its own text. -/
theorem Word.Read.plain {w : Word} {s : String} (h : w.Read) (hquote : .quote ∉ w) (hne : w ≠ [])
    (hs : w.literal = some s) : PlainWord s := by
  obtain ⟨cs, rfl⟩ : ∃ cs : List Char, w = cs.map .bare := by
    refine all_bare fun p hp => ?_
    cases p with
    | quote => exact absurd hp hquote
    | quoted c => exact absurd (h.quoted c hp) hquote
    | bare c => exact ⟨c, rfl⟩
  rw [Word.literal] at hs
  split at hs
  · cases hs
  · next hcond =>
    rw [chars_bare] at hs
    obtain rfl := Option.some.inj hs
    obtain ⟨hpattern, htilde⟩ := not_or.mp hcond
    rw [head?_bare] at htilde
    have hhash := h.first
    rw [Ne, head?_bare] at hhash
    have hlist : (String.ofList cs).toList = cs := String.toList_ofList
    constructor
    · rw [hlist]
      exact fun hnil => hne (List.map_eq_nil_iff.mpr hnil)
    · rw [hlist]
      exact fun c hc => h.bare c (List.mem_map_of_mem hc)
    · rw [hlist]
      exact ⟨hhash, htilde⟩
    · rw [bareWord, hlist]
      exact Bool.eq_false_iff.mpr hpattern

/-- The characters of a plain word go on with the word. -/
theorem feed_inert (cs : List Char) (hcs : ∀ c ∈ cs, Inert c) : ∀ w : Word,
    (w = [] → cs.head? ≠ some '#') → feed (.plain w) cs = some ([], .plain (w ++ cs.map .bare)) := by
  induction cs with
  | nil => intro w _; simp [feed]
  | cons c cs ih =>
    intro w hfirst
    obtain ⟨hc, hcs⟩ := List.forall_mem_cons.mp hcs
    have hnul : c ≠ '\x00' := fun h => hc (h ▸ List.mem_cons_self)
    have hstep : step (.plain w) c = some ([], .plain (w ++ [.bare c])) := by
      rw [step, if_neg hnul]
      refine stepPlain_inert hc fun hw hhash => hfirst hw ?_
      rw [hhash]
      rfl
    have hrest := ih hcs (w ++ [.bare c]) fun hw => absurd hw (concat_ne_nil w _)
    rw [List.append_assoc] at hrest
    exact feed_cons_eq_some.mpr ⟨[], _, [], hstep, hrest, rfl⟩

/-- **A plain word** is read as one token. -/
theorem PlainWord.feed {s : String} (h : PlainWord s) :
    Shell.feed (.plain []) s.toList = some ([], .plain (bareWord s)) :=
  feed_inert s.toList h.inert [] fun _ => h.first.1

end Dtsys.Shell
