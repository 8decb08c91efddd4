/-
  THE GRAMMAR of the shell command language (POSIX.1, section 2.10), as far as lists of simple commands and
  of if-clauses go.

  `parse` reads a list of commands from the tokens of a text, and `readText` from the text: the words stand
  for themselves, and the reserved words are recognized where a command begins and are not quoted.  Other
  constructs (pipelines, and-or lists, subshells, loops) are not in the fragment: a text that has one is not
  read.

  A program keeps the separators of its commands, so that it is spelled in one way only: `spell_parse`.
-/
import Dtsys.Lib.ShellTokens

namespace Dtsys.Shell

/-! ## Lexemes -/

/-- A token whose word stands for itself; `bare` if no part of it is quoted. -/
inductive Lexeme where
  | word (s : String) (bare : Bool)
  | number (s : String)
  | op (o : Op)
  | newline
  deriving DecidableEq, Repr

/-- A token as the grammar reads it; a word is reserved only if no part of it is quoted. -/
def Token.lexeme : Token → Option Lexeme
  | .word w => w.literal.map fun s => .word s (!w.contains .quote)
  | .number w => some (.number (String.ofList w.chars))
  | .op o => some (.op o)
  | .newline => some .newline

/-- The lexemes of tokens, if every word stands for itself. -/
def lexemes : List Token → Option (List Lexeme)
  | [] => some []
  | t :: ts => t.lexeme.bind fun l => (lexemes ts).map fun ls => l :: ls

/-- Quotes do not tell arguments apart. -/
def Lexeme.unquote : Lexeme → Lexeme
  | .word s _ => .word s true
  | l => l

/-! ## Programs -/

/-- An argument (or the name of the command), or a redirection. -/
inductive Part where
  | word (s : String)
  | redirect (fd : Option String) (o : Op) (target : String)
  deriving DecidableEq, Repr

/-- What ends a command: a semicolon, newlines. -/
structure Sep where
  semi : Bool
  newlines : Nat
  deriving DecidableEq, Repr

mutual

/-- A simple command, or an `if` with what follows its body. -/
inductive Cmd where
  | simple (parts : List Part)
  | cond (test body : Block) (rest : Else)

/-- Commands one after the other; the last one may end with nothing. -/
inductive Block where
  | last (c : Cmd) (s : Sep)
  | cons (c : Cmd) (s : Sep) (b : Block)

/-- What may follow the body of an `if`. -/
inductive Else where
  | fi
  | els (body : Block)
  | elif (test body : Block) (rest : Else)

end

/-- A reserved word. -/
def keyword (s : String) : Lexeme := .word s true

/-- The tokens of a part of a simple command. -/
def Part.spell : Part → List Lexeme
  | .word s => [.word s true]
  | .redirect none o target => [.op o, .word target true]
  | .redirect (some fd) o target => [.number fd, .op o, .word target true]

/-- The tokens between two commands. -/
def Sep.spell (s : Sep) : List Lexeme :=
  (if s.semi then [.op .semi] else []) ++ List.replicate s.newlines .newline

mutual

/-- The tokens of a command. -/
def Cmd.spell : Cmd → List Lexeme
  | .simple ps => ps.flatMap Part.spell
  | .cond test body rest =>
    keyword "if" :: (test.spell ++ keyword "then" :: (body.spell ++ rest.spell))

/-- The tokens of a list of commands. -/
def Block.spell : Block → List Lexeme
  | .last c s => c.spell ++ s.spell
  | .cons c s b => c.spell ++ (s.spell ++ b.spell)

/-- The tokens behind the body of an `if`. -/
def Else.spell : Else → List Lexeme
  | .fi => [keyword "fi"]
  | .els body => keyword "else" :: (body.spell ++ [keyword "fi"])
  | .elif test body rest =>
    keyword "elif" :: (test.spell ++ keyword "then" :: (body.spell ++ rest.spell))

end

/-! ## Parsing -/

/-- The words no command begins with (2.4 Reserved Words). -/
def reservedWords : List String :=
  ["!", "\x7b", "\x7d", "case", "do", "done", "elif", "else", "esac", "fi", "for", "if", "in", "then", "until",
    "while"]

/-- The next token is a reserved word. -/
def startsReserved : List Lexeme → Bool
  | .word s true :: _ => reservedWords.contains s
  | _ => false

/-- The arguments and redirections up to the end of a simple command. -/
def parts : List Lexeme → List Part × List Lexeme
  | .word s _ :: ls => (.word s :: (parts ls).1, (parts ls).2)
  | .op o :: .word s b :: ls =>
    if o.isRedirect then (.redirect none o s :: (parts ls).1, (parts ls).2)
    else ([], .op o :: .word s b :: ls)
  | .number n :: .op o :: .word s b :: ls =>
    if o.isRedirect then (.redirect (some n) o s :: (parts ls).1, (parts ls).2)
    else ([], .number n :: .op o :: .word s b :: ls)
  | ls => ([], ls)

/-- How many newlines come next, and what comes after them. -/
def newlines : List Lexeme → Nat × List Lexeme
  | .newline :: ls => ((newlines ls).1 + 1, (newlines ls).2)
  | ls => (0, ls)

/-- A semicolon and newlines, and what comes after them. -/
def separator : List Lexeme → Sep × List Lexeme
  | .op .semi :: ls => (⟨true, (newlines ls).1⟩, (newlines ls).2)
  | ls => (⟨false, (newlines ls).1⟩, (newlines ls).2)

/-- The next word is `s`, and a reserved word. -/
def expect (s : String) : List Lexeme → Option (List Lexeme)
  | .word s' true :: ls => if s' = s then some ls else none
  | _ => none

/-- A list of commands ends here. -/
def blockEnds (ls : List Lexeme) : Bool :=
  ls.isEmpty || ["then", "elif", "else", "fi"].any fun s => (expect s ls).isSome

mutual

/-- A command at the head of the tokens; the number bounds the depth. -/
def parseCmd : Nat → List Lexeme → Option (Cmd × List Lexeme)
  | 0, _ => none
  | n + 1, ls =>
    match expect "if" ls with
    | some ls =>
      (parseBlock n ls).bind fun test =>
        (expect "then" test.2).bind fun ls =>
          (parseBlock n ls).bind fun body =>
            (parseElse n body.2).map fun rest => (.cond test.1 body.1 rest.1, rest.2)
    | none =>
      if startsReserved ls ∨ (parts ls).1 = [] then none
      else some (.simple (parts ls).1, (parts ls).2)

/-- A list of commands, up to a reserved word that ends it. -/
def parseBlock : Nat → List Lexeme → Option (Block × List Lexeme)
  | 0, _ => none
  | n + 1, ls =>
    (parseCmd n ls).bind fun c =>
      let s := separator c.2
      if s.1 = ⟨false, 0⟩ ∨ blockEnds s.2 then some (.last c.1 s.1, s.2)
      else (parseBlock n s.2).map fun b => (.cons c.1 s.1 b.1, b.2)

/-- What follows the body of an `if`, up to its `fi`. -/
def parseElse : Nat → List Lexeme → Option (Else × List Lexeme)
  | 0, _ => none
  | n + 1, ls =>
    match expect "fi" ls, expect "else" ls, expect "elif" ls with
    | some ls, _, _ => some (.fi, ls)
    | none, some ls, _ =>
      (parseBlock n ls).bind fun body =>
        (expect "fi" body.2).map fun ls => (.els body.1, ls)
    | none, none, some ls =>
      (parseBlock n ls).bind fun test =>
        (expect "then" test.2).bind fun ls =>
          (parseBlock n ls).bind fun body =>
            (parseElse n body.2).map fun rest => (.elif test.1 body.1 rest.1, rest.2)
    | none, none, none => none

end

/-- The whole of the tokens is a list of commands. -/
def parse (ls : List Lexeme) : Option Block :=
  (parseBlock (ls.length + 1) ls).bind fun b => if b.2 = [] then some b.1 else none

/-- The commands a text is read as. -/
def readText (s : String) : Option Block :=
  ((tokens s).bind lexemes).bind parse

/-! ## A program is spelled in one way -/

theorem expect_eq_some {s : String} {ls rest : List Lexeme} (h : expect s ls = some rest) :
    ls = keyword s :: rest := by
  unfold expect at h
  split at h
  · split at h
    · next heq =>
      cases h
      rw [heq]
      rfl
    · cases h
  · cases h

/-- The parts are those of the tokens. -/
theorem spell_parts (ls : List Lexeme) :
    ls.map Lexeme.unquote = (parts ls).1.flatMap Part.spell ++ (parts ls).2.map Lexeme.unquote := by
  induction ls using parts.induct with
  | case1 s b ls ih =>
    rw [parts, List.map_cons, ih]
    rfl
  | case2 o s b ls hredirect ih =>
    rw [parts, if_pos hredirect, List.map_cons, List.map_cons, ih]
    rfl
  | case3 o s b ls hredirect =>
    rw [parts, if_neg hredirect]
    rfl
  | case4 n o s b ls hredirect ih =>
    rw [parts, if_pos hredirect, List.map_cons, List.map_cons, List.map_cons, ih]
    rfl
  | case5 n o s b ls hredirect =>
    rw [parts, if_neg hredirect]
    rfl
  | case6 ls h₁ h₂ h₃ =>
    rw [parts.eq_4 ls h₁ h₂ h₃]
    rfl

theorem spell_newlines (ls : List Lexeme) : ls.map Lexeme.unquote =
    List.replicate (newlines ls).1 .newline ++ (newlines ls).2.map Lexeme.unquote := by
  induction ls using newlines.induct with
  | case1 ls ih =>
    rw [newlines, List.map_cons, ih, List.replicate_succ]
    rfl
  | case2 ls h =>
    rw [newlines.eq_2 ls h]
    rfl

theorem spell_separator (ls : List Lexeme) :
    ls.map Lexeme.unquote = (separator ls).1.spell ++ (separator ls).2.map Lexeme.unquote := by
  unfold separator Sep.spell
  split
  · next ls =>
    rw [List.map_cons, spell_newlines ls]
    rfl
  · exact spell_newlines ls

theorem unquote_keyword (s : String) : (keyword s).unquote = keyword s := rfl

/-- `then` and the block after it, and what follows. -/
theorem spell_branches {n : Nat} {ls : List Lexeme} {test body : Block} {rest : Else}
    {ls₁ ls₂ ls₃ ls₄ : List Lexeme}
    (ihBlock : ∀ ls b rest, parseBlock n ls = some (b, rest) →
      ls.map Lexeme.unquote = b.spell ++ rest.map Lexeme.unquote)
    (ihElse : ∀ ls e rest, parseElse n ls = some (e, rest) →
      ls.map Lexeme.unquote = e.spell ++ rest.map Lexeme.unquote)
    (htest : parseBlock n ls = some (test, ls₁)) (hthen : expect "then" ls₁ = some ls₂)
    (hbody : parseBlock n ls₂ = some (body, ls₃)) (hrest : parseElse n ls₃ = some (rest, ls₄)) :
    ls.map Lexeme.unquote =
      test.spell ++ keyword "then" :: (body.spell ++ rest.spell) ++ ls₄.map Lexeme.unquote := by
  rw [ihBlock _ _ _ htest, expect_eq_some hthen, List.map_cons, unquote_keyword, ihBlock _ _ _ hbody,
    ihElse _ _ _ hrest, List.append_assoc, List.cons_append, List.append_assoc]

/-- What each of the three parsers takes from the tokens is the spelling of its result. -/
theorem spell_parse_aux (n : Nat) :
    (∀ ls c rest, parseCmd n ls = some (c, rest) →
      ls.map Lexeme.unquote = c.spell ++ rest.map Lexeme.unquote) ∧
    (∀ ls b rest, parseBlock n ls = some (b, rest) →
      ls.map Lexeme.unquote = b.spell ++ rest.map Lexeme.unquote) ∧
    ∀ ls e rest, parseElse n ls = some (e, rest) →
      ls.map Lexeme.unquote = e.spell ++ rest.map Lexeme.unquote := by
  induction n with
  | zero => exact ⟨nofun, nofun, nofun⟩
  | succ n ih =>
    obtain ⟨ihCmd, ihBlock, ihElse⟩ := ih
    -- By induction on the fuel that the three parsers share; a compound command goes through both others.
    refine ⟨fun ls c rest h => ?_, fun ls b rest h => ?_, fun ls e rest h => ?_⟩
    · rw [parseCmd] at h
      split at h
      · next ls₀ hif =>
        obtain ⟨⟨test, ls₁⟩, htest, h⟩ := Option.bind_eq_some_iff.mp h
        obtain ⟨ls₂, hthen, h⟩ := Option.bind_eq_some_iff.mp h
        obtain ⟨⟨body, ls₃⟩, hbody, h⟩ := Option.bind_eq_some_iff.mp h
        obtain ⟨⟨last, ls₄⟩, hlast, heq⟩ := Option.map_eq_some_iff.mp h
        cases heq
        rw [expect_eq_some hif, List.map_cons, spell_branches ihBlock ihElse htest hthen hbody hlast]
        rfl
      · split at h
        · cases h
        · cases h
          exact spell_parts ls
    · rw [parseBlock] at h
      obtain ⟨⟨c, ls₁⟩, hc, h⟩ := Option.bind_eq_some_iff.mp h
      have hcommand := ihCmd _ _ _ hc
      rw [spell_separator ls₁] at hcommand
      dsimp only at h
      split at h
      · cases h
        rw [hcommand, Block.spell, List.append_assoc]
      · obtain ⟨⟨b', ls₂⟩, hb, heq⟩ := Option.map_eq_some_iff.mp h
        cases heq
        rw [hcommand, ihBlock _ _ _ hb, Block.spell, List.append_assoc, List.append_assoc]
    · rw [parseElse] at h
      split at h
      · next ls₀ hfi =>
        cases h
        rw [expect_eq_some hfi]
        rfl
      · next ls₀ _ helse =>
        obtain ⟨⟨body, ls₁⟩, hbody, h⟩ := Option.bind_eq_some_iff.mp h
        obtain ⟨ls₂, hfi, heq⟩ := Option.map_eq_some_iff.mp h
        have hend : ls₁ = keyword "fi" :: ls₂ := expect_eq_some hfi
        cases heq
        rw [expect_eq_some helse, List.map_cons, ihBlock _ _ _ hbody, hend, List.map_cons, Else.spell,
          List.cons_append, List.append_assoc]
        rfl
      · next ls₀ _ _ helif =>
        obtain ⟨⟨test, ls₁⟩, htest, h⟩ := Option.bind_eq_some_iff.mp h
        obtain ⟨ls₂, hthen, h⟩ := Option.bind_eq_some_iff.mp h
        obtain ⟨⟨body, ls₃⟩, hbody, h⟩ := Option.bind_eq_some_iff.mp h
        obtain ⟨⟨last, ls₄⟩, hlast, heq⟩ := Option.map_eq_some_iff.mp h
        cases heq
        rw [expect_eq_some helif, List.map_cons, spell_branches ihBlock ihElse htest hthen hbody hlast]
        rfl
      · cases h

/-- **A program is spelled by the tokens it is read from.** -/
theorem spell_parse {ls : List Lexeme} {b : Block} (h : parse ls = some b) :
    ls.map Lexeme.unquote = b.spell := by
  obtain ⟨⟨b', rest⟩, hblock, hend⟩ := Option.bind_eq_some_iff.mp h
  split at hend
  · next hrest =>
    cases hend
    rw [(spell_parse_aux _).2.1 _ _ _ hblock, show rest = [] from hrest, List.map_nil, List.append_nil]
  · cases hend

/-- All tokens have a meaning. -/
theorem lexemes_eq_some {ts : List Token} : ∀ {ls : List Lexeme},
    lexemes ts = some ls ↔ ts.map Token.lexeme = ls.map some := by
  induction ts with
  | nil =>
    intro ls
    cases ls with
    | nil => simp [lexemes]
    | cons l ls => simp [lexemes]
  | cons t ts ih =>
    intro ls
    rw [lexemes, Option.bind_eq_some_iff]
    constructor
    · rintro ⟨l, hl, hrest⟩
      obtain ⟨ls', hls, rfl⟩ := Option.map_eq_some_iff.mp hrest
      rw [List.map_cons, List.map_cons, hl, ih.mp hls]
    · intro h
      cases ls with
      | nil => cases h
      | cons l ls =>
        obtain ⟨hl, hls⟩ := List.cons.inj h
        exact ⟨l, hl, Option.map_eq_some_iff.mpr ⟨ls, ih.mpr hls, rfl⟩⟩

/-- What a token says, whatever is quoted. -/
def Token.meaning (t : Token) : Option Lexeme := t.lexeme.map Lexeme.unquote

/-- The tokens of a text that is read. -/
theorem tokens_of_readText {s : String} {b : Block} (h : readText s = some b) :
    ∃ ts, tokens s = some ts ∧ ts.map Token.meaning = b.spell.map some := by
  obtain ⟨ls, hls, hparse⟩ := Option.bind_eq_some_iff.mp h
  obtain ⟨ts, hts, hmap⟩ := Option.bind_eq_some_iff.mp hls
  refine ⟨ts, hts, ?_⟩
  have hmeaning : ts.map Token.meaning = (ts.map Token.lexeme).map (Option.map Lexeme.unquote) := by
    rw [List.map_map]
    rfl
  rw [hmeaning, lexemes_eq_some.mp hmap, ← spell_parse hparse, List.map_map, List.map_map]
  rfl

/-! ## What the tokens of a spelling cost -/

/-- The least charge of a token that says this. -/
def Lexeme.charge : Lexeme → Nat
  | .word s _ | .number s => s.length + 1
  | .op o => o.length - 1
  | .newline => 0

theorem length_chars (w : Word) : w.chars.length ≤ w.length := List.length_filterMap_le _ _

/-- A token costs what it says, at least. -/
theorem charge_meaning {t : Token} {l : Lexeme} (h : t.meaning = some l) : l.charge ≤ t.charge := by
  obtain ⟨l', hl', rfl⟩ := Option.map_eq_some_iff.mp h
  cases t with
  | word w =>
    obtain ⟨s, hs, rfl⟩ := Option.map_eq_some_iff.mp hl'
    rw [Word.literal] at hs
    split at hs
    · cases hs
    · cases hs
      simp only [Lexeme.unquote, Lexeme.charge, Token.charge, String.length_ofList]
      exact Nat.succ_le_succ (length_chars w)
  | number w =>
    cases hl'
    simp only [Lexeme.unquote, Lexeme.charge, Token.charge, String.length_ofList]
    exact Nat.succ_le_succ (length_chars w)
  | op o =>
    cases hl'
    exact Nat.le_refl _
  | newline =>
    cases hl'
    exact Nat.le_refl _

/-- The meanings need no more characters than the tokens. -/
theorem charge_meanings {ts : List Token} : ∀ {ls : List Lexeme}, ts.map Token.meaning = ls.map some →
    (ls.map Lexeme.charge).sum ≤ charge ts := by
  induction ts with
  | nil =>
    intro ls h
    cases ls with
    | nil => exact Nat.le_refl _
    | cons l ls => cases h
  | cons t ts ih =>
    intro ls h
    cases ls with
    | nil => cases h
    | cons l ls =>
      obtain ⟨ht, hts⟩ := List.cons.inj h
      rw [List.map_cons, List.sum_cons, charge_cons]
      exact Nat.add_le_add (charge_meaning ht) (ih hts)

/-- A word without quotes costs what it says. -/
theorem quote_not_mem {w : Word} {s : String} (hs : w.literal = some s) (hlen : w.length ≤ s.length) :
    .quote ∉ w := by
  intro hquote
  rw [Word.literal] at hs
  split at hs
  · cases hs
  · cases hs
    rw [String.length_ofList] at hlen
    have hlt : w.chars.length < w.length :=
      List.length_filterMap_lt_length_iff_exists.mpr ⟨.quote, hquote, rfl⟩
    omega

/-- **Tight words are plain**: words that cost no more than what they say are not quoted. -/
theorem plain_of_charge {ts : List Token} : ∀ {names : List String},
    ts.map Token.meaning = (names.map keyword).map some → (∀ t ∈ ts, t.Read) →
    charge ts ≤ (names.map fun n => n.length + 1).sum → ∀ n ∈ names, PlainWord n := by
  induction ts with
  | nil =>
    intro names h _ _
    cases names with
    | nil => exact nofun
    | cons n names => cases h
  | cons t ts ih =>
    intro names h hread hcharge
    cases names with
    | nil => cases h
    | cons n names =>
      obtain ⟨ht, hts⟩ := List.cons.inj h
      obtain ⟨hreadT, hreadTs⟩ := List.forall_mem_cons.mp hread
      have hrest := charge_meanings hts
      have hone := charge_meaning ht
      rw [List.map_map] at hrest
      have hsum : (names.map (Lexeme.charge ∘ keyword)).sum = (names.map fun n => n.length + 1).sum := rfl
      rw [charge_cons, List.map_cons, List.sum_cons] at hcharge
      have hcost : (keyword n).charge = n.length + 1 := rfl
      obtain ⟨w, rfl, hs⟩ : ∃ w, t = .word w ∧ w.literal = some n := by
        obtain ⟨l, hl, heq⟩ := Option.map_eq_some_iff.mp ht
        cases t with
        | word w =>
          obtain ⟨s, hs, rfl⟩ := Option.map_eq_some_iff.mp hl
          cases heq
          exact ⟨w, rfl, hs⟩
        | _ =>
          cases hl
          cases heq
      have hword : Token.charge (.word w) = w.length + 1 := rfl
      rw [List.forall_mem_cons]
      exact ⟨hreadT.1.plain (quote_not_mem hs (by omega)) hreadT.2 hs, ih hts hreadTs (by omega)⟩

/-! ## Reading what is spelled -/

/-- A plain word is a keyword if it spells one. -/
theorem PlainWord.lexeme {s : String} (h : PlainWord s) :
    Token.lexeme (.word (bareWord s)) = some (keyword s) := by
  have hquote : (bareWord s).contains .quote = false := by
    rw [Bool.eq_false_iff, Ne, List.contains_iff_mem]
    intro hin
    obtain ⟨c, -, hc⟩ := List.mem_map.mp hin
    cases hc
  have hlexeme : Token.lexeme (.word (bareWord s)) =
      (bareWord s).literal.map fun t => .word t (!(bareWord s).contains .quote) := rfl
  rw [hlexeme, h.literal, hquote]
  rfl

/-- The redirections of a command are redirections. -/
def Part.Valid : Part → Prop
  | .word _ => True
  | .redirect _ o _ => o.isRedirect = true

theorem expect_keyword (s : String) (ls : List Lexeme) : expect s (keyword s :: ls) = some ls := if_pos rfl

theorem expect_other {s s' : String} (h : s' ≠ s) (ls : List Lexeme) :
    expect s (keyword s' :: ls) = none := if_neg h

/-- The parts of a command, however its words are quoted, up to a semicolon or the end. -/
theorem parts_spell {ls : List Lexeme} (hls : parts ls = ([], ls)) {ps : List Part} :
    (∀ p ∈ ps, p.Valid) → ∀ {ks : List Lexeme}, ks.map Lexeme.unquote = ps.flatMap Part.spell →
      parts (ks ++ ls) = (ps, ls) := by
  induction ps with
  | nil =>
    intro _ ks hks
    obtain rfl := List.map_eq_nil_iff.mp hks
    exact hls
  | cons p ps ih =>
    intro h ks hks
    obtain ⟨hp, hps⟩ := List.forall_mem_cons.mp h
    rw [List.flatMap_cons] at hks
    obtain ⟨ks₁, ks₂, rfl, hspell, hrest⟩ := List.map_eq_append_iff.mp hks
    have hparts := ih hps hrest
    rw [List.append_assoc]
    -- A word is one lexeme, a redirection two, or three with the number of its file.
    match p, hp with
    | .word s, _ =>
      obtain ⟨l, rfl, hl⟩ := List.map_eq_singleton_iff.mp hspell
      cases l with
      | word t b =>
        cases hl
        simp only [List.cons_append, List.nil_append, parts, hparts]
      | _ => cases hl
    | .redirect none o target, hredirect =>
      obtain ⟨l₁, ks', rfl, hl₁, hks'⟩ := List.map_eq_cons_iff.mp hspell
      obtain ⟨l₂, rfl, hl₂⟩ := List.map_eq_singleton_iff.mp hks'
      cases l₁ <;> cases hl₁
      cases l₂ <;> cases hl₂
      have hop : o.isRedirect = true := hredirect
      simp only [List.cons_append, List.nil_append, parts, hop, if_true, hparts]
    | .redirect (some fd) o target, hredirect =>
      obtain ⟨l₀, ks'', rfl, hl₀, hks''⟩ := List.map_eq_cons_iff.mp hspell
      obtain ⟨l₁, ks', rfl, hl₁, hks'⟩ := List.map_eq_cons_iff.mp hks''
      obtain ⟨l₂, rfl, hl₂⟩ := List.map_eq_singleton_iff.mp hks'
      cases l₀ <;> cases hl₀
      cases l₁ <;> cases hl₁
      cases l₂ <;> cases hl₂
      have hop : o.isRedirect = true := hredirect
      simp only [List.cons_append, List.nil_append, parts, hop, if_true, hparts]

/-- A simple command whose name is not reserved. -/
theorem parseCmd_simple {name : String} {ps : List Part} {ks ls : List Lexeme}
    (hname : name ∉ reservedWords) (h : ∀ p ∈ ps, p.Valid)
    (hks : ks.map Lexeme.unquote = ps.flatMap Part.spell) (hls : parts ls = ([], ls)) (n : Nat) :
    parseCmd (n + 1) (keyword name :: ks ++ ls) = some (.simple (.word name :: ps), ls) := by
  have hif : expect "if" (keyword name :: ks ++ ls) = none := by
    refine expect_other (fun heq => hname ?_) (ks ++ ls)
    rw [heq]
    decide
  have hstart : startsReserved (keyword name :: ks ++ ls) = false :=
    Bool.eq_false_iff.mpr fun hin => hname (List.contains_iff_mem.mp hin)
  have hparts : parts (keyword name :: ks ++ ls) = (.word name :: ps, ls) := by
    have hrest := parts_spell hls h hks
    simp only [keyword, List.cons_append, parts, hrest]
  rw [parseCmd, hif, hparts, hstart]
  rfl

/-- A simple command with its semicolon. -/
theorem parseBlock_simple {name : String} {ps : List Part} {ks ls : List Lexeme}
    (hname : name ∉ reservedWords) (h : ∀ p ∈ ps, p.Valid)
    (hks : ks.map Lexeme.unquote = ps.flatMap Part.spell) (hls : newlines ls = (0, ls)) (n : Nat) :
    parseBlock (n + 2) (keyword name :: ks ++ .op .semi :: ls) =
      if blockEnds ls then some (.last (.simple (.word name :: ps)) ⟨true, 0⟩, ls)
      else (parseBlock (n + 1) ls).map fun b =>
        (.cons (.simple (.word name :: ps)) ⟨true, 0⟩ b.1, b.2) := by
  have hstop : parts (.op .semi :: ls) = ([], .op .semi :: ls) := by
    cases ls with
    | nil => rfl
    | cons l ls => cases l <;> rfl
  have hsep : separator (.op .semi :: ls) = (⟨true, 0⟩, ls) := by
    show ((⟨true, (newlines ls).1⟩ : Sep), (newlines ls).2) = _
    rw [hls]
  rw [parseBlock, parseCmd_simple hname h hks hstop n, Option.bind_some, hsep]
  simp

section Branches

variable {n : Nat} {ls ls₁ ls₂ ls₃ : List Lexeme} {test body : Block} {rest : Else}

/-- An `if`, by its parts. -/
theorem parseCmd_if (htest : parseBlock n ls = some (test, keyword "then" :: ls₁))
    (hbody : parseBlock n ls₁ = some (body, ls₂)) (hrest : parseElse n ls₂ = some (rest, ls₃)) :
    parseCmd (n + 1) (keyword "if" :: ls) = some (.cond test body rest, ls₃) := by
  rw [parseCmd, expect_keyword]
  dsimp only
  rw [htest, Option.bind_some, expect_keyword, Option.bind_some, hbody, Option.bind_some, hrest]
  rfl

/-- An `elif`, by its parts. -/
theorem parseElse_elif (htest : parseBlock n ls = some (test, keyword "then" :: ls₁))
    (hbody : parseBlock n ls₁ = some (body, ls₂)) (hrest : parseElse n ls₂ = some (rest, ls₃)) :
    parseElse (n + 1) (keyword "elif" :: ls) = some (.elif test body rest, ls₃) := by
  have hfi : expect "fi" (keyword "elif" :: ls) = none := expect_other (by decide) ls
  have helse : expect "else" (keyword "elif" :: ls) = none := expect_other (by decide) ls
  rw [parseElse, hfi, helse, expect_keyword]
  dsimp only
  rw [htest, Option.bind_some, expect_keyword, Option.bind_some, hbody, Option.bind_some, hrest]
  rfl

end Branches

end Dtsys.Shell
