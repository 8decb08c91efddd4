/-
  THE UPDATE COMMAND, as a shell reads it.

  `_build_update_command` puts the names of packages between blanks into a program of the shell, in one
  place for macOS and in two for Linux.  `updateProgram` is the program it means: the package manager, with
  the names as its last arguments.

  The names are not quoted.  So the shell reads that program if and only if every name is a plain word
  (`intact_iff`).  For a name that is not plain, the tokens would cost more than there is text.

  1. The text: `toList_macos`, `toList_linux`; the names stand between fixed texts.
  2. Plain names: a token for each, and the fixed texts have tokens of their own, so the parser of
     `Dtsys.Lib.ShellGrammar` gives the program that is meant (`intact_macos`, `intact_linux`).
  3. Names that are not plain: each token is paid for with the characters it was read from, and a quote or an
     escape costs a character that no token gets.  So the text of the names does not pay for all of them
     (`charge_names`), nor does the text behind it for those that are still to come (`not_swallowed`).
  4. `intact_iff` — both directions.
-/
import Dtsys.Lib.ShellGrammar
import Dtsys.Server.Commands

namespace Dtsys

namespace Server

open Shell

/-! ## The program that is meant -/

/-- `command -v <tool> >/dev/null 2>&1;` -/
def foundTool (tool : String) : Block :=
  .last (.simple [.word "command", .word "-v", .word tool, .redirect none .great "/dev/null",
    .redirect (some "2") .greatAnd "1"]) ⟨true, 0⟩

/-- A command with the names as its last arguments. -/
def withNames (command : String) (options names : List String) : Cmd :=
  .simple (.word command :: (options ++ names).map Part.word)

/-- What `_build_update_command` means, but for Windows. -/
def updateProgram (osType : String) (names : List String) : Block :=
  if osType = "macos" then .last (withNames "brew" ["upgrade"] names) ⟨false, 0⟩
  else .last (.cond (foundTool "apt-get")
    (.last (withNames "apt-get" ["install", "-y"] names) ⟨true, 0⟩)
    (.elif (foundTool "dnf") (.last (withNames "dnf" ["update", "-y"] names) ⟨true, 0⟩)
      (.els (.cons (.simple [.word "echo", .word "No supported package manager found"]) ⟨true, 0⟩
        (.last (.simple [.word "exit", .word "1"]) ⟨true, 0⟩))))) ⟨false, 0⟩

/-- The shell reads the program that is meant. -/
def Intact (osType : String) (names : List String) : Prop :=
  readText (buildUpdateCommand osType names) = some (updateProgram osType names)

/-! ## Names between blanks -/

/-- `" ".join(packages)` -/
def joined (names : List String) : List Char := (" ".intercalate names).toList

theorem joined_cons (n n' : String) (names : List String) :
    joined (n :: n' :: names) = n.toList ++ ' ' :: joined (n' :: names) := by
  rw [joined, String.intercalate_cons_cons, String.toList_append, String.toList_append, List.append_assoc]
  rfl

/-- A space or the end after each name. -/
theorem length_joined : ∀ {names : List String}, names ≠ [] →
    (joined names).length + 1 = (names.map fun n => n.length + 1).sum := by
  intro names
  induction names with
  | nil => exact fun h => absurd rfl h
  | cons n names ih =>
    intro _
    cases names with
    | nil =>
      rw [joined, String.intercalate_singleton, String.length_toList]
      rfl
    | cons n' names =>
      have hrest := ih (List.cons_ne_nil _ _)
      rw [joined_cons, List.length_append, List.length_cons, String.length_toList, List.map_cons,
        List.sum_cons]
      omega

/-- Plain names are read as one word each. -/
theorem feed_joined : ∀ {names : List String}, (∀ n ∈ names, PlainWord n) →
    ∃ ts w, feed (.plain []) (joined names) = some (ts, .plain w) ∧
      ts ++ pending w = names.map fun n => .word (bareWord n) := by
  intro names
  induction names with
  | nil => exact fun _ => ⟨[], [], rfl, rfl⟩
  | cons n names ih =>
    intro h
    obtain ⟨hn, hnames⟩ := List.forall_mem_cons.mp h
    have hne : bareWord n ≠ [] := fun hnil => hn.nonempty (List.map_eq_nil_iff.mp hnil)
    cases names with
    | nil =>
      refine ⟨[], bareWord n, ?_, pending_of_ne_nil hne⟩
      rw [joined, String.intercalate_singleton]
      exact hn.feed
    | cons n' names =>
      obtain ⟨ts, w, hfeed, hts⟩ := ih hnames
      refine ⟨.word (bareWord n) :: ts, w, ?_, by rw [List.cons_append, hts]; rfl⟩
      rw [joined_cons]
      refine feed_append _ hn.feed (feed_cons_eq_some.mpr ⟨[.word (bareWord n)], .plain [], ts, ?_, hfeed, rfl⟩)
      exact congrArg (fun ts => some (ts, Mode.plain [])) (pending_of_ne_nil hne)

/-- A semicolon ends the last name. -/
theorem feed_semi (w : Word) : feed (.plain w) [';'] = some (pending w, .op .semi) := by
  have hbefore : before .semi w = pending w := if_neg fun h => by simp at h
  have hstep : step (.plain w) ';' = some (pending w, .op .semi) := by
    rw [← hbefore]
    rfl
  exact feed_cons_eq_some.mpr ⟨pending w, .op .semi, [], hstep, rfl, (List.append_nil _).symm⟩

/-! ## The texts around the names -/

/-- The command, up to the names. -/
def aptText : List Char :=
  "if command -v apt-get >/dev/null 2>&1; then apt-get install -y ".toList

/-- What comes after the semicolon of the first command. -/
def dnfText : List Char :=
  " elif command -v dnf >/dev/null 2>&1; then dnf update -y ".toList

/-- The command, behind the names. -/
def elseText : List Char :=
  " else echo 'No supported package manager found'; exit 1; fi".toList

/-- The command for brew. -/
def brewText : List Char := "brew upgrade ".toList

theorem toList_macos (names : List String) :
    (buildUpdateCommand "macos" names).toList = brewText ++ joined names := by
  rw [buildUpdateCommand, if_neg (by decide), if_pos rfl, String.toList_append]
  rfl

/-- The command for Linux, with the names twice. -/
theorem toList_linux {osType : String} (hwindows : osType ≠ "windows") (hmacos : osType ≠ "macos")
    (names : List String) : (buildUpdateCommand osType names).toList =
      aptText ++ (joined names ++ ';' :: (dnfText ++ (joined names ++ ';' :: elseText))) := by
  rw [buildUpdateCommand, if_neg hwindows, if_neg hmacos]
  simp only [String.toList_append, List.append_assoc]
  rfl

/-- The lexemes of words. -/
def keywords (ws : List String) : List Lexeme := ws.map keyword

/-- How a shell reads the beginning of the command for macOS. -/
theorem feed_brewText : ∃ ts, feed (.plain []) brewText = some (ts, .plain []) ∧
    ts.map Token.lexeme = (keywords ["brew", "upgrade"]).map some :=
  ⟨_, rfl, rfl⟩

/-- The lexemes in front of the first names. -/
def aptLexemes : List Lexeme :=
  keyword "if" :: ((foundTool "apt-get").spell ++ keywords ["then", "apt-get", "install", "-y"])

/-- The lexemes between the first names and the second. -/
def dnfLexemes : List Lexeme :=
  keyword "elif" :: ((foundTool "dnf").spell ++ keywords ["then", "dnf", "update", "-y"])

/-- The lexemes after the second names. -/
def elseLexemes : List Lexeme :=
  [keyword "else", keyword "echo", .word "No supported package manager found" false, .op .semi,
    keyword "exit", keyword "1", .op .semi, keyword "fi"]

/-- The beginning of the command for Linux. -/
theorem feed_aptText : ∃ ts, feed (.plain []) aptText = some (ts, .plain []) ∧
    ts.map Token.lexeme = aptLexemes.map some :=
  ⟨_, rfl, rfl⟩

/-- After the blank. -/
theorem feed_dnfText_tail : ∃ ts, feed (.plain []) dnfText.tail = some (ts, .plain []) ∧
    ts.map Token.lexeme = dnfLexemes.map some :=
  ⟨_, rfl, rfl⟩

/-- Its middle, up to the second list of names. -/
theorem feed_dnfText : ∃ ts, feed (.op .semi) dnfText = some (.op .semi :: ts, .plain []) ∧
    ts.map Token.lexeme = dnfLexemes.map some := by
  obtain ⟨ts, hfeed, hts⟩ := feed_dnfText_tail
  exact ⟨ts, feed_cons_eq_some.mpr ⟨[.op .semi], .plain [], ts, rfl, hfeed, rfl⟩, hts⟩

theorem scan_elseText : ∃ ts, scan (.op .semi) elseText = some ts ∧
    ts.map Token.lexeme = (.op .semi :: elseLexemes).map some :=
  ⟨_, rfl, rfl⟩

/-! ## Plain names -/

theorem parts_words (ws : List String) : (ws.map Part.word).flatMap Part.spell = keywords ws := by
  rw [List.flatMap_map]
  exact List.map_eq_flatMap.symm

theorem unquote_keywords (ws : List String) : (keywords ws).map Lexeme.unquote = keywords ws := by
  rw [keywords, List.map_map]
  rfl

theorem valid_words (ws : List String) : ∀ p ∈ ws.map Part.word, p.Valid := by
  intro p hp
  obtain ⟨w, -, rfl⟩ := List.mem_map.mp hp
  trivial

/-- `command -v <tool> >/dev/null 2>&1;`, in front of `then`. -/
theorem parse_foundTool (tool : String) (rest : List Lexeme) (n : Nat) :
    parseBlock (n + 2) ((foundTool tool).spell ++ keyword "then" :: rest) =
      some (foundTool tool, keyword "then" :: rest) := by
  let ps : List Part := [.word "-v", .word tool, .redirect none .great "/dev/null",
    .redirect (some "2") .greatAnd "1"]
  let ks : List Lexeme := [keyword "-v", keyword tool, .op .great, keyword "/dev/null", .number "2",
    .op .greatAnd, keyword "1"]
  have hname : "command" ∉ reservedWords := by decide
  have hvalid : ∀ p ∈ ps, p.Valid := by simp [ps, Part.Valid, Op.isRedirect]
  have hks : ks.map Lexeme.unquote = ps.flatMap Part.spell := rfl
  have hends : blockEnds (keyword "then" :: rest) = true := rfl
  have hrun := parseBlock_simple hname hvalid hks
    (show newlines (keyword "then" :: rest) = (0, keyword "then" :: rest) from rfl) n
  rw [if_pos hends] at hrun
  exact hrun

/-- A command with the names, in front of a reserved word that ends the list. -/
theorem parse_withNames {command : String} {options : List String} (names : List String)
    (hcommand : command ∉ reservedWords) {rest : List Lexeme} (hrest : newlines rest = (0, rest))
    (hends : blockEnds rest = true) (n : Nat) :
    parseBlock (n + 2) (keywords (command :: options) ++ (keywords names ++ .op .semi :: rest)) =
      some (.last (withNames command options names) ⟨true, 0⟩, rest) := by
  have hks : (keywords (options ++ names)).map Lexeme.unquote =
      ((options ++ names).map Part.word).flatMap Part.spell := by
    rw [unquote_keywords, parts_words]
  have hlist : keywords (command :: options) ++ (keywords names ++ .op .semi :: rest) =
      keyword command :: keywords (options ++ names) ++ .op .semi :: rest := by
    simp [keywords]
  rw [hlist, parseBlock_simple hcommand (valid_words _) hks hrest n, if_pos hends]
  rfl

/-- What is done when there is no package manager. -/
theorem parse_else (n : Nat) : parseElse (n + 5) elseLexemes =
    some (.els (.cons (.simple [.word "echo", .word "No supported package manager found"]) ⟨true, 0⟩
      (.last (.simple [.word "exit", .word "1"]) ⟨true, 0⟩)), []) := rfl

/-- The tokens of the whole text for Linux. -/
def linuxLexemes (names : List String) : List Lexeme :=
  aptLexemes ++ (keywords names ++ .op .semi :: (dnfLexemes ++ (keywords names ++ .op .semi :: elseLexemes)))

/-- The command for Linux is parsed as the program it is meant to be. -/
theorem parse_linux (names : List String) (n : Nat) :
    parseBlock (n + 9) (linuxLexemes names) = some (updateProgram "linux" names, []) := by
  have hdnf : "dnf" ∉ reservedWords := by decide
  have hapt : "apt-get" ∉ reservedWords := by decide
  let secondNames := keywords names ++ .op .semi :: elseLexemes
  have hrest := parseElse_elif
    (parse_foundTool "dnf" (keywords ["dnf", "update", "-y"] ++ secondNames) (n + 4))
    (parse_withNames names hdnf (show newlines elseLexemes = (0, elseLexemes) from rfl) rfl (n + 4))
    (parse_else (n + 1))
  have hfirst := parseCmd_if
    (parse_foundTool "apt-get" (keywords ["apt-get", "install", "-y"] ++ (keywords names ++ .op .semi ::
      (dnfLexemes ++ secondNames))) (n + 5))
    (parse_withNames names hapt
      (show newlines (dnfLexemes ++ secondNames) = (0, dnfLexemes ++ secondNames) from rfl) rfl (n + 5))
    hrest
  have hcmd : parseCmd (n + 8) (linuxLexemes names) = _ := hfirst
  rw [parseBlock, hcmd]
  rfl

/-- So is the one for macOS. -/
theorem parse_macos (names : List String) (n : Nat) :
    parseBlock (n + 2) (keywords ("brew" :: "upgrade" :: names)) = some (updateProgram "macos" names, []) := by
  have hbrew : "brew" ∉ reservedWords := by decide
  have hks : (keywords ("upgrade" :: names)).map Lexeme.unquote =
      (("upgrade" :: names).map Part.word).flatMap Part.spell := by
    rw [unquote_keywords, parts_words]
  have hcmd := parseCmd_simple hbrew (valid_words _) hks (show parts [] = ([], []) from rfl) n
  rw [List.append_nil] at hcmd
  have hwhole : parseCmd (n + 1) (keywords ("brew" :: "upgrade" :: names)) = _ := hcmd
  rw [parseBlock, hwhole]
  rfl

/-- The words of plain names. -/
theorem lexeme_names {names : List String} (h : ∀ n ∈ names, PlainWord n) :
    (names.map fun n => Token.word (bareWord n)).map Token.lexeme = (keywords names).map some := by
  rw [keywords, List.map_map, List.map_map]
  exact List.map_congr_left fun n hn => (h n hn).lexeme

/-- The names and the semicolon after them. -/
theorem feed_names {names : List String} (h : ∀ n ∈ names, PlainWord n) :
    feed (.plain []) (joined names ++ [';']) =
      some (names.map (fun n => .word (bareWord n)), .op .semi) := by
  obtain ⟨ts, w, hfeed, hts⟩ := feed_joined h
  rw [← hts]
  exact feed_append _ hfeed (feed_semi w)

/-- A text is read as a program when its lexemes are. -/
theorem readText_of_tokens {text : String} {ts : List Token} (ls : List Lexeme) {b : Block}
    (htokens : tokens text = some ts) (hlexemes : ts.map Token.lexeme = ls.map some)
    (hparse : parseBlock (ls.length + 1) ls = some (b, [])) : readText text = some b := by
  rw [readText, htokens, Option.bind_some, lexemes_eq_some.mpr hlexemes, Option.bind_some, parse, hparse]
  rfl

/-- Plain names are kept whole on macOS. -/
theorem intact_macos {names : List String} (h : ∀ n ∈ names, PlainWord n) : Intact "macos" names := by
  obtain ⟨ts₁, hfeed, hts₁⟩ := feed_brewText
  obtain ⟨ts₂, w, hnames, hts₂⟩ := feed_joined h
  have htokens : tokens (buildUpdateCommand "macos" names) =
      some ((ts₁ ++ ts₂) ++ pending w) := by
    rw [tokens, toList_macos]
    exact scan_eq_some.mpr ⟨_, _, _, feed_append _ hfeed hnames, rfl, rfl⟩
  have hlen : (keywords ("brew" :: "upgrade" :: names)).length = names.length + 2 := List.length_map _
  refine readText_of_tokens (keywords ("brew" :: "upgrade" :: names)) htokens ?_ ?_
  · rw [List.append_assoc, hts₂, List.map_append, hts₁, lexeme_names h, ← List.map_append]
    rfl
  · rw [hlen]
    exact parse_macos names (names.length + 1)

/-- And everywhere else, where they occur twice. -/
theorem intact_linux {osType : String} (hwindows : osType ≠ "windows") (hmacos : osType ≠ "macos")
    {names : List String} (h : ∀ n ∈ names, PlainWord n) : Intact osType names := by
  obtain ⟨ts₁, hapt, hts₁⟩ := feed_aptText
  obtain ⟨ts₂, hdnf, hts₂⟩ := feed_dnfText
  obtain ⟨ts₃, helse, hts₃⟩ := scan_elseText
  have hnames := feed_names h
  have hlexemes := lexeme_names h
  let ns : List Token := names.map fun n => .word (bareWord n)
  have htokens : tokens (buildUpdateCommand osType names) =
      some (ts₁ ++ (ns ++ (.op .semi :: ts₂ ++ (ns ++ ts₃)))) := by
    rw [tokens, toList_linux hwindows hmacos]
    have hlast : scan (.plain []) (joined names ++ [';'] ++ elseText) = some (ns ++ ts₃) :=
      (scan_append_eq_some _).mpr ⟨ns, .op .semi, ts₃, hnames, helse, rfl⟩
    have hmiddle : scan (.op .semi) (dnfText ++ (joined names ++ [';'] ++ elseText)) =
        some (.op .semi :: ts₂ ++ (ns ++ ts₃)) :=
      (scan_append_eq_some _).mpr ⟨.op .semi :: ts₂, .plain [], _, hdnf, hlast, rfl⟩
    have hfirst : scan (.plain []) (joined names ++ [';'] ++ (dnfText ++ (joined names ++ [';'] ++ elseText))) =
        some (ns ++ (.op .semi :: ts₂ ++ (ns ++ ts₃))) :=
      (scan_append_eq_some _).mpr ⟨ns, .op .semi, _, hnames, hmiddle, rfl⟩
    rw [List.append_assoc, List.append_assoc] at hfirst
    exact (scan_append_eq_some _).mpr ⟨ts₁, .plain [], _, hapt, hfirst, rfl⟩
  have hlen : 8 ≤ (linuxLexemes names).length := by
    have hapt : aptLexemes.length = 14 := rfl
    rw [linuxLexemes, List.length_append]
    omega
  have hprogram : updateProgram osType names = updateProgram "linux" names := by
    unfold updateProgram
    rw [if_neg hmacos, if_neg (by decide)]
  rw [Intact, hprogram]
  refine readText_of_tokens (linuxLexemes names) htokens ?_ ?_
  · rw [linuxLexemes]
    simp only [List.map_append, List.map_cons, hts₁, hts₂, hts₃, ns, hlexemes, List.cons_append]
    rfl
  · obtain ⟨n, hn⟩ := Nat.exists_eq_add_of_le' hlen
    rw [hn]
    exact parse_linux names n

/-! ## Names that are not plain -/

/-- What the tokens mean is what the lexemes say. -/
theorem meaning_of_lexeme {ts : List Token} {ls : List Lexeme} (h : ts.map Token.lexeme = ls.map some) :
    ts.map Token.meaning = (ls.map Lexeme.unquote).map some := by
  have hmap : ts.map Token.meaning = (ts.map Token.lexeme).map (Option.map Lexeme.unquote) := by
    rw [List.map_map]
    rfl
  rw [hmap, h, List.map_map, List.map_map]
  rfl

/-- The least cost of lexemes. -/
def cost (ls : List Lexeme) : Nat := (ls.map Lexeme.charge).sum

theorem cost_append (ls ls' : List Lexeme) : cost (ls ++ ls') = cost ls + cost ls' := by
  simp [cost]

/-- Names cost as much as they take between blanks, with one character more. -/
theorem cost_keywords {names : List String} (h : names ≠ []) :
    cost (keywords names) = (joined names).length + 1 := by
  rw [length_joined h]
  rw [cost, keywords, List.map_map]
  rfl

/-- The first operator after words. -/
theorem op_eq_of_keywords {o o' : Op} {ls ls' : List (Option Lexeme)} : ∀ {xs ys : List String},
    (keywords xs).map some ++ some (.op o) :: ls = (keywords ys).map some ++ some (.op o') :: ls' →
      o = o' := by
  intro xs
  induction xs with
  | nil =>
    intro ys h
    cases ys with
    | nil =>
      cases h
      rfl
    | cons y ys => cases h
  | cons x xs ih =>
    intro ys h
    cases ys with
    | nil => cases h
    | cons y ys => exact ih (List.cons.inj h).2

theorem dnfText_calm : ∀ c ∈ ';' :: dnfText, c ∉ quoteChars := by
  have hall : (';' :: dnfText).all (fun c => !quoteChars.elem c) = true := rfl
  intro c hc hquote
  have hnot := List.all_eq_true.mp hall c hc
  rw [List.elem_iff.mpr hquote] at hnot
  cases hnot

section Names

variable {names : List String} {rest : List Char} {after : List Lexeme}

/-- What has been read when the text of the names ends is not all that they cost. -/
theorem charge_names {ts : List Token} {m : Mode} (hne : names ≠ [])
    (hfeed : feed (.plain []) (joined names) = some (ts, m)) (ls : List (Option Lexeme)) :
    ts.map Token.meaning ≠ (keywords names).map some ++ ls := by
  intro heq
  obtain ⟨ts₁, ts₂, rfl, hnames, -⟩ := List.map_eq_append_iff.mp heq
  have hcost := charge_meanings hnames
  have hread := charge_feed _ hfeed
  have hkeywords := cost_keywords hne
  rw [charge_append] at hread
  rw [cost] at hkeywords
  simp only [Mode.read, List.length_nil] at hread
  omega

/-- So one of the names is still to come, or being read. -/
theorem names_to_come {ts₁ ts₂ : List Token} {m : Mode} {ls : List Lexeme} (hne : names ≠ [])
    (hfeed : feed (.plain []) (joined names) = some (ts₁, m))
    (hmeaning : (ts₁ ++ ts₂).map Token.meaning = (keywords names ++ ls).map some) :
    ∃ names₁ n names₂ t ts₃, names = names₁ ++ n :: names₂ ∧ ts₂ = t :: ts₃ ∧
      ts₁.map Token.meaning = (keywords names₁).map some ∧ t.meaning = some (keyword n) ∧
      ts₃.map Token.meaning = (keywords names₂ ++ ls).map some := by
  rw [List.map_append, List.map_append] at hmeaning
  rcases List.append_eq_append_iff.mp hmeaning with ⟨as, hnames, hts₂⟩ | ⟨bs, hts₁, -⟩
  · cases as with
    | nil =>
      rw [List.append_nil] at hnames
      exact absurd (hnames.symm.trans (List.append_nil _).symm) (charge_names hne hfeed [])
    | cons a as =>
      rw [keywords, List.map_map] at hnames
      obtain ⟨names₁, names', rfl, hts₁, hnames'⟩ := List.map_eq_append_iff.mp hnames
      obtain ⟨n, names₂, rfl, rfl, rfl⟩ := List.map_eq_cons_iff.mp hnames'
      obtain ⟨t, ts₃, rfl, ht, hts₃⟩ := List.map_eq_cons_iff.mp hts₂
      refine ⟨names₁, n, names₂, t, ts₃, rfl, rfl, ?_, ht, ?_⟩
      · rw [← hts₁, keywords, List.map_map]
      · rw [hts₃, List.map_append, keywords, List.map_map]
        rfl
  · exact absurd hts₁ (charge_names hne hfeed bs)

/-- Quotes that are open when the text of the names ends swallow the text after it: what is left does not
    pay for the tokens that are still to come. -/
theorem not_swallowed {m m' : Mode} {t : Token} {ts : List Token} {ls : List Lexeme}
    (hfeed : feed m (';' :: dnfText) = some ([], m')) (hm' : m'.InWord ∨ m' = .comment)
    (hmeaning : ts.map Token.meaning = ls.map some) (hcost : rest.length + 1 < cost ls) :
    scan m (';' :: dnfText ++ rest) ≠ some (t :: ts) := by
  intro hscan
  have hpaid := charge_meanings hmeaning
  obtain ⟨ts₁, m₁, ts₂, hfeed', hscan', hts⟩ := (scan_append_eq_some _).mp hscan
  rw [hfeed] at hfeed'
  cases hfeed'
  obtain rfl : t :: ts = ts₂ := hts
  rw [cost] at hcost
  rcases hm' with hword | rfl
  · have hbound := charge_tail rest hword hscan'
    rw [List.tail_cons] at hbound
    omega
  · have hbound := charge_scan hscan'
    simp only [charge_cons, Mode.read] at hbound
    omega

/-- Outside quotes the semicolon ends the last name. -/
theorem last_name {w : Word} {t : Token} {ts : List Token} {names₂ : List String}
    (hscan : scan (.plain w) (';' :: dnfText ++ rest) = some (t :: ts)) (ht : ∀ o : Op, t ≠ .op o)
    (hts : ts.map Token.meaning = (keywords names₂ ++ .op .semi :: (dnfLexemes ++ after)).map some) :
    t = .word w ∧ names₂ = [] := by
  obtain ⟨ts₁, m, ts₂, hfeed, hrest, heq⟩ := (scan_append_eq_some [';']).mp hscan
  rw [feed_semi] at hfeed
  cases hfeed
  obtain ⟨ts₃, m', ts₄, hdnf, -, rfl⟩ := (scan_append_eq_some dnfText).mp hrest
  obtain ⟨ts₅, hdnf', -⟩ := feed_dnfText
  rw [hdnf'] at hdnf
  cases hdnf
  by_cases hw : w = []
  · subst hw
    exact absurd (List.cons.inj heq).1 (ht .semi)
  · rw [pending_of_ne_nil hw] at heq
    obtain ⟨rfl, rfl⟩ := List.cons.inj heq
    refine ⟨rfl, ?_⟩
    cases names₂ with
    | nil => rfl
    | cons x names₂ => cases (List.cons.inj hts).1

/-- After a backslash the semicolon goes on with the word, and another operator comes first. -/
theorem not_escaped {w : Word} {t : Token} {ts : List Token} {names₂ : List String}
    (hts : ts.map Token.meaning = (keywords names₂ ++ .op .semi :: (dnfLexemes ++ after)).map some) :
    scan (.escape w) (';' :: dnfText ++ rest) ≠ some (t :: ts) := by
  intro hscan
  obtain ⟨ts₁, hdnf, hts₁⟩ := feed_dnfText_tail
  let w' : Word := w ++ [.quote, .quoted ';']
  have hw' : w' ≠ [] := List.append_ne_nil_of_right_ne_nil w (List.cons_ne_nil _ _)
  have hblank : feed (.plain w') dnfText = some (pending w' ++ ts₁, .plain []) :=
    feed_cons_eq_some.mpr ⟨pending w', .plain [], ts₁, rfl, hdnf, rfl⟩
  have hfeed : feed (.escape w) (';' :: dnfText) = some (pending w' ++ ts₁, .plain []) :=
    feed_cons_eq_some.mpr ⟨[], .plain w', pending w' ++ ts₁, rfl, hblank, rfl⟩
  obtain ⟨ts₂, m, ts₃, hfeed', -, heq⟩ := (scan_append_eq_some _).mp hscan
  rw [hfeed] at hfeed'
  cases hfeed'
  rw [pending_of_ne_nil hw'] at heq
  have hrest : ts = ts₁ ++ ts₃ := (List.cons.inj heq).2
  rw [hrest, List.map_append, meaning_of_lexeme hts₁, List.map_append] at hts
  have hop : Op.great = .semi :=
    op_eq_of_keywords (show (keywords ["elif", "command", "-v", "dnf"]).map some ++ _ = _ from hts)
  cases hop

/-- **The text of the names**: if what is read of it and of the text after it are the names and what is
    meant to follow, the names are plain. -/
theorem plain_of_scan {ts : List Token} (hcost : rest.length + 1 < cost (.op .semi :: (dnfLexemes ++ after)))
    (hscan : scan (.plain []) (joined names ++ (';' :: dnfText ++ rest)) = some ts)
    (hmeaning : ts.map Token.meaning = (keywords names ++ .op .semi :: (dnfLexemes ++ after)).map some) :
    ∀ n ∈ names, PlainWord n := by
  by_cases hne : names = []
  · rw [hne]
    exact List.forall_mem_nil _
  have hread := reads_scan _ (show Mode.Reads (.plain []) from Word.Read.nil) hscan
  obtain ⟨ts₁, m, ts₂, hfeed, hrest, rfl⟩ := (scan_append_eq_some _).mp hscan
  obtain ⟨names₁, n, names₂, t, ts₃, hnames, rfl, hts₁, ht, hts₃⟩ := names_to_come hne hfeed hmeaning
  have hlate : rest.length + 1 < cost (keywords names₂ ++ .op .semi :: (dnfLexemes ++ after)) := by
    rw [cost_append]
    omega
  have hnot : ∀ o : Op, t ≠ .op o := by
    rintro o rfl
    cases ht
  -- The names end in the middle of plain words, or in a mode that takes the separator behind them for text:
  -- then what is read of the rest costs more than the rest has characters.
  cases m with
  | plain w =>
    obtain ⟨rfl, rfl⟩ := last_name hrest hnot hts₃
    have hall : (ts₁ ++ [Token.word w]).map Token.meaning = (names.map keyword).map some := by
      rw [hnames, List.map_append, List.map_append, List.map_append, hts₁, List.map_singleton, ht]
      rfl
    refine plain_of_charge hall (fun t' ht' => hread t' ?_) ?_
    · rw [List.mem_append] at ht' ⊢
      exact ht'.imp_right fun hin => List.mem_cons.mpr (.inl (List.mem_singleton.mp hin))
    · have hpaid := charge_feed _ hfeed
      rw [← length_joined hne, charge_append]
      simp only [Mode.read, List.length_nil, charge_cons, charge_nil, Token.charge] at hpaid ⊢
      omega
  | escape w => exact absurd hrest (not_escaped hts₃)
  | single w =>
    refine absurd hrest (not_swallowed (feed_single dnfText_calm w) (.inl ?_) hts₃ hlate)
    exact List.append_ne_nil_of_right_ne_nil w (List.cons_ne_nil _ _)
  | double w =>
    refine absurd hrest (not_swallowed (feed_double dnfText_calm w) (.inl ?_) hts₃ hlate)
    exact List.append_ne_nil_of_right_ne_nil w (List.cons_ne_nil _ _)
  | doubleEscape w =>
    have hdouble := feed_double (fun c hc => dnfText_calm c (List.mem_cons_of_mem _ hc))
      (w ++ [.quoted '\\', .quoted ';'])
    have hall : feed (.doubleEscape w) (';' :: dnfText) = some ([], _) :=
      feed_cons_eq_some.mpr ⟨[], _, [], rfl, hdouble, rfl⟩
    have hword : w ++ [.quoted '\\', .quoted ';'] ≠ [] :=
      List.append_ne_nil_of_right_ne_nil w (List.cons_ne_nil _ _)
    exact absurd hrest
      (not_swallowed hall (.inl (List.append_ne_nil_of_left_ne_nil hword _)) hts₃ hlate)
  | comment =>
    exact absurd hrest (not_swallowed (feed_comment dnfText_calm) (.inr rfl) hts₃ hlate)
  | op o =>
    obtain ⟨o', ts', hts⟩ := scan_op _ (.inl hrest)
    exact absurd (List.cons.inj hts).1 (hnot o')
  | opEscape o =>
    obtain ⟨o', ts', hts⟩ := scan_op _ (.inr hrest)
    exact absurd (List.cons.inj hts).1 (hnot o')

end Names

/-- The tokens after the second names, however they are quoted. -/
def elseMeant : List Lexeme := elseLexemes.map Lexeme.unquote

theorem spell_linux (names : List String) : (updateProgram "linux" names).spell =
    aptLexemes ++ (keywords names ++ .op .semi :: (dnfLexemes ++ (keywords names ++ .op .semi :: elseMeant))) := by
  have hspell := (spell_parse_aux 9).2.1 _ _ _ (parse_linux names 0)
  rw [List.map_nil, List.append_nil] at hspell
  rw [← hspell]
  simp only [linuxLexemes, List.map_append, List.map_cons, unquote_keywords]
  rfl

theorem spell_macos (names : List String) : (updateProgram "macos" names).spell =
    keywords ["brew", "upgrade"] ++ keywords names := by
  have hspell := (spell_parse_aux 2).2.1 _ _ _ (parse_macos names 0)
  rw [List.map_nil, List.append_nil, unquote_keywords] at hspell
  exact hspell.symm

/-- The names of a command that is read as meant are plain. -/
theorem plain_of_intact_macos {names : List String} (h : Intact "macos" names) :
    ∀ n ∈ names, PlainWord n := by
  by_cases hne : names = []
  · rw [hne]
    exact List.forall_mem_nil _
  obtain ⟨ts, hscan, hmeaning⟩ := tokens_of_readText h
  rw [tokens, toList_macos] at hscan
  obtain ⟨ts₁, m, ts₂, hfeed, hrest, rfl⟩ := (scan_append_eq_some _).mp hscan
  obtain ⟨ts₃, hbrew, hts₃⟩ := feed_brewText
  rw [hbrew] at hfeed
  cases hfeed
  rw [spell_macos, List.map_append, List.map_append, meaning_of_lexeme hts₃, unquote_keywords] at hmeaning
  refine plain_of_charge (List.append_cancel_left hmeaning) ?_ ?_
  · exact reads_scan _ (show Mode.Reads (.plain []) from Word.Read.nil) hrest
  · rw [← length_joined hne]
    have hpaid := charge_scan hrest
    simpa [Mode.read] using hpaid

/-- The same where they occur twice. -/
theorem plain_of_intact_linux {osType : String} (hwindows : osType ≠ "windows") (hmacos : osType ≠ "macos")
    {names : List String} (h : Intact osType names) : ∀ n ∈ names, PlainWord n := by
  by_cases hne : names = []
  · rw [hne]
    exact List.forall_mem_nil _
  have hprogram : updateProgram osType names = updateProgram "linux" names := by
    unfold updateProgram
    rw [if_neg hmacos, if_neg (by decide)]
  obtain ⟨ts, hscan, hmeaning⟩ := tokens_of_readText h
  rw [tokens, toList_linux hwindows hmacos] at hscan
  obtain ⟨ts₁, m, ts₂, hfeed, hrest, rfl⟩ := (scan_append_eq_some _).mp hscan
  obtain ⟨ts₃, hapt, hts₃⟩ := feed_aptText
  rw [hapt] at hfeed
  cases hfeed
  have hunquote : aptLexemes.map Lexeme.unquote = aptLexemes := rfl
  rw [hprogram, spell_linux, List.map_append, List.map_append, meaning_of_lexeme hts₃, hunquote] at hmeaning
  refine plain_of_scan ?_ hrest (List.append_cancel_left hmeaning)
  have hdnf : cost (.op .semi :: dnfLexemes) = 54 := rfl
  have helse : cost (.op .semi :: elseMeant) = 55 := rfl
  have hlen : elseText.length = 59 := rfl
  have hnames := cost_keywords hne
  rw [← List.cons_append, cost_append, cost_append, hdnf, helse, List.length_append, List.length_cons, hlen]
  omega

/-! ## The update command -/

/-- **The update command**: a shell reads the program that is meant, with one argument for each name, if and
    only if every name is a plain word.

    If all names are plain the tokens can be computed.  The other direction counts: a shell that reads the intended
    tokens has used up the characters of the text, and there are none left for a quote, an operator or a comment. -/
theorem intact_iff {osType : String} (hwindows : osType ≠ "windows") (names : List String) :
    Intact osType names ↔ ∀ n ∈ names, PlainWord n := by
  by_cases hmacos : osType = "macos"
  · subst hmacos
    exact ⟨plain_of_intact_macos, intact_macos⟩
  · exact ⟨plain_of_intact_linux hwindows hmacos, intact_linux hwindows hmacos⟩

/-- Two packages of a Linux machine. -/
theorem intact_curl : Intact "linux" ["curl", "libc6"] :=
  (intact_iff (by decide) _).mpr
    (List.forall_mem_cons.mpr ⟨by decide, List.forall_mem_singleton.mpr (by decide)⟩)

/-- A name can bring a command of its own. -/
theorem name_runs :
    readText (buildUpdateCommand "macos" ["jq; reboot"]) =
      some (.cons (withNames "brew" ["upgrade"] ["jq"]) ⟨true, 0⟩
        (.last (.simple [.word "reboot"]) ⟨false, 0⟩)) ∧
    ¬ Intact "macos" ["jq; reboot"] := by
  have htokens : tokens (buildUpdateCommand "macos" ["jq; reboot"]) =
      some [.word (bareWord "brew"), .word (bareWord "upgrade"), .word (bareWord "jq"), .op .semi,
        .word (bareWord "reboot")] := by
    rw [tokens, toList_macos]
    rfl
  refine ⟨readText_of_tokens (keywords ["brew", "upgrade", "jq"] ++ [.op .semi, keyword "reboot"]) htokens
    rfl rfl, fun h => ?_⟩
  have hplain := plain_of_intact_macos h "jq; reboot" (List.mem_singleton.mpr rfl)
  exact absurd hplain (by decide)

end Server

end Dtsys
