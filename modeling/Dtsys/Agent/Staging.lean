/-
  `CheckAndUpdate` of the agent, with the FILES it touches (`updater/updater.go`).

  1. **Program** — `checkAndUpdate` in the order of the source, on the folder of the executable.  What the
     world answers is given (`World`): the response, whether each system call succeeds, how much of the
     download arrives.  Removing a file succeeds.

  2. **Specification** — `NoTrace`: without an update the executable is what it was and every file that was
     created is gone; with one the staged binary is the complete body.

  3. **The exits** — whatever fails before the platforms part is undone, and so is the rename of Linux and
     macOS.  `stageWindowsUpdate` undoes nothing: a rename that fails leaves the download, a script that cannot
     be written leaves the `.new` file (`no_trace_iff`).
-/
import Dtsys.Agent.Versions

namespace Dtsys

namespace Agent

namespace Staging

/-! ## Names -/

/-- `filepath.Ext` of a name without separators: from the last dot on. -/
def ext (name : GoString) : GoString :=
  if .char '.' ∈ name then .char '.' :: (name.reverse.takeWhile (· ≠ .char '.')).reverse else []

/-- `strings.TrimSuffix`. -/
def trimSuffix (suffix s : GoString) : GoString :=
  if suffix.isSuffixOf s then s.take (s.length - suffix.length) else s

/-- What `os.CreateTemp(dir, "dtsys-agent-update-*")` makes of a random number. -/
def tempName (random : Nat) : GoString :=
  GoString.ofString "dtsys-agent-update-" ++ (Nat.toDigits 10 random).map .char

/-- The base name of `newPath`. -/
def newName (exe : GoString) : GoString := trimSuffix (ext exe) exe ++ (GoString.ofString ".new" ++ ext exe)

/-- The batch file that replaces the executable on Windows. -/
def scriptName : GoString := .ofString "dtsys-update.bat"

/-- The new executable has an extension. -/
theorem dot_mem_newName (exe : GoString) : .char '.' ∈ newName exe := by
  refine List.mem_append_right _ (List.mem_append_left _ ?_)
  decide

theorem dot_not_mem_tempName (random : Nat) : .char '.' ∉ tempName random := by
  intro h
  rcases List.mem_append.mp h with h | h
  · revert h
    decide
  · obtain ⟨c, hc, heq⟩ := List.mem_map.mp h
    obtain rfl : c = '.' := GoRune.char.inj heq
    exact absurd (Nat.isDigit_of_mem_toDigits (by decide) (by decide) hc) (by decide)

theorem tempName_ne_newName (random : Nat) (exe : GoString) : tempName random ≠ newName exe :=
  fun h => dot_not_mem_tempName random (h ▸ dot_mem_newName exe)

/-- The new executable is not the script. -/
theorem newName_ne_scriptName (exe : GoString) : newName exe ≠ scriptName := by
  intro h
  have hinfix : GoString.ofString ".new" <:+: newName exe := ⟨_, _, List.append_assoc ..⟩
  rw [h] at hinfix
  revert hinfix
  decide

/-! ## Files -/

/-- What is in a file: downloaded bytes, or a text that was written. -/
inductive Content
  | data (bytes : List UInt8)
  | text (s : GoString)
  deriving DecidableEq

/-- The folder of the executable, and the files that were created in it. -/
structure Folder where
  files : GoString → Option Content
  created : List GoString

namespace Folder

/-- `f` has the given content, or is gone. -/
def set (s : Folder) (f : GoString) (c : Option Content) : Folder :=
  { s with files := Function.update s.files f c }

/-- `os.Remove`. -/
def remove (s : Folder) (f : GoString) : Folder := s.set f none

/-- The files created by a call that is about to write `f`. -/
def mark (s : Folder) (f : GoString) : Folder :=
  if s.files f = none then { s with created := f :: s.created } else s

/-- Create a file, or truncate it, and write to it. -/
def write (s : Folder) (f : GoString) (c : Content) : Folder := (s.mark f).set f (some c)

/-- `os.Rename`. -/
def rename (s : Folder) (f g : GoString) : Folder := ((s.mark g).remove f).set g (s.files f)

@[simp] theorem mark_files (s : Folder) (f : GoString) : (s.mark f).files = s.files := by
  rw [mark]
  split <;> rfl

/-- A file that was not there is one that the update has made. -/
theorem mem_mark (s : Folder) {f : GoString} (hf : s.files f = none) : f ∈ (s.mark f).created := by
  rw [mark, if_pos hf]
  exact List.mem_cons_self

theorem mem_mark_of_mem (s : Folder) {f g : GoString} (hg : g ∈ s.created) : g ∈ (s.mark f).created := by
  rw [mark]
  split
  · exact List.mem_cons_of_mem _ hg
  · exact hg

/-- A file that is removed is gone. -/
theorem remove_files (s : Folder) (f : GoString) : (s.remove f).files f = none := Function.update_self ..

theorem remove_files_of_ne (s : Folder) {f g : GoString} (h : g ≠ f) : (s.remove f).files g = s.files g :=
  Function.update_of_ne h ..

/-- A file that is written is there. -/
theorem write_files (s : Folder) (f : GoString) (c : Content) : (s.write f c).files f = some c :=
  Function.update_self ..

theorem write_files_of_ne (s : Folder) {f g : GoString} (c : Content) (h : g ≠ f) :
    (s.write f c).files g = s.files g := by
  rw [← mark_files s f]
  exact Function.update_of_ne h ..

/-- A file has the other's name now. -/
theorem rename_files (s : Folder) (f g : GoString) : (s.rename f g).files g = s.files f :=
  Function.update_self ..

end Folder

/-! ## The update -/

/-- What comes out of `downloadBinary`: `io.Copy` has written the whole body, or something failed after
    some of it. -/
inductive Download
  | failed (received : List UInt8)
  | complete (body : List UInt8)

/-- What comes out of `os.WriteFile` for the script: written, or failed and what is there now. -/
inductive ScriptWrite
  | written
  | failed (left : Option Content)

/-- What the world answers to one call of `CheckAndUpdate`. -/
structure World where
  /-- `none`: the URL, the request, the status or the decoding failed -/
  response : Option VersionResponse
  /-- `resolveDownloadURL` and `os.Executable` succeed -/
  located : Bool
  /-- the random number of `os.CreateTemp`; `none`: no file can be created -/
  temp : Option Nat
  download : Download
  closed : Bool
  chmod : Bool
  renamed : Bool
  script : ScriptWrite

/-- An installation: the folder, the base name of the executable, and the arguments of the process. -/
structure Install where
  dir : GoString
  exe : GoString
  args : List GoString

/-- `strings.ReplaceAll` of a quote by two. -/
def doubleQuotes (arg : GoString) : GoString :=
  arg.flatMap fun r => if r = .char '"' then [.char '"', .char '"'] else [r]

/-- The arguments of the restart, quoted for `cmd.exe`. -/
def windowsArgsSuffix (args : List GoString) : GoString :=
  args.flatMap fun arg => GoString.ofString " \"" ++ doubleQuotes arg ++ GoString.ofString "\""

/-- The text of `dtsys-update.bat`. -/
def updateScript (i : Install) : GoString :=
  let path := fun name => i.dir ++ .char '\\' :: name
  GoString.ofString "@echo off\ntimeout /t 2 /nobreak >nul\nmove /y \"" ++ path (newName i.exe) ++
    GoString.ofString "\" \"" ++ path i.exe ++ GoString.ofString "\" >nul\nstart \"\" \"" ++ path i.exe ++
    GoString.ofString "\"" ++ windowsArgsSuffix i.args ++ GoString.ofString "\n"

/-- `stageWindowsUpdate`: the folder, and whether there was no error. -/
def stageWindowsUpdate (i : Install) (w : World) (downloaded : GoString) (s : Folder) : Folder × Bool :=
  let s := s.remove (newName i.exe)
  if w.renamed then
    let s := s.rename downloaded (newName i.exe)
    match w.script with
    | .written => (s.write scriptName (.text (updateScript i)), true)
    | .failed none => (s, false)
    | .failed (some part) => (s.write scriptName part, false)
  else (s, false)

/-- What `CheckAndUpdate` leaves and returns; `none` is an error. -/
structure Outcome where
  folder : Folder
  result : Option Bool

variable (os : Platform) (i : Install) (w : World)

/-- The end of `CheckAndUpdate`: the download is closed and executable. -/
def swap (temp : GoString) (s : Folder) : Outcome :=
  if os = .windows then
    let (s, staged) := stageWindowsUpdate i w temp s
    ⟨s, if staged then some true else none⟩
  else if w.renamed then ⟨s.rename temp i.exe, some true⟩
  else ⟨s.remove temp, none⟩

/-- From `os.CreateTemp` on. -/
def fetch (s : Folder) : Outcome :=
  match w.temp with
  | none => ⟨s, none⟩
  | some random =>
    let temp := tempName random
    if s.files temp ≠ none then ⟨s, none⟩
    else
      let s := s.mark temp
      match w.download with
      | .failed received => ⟨(s.set temp (some (.data received))).remove temp, none⟩
      | .complete body =>
        let s := s.set temp (some (.data body))
        if w.closed = false then ⟨s.remove temp, none⟩
        else if w.chmod = false ∧ os ≠ .windows then ⟨s.remove temp, none⟩
        else swap os i w temp s

/-- `CheckAndUpdate`, up to the step at which it fails. -/
def checkAndUpdate (currentVersion : GoString) (s : Folder) : Outcome :=
  match w.response with
  | none => ⟨s, none⟩
  | some payload =>
    match payload.wanted currentVersion with
    | none => ⟨s, none⟩
    | some false => ⟨s, some false⟩
    | some true => if w.located then fetch os i w s else ⟨s, none⟩

/-! ## No trace -/

/-- Where a call that returns true has put the binary. -/
def Install.binary : GoString := if os = .windows then newName i.exe else i.exe

/-- `before` are the files when the call began. -/
structure NoTrace (before : GoString → Option Content) (o : Outcome) : Prop where
  undone : o.result ≠ some true →
    o.folder.files i.exe = before i.exe ∧ ∀ f ∈ o.folder.created, o.folder.files f = none
  complete : o.result = some true →
    ∃ body, w.download = .complete body ∧ o.folder.files (i.binary os) = some (.data body)

/-- The call comes as far as the platform's own way of replacing the executable. -/
def Replacing (currentVersion : GoString) (before : GoString → Option Content) : Prop :=
  (∃ payload, w.response = some payload ∧ payload.wanted currentVersion = some true) ∧ w.located = true ∧
    (∃ random, w.temp = some random ∧ before (tempName random) = none) ∧
    (∃ body, w.download = .complete body) ∧ w.closed = true

/-- The rename to `.new` and the writing of the script succeed. -/
def World.stages : Prop := w.renamed = true ∧ w.script = .written

section

variable {os i w} {before : GoString → Option Content}

/-- Nothing was touched. -/
theorem noTrace_untouched {result : Option Bool} (h : result ≠ some true) :
    NoTrace os i w before ⟨⟨before, []⟩, result⟩ :=
  ⟨fun _ => ⟨rfl, fun _ hf => nomatch hf⟩, fun hr => (h hr).elim⟩

/-- The download was the only file, and it was removed. -/
theorem noTrace_removed {temp : GoString} (hfree : before temp = none) (c : Content) :
    NoTrace os i w before
      ⟨((Folder.mark ⟨before, []⟩ temp).set temp (some c)).remove temp, none⟩ := by
  have hfiles : (((Folder.mark ⟨before, []⟩ temp).set temp (some c)).remove temp).files = before := by
    show Function.update (Function.update (Folder.mark ⟨before, []⟩ temp).files temp _) temp none = before
    rw [Folder.mark_files, Function.update_idem, ← hfree, Function.update_eq_self]
  refine ⟨fun _ => ⟨congrFun hfiles _, fun f hf => ?_⟩, fun hr => nomatch hr⟩
  have hmark : Folder.mark ⟨before, []⟩ temp = ⟨before, [temp]⟩ := if_pos hfree
  show (((Folder.mark ⟨before, []⟩ temp).set temp (some c)).remove temp).files f = none
  rw [hfiles]
  rw [hmark] at hf
  rw [List.mem_singleton.mp hf]
  exact hfree

/-- `stageWindowsUpdate` goes well: the download is the `.new` file. -/
theorem stage_succeeds (s : Folder) (random : Nat) (hstages : w.stages) :
    (stageWindowsUpdate i w (tempName random) s).2 = true ∧
      (stageWindowsUpdate i w (tempName random) s).1.files (newName i.exe) = s.files (tempName random) := by
  rw [stageWindowsUpdate]
  simp only [hstages.1, hstages.2, if_true]
  refine ⟨trivial, ?_⟩
  rw [Folder.write_files_of_ne _ _ (newName_ne_scriptName i.exe), Folder.rename_files,
    Folder.remove_files_of_ne _ (tempName_ne_newName random i.exe)]

/-- `stageWindowsUpdate` fails: a file that was created is still there. -/
theorem stage_fails {s : Folder} {random : Nat} {c : Content} (hfails : ¬ w.stages)
    (hcreated : tempName random ∈ s.created) (htemp : s.files (tempName random) = some c) :
    (stageWindowsUpdate i w (tempName random) s).2 = false ∧
      ∃ f ∈ (stageWindowsUpdate i w (tempName random) s).1.created,
        (stageWindowsUpdate i w (tempName random) s).1.files f ≠ none := by
  have hkept : (s.remove (newName i.exe)).files (tempName random) = some c := by
    rw [Folder.remove_files_of_ne _ (tempName_ne_newName random i.exe), htemp]
  rw [stageWindowsUpdate]
  cases hrenamed : w.renamed with
  | false =>
    -- the download stays
    refine ⟨rfl, tempName random, hcreated, ?_⟩
    show (s.remove (newName i.exe)).files (tempName random) ≠ none
    rw [hkept]
    exact nofun
  | true =>
    -- the `.new` file stays
    have hnew : newName i.exe ∈ ((s.remove (newName i.exe)).rename (tempName random) (newName i.exe)).created :=
      Folder.mem_mark _ (Folder.remove_files ..)
    have hthere : ((s.remove (newName i.exe)).rename (tempName random) (newName i.exe)).files
        (newName i.exe) ≠ none := by
      rw [Folder.rename_files, hkept]
      exact nofun
    cases hscript : w.script with
    | written => exact (hfails ⟨hrenamed, hscript⟩).elim
    | failed left =>
      cases left with
      | none => exact ⟨rfl, newName i.exe, hnew, hthere⟩
      | some part =>
        refine ⟨rfl, newName i.exe, Folder.mem_mark_of_mem _ hnew, ?_⟩
        show (Folder.write _ scriptName part).files (newName i.exe) ≠ none
        rw [Folder.write_files_of_ne _ _ (newName_ne_scriptName i.exe)]
        exact hthere

/-- **The platforms' own ways**: the rename of Linux and macOS is undone, `stageWindowsUpdate` is not. -/
theorem noTrace_swap {random : Nat} {body : List UInt8} (hfree : before (tempName random) = none)
    (hbody : w.download = .complete body) :
    NoTrace os i w before (swap os i w (tempName random)
      ((Folder.mark ⟨before, []⟩ (tempName random)).set (tempName random) (some (.data body)))) ↔
      ¬ (os = .windows ∧ ¬ w.stages) := by
  have htemp : ((Folder.mark ⟨before, []⟩ (tempName random)).set (tempName random)
      (some (.data body))).files (tempName random) = some (.data body) := Function.update_self ..
  have hcreated : tempName random ∈ ((Folder.mark ⟨before, []⟩ (tempName random)).set (tempName random)
      (some (.data body))).created := Folder.mem_mark ⟨before, []⟩ hfree
  rw [swap]
  by_cases hos : os = .windows
  · rw [if_pos hos]
    by_cases hstages : w.stages
    · refine iff_of_true ?_ fun h => h.2 hstages
      obtain ⟨hok, hnew⟩ := stage_succeeds (i := i) _ random hstages
      refine ⟨fun hr => (hr (if_pos hok)).elim, fun _ => ⟨body, hbody, ?_⟩⟩
      show Folder.files _ (if os = .windows then newName i.exe else i.exe) = _
      rw [if_pos hos]
      exact hnew.trans htemp
    · refine iff_of_false (fun h => ?_) fun h => h ⟨hos, hstages⟩
      obtain ⟨hfails, f, hf, hthere⟩ := stage_fails (i := i) hstages hcreated htemp
      refine hthere ((h.undone fun hr => ?_).2 f hf)
      replace hr := (if_neg (Bool.eq_false_iff.mp hfails)).symm.trans hr
      cases hr
  · rw [if_neg hos]
    refine iff_of_true ?_ fun h => hos h.1
    cases hrenamed : w.renamed with
    | false => exact noTrace_removed hfree _
    | true =>
      refine ⟨fun hr => (hr rfl).elim, fun _ => ⟨body, hbody, ?_⟩⟩
      show Folder.files _ (if os = .windows then newName i.exe else i.exe) = _
      rw [if_neg hos]
      exact (Folder.rename_files ..).trans htemp

/-- **From the download on**. -/
theorem noTrace_fetch : NoTrace os i w before (fetch os i w ⟨before, []⟩) ↔
    ¬ (os = .windows ∧ ((∃ random, w.temp = some random ∧ before (tempName random) = none) ∧
      (∃ body, w.download = .complete body) ∧ w.closed = true) ∧ ¬ w.stages) := by
  rw [fetch]
  cases htemp : w.temp with
  | none => exact iff_of_true (noTrace_untouched nofun) fun ⟨_, ⟨⟨_, h, _⟩, _⟩, _⟩ => nomatch h
  | some random =>
    by_cases hfree : before (tempName random) = none
    · dsimp only
      rw [if_neg (not_not_intro hfree)]
      cases hdownload : w.download with
      | failed received =>
        exact iff_of_true (noTrace_removed hfree _) fun ⟨_, ⟨_, ⟨_, h⟩, _⟩, _⟩ => nomatch h
      | complete body =>
        dsimp only
        cases hclosed : w.closed with
        | false =>
          exact iff_of_true (noTrace_removed hfree _) fun ⟨_, ⟨_, _, h⟩, _⟩ => nomatch h
        | true =>
          rw [if_neg (by decide)]
          by_cases hchmod : w.chmod = false ∧ os ≠ .windows
          · rw [if_pos hchmod]
            exact iff_of_true (noTrace_removed hfree _) fun h => hchmod.2 h.1
          · rw [if_neg hchmod, noTrace_swap hfree hdownload]
            refine not_congr ⟨fun h => ⟨h.1, ⟨⟨random, rfl, hfree⟩, ⟨body, rfl⟩, rfl⟩, h.2⟩, fun h => ⟨h.1, h.2.2⟩⟩
    · dsimp only
      rw [if_pos hfree]
      refine iff_of_true (noTrace_untouched nofun) ?_
      rintro ⟨-, ⟨⟨random', heq, hfree'⟩, -⟩, -⟩
      obtain rfl := Option.some.inj heq
      exact hfree hfree'

end

/-- **A failed update leaves no trace**, and a successful one has staged the complete body, on every
    platform and at every exit, unless `stageWindowsUpdate` is reached and fails.

    Exit by exit.  The others remove the temporary file; the two of `stageWindowsUpdate`, a rename that fails and a
    script that cannot be written, return without removing anything. -/
theorem no_trace_iff (os : Platform) (i : Install) (currentVersion : GoString) (w : World)
    (before : GoString → Option Content) :
    NoTrace os i w before (checkAndUpdate os i w currentVersion ⟨before, []⟩) ↔
      ¬ (os = .windows ∧ Replacing w currentVersion before ∧ ¬ w.stages) := by
  rw [checkAndUpdate]
  cases hresponse : w.response with
  | none =>
    refine iff_of_true (noTrace_untouched nofun) ?_
    rintro ⟨-, ⟨⟨payload, h, -⟩, -⟩, -⟩
    cases hresponse.symm.trans h
  | some payload =>
    by_cases hgo : payload.wanted currentVersion = some true ∧ w.located = true
    · simp only [hgo.1, hgo.2, if_true]
      rw [noTrace_fetch]
      refine not_congr (and_congr_right fun _ => and_congr_left fun _ => ?_)
      exact ⟨fun h => ⟨⟨payload, hresponse, hgo.1⟩, hgo.2, h⟩, fun h => h.2.2⟩
    · refine iff_of_true ?_ ?_
      · dsimp only
        cases hwanted : payload.wanted currentVersion with
        | none => exact noTrace_untouched nofun
        | some newer =>
          cases newer with
          | false => exact noTrace_untouched (by decide)
          | true =>
            rw [hwanted, eq_self_iff_true, true_and] at hgo
            dsimp only
            rw [if_neg hgo]
            exact noTrace_untouched nofun
      · rintro ⟨-, ⟨⟨payload', h, hwanted⟩, hlocated, -⟩, -⟩
        obtain rfl := Option.some.inj (hresponse.symm.trans h)
        exact hgo ⟨hwanted, hlocated⟩

/-- Version 2.0.0 is downloaded, and the rename to `.new` fails. -/
def blockedRename : World where
  response := some ⟨.ofString "2.0.0", .ofString "/agent"⟩
  located := true
  temp := some 7
  download := .complete [0x4D, 0x5A]
  closed := true
  chmod := true
  renamed := false
  script := .written

/-- The agent of a Windows host. -/
def windowsInstall : Install := ⟨.ofString "C:", .ofString "dtsys-agent.exe", []⟩

/-- The call returns an error, and the download stays. -/
theorem failed_rename_leaves_download :
    let o := checkAndUpdate .windows windowsInstall blockedRename (.ofString "1.0.0") ⟨fun _ => none, []⟩
    o.result = none ∧ tempName 7 ∈ o.folder.created ∧
      o.folder.files (tempName 7) = some (.data [0x4D, 0x5A]) ∧
      ¬ NoTrace .windows windowsInstall blockedRename (fun _ => none) o :=
  ⟨rfl, List.mem_singleton.mpr rfl, rfl, fun h =>
    nomatch (h.undone nofun).2 (tempName 7) (List.mem_singleton.mpr rfl)⟩

/-- An update is only ever to a newer version. -/
theorem newer_of_updated {os : Platform} {i : Install} {currentVersion : GoString} {w : World} {s : Folder}
    (h : (checkAndUpdate os i w currentVersion s).result = some true) :
    ∃ payload, w.response = some payload ∧ Newer payload.version currentVersion := by
  rw [checkAndUpdate] at h
  cases hresponse : w.response with
  | none =>
    rw [hresponse] at h
    cases h
  | some payload =>
    refine ⟨payload, rfl, VersionResponse.newer_of_wanted ?_⟩
    rw [hresponse] at h
    dsimp only at h
    cases hwanted : payload.wanted currentVersion with
    | none =>
      rw [hwanted] at h
      cases h
    | some newer =>
      cases newer with
      | true => rfl
      | false =>
        rw [hwanted] at h
        cases h

end Staging

end Agent

end Dtsys
