/-
  LINES and FIELDS of a text that the agent reads (`bufio.Scanner`, `strings.Fields`).

  A scanner with the default buffer gives up at the first line of 64 KiB or more: the loop over it ends
  there, as if the text did (`scanLines`).

  1. `fields` cuts at blanks and never yields an empty field; `trimSpace` is what is left of a text
     when the blanks around it go (`trimSpace_eq`).
  2. The limit of the scanner is in BYTES, the model's texts are runes, so a line is measured by
     `byteLength`; a `\r` before the line end is dropped after the line has been found to fit.
  3. `scanLines_unlines` — a text written line by line is scanned line by line, if every line fits.

  The collectors of packages and of keys both read their input through this module, so the limit is
  met in one place.
-/
import Dtsys.Agent.Events
import Dtsys.Lib.Words

namespace Dtsys

namespace Agent

/-- White space, as `strings.Fields` and `strings.TrimSpace` see it. -/
def blank (r : GoRune) : Bool := r.satisfies isSpace

/-- `strings.Fields`. -/
def fields (s : GoString) : List GoString := Words.words blank s

theorem trimSpace_eq (s : GoString) : trimSpace s = Words.trim blank s := rfl

/-- The length of the encoding. -/
def GoRune.size : GoRune → Nat
  | .char c => c.utf8Size
  | .invalid _ => 1

/-- `len(s)`. -/
def byteLength (s : GoString) : Nat := (s.map GoRune.size).sum

/-- What ends a line. -/
def newline : GoRune := .char '\n'

/-- What may stand in front of it. -/
def carriageReturn : GoRune := .char '\r'

/-- `dropCR`. -/
def dropCR (line : GoString) : GoString :=
  if line.getLast? = some carriageReturn then line.dropLast else line

/-- `bufio.MaxScanTokenSize`. -/
def maxScanTokenSize : Nat := 64 * 1024

/-- The line and the end that is looked for fit into the buffer. -/
def fitsBuffer (line : GoString) : Bool := decide (byteLength line < maxScanTokenSize)

/-- The texts of `for scanner.Scan()`. -/
def scanLines (text : GoString) : List GoString := ((Words.lines newline text).takeWhile fitsBuffer).map dropCR

/-- A line without line ends of its own. -/
def OneLine (line : GoString) : Prop := newline ∉ line ∧ carriageReturn ∉ line

instance (line : GoString) : Decidable (OneLine line) := inferInstanceAs (Decidable (_ ∧ _))

/-- A line without a carriage return at its end stays as it is. -/
theorem dropCR_of_oneLine {line : GoString} (h : OneLine line) : dropCR line = line :=
  if_neg fun hlast => h.2 (List.mem_of_getLast? hlast)

/-- The lines of a text are scanned up to the first that is too long. -/
theorem scanLines_unlines {ls : List GoString} {last : GoString} (hls : ∀ l ∈ ls, OneLine l)
    (hlast : OneLine last) :
    scanLines (ls.flatMap (· ++ [newline]) ++ last) =
      (if last = [] then ls else ls ++ [last]).takeWhile fitsBuffer := by
  rw [scanLines, Words.lines_unlines (fun l hl => (hls l hl).1) hlast.1]
  refine (List.map_congr_left fun l hl => ?_).trans (List.map_id _)
  have hmem := (List.takeWhile_prefix (p := fitsBuffer)).subset hl
  refine dropCR_of_oneLine ?_
  split at hmem
  · exact hls l hmem
  · rcases List.mem_append.mp hmem with hmem | hmem
    · exact hls l hmem
    · rw [List.mem_singleton.mp hmem]
      exact hlast

end Agent

end Dtsys
