/-
  EVENTS of the agent's host (`collector/events_*.go`).

  A poll reads log entries, drops what `shouldSkipEvent` filters out, and passes the rest through
  `ApplyEventRateLimit`.  Both keep GLOBAL state: a table of what was seen in the last five minutes,
  and the budget of the current window.

  * `eventFingerprint`, `shouldSkipEvent` — the filter and its table.
  * `applyEventRateLimit` — the limiter.
  * `addEvent` — what a collector does with an entry that was not filtered out.

  A time is a number of nanoseconds.  The exclude patterns are compiled regular expressions, given
  by what they match; `lower` is `unicode.ToLower`.
-/
import Dtsys.Agent.Payloads
import Mathlib.Data.List.Infix
import Mathlib.Logic.Function.Basic

namespace Dtsys

namespace Agent

/-- `time.Second`. -/
def timeSecond : Int := 1000000000

/-! ## Fingerprints -/

/-- `unicode.IsSpace`. -/
def isSpace (c : Char) : Bool :=
  c == '\t' || c == '\n' || c == '\x0b' || c == '\x0c' || c == '\r' || c == ' ' || c == '\u0085' ||
    c == '\u00a0' || c == '\u1680' || decide (0x2000 ≤ c.toNat ∧ c.toNat ≤ 0x200a) ||
    c == '\u2028' || c == '\u2029' || c == '\u202f' || c == '\u205f' || c == '\u3000'

/-- The rune is a character with the property. -/
def GoRune.satisfies (p : Char → Bool) : GoRune → Bool
  | .char c => p c
  | .invalid _ => false

/-- `strings.TrimSpace`. -/
def trimSpace (s : GoString) : GoString :=
  ((s.dropWhile (·.satisfies isSpace)).reverse.dropWhile (·.satisfies isSpace)).reverse

/-- `[0-9a-f]`, in either case. -/
def isHexDigit (c : Char) : Bool := (Uuid.hexDigit c).isSome

/-- `\w`: what `\b` stands between. -/
def isWord (c : Char) : Bool := c.isAlphanum || c == '_'

/-- The places of a UUID: a hexadecimal digit or a hyphen. -/
def uuidPlaces : List Bool :=
  List.replicate 8 true ++ [false] ++ List.replicate 4 true ++ [false] ++ List.replicate 4 true ++
    [false] ++ List.replicate 4 true ++ [false] ++ List.replicate 12 true

/-- The string begins with what the places allow. -/
def fillsPlaces : List Bool → GoString → Bool
  | [], _ => true
  | _ :: _, [] => false
  | place :: places, r :: rs =>
    r.satisfies (fun c => if place then isHexDigit c else c == '-') && fillsPlaces places rs

/-- `normalized[:loc[0]]` for the first match of `uuidRe`. -/
def cutAtUuid : GoString → GoString
  | [] => []
  | r :: rs => if fillsPlaces uuidPlaces (r :: rs) then [] else r :: cutAtUuid rs

/-- A whole word, replaced if `hexRe` matches it. -/
def hexWord (word : GoString) : GoString :=
  if 8 ≤ word.length ∧ word.all (·.satisfies isHexDigit) then .ofString "<hex>" else word

/-- `hexRe.ReplaceAllString(s, "<hex>")`; `word` is the word that is being read. -/
def replaceHex : GoString → GoString → GoString
  | word, [] => hexWord word
  | word, r :: rs =>
    if r.satisfies isWord then replaceHex (word ++ [r]) rs else hexWord word ++ r :: replaceHex [] rs

/-- `strings.ToLower`: a byte that is no character becomes the replacement character. -/
def toLower (lower : Char → Char) (s : GoString) : GoString := s.map fun r => .char (lower r.replaced)

/-- `eventFingerprint`. -/
def eventFingerprint (lower : Char → Char) (message : GoString) : GoString :=
  toLower lower (trimSpace (replaceHex [] (cutAtUuid (trimSpace message))))

/-! ## The table -/

/-- `eventFilterConfig`. -/
structure EventFilterConfig where
  dedupMaxEntries : Int
  excludePatterns : List (GoString → Bool)

/-- `sourceDeduper`. -/
structure SourceDeduper where
  entries : GoString → Option Int
  order : List GoString

/-- `&sourceDeduper{entries: map[string]time.Time{}}`. -/
def SourceDeduper.empty : SourceDeduper := ⟨fun _ => none, []⟩

/-- `dedupBySrc`; a source that is not in the map has the empty table. -/
abbrev DedupTable := GoString → SourceDeduper

/-- `dedupWindow`: five minutes. -/
def dedupWindow : Int := 5 * 60 * timeSecond

/-- `source + "|" + fingerprint`. -/
def dedupKey (lower : Char → Char) (source message : GoString) : GoString :=
  source ++ .char '|' :: eventFingerprint lower message

/-- The loop that deletes what is older than the window. -/
def dropExpired (now : Int) (entries : GoString → Option Int) : GoString → Option Int :=
  fun key => (entries key).filter fun ts => decide (now - ts ≤ dedupWindow)

/-- The loop that deletes the `excess` oldest keys. -/
def dropOldest : Nat → SourceDeduper → SourceDeduper
  | 0, d => d
  | excess + 1, d =>
    match d.order with
    | [] => d
    | oldest :: order => dropOldest excess ⟨Function.update d.entries oldest none, order⟩

/-- An entry for `key`, and room made for it. -/
def SourceDeduper.record (d : SourceDeduper) (maxEntries now : Int) (key : GoString) :
    SourceDeduper :=
  dropOldest (((d.order ++ [key]).length : Int) - maxEntries).toNat
    ⟨Function.update d.entries key (some now), d.order ++ [key]⟩

/-- An empty message, or an excluded one. -/
def EventFilterConfig.excludes (cfg : EventFilterConfig) (message : GoString) : Bool :=
  message.isEmpty || cfg.excludePatterns.any fun re => re message

/-- Why an event is skipped, or that it is not. -/
inductive Verdict
  | excluded
  | duplicate
  | passed
  deriving DecidableEq, Repr

/-- `shouldSkipEvent`: the verdict, and the table after it. -/
def judgeEvent (cfg : EventFilterConfig) (lower : Char → Char) (now : Int)
    (source message : GoString) (table : DedupTable) : Verdict × DedupTable :=
  if cfg.excludes message then (.excluded, table)
  else if cfg.dedupMaxEntries ≤ 0 then (.passed, table)
  else
    let key := dedupKey lower source message
    let deduper := { table source with entries := dropExpired now (table source).entries }
    match deduper.entries key with
    | some _ => (.duplicate, Function.update table source deduper)
    | none =>
      (.passed, Function.update table source (deduper.record cfg.dedupMaxEntries now key))

/-- `shouldSkipEvent`. -/
def shouldSkipEvent (cfg : EventFilterConfig) (lower : Char → Char) (now : Int)
    (source message : GoString) (table : DedupTable) : Bool × DedupTable :=
  let (verdict, table) := judgeEvent cfg lower now source message table
  (decide (verdict ≠ .passed), table)

/-! ## The limiter -/

/-- `eventRateLimiter`; a zero `windowStart` is `none`. -/
structure EventRateLimiter where
  maxEvents : Int
  window : Int
  windowStart : Option Int
  count : Int
  dropped : Int
  summarySent : Bool

/-- `ConfigureEventRateLimit`. -/
def configureEventRateLimit (maxEvents windowSeconds : Int) (l : EventRateLimiter) :
    EventRateLimiter where
  maxEvents := if 0 < maxEvents then maxEvents else l.maxEvents
  window := if 0 < windowSeconds then windowSeconds * timeSecond else l.window
  windowStart := none
  count := 0
  dropped := 0
  summarySent := false

/-- `limiter`, at the start. -/
def EventRateLimiter.initial : EventRateLimiter := ⟨20, 30 * timeSecond, none, 0, 0, false⟩

/-- No window is open, or the last one is over. -/
def EventRateLimiter.expired (l : EventRateLimiter) (now : Int) : Bool :=
  match l.windowStart with
  | none => true
  | some start => decide (l.window < now - start)

/-- The limiter at `now`, in a new window if the last one is over. -/
def EventRateLimiter.current (l : EventRateLimiter) (now : Int) : EventRateLimiter :=
  if l.expired now then
    { l with windowStart := some now, count := 0, dropped := 0, summarySent := false }
  else l

/-- `allowed`. -/
def EventRateLimiter.allowed (l : EventRateLimiter) : Nat := (l.maxEvents - l.count).toNat

/-- The loop over the events. -/
def keepAllowed : Nat → List EventData → EventRateLimiter → List EventData × EventRateLimiter
  | _, [], l => ([], l)
  | 0, _ :: evs, l => keepAllowed 0 evs { l with dropped := l.dropped + 1 }
  | allowed + 1, ev :: evs, l =>
    let (kept, l) := keepAllowed allowed evs { l with count := l.count + 1 }
    (ev :: kept, l)

/-- The summary of a window. -/
def rateSummary (dropped : Int) : EventData where
  eventType := .ofString "warning"
  source := .ofString "agent/events"
  message := .ofString ("Rate limit: " ++ toString dropped ++ " events dropped in last 30s")
  rawData := [("dropped", .int dropped)]

/-- The end of `ApplyEventRateLimit`: a summary, once a window. -/
def addSummary (kept : List EventData) (l : EventRateLimiter) : List EventData × EventRateLimiter :=
  if 0 < l.dropped ∧ l.summarySent = false then
    (kept ++ [rateSummary l.dropped], { l with summarySent := true })
  else (kept, l)

/-- `ApplyEventRateLimit`. -/
def applyEventRateLimit (now : Int) (events : List EventData) (l : EventRateLimiter) :
    List EventData × EventRateLimiter :=
  if events.isEmpty then (events, l)
  else
    let (kept, l) := keepAllowed (l.current now).allowed events (l.current now)
    addSummary kept l

/-- Without a budget every event is dropped. -/
theorem keepAllowed_zero : ∀ (evs : List EventData) (l : EventRateLimiter),
    keepAllowed 0 evs l = ([], { l with dropped := l.dropped + evs.length }) := by
  intro evs
  induction evs with
  | nil =>
    intro l
    show ([], l) = ([], { l with dropped := l.dropped + ((0 : Nat) : Int) })
    rw [show l.dropped + ((0 : Nat) : Int) = l.dropped by omega]
  | cons ev evs ih =>
    intro l
    show keepAllowed 0 evs { l with dropped := l.dropped + 1 } = _
    rw [ih, show l.dropped + (((ev :: evs).length : Nat) : Int) = l.dropped + 1 + evs.length by
      rw [List.length_cons]; omega]

/-- The loop keeps the first `allowed` events and counts the others. -/
theorem keepAllowed_eq : ∀ (allowed : Nat) (evs : List EventData) (l : EventRateLimiter),
    keepAllowed allowed evs l = (evs.take allowed,
      { l with count := l.count + min allowed evs.length
               dropped := l.dropped + (evs.length - allowed : Nat) }) := by
  intro allowed
  induction allowed with
  | zero =>
    intro evs l
    rw [keepAllowed_zero, List.take_zero, Nat.zero_min, Nat.sub_zero]
    rw [show l.count + ((0 : Nat) : Int) = l.count by omega]
  | succ allowed ih =>
    intro evs l
    cases evs with
    | nil =>
      show ([], l) = ([], { l with count := l.count + ((0 : Nat) : Int)
                                   dropped := l.dropped + ((0 - (allowed + 1) : Nat) : Int) })
      rw [show l.count + ((0 : Nat) : Int) = l.count by omega,
        show l.dropped + ((0 - (allowed + 1) : Nat) : Int) = l.dropped by omega]
    | cons ev evs =>
      have hcount : l.count + 1 + ((min allowed evs.length : Nat) : Int) =
          l.count + ((min (allowed + 1) (ev :: evs).length : Nat) : Int) := by
        rw [List.length_cons]; omega
      have hdropped : ((evs.length - allowed : Nat) : Int) =
          (((ev :: evs).length - (allowed + 1) : Nat) : Int) := by
        rw [List.length_cons]; omega
      show (ev :: (keepAllowed allowed evs { l with count := l.count + 1 }).1,
        (keepAllowed allowed evs { l with count := l.count + 1 }).2) = _
      rw [ih, hcount, hdropped]
      rfl

/-- An application to a batch that is not empty. -/
theorem applyEventRateLimit_eq (now : Int) {batch : List EventData} (hne : batch ≠ [])
    (l : EventRateLimiter) :
    applyEventRateLimit now batch l =
      addSummary (batch.take (l.current now).allowed)
        { l.current now with
          count := (l.current now).count + min (l.current now).allowed batch.length
          dropped := (l.current now).dropped + (batch.length - (l.current now).allowed : Nat) } := by
  have hempty : batch.isEmpty = false := by
    cases batch with
    | nil => exact absurd rfl hne
    | cons ev evs => rfl
  rw [applyEventRateLimit, hempty, keepAllowed_eq]
  rfl

/-- The summary is only added. -/
theorem mem_addSummary {kept : List EventData} {l : EventRateLimiter} {ev : EventData}
    (h : ev ∈ kept) : ev ∈ (addSummary kept l).1 := by
  rw [addSummary]
  split
  · exact List.mem_append_left _ h
  · exact h

/-- What fits into the budget passes. -/
theorem mem_applyEventRateLimit {now : Int} {events : List EventData} {l : EventRateLimiter}
    (hfits : events.length ≤ (l.current now).allowed) {ev : EventData} (h : ev ∈ events) :
    ev ∈ (applyEventRateLimit now events l).1 := by
  rw [applyEventRateLimit_eq now (List.ne_nil_of_mem h), List.take_of_length_le hfits]
  exact mem_addSummary h

/-! ## Collectors -/

/-- The operating system, which decides the collector. -/
inductive Platform
  | linux
  | darwin
  | windows
  deriving DecidableEq, Repr

/-- `event.EventType + "|" + event.Source + "|" + event.Message`. -/
def EventData.seenKey (ev : EventData) : GoString :=
  ev.eventType ++ .char '|' :: ev.source ++ .char '|' :: ev.message

/-- An event that was not skipped; the Linux collector keeps one of each key. -/
def addEvent (p : Platform) (events : List EventData) (ev : EventData) : List EventData :=
  if p = .linux ∧ ∃ other ∈ events, other.seenKey = ev.seenKey then events else events ++ [ev]

/-! ## What the collectors read -/

/-- `containsAnyFold`, `containsAnyFoldWindows`. -/
def containsAnyFold (lower : Char → Char) (value : GoString) (needles : List String) : Bool :=
  needles.any fun needle => decide (GoString.ofString needle <:+: toLower lower value)

/-- `windowsEventRecord`. -/
structure WindowsEventRecord where
  source : GoString
  eventId : Int
  level : GoString
  message : GoString
  timestamp : GoString
  provider : GoString

/-- `classifyWindowsEvent`. -/
def classifyWindowsEvent (lower : Char → Char) (level provider message : GoString) : String :=
  if containsAnyFold lower level ["critical"] ||
      containsAnyFold lower provider ["bugcheck", "application error", "windows error reporting"] ||
      containsAnyFold lower message ["faulting application", "stopped working"] then "crash"
  else if containsAnyFold lower level ["warning"] then "warning"
  else "error"

/-- The event of a record of the Windows log. -/
def windowsEvent (lower : Char → Char) (r : WindowsEventRecord) : EventData where
  eventType := .ofString (classifyWindowsEvent lower r.level r.provider r.message)
  source := if (trimSpace r.provider).isEmpty then trimSpace r.source else trimSpace r.provider
  message := trimSpace r.message
  rawData := [("time_created", r.timestamp.encode), ("event_id", .int r.eventId),
    ("level", r.level.encode), ("log", r.source.encode)]

/-- The event of a crash dump (`collectMinidumps`), from its name and time. -/
def minidumpEvent (dump : GoString × GoString) : EventData where
  eventType := .ofString "crash"
  source := .ofString "windows/minidump"
  message := .ofString "Crash dump detected: " ++ dump.1
  rawData := [("filename", dump.1.encode), ("timestamp", dump.2.encode)]

/-- What one call of `CollectEvents` reads, in the order it is filtered: on Linux and macOS the
    events of the lines and reports, on Windows the records of the log and then the crash dumps. -/
inductive Readings
  | linux (events : List EventData)
  | darwin (events : List EventData)
  | windows (records : List WindowsEventRecord) (dumps : List (GoString × GoString))

/-- The platform whose collector gives such readings. -/
def Readings.platform : Readings → Platform
  | .linux _ => .linux
  | .darwin _ => .darwin
  | .windows _ _ => .windows

/-- The events `shouldSkipEvent` is asked about. -/
def Readings.candidates (lower : Char → Char) : Readings → List EventData
  | .linux events => events
  | .darwin events => events
  | .windows records _ => records.map (windowsEvent lower)

/-- The events that are added without being filtered. -/
def Readings.unfiltered : Readings → List EventData
  | .windows _ dumps => dumps.map minidumpEvent
  | _ => []

/-- The loop over the candidates; the `i`-th one is looked at at the time `clock i`. -/
def filterEvents (p : Platform) (cfg : EventFilterConfig) (lower : Char → Char) (clock : Nat → Int) :
    Nat → List EventData → DedupTable → List EventData → List EventData × DedupTable
  | _, [], table, events => (events, table)
  | i, ev :: rest, table, events =>
    let (skip, table) := shouldSkipEvent cfg lower (clock i) ev.source ev.message table
    filterEvents p cfg lower clock (i + 1) rest table (if skip then events else addEvent p events ev)

/-- The filtered events of one poll. -/
def Readings.batch (r : Readings) (cfg : EventFilterConfig) (lower : Char → Char)
    (clock : Nat → Int) (table : DedupTable) : List EventData :=
  (filterEvents r.platform cfg lower clock 0 (r.candidates lower) table []).1 ++ r.unfiltered

/-- The end of `CollectEvents`, at `now`: the Windows collector applies the limit itself. -/
def Readings.collected (r : Readings) (now : Int) (batch : List EventData) (l : EventRateLimiter) :
    List EventData × EventRateLimiter :=
  match r with
  | .windows _ _ => applyEventRateLimit now batch l
  | _ => (batch, l)

end Agent

end Dtsys
