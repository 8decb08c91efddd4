/-
  THE CRON PREVIEW of the web page (`frontend/src/utils/cron.ts`): `nextRuns` walks minute by minute
  from now on and keeps the minutes that match.

  The walk is over the LOCAL clock of the browser: it sets the minutes of a `Date`, and reads its
  fields, in the zone the browser is in.

  * `Civil` — the fields of a date that an expression is about, each within its bounds.
  * `Zone` — local time and back; a minute added to a local time always moves on.
  * `parseField`, `dateMatches` — an expression against a date; `none` is the `RangeError` of an array
    that is too long.
  * `nextRuns_eq` — what the walk keeps, if nothing is raised: the first matching minutes it visits.
-/
import Dtsys.Lib.Ascending
import Dtsys.Web.Numbers

namespace Dtsys

/-! ## Dates -/

/-- What a cron expression reads of a date; Sunday is weekday 0. -/
structure Civil where
  minute : Nat
  hour : Nat
  day : Nat
  month : Nat
  weekday : Nat
  minute_lt : minute < 60
  hour_lt : hour < 24
  day_mem : 1 ≤ day ∧ day ≤ 31
  month_mem : 1 ≤ month ∧ month ≤ 12
  weekday_lt : weekday < 7

namespace Calendar

/-- The day, from 0, of a year that begins in March: `n` days after the 1st of March of a year that
    400 divides. -/
def dayOfYear (n : Int) : Int :=
  let inEra := n % 146097
  let inCentury := inEra - 36524 * min (inEra / 36524) 3
  let inCycle := inCentury % 1461
  inCycle - 365 * min (inCycle / 365) 3

theorem dayOfYear_mem (n : Int) : 0 ≤ dayOfYear n ∧ dayOfYear n ≤ 365 := by
  unfold dayOfYear
  dsimp only
  omega

/-- The months from March on begin 153 days apart, five by five. -/
def monthOf (d : Int) : Int := (5 * d + 2) / 153

/-- The month, January being 1. -/
def month (d : Int) : Int := if monthOf d < 10 then monthOf d + 3 else monthOf d - 9

/-- The day of the month. -/
def day (d : Int) : Int := d - (153 * monthOf d + 2) / 5 + 1

/-- A month is one of twelve. -/
theorem month_mem {d : Int} (h : 0 ≤ d ∧ d ≤ 365) : 1 ≤ month d ∧ month d ≤ 12 := by
  obtain ⟨hlow, hhigh⟩ := h
  rw [month, monthOf]
  split
  · omega
  · omega

/-- A day is one of at most 31. -/
theorem day_mem (d : Int) : 1 ≤ day d ∧ day d ≤ 31 := by
  rw [day, monthOf]
  omega

end Calendar

open Calendar in
/-- The date of a minute, counted from the beginning of 1970 (a Thursday). -/
def civil (m : Int) : Civil :=
  let days := m / 1440
  let d := dayOfYear (days + 719468)
  have hd := dayOfYear_mem (days + 719468)
  { minute := (m % 60).toNat
    hour := (m / 60 % 24).toNat
    day := (day d).toNat
    month := (month d).toNat
    weekday := ((days + 4) % 7).toNat
    minute_lt := by omega
    hour_lt := by omega
    day_mem := by
      have h : 1 ≤ day d ∧ day d ≤ 31 := day_mem d
      omega
    month_mem := by
      have h : 1 ≤ month d ∧ month d ≤ 12 := month_mem hd
      omega
    weekday_lt := by omega }

namespace Web

/-- A time zone: local time (in milliseconds, like the instants), and the instant a local time
    names — of two the first, and for one that is left out the one after the change. -/
structure Zone where
  toLocal : Int → Int
  fromLocal : Int → Int
  forward : ∀ l, fromLocal l < fromLocal (toLocal (fromLocal l) + 60000)

/-- The zone of a browser in UTC. -/
def utc : Zone where
  toLocal := id
  fromLocal := id
  forward := by
    intro l
    show l < l + 60000
    omega

/-! ## Expressions -/

/-- `Array.from({ length: end - start + 1 }, (_, index) => start + index)`. -/
def span (start stop : Number) : Option (List Number) :=
  Number.sequence start ((stop.sub start).add (.ofInt 1))

/-- The filter `(value - start) % step === 0`. -/
def everyNth (start step : Number) (values : List Number) : List Number :=
  values.filter fun value => step.divides (value.sub start)

/-- `array[index]` of an array of numbers, with `undefined` as it takes part in arithmetic. -/
def Number.at (numbers : List Number) (index : Nat) : Number := (numbers[index]?).getD .nan

/-- A part of a comma list. -/
def parsePart (min max : Int) (part : List Char) : Option (List Number) :=
  if part.contains '/' then
    let pieces := part.splitOn '/'
    let rangePart := pieces.headD []
    let step := Number.ofText (pieces[1]?.getD [])
    let range :=
      if rangePart = ['*'] then [.ofInt min, .ofInt max]
      else (rangePart.splitOn '-').map Number.ofText
    let rangeStart := Number.at range 0
    (span rangeStart (Number.at range 1)).map (everyNth rangeStart step)
  else if part.contains '-' then
    let range := (part.splitOn '-').map Number.ofText
    span (Number.at range 0) (Number.at range 1)
  else some [Number.ofText part]

/-- `parseField`. -/
def parseField (field : List Char) (min max : Int) : Option (List Number) :=
  match field with
  | ['*'] => span (.ofInt min) (.ofInt max)
  | '*' :: '/' :: step =>
    (span (.ofInt min) (.ofInt max)).map (everyNth (.ofInt min) (Number.ofText step))
  | _ => ((field.splitOn ',').mapM (parsePart min max)).map List.flatten

/-- `values.includes(n)`. -/
def includes (values : List Number) (n : Nat) : Bool := values.contains (.ofInt n)

/-- Natural numbers as values. -/
def numbers (l : List Nat) : List Number := l.map fun n : Nat => .ofInt n

/-- `includes`, on whole numbers. -/
theorem includes_numbers (l : List Nat) (n : Nat) : includes (numbers l) n = l.contains n := by
  have hinj : ∀ m : Nat, Number.ofInt n = Number.ofInt m ↔ n = m := by
    intro m
    show Number.finite _ = Number.finite _ ↔ _
    rw [Number.finite.injEq, Int.cast_inj, Int.natCast_inj]
  rw [Bool.eq_iff_iff]
  show List.contains _ _ = true ↔ _
  rw [List.contains_iff_mem, List.contains_iff_mem]
  rw [numbers, List.mem_map]
  constructor
  · rintro ⟨m, hm, heq⟩
    rwa [(hinj m).mp heq.symm]
  · exact fun h => ⟨n, h, rfl⟩

/-- The array from `a` to `b`. -/
theorem span_nat {a b : Nat} (hb : b < 2 ^ 31) (ha : a < 2 ^ 31) :
    span (.ofInt a) (.ofInt b) = some (numbers (List.range' a (b + 1 - a))) := by
  have hlength : ((Number.ofInt b).sub (.ofInt a)).add (.ofInt 1) =
      .ofInt ((b : Int) - a + 1) := by
    rw [Number.sub_int (by omega), Number.add_int (by omega)]
  have hcount : ((b : Int) - a + 1).toNat = b + 1 - a := by omega
  rw [span, Number.sequence, numbers]
  rw [hlength, Number.arrayLength_int (by omega), hcount, Option.map_some, List.range'_eq_map_range,
    List.map_map]
  refine congrArg some (List.map_congr_left fun i hi => ?_)
  have hi := List.mem_range.mp hi
  show (Number.ofInt a).add (.ofInt i) = .ofInt ((a + i : Nat) : Int)
  rw [Number.add_int (by omega), Int.natCast_add]

/-- Every `step`-th value from `a` on, however large the step is. -/
theorem everyNth_nat {a step : Nat} (hstep : 0 < step) {l : List Nat}
    (hl : ∀ n ∈ l, a ≤ n ∧ n < 2 ^ 31) :
    everyNth (.ofInt a) (Number.round (step : Rat)) (numbers l) =
      numbers (l.filter fun n => (n - a) % step == 0) := by
  rw [everyNth, numbers, List.filter_map]
  refine congrArg _ (List.filter_congr fun n hn => ?_)
  obtain ⟨hlow, hhigh⟩ := hl n hn
  show Number.divides _ ((Number.ofInt n).sub (.ofInt a)) = _
  rw [Number.sub_int (by omega), ← Int.ofNat_sub hlow]
  exact Number.divides_round hstep (by omega)

/-- No value is a multiple of NaN. -/
theorem everyNth_nan (start : Number) (values : List Number) : everyNth start .nan values = [] :=
  List.filter_eq_nil_iff.mpr fun value _ => by
    rw [Number.not_nan_divides]
    exact Bool.false_ne_true

/-- An array that begins or ends at NaN is empty. -/
theorem span_nan_start (stop : Number) : span .nan stop = some [] := by
  rw [span, Number.sub_nan]
  rfl

theorem span_nan_stop (start : Number) : span start .nan = some [] := rfl

/-- `expr.trim().split(/\s+/)`; the one empty field of an empty expression is left out, as there
    are too few in either case. -/
def fields (expr : String) : List (List Char) :=
  (expr.toList.splitOnP Number.isSpace).filter fun field => !field.isEmpty

/-- The values of the five fields. -/
structure Values where
  minute : List Number
  hour : List Number
  day : List Number
  month : List Number
  weekday : List Number
  deriving DecidableEq

/-- The date has all five fields among the values. -/
def Values.includes (v : Values) (date : Civil) : Bool :=
  Web.includes v.minute date.minute && Web.includes v.hour date.hour &&
    Web.includes v.day date.day && Web.includes v.month date.month &&
    Web.includes v.weekday date.weekday

/-- The five calls of `parseField`. -/
def parseFields (minute hour day month weekday : List Char) : Option Values := do
  pure {
    minute := ← parseField minute 0 59
    hour := ← parseField hour 0 23
    day := ← parseField day 1 31
    month := ← parseField month 1 12
    weekday := ← parseField weekday 0 6 }

/-- `matches`; fields after the fifth are not looked at. -/
def dateMatches (expr : String) (date : Civil) : Option Bool :=
  match fields expr with
  | minute :: hour :: day :: month :: weekday :: _ =>
    (parseFields minute hour day month weekday).map fun values => values.includes date
  | _ => some false

/-- All five fields are read. -/
theorem parseFields_eq {minute hour day month weekday : List Char} {v : Values}
    (hminute : parseField minute 0 59 = some v.minute) (hhour : parseField hour 0 23 = some v.hour)
    (hday : parseField day 1 31 = some v.day) (hmonth : parseField month 1 12 = some v.month)
    (hweekday : parseField weekday 0 6 = some v.weekday) :
    parseFields minute hour day month weekday = some v := by
  rw [parseFields, hminute, hhour, hday, hmonth, hweekday]
  rfl

/-- An expression whose five fields can be read. -/
theorem dateMatches_of_fields {expr : String} {minute hour day month weekday : List Char}
    {rest : List (List Char)} {values : Values}
    (hfields : fields expr = minute :: hour :: day :: month :: weekday :: rest)
    (hvalues : parseFields minute hour day month weekday = some values) (date : Civil) :
    dateMatches expr date = some (values.includes date) := by
  rw [dateMatches, hfields]
  show (parseFields minute hour day month weekday).map _ = _
  rw [hvalues]
  rfl

/-! ## The walk -/

/-- `date.setSeconds(0, 0)`. -/
def wholeMinute (zone : Zone) (t : Int) : Int :=
  zone.fromLocal (zone.toLocal t - zone.toLocal t % 60000)

/-- `date.setMinutes(date.getMinutes() + 1)`. -/
def addMinute (zone : Zone) (t : Int) : Int := zone.fromLocal (zone.toLocal t + 60000)

/-- The local date of an instant. -/
def localDate (zone : Zone) (t : Int) : Civil := civil (zone.toLocal t / 60000)

/-- The loop of `nextRuns`, with the attempts and the runs that are left. -/
def walk (zone : Zone) (expr : String) : Nat → Nat → Int → Option (List Int)
  | 0, _, _ => some []
  | _ + 1, 0, _ => some []
  | attempts + 1, count + 1, cursor => do
    let cursor := addMinute zone cursor
    if ← dateMatches expr (localDate zone cursor) then
      return cursor :: (← walk zone expr attempts count cursor)
    else walk zone expr attempts (count + 1) cursor

/-- `nextRuns`, at the time `now`; `none` if it raises. -/
def nextRuns (zone : Zone) (expr : String) (count : Nat) (now : Int) : Option (List Int) :=
  walk zone expr 100000 count (wholeMinute zone now)

/-- The minutes the walk can visit. -/
def visited (zone : Zone) (now : Int) : List Int :=
  Ascending.orbit (addMinute zone) 100000 (wholeMinute zone now)

/-- The walk moves on: what it visits ascends. -/
theorem visited_ascending (zone : Zone) (now : Int) : (visited zone now).Pairwise (· < ·) := by
  have hup := Ascending.orbit_ascending (f := addMinute zone)
    (I := fun t => ∃ l, t = zone.fromLocal l) (fun a _ => ⟨_, rfl⟩)
    (by rintro a ⟨l, rfl⟩; exact zone.forward l) (n := 100000)
    (a := wholeMinute zone now) ⟨_, rfl⟩
  exact hup.2

/-- Without an exception, the walk keeps the first minutes that match. -/
theorem walk_eq {zone : Zone} {expr : String} {p : Civil → Bool}
    (hp : ∀ date, dateMatches expr date = some (p date)) : ∀ (attempts count : Nat) (cursor : Int),
      walk zone expr attempts count cursor =
        some (((Ascending.orbit (addMinute zone) attempts cursor).filter
          fun t => p (localDate zone t)).take count) := by
  intro attempts
  induction attempts with
  | zero =>
    intro count cursor
    show some [] = some (List.take count [])
    rw [List.take_nil]
  | succ attempts ih =>
    intro count cursor
    cases count with
    | zero => rfl
    | succ count =>
      show (do
        if ← dateMatches expr (localDate zone (addMinute zone cursor)) then
          return addMinute zone cursor :: (← walk zone expr attempts count (addMinute zone cursor))
        else walk zone expr attempts (count + 1) (addMinute zone cursor)) = _
      rw [hp, ih, ih]
      show (if p (localDate zone (addMinute zone cursor)) = true then _ else _) =
        some (((addMinute zone cursor :: _).filter _).take (count + 1))
      rw [List.filter_cons]
      split
      · rfl
      · rfl

/-- **What the preview lists**: the first matching minutes among those it visits. -/
theorem nextRuns_eq {expr : String} {p : Civil → Bool}
    (hp : ∀ date, dateMatches expr date = some (p date)) (zone : Zone) (count : Nat) (now : Int) :
    nextRuns zone expr count now =
      some (((visited zone now).filter fun t => p (localDate zone t)).take count) :=
  walk_eq hp 100000 count (wholeMinute zone now)

end Web

end Dtsys
