/-
  THE AUDIT STREAM, `_audit_sse_generator`: it polls the table for rows with a later `timestamp` than the
  last one it sent, 50 at a time.

  A row carries the time its transaction BEGAN, and is there to be read when it commits.  So a row can
  come in behind one that has been sent, and the rows of one transaction, all with one `timestamp`, can
  be cut by the limit.  Neither is read later.

  The two queries of a poll see the table at two moments; the rows of a batch are read at once, and sent
  one after another.  A run is the life of the generator, which ends at the `break` of its loop or at a
  `yield`.  A query that raises ends the poll.  No code of the server deletes or changes an audit row.

  1. `step` — the transactions, and the polls;
  2. `Inv` — the generator is a reader of the table by a watermark, in EVERY run;
  3. `exactly_once_iff` — the runs in which no row is lost;
  4. `lost_forever` — a row that is lost is not sent later.
-/
import Dtsys.Lib.Run
import Dtsys.Lib.Watermark
import Dtsys.Server.Values
import Mathlib.Logic.Function.Basic

namespace Dtsys

/-- A row of `audit_log`; `columns` is what is only written out. -/
structure AuditRow (α : Type) where
  id : Uuid
  timestamp : Nat
  columns : α
  deriving DecidableEq

/-- Where the generator is. -/
inductive PollPhase (α : Type) where
  /-- Before the bootstrap query. -/
  | boot
  /-- Between two polls. -/
  | idle
  /-- `last_ts` has been read. -/
  | asked (lastTs : Option Nat)
  /-- The rows still to be sent. -/
  | sending (rows : List (AuditRow α))

/-- The rows of the batch that are not sent yet. -/
def PollPhase.batch {α : Type} : PollPhase α → List (AuditRow α)
  | .sending rows => rows
  | _ => []

/-- The open transactions with their times, the table in the order of the commits, the generator, what it
    has sent, and how many rows the bootstrap query saw. -/
structure AuditStream (α : Type) where
  began : Nat → Option Nat
  log : List (AuditRow α)
  lastId : Option Uuid
  phase : PollPhase α
  sent : List (AuditRow α)
  base : Nat

namespace AuditStream

variable {α : Type}

/-- Nothing is in the log, and the generator is in front of its first query. -/
def start : AuditStream α := ⟨fun _ => none, [], none, .boot, [], 0⟩

/-- `.limit(50)`. -/
def limit : Nat := 50

/-- The `timestamp` of the row with the id; none without one. -/
def timestampOf (log : List (AuditRow α)) (id : Option Uuid) : Option Nat :=
  id.bind fun id => (log.find? fun row => row.id == id).map AuditRow.timestamp

/-- What `last_ts` would be. -/
def lastTs (s : AuditStream α) : Option Nat := timestampOf s.log s.lastId

/-- The rows a transaction that began at `t` inserts. -/
def rowsAt (t : Nat) (entries : List (Uuid × α)) : List (AuditRow α) :=
  entries.map fun (id, columns) => ⟨id, t, columns⟩

/-- What the requests commit, and what the generator does. -/
inductive Label (α : Type) where
  /-- The transaction `n` begins at `t`. -/
  | begin (n t : Nat)
  /-- The transaction `n` commits with its new rows. -/
  | commit (n : Nat) (entries : List (Uuid × α))
  /-- The bootstrap query returns a row with the greatest `timestamp`. -/
  | boot (latest : Option (AuditRow α))
  /-- The query for `last_ts`. -/
  | ask
  /-- The query for the rows, without its limit, in the order the database chose. -/
  | rows (order : List (AuditRow α))
  /-- `yield`. -/
  | send
  /-- The loop over the rows is at its end. -/
  | done
  /-- A query raises. -/
  | fail

/-- `latest` is a row of the table with the greatest `timestamp`. -/
def IsLatest (log : List (AuditRow α)) : Option (AuditRow α) → Prop
  | none => log = []
  | some latest => latest ∈ log ∧ ∀ row ∈ log, row.timestamp ≤ latest.timestamp

instance [DecidableEq α] (log : List (AuditRow α)) : ∀ latest, Decidable (IsLatest log latest)
  | none => inferInstanceAs (Decidable (log = []))
  | some _ => inferInstanceAs (Decidable (_ ∧ _))

section

variable [DecidableEq α]

/-- One step. -/
def step (s : AuditStream α) : Label α → Option (AuditStream α)
  | .begin n t => some { s with began := Function.update s.began n (some t) }
  | .commit n entries =>
    match s.began n with
    | none => none
    | some t =>
      let log := s.log ++ rowsAt t entries
      -- `id` is the primary key
      if (log.map AuditRow.id).Nodup then
        some { s with began := Function.update s.began n none, log := log }
      else none
  | .boot latest =>
    match s.phase with
    | .boot =>
      if IsLatest s.log latest then
        some { s with lastId := latest.map AuditRow.id, phase := .idle, base := s.log.length }
      else none
    | _ => none
  | .ask =>
    match s.phase with
    | .idle => some { s with phase := .asked s.lastTs }
    | _ => none
  | .rows order =>
    match s.phase with
    | .asked last =>
      if order.Perm (s.log.filter fun row => Watermark.Above AuditRow.timestamp last row) ∧
          order.Pairwise fun a b => a.timestamp ≤ b.timestamp then
        some { s with phase := .sending (order.take limit) }
      else none
    | _ => none
  | .send =>
    match s.phase with
    | .sending (row :: rest) =>
      some { s with lastId := some row.id, phase := .sending rest, sent := s.sent ++ [row] }
    | _ => none
  | .done =>
    match s.phase with
    | .sending [] => some { s with phase := .idle }
    | _ => none
  | .fail =>
    match s.phase with
    | .idle | .asked _ => some { s with phase := .idle }
    | _ => none

/-! ## What a step does -/

omit [DecidableEq α] in
/-- What a step can do. -/
inductive Moved (s : AuditStream α) : Label α → AuditStream α → Prop
  | begun (n t : Nat) : Moved s (.begin n t) { s with began := Function.update s.began n (some t) }
  | committed {n t : Nat} {entries : List (Uuid × α)} (hbegan : s.began n = some t)
      (hkeys : ((s.log ++ rowsAt t entries).map AuditRow.id).Nodup) :
      Moved s (.commit n entries)
        { s with began := Function.update s.began n none, log := s.log ++ rowsAt t entries }
  | booted {latest : Option (AuditRow α)} (hphase : s.phase = .boot) (hlatest : IsLatest s.log latest) :
      Moved s (.boot latest)
        { s with lastId := latest.map AuditRow.id, phase := .idle, base := s.log.length }
  | asked (hphase : s.phase = .idle) : Moved s .ask { s with phase := .asked s.lastTs }
  | found {last : Option Nat} {order : List (AuditRow α)} (hphase : s.phase = .asked last)
      (hfound : Watermark.Found AuditRow.timestamp s.log last order) :
      Moved s (.rows order) { s with phase := .sending (order.take limit) }
  | sent {row : AuditRow α} {rest : List (AuditRow α)} (hphase : s.phase = .sending (row :: rest)) :
      Moved s .send { s with lastId := some row.id, phase := .sending rest, sent := s.sent ++ [row] }
  | finished (hphase : s.phase = .sending []) : Moved s .done { s with phase := .idle }
  | failed (hphase : s.phase = .idle ∨ ∃ last, s.phase = .asked last) :
      Moved s .fail { s with phase := .idle }

/-- Every step moves the stream in one of three ways. -/
theorem step_moved {s t : AuditStream α} {l : Label α} (hs : step s l = some t) : Moved s l t := by
  cases l with
  | begin n time =>
    obtain rfl := Option.some.inj hs
    exact .begun n time
  | commit n entries =>
    dsimp only [step] at hs
    split at hs
    · cases hs
    · rename_i hbegan
      split at hs
      · rename_i hkeys
        obtain rfl := Option.some.inj hs
        exact .committed hbegan hkeys
      · cases hs
  | boot latest =>
    dsimp only [step] at hs
    split at hs
    · rename_i hphase
      split at hs
      · rename_i hlatest
        obtain rfl := Option.some.inj hs
        exact .booted hphase hlatest
      · cases hs
    · cases hs
  | ask =>
    dsimp only [step] at hs
    split at hs
    · rename_i hphase
      obtain rfl := Option.some.inj hs
      exact .asked hphase
    · cases hs
  -- Rows of one timestamp come in whatever order the database likes, and the limit cuts after it.
  | rows order =>
    dsimp only [step] at hs
    split at hs
    · rename_i hphase
      split at hs
      · rename_i hfound
        obtain rfl := Option.some.inj hs
        exact .found hphase ⟨hfound.1, hfound.2⟩
      · cases hs
    · cases hs
  | send =>
    dsimp only [step] at hs
    split at hs
    · rename_i hphase
      obtain rfl := Option.some.inj hs
      exact .sent hphase
    · cases hs
  | done =>
    dsimp only [step] at hs
    split at hs
    · rename_i hphase
      obtain rfl := Option.some.inj hs
      exact .finished hphase
    · cases hs
  -- An exception ends the round and leaves the watermark, so the next round asks again.
  | fail =>
    dsimp only [step] at hs
    split at hs
    · rename_i hphase
      obtain rfl := Option.some.inj hs
      exact .failed (.inl hphase)
    · rename_i last hphase
      obtain rfl := Option.some.inj hs
      exact .failed (.inr ⟨last, hphase⟩)
    · cases hs

end

/-! ## A reader by a watermark -/

variable {s t : AuditStream α}

/-- The rows that are sent or about to be. -/
def taken (s : AuditStream α) : List (AuditRow α) := s.sent ++ s.phase.batch

/-- The `timestamp` the generator asks beyond, once the batch is sent. -/
def mark (s : AuditStream α) : Option Nat := Watermark.advance AuditRow.timestamp s.lastTs s.phase.batch

/-- The rows that committed after the bootstrap query. -/
def later (s : AuditStream α) : List (AuditRow α) := s.log.drop s.base

/-- What holds of the generator and the log. -/
structure Inv (s : AuditStream α) : Prop where
  keys : (s.log.map AuditRow.id).Nodup
  /-- The row `last_id` is in the table. -/
  cursor : ∀ id, s.lastId = some id → ∃ row ∈ s.log, row.id = id
  asked : ∀ last, s.phase = .asked last → last = s.lastTs
  booting : s.phase = .boot → s.sent = [] ∧ s.lastId = none ∧ s.base = 0
  reading : Watermark.Reading AuditRow.timestamp s.log s.base s.taken s.mark

/-- Every row that committed after the bootstrap query is sent, about to be, or asked for by the next
    poll. -/
def Kept (s : AuditStream α) : Prop := Watermark.Kept AuditRow.timestamp s.log s.base s.taken s.mark

theorem inv_start : Inv (start : AuditStream α) where
  keys := List.nodup_nil
  cursor := fun _ h => nomatch h
  asked := fun _ h => nomatch h
  booting := fun _ => ⟨rfl, rfl, rfl⟩
  reading := .start List.nodup_nil fun _ h => nomatch h

theorem kept_start : Kept (start : AuditStream α) := Watermark.Kept.start

/-- What a step leaves as it is, seen from the reader. -/
structure Still (s t : AuditStream α) : Prop where
  log : t.log = s.log
  base : t.base = s.base
  taken : t.taken = s.taken
  mark : t.mark = s.mark

/-- A step that leaves the log alone leaves the reading alone. -/
theorem Still.reading (h : Still s t)
    (hr : Watermark.Reading AuditRow.timestamp s.log s.base s.taken s.mark) :
    Watermark.Reading AuditRow.timestamp t.log t.base t.taken t.mark := by
  rw [h.log, h.base, h.taken, h.mark]
  exact hr

theorem Still.kept (h : Still s t) : Kept t ↔ Kept s := by
  unfold Kept
  rw [h.log, h.base, h.taken, h.mark]

/-- The row with the id of a row is that row. -/
theorem find?_id {log : List (AuditRow α)} (hkeys : (log.map AuditRow.id).Nodup) {row : AuditRow α}
    (hrow : row ∈ log) : (log.find? fun r => r.id == row.id) = some row := by
  have hsome : (log.find? fun r => r.id == row.id).isSome = true :=
    List.find?_isSome.mpr ⟨row, hrow, beq_self_eq_true _⟩
  obtain ⟨r, hr⟩ := Option.isSome_iff_exists.mp hsome
  have hid : r.id = row.id := by simpa using List.find?_some hr
  have heq : r = row := List.inj_on_of_nodup_map hkeys (List.mem_of_find?_eq_some hr) hrow hid
  rw [hr, heq]

/-- The watermark is the time of the row it names. -/
theorem timestampOf_row {log : List (AuditRow α)} (hkeys : (log.map AuditRow.id).Nodup)
    {row : AuditRow α} (hrow : row ∈ log) : timestampOf log (some row.id) = some row.timestamp := by
  show (log.find? fun r => r.id == row.id).map AuditRow.timestamp = _
  rw [find?_id hkeys hrow]
  rfl

/-- New rows do not change the `timestamp` of the row `last_id`. -/
theorem Inv.timestampOf_append (h : Inv s) (rows : List (AuditRow α)) :
    timestampOf (s.log ++ rows) s.lastId = s.lastTs := by
  rw [lastTs, timestampOf]
  cases hid : s.lastId with
  | none => rfl
  | some id =>
    obtain ⟨row, hrow, rfl⟩ := h.cursor id hid
    show ((s.log ++ rows).find? _).map _ = (s.log.find? _).map _
    rw [List.find?_append, find?_id h.keys hrow]
    rfl

/-- The row of the bootstrap query has passed every row. -/
theorem not_above_latest {log : List (AuditRow α)} (hkeys : (log.map AuditRow.id).Nodup)
    {latest : Option (AuditRow α)} (h : IsLatest log latest) : ∀ row ∈ log,
      ¬ Watermark.Above AuditRow.timestamp (timestampOf log (latest.map AuditRow.id)) row := by
  intro row hrow
  cases latest with
  | none =>
    rw [show log = [] from h] at hrow
    nomatch hrow
  | some latest =>
    rw [Option.map_some, timestampOf_row hkeys h.1]
    exact Nat.not_lt.mpr (h.2 row hrow)

/-! ## Steps the reader does not see -/

/-- A step outside a batch. -/
theorem still_phase {phase : PollPhase α} (hs : s.phase.batch = []) (ht : phase.batch = []) :
    Still s { s with phase := phase } where
  log := rfl
  base := rfl
  taken := by
    unfold taken
    rw [hs, ht]
  mark := by
    unfold mark
    rw [hs, ht]
    rfl

/-- A row that is sent was counted as taken before. -/
theorem still_sent (h : Inv s) {row : AuditRow α} {rest : List (AuditRow α)}
    (hphase : s.phase = .sending (row :: rest)) :
    row ∈ s.log ∧
      Still s { s with lastId := some row.id, phase := .sending rest, sent := s.sent ++ [row] } := by
  have hrow : row ∈ s.log := by
    refine List.mem_of_mem_drop (h.reading.new row ?_)
    rw [taken, hphase]
    exact List.mem_append_right _ List.mem_cons_self
  refine ⟨hrow, rfl, rfl, ?_, ?_⟩
  · unfold taken
    rw [hphase]
    exact List.append_assoc ..
  · unfold mark lastTs
    rw [hphase]
    show Watermark.advance _ (timestampOf s.log (some row.id)) rest =
      Watermark.advance _ _ (row :: rest)
    rw [timestampOf_row h.keys hrow, Watermark.advance_cons]

/-! ## Every step -/

/-- A commit lies beyond what has been read, and a batch does not end inside a group of rows with one
    `timestamp`. -/
def Careful (s : AuditStream α) : Label α → Prop
  | .commit n entries => ∀ t ∈ s.began n, entries ≠ [] → ∀ last ∈ s.mark, last < t
  | .rows order => ∀ last ∈ (order.take limit).getLast?,
      ∀ row ∈ order.drop limit, last.timestamp < row.timestamp
  | _ => True

instance (s : AuditStream α) : ∀ l, Decidable (Careful s l)
  | .commit n entries =>
    inferInstanceAs (Decidable (∀ t ∈ s.began n, entries ≠ [] → ∀ last ∈ s.mark, last < t))
  | .rows order => inferInstanceAs (Decidable (∀ last ∈ (order.take limit).getLast?,
      ∀ row ∈ order.drop limit, last.timestamp < row.timestamp))
  | .begin _ _ | .boot _ | .ask | .send | .done | .fail => .isTrue trivial

/-- Rows of one batch are all above a mark, or none is. -/
theorem above_rowsAt_iff {time : Nat} {entries : List (Uuid × α)} {last : Option Nat} :
    (∀ row ∈ rowsAt time entries, Watermark.Above AuditRow.timestamp last row) ↔
      (entries ≠ [] → ∀ m ∈ last, m < time) := by
  rw [rowsAt]
  cases last with
  | none => exact iff_of_true (fun _ _ => trivial) fun _ _ h => nomatch h
  | some m =>
    constructor
    · intro hall hne m' hm
      obtain rfl := Option.some.inj hm
      obtain ⟨entry, hentry⟩ := List.exists_mem_of_ne_nil entries hne
      exact hall _ (List.mem_map_of_mem hentry)
    · intro hlt row hrow
      obtain ⟨entry, hentry, rfl⟩ := List.mem_map.mp hrow
      exact hlt (List.ne_nil_of_mem hentry) m rfl

/-- What is left of a full page is above the mark exactly when its times are later. -/
theorem above_rest_iff {order : List (AuditRow α)} {last : Option Nat} :
    (∀ row ∈ order.drop limit, Watermark.Above AuditRow.timestamp
        (Watermark.advance AuditRow.timestamp last (order.take limit)) row) ↔
      ∀ r ∈ (order.take limit).getLast?, ∀ row ∈ order.drop limit, r.timestamp < row.timestamp := by
  cases hlast : (order.take limit).getLast? with
  | none =>
    -- then nothing was found
    have hnone : order = [] := by
      have htake := List.getLast?_eq_none_iff.mp hlast
      cases order with
      | nil => rfl
      | cons row order => nomatch htake
    rw [hnone]
    exact iff_of_true (fun _ h => nomatch h) fun _ h => nomatch h
  | some r =>
    rw [Watermark.advance_of_getLast? hlast]
    constructor
    · intro hall r' hr'
      obtain rfl := Option.some.inj hr'
      exact hall
    · exact fun hall => hall r rfl

/-- A batch is read. -/
theorem Inv.found (h : Inv s) {last : Option Nat} {order : List (AuditRow α)}
    (hphase : s.phase = .asked last) (hfound : Watermark.Found AuditRow.timestamp s.log last order) :
    Watermark.Found AuditRow.timestamp s.log s.mark order ∧
      taken { s with phase := .sending (order.take limit) } = s.taken ++ order.take limit ∧
      mark { s with phase := .sending (order.take limit) } =
        Watermark.advance AuditRow.timestamp s.mark (order.take limit) := by
  have htaken : s.taken = s.sent := by
    rw [taken, hphase]
    exact List.append_nil _
  have hmark : s.mark = s.lastTs := by
    rw [mark, hphase]
    rfl
  rw [htaken, hmark, ← h.asked last hphase]
  refine ⟨hfound, rfl, ?_⟩
  rw [h.asked last hphase]
  rfl

/-- New rows are put behind the table. -/
theorem Inv.mark_append (h : Inv s) (began : Nat → Option Nat) (rows : List (AuditRow α)) :
    mark { s with began := began, log := s.log ++ rows } = s.mark :=
  congrArg (Watermark.advance _ · _) (h.timestampOf_append rows)

theorem inv_moved {l : Label α} (hm : Moved s l t) (h : Inv s) : Inv t := by
  cases hm with
  | begun n time => exact ⟨h.keys, h.cursor, h.asked, h.booting, h.reading⟩
  -- The log grows at its end, so every row it had keeps its place and its timestamp.
  | @committed n time entries hbegan hkeys =>
    refine ⟨hkeys, ?_, ?_, h.booting, ?_⟩
    · intro id hid
      obtain ⟨row, hrow, hrid⟩ := h.cursor id hid
      exact ⟨row, List.mem_append_left _ hrow, hrid⟩
    · exact fun last hlast => (h.asked last hlast).trans (h.timestampOf_append _).symm
    · rw [h.mark_append]
      exact h.reading.append (hkeys.of_map _)
  -- The watermark is the greatest timestamp there is: nothing of the log is above it.
  | @booted latest hphase hlatest =>
    obtain ⟨hsent, -, -⟩ := h.booting hphase
    refine ⟨h.keys, ?_, fun _ hlast => (nomatch hlast), fun hboot => (nomatch hboot), ?_⟩
    · intro id hid
      obtain ⟨row, hrow, rfl⟩ := Option.map_eq_some_iff.mp hid
      rw [hrow] at hlatest
      exact ⟨row, hlatest.1, rfl⟩
    · show Watermark.Reading _ s.log s.log.length (s.sent ++ []) (timestampOf s.log _)
      rw [hsent]
      exact .start (h.keys.of_map _) (not_above_latest h.keys hlatest)
  | asked hphase =>
    have hstill : Still s { s with phase := .asked s.lastTs } :=
      still_phase (congrArg PollPhase.batch hphase) rfl
    refine ⟨h.keys, h.cursor, fun last hlast => ?_, fun hboot => (nomatch hboot),
      hstill.reading h.reading⟩
    exact (PollPhase.asked.inj hlast).symm
  | @found last order hphase hfound =>
    obtain ⟨hfound, htaken, hmark⟩ := h.found hphase hfound
    refine ⟨h.keys, h.cursor, fun _ hlast => (nomatch hlast), fun hboot => (nomatch hboot), ?_⟩
    rw [htaken, hmark]
    exact h.reading.batch hfound limit
  | @sent row rest hphase =>
    obtain ⟨hrow, hstill⟩ := still_sent h hphase
    refine ⟨h.keys, ?_, fun _ hlast => (nomatch hlast), fun hboot => (nomatch hboot),
      hstill.reading h.reading⟩
    intro id hid
    exact ⟨row, hrow, Option.some.inj hid⟩
  | finished hphase =>
    have hstill : Still s { s with phase := .idle } := still_phase (congrArg PollPhase.batch hphase) rfl
    exact ⟨h.keys, h.cursor, fun _ hlast => (nomatch hlast), fun hboot => (nomatch hboot),
      hstill.reading h.reading⟩
  | failed hphase =>
    have hbatch : s.phase.batch = [] := by
      rcases hphase with hphase | ⟨last, hphase⟩ <;> rw [hphase] <;> rfl
    have hstill : Still s { s with phase := .idle } := still_phase hbatch rfl
    exact ⟨h.keys, h.cursor, fun _ hlast => (nomatch hlast), fun hboot => (nomatch hboot),
      hstill.reading h.reading⟩

/-- **The condition is exact**, step by step: a row is lost by a step that does not meet it. -/
theorem kept_moved_iff {l : Label α} (hm : Moved s l t) (h : Inv s) (hkept : Kept s) :
    Kept t ↔ Careful s l := by
  cases hm with
  | begun n time => exact iff_of_true hkept trivial
  | @committed n time entries hbegan hkeys =>
    have hgrown : Kept { s with
        began := Function.update s.began n none, log := s.log ++ rowsAt time entries } ↔
        ∀ row ∈ rowsAt time entries, Watermark.Above AuditRow.timestamp s.mark row := by
      rw [Kept, h.mark_append]
      exact Watermark.kept_append_iff h.reading (hkeys.of_map _) hkept
    rw [hgrown, above_rowsAt_iff]
    constructor
    · intro hall time' hbegan'
      obtain rfl : time = time' := Option.some.inj (hbegan.symm.trans hbegan')
      exact hall
    · exact fun hall => hall time hbegan
  | booted hphase hlatest =>
    refine iff_of_true (fun row hrow => ?_) trivial
    rw [List.drop_length] at hrow
    nomatch hrow
  | asked hphase =>
    exact iff_of_true ((still_phase (congrArg PollPhase.batch hphase) rfl).kept.mpr hkept) trivial
  | @found last order hphase hfound =>
    obtain ⟨hfound, htaken, hmark⟩ := h.found hphase hfound
    rw [Kept, htaken, hmark]
    exact (Watermark.kept_batch_iff h.reading hfound hkept).trans above_rest_iff
  | sent hphase => exact iff_of_true ((still_sent h hphase).2.kept.mpr hkept) trivial
  | finished hphase =>
    exact iff_of_true ((still_phase (congrArg PollPhase.batch hphase) rfl).kept.mpr hkept) trivial
  | failed hphase =>
    have hbatch : s.phase.batch = [] := by
      rcases hphase with hphase | ⟨last, hphase⟩ <;> rw [hphase] <;> rfl
    exact iff_of_true ((still_phase hbatch rfl).kept.mpr hkept) trivial

/-! ## Exactly once -/

/-- What is asked of the stream. -/
structure ExactlyOnce (s : AuditStream α) : Prop where
  once : s.sent.Nodup
  /-- No row is sent that committed before the bootstrap query. -/
  new : ∀ row ∈ s.sent, row ∈ s.later ∧ row ∉ s.log.take s.base
  /-- A row that committed after it is sent, waits in the batch, or is asked for by the next poll. -/
  kept : ∀ row ∈ s.later, row ∈ s.sent ∨ row ∈ s.phase.batch ∨
    Watermark.Above AuditRow.timestamp s.mark row

/-- Exactly once, in other words. -/
theorem Inv.exactlyOnce (h : Inv s) : ExactlyOnce s ↔ Kept s := by
  constructor
  · intro honce row hrow
    rcases honce.kept row hrow with hsent | hbatch | habove
    · exact .inl (List.mem_append_left _ hsent)
    · exact .inl (List.mem_append_right _ hbatch)
    · exact .inr habove
  · intro hkept
    have hdistinct := h.reading.distinct
    rw [← List.take_append_drop s.base s.log] at hdistinct
    refine ⟨(List.nodup_append.mp h.reading.once).1, fun row hrow => ?_, fun row hrow => ?_⟩
    · have hlater := h.reading.new row (List.mem_append_left _ hrow)
      exact ⟨hlater, fun hold => (List.nodup_append.mp hdistinct).2.2 row hold row hlater rfl⟩
    · rcases hkept row hrow with htaken | habove
      · exact (List.mem_append.mp htaken).imp id .inl
      · exact .inr (.inr habove)

/-- A row that has been passed is not sent. -/
structure Lost (row : AuditRow α) (s : AuditStream α) : Prop where
  inv : Inv s
  taken : row ∉ s.taken
  passed : ¬ Watermark.Above AuditRow.timestamp s.mark row

/-- A row that is lost stays lost. -/
theorem Lost.moved {row : AuditRow α} {l : Label α} (hm : Moved s l t) (h : Lost row s) : Lost row t := by
  have hinv : Inv t := inv_moved hm h.inv
  have hstill : Still s t → Lost row t := fun hstill =>
    ⟨hinv, hstill.taken ▸ h.taken, hstill.mark ▸ h.passed⟩
  cases hm with
  | begun n time => exact ⟨hinv, h.taken, h.passed⟩
  | committed hbegan hkeys => exact ⟨hinv, h.taken, by rw [h.inv.mark_append]; exact h.passed⟩
  | booted hphase hlatest =>
    -- nothing has been passed yet
    obtain ⟨-, hid, -⟩ := h.inv.booting hphase
    refine absurd ?_ h.passed
    rw [mark, lastTs, hphase, hid]
    trivial
  | asked hphase => exact hstill (still_phase (congrArg PollPhase.batch hphase) rfl)
  | @found last order hphase hfound =>
    obtain ⟨hfound, htaken, hmark⟩ := h.inv.found hphase hfound
    refine ⟨hinv, ?_, ?_⟩
    · rw [htaken]
      intro hrow
      rcases List.mem_append.mp hrow with hrow | hrow
      · exact h.taken hrow
      · exact hfound.not_mem_of_passed h.passed (List.mem_of_mem_take hrow)
    · rw [hmark]
      exact Watermark.not_above_advance (fun r hr => (hfound.mem.mp (List.mem_of_mem_take hr)).2) h.passed
  | sent hphase => exact hstill (still_sent h.inv hphase).2
  | finished hphase => exact hstill (still_phase (congrArg PollPhase.batch hphase) rfl)
  | failed hphase =>
    have hbatch : s.phase.batch = [] := by
      rcases hphase with hphase | ⟨last, hphase⟩ <;> rw [hphase] <;> rfl
    exact hstill (still_phase hbatch rfl)

section

variable [DecidableEq α]

/-- A row that has been passed is not sent in any continuation. -/
theorem lost_forever {row : AuditRow α} (h : Lost row s) {ls : List (Label α)}
    (hrun : Run.exec step s ls = some t) : row ∉ t.sent := by
  have hlost : Lost row t := Run.exec_inv (C := fun _ _ => True)
    (fun _ _ _ _ hs => Lost.moved (step_moved hs)) (Run.guarded_true ls _) hrun h
  exact fun hrow => hlost.taken (List.mem_append_left _ hrow)

/-- A step that meets the condition. -/
theorem good_step {l : Label α} (hcareful : Careful s l) (hs : step s l = some t) (h : Inv s ∧ Kept s) :
    Inv t ∧ Kept t :=
  ⟨inv_moved (step_moved hs) h.1, (kept_moved_iff (step_moved hs) h.1 h.2).mpr hcareful⟩

theorem inv_run {ls : List (Label α)} (hrun : Run.exec step start ls = some s) : Inv s :=
  Run.exec_inv (C := fun _ _ => True) (fun _ _ _ _ hs => inv_moved (step_moved hs))
    (Run.guarded_true ls _) hrun inv_start

/-- **The audit stream**: it is exactly-once in every state of a run exactly if every commit lies beyond
    what has been read, and no batch ends inside a group of rows with one `timestamp`.

    A row has the time its transaction began, and is seen when the transaction commits.  The watermark is the time
    of the last row read; the invariant says what is taken below it, and `Dtsys.Lib.Watermark` when that is all
    there is. -/
theorem exactly_once_iff {ls : List (Label α)} (hrun : Run.exec step start ls = some s) :
    Run.After step (fun _ t => ExactlyOnce t) start ls ↔ Run.Guarded step Careful start ls := by
  refine Run.after_iff_guarded_of_inv (I := fun s => Inv s ∧ Kept s) ?_ ?_ hrun
    ⟨inv_start, kept_start⟩
  · intro s l t hcareful hs h
    have hgood := good_step hcareful hs h
    exact ⟨hgood, hgood.1.exactlyOnce.mpr hgood.2⟩
  · intro s l t hs ⟨hinv, hkept⟩ honce
    have hm := step_moved hs
    exact (kept_moved_iff hm hinv hkept).mp ((inv_moved hm hinv).exactlyOnce.mp honce)

/-- A row of before the bootstrap query, and two of after it. -/
def bothSent : List (Label Nat) :=
  [.begin 0 1, .commit 0 [(1, 7)], .boot (some ⟨1, 1, 7⟩), .begin 1 2, .ask, .commit 1 [(2, 8), (3, 9)],
    .rows [⟨2, 2, 8⟩, ⟨3, 2, 9⟩], .send, .send, .done]

theorem exactly_once_both : (Run.exec step start bothSent).isSome = true ∧
    Run.After step (fun _ t => ExactlyOnce t) start bothSent := by
  have hsome : (Run.exec step start bothSent).isSome = true := by decide +kernel
  obtain ⟨s, hrun⟩ := Option.isSome_iff_exists.mp hsome
  exact ⟨hsome, (exactly_once_iff hrun).mpr (by decide +kernel)⟩

/-- Of two transactions, the one that began first commits last. -/
def lateCommit : List (Label Unit) :=
  [.begin 0 1, .begin 1 2, .boot none, .commit 1 [(1, ())], .ask, .rows [⟨1, 2, ()⟩], .send, .done,
    .commit 0 [(0, ())]]

/-- Its row is behind one that has been sent, and is never sent. -/
theorem late_commit_lost : ∃ s, Run.exec step start lateCommit = some s ∧ ¬ ExactlyOnce s ∧
    ∃ row ∈ s.later, ∀ ls t, Run.exec step s ls = some t → row ∉ t.sent := by
  have hend : (Run.exec step start lateCommit).map
      (fun s => (s.later, s.sent, s.phase.batch, s.mark)) =
    some ([⟨1, 2, ()⟩, ⟨0, 1, ()⟩], [⟨1, 2, ()⟩], [], some 2) := by decide +kernel
  obtain ⟨s, hrun, hs⟩ := Option.map_eq_some_iff.mp hend
  obtain ⟨hlater, hsent, hbatch, hmark⟩ : s.later = [⟨1, 2, ()⟩, ⟨0, 1, ()⟩] ∧
      s.sent = [⟨1, 2, ()⟩] ∧ s.phase.batch = [] ∧ s.mark = some 2 := by simpa using hs
  let row : AuditRow Unit := ⟨0, 1, ()⟩
  have hrow : row ∈ s.later := by
    rw [hlater]
    decide
  have hlost : Lost row s := by
    refine ⟨inv_run hrun, ?_, ?_⟩
    · rw [taken, hsent, hbatch]
      decide
    · rw [hmark]
      decide
  refine ⟨s, hrun, fun honce => ?_, row, hrow, fun ls t ht => lost_forever hlost ht⟩
  rcases honce.kept row hrow with h | h | h
  · exact hlost.taken (List.mem_append_left _ h)
  · exact hlost.taken (List.mem_append_right _ h)
  · exact hlost.passed h

/-- A poll that finds nothing finds nothing left to send. -/
theorem all_sent {ls : List (Label α)} (hg : Run.Guarded step Careful start ls)
    (hrun : Run.exec step start ls = some s) (hnone : step s (.rows []) = some t) :
    ∀ row ∈ s.later, row ∈ s.sent := by
  obtain ⟨hinv, hkept⟩ : Inv s ∧ Kept s := Run.exec_inv (I := fun s => Inv s ∧ Kept s)
    (fun _ _ _ => good_step) hg hrun ⟨inv_start, kept_start⟩
  intro row hrow
  cases step_moved hnone with
  | found hphase hfound =>
    have hfound := (hinv.found hphase hfound).1
    rcases hkept row hrow with htaken | habove
    · rw [taken, hphase] at htaken
      simpa [PollPhase.batch] using htaken
    · nomatch hfound.mem.mpr ⟨List.mem_of_mem_drop hrow, habove⟩

end

end AuditStream

end Dtsys
