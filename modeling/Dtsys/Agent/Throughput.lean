/-
  THROUGHPUT (`collector/hardware.go`): what `applyThroughputMetrics` reports of the byte counters.

  A sample reads the counters and reports the difference to the sample before.  A read that fails gives 0,
  and a counter that went back gives the difference 0.  But 0 is also what the NEXT sample compares with:
  after a failed read, the whole counter is reported as if it had been transferred since.

  * `applyThroughputMetrics` — one sample.
  * `step_truthful_iff` — two samples in a row: exactly when no more is reported than was transferred.
  * `throughput_truthful_iff` — and so for every run of samples, since the true differences add up.
-/
import Dtsys.Agent.Payloads
import Mathlib.Data.List.Chain

namespace Dtsys

namespace Agent

/-! ## One sample -/

/-- The four counters. -/
inductive Counter
  | diskRead
  | diskWrite
  | netSent
  | netRecv
  deriving DecidableEq, Repr

/-- An entry of `disk.IOCounters`. -/
structure DiskCounters where
  readBytes : UInt64
  writeBytes : UInt64
  deriving DecidableEq

/-- An entry of `gnet.IOCounters`. -/
structure NetCounters where
  bytesSent : UInt64
  bytesRecv : UInt64
  deriving DecidableEq

/-- `collectDiskIOBytes`, by what `disk.IOCounters` returned. -/
def collectDiskIOBytes : Option (List DiskCounters) → UInt64 × UInt64
  | none => (0, 0)
  | some ioCounters =>
    ioCounters.foldl (fun sums counter => (sums.1 + counter.readBytes, sums.2 + counter.writeBytes)) (0, 0)

/-- `collectNetworkIOBytes`, by what `gnet.IOCounters` returned. -/
def collectNetworkIOBytes : Option (List NetCounters) → UInt64 × UInt64
  | some (counter :: _) => (counter.bytesSent, counter.bytesRecv)
  | some [] => (0, 0)
  | none => (0, 0)

/-- `deltaUint64`: a counter that has gone back counts as standing still. -/
def deltaUint64 (current previous : UInt64) : UInt64 :=
  if current < previous then 0 else current - previous

/-- What a call reads: the clock, and the counters of the disks and of the network. -/
structure Reading where
  now : Int
  disk : Option (List DiskCounters)
  net : Option (List NetCounters)

/-- The bytes of a counter. -/
def Reading.bytes (r : Reading) : Counter → UInt64
  | .diskRead => (collectDiskIOBytes r.disk).1
  | .diskWrite => (collectDiskIOBytes r.disk).2
  | .netSent => (collectNetworkIOBytes r.net).1
  | .netRecv => (collectNetworkIOBytes r.net).2

/-- `prevDiskReadBytes` and the others, and `prevSampleTime`. -/
structure Baseline where
  bytes : Counter → UInt64
  sampleTime : Option Int

/-- Before the first sample. -/
def Baseline.initial : Baseline := ⟨fun _ => 0, none⟩

/-- What is passed to `bytesPerSecondToMBps`. -/
structure Throughput where
  elapsed : Int
  bytes : Counter → UInt64

/-- `applyThroughputMetrics`: what it reports, if anything, and what it leaves to the next call. -/
def applyThroughputMetrics (prev : Baseline) (r : Reading) : Option Throughput × Baseline :=
  let report := prev.sampleTime.bind fun sampleTime =>
    if 0 < r.now - sampleTime then
      some ⟨r.now - sampleTime, fun c => deltaUint64 (r.bytes c) (prev.bytes c)⟩
    else none
  (report, ⟨r.bytes, some r.now⟩)

/-! ## What was transferred -/

/-- The read of the counter failed. -/
def Reading.failed (r : Reading) : Counter → Bool
  | .diskRead => r.disk.isNone
  | .diskWrite => r.disk.isNone
  | .netSent => (r.net.getD []).isEmpty
  | .netRecv => (r.net.getD []).isEmpty

/-- What the entries that were read add up to. -/
def Reading.total (r : Reading) : Counter → Nat
  | .diskRead => ((r.disk.getD []).map fun counter => counter.readBytes.toNat).sum
  | .diskWrite => ((r.disk.getD []).map fun counter => counter.writeBytes.toNat).sum
  | .netSent => ((r.net.getD []).head?.map fun counter => counter.bytesSent.toNat).getD 0
  | .netRecv => ((r.net.getD []).head?.map fun counter => counter.bytesRecv.toNat).getD 0

/-- A sample: what is read, and what has been transferred; a read that does not fail reads that. -/
structure Sample extends Reading where
  counted : Counter → Nat
  honest : ∀ c, toReading.failed c = false → toReading.total c = counted c

/-- Nothing goes back. -/
def Grows (s s' : Sample) : Prop := ∀ c, s.counted c ≤ s'.counted c

/-- What a call reports of a counter. -/
def reportedBytes (prev : Baseline) (s : Sample) (c : Counter) : Nat :=
  match (applyThroughputMetrics prev s.toReading).1 with
  | some report => (report.bytes c).toNat
  | none => 0

/-- The baseline after some samples. -/
def baselineAfter (prev : Baseline) (samples : List Sample) : Baseline :=
  samples.foldl (fun prev s => (applyThroughputMetrics prev s.toReading).2) prev

/-- What the samples report of a counter, all together. -/
def reportedSum (prev : Baseline) : List Sample → Counter → Nat
  | [], _ => 0
  | s :: samples, c =>
    reportedBytes prev s c + reportedSum (applyThroughputMetrics prev s.toReading).2 samples c

/-- In any run of samples, the ones after the first report no more than was transferred from the first to
    the last. -/
def Truthful (samples : List Sample) : Prop :=
  ∀ before first run after, samples = before ++ first :: (run ++ after) → ∀ c,
    first.counted c + reportedSum (baselineAfter .initial (before ++ [first])) run c ≤
      ((first :: run).getLast (List.cons_ne_nil _ _)).counted c

/-- The second sample does not read, later, a counter that the first one could not; unless that one had
    counted nothing (or no more than the 64 bits of the counter have lost until the second). -/
def Continues (s s' : Sample) : Prop :=
  ∀ c, (s.failed c = true ∧ s'.failed c = false ∧ s.now < s'.now) →
    s.counted c ≤ s'.counted c / 2 ^ 64 * 2 ^ 64

/-! ## What is read -/

/-- The sums over the disks are those modulo 2⁶⁴. -/
theorem toNat_diskSums : ∀ (ioCounters : List DiskCounters) (sums : UInt64 × UInt64),
    (ioCounters.foldl (fun sums counter => (sums.1 + counter.readBytes, sums.2 + counter.writeBytes))
        sums).1.toNat =
      (sums.1.toNat + (ioCounters.map fun counter => counter.readBytes.toNat).sum) % 2 ^ 64 ∧
    (ioCounters.foldl (fun sums counter => (sums.1 + counter.readBytes, sums.2 + counter.writeBytes))
        sums).2.toNat =
      (sums.2.toNat + (ioCounters.map fun counter => counter.writeBytes.toNat).sum) % 2 ^ 64 := by
  intro ioCounters
  induction ioCounters with
  | nil =>
    intro sums
    have h1 := sums.1.toNat_lt
    have h2 := sums.2.toNat_lt
    exact ⟨(Nat.mod_eq_of_lt h1).symm, (Nat.mod_eq_of_lt h2).symm⟩
  | cons counter ioCounters ih =>
    intro sums
    obtain ⟨hread, hwrite⟩ := ih (sums.1 + counter.readBytes, sums.2 + counter.writeBytes)
    rw [List.foldl_cons, hread, hwrite, List.map_cons, List.map_cons, List.sum_cons, List.sum_cons,
      UInt64.toNat_add, UInt64.toNat_add]
    omega

/-- A read that does not fail gives what was transferred, in 64 bits. -/
theorem Sample.bytes_of_read (s : Sample) {c : Counter} (h : s.failed c = false) :
    (s.bytes c).toNat = s.counted c % 2 ^ 64 := by
  rw [← s.honest c h]
  have hnet : ∀ {counter : NetCounters} {rest : List NetCounters}, s.net = some (counter :: rest) →
      (s.bytes .netSent).toNat = s.total .netSent % 2 ^ 64 ∧
      (s.bytes .netRecv).toNat = s.total .netRecv % 2 ^ 64 := by
    intro counter rest hread
    have h1 := counter.bytesSent.toNat_lt
    have h2 := counter.bytesRecv.toNat_lt
    rw [Reading.bytes, Reading.bytes, Reading.total, Reading.total, hread]
    exact ⟨(Nat.mod_eq_of_lt h1).symm, (Nat.mod_eq_of_lt h2).symm⟩
  have hdisk : s.disk.isNone = false → (s.bytes .diskRead).toNat = s.total .diskRead % 2 ^ 64 ∧
      (s.bytes .diskWrite).toNat = s.total .diskWrite % 2 ^ 64 := by
    intro hread
    obtain ⟨ioCounters, hsome⟩ := Option.isSome_iff_exists.mp (Option.isNone_eq_false_iff.mp hread)
    obtain ⟨h1, h2⟩ := toNat_diskSums ioCounters (0, 0)
    rw [Reading.bytes, Reading.bytes, Reading.total, Reading.total, hsome]
    exact ⟨h1.trans (by simp), h2.trans (by simp)⟩
  have hsome : (s.net.getD []).isEmpty = false → ∃ counter rest, s.net = some (counter :: rest) := by
    intro hread
    rcases hs : s.net with _ | _ | ⟨counter, rest⟩
    · rw [hs] at hread
      cases hread
    · rw [hs] at hread
      cases hread
    · exact ⟨counter, rest, rfl⟩
  cases c with
  | diskRead => exact (hdisk h).1
  | diskWrite => exact (hdisk h).2
  | netSent =>
    obtain ⟨counter, rest, hread⟩ := hsome h
    exact (hnet hread).1
  | netRecv =>
    obtain ⟨counter, rest, hread⟩ := hsome h
    exact (hnet hread).2

/-- A read that fails gives 0. -/
theorem Sample.bytes_of_failed (s : Sample) {c : Counter} (h : s.failed c = true) : s.bytes c = 0 := by
  have hnet : (s.net.getD []).isEmpty = true → collectNetworkIOBytes s.net = (0, 0) := by
    intro hread
    rcases hs : s.net with _ | _ | ⟨counter, rest⟩
    · rfl
    · rfl
    · rw [hs] at hread
      cases hread
  have hdisk : s.disk.isNone = true → collectDiskIOBytes s.disk = (0, 0) := by
    intro hread
    rw [Option.isNone_iff_eq_none.mp hread]
    rfl
  cases c with
  | diskRead => exact congrArg Prod.fst (hdisk h)
  | diskWrite => exact congrArg Prod.snd (hdisk h)
  | netSent => exact congrArg Prod.fst (hnet h)
  | netRecv => exact congrArg Prod.snd (hnet h)

/-! ## Two samples in a row -/

/-- The baseline a sample leaves. -/
def Sample.baseline (s : Sample) : Baseline := ⟨s.bytes, some s.now⟩

/-- The baseline after a sample is that of the sample. -/
theorem baselineAfter_concat (prev : Baseline) (before : List Sample) (s : Sample) :
    baselineAfter prev (before ++ [s]) = s.baseline := by
  rw [baselineAfter, List.foldl_append]
  rfl

/-- What the second of two samples reports. -/
theorem reportedBytes_baseline (s s' : Sample) (c : Counter) : reportedBytes s.baseline s' c =
    if s.now < s'.now then (s'.bytes c).toNat - (s.bytes c).toNat else 0 := by
  have hdelta : (deltaUint64 (s'.bytes c) (s.bytes c)).toNat = (s'.bytes c).toNat - (s.bytes c).toNat := by
    by_cases hlt : s'.bytes c < s.bytes c
    · rw [deltaUint64, if_pos hlt]
      have := UInt64.lt_iff_toNat_lt.mp hlt
      show 0 = _
      omega
    · rw [deltaUint64, if_neg hlt, UInt64.toNat_sub_of_le _ _ (UInt64.not_lt.mp hlt)]
  by_cases hlater : s.now < s'.now
  · have hpos : 0 < s'.now - s.now := by omega
    rw [if_pos hlater, ← hdelta, reportedBytes]
    show (match (if 0 < s'.now - s.now then _ else none : Option Throughput) with
      | some report => (report.bytes c).toNat | none => 0) = _
    rw [if_pos hpos]
    rfl
  · have hnot : ¬ 0 < s'.now - s.now := by omega
    rw [if_neg hlater, reportedBytes]
    show (match (if 0 < s'.now - s.now then _ else none : Option Throughput) with
      | some report => (report.bytes c).toNat | none => 0) = _
    rw [if_neg hnot]

/-- **Two samples in a row.** -/
theorem step_truthful_iff {s s' : Sample} (hgrows : Grows s s') :
    (∀ c, s.counted c + reportedBytes s.baseline s' c ≤ s'.counted c) ↔ Continues s s' := by
  refine forall_congr' fun c => ?_
  have hle := hgrows c
  rw [reportedBytes_baseline]
  by_cases hlater : s.now < s'.now
  · rw [if_pos hlater]
    cases hfailed' : s'.failed c with
    | true =>
      -- nothing is reported
      rw [s'.bytes_of_failed hfailed']
      show s.counted c + (0 - _) ≤ _ ↔ _
      simp only [Bool.true_eq_false, false_and, and_false, false_implies, iff_true]
      omega
    | false =>
      rw [s'.bytes_of_read hfailed']
      cases hfailed : s.failed c with
      | true =>
        rw [s.bytes_of_failed hfailed]
        show s.counted c + (s'.counted c % 2 ^ 64 - 0) ≤ _ ↔ _
        simp only [hlater, and_self, true_implies]
        omega
      | false =>
        rw [s.bytes_of_read hfailed]
        simp only [Bool.false_eq_true, false_and, false_implies, iff_true]
        omega
  · rw [if_neg hlater]
    simp only [hlater, and_false, false_implies, iff_true]
    exact hle

/-! ## Runs -/

/-- The true differences add up. -/
theorem reportedSum_le (c : Counter) : ∀ (run : List Sample) (first : Sample),
    (first :: run).IsChain (fun s s' => s.counted c + reportedBytes s.baseline s' c ≤ s'.counted c) →
    first.counted c + reportedSum first.baseline run c ≤
      ((first :: run).getLast (List.cons_ne_nil _ _)).counted c := by
  intro run
  induction run with
  | nil => exact fun first _ => Nat.le_refl _
  | cons s run ih =>
    intro first hchain
    obtain ⟨hstep, hrest⟩ := List.isChain_cons_cons.mp hchain
    have hsum : reportedSum first.baseline (s :: run) c =
        reportedBytes first.baseline s c + reportedSum s.baseline run c := rfl
    have := ih s hrest
    rw [List.getLast_cons_cons, hsum]
    omega

/-- **When the samples report no more than was transferred.**

    A failed read is stored as a zero.  The sum telescopes over the samples that were read, and a sample after a
    failed one counts everything since the start. -/
theorem throughput_truthful_iff {samples : List Sample} (hgrows : samples.IsChain Grows) :
    Truthful samples ↔ samples.IsChain Continues := by
  constructor
  · intro htruthful
    refine List.isChain_iff_forall_rel_of_append_cons_cons.mpr fun s s' before after hsplit => ?_
    have hstep := List.isChain_iff_forall_rel_of_append_cons_cons.mp hgrows hsplit
    refine (step_truthful_iff hstep).mp fun c => ?_
    have hrun := htruthful before s [s'] after hsplit c
    rw [baselineAfter_concat] at hrun
    exact hrun
  · rintro hcontinues before first run after rfl c
    rw [baselineAfter_concat]
    refine reportedSum_le c run first ?_
    have hboth : (before ++ first :: (run ++ after)).IsChain
        (fun s s' => s.counted c + reportedBytes s.baseline s' c ≤ s'.counted c) := by
      refine List.isChain_iff_forall_rel_of_append_cons_cons.mpr fun s s' l l' hsplit => ?_
      have hstep := List.isChain_iff_forall_rel_of_append_cons_cons.mp hgrows hsplit
      have hnext := List.isChain_iff_forall_rel_of_append_cons_cons.mp hcontinues hsplit
      exact (step_truthful_iff hstep).mpr hnext c
    have hright := (List.isChain_append.mp hboth).2.1
    rw [← List.cons_append] at hright
    exact (List.isChain_append.mp hright).1

/-! ## A read that fails -/

/-- A machine with one disk, a network card that is idle, and `bytes` read from the disk. -/
def diskSample (now : Int) (bytes : UInt64) : Sample where
  now := now
  disk := some [⟨bytes, 0⟩]
  net := some [⟨0, 0⟩]
  counted
    | .diskRead => bytes.toNat
    | _ => 0
  honest c _ := by cases c <;> simp [Reading.total]

/-- The same, but the disks cannot be read. -/
def diskUnread (now : Int) (bytes : UInt64) : Sample where
  now := now
  disk := none
  net := some [⟨0, 0⟩]
  counted
    | .diskRead => bytes.toNat
    | _ => 0
  honest c h := by cases c <;> simp [Reading.total, Reading.failed] at h ⊢

/-- The second read fails. -/
def failedOnce : List Sample := [diskSample 0 1000, diskUnread 60 1050, diskSample 120 1100]

/-- A hundred bytes were read from the disk, and eleven hundred are reported. -/
theorem whole_counter_reported : ¬ Truthful failedOnce := by
  intro htruthful
  have hsum := htruthful [] (diskSample 0 1000) [diskUnread 60 1050, diskSample 120 1100] [] rfl .diskRead
  revert hsum
  decide

theorem throughput_truthful_twice :
    Truthful [diskSample 0 1000, diskSample 60 1100] ↔
      [diskSample 0 1000, diskSample 60 1100].IsChain Continues :=
  throughput_truthful_iff (List.isChain_cons_cons.mpr ⟨fun c => by cases c <;> decide, .singleton _⟩)

end Agent

end Dtsys
