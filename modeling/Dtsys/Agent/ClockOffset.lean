/-
  THE OFFSET OF THE LOCAL CLOCK (`collector/ntp.go`).

  A packet is sent at `t1` and its answer is read at `t4`.  The answer carries the time of the server, 32
  bits of seconds since 1900 and 32 bits of a fraction; `queryNTPOffset` compares it with the MIDPOINT of
  `t1` and `t4`.

  Everything is done in 64 bits.  The tightest step is the fraction: it is scaled by 10⁹ before it is
  shifted, and needs 62 of the 63 bits there are (`noOverflow`).  The shift drops less than a nanosecond,
  and the midpoint is at most half the delay away from any time of the exchange (`offset_accurate`).
-/
import Dtsys.Agent.Events
import Dtsys.Agent.RuntimeConfig
import Mathlib.Algebra.Order.Field.Rat
import Mathlib.Tactic.Linarith

namespace Dtsys

namespace Agent

/-! ## `time.Time` and `time.Duration` -/

/-- The least `time.Duration`. -/
def minDuration : Int := -9223372036854775808

/-- The greatest `time.Duration`. -/
def maxDuration : Int := 9223372036854775807

/-- The number is an `int64`. -/
def IsInt64 (x : Int) : Prop := minDuration ≤ x ∧ x ≤ maxDuration

instance (x : Int) : Decidable (IsInt64 x) := inferInstanceAs (Decidable (_ ∧ _))

/-- A `time.Time`: the nanoseconds since 1970, and the monotonic reading if it is from `time.Now`. -/
structure GoTime where
  wall : Int
  mono : Option Int
  deriving DecidableEq

/-- A difference as a `time.Duration`, which saturates. -/
def saturate (d : Int) : Int :=
  if d < minDuration then minDuration else if maxDuration < d then maxDuration else d

/-- `t.Sub(u)`: by the monotonic readings if both have one. -/
def GoTime.sub (t u : GoTime) : Int :=
  match t.mono, u.mono with
  | some x, some y => saturate (x - y)
  | _, _ => saturate (t.wall - u.wall)

/-- `t.Add(d)`; a monotonic reading that overflows is dropped. -/
def GoTime.add (t : GoTime) (d : Int) : GoTime where
  wall := t.wall + d
  mono := (t.mono.map fun x => x + d).filter fun x => decide (IsInt64 x)

/-- `time.Unix(sec, nsec)`. -/
def timeUnix (sec nsec : Int) : GoTime := ⟨sec * timeSecond + nsec, none⟩

/-- A monotonic reading: the `int64` nanoseconds since the process started. -/
def Monotonic : Type := {x : Int // 0 ≤ x ∧ x ≤ maxDuration}

/-- A local clock that nobody sets during the exchange, by what it showed when the process started. -/
structure LocalClock where
  started : Int

/-- `time.Now()`. -/
def LocalClock.now (clock : LocalClock) (reading : Monotonic) : GoTime :=
  ⟨clock.started + reading.val, some reading.val⟩

/-! ## The query -/

/-- `uint64(b0)<<24 | uint64(b1)<<16 | uint64(b2)<<8 | uint64(b3)`. -/
def bigEndian (b0 b1 b2 b3 : UInt8) : UInt64 :=
  b0.toUInt64 <<< 24 ||| b1.toUInt64 <<< 16 ||| b2.toUInt64 <<< 8 ||| b3.toUInt64

/-- The 48 bytes of an answer. -/
abbrev NtpPacket := Vector UInt8 48

/-- `secs` and `frac` of the transmit timestamp. -/
def NtpPacket.secs (resp : NtpPacket) : UInt64 := bigEndian resp[40] resp[41] resp[42] resp[43]

/-- `txFrac`. -/
def NtpPacket.frac (resp : NtpPacket) : UInt64 := bigEndian resp[44] resp[45] resp[46] resp[47]

/-- From 1900 to 1970. -/
def ntpEpochOffset : Int := 2208988800

/-- `int64(secs)-ntpEpochOffset`. -/
def unixSeconds (secs : UInt64) : Int := wrap64 (wrap64 secs.toNat - ntpEpochOffset)

/-- `int64(frac)*1e9>>32`. -/
def fractionNanos (frac : UInt64) : Int := wrap64 (wrap64 frac.toNat * 1000000000) >>> (32 : Nat)

/-- `ntpTime`. -/
def ntpTime (resp : NtpPacket) : GoTime := timeUnix (unixSeconds resp.secs) (fractionNanos resp.frac)

/-- `t1.Add(t4.Sub(t1) / 2)`. -/
def midpoint (t1 t4 : GoTime) : GoTime := t1.add ((t4.sub t1).tdiv 2)

/-- What becomes of a query: a step fails, or an answer is read. -/
inductive NtpExchange
  | failed (err : String)
  | answered (t1 t4 : GoTime) (resp : NtpPacket)

/-- `queryNTPOffset`. -/
def queryNTPOffset : NtpExchange → Except String Int
  | .failed err => .error err
  | .answered t1 t4 resp => .ok ((ntpTime resp).sub (midpoint t1 t4))

/-! ## What the packet says -/

/-- The number four bytes stand for, the most significant one first. -/
def beValue (b0 b1 b2 b3 : UInt8) : Nat :=
  b0.toNat * 2 ^ 24 + b1.toNat * 2 ^ 16 + b2.toNat * 2 ^ 8 + b3.toNat

/-- The seconds since 1900, and the fraction of a second in units of `2 ^ -32`. -/
def NtpPacket.sentSecs (resp : NtpPacket) : Nat := beValue resp[40] resp[41] resp[42] resp[43]

/-- The fraction of a second that the bytes 44 to 47 stand for, in units of 2⁻³² s. -/
def NtpPacket.sentFrac (resp : NtpPacket) : Nat := beValue resp[44] resp[45] resp[46] resp[47]

/-- The time of the server, exactly, in nanoseconds since 1970. -/
def NtpPacket.serverTime (resp : NtpPacket) : Rat :=
  ((resp.sentSecs : Rat) + (resp.sentFrac : Rat) / 2 ^ 32 - (ntpEpochOffset : Rat)) * (timeSecond : Rat)

/-- Every step of 64 bits gives the number it stands for. -/
structure NoOverflow (resp : NtpPacket) (t1 t4 : GoTime) : Prop where
  secs : resp.secs.toNat = resp.sentSecs
  frac : resp.frac.toNat = resp.sentFrac
  int64Secs : wrap64 resp.secs.toNat = (resp.sentSecs : Int)
  int64Frac : wrap64 resp.frac.toNat = (resp.sentFrac : Int)
  epoch : unixSeconds resp.secs = (resp.sentSecs : Int) - ntpEpochOffset
  scaled : wrap64 (wrap64 resp.frac.toNat * 1000000000) = (resp.sentFrac : Int) * 1000000000
  delay : t4.sub t1 = t4.wall - t1.wall
  mono : (midpoint t1 t4).mono = t1.mono.map fun x => x + (t4.wall - t1.wall) / 2

/-! ## 64 bits are enough -/

/-- Nothing is lost of a duration that fits 64 bits. -/
theorem saturate_of_isInt64 {d : Int} (h : IsInt64 d) : saturate d = d := by
  obtain ⟨hmin, hmax⟩ := h
  rw [saturate, if_neg (by omega), if_neg (by omega)]

theorem beValue_lt (b0 b1 b2 b3 : UInt8) : beValue b0 b1 b2 b3 < 2 ^ 32 := by
  have h0 := b0.toNat_lt
  have h1 := b1.toNat_lt
  have h2 := b2.toNat_lt
  have h3 := b3.toNat_lt
  rw [beValue]
  omega

/-- A byte that is shifted into place loses nothing. -/
theorem toNat_shifted (b : UInt8) {k : Nat} (hk : k ≤ 24) :
    (b.toUInt64 <<< UInt64.ofNat k).toNat = b.toNat * 2 ^ k := by
  have hb := b.toNat_lt
  have hpow : 2 ^ k ≤ 2 ^ 24 := Nat.pow_le_pow_right (by decide) hk
  have hsmall : b.toNat * 2 ^ k < 2 ^ 64 := by
    calc b.toNat * 2 ^ k ≤ 2 ^ 8 * 2 ^ 24 := Nat.mul_le_mul (Nat.le_of_lt hb) hpow
      _ < 2 ^ 64 := by decide
  have hcount : (UInt64.ofNat k).toNat = k := by
    rw [UInt64.toNat_ofNat']
    omega
  rw [UInt64.toNat_shiftLeft, UInt8.toNat_toUInt64, hcount, Nat.mod_eq_of_lt (show k < 64 by omega),
    Nat.shiftLeft_eq, Nat.mod_eq_of_lt hsmall]

/-- The shifts and ORs of the code read big-endian bytes. -/
theorem toNat_bigEndian (b0 b1 b2 b3 : UInt8) :
    (bigEndian b0 b1 b2 b3).toNat = beValue b0 b1 b2 b3 := by
  have h1 := b1.toNat_lt
  have h2 := b2.toNat_lt
  have h3 := b3.toNat_lt
  have e0 := toNat_shifted b0 (show 24 ≤ 24 by omega)
  have e1 := toNat_shifted b1 (show 16 ≤ 24 by omega)
  have e2 := toNat_shifted b2 (show 8 ≤ 24 by omega)
  rw [bigEndian, UInt64.toNat_or, UInt64.toNat_or, UInt64.toNat_or, UInt8.toNat_toUInt64]
  -- the bytes do not overlap, so the `|` of two neighbours is their sum
  rw [show (24 : UInt64) = UInt64.ofNat 24 from rfl, show (16 : UInt64) = UInt64.ofNat 16 from rfl,
    show (8 : UInt64) = UInt64.ofNat 8 from rfl, e0, e1, e2]
  have or1 : b0.toNat * 2 ^ 24 ||| b1.toNat * 2 ^ 16 = b0.toNat * 2 ^ 24 + b1.toNat * 2 ^ 16 := by
    rw [Nat.mul_comm b0.toNat, ← Nat.two_pow_add_eq_or_of_lt (by omega)]
  have or2 : b0.toNat * 2 ^ 24 + b1.toNat * 2 ^ 16 ||| b2.toNat * 2 ^ 8 =
      b0.toNat * 2 ^ 24 + b1.toNat * 2 ^ 16 + b2.toNat * 2 ^ 8 := by
    rw [show b0.toNat * 2 ^ 24 + b1.toNat * 2 ^ 16 = 2 ^ 16 * (b0.toNat * 2 ^ 8 + b1.toNat) by omega,
      ← Nat.two_pow_add_eq_or_of_lt (by omega)]
  rw [or1, or2,
    show b0.toNat * 2 ^ 24 + b1.toNat * 2 ^ 16 + b2.toNat * 2 ^ 8 =
      2 ^ 8 * (b0.toNat * 2 ^ 16 + b1.toNat * 2 ^ 8 + b2.toNat) by omega,
    ← Nat.two_pow_add_eq_or_of_lt (by omega), beValue]
  omega

theorem toNat_secs (resp : NtpPacket) : resp.secs.toNat = resp.sentSecs := toNat_bigEndian ..

theorem toNat_frac (resp : NtpPacket) : resp.frac.toNat = resp.sentFrac := toNat_bigEndian ..

/-- The subtraction of the epochs does not wrap around. -/
theorem unixSeconds_eq (resp : NtpPacket) :
    unixSeconds resp.secs = (resp.sentSecs : Int) - ntpEpochOffset := by
  have hlt : resp.sentSecs < 2 ^ 32 := beValue_lt ..
  rw [unixSeconds, toNat_secs, ntpEpochOffset, wrap64, wrap64]
  omega

/-- Nor does the product of the fraction with 10⁹. -/
theorem scaled_eq (resp : NtpPacket) :
    wrap64 (wrap64 resp.frac.toNat * 1000000000) = (resp.sentFrac : Int) * 1000000000 := by
  have hlt : resp.sentFrac < 2 ^ 32 := beValue_lt ..
  rw [toNat_frac, wrap64, wrap64]
  omega

section

variable (clock : LocalClock) {m1 m4 : Monotonic}

/-- The delay is the difference of two monotonic readings, and those are not negative. -/
theorem delay_eq : (clock.now m4).sub (clock.now m1) = (clock.now m4).wall - (clock.now m1).wall := by
  obtain ⟨x, hx⟩ := m1
  obtain ⟨y, hy⟩ := m4
  show saturate (y - x) = clock.started + y - (clock.started + x)
  rw [saturate_of_isInt64 ⟨by rw [minDuration]; rw [maxDuration] at hx; omega, by omega⟩]
  omega

/-- Where the midpoint is. -/
theorem midpoint_eq (hm : m1.val ≤ m4.val) : midpoint (clock.now m1) (clock.now m4) =
    ⟨(clock.now m1).wall + ((clock.now m4).wall - (clock.now m1).wall) / 2,
      (clock.now m1).mono.map fun x => x + ((clock.now m4).wall - (clock.now m1).wall) / 2⟩ := by
  have hdelay : 0 ≤ (clock.now m4).wall - (clock.now m1).wall := by
    show 0 ≤ clock.started + m4.val - (clock.started + m1.val)
    omega
  rw [midpoint, delay_eq, Int.tdiv_eq_ediv_of_nonneg hdelay, GoTime.add]
  congr 1
  obtain ⟨x, hx⟩ := m1
  obtain ⟨y, hy⟩ := m4
  have hle : x ≤ y := hm
  refine Option.filter_eq_some_iff.mpr ⟨rfl, decide_eq_true ?_⟩
  show minDuration ≤ x + (clock.started + y - (clock.started + x)) / 2 ∧
    x + (clock.started + y - (clock.started + x)) / 2 ≤ maxDuration
  rw [minDuration]
  omega

/-- No step of a query overflows. -/
theorem noOverflow (hm : m1.val ≤ m4.val) (resp : NtpPacket) :
    NoOverflow resp (clock.now m1) (clock.now m4) where
  secs := toNat_secs resp
  frac := toNat_frac resp
  int64Secs := by
    have hlt : resp.sentSecs < 2 ^ 32 := beValue_lt ..
    rw [toNat_secs]
    exact wrap64_of_small (by omega) (by omega)
  int64Frac := by
    have hlt : resp.sentFrac < 2 ^ 32 := beValue_lt ..
    rw [toNat_frac]
    exact wrap64_of_small (by omega) (by omega)
  epoch := unixSeconds_eq resp
  scaled := scaled_eq resp
  delay := delay_eq clock
  mono := by rw [midpoint_eq clock hm]

end

/-! ## How exact it is -/

/-- What the shift drops is a part of a nanosecond. -/
theorem serverTime_sub_ntpTime (resp : NtpPacket) :
    resp.serverTime - ((ntpTime resp).wall : Rat) =
      ((((resp.sentFrac : Int) * 1000000000) % 2 ^ 32 : Int) : Rat) / 2 ^ 32 := by
  have hshift : fractionNanos resp.frac = (resp.sentFrac : Int) * 1000000000 / 2 ^ 32 := by
    have hpow : ((2 ^ 32 : Nat) : Int) = 2 ^ 32 := by norm_num
    rw [fractionNanos, scaled_eq, Int.shiftRight_eq_div_pow, hpow]
  have hdiv : (resp.sentFrac : Int) * 1000000000 =
      2 ^ 32 * ((resp.sentFrac : Int) * 1000000000 / 2 ^ 32) +
        (resp.sentFrac : Int) * 1000000000 % 2 ^ 32 := (Int.mul_ediv_add_emod ..).symm
  have hcast : (resp.sentFrac : Rat) * 1000000000 =
      2 ^ 32 * (((resp.sentFrac : Int) * 1000000000 / 2 ^ 32 : Int) : Rat) +
        (((resp.sentFrac : Int) * 1000000000 % 2 ^ 32 : Int) : Rat) := by
    exact_mod_cast congrArg (Int.cast (R := Rat)) hdiv
  have hwall : (ntpTime resp).wall = ((resp.sentSecs : Int) - ntpEpochOffset) * timeSecond +
      (resp.sentFrac : Int) * 1000000000 / 2 ^ 32 := by
    rw [ntpTime, unixSeconds_eq, hshift, timeUnix]
  rw [hwall, NtpPacket.serverTime, timeSecond]
  push_cast
  linarith

/-- **The decoded time** is the server's, rounded down to a nanosecond. -/
theorem ntpTime_accurate (resp : NtpPacket) :
    ((ntpTime resp).wall : Rat) ≤ resp.serverTime ∧
      resp.serverTime < ((ntpTime resp).wall : Rat) + 1 := by
  have hdiff := serverTime_sub_ntpTime resp
  have hpow : (0 : Rat) < 2 ^ 32 := by decide
  have hnonneg : (0 : Rat) ≤ (((resp.sentFrac : Int) * 1000000000 % 2 ^ 32 : Int) : Rat) :=
    Int.cast_nonneg (Int.emod_nonneg _ (by decide))
  have hlt : (((resp.sentFrac : Int) * 1000000000 % 2 ^ 32 : Int) : Rat) < 2 ^ 32 := by
    exact_mod_cast Int.emod_lt_of_pos ((resp.sentFrac : Int) * 1000000000)
      (show (0 : Int) < 2 ^ 32 by decide)
  have hdropped := div_nonneg hnonneg (le_of_lt hpow)
  have hone := (div_lt_one hpow).mpr hlt
  constructor
  · linarith
  · linarith

/-- **The offset** is off by half the delay and a nanosecond at most, whenever in the exchange the
    server stamped the packet.

    Neither the time of the server nor the midpoint leaves 64 bits (`noOverflow`), the fraction is rounded down by
    less than a nanosecond (`ntpTime_accurate`), and half of the delay is all that the midpoint can be wrong by. -/
theorem offset_accurate (clock : LocalClock) {m1 m4 : Monotonic} (hm : m1.val ≤ m4.val)
    (resp : NtpPacket) :
    NoOverflow resp (clock.now m1) (clock.now m4) ∧
      |((ntpTime resp).wall : Rat) - resp.serverTime| < 1 ∧
      ∀ c : Rat, ((clock.now m1).wall : Rat) ≤ c → c ≤ ((clock.now m4).wall : Rat) →
        IsInt64 ((ntpTime resp).wall - (midpoint (clock.now m1) (clock.now m4)).wall) →
        ∃ offset, queryNTPOffset (.answered (clock.now m1) (clock.now m4) resp) = .ok offset ∧
          |(offset : Rat) - (resp.serverTime - c)| ≤
            ((((clock.now m4).wall - (clock.now m1).wall) / 2 + 1 : Int) : Rat) := by
  obtain ⟨hbelow, habove⟩ := ntpTime_accurate resp
  refine ⟨noOverflow clock hm resp, ?_, ?_⟩
  · rw [abs_lt]
    constructor
    · linarith
    · linarith
  · intro c hc1 hc4 hfits
    refine ⟨_, rfl, ?_⟩
    have hmid : (midpoint (clock.now m1) (clock.now m4)).wall =
        (clock.now m1).wall + ((clock.now m4).wall - (clock.now m1).wall) / 2 := by
      rw [midpoint_eq clock hm]
    have hoffset : (ntpTime resp).sub (midpoint (clock.now m1) (clock.now m4)) =
        (ntpTime resp).wall - (midpoint (clock.now m1) (clock.now m4)).wall :=
      saturate_of_isInt64 hfits
    -- the delay is twice its half, or one more
    have hhalf : (clock.now m4).wall - (clock.now m1).wall ≤
        2 * (((clock.now m4).wall - (clock.now m1).wall) / 2) + 1 := by omega
    have hhalf' : ((clock.now m4).wall : Rat) - ((clock.now m1).wall : Rat) ≤
        2 * ((((clock.now m4).wall - (clock.now m1).wall) / 2 : Int) : Rat) + 1 := by
      exact_mod_cast hhalf
    rw [hoffset, hmid, abs_le]
    push_cast
    constructor
    · linarith
    · linarith

/-! ## An answer after 101 nanoseconds -/

/-- The server's clock shows half a second past midnight of 1 January 1970. -/
def halfPast : NtpPacket :=
  Vector.replicate 40 (0 : UInt8) ++ (#v[0x83, 0xAA, 0x7E, 0x80, 0x80, 0, 0, 0] : Vector UInt8 8)

/-- The packet is sent when the monotonic clock is at 0. -/
def sendTime : Monotonic := ⟨0, by decide⟩

/-- The answer is read 101 ns later. -/
def readTime : Monotonic := ⟨101, by decide⟩

/-- A clock that runs a second late, and a server that stamps the packet as it is read. -/
theorem offset_accurate_late :
    ∃ offset, queryNTPOffset (.answered (LocalClock.now ⟨-500000000⟩ sendTime)
        (LocalClock.now ⟨-500000000⟩ readTime) halfPast) = .ok offset ∧
      |(offset : Rat) - (halfPast.serverTime - (-499999899 : Int))| ≤ ((101 / 2 + 1 : Int) : Rat) :=
  (@offset_accurate ⟨-500000000⟩ sendTime readTime (by decide) halfPast).2.2
    (-499999899 : Int) (by decide) (by decide) (by decide)

end Agent

end Dtsys
