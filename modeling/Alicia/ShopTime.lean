import Alicia.Calendar
import Alicia.Chrono
import Mathlib.Algebra.Order.Ring.Int

/-!
# Shop timestamps

A shop timestamp packs a date and a time of day into three words.  A timestamp can name any date of a year of 16
bits, and a time point of the system clock only some centuries around the epoch, so a timestamp beyond them is not
kept by the conversion to a time point.
-/

namespace Alicia.ShopTime

open Int Calendar
open Chrono (TimePoint)
open Calendar (Date toDays ofDays)

/-- `std::array<uint32_t, 3>`: the month and the year, the hour and the day, the second and the minute. -/
structure Timestamp where
  monthYear : UInt32
  hourDay : UInt32
  secondMinute : UInt32
  deriving DecidableEq

/-- `static_cast<uint16_t>(word)` -/
def lowHalf (word : UInt32) : UInt16 := word.toUInt16

/-- `static_cast<uint16_t>(word >> 16)` -/
def highHalf (word : UInt32) : UInt16 := (word >>> 16).toUInt16

/-- `(high << 16) | low` -/
def pack (high low : UInt32) : UInt32 := (high <<< 16) ||| low

structure DateTime where
  years : Int32 := 0
  months : UInt32 := 0
  days : UInt32 := 0
  hours : Int32 := 0
  minutes : Int32 := 0
  seconds : Int32 := 0
  deriving DecidableEq

def aliciaShopTimeToDateTime (timestamp : Timestamp) : DateTime where
  years := (lowHalf timestamp.monthYear).toUInt32.toInt32
  months := (highHalf timestamp.monthYear).toUInt32
  days := (lowHalf timestamp.hourDay).toUInt32
  hours := (highHalf timestamp.hourDay).toUInt32.toInt32
  minutes := (lowHalf timestamp.secondMinute).toUInt32.toInt32
  seconds := (highHalf timestamp.secondMinute).toUInt32.toInt32

def dateTimeToAliciaShopTime (dateTime : DateTime) : Timestamp where
  monthYear := pack dateTime.months dateTime.years.toUInt32
  hourDay := pack dateTime.hours.toUInt32 dateTime.days
  secondMinute := pack dateTime.seconds.toUInt32 dateTime.minutes.toUInt32

namespace Timestamp

variable (timestamp : Timestamp)

def date : Date where
  year := (lowHalf timestamp.monthYear).toNat
  month := (highHalf timestamp.monthYear).toNat
  day := (lowHalf timestamp.hourDay).toNat

def hour : Nat := (highHalf timestamp.hourDay).toNat

def minute : Nat := (lowHalf timestamp.secondMinute).toNat

def second : Nat := (highHalf timestamp.secondMinute).toNat

/-- The seconds from the epoch. -/
def seconds : Int :=
  toDays timestamp.date * 86400 + timestamp.hour * 3600 + timestamp.minute * 60 + timestamp.second

/-- The date and the time of day exist. -/
structure Valid : Prop where
  date : timestamp.date.Valid
  hour : timestamp.hour < 24
  minute : timestamp.minute < 60
  second : timestamp.second < 60

end Timestamp

def aliciaShopTimeToTimePoint (timestamp : Timestamp) : TimePoint := .ofSeconds (Int64.ofInt timestamp.seconds)

/-- The nanoseconds of a day. -/
def nanosecondsOfDay : Int := 86400000000000

/-- `year_month_day::ok`, of which the years have 16 bits. -/
def isOk (date : Date) : Bool := -32767 ≤ date.year && date.year ≤ 32767 && decide date.Valid

/-- The words of a date and a time of day. -/
def packTime (date : Date) (hours minutes seconds : Int) : Timestamp where
  monthYear := pack (UInt32.ofNat date.month) (Int32.ofInt date.year).toUInt32
  hourDay := pack (Int32.ofInt hours).toUInt32 (UInt32.ofNat date.day)
  secondMinute := pack (Int32.ofInt seconds).toUInt32 (Int32.ofInt minutes).toUInt32

def timePointToAliciaShopTime (timePoint : TimePoint) : Except String Timestamp :=
  let day := timePoint.sinceEpoch.toInt / nanosecondsOfDay
  let date := ofDays day
  if isOk date then
    let time := (timePoint.sinceEpoch - Int64.ofInt day * Int64.ofInt nanosecondsOfDay).toInt
    .ok (packTime date (time / 3600000000000) (time / 60000000000 % 60) (time / 1000000000 % 60))
  else .error "Invalid date"

/-! ## Words -/

theorem toNat_pack {high low : UInt32} (hhigh : high.toNat < 65536) (hlow : low.toNat < 65536) :
    (pack high low).toNat = high.toNat * 65536 + low.toNat := by
  have hshift : (high <<< 16).toNat = high.toNat <<< 16 := by
    rw [UInt32.toNat_shiftLeft]
    simp [Nat.shiftLeft_eq]
    omega
  rw [pack, UInt32.toNat_or, hshift, ← Nat.shiftLeft_add_eq_or_of_lt (by simpa using hlow), Nat.shiftLeft_eq]

theorem toNat_lowHalf (word : UInt32) : (lowHalf word).toNat = word.toNat % 65536 := by
  simp [lowHalf]

theorem toNat_highHalf (word : UInt32) : (highHalf word).toNat = word.toNat / 65536 := by
  have hlt := word.toNat_lt
  simp [highHalf, Nat.shiftRight_eq_div_pow]
  omega

/-- A word is made of its halves. -/
theorem pack_halves (word : UInt32) : pack (highHalf word).toUInt32 (lowHalf word).toUInt32 = word := by
  have hlt := word.toNat_lt
  refine UInt32.toNat_inj.1 ?_
  rw [toNat_pack]
  · simp only [UInt16.toNat_toUInt32, toNat_lowHalf, toNat_highHalf]
    omega
  · simp only [UInt16.toNat_toUInt32, toNat_highHalf]
    omega
  · simp only [UInt16.toNat_toUInt32, toNat_lowHalf]
    omega

theorem eq_of_halves {first second : UInt32} (hhigh : (highHalf first).toNat = (highHalf second).toNat)
    (hlow : (lowHalf first).toNat = (lowHalf second).toNat) : first = second := by
  rw [← pack_halves first, ← pack_halves second, UInt16.toNat_inj.1 hhigh, UInt16.toNat_inj.1 hlow]

theorem toNat_halves_pack {high low : UInt32} (hhigh : high.toNat < 65536) (hlow : low.toNat < 65536) :
    (highHalf (pack high low)).toNat = high.toNat ∧ (lowHalf (pack high low)).toNat = low.toNat := by
  rw [toNat_highHalf, toNat_lowHalf, toNat_pack hhigh hlow]
  omega

theorem toNat_ofInt {value : Int} (hpos : 0 ≤ value) (hlt : value < 2147483648) :
    (Int32.ofInt value).toUInt32.toNat = value.toNat := by
  have hbits : (Int32.ofInt value).toUInt32.toNat = (Int32.ofInt value).toBitVec.toNat := rfl
  rw [hbits]
  simp
  omega

section PackTime

variable {date : Date} {hours minutes seconds : Int}

theorem date_packTime (hyear : 0 ≤ date.year ∧ date.year < 65536) (hmonth : date.month < 65536) (hday : date.day < 65536)
    (hhours : 0 ≤ hours ∧ hours < 65536) : (packTime date hours minutes seconds).date = date := by
  obtain ⟨year, month, day⟩ := date
  dsimp only at hyear hmonth hday
  have hyear' := toNat_ofInt hyear.1 (by omega)
  have hhours' := toNat_ofInt hhours.1 (by omega)
  have hmonth' : (UInt32.ofNat month).toNat = month := UInt32.toNat_ofNat_of_lt' (by simp [UInt32.size]; omega)
  have hday' : (UInt32.ofNat day).toNat = day := UInt32.toNat_ofNat_of_lt' (by simp [UInt32.size]; omega)
  obtain ⟨hhigh, hlow⟩ := @toNat_halves_pack (UInt32.ofNat month) (Int32.ofInt year).toUInt32 (by omega) (by omega)
  obtain ⟨-, hlow'⟩ := @toNat_halves_pack (Int32.ofInt hours).toUInt32 (UInt32.ofNat day) (by omega) (by omega)
  simp only [Timestamp.date, packTime, hhigh, hlow, hlow', hmonth', hday', hyear', toNat_of_nonneg hyear.1]

theorem hour_packTime (hday : date.day < 65536) (hhours : 0 ≤ hours ∧ hours < 65536) :
    ((packTime date hours minutes seconds).hour : Int) = hours := by
  have hhours' := toNat_ofInt hhours.1 (by omega)
  have hday' : (UInt32.ofNat date.day).toNat = date.day := UInt32.toNat_ofNat_of_lt' (by simp [UInt32.size]; omega)
  obtain ⟨hhigh, -⟩ := @toNat_halves_pack (Int32.ofInt hours).toUInt32 (UInt32.ofNat date.day) (by omega) (by omega)
  simp only [Timestamp.hour, packTime, hhigh, hhours', toNat_of_nonneg hhours.1]

theorem minute_second_packTime (hminutes : 0 ≤ minutes ∧ minutes < 65536) (hseconds : 0 ≤ seconds ∧ seconds < 65536) :
    ((packTime date hours minutes seconds).minute : Int) = minutes ∧
      ((packTime date hours minutes seconds).second : Int) = seconds := by
  have hminutes' := toNat_ofInt hminutes.1 (by omega)
  have hseconds' := toNat_ofInt hseconds.1 (by omega)
  obtain ⟨hhigh, hlow⟩ :=
    @toNat_halves_pack (Int32.ofInt seconds).toUInt32 (Int32.ofInt minutes).toUInt32 (by omega) (by omega)
  simp only [Timestamp.minute, Timestamp.second, packTime, hhigh, hlow, hminutes', hseconds',
    toNat_of_nonneg hminutes.1, toNat_of_nonneg hseconds.1, and_self]

end PackTime

/-- Every timestamp survives the conversion to a date and a time. -/
theorem dateTime_round_trip (timestamp : Timestamp) :
    dateTimeToAliciaShopTime (aliciaShopTimeToDateTime timestamp) = timestamp := by
  simp [dateTimeToAliciaShopTime, aliciaShopTimeToDateTime, pack_halves]

/-! ## Time points -/

theorem toInt_ofSeconds (seconds : Int) :
    (TimePoint.ofSeconds (Int64.ofInt seconds)).sinceEpoch.toInt = (seconds * 1000000000).bmod (2 ^ 64) := by
  rw [TimePoint.ofSeconds, Int64.toInt_mul, Int64.toInt_ofInt]
  exact bmod_mul_bmod

/-- The time of the day is exact, also where the start of the day is before the range of the clock. -/
theorem toInt_time (timePoint : TimePoint) :
    (timePoint.sinceEpoch - Int64.ofInt (timePoint.sinceEpoch.toInt / nanosecondsOfDay) *
      Int64.ofInt nanosecondsOfDay).toInt = timePoint.sinceEpoch.toInt % nanosecondsOfDay := by
  rw [Int64.toInt_sub, Int64.toInt_mul, Int64.toInt_ofInt, Int64.toInt_ofInt, sub_bmod_bmod]
  have hproduct (day : Int) : (timePoint.sinceEpoch.toInt - day.bmod (2 ^ 64) * nanosecondsOfDay.bmod (2 ^ 64)).bmod
      (2 ^ 64) = (timePoint.sinceEpoch.toInt - day * nanosecondsOfDay).bmod (2 ^ 64) := by
    rw [← sub_bmod_bmod, bmod_mul_bmod, mul_bmod_bmod, sub_bmod_bmod]
  refine (hproduct _).trans ?_
  have hrest : timePoint.sinceEpoch.toInt - timePoint.sinceEpoch.toInt / nanosecondsOfDay * nanosecondsOfDay =
      timePoint.sinceEpoch.toInt % nanosecondsOfDay := by
    unfold nanosecondsOfDay
    omega
  rw [hrest]
  unfold nanosecondsOfDay
  exact bmod_eq_of_le (by omega) (by omega)

theorem timePointToAliciaShopTime_spec (timePoint : TimePoint) : ∃ timestamp : Timestamp,
    timePointToAliciaShopTime timePoint = .ok timestamp ∧ timestamp.Valid ∧
      timestamp.seconds = timePoint.sinceEpoch.toInt / 1000000000 := by
  have hlow := timePoint.sinceEpoch.le_toInt
  have hhigh := timePoint.sinceEpoch.toInt_lt
  generalize hday : timePoint.sinceEpoch.toInt / nanosecondsOfDay = day
  have hvalid := valid_ofDays day
  have hcount := toDays_ofDays day
  have hyear : 0 ≤ (ofDays day).year ∧ (ofDays day).year ≤ 3000 := by
    refine year_bounds day ?_ ?_
    · unfold nanosecondsOfDay at hday
      unfold yearStart epoch
      omega
    · unfold nanosecondsOfDay at hday
      unfold yearStart epoch
      omega
  have hmonthDay : (ofDays day).month ≤ 12 ∧ (ofDays day).day ≤ 31 :=
    ⟨hvalid.month_le, hvalid.day_le.trans (daysInMonth_le ..)⟩
  have hok : isOk (ofDays day) = true := by
    simp only [isOk, Bool.and_eq_true, decide_eq_true_eq]
    exact ⟨⟨by omega, by omega⟩, hvalid⟩
  have htime := toInt_time timePoint
  rw [hday] at htime
  unfold timePointToAliciaShopTime
  rw [hday]
  dsimp only
  rw [if_pos hok, htime]
  have hrange : 0 ≤ timePoint.sinceEpoch.toInt % nanosecondsOfDay / 3600000000000 ∧
      timePoint.sinceEpoch.toInt % nanosecondsOfDay / 3600000000000 < 24 := by
    unfold nanosecondsOfDay
    omega
  have hdate := @date_packTime (ofDays day) _ (timePoint.sinceEpoch.toInt % nanosecondsOfDay / 60000000000 % 60)
    (timePoint.sinceEpoch.toInt % nanosecondsOfDay / 1000000000 % 60) (by omega) (by omega) (by omega)
    ⟨hrange.1, by omega⟩
  have hhour := @hour_packTime (ofDays day) _ (timePoint.sinceEpoch.toInt % nanosecondsOfDay / 60000000000 % 60)
    (timePoint.sinceEpoch.toInt % nanosecondsOfDay / 1000000000 % 60) (by omega) ⟨hrange.1, by omega⟩
  obtain ⟨hminute, hsecond⟩ := @minute_second_packTime (ofDays day)
    (timePoint.sinceEpoch.toInt % nanosecondsOfDay / 3600000000000)
    (timePoint.sinceEpoch.toInt % nanosecondsOfDay / 60000000000 % 60)
    (timePoint.sinceEpoch.toInt % nanosecondsOfDay / 1000000000 % 60) (by omega) (by omega)
  refine ⟨_, rfl, ⟨hdate.symm ▸ hvalid, by omega, by omega, by omega⟩, ?_⟩
  rw [Timestamp.seconds, hdate, hcount, hhour, hminute, hsecond, ← hday]
  unfold nanosecondsOfDay
  omega

/-- A valid timestamp is determined by its seconds. -/
theorem eq_of_seconds_eq {first second : Timestamp} (hfirst : first.Valid) (hsecond : second.Valid)
    (h : first.seconds = second.seconds) : first = second := by
  have hdays : toDays first.date = toDays second.date := by
    obtain ⟨-, hhour, hminute, hsec⟩ := hfirst
    obtain ⟨-, hhour', hminute', hsec'⟩ := hsecond
    unfold Timestamp.seconds at h
    omega
  have hdate : first.date = second.date := by
    rw [← ofDays_toDays hfirst.date, hdays, ofDays_toDays hsecond.date]
  have htime : first.hour = second.hour ∧ first.minute = second.minute ∧ first.second = second.second := by
    obtain ⟨-, hhour, hminute, hsec⟩ := hfirst
    obtain ⟨-, hhour', hminute', hsec'⟩ := hsecond
    unfold Timestamp.seconds at h
    omega
  obtain ⟨hhour, hminute, hsec⟩ := htime
  have hyear : ((lowHalf first.monthYear).toNat : Int) = (lowHalf second.monthYear).toNat := congrArg Date.year hdate
  have hmonthYear : first.monthYear = second.monthYear :=
    eq_of_halves (congrArg Date.month hdate) (ofNat_inj.1 hyear)
  have hhourDay : first.hourDay = second.hourDay := eq_of_halves hhour (congrArg Date.day hdate)
  have hsecondMinute : first.secondMinute = second.secondMinute := eq_of_halves hsec hminute
  cases first
  cases second
  simp only at hmonthYear hhourDay hsecondMinute
  rw [hmonthYear, hhourDay, hsecondMinute]

/-! ## Round trips -/

/-- `floor<seconds>`, as a time point of the system clock. -/
def floorSeconds (timePoint : TimePoint) : TimePoint :=
  .ofSeconds (Int64.ofInt (timePoint.sinceEpoch.toInt / 1000000000))

/-- The system clock can show the date and the time. -/
def Timestamp.Representable (timestamp : Timestamp) : Prop :=
  -2 ^ 63 ≤ timestamp.seconds * 1000000000 ∧ timestamp.seconds * 1000000000 < 2 ^ 63

instance (timestamp : Timestamp) : Decidable timestamp.Representable := inferInstanceAs (Decidable (_ ∧ _))

/-- A valid timestamp is kept exactly if the system clock can show it. -/
theorem kept_iff {timestamp : Timestamp} (hvalid : timestamp.Valid) :
    timePointToAliciaShopTime (aliciaShopTimeToTimePoint timestamp) = .ok timestamp ↔ timestamp.Representable := by
  obtain ⟨other, hother, hotherValid, hseconds⟩ := timePointToAliciaShopTime_spec (aliciaShopTimeToTimePoint timestamp)
  have hwrapped : (aliciaShopTimeToTimePoint timestamp).sinceEpoch.toInt =
      (timestamp.seconds * 1000000000).bmod (2 ^ 64) := toInt_ofSeconds _
  have hlow := (aliciaShopTimeToTimePoint timestamp).sinceEpoch.le_toInt
  have hhigh := (aliciaShopTimeToTimePoint timestamp).sinceEpoch.toInt_lt
  rw [hwrapped] at hseconds hlow hhigh
  rw [hother, Except.ok.injEq]
  constructor
  · rintro rfl
    have hsplit := bmod_eq_self_sub_bdiv_mul (other.seconds * 1000000000) (2 ^ 64)
    unfold Timestamp.Representable
    omega
  · rintro ⟨hfirst, hlast⟩
    refine eq_of_seconds_eq hotherValid hvalid ?_
    rw [hseconds, bmod_eq_of_le hfirst hlast]
    omega

/-- A time point is kept up to its seconds, a valid timestamp if the system clock can show it, and every timestamp by
the conversion to a date and a time. -/
theorem shopTime_round_trips :
    (∀ timePoint, ∃ timestamp, timePointToAliciaShopTime timePoint = .ok timestamp ∧
      aliciaShopTimeToTimePoint timestamp = floorSeconds timePoint) ∧
    (∀ timestamp : Timestamp, timestamp.Valid →
      (timePointToAliciaShopTime (aliciaShopTimeToTimePoint timestamp) = .ok timestamp ↔ timestamp.Representable)) ∧
    ∀ timestamp, dateTimeToAliciaShopTime (aliciaShopTimeToDateTime timestamp) = timestamp := by
  refine ⟨fun timePoint => ?_, fun _ hvalid => kept_iff hvalid, dateTime_round_trip⟩
  obtain ⟨timestamp, htimestamp, -, hseconds⟩ := timePointToAliciaShopTime_spec timePoint
  refine ⟨timestamp, htimestamp, ?_⟩
  rw [aliciaShopTimeToTimePoint, hseconds, floorSeconds]

/-- 2025-10-31 23:59:58 -/
def testedDay : Timestamp := ⟨0x000a07e9, 0x0017001f, 0x003a003b⟩

theorem testedDay_valid : testedDay.Valid := ⟨by decide, by decide, by decide, by decide⟩

theorem shopTime_round_trips_tested :
    timePointToAliciaShopTime (aliciaShopTimeToTimePoint testedDay) = .ok testedDay :=
  (shopTime_round_trips.2.1 testedDay testedDay_valid).2 (by decide)

/-- 2300-01-01 00:00:00 -/
def distantDay : Timestamp := ⟨0x000108fc, 0x00000001, 0x00000000⟩

/-- The system clock ends in the year 2262. -/
theorem distantDay_lost : distantDay.Valid ∧
    timePointToAliciaShopTime (aliciaShopTimeToTimePoint distantDay) ≠ .ok distantDay := by
  have hvalid : distantDay.Valid := ⟨by decide, by decide, by decide, by decide⟩
  exact ⟨hvalid, fun h => absurd ((kept_iff hvalid).1 h) (by decide)⟩

end Alicia.ShopTime
