import Alicia.ShopTime

/-!
# Packed times

A time is packed into one word: the year in 12 bits, the month in 4, the day in 5, the hour in 5 and
the minute in 6.  A duration is taken apart into mean Gregorian years and months, days, hours and
minutes, the largest unit first; a time point has the fields of its date and of its time of day.

Durations and time points count nanoseconds, from the epoch on.  The counter of the clock has 64
bits, and these times are only some of those that are spoken of here.
-/

namespace Alicia.AliciaTime

open UInt32
open Calendar (Date toDays ofDays)
open ShopTime (DateTime nanosecondsOfDay)

/-! ## The word -/

def dateTimeToAliciaTime (dateTime : DateTime) : UInt32 :=
  (min dateTime.years 4095).toUInt32 ||| (min dateTime.months 15) <<< 12 |||
    (min dateTime.days 31) <<< 16 ||| (min dateTime.hours 31).toUInt32 <<< 21 |||
    (min dateTime.minutes 63).toUInt32 <<< 26

/-- What the fields of a word say. -/
structure Fields where
  year : Nat
  month : Nat
  day : Nat
  hour : Nat
  minute : Nat
  deriving DecidableEq

def fields (word : UInt32) : Fields where
  year := word.toNat % 4096
  month := word.toNat / 4096 % 16
  day := word.toNat / 65536 % 32
  hour := word.toNat / 2097152 % 32
  minute := word.toNat / 67108864

/-- The fields have room for what is in them. -/
structure Fields.Fit (fields : Fields) : Prop where
  year : fields.year < 4096
  month : fields.month < 16
  day : fields.day < 32
  hour : fields.hour < 32
  minute : fields.minute < 64

def Fields.dateTime (fields : Fields) : DateTime where
  years := Int32.ofInt fields.year
  months := UInt32.ofNat fields.month
  days := UInt32.ofNat fields.day
  hours := Int32.ofInt fields.hour
  minutes := Int32.ofInt fields.minute

theorem toNat_or_shiftLeft {low high shift : UInt32} {count : Nat} (hshift : shift.toNat = count)
    (hcount : count < 32) (hlow : low.toNat < 2 ^ count) (hhigh : high.toNat * 2 ^ count < 2 ^ 32) :
    (low ||| high <<< shift).toNat = low.toNat + high.toNat * 2 ^ count := by
  have hpart : (high <<< shift).toNat = high.toNat * 2 ^ count := by
    rw [UInt32.toNat_shiftLeft, hshift, Nat.mod_eq_of_lt hcount, Nat.shiftLeft_eq,
      Nat.mod_eq_of_lt hhigh]
  rw [UInt32.toNat_or, hpart, Nat.or_comm, Nat.mul_comm, ← Nat.two_pow_add_eq_or_of_lt hlow,
    Nat.add_comm]

theorem toNat_min_int32 {value limit : Nat} (hvalue : value ≤ limit) (hlimit : limit < 2147483648) :
    (min (Int32.ofInt value) (Int32.ofInt limit)).toUInt32.toNat = value := by
  have hsize : Int32.size = 4294967296 := rfl
  have hle : Int32.ofInt value ≤ Int32.ofInt limit := by
    rw [Int32.le_iff_toInt_le, Int32.toInt_ofInt, Int32.toInt_ofInt,
      Int.bmod_eq_of_le (by omega) (by omega), Int.bmod_eq_of_le (by omega) (by omega)]
    exact Int.ofNat_le.2 hvalue
  rw [show min (Int32.ofInt value) (Int32.ofInt limit) = Int32.ofInt value from if_pos hle,
    ShopTime.toNat_ofInt (by omega) (by omega), Int.toNat_natCast]

theorem toNat_min_uint32 {value limit : Nat} (hvalue : value ≤ limit)
    (hlimit : limit < 4294967296) :
    (min (ofNat value) (ofNat limit)).toNat = value := by
  have htoNat : (ofNat value).toNat = value :=
    toNat_ofNat_of_lt' (Nat.lt_of_le_of_lt hvalue hlimit)
  have hle : ofNat value ≤ ofNat limit := by
    rw [le_iff_toNat_le, htoNat, toNat_ofNat_of_lt' hlimit]
    exact hvalue
  rw [show min (ofNat value) (ofNat limit) = ofNat value from if_pos hle,
    htoNat]

/-- What fits into the fields is what they say. -/
theorem fields_dateTimeToAliciaTime {time : Fields} (h : time.Fit) :
    fields (dateTimeToAliciaTime time.dateTime) = time := by
  obtain ⟨year, month, day, hour, minute⟩ := time
  obtain ⟨hyear, hmonth, hday, hhour, hminute⟩ := h
  dsimp only at hyear hmonth hday hhour hminute
  have hyears : (min (Int32.ofInt year) 4095).toUInt32.toNat = year :=
    @toNat_min_int32 year 4095 (by omega) (by decide)
  have hmonths : (min (ofNat month) 15).toNat = month :=
    @toNat_min_uint32 month 15 (by omega) (by decide)
  have hdays : (min (ofNat day) 31).toNat = day :=
    @toNat_min_uint32 day 31 (by omega) (by decide)
  have hhours : (min (Int32.ofInt hour) 31).toUInt32.toNat = hour :=
    @toNat_min_int32 hour 31 (by omega) (by decide)
  have hminutes : (min (Int32.ofInt minute) 63).toUInt32.toNat = minute :=
    @toNat_min_int32 minute 63 (by omega) (by decide)
  have hword : (dateTimeToAliciaTime (Fields.mk year month day hour minute).dateTime).toNat =
      year + month * 4096 + day * 65536 + hour * 2097152 + minute * 67108864 := by
    have htoMonth := @toNat_or_shiftLeft (min (Int32.ofInt year) 4095).toUInt32
      (min (ofNat month) 15) 12 12 rfl (by decide) (by omega) (by omega)
    have htoDay := @toNat_or_shiftLeft _ (min (ofNat day) 31) 16 16 rfl (by decide)
      (by rw [htoMonth]; omega) (by omega)
    have htoHour := @toNat_or_shiftLeft _ (min (Int32.ofInt hour) 31).toUInt32 21 21 rfl (by decide)
      (by rw [htoDay, htoMonth]; omega) (by omega)
    have htoMinute := @toNat_or_shiftLeft _ (min (Int32.ofInt minute) 63).toUInt32 26 26 rfl
      (by decide) (by rw [htoHour, htoDay, htoMonth]; omega) (by omega)
    rw [htoHour, htoDay, htoMonth, hyears, hmonths, hdays, hhours, hminutes] at htoMinute
    exact htoMinute
  unfold fields
  rw [hword]
  simp only [Fields.mk.injEq]
  omega

/-! ## Durations -/

def secondsPerYear : Int := 31556952

def secondsPerMonth : Int := 2629746

/-- The units that are taken off some seconds, the largest one first. -/
def takeApart (timeLeft : Int) : DateTime :=
  let years := timeLeft / secondsPerYear
  let timeLeft := timeLeft - years * secondsPerYear
  let months := timeLeft / secondsPerMonth
  let timeLeft := timeLeft - months * secondsPerMonth
  let days := timeLeft / 86400
  let timeLeft := timeLeft - days * 86400
  let hours := timeLeft / 3600
  let timeLeft := timeLeft - hours * 3600
  let minutes := timeLeft / 60
  { years := Int32.ofInt years
    months := UInt32.ofInt months
    days := UInt32.ofInt days
    hours := Int32.ofInt hours
    minutes := Int32.ofInt minutes }

/-- A duration is cut to seconds first. -/
def durationToAliciaTime (duration : Int) : UInt32 :=
  dateTimeToAliciaTime (takeApart (duration.tdiv 1000000000))

/-- The seconds that the fields of a duration stand for. -/
def Fields.seconds (fields : Fields) : Int :=
  fields.year * secondsPerYear + fields.month * secondsPerMonth + fields.day * 86400 +
    fields.hour * 3600 + fields.minute * 60

/-- A duration of less than 4096 mean Gregorian years. -/
structure Representable (duration : Int) : Prop where
  nonneg : 0 ≤ duration
  lt : duration < 4096 * secondsPerYear * 1000000000

/-- The fields are the units of a duration, which is less than a minute longer. -/
structure Fields.Measure (fields : Fields) (duration : Int) : Prop where
  month : fields.month < 12
  day : fields.day < 31
  hour : fields.hour < 24
  minute : fields.minute < 60
  le : fields.seconds * 1000000000 ≤ duration
  lt : duration < (fields.seconds + 60) * 1000000000

theorem ofInt_natCast (n : Nat) : UInt32.ofInt n = UInt32.ofNat n := by
  rw [UInt32.ofInt, ← UInt32.toNat_inj, UInt32.toNat_ofNat', UInt32.toNat_ofNat']
  omega

theorem exists_takeApart {seconds : Int} (hnonneg : 0 ≤ seconds)
    (hlt : seconds < 4096 * secondsPerYear) :
    ∃ time : Fields, takeApart seconds = time.dateTime ∧ time.year < 4096 ∧ time.month < 12 ∧
      time.day < 31 ∧ time.hour < 24 ∧ time.minute < 60 ∧ time.seconds ≤ seconds ∧
      seconds < time.seconds + 60 := by
  unfold secondsPerYear at hlt
  obtain ⟨year, hyear⟩ := Int.eq_ofNat_of_zero_le (show 0 ≤ seconds / 31556952 by omega)
  obtain ⟨month, hmonth⟩ := Int.eq_ofNat_of_zero_le
    (show 0 ≤ (seconds - year * 31556952) / 2629746 by omega)
  obtain ⟨day, hday⟩ := Int.eq_ofNat_of_zero_le
    (show 0 ≤ (seconds - year * 31556952 - month * 2629746) / 86400 by omega)
  obtain ⟨hour, hhour⟩ := Int.eq_ofNat_of_zero_le
    (show 0 ≤ (seconds - year * 31556952 - month * 2629746 - day * 86400) / 3600 by omega)
  obtain ⟨minute, hminute⟩ := Int.eq_ofNat_of_zero_le
    (show 0 ≤ (seconds - year * 31556952 - month * 2629746 - day * 86400 - hour * 3600) / 60 by
      omega)
  refine ⟨⟨year, month, day, hour, minute⟩, ?_, ?_⟩
  · unfold takeApart secondsPerYear secondsPerMonth
    dsimp only
    rw [hyear, hmonth, hday, hhour, hminute, ofInt_natCast, ofInt_natCast]
    rfl
  · unfold Fields.seconds secondsPerYear secondsPerMonth
    dsimp only
    omega

theorem measures_durationToAliciaTime {duration : Int} (h : Representable duration) :
    (fields (durationToAliciaTime duration)).Measure duration := by
  obtain ⟨hnonneg, hlt⟩ := h
  have hcut : duration.tdiv 1000000000 = duration / 1000000000 := Int.tdiv_eq_ediv_of_nonneg hnonneg
  have hseconds : duration / 1000000000 < 4096 * secondsPerYear :=
    Int.ediv_lt_of_lt_mul (by decide) hlt
  obtain ⟨time, htime, hyear, hmonth, hday, hhour, hminute, hle, hless⟩ :=
    exists_takeApart (show 0 ≤ duration / 1000000000 by omega) hseconds
  have hfit : time.Fit := ⟨hyear, by omega, by omega, by omega, by omega⟩
  rw [durationToAliciaTime, hcut, htime, fields_dateTimeToAliciaTime hfit]
  exact ⟨hmonth, hday, hhour, hminute, by omega, by omega⟩

/-! ## Time points -/

def timePointToAliciaTime (timePoint : Int) : UInt32 :=
  let date := ofDays (timePoint / nanosecondsOfDay)
  let time := timePoint - timePoint / nanosecondsOfDay * nanosecondsOfDay
  dateTimeToAliciaTime
    { years := Int32.ofInt date.year
      months := UInt32.ofNat date.month
      days := UInt32.ofNat date.day
      hours := Int32.ofInt (time / 3600000000000)
      minutes := Int32.ofInt (time / 60000000000 % 60) }

/-- The date of a time point. -/
def dateOf (timePoint : Int) : Date := ofDays (timePoint / nanosecondsOfDay)

/-- The calendar has the year of a time point among those of the packed times. -/
structure InCalendar (timePoint : Int) : Prop where
  nonneg : 0 ≤ (dateOf timePoint).year
  le : (dateOf timePoint).year ≤ 4095

/-- The fields are those of the date and of the time of day. -/
structure Fields.Show (fields : Fields) (timePoint : Int) : Prop where
  date : (⟨fields.year, fields.month, fields.day⟩ : Date) = dateOf timePoint
  hour : fields.hour < 24
  minute : fields.minute < 60
  le : (fields.hour * 3600 + fields.minute * 60) * 1000000000 ≤ timePoint % nanosecondsOfDay
  lt : timePoint % nanosecondsOfDay < (fields.hour * 3600 + fields.minute * 60 + 60) * 1000000000

theorem shows_timePointToAliciaTime {timePoint : Int} (h : InCalendar timePoint) :
    (fields (timePointToAliciaTime timePoint)).Show timePoint := by
  obtain ⟨hnonneg, hle⟩ := h
  have hvalid := Calendar.valid_ofDays (timePoint / nanosecondsOfDay)
  have hdayLe := hvalid.day_le.trans (Calendar.daysInMonth_le ..)
  obtain ⟨year, hyear⟩ := Int.eq_ofNat_of_zero_le hnonneg
  have htime : timePoint - timePoint / nanosecondsOfDay * nanosecondsOfDay =
      timePoint % nanosecondsOfDay := by
    unfold nanosecondsOfDay
    omega
  have hrange : 0 ≤ timePoint % nanosecondsOfDay ∧
      timePoint % nanosecondsOfDay < 86400000000000 := by
    unfold nanosecondsOfDay
    omega
  generalize hrest : timePoint % nanosecondsOfDay = time at htime hrange
  obtain ⟨hour, hhour⟩ := Int.eq_ofNat_of_zero_le (show 0 ≤ time / 3600000000000 by omega)
  obtain ⟨minute, hminute⟩ := Int.eq_ofNat_of_zero_le (show 0 ≤ time / 60000000000 % 60 by omega)
  have hclock : hour < 24 ∧ minute < 60 ∧ (hour * 3600 + minute * 60 : Int) * 1000000000 ≤ time ∧
      time < (hour * 3600 + minute * 60 + 60 : Int) * 1000000000 := by
    omega
  have hfit : Fields.Fit ⟨year, (dateOf timePoint).month, (dateOf timePoint).day, hour, minute⟩ :=
    ⟨Int.ofNat_lt.1 (hyear ▸ Int.lt_add_one_of_le hle),
      Nat.lt_of_le_of_lt hvalid.month_le (by decide), Nat.lt_of_le_of_lt hdayLe (by decide),
      hclock.1.trans (by decide), hclock.2.1.trans (by decide)⟩
  have hword : timePointToAliciaTime timePoint = dateTimeToAliciaTime
      (Fields.mk year (dateOf timePoint).month (dateOf timePoint).day hour minute).dateTime := by
    rw [timePointToAliciaTime, htime, hhour, hminute, Fields.dateTime, ← hyear]
    rfl
  rw [hword, fields_dateTimeToAliciaTime hfit]
  refine ⟨?_, hclock.1, hclock.2.1, hrest ▸ hclock.2.2.1, hrest ▸ hclock.2.2.2⟩
  exact congrArg
    (fun year => (⟨year, (dateOf timePoint).month, (dateOf timePoint).day⟩ : Date)) hyear.symm

/-! ## Exactness -/

/-- The counter is at the start of a minute. -/
def IsWholeMinute (time : Int) : Prop := time % 60000000000 = 0

theorem eq_of_durationToAliciaTime {first second : Int} (hfirst : Representable first)
    (hsecond : Representable second) (hwhole : IsWholeMinute first) (hother : IsWholeMinute second)
    (h : durationToAliciaTime first = durationToAliciaTime second) : first = second := by
  obtain ⟨-, -, -, -, hle, hlt⟩ := measures_durationToAliciaTime hfirst
  obtain ⟨-, -, -, -, hle', hlt'⟩ := measures_durationToAliciaTime hsecond
  rw [h] at hle hlt
  unfold IsWholeMinute at hwhole hother
  omega

theorem eq_of_timePointToAliciaTime {first second : Int} (hfirst : InCalendar first)
    (hsecond : InCalendar second) (hwhole : IsWholeMinute first) (hother : IsWholeMinute second)
    (h : timePointToAliciaTime first = timePointToAliciaTime second) : first = second := by
  obtain ⟨hdate, -, -, hle, hlt⟩ := shows_timePointToAliciaTime hfirst
  obtain ⟨hdate', -, -, hle', hlt'⟩ := shows_timePointToAliciaTime hsecond
  rw [h] at hdate hle hlt
  have hdays : first / nanosecondsOfDay = second / nanosecondsOfDay := by
    rw [← Calendar.toDays_ofDays (first / nanosecondsOfDay),
      ← Calendar.toDays_ofDays (second / nanosecondsOfDay)]
    exact congrArg toDays (hdate.symm.trans hdate')
  unfold IsWholeMinute at hwhole hother
  unfold nanosecondsOfDay at hdays hle hlt hle' hlt'
  omega

/-- The words of durations and of time points say them exactly to the minute. -/
theorem packed_times_exact :
    (∀ duration, Representable duration →
      (fields (durationToAliciaTime duration)).Measure duration) ∧
    (∀ timePoint, InCalendar timePoint →
      (fields (timePointToAliciaTime timePoint)).Show timePoint) ∧
    (∀ first second, Representable first → Representable second → IsWholeMinute first →
      IsWholeMinute second → durationToAliciaTime first = durationToAliciaTime second →
      first = second) ∧
    ∀ first second, InCalendar first → InCalendar second → IsWholeMinute first →
      IsWholeMinute second → timePointToAliciaTime first = timePointToAliciaTime second →
      first = second :=
  ⟨fun _ => measures_durationToAliciaTime, fun _ => shows_timePointToAliciaTime,
    fun _ _ => eq_of_durationToAliciaTime, fun _ _ => eq_of_timePointToAliciaTime⟩

/-- A year, a month, a day and a minute. -/
def longAbsence : Int := (31556952 + 2629746 + 86400 + 60) * 1000000000

theorem packed_times_exact_absence :
    (fields (durationToAliciaTime longAbsence)).Measure longAbsence ∧
      durationToAliciaTime longAbsence = durationToAliciaTime (longAbsence + 1) :=
  ⟨packed_times_exact.1 longAbsence ⟨by decide, by decide⟩, by decide⟩

end Alicia.AliciaTime
