import LoanWorkflow.Framework.WorkTime
import LoanWorkflow.Model.Context

/-! # Business calendars

    `AddBusinessHours` and `BusinessHoursElapsed` on a stored calendar whose
    time zone has a fixed offset. Both walk the calendar day by day, each with
    its own loop and its own bound on the number of rounds: the first fails at
    the bound, the second returns what it has counted so far.

    The calendar as a `Schedule` says what the two loops compute:

    - `businessHours_roundTrip`: what was added is what is measured
    - `addBusinessHours_add`: what is added in two steps is added in one
-/

namespace LoanWorkflow

variable {duration elapsed : Duration} {current e finish start t target : Instant} {guard : Nat}
variable {remaining total : Duration} {later : Instant}

/-! ## Dates

    A date is the number of days since 1970-01-01. -/

def second : Duration := 1000000000

def minute : Duration := 60000000000

def dayLength : Duration := 86400000000000

/-- `time.Weekday` of a date, Sunday being `0`; day `0` was a Thursday. -/
def weekday (date : Int) : Nat := ((date + 4) % 7).toNat

/-- Month and day of a date, in the proleptic Gregorian calendar. -/
def monthDay (date : Int) : Int × Int :=
  -- years run from March, in eras of 400 years
  let dayOfEra := (date + 719468) % 146097
  let yearOfEra := (dayOfEra - dayOfEra / 1460 + dayOfEra / 36524 - dayOfEra / 146096) / 365
  let dayOfYear := dayOfEra - (365 * yearOfEra + yearOfEra / 4 - yearOfEra / 100)
  let month := (5 * dayOfYear + 2) / 153
  (if month < 10 then month + 3 else month - 9, dayOfYear - (153 * month + 2) / 5 + 1)

example : monthDay 0 = (1, 1) ∧ monthDay 11016 = (2, 29) ∧ monthDay (-1) = (12, 31) := by decide

/-! ## Calendars -/

/-- A row of `holiday_calendars`. -/
structure Holiday where
  date : Int
  isRecurring : Bool := false

/-- A row of `business_calendars` with its holidays. -/
structure BusinessCalendar where
  /-- Offset of the time zone, in seconds east of UTC. -/
  utcOffset : Int := 0
  /-- The texts `HH:MM` of the working hours, as minutes after midnight. -/
  startTime : Nat
  endTime : Nat
  /-- Mon=1, Tue=2, Wed=4, Thu=8, Fri=16, Sat=32, Sun=64. -/
  workingDays : Nat
  holidays : List Holiday := []

variable {cal : BusinessCalendar}

/-- The start of day `0` in the time zone of the calendar. -/
def BusinessCalendar.epoch (cal : BusinessCalendar) : Instant := -(cal.utcOffset * second)

/-- The date of an instant in the time zone of the calendar. -/
def BusinessCalendar.dateOf (cal : BusinessCalendar) (t : Instant) : Int :=
  (t - cal.epoch) / dayLength

/-- `time.Date` of a date and a time of day in the time zone of the calendar. -/
def BusinessCalendar.at (cal : BusinessCalendar) (date : Int) (minutes : Nat) : Instant :=
  cal.epoch + date * dayLength + minutes * minute

/-- Of the texts of a `TIME` column, `24:00` alone does not parse. -/
def parseClockHM (minutes : Nat) : Except Err Nat :=
  if minutes < 1440 then .ok minutes
  else .error "parsing time \"24:00\": hour out of range"

def weekdayMask : Nat → Nat
  | 1 => 1
  | 2 => 2
  | 3 => 4
  | 4 => 8
  | 5 => 16
  | 6 => 32
  | 0 => 64
  | _ => 0

def isWorkingWeekday (weekday bitfield : Nat) : Bool := bitfield &&& weekdayMask weekday != 0

/-- Is a date a business day? One-off holidays are looked up by date, recurring ones by month
    and day. -/
def BusinessCalendar.isBusinessDate (cal : BusinessCalendar) (date : Int) : Bool :=
  isWorkingWeekday (weekday date) cal.workingDays &&
    !cal.holidays.any (fun h => !h.isRecurring && h.date == date) &&
    !cal.holidays.any (fun h => h.isRecurring && monthDay h.date == monthDay date)

def isBusinessDay (cal : BusinessCalendar) (t : Instant) : Bool :=
  cal.isBusinessDate (cal.dateOf t)

def workingWindow (cal : BusinessCalendar) (t : Instant) : Except Err (Instant × Instant) :=
  match parseClockHM cal.startTime, parseClockHM cal.endTime with
  | .error e, _ => .error ("workingWindow: parse start_time: " ++ e)
  | .ok _, .error e => .error ("workingWindow: parse end_time: " ++ e)
  | .ok startTime, .ok endTime =>
    let dayStart := cal.at (cal.dateOf t) startTime
    let dayEnd := cal.at (cal.dateOf t) endTime
    if dayEnd ≤ dayStart then .error "workingWindow: end_time must be after start_time"
    else .ok (dayStart, dayEnd)

def nextDayAtCalendarStart (cal : BusinessCalendar) (t : Instant) : Instant :=
  match parseClockHM cal.startTime with
  | .error _ => t + 24 * hour
  | .ok startTime => cal.at (cal.dateOf t + 1) startTime

/-! ## The loops -/

/-- The loop of `alignToWorkingStart`. -/
def alignLoop (cal : BusinessCalendar) : Nat → Instant → Except Err Instant
  | 0, _ => .error "alignToWorkingStart: exceeded iteration safety limit"
  | guard + 1, current =>
    if !isBusinessDay cal current then alignLoop cal guard (nextDayAtCalendarStart cal current)
    else
      match workingWindow cal current with
      | .error e => .error e
      | .ok (dayStart, dayEnd) =>
        if current < dayStart then .ok dayStart
        else if dayEnd ≤ current then alignLoop cal guard (nextDayAtCalendarStart cal current)
        else .ok current

def alignToWorkingStart (cal : BusinessCalendar) (t : Instant) : Except Err Instant :=
  alignLoop cal 20000 t

/-- The loop of `AddBusinessHours`. -/
def addLoop (cal : BusinessCalendar) : Nat → Instant → Duration → Except Err Instant
  | 0, _, _ => .error "exceeded iteration safety limit"
  | guard + 1, current, remaining =>
    if !isBusinessDay cal current then
      addLoop cal guard (nextDayAtCalendarStart cal current) remaining
    else
      match workingWindow cal current with
      | .error e => .error e
      | .ok (dayStart, dayEnd) =>
        let current := if current < dayStart then dayStart else current
        if dayEnd ≤ current then addLoop cal guard (nextDayAtCalendarStart cal current) remaining
        else if remaining ≤ dayEnd - current then .ok (current + remaining)
        else
          addLoop cal guard (nextDayAtCalendarStart cal current) (remaining - (dayEnd - current))

/-- The loop of `BusinessHoursElapsed`. -/
def elapsedLoop (cal : BusinessCalendar) (target : Instant) :
    Nat → Instant → Duration → Except Err Duration
  | 0, _, elapsed => .ok elapsed
  | guard + 1, current, elapsed =>
    if target ≤ current then .ok elapsed
    else if !isBusinessDay cal current then
      elapsedLoop cal target guard (nextDayAtCalendarStart cal current) elapsed
    else
      match workingWindow cal current with
      | .error e => .error e
      | .ok (dayStart, dayEnd) =>
        let current := if current < dayStart then dayStart else current
        if dayEnd ≤ current then
          elapsedLoop cal target guard (nextDayAtCalendarStart cal current) elapsed
        else
          let segmentEnd := if target < dayEnd then target else dayEnd
          let elapsed := if current < segmentEnd then elapsed + (segmentEnd - current) else elapsed
          if target ≤ segmentEnd then .ok elapsed
          else if dayEnd ≤ segmentEnd then
            elapsedLoop cal target guard (nextDayAtCalendarStart cal segmentEnd) elapsed
          else elapsedLoop cal target guard segmentEnd elapsed

/-! ## The two functions -/

def loadBusinessCalendar (calendars : Id → Option BusinessCalendar) (calendarId : Id) :
    Except Err BusinessCalendar :=
  orFail (calendars calendarId)
    ("loadBusinessCalendar: calendar " ++ toString calendarId ++
      " not found: sql: no rows in result set")

def addBusinessHours (calendars : Id → Option BusinessCalendar) (start : Instant)
    (duration : Duration) (calendarId : Id) : Except Err Instant :=
  if duration < 0 then .error "AddBusinessHours: duration must be non-negative"
  else if duration = 0 then .ok start
  else Except.mapError ("AddBusinessHours: " ++ ·) (do
    let cal ← loadBusinessCalendar calendars calendarId
    let current ← alignToWorkingStart cal start
    addLoop cal 50000 current duration)

def businessHoursElapsed (calendars : Id → Option BusinessCalendar) (start finish : Instant)
    (calendarId : Id) : Except Err Duration :=
  if finish < start then .error "BusinessHoursElapsed: end is before start"
  else if finish = start then .ok 0
  else Except.mapError ("BusinessHoursElapsed: " ++ ·) (do
    let cal ← loadBusinessCalendar calendars calendarId
    let elapsed ← elapsedLoop cal finish 50000 start 0
    ensure (decide (0 ≤ elapsed)) "computed negative elapsed duration"
    return elapsed)

/-- A call whose business time is that of the given calendars. -/
def Ctx.onCalendars (calendars : Id → Option BusinessCalendar) (now : Instant) : Ctx :=
  { Ctx.plain now with
    addBusinessHours := LoanWorkflow.addBusinessHours calendars
    businessHoursElapsed := LoanWorkflow.businessHoursElapsed calendars }

/-! ## What the loops compute -/

/-- The times of a calendar parse and leave a window. -/
def BusinessCalendar.Valid (cal : BusinessCalendar) : Prop :=
  cal.startTime < cal.endTime ∧ cal.endTime < 1440

instance (cal : BusinessCalendar) : Decidable cal.Valid := inferInstanceAs (Decidable (_ ∧ _))

/-- The working time that a calendar stands for. -/
def BusinessCalendar.schedule (cal : BusinessCalendar) (hv : cal.Valid) : Schedule where
  origin := cal.epoch
  len := dayLength
  opens := cal.startTime * minute
  closes := cal.endTime * minute
  isWorkday := cal.isBusinessDate
  opens_nonneg := by unfold minute; omega
  opens_lt_closes := by
    have := hv.1
    unfold minute
    omega
  closes_lt_len := by
    have := hv.2
    unfold minute dayLength
    omega

/-- Working time of a calendar up to an instant; a calendar without a window has none. -/
def BusinessCalendar.worked (cal : BusinessCalendar) (t : Instant) : Duration :=
  if hv : cal.Valid then (cal.schedule hv).worked t else 0

section Loops

variable (hv : cal.Valid)

include hv

theorem workingWindow_eq (t : Instant) :
    workingWindow cal t =
      .ok ((cal.schedule hv).opening ((cal.schedule hv).day t),
        (cal.schedule hv).closing ((cal.schedule hv).day t)) := by
  have hstart : parseClockHM cal.startTime = .ok cal.startTime := if_pos (hv.1.trans hv.2)
  have hend : parseClockHM cal.endTime = .ok cal.endTime := if_pos hv.2
  have hlt : cal.at (cal.dateOf t) cal.startTime < cal.at (cal.dateOf t) cal.endTime :=
    Int.add_lt_add_left (cal.schedule hv).opens_lt_closes _
  unfold workingWindow
  rw [hstart, hend]
  exact if_neg hlt.not_ge

theorem nextDayAtCalendarStart_eq (t : Instant) :
    nextDayAtCalendarStart cal t = (cal.schedule hv).next t := by
  have hstart : parseClockHM cal.startTime = .ok cal.startTime := if_pos (hv.1.trans hv.2)
  unfold nextDayAtCalendarStart
  rw [hstart]
  rfl

theorem isBusinessDay_eq (t : Instant) :
    isBusinessDay cal t = (cal.schedule hv).isWorkday ((cal.schedule hv).day t) := rfl

/-- Alignment moves forward over time in which no work is done. -/
theorem alignLoop_spec {c : Instant} (h : alignLoop cal guard t = .ok c) :
    t ≤ c ∧ (cal.schedule hv).worked c = (cal.schedule hv).worked t := by
  induction guard generalizing t with
  | zero => cases h
  | succ guard ih =>
    rw [alignLoop, workingWindow_eq hv, nextDayAtCalendarStart_eq hv, isBusinessDay_eq hv] at h
    generalize cal.schedule hv = S at h ih ⊢
    have hnext := S.lt_next t
    split at h
    · next hoff =>
      obtain ⟨hle, hworked⟩ := ih h
      exact ⟨hnext.le.trans hle, hworked.trans (S.worked_next (.inl (by simpa using hoff)))⟩
    · dsimp only at h
      split at h
      · next hearly =>
        cases h
        have henter : S.enter t = S.opening (S.day t) := if_pos hearly
        exact ⟨hearly.le, henter ▸ S.worked_enter t⟩
      · split at h
        · next hlate =>
          obtain ⟨hle, hworked⟩ := ih h
          exact ⟨hnext.le.trans hle, hworked.trans (S.worked_next (.inr hlate))⟩
        · cases h
          exact ⟨le_rfl, rfl⟩

/-- The loop of `AddBusinessHours` runs until the remaining time is worked off. -/
theorem addLoop_spec (hpos : 0 < remaining) (h : addLoop cal guard t remaining = .ok e) :
    t ≤ e ∧ (cal.schedule hv).worked e = (cal.schedule hv).worked t + remaining ∧
      (cal.schedule hv).AtWork e := by
  induction guard generalizing t remaining with
  | zero => cases h
  | succ guard ih =>
    rw [addLoop, workingWindow_eq hv, isBusinessDay_eq hv] at h
    simp only [nextDayAtCalendarStart_eq hv] at h
    generalize cal.schedule hv = S at h ih ⊢
    split at h
    · next hoff =>
      obtain ⟨hle, hworked, hwork⟩ := ih hpos h
      rw [S.worked_next (.inl (by simpa using hoff))] at hworked
      exact ⟨(S.lt_next t).le.trans hle, hworked, hwork⟩
    · next hon =>
      have hwork : S.isWorkday (S.day (S.enter t)) = true := by simpa using hon
      have hle := S.le_enter t
      have hopen := S.opening_le_enter t
      rw [← S.day_enter t] at hopen
      dsimp only [Instant, Duration] at *
      rw [← Schedule.enter, ← S.day_enter t] at h
      rw [← S.worked_enter t]
      generalize S.enter t = current at h hwork hle hopen ⊢
      -- the three ways on from an instant at or after the opening of a business day
      split at h
      · next hlate =>
        obtain ⟨hend, hworked, hatWork⟩ := ih hpos h
        rw [S.worked_next (.inr hlate)] at hworked
        exact ⟨(hle.trans (S.lt_next current).le).trans hend, hworked, hatWork⟩
      · next hearly =>
        split at h
        · next hfits =>
          cases h
          have hrun := S.worked_run (u := current + remaining) hwork hopen (by omega) (by omega)
          exact ⟨by omega, by omega, S.atWork_run hwork hopen (by omega) (by omega)⟩
        · next hmore =>
          obtain ⟨hend, hworked, hatWork⟩ := ih (by omega) h
          rw [S.worked_finish hwork hopen (by omega)] at hworked
          have := S.lt_next current
          exact ⟨by omega, by omega, hatWork⟩

/-- The loop of `BusinessHoursElapsed` counts the working time up to its target, on as many days
    as it has rounds. -/
theorem elapsedLoop_eq :
    elapsedLoop cal target guard current elapsed =
      .ok (elapsed + max 0 (min ((cal.schedule hv).worked target)
        ((cal.schedule hv).total ((cal.schedule hv).day current + guard)) -
          (cal.schedule hv).worked current)) := by
  induction guard generalizing current elapsed with
  | zero =>
    have hworked := (cal.schedule hv).total_le_worked current
    rw [elapsedLoop, max_eq_left (by simp; omega), add_zero]
  | succ guard ih =>
    rw [elapsedLoop, workingWindow_eq hv, isBusinessDay_eq hv]
    simp only [nextDayAtCalendarStart_eq hv]
    generalize cal.schedule hv = S at ih ⊢
    by_cases hdone : target ≤ current
    · have := S.worked_mono hdone
      rw [if_pos hdone, max_eq_left (by omega), add_zero]
    rw [if_neg hdone, Nat.cast_succ, add_comm (guard : ℤ), ← add_assoc]
    by_cases hwork : S.isWorkday (S.day current) = true
    swap
    · have hoff : S.isWorkday (S.day current) = false := by simpa using hwork
      rw [hoff, Bool.not_false, if_pos rfl, ih, S.day_next, S.worked_next (.inl hoff)]
    rw [hwork, Bool.not_true, if_neg Bool.false_ne_true, ← Schedule.enter]
    have hopen := S.opening_le_enter current
    rw [← S.day_enter current] at hwork hopen ⊢
    rw [← S.worked_enter current]
    generalize S.enter current = current at hwork hopen ⊢
    dsimp only [Instant, Duration] at *
    by_cases hlate : S.closing (S.day current) ≤ current
    · rw [if_pos hlate, ih, S.day_next, S.worked_next (.inr hlate)]
    rw [if_neg hlate]
    have hfinish := S.worked_run hwork hopen (not_le.mp hlate).le le_rfl
    -- the days that are left are enough for this one
    have henough : ∀ t ≤ S.closing (S.day current), S.worked t ≤ S.total (S.day current + 1 + guard) := by
      intro t ht
      have hday := S.day_mono ht
      rw [S.day_closing] at hday
      exact S.worked_le_total (by omega)
    have hrest := henough _ le_rfl
    -- the segment ends at the target or at closing, whichever comes first
    by_cases hlast : target < S.closing (S.day current)
    · have htarget := henough target hlast.le
      rw [if_pos hlast, if_pos le_rfl, min_eq_left htarget]
      by_cases hcur : current < target
      · have hrun := S.worked_run hwork hopen hcur.le hlast.le
        rw [if_pos hcur]
        congr 1
        omega
      · have := S.worked_mono (not_lt.mp hcur)
        rw [if_neg hcur, max_eq_left (by omega), add_zero]
    · have hmono := S.worked_mono (not_lt.mp hlast)
      rw [if_neg hlast, if_pos (not_le.mp hlate)]
      by_cases hexact : target ≤ S.closing (S.day current)
      · have heq : target = S.closing (S.day current) := le_antisymm hexact (not_lt.mp hlast)
        rw [if_pos hexact, heq]
        congr 1
        omega
      · have hnext := S.worked_next (t := S.closing (S.day current)) (.inr (by simp))
        rw [if_neg hexact, if_pos le_rfl, ih, S.day_next, S.day_closing, hnext]
        congr 1
        omega

variable {calendars : Id → Option BusinessCalendar} {calendarId : Id}

/-- The result of `AddBusinessHours` lies the given working time ahead. -/
theorem addBusinessHours_spec (hcal : calendars calendarId = some cal)
    (h : addBusinessHours calendars start duration calendarId = .ok e) :
    start ≤ e ∧ (cal.schedule hv).worked e = (cal.schedule hv).worked start + duration ∧
      (duration ≠ 0 → (cal.schedule hv).AtWork e) := by
  unfold addBusinessHours at h
  split at h
  · cases h
  next hnonneg =>
  split at h
  · next hzero =>
    cases h
    rw [hzero]
    exact ⟨le_rfl, (add_zero _).symm, fun hne => absurd rfl hne⟩
  next hzero =>
  obtain ⟨_, hload, h⟩ := bind_ok (mapError_eq_ok.mp h)
  obtain ⟨current, halign, h⟩ := bind_ok h
  obtain rfl := Option.mem_unique hcal (orFail_eq_ok.mp hload)
  obtain ⟨hle, hworked⟩ := alignLoop_spec hv halign
  obtain ⟨hle', hworked', hatWork⟩ :=
    addLoop_spec hv (lt_of_le_of_ne (not_lt.mp hnonneg) (Ne.symm hzero)) h
  exact ⟨hle.trans hle', by rw [hworked', hworked], fun _ => hatWork⟩

/-- Over fewer days than the loop has rounds, `BusinessHoursElapsed` is the working time in
    between. -/
theorem businessHoursElapsed_eq (hcal : calendars calendarId = some cal) (hle : start ≤ finish)
    (hspan : (cal.schedule hv).day finish - (cal.schedule hv).day start < 50000) :
    businessHoursElapsed calendars start finish calendarId =
      .ok ((cal.schedule hv).worked finish - (cal.schedule hv).worked start) := by
  unfold businessHoursElapsed loadBusinessCalendar
  rw [if_neg (not_lt.mpr hle)]
  by_cases heq : finish = start
  · rw [if_pos heq, heq, sub_self]
  · have hmono := (cal.schedule hv).worked_mono hle
    rw [if_neg heq, hcal, mapError_eq_ok, bind_eq_ok]
    refine ⟨cal, rfl, ?_⟩
    have hwithin := (cal.schedule hv).worked_le_total (d := (cal.schedule hv).day start + 50000)
      (t := finish) (by omega)
    rw [elapsedLoop_eq hv, zero_add, Nat.cast_ofNat, min_eq_left hwithin, max_eq_right (by omega)]
    simp [bind, Except.bind, ensure, hmono, pure, Except.pure]

end Loops

/-- Only a calendar with a window has working windows. -/
theorem valid_of_workingWindow {w : Instant × Instant}
    (h : workingWindow cal t = .ok w) : cal.Valid := by
  unfold workingWindow parseClockHM at h
  by_cases hstart : cal.startTime < 1440
  swap
  · rw [if_neg hstart] at h
    cases h
  by_cases hend : cal.endTime < 1440
  swap
  · rw [if_pos hstart, if_neg hend] at h
    cases h
  rw [if_pos hstart, if_pos hend] at h
  dsimp only at h
  split at h
  · cases h
  · next hwindow =>
    refine ⟨?_, hend⟩
    by_contra hcon
    apply hwindow
    refine Int.add_le_add_left ?_ _
    exact Int.mul_le_mul_of_nonneg_right (by omega) (by decide)

theorem valid_of_addLoop (h : addLoop cal guard t remaining = .ok e) : cal.Valid := by
  induction guard generalizing t remaining with
  | zero => cases h
  | succ guard ih =>
    rw [addLoop] at h
    split at h
    · exact ih h
    · split at h
      · cases h
      · next hwindow => exact valid_of_workingWindow hwindow

/-- Working time can only be added on a calendar with a window. -/
theorem valid_of_addBusinessHours {calendars : Id → Option BusinessCalendar} {calendarId : Id}
    (hcal : calendars calendarId = some cal) (hpos : 0 < duration)
    (h : addBusinessHours calendars start duration calendarId = .ok e) : cal.Valid := by
  unfold addBusinessHours at h
  rw [if_neg (not_lt.mpr hpos.le), if_neg hpos.ne', mapError_eq_ok] at h
  obtain ⟨_, hload, h⟩ := bind_ok h
  obtain ⟨current, -, h⟩ := bind_ok h
  obtain rfl := Option.mem_unique hcal (orFail_eq_ok.mp hload)
  exact valid_of_addLoop h

/-! ## Working time of a calendar -/

section Worked

variable {calendars : Id → Option BusinessCalendar} {calendarId : Id}

theorem BusinessCalendar.worked_mono (cal : BusinessCalendar) {u : Instant} (h : t ≤ u) :
    cal.worked t ≤ cal.worked u := by
  unfold BusinessCalendar.worked
  split
  · next hv => exact (cal.schedule hv).worked_mono h
  · exact le_rfl

/-- `AddBusinessHours` goes the given working time ahead. -/
theorem worked_addBusinessHours (hcal : calendars calendarId = some cal)
    (h : addBusinessHours calendars start duration calendarId = .ok e) :
    start ≤ e ∧ cal.worked e = cal.worked start + duration := by
  by_cases hv : cal.Valid
  · unfold BusinessCalendar.worked
    rw [dif_pos hv, dif_pos hv]
    obtain ⟨hle, hworked, -⟩ := addBusinessHours_spec hv hcal h
    exact ⟨hle, hworked⟩
  · -- without a window only no time at all can be added
    have hzero : duration = 0 := by
      by_contra hne
      have hnonneg : ¬ duration < 0 := by
        intro hneg
        unfold addBusinessHours at h
        rw [if_pos hneg] at h
        cases h
      exact hv (valid_of_addBusinessHours hcal
        (lt_of_le_of_ne (not_lt.mp hnonneg) (Ne.symm hne)) h)
    subst hzero
    cases h
    exact ⟨le_rfl, (add_zero _).symm⟩

/-- Over fewer days than the loop has rounds, `BusinessHoursElapsed` is the working time in
    between. -/
theorem businessHoursElapsed_worked (hv : cal.Valid) (hcal : calendars calendarId = some cal)
    (hle : start ≤ finish) (hspan : cal.dateOf finish - cal.dateOf start < 50000) :
    businessHoursElapsed calendars start finish calendarId =
      .ok (cal.worked finish - cal.worked start) := by
  unfold BusinessCalendar.worked
  rw [dif_pos hv, dif_pos hv]
  exact businessHoursElapsed_eq hv hcal hle hspan

/-- An elapsed time is only ever computed forward. -/
theorem le_of_businessHoursElapsed
    (h : businessHoursElapsed calendars start finish calendarId = .ok elapsed) :
    start ≤ finish := by
  unfold businessHoursElapsed at h
  split at h
  · cases h
  · next hle => exact not_lt.mp hle

/-- On a calendar without a window the loop counts nothing. -/
theorem elapsedLoop_of_not_valid (hv : ¬ cal.Valid)
    (h : elapsedLoop cal target guard current elapsed = .ok total) : elapsed = total := by
  induction guard generalizing current with
  | zero => exact Except.ok.inj h
  | succ guard ih =>
    rw [elapsedLoop] at h
    split at h
    · exact Except.ok.inj h
    split at h
    · exact ih h
    split at h
    · cases h
    · next hwindow => exact absurd (valid_of_workingWindow hwindow) hv

/-- A later target adds more. -/
theorem elapsedLoop_mono (hle : target ≤ later) {total' : Duration}
    (h : elapsedLoop cal target guard current elapsed = .ok total)
    (h' : elapsedLoop cal later guard current elapsed = .ok total') : total ≤ total' := by
  by_cases hv : cal.Valid
  · have hmono := (cal.schedule hv).worked_mono hle
    rw [elapsedLoop_eq hv] at h h'
    rw [← Except.ok.inj h, ← Except.ok.inj h']
    dsimp only [Duration]
    omega
  · rw [← elapsedLoop_of_not_valid hv h, ← elapsedLoop_of_not_valid hv h']

/-- Up to a later instant `BusinessHoursElapsed` counts no less, even where its loop gives up. -/
theorem businessHoursElapsed_mono {elapsed' : Duration} (hle : finish ≤ later)
    (h : businessHoursElapsed calendars start finish calendarId = .ok elapsed)
    (h' : businessHoursElapsed calendars start later calendarId = .ok elapsed') :
    elapsed ≤ elapsed' := by
  have hstart := le_of_businessHoursElapsed h
  have hnonneg : 0 ≤ elapsed' := by
    unfold businessHoursElapsed at h'
    rw [if_neg (not_lt.mpr (hstart.trans hle))] at h'
    split at h'
    · exact (Except.ok.inj h').le
    · obtain ⟨_, -, h'⟩ := bind_ok (mapError_eq_ok.mp h')
      obtain ⟨total, -, h'⟩ := bind_ok h'
      obtain ⟨_, hcheck, h'⟩ := bind_ok h'
      rw [← Except.ok.inj h']
      exact decide_eq_true_eq.mp (ensure_eq_ok.mp hcheck)
  unfold businessHoursElapsed at h h'
  rw [if_neg (not_lt.mpr hstart)] at h
  rw [if_neg (not_lt.mpr (hstart.trans hle))] at h'
  by_cases heq : finish = start
  · rw [if_pos heq] at h
    rw [← Except.ok.inj h]
    exact hnonneg
  rw [if_neg heq] at h
  have hne : ¬ later = start := fun hcon => heq (le_antisymm (hle.trans_eq hcon) hstart)
  rw [if_neg hne] at h'
  obtain ⟨cal, hload, h⟩ := bind_ok (mapError_eq_ok.mp h)
  obtain ⟨cal', hload', h'⟩ := bind_ok (mapError_eq_ok.mp h')
  obtain rfl : cal = cal' := Except.ok.inj (hload.symm.trans hload')
  obtain ⟨total, hloop, h⟩ := bind_ok h
  obtain ⟨total', hloop', h'⟩ := bind_ok h'
  obtain ⟨_, -, h⟩ := bind_ok h
  obtain ⟨_, -, h'⟩ := bind_ok h'
  rw [← Except.ok.inj h, ← Except.ok.inj h']
  exact elapsedLoop_mono hle hloop hloop'

/-- **Round trip.** Adding a working time and measuring it again gives the same, and ends inside
    the window of a business day, or at its closing. -/
theorem businessHours_roundTrip (hcal : calendars calendarId = some cal) {start e : Instant}
    {duration : Duration} (hpos : 0 < duration)
    (h : addBusinessHours calendars start duration calendarId = .ok e)
    (hspan : cal.dateOf e - cal.dateOf start < 50000) :
    businessHoursElapsed calendars start e calendarId = .ok duration ∧
      isBusinessDay cal e = true ∧
      ∃ dayStart dayEnd, workingWindow cal e = .ok (dayStart, dayEnd) ∧ dayStart < e ∧
        e ≤ dayEnd := by
  have hv := valid_of_addBusinessHours hcal hpos h
  obtain ⟨hle, hworked, hatWork⟩ := addBusinessHours_spec hv hcal h
  obtain ⟨hday, hopen, hclose⟩ := hatWork hpos.ne'
  refine ⟨?_, hday, _, _, workingWindow_eq hv e, hopen, hclose⟩
  rw [businessHoursElapsed_eq hv hcal hle hspan, hworked, add_sub_cancel_left]

/-- Nine to five on weekdays in a zone one hour east of UTC, with a one-off holiday on a
    Tuesday: ten hours from Monday at noon end on Wednesday at two. -/
theorem businessHours_roundTrip_holiday :
    (let calendars : Id → Option BusinessCalendar := fun _ => some
      { utcOffset := 3600, startTime := 540, endTime := 1020, workingDays := 31
        holidays := [{ date := 5 }] }
    let noon := 4 * dayLength + 11 * hour
    addBusinessHours calendars noon (10 * hour) 0 = .ok (noon + 50 * hour) ∧
      businessHoursElapsed calendars noon (noon + 50 * hour) 0 = .ok (10 * hour)) := by
  refine ⟨rfl, ?_⟩
  exact (businessHours_roundTrip rfl (by decide) rfl (by decide)).1

/-- **Composition.** An extended due date is the due date of the longer duration, if that has
    one. -/
theorem addBusinessHours_add (hcal : calendars calendarId = some cal) {due : Instant}
    {extension : Duration} (hpos : 0 < extension)
    (h : addBusinessHours calendars start duration calendarId = .ok due)
    (hextended : addBusinessHours calendars due extension calendarId = .ok e)
    (hsum : (addBusinessHours calendars start (duration + extension) calendarId).isOk) :
    addBusinessHours calendars start (duration + extension) calendarId = .ok e := by
  cases hlonger : addBusinessHours calendars start (duration + extension) calendarId with
  | error message =>
    rw [hlonger] at hsum
    cases hsum
  | ok later =>
    have hv := valid_of_addBusinessHours hcal hpos hextended
    obtain ⟨hle, hdue, -⟩ := addBusinessHours_spec hv hcal h
    obtain ⟨-, hworked, hatWork⟩ := addBusinessHours_spec hv hcal hextended
    obtain ⟨-, hworked', hatWork'⟩ := addBusinessHours_spec hv hcal hlonger
    have hmono := (cal.schedule hv).worked_mono hle
    dsimp only [Duration] at *
    -- both instants are at work, after the same working time
    rcases lt_trichotomy later e with hlt | rfl | hlt
    · have := (cal.schedule hv).worked_lt (hatWork hpos.ne') hlt
      omega
    · rfl
    · have := (cal.schedule hv).worked_lt (hatWork' (by omega)) hlt
      omega

/-- Five hours from Friday at noon end at closing, three more on Monday at noon. -/
theorem addBusinessHours_add_weekend :
    (let calendars : Id → Option BusinessCalendar := fun _ => some
      { utcOffset := 0, startTime := 540, endTime := 1020, workingDays := 31, holidays := [] }
    let friday := dayLength + 12 * hour
    addBusinessHours calendars friday (5 * hour + 3 * hour) 0 = .ok (friday + 72 * hour)) :=
  addBusinessHours_add rfl (by decide) rfl rfl rfl

end Worked

end LoanWorkflow
