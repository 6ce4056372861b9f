import Wireforge.Task.Scheduler

/-!
# Access windows

A window that wraps around midnight belongs to the day on which it opens. The scheduler tests the
weekday of the present day instead: `in_window_exact_iff` shows at which instants that makes a
difference.
-/

namespace Wireforge

variable {crates : Crates} {schedule : Schedule} {now : DateTime} {start stop : NaiveTime}

/-- Whole minutes since the epoch. -/
def DateTime.minutes (t : DateTime) : Int :=
  t.nanos.fdiv (60 * 10 ^ 9)

/-- The ISO weekday of the calendar day with a number, counted from the epoch. -/
def isoWeekday (day : Int) : UInt8 :=
  UInt8.ofNat ((day + 3).emod 7 + 1).toNat

/-- The minute of a time of day on a calendar day, counted from the epoch. -/
def minuteOn (day : Int) (time : NaiveTime) : Int :=
  day * 1440 + time.val

/-- Some listed day opens the window at its first time, and the instant comes before the second
time: of that day, or of the day after if the window wraps around midnight. -/
def Schedule.OpenAt (schedule : Schedule) (start stop : NaiveTime) (now : DateTime) : Prop :=
  ∃ day, isoWeekday day ∈ schedule.weekdays ∧ minuteOn day start ≤ now.minutes ∧
    now.minutes ≤ minuteOn (if start ≤ stop then day else day + 1) stop

theorem minute_of_day_eq (now : DateTime) : (now.minuteOfDay.val : Int) = now.minutes % 1440 := by
  have hlow := Int.emod_nonneg now.minutes (show (1440 : Int) ≠ 0 by decide)
  have hhigh := Int.emod_lt_of_pos now.minutes (show (0 : Int) < 1440 by decide)
  show (((now.minutes % 1440).toNat % 1440 : Nat) : Int) = _
  omega

theorem days_eq (now : DateTime) : now.days = now.minutes / 1440 := by
  simp only [DateTime.days, DateTime.minutes,
    Int.fdiv_eq_ediv_of_nonneg _ (show (0 : Int) ≤ 60 * 10 ^ 9 by decide),
    Int.fdiv_eq_ediv_of_nonneg _ (show (0 : Int) ≤ 86400 * 10 ^ 9 by decide)]
  omega

/-- An instant lies on its day, at its time of day. -/
theorem minutes_eq (now : DateTime) : now.minutes = minuteOn now.days now.minuteOfDay := by
  rw [minuteOn, minute_of_day_eq, days_eq]
  omega

/-- The days that can have opened a window are the present one and, if the window wraps around
midnight, the one before. -/
theorem open_at_iff : schedule.OpenAt start stop now ↔
    isoWeekday now.days ∈ schedule.weekdays ∧ start ≤ now.minuteOfDay ∧
      (stop < start ∨ now.minuteOfDay ≤ stop) ∨
    isoWeekday (now.days - 1) ∈ schedule.weekdays ∧ stop < start ∧ now.minuteOfDay ≤ stop := by
  have hbound := now.minuteOfDay.isLt
  have hstart := start.isLt
  have hstop := stop.isLt
  unfold Schedule.OpenAt
  rw [minutes_eq]
  simp only [minuteOn, Fin.le_def, Fin.lt_def]
  generalize now.minuteOfDay.val = minute at hbound
  constructor
  · rintro ⟨day, hday, hopen, hclose⟩
    split at hclose
    · obtain rfl : day = now.days := by omega
      exact .inl ⟨hday, by omega, by omega⟩
    · rcases (by omega : day = now.days ∨ day = now.days - 1) with rfl | rfl
      · exact .inl ⟨hday, by omega, by omega⟩
      · exact .inr ⟨hday, by omega, by omega⟩
  · rintro (⟨hday, hopen, hclose⟩ | ⟨hday, hwrap, hclose⟩)
    · refine ⟨now.days, hday, by omega, ?_⟩
      split <;> omega
    · refine ⟨now.days - 1, hday, by omega, ?_⟩
      rw [if_neg (by omega)]
      omega

theorem in_window_iff (hstart : crates.parseTime schedule.fromTime = some start)
    (hstop : crates.parseTime schedule.toTime = some stop) :
    isInWindow crates schedule now = true ↔ isoWeekday now.days ∈ schedule.weekdays ∧
      (start ≤ now.minuteOfDay ∧ now.minuteOfDay ≤ stop ∨
        stop < start ∧ (start ≤ now.minuteOfDay ∨ now.minuteOfDay ≤ stop)) := by
  unfold isInWindow
  rw [hstart, hstop]
  by_cases hlisted : now.weekday ∈ schedule.weekdays
  · have hday : isoWeekday now.days ∈ schedule.weekdays := hlisted
    rw [if_neg (not_not_intro hlisted)]
    simp only [hday, true_and]
    split
    · simp only [Bool.and_eq_true, decide_eq_true_eq, Fin.le_def, Fin.lt_def] at *
      omega
    · simp only [Bool.or_eq_true, decide_eq_true_eq, Fin.le_def, Fin.lt_def] at *
      omega
  · rw [if_pos hlisted]
    exact iff_of_false Bool.false_ne_true fun h => hlisted h.1

/-- The scheduler's test is right about a window with readable times exactly if the window does not
wrap around midnight, or the time of day is past its end, or the present day and the day before
are both listed or both not. -/
theorem in_window_exact_iff (crates : Crates) (schedule : Schedule) (now : DateTime)
    (start stop : NaiveTime) (hstart : crates.parseTime schedule.fromTime = some start)
    (hstop : crates.parseTime schedule.toTime = some stop) :
    (isInWindow crates schedule now = true ↔ schedule.OpenAt start stop now) ↔
      (start ≤ stop ∨ stop < now.minuteOfDay ∨
        (isoWeekday now.days ∈ schedule.weekdays ↔
          isoWeekday (now.days - 1) ∈ schedule.weekdays)) := by
  rw [in_window_iff hstart hstop, open_at_iff]
  simp only [Fin.le_def, Fin.lt_def]
  -- the two tests differ on the minutes up to the end of a window that the day before has opened
  by_cases htoday : isoWeekday now.days ∈ schedule.weekdays <;>
    by_cases hyesterday : isoWeekday (now.days - 1) ∈ schedule.weekdays <;>
      simp only [htoday, hyesterday, true_and, false_and, or_false, false_or, iff_true, iff_false,
        iff_self, or_true, false_iff, not_true_eq_false] <;>
      omega

/-- The times of day of the window in the next example. -/
def nightTimes (evening morning : NaiveTime) (text : String) : Option NaiveTime :=
  if text = "22:00" then some evening else if text = "06:00" then some morning else none

/-- On Saturday at three in the morning, a window from Friday 22:00 to 06:00 is taken to be
closed. -/
theorem night_window_cut : ¬ ∀ (crates : Crates) (schedule : Schedule) (now : DateTime)
    (start stop : NaiveTime), crates.parseTime schedule.fromTime = some start →
      crates.parseTime schedule.toTime = some stop →
        (isInWindow crates schedule now = true ↔ schedule.OpenAt start stop now) := by
  intro h
  -- the second day after the epoch is a Saturday
  have hnight := h { Crates.transparent with parseTime := nightTimes 1320 360 }
    ⟨[5], "22:00", "06:00"⟩ ⟨(2 * 1440 + 180) * 60 * 10 ^ 9⟩ 1320 360 rfl rfl
  have hclosed : isInWindow { Crates.transparent with parseTime := nightTimes 1320 360 }
      ⟨[5], "22:00", "06:00"⟩ ⟨(2 * 1440 + 180) * 60 * 10 ^ 9⟩ = false := by decide
  have hopen : Schedule.OpenAt ⟨[5], "22:00", "06:00"⟩ 1320 360
      ⟨(2 * 1440 + 180) * 60 * 10 ^ 9⟩ := ⟨1, by decide, by decide, by decide⟩
  rw [hnight.mpr hopen] at hclosed
  cases hclosed

theorem in_window_exact_night :
    (isInWindow { Crates.transparent with parseTime := nightTimes 1320 360 }
        ⟨[5], "22:00", "06:00"⟩ ⟨(2 * 1440 + 180) * 60 * 10 ^ 9⟩ = true ↔
      Schedule.OpenAt ⟨[5], "22:00", "06:00"⟩ 1320 360 ⟨(2 * 1440 + 180) * 60 * 10 ^ 9⟩) ↔
    ((1320 : NaiveTime) ≤ 360 ∨
      (360 : NaiveTime) < DateTime.minuteOfDay ⟨(2 * 1440 + 180) * 60 * 10 ^ 9⟩ ∨
      (isoWeekday (DateTime.days ⟨(2 * 1440 + 180) * 60 * 10 ^ 9⟩) ∈ ([5] : List UInt8) ↔
        isoWeekday (DateTime.days ⟨(2 * 1440 + 180) * 60 * 10 ^ 9⟩ - 1) ∈ ([5] : List UInt8))) :=
  in_window_exact_iff { Crates.transparent with parseTime := nightTimes 1320 360 }
    ⟨[5], "22:00", "06:00"⟩ ⟨(2 * 1440 + 180) * 60 * 10 ^ 9⟩ 1320 360 rfl rfl

end Wireforge
