import ChainDash.Lib.LocalTime
import ChainDash.Lib.Lts
import Mathlib.Tactic.Ring

/-!
# The schedule of the daily summary

`run_daily_summary_loop` sleeps until the next local midnight, sends the summary of the
date that begins there and schedules the next one. In the second pass of an hour that is
repeated across midnight the first of the two midnights is taken, which is over if it is the
earlier one. Where the next date is still to come whenever a summary is scheduled, each date
gets at most one (`one_summary_per_date`).
-/

namespace ChainDash.Collect
set_option autoImplicit false

open LocalTime

/-! ## The next midnight -/

/-- The loop of `next_local_midnight_after`; `none` is the panic of the addition at the
end of the range. -/
def searchFrom (zone : Zone) (candidate : Int) : Option Int :=
  match zone.fromLocal candidate with
  | .single datetime => some datetime
  | .ambiguous first _ => some first
  | .none =>
    if candidate + minute ≤ maxLocal then searchFrom zone (candidate + minute) else none
termination_by (maxLocal - candidate).toNat
decreasing_by
  have positive : 0 < minute := by decide
  omega

def nextDate (zone : Zone) (now : Int) : Int :=
  let date := dateOf (zone.toLocal now)
  (succOpt date).getD date

def nextLocalMidnightAfter (zone : Zone) (now : Int) : Option Int :=
  searchFrom zone (midnight (nextDate zone now))

structure DailySummarySchedule where
  date : Int
  deadline : Int
  deriving DecidableEq

/-- `TimeDelta::to_std`, which fails on a negative duration. -/
def toStd (duration : Int) : Option Int := if 0 ≤ duration then some duration else none

def deadlineOffset (nextMidnight now : Int) : Int :=
  let offset := (toStd (nextMidnight - now)).getD oneSecond
  if offset = 0 then oneSecond else offset

def nextDailySummaryScheduleFrom (zone : Zone) (now nowInstant : Int) : Option DailySummarySchedule :=
  (nextLocalMidnightAfter zone now).map fun nextMidnight =>
    { date := dateOf (zone.toLocal nextMidnight)
      deadline := nowInstant + deadlineOffset nextMidnight now }

/-- The first whole minute from the midnight of a date on that the zone shows at all. -/
structure Begins (zone : Zone) (date localTime : Int) : Prop where
  minutes : ∃ k : Nat, localTime = midnight date + k * minute ∧
    ∀ j < k, ∀ t, zone.toLocal t ≠ midnight date + j * minute
  inRange : localTime ≤ maxLocal
  shown : ∃ t, zone.toLocal t = localTime

/-- The next date has a first minute, and no instant up to now has shown it, or not the last that
does where the later one is given first. -/
def ToCome (zone : Zone) (now : Int) : Prop :=
  ∃ localTime, Begins zone (nextDate zone now) localTime ∧
    if zone.laterFirst then ∃ t, zone.toLocal t = localTime ∧ now < t
    else ∀ t, zone.toLocal t = localTime → now < t

section Search

variable {zone : Zone} {candidate now t : Int}

theorem later_minute (candidate : Int) (k : Nat) :
    candidate + minute + k * minute = candidate + (k + 1 : Nat) * minute := by
  push_cast
  ring

/-- Where the zone shows the candidate, the search stops. -/
theorem found_iff {datetime : Int} (inRange : candidate ≤ maxLocal)
    (found : zone.GivenFirst candidate datetime) : some datetime = some t ↔
      ∃ k : Nat, candidate + k * minute ≤ maxLocal ∧
        (∀ j < k, ∀ u, zone.toLocal u ≠ candidate + j * minute) ∧
        zone.GivenFirst (candidate + k * minute) t := by
  have here : candidate + (0 : Nat) * minute = candidate := by simp
  constructor
  · rintro ⟨rfl⟩
    exact ⟨0, by rwa [here], by simp, by rwa [here]⟩
  · rintro ⟨k, -, skipped, first⟩
    cases k with
    | zero =>
      rw [here] at first
      rw [found.unique first]
    | succ k => exact absurd (found.shows_.trans here.symm) (skipped 0 (by omega) datetime)

/-- The search stops at the first whole minute that the zone shows, at the instant that is given
first. -/
theorem searchFrom_eq_some (inRange : candidate ≤ maxLocal) : searchFrom zone candidate = some t ↔
    ∃ k : Nat, candidate + k * minute ≤ maxLocal ∧
      (∀ j < k, ∀ u, zone.toLocal u ≠ candidate + j * minute) ∧
      zone.GivenFirst (candidate + k * minute) t := by
  induction candidate using searchFrom.induct zone with
  | case1 candidate datetime once =>
    rw [searchFrom, once]
    exact found_iff inRange (Zone.givenFirst_of_single once)
  | case2 candidate first latest twice =>
    rw [searchFrom, twice]
    exact found_iff inRange (Zone.givenFirst_of_ambiguous twice)
  | case3 candidate gap room ih =>
    rw [searchFrom, gap]
    simp only [if_pos room]
    rw [ih room]
    constructor
    · rintro ⟨k, le, skipped, first⟩
      rw [later_minute] at le first
      refine ⟨k + 1, le, ?_, first⟩
      intro j before u
      cases j with
      | zero => simpa using Zone.ne_of_none gap u
      | succ j =>
        rw [← later_minute]
        exact skipped j (by omega) u
    · rintro ⟨k, le, skipped, first⟩
      cases k with
      | zero =>
        refine absurd first.shows_ ?_
        simpa using Zone.ne_of_none gap t
      | succ k =>
        rw [← later_minute] at le first
        refine ⟨k, le, ?_, first⟩
        intro j before u
        rw [later_minute]
        exact skipped (j + 1) (by omega) u
  | case4 candidate gap full =>
    rw [searchFrom, gap]
    simp only [if_neg full]
    refine iff_of_false (by simp) ?_
    rintro ⟨k, le, -, first⟩
    cases k with
    | zero =>
      refine absurd first.shows_ ?_
      simpa using Zone.ne_of_none gap t
    | succ k =>
      rw [← later_minute] at le
      have positive : 0 ≤ (k : Int) * minute := mul_nonneg (by omega) (by decide)
      omega

theorem nextLocalMidnightAfter_eq_some (inRange : midnight (nextDate zone now) ≤ maxLocal) :
    nextLocalMidnightAfter zone now = some t ↔
      ∃ localTime, Begins zone (nextDate zone now) localTime ∧ zone.GivenFirst localTime t := by
  rw [nextLocalMidnightAfter, searchFrom_eq_some inRange]
  constructor
  · rintro ⟨k, inRange, skipped, first⟩
    exact ⟨_, ⟨⟨k, rfl, skipped⟩, inRange, t, first.shows_⟩, first⟩
  · rintro ⟨_, ⟨⟨k, rfl, skipped⟩, inRange, -⟩, first⟩
    exact ⟨k, inRange, skipped, first⟩

theorem Begins.midnight_le {date localTime : Int} (begins : Begins zone date localTime) :
    midnight date ≤ localTime := by
  obtain ⟨k, rfl, -⟩ := begins.minutes
  have positive : 0 ≤ (k : Int) * minute := mul_nonneg (by omega) (by decide)
  omega

/-- An instant after now is found exactly when the next date is still to come. -/
theorem nextLocalMidnightAfter_after_iff (inRange : zone.toLocal now ≤ maxLocal) :
    (∃ t, nextLocalMidnightAfter zone now = some t ∧ now < t) ↔ ToCome zone now := by
  have le : midnight (nextDate zone now) ≤ maxLocal := by
    apply midnight_le_maxLocal
    have last : dateOf maxLocal = maxDate := by decide
    have := dateOf_mono inRange
    unfold nextDate succOpt
    simp only
    split <;> simp only [Option.getD_some, Option.getD_none] <;> omega
  simp only [nextLocalMidnightAfter_eq_some le]
  constructor
  · rintro ⟨t, ⟨localTime, begins, first⟩, after⟩
    exact ⟨localTime, begins, (first.after_iff now).mp after⟩
  · rintro ⟨localTime, begins, after⟩
    obtain ⟨t, first⟩ := Zone.exists_givenFirst begins.shown
    exact ⟨t, ⟨localTime, begins, first⟩, (first.after_iff now).mpr after⟩

/-- The schedule for a date that is still to come. -/
theorem schedule_of_toCome (nowInstant : Int) (toCome : ToCome zone now) :
    ∃ t schedule, nextLocalMidnightAfter zone now = some t ∧ now < t ∧
      nextDailySummaryScheduleFrom zone now nowInstant = some schedule ∧
      nextDate zone now ≤ schedule.date ∧ schedule.date = dateOf (zone.toLocal t) ∧
      schedule.deadline = nowInstant + (t - now) := by
  obtain ⟨localTime, begins, after⟩ := toCome
  obtain ⟨t, first⟩ := Zone.exists_givenFirst begins.shown
  have found := (nextLocalMidnightAfter_eq_some (begins.midnight_le.trans begins.inRange)).mpr
    ⟨localTime, begins, first⟩
  have later := (first.after_iff now).mpr after
  have date : nextDate zone now ≤ dateOf (zone.toLocal t) := by
    rw [first.shows_, le_dateOf_iff]
    exact begins.midnight_le
  have offset : deadlineOffset t now = t - now := by
    have positive : toStd (t - now) = some (t - now) := if_pos (by omega)
    rw [deadlineOffset, positive, Option.getD_some]
    exact if_neg (by omega)
  refine ⟨t, _, found, later, by rw [nextDailySummaryScheduleFrom, found]; rfl, date, rfl, ?_⟩
  show nowInstant + deadlineOffset t now = nowInstant + (t - now)
  rw [offset]

theorem toCome_of_givenFirst (inRange : midnight (nextDate zone now) ≤ maxLocal)
    (first : zone.GivenFirst (midnight (nextDate zone now)) t) (later : now < t) : ToCome zone now :=
  ⟨_, ⟨⟨0, by simp, by simp⟩, inRange, t, first.shows_⟩, (first.after_iff now).mp later⟩

end Search

/-! ## The loop -/

inductive SchedulePhase where
  /-- At the start, or while a summary is sent. -/
  | busy
  | waiting (schedule : DailySummarySchedule)
  | stopped
  | panicked

/-- `run_daily_summary_loop` with what it has done so far: the dates of the summaries, and
the calls of `next_local_midnight_after` with their results. The wall clock and the timer
advance together, so one number is both. -/
structure ScheduleLoop where
  now : Int
  phase : SchedulePhase := .busy
  summaries : List Int := []
  calls : List (Int × Option Int) := []

inductive ScheduleEvent where
  /-- The next schedule is computed, with the two clocks read one after the other. -/
  | schedule (now nowInstant : Int)
  /-- The stop flag is not set, and the poll interval ends first. -/
  | poll (now : Int)
  /-- The deadline is over, and the summary is sent. -/
  | send (now : Int)
  | stop

namespace ScheduleLoop

def step (zone : Zone) (loop : ScheduleLoop) (event : ScheduleEvent) : Option ScheduleLoop :=
  match loop.phase, event with
  | .busy, .schedule now nowInstant =>
    if loop.now ≤ now ∧ now ≤ nowInstant then
      let phase := match nextDailySummaryScheduleFrom zone now nowInstant with
        | some schedule => .waiting schedule
        | none => .panicked
      some { loop with now := nowInstant, phase, calls := loop.calls ++ [(now, nextLocalMidnightAfter zone now)] }
    else none
  | .waiting _, .poll now => if loop.now ≤ now then some { loop with now } else none
  | .waiting schedule, .send now =>
    if loop.now ≤ now ∧ schedule.deadline ≤ now then
      some { loop with now, phase := .busy, summaries := loop.summaries ++ [schedule.date] }
    else none
  | .waiting _, .stop => some { loop with phase := .stopped }
  | _, _ => none

def run (zone : Zone) (start : Int) (events : List ScheduleEvent) : Option ScheduleLoop :=
  Lts.run (step zone) { now := start } events

/-- Whenever a summary is scheduled, the next date is still to come, and has no summary
yet. -/
def Timely (zone : Zone) (loop : ScheduleLoop) : ScheduleEvent → Prop
  | .schedule now _ => ToCome zone now ∧ ∀ date ∈ loop.summaries.getLast?, date < nextDate zone now
  | _ => True

/-- Every instant found is after the one it is asked for, and no date has two summaries. -/
structure OnePerDate (loop : ScheduleLoop) : Prop where
  after : ∀ call ∈ loop.calls, ∃ t, call.2 = some t ∧ call.1 < t
  increasing : loop.summaries.Pairwise (· < ·)

variable {zone : Zone} {loop next : ScheduleLoop} {event : ScheduleEvent}

/-- What a timely step can do. -/
theorem step_cases (stepped : step zone loop event = some next) (timely : Timely zone loop event) :
    (∃ now nowInstant t schedule, loop.phase = .busy ∧ event = .schedule now nowInstant ∧
      loop.now ≤ now ∧ now ≤ nowInstant ∧ now < t ∧ nextDate zone now ≤ schedule.date ∧
      schedule.date = dateOf (zone.toLocal t) ∧ schedule.deadline = nowInstant + (t - now) ∧
      next = { loop with
        now := nowInstant, phase := .waiting schedule, calls := loop.calls ++ [(now, some t)] }) ∨
    (∃ schedule now, loop.phase = .waiting schedule ∧ loop.now ≤ now ∧ next = { loop with now }) ∨
    (∃ schedule now, loop.phase = .waiting schedule ∧ loop.now ≤ now ∧ schedule.deadline ≤ now ∧
      next = { loop with now, phase := .busy, summaries := loop.summaries ++ [schedule.date] }) ∨
    ∃ schedule, loop.phase = .waiting schedule ∧ next = { loop with phase := .stopped } := by
  unfold step at stepped
  split at stepped
  case h_1 now nowInstant busy =>
    split at stepped
    case isFalse => cases stepped
    case isTrue clocks =>
      obtain ⟨t, schedule, found, later, scheduled, date, shown, deadline⟩ :=
        schedule_of_toCome nowInstant timely.1
      rw [found, scheduled] at stepped
      exact .inl ⟨now, nowInstant, t, schedule, busy, rfl, clocks.1, clocks.2, later, date, shown,
        deadline, (Option.some.inj stepped).symm⟩
  case h_2 schedule now waiting =>
    split at stepped
    case isFalse => cases stepped
    case isTrue later =>
      exact .inr (.inl ⟨schedule, now, waiting, later, (Option.some.inj stepped).symm⟩)
  case h_3 schedule now waiting =>
    split at stepped
    case isFalse => cases stepped
    case isTrue due =>
      exact .inr (.inr (.inl ⟨schedule, now, waiting, due.1, due.2, (Option.some.inj stepped).symm⟩))
  case h_4 schedule waiting =>
    exact .inr (.inr (.inr ⟨schedule, waiting, (Option.some.inj stepped).symm⟩))
  case h_5 => cases stepped

/-- The dates ascend up to the one that is scheduled, and each summary comes after an
instant of its date. -/
structure Ascending (zone : Zone) (loop : ScheduleLoop) : Prop extends OnePerDate loop where
  pending : ∀ schedule, loop.phase = .waiting schedule → ∀ date ∈ loop.summaries, date < schedule.date
  begun : ∀ date ∈ loop.summaries, ∃ t ≤ loop.now, dateOf (zone.toLocal t) = date
  begins : ∀ schedule, loop.phase = .waiting schedule →
    ∃ t ≤ schedule.deadline, dateOf (zone.toLocal t) = schedule.date

/-- The last date bounds all. -/
theorem lt_of_getLast? {dates : List Int} (increasing : dates.Pairwise (· < ·)) {bound : Int}
    (last : ∀ date ∈ dates.getLast?, date < bound) : ∀ date ∈ dates, date < bound := by
  obtain rfl | ⟨before, final, rfl⟩ := dates.eq_nil_or_concat
  · simp
  · rw [List.concat_eq_append] at increasing last ⊢
    have final_lt := last final (by simp)
    intro date mem
    rcases List.mem_append.mp mem with mem | mem
    · exact ((List.pairwise_append.mp increasing).2.2 date mem final (by simp)).trans final_lt
    · rw [List.mem_singleton.mp mem]
      exact final_lt

theorem ascending_step (ascending : Ascending zone loop) (timely : Timely zone loop event)
    (stepped : step zone loop event = some next) : Ascending zone next := by
  rcases step_cases stepped timely with
    ⟨now, nowInstant, t, schedule, -, rfl, before, between, later, date, shown, deadline, rfl⟩ |
    ⟨schedule, now, waiting, before, rfl⟩ | ⟨schedule, now, waiting, before, due, rfl⟩ |
    ⟨schedule, waiting, rfl⟩
  · have earlier := lt_of_getLast? ascending.increasing timely.2
    constructor
    · constructor
      · intro call mem
        rcases List.mem_append.mp mem with mem | mem
        · exact ascending.after call mem
        · rw [List.mem_singleton.mp mem]
          exact ⟨t, rfl, later⟩
      · exact ascending.increasing
    · rintro _ ⟨⟩ other mem
      exact (earlier other mem).trans_le date
    · intro other mem
      obtain ⟨u, past, same⟩ := ascending.begun other mem
      refine ⟨u, ?_, same⟩
      show u ≤ nowInstant
      omega
    · rintro _ ⟨⟩
      refine ⟨t, ?_, shown.symm⟩
      omega
  · constructor
    · exact ⟨ascending.after, ascending.increasing⟩
    · exact ascending.pending
    · intro date mem
      obtain ⟨t, past, same⟩ := ascending.begun date mem
      exact ⟨t, past.trans before, same⟩
    · exact ascending.begins
  · constructor
    · refine ⟨ascending.after, List.pairwise_append.mpr ⟨ascending.increasing, by simp, ?_⟩⟩
      intro date mem other last
      rw [List.mem_singleton.mp last]
      exact ascending.pending schedule waiting date mem
    · rintro _ ⟨⟩
    · intro date mem
      rcases List.mem_append.mp mem with mem | mem
      · obtain ⟨t, past, same⟩ := ascending.begun date mem
        exact ⟨t, past.trans before, same⟩
      · rw [List.mem_singleton.mp mem]
        obtain ⟨t, past, same⟩ := ascending.begins schedule waiting
        exact ⟨t, past.trans due, same⟩
    · rintro _ ⟨⟩
  · constructor
    · exact ⟨ascending.after, ascending.increasing⟩
    · rintro _ ⟨⟩
    · exact ascending.begun
    · rintro _ ⟨⟩

theorem ascending_start (start : Int) : Ascending zone { now := start } where
  after _ mem := nomatch mem
  increasing := .nil
  pending _ waiting := nomatch waiting
  begun _ mem := nomatch mem
  begins _ waiting := nomatch waiting

/-- No instant up to now has shown a later date than now, and the next date begins. -/
structure Forward (zone : Zone) (now : Int) : Prop where
  latest : ∀ t ≤ now, dateOf (zone.toLocal t) ≤ dateOf (zone.toLocal now)
  inRange : dateOf (zone.toLocal now) < maxDate
  begins : ∃ localTime, Begins zone (nextDate zone now) localTime

theorem now_le_of_schedule {now nowInstant : Int}
    (stepped : step zone loop (.schedule now nowInstant) = some next) : loop.now ≤ now := by
  by_contra later
  cases phase : loop.phase with
  | busy =>
    simp only [step, phase, if_neg fun clocks : loop.now ≤ now ∧ now ≤ nowInstant => later clocks.1]
      at stepped
    cases stepped
  | waiting schedule | stopped | panicked => simp [step, phase] at stepped

theorem timely_of_forward (ascending : Ascending zone loop)
    (forward : ∀ now nowInstant, event = .schedule now nowInstant → Forward zone now)
    (stepped : step zone loop event = some next) : Timely zone loop event := by
  cases event with
  | poll | send | stop => trivial
  | schedule now nowInstant =>
    have forward := forward now nowInstant rfl
    have next : nextDate zone now = dateOf (zone.toLocal now) + 1 := by
      unfold nextDate succOpt
      simp only [if_pos forward.inRange, Option.getD_some]
    have past := now_le_of_schedule stepped
    refine ⟨?_, ?_⟩
    · obtain ⟨localTime, begins⟩ := forward.begins
      have later (t : Int) (shows_ : zone.toLocal t = localTime) : now < t := by
        by_contra early
        have old := forward.latest t (by omega)
        have := (le_dateOf_iff.mpr begins.midnight_le).trans (le_of_eq (congrArg dateOf shows_.symm))
        omega
      refine ⟨localTime, begins, ?_⟩
      split
      · obtain ⟨t, shows_⟩ := begins.shown
        exact ⟨t, shows_, later t shows_⟩
      · exact later
    · intro date mem
      obtain ⟨t, before, same⟩ := ascending.begun date (List.mem_of_getLast? mem)
      have := forward.latest t (by omega)
      omega

/-- Outside the second pass of an hour that is repeated across midnight nothing is sent
twice. -/
theorem onePerDate_of_forward (start : Int) {events : List ScheduleEvent}
    (ran : run zone start events = some loop)
    (forward : ∀ now nowInstant, .schedule now nowInstant ∈ events → Forward zone now) :
    OnePerDate loop := by
  refine (Lts.run_invariant (I := fun events loop =>
    (∀ now nowInstant, .schedule now nowInstant ∈ events → Forward zone now) → Ascending zone loop)
    (fun _ => ascending_start start) ?_ ran forward).toOnePerDate
  intro events before event after ascending stepped forward
  have ascending := ascending fun now nowInstant mem => forward now nowInstant (by simp [mem])
  refine ascending_step ascending (timely_of_forward ascending ?_ stepped) stepped
  rintro now nowInstant rfl
  exact forward now nowInstant (by simp)

/-- Newfoundland in 2006: clocks are set back at one minute past midnight, on the 29th of
October, day 13450. -/
def stJohns (laterFirst : Bool) : Zone :=
  .setBack (midnight 13450 + 9060 * oneSecond) (-9000) (-12600) (by decide) laterFirst

/-- The program starts at noon. -/
def noon : Int := midnight 13449 + 43200 * oneSecond

/-- Half past two or half past three UTC: the midnight of the 29th that is given first. -/
def givenMidnight (laterFirst : Bool) : Int :=
  midnight 13450 + (if laterFirst then 12600 else 9000) * oneSecond

/-- The midnight of the 30th. -/
def nextMidnight : Int := midnight 13451 + 12600 * oneSecond

theorem next_noon (laterFirst : Bool) :
    nextLocalMidnightAfter (stJohns laterFirst) noon = some (givenMidnight laterFirst) := by
  rw [nextLocalMidnightAfter, searchFrom]
  cases laterFirst <;> decide

theorem next_after {laterFirst : Bool} {now : Int} (date : nextDate (stJohns laterFirst) now = 13451) :
    nextLocalMidnightAfter (stJohns laterFirst) now = some nextMidnight := by
  rw [nextLocalMidnightAfter, date, searchFrom]
  cases laterFirst <;> decide

theorem next_again {laterFirst : Bool} {now : Int} (date : nextDate (stJohns laterFirst) now = 13450) :
    nextLocalMidnightAfter (stJohns laterFirst) now = some (givenMidnight laterFirst) := by
  rw [nextLocalMidnightAfter, date, searchFrom]
  cases laterFirst <;> decide

/-- The summary of the 29th is sent at the midnight found, and the next one is scheduled
after the send. -/
def acrossMidnight (laterFirst : Bool) (delay : Int) : List ScheduleEvent :=
  [.schedule noon noon, .send (givenMidnight laterFirst),
    .schedule (givenMidnight laterFirst + delay) (givenMidnight laterFirst + delay)]

def untilMidnight (laterFirst : Bool) : ScheduleLoop where
  now := noon
  phase := .waiting ⟨13450, givenMidnight laterFirst⟩
  calls := [(noon, some (givenMidnight laterFirst))]

def atMidnight (laterFirst : Bool) : ScheduleLoop where
  now := givenMidnight laterFirst
  summaries := [13450]
  calls := [(noon, some (givenMidnight laterFirst))]

section StJohns

variable {laterFirst : Bool} {delay next : Int}

theorem step_noon (laterFirst : Bool) :
    step (stJohns laterFirst) { now := noon } (.schedule noon noon) = some (untilMidnight laterFirst) := by
  have schedule : nextDailySummaryScheduleFrom (stJohns laterFirst) noon noon =
      some ⟨13450, givenMidnight laterFirst⟩ := by
    rw [nextDailySummaryScheduleFrom, next_noon]
    cases laterFirst <;> decide
  simp only [step, le_refl, and_self, if_true, schedule, next_noon]
  rfl

theorem step_midnight (laterFirst : Bool) :
    step (stJohns laterFirst) (untilMidnight laterFirst) (.send (givenMidnight laterFirst)) =
      some (atMidnight laterFirst) := by
  cases laterFirst <;> rfl

/-- The next schedule, made some time after the midnight found. -/
def rescheduled (laterFirst : Bool) (delay next : Int) : ScheduleLoop where
  now := givenMidnight laterFirst + delay
  phase := .waiting
    { date := dateOf ((stJohns laterFirst).toLocal next)
      deadline := givenMidnight laterFirst + delay +
        deadlineOffset next (givenMidnight laterFirst + delay) }
  summaries := [13450]
  calls := [(noon, some (givenMidnight laterFirst)), (givenMidnight laterFirst + delay, some next)]

theorem step_again (positive : 0 ≤ delay)
    (found : nextLocalMidnightAfter (stJohns laterFirst) (givenMidnight laterFirst + delay) = some next) :
    step (stJohns laterFirst) (atMidnight laterFirst)
        (.schedule (givenMidnight laterFirst + delay) (givenMidnight laterFirst + delay)) =
      some (rescheduled laterFirst delay next) := by
  have later : givenMidnight laterFirst ≤ givenMidnight laterFirst + delay := by omega
  simp only [step, atMidnight, later, le_refl, and_self, if_true, nextDailySummaryScheduleFrom, found,
    Option.map_some, List.cons_append, List.nil_append]
  rfl

theorem run_acrossMidnight (positive : 0 ≤ delay)
    (found : nextLocalMidnightAfter (stJohns laterFirst) (givenMidnight laterFirst + delay) = some next) :
    run (stJohns laterFirst) noon (acrossMidnight laterFirst delay) =
      some (rescheduled laterFirst delay next) := by
  simp only [run, acrossMidnight, Lts.run_cons, Lts.run_nil, step_noon, step_midnight,
    step_again positive found, Option.bind_some]

/-- The local date after the send is the 29th. -/
structure SentInTime (laterFirst : Bool) (delay : Int) : Prop where
  positive : 0 ≤ delay
  before : givenMidnight laterFirst + delay < nextMidnight
  date : nextDate (stJohns laterFirst) (givenMidnight laterFirst + delay) = 13451

theorem SentInTime.timely (sent : SentInTime laterFirst delay) :
    ∀ visit ∈ Lts.visited (step (stJohns laterFirst)) { now := noon } (acrossMidnight laterFirst delay),
      Timely (stJohns laterFirst) visit.1 visit.2 := by
  have found := next_after sent.date
  have first : ToCome (stJohns laterFirst) noon := by
    refine (nextLocalMidnightAfter_after_iff ?_).mp ⟨_, next_noon laterFirst, ?_⟩ <;>
      cases laterFirst <;> decide
  have following : ToCome (stJohns laterFirst) (givenMidnight laterFirst + delay) := by
    refine @toCome_of_givenFirst _ _ nextMidnight ?_ ?_ sent.before
    · rw [sent.date]
      decide
    · rw [sent.date]
      refine Zone.givenFirst_of_single ?_
      cases laterFirst <;> decide
  have visited : Lts.visited (step (stJohns laterFirst)) { now := noon } (acrossMidnight laterFirst delay) =
      [({ now := noon }, .schedule noon noon),
        (untilMidnight laterFirst, .send (givenMidnight laterFirst)),
        (atMidnight laterFirst,
          .schedule (givenMidnight laterFirst + delay) (givenMidnight laterFirst + delay))] := by
    simp only [acrossMidnight, Lts.visited, step_noon, step_midnight, step_again sent.positive found,
      Option.map_some, Option.getD_some]
  rw [visited]
  intro visit mem
  simp only [List.mem_cons, List.not_mem_nil, or_false] at mem
  rcases mem with rfl | rfl | rfl
  · exact ⟨first, by simp⟩
  · trivial
  · refine ⟨following, fun date last => ?_⟩
    obtain rfl : 13450 = date := by simpa [atMidnight] using last
    show 13450 < nextDate (stJohns laterFirst) (givenMidnight laterFirst + delay)
    rw [sent.date]
    decide

end StJohns

end ScheduleLoop

end ChainDash.Collect
