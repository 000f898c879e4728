import Mathlib.Algebra.Order.Ring.Int
import Mathlib.Tactic.Linarith

/-!
# Local time

Instants and local times are nanoseconds, dates are days, both counted from 1970 on; the
range is that of the `chrono` crate. A zone shows a local time at every instant. It may
skip local times and show others more than once, and `fromLocal` tells which.
-/

namespace LocalTime
set_option autoImplicit false

def oneSecond : Int := 10 ^ 9
def minute : Int := 60 * oneSecond
def day : Int := 86400 * oneSecond

/-- The date of a local time. -/
def dateOf (localTime : Int) : Int := localTime / day

/-- The local time at which a date begins. -/
def midnight (date : Int) : Int := date * day

/-- `NaiveDate::MAX`, the last day of the year 262142. -/
def maxDate : Int := 95026236

/-- `NaiveDateTime::MAX`. -/
def maxLocal : Int := midnight (maxDate + 1) - 1

/-- `NaiveDate::succ_opt`. -/
def succOpt (date : Int) : Option Int := if date < maxDate then some (date + 1) else none

theorem le_dateOf_iff {date localTime : Int} : date ≤ dateOf localTime ↔ midnight date ≤ localTime := by
  unfold midnight dateOf day oneSecond
  omega

theorem dateOf_mono {a b : Int} (le : a ≤ b) : dateOf a ≤ dateOf b := by
  unfold dateOf day oneSecond
  omega

theorem midnight_le_maxLocal {date : Int} (le : date ≤ maxDate) : midnight date ≤ maxLocal := by
  unfold maxLocal midnight day oneSecond
  omega

/-- `chrono::LocalResult`. -/
inductive LocalResult where
  | none
  | single (datetime : Int)
  | ambiguous (first second : Int)
  deriving DecidableEq

/-- The earliest and the latest of the instants that show an ambiguous local time. -/
structure Between (shows_ : Int → Prop) (earliest latest : Int) : Prop where
  apart : earliest < latest
  showsEarliest : shows_ earliest
  showsLatest : shows_ latest
  within : ∀ t, shows_ t → earliest ≤ t ∧ t ≤ latest

/-- The contract of `from_local_datetime`, for the instants that show the local time. The earliest
one is documented to come first; a backend may have the later one first. -/
def LocalResult.Describes (laterFirst : Bool) (shows_ : Int → Prop) : LocalResult → Prop
  | .none => ∀ t, ¬ shows_ t
  | .single datetime => ∀ t, shows_ t ↔ t = datetime
  | .ambiguous first second =>
    if laterFirst then Between shows_ second first else Between shows_ first second

/-- Any assignment of offsets, in seconds, to instants, and the order in which the instants of
an ambiguous local time are given. -/
structure Zone where
  offset : Int → Int
  laterFirst : Bool
  fromLocal : Int → LocalResult
  contract : ∀ localTime,
    (fromLocal localTime).Describes laterFirst fun t => t + offset t * oneSecond = localTime

namespace Zone

variable {zone : Zone} {localTime t : Int}

def toLocal (zone : Zone) (t : Int) : Int := t + zone.offset t * oneSecond

/-- The instant that is given first of those that show a local time. -/
structure GivenFirst (zone : Zone) (localTime t : Int) : Prop where
  shows_ : zone.toLocal t = localTime
  extreme : ∀ u, zone.toLocal u = localTime → if zone.laterFirst then u ≤ t else t ≤ u

theorem describes (zone : Zone) (localTime : Int) :
    (zone.fromLocal localTime).Describes zone.laterFirst fun t => zone.toLocal t = localTime :=
  zone.contract localTime

theorem ne_of_none (gap : zone.fromLocal localTime = .none) (t : Int) : zone.toLocal t ≠ localTime := by
  have told := zone.describes localTime
  rw [gap] at told
  exact told t

theorem givenFirst_of_single (once : zone.fromLocal localTime = .single t) :
    zone.GivenFirst localTime t := by
  have told := zone.describes localTime
  rw [once] at told
  refine ⟨(told t).mpr rfl, ?_⟩
  intro u shows_
  obtain rfl := (told u).mp shows_
  split <;> exact le_refl u

theorem givenFirst_of_ambiguous {second : Int} (twice : zone.fromLocal localTime = .ambiguous t second) :
    zone.GivenFirst localTime t := by
  have told := zone.describes localTime
  rw [twice, LocalResult.Describes] at told
  cases order : zone.laterFirst with
  | true =>
    rw [order, if_pos rfl] at told
    refine ⟨told.showsLatest, fun u shows_ => ?_⟩
    rw [order, if_pos rfl]
    exact (told.within u shows_).2
  | false =>
    rw [order, if_neg Bool.false_ne_true] at told
    refine ⟨told.showsEarliest, fun u shows_ => ?_⟩
    rw [order, if_neg Bool.false_ne_true]
    exact (told.within u shows_).1

theorem GivenFirst.unique {u : Int} (a : zone.GivenFirst localTime t) (b : zone.GivenFirst localTime u) :
    t = u := by
  have le := a.extreme u b.shows_
  have ge := b.extreme t a.shows_
  cases order : zone.laterFirst <;> simp only [order, if_true, Bool.false_eq_true, if_false] at le ge <;> omega

/-- Among the instants that show a local time there is one that is given first. -/
theorem exists_givenFirst (shown : ∃ t, zone.toLocal t = localTime) :
    ∃ t, zone.GivenFirst localTime t := by
  obtain ⟨t, shows_⟩ := shown
  cases told : zone.fromLocal localTime with
  | none => exact absurd shows_ (ne_of_none told t)
  | single datetime => exact ⟨datetime, givenFirst_of_single told⟩
  | ambiguous first second => exact ⟨first, givenFirst_of_ambiguous told⟩

/-- An instant after `now` is given first iff every instant that shows the local time is after
`now`, or only one of them has to be, by the order. -/
theorem GivenFirst.after_iff (first : zone.GivenFirst localTime t) (now : Int) :
    now < t ↔ if zone.laterFirst then ∃ u, zone.toLocal u = localTime ∧ now < u
      else ∀ u, zone.toLocal u = localTime → now < u := by
  have extreme := first.extreme
  split at extreme
  case isTrue order =>
    rw [if_pos order]
    constructor
    · intro after
      exact ⟨t, first.shows_, after⟩
    · rintro ⟨u, shows_, after⟩
      exact after.trans_le (extreme u shows_)
  case isFalse order =>
    rw [if_neg order]
    constructor
    · intro after u shows_
      exact after.trans_le (extreme u shows_)
    · intro after
      exact after t first.shows_

/-- The clock is set back once, at the instant `at_`. -/
def setBack (at_ before after : Int) (back : after < before) (laterFirst : Bool) : Zone where
  offset t := if t < at_ then before else after
  laterFirst
  fromLocal localTime :=
    let early := localTime - before * oneSecond
    let late := localTime - after * oneSecond
    if early < at_ then
      if at_ ≤ late then if laterFirst then .ambiguous late early else .ambiguous early late
      else .single early
    else .single late
  contract localTime := by
    have apart : after * oneSecond < before * oneSecond := by
      unfold oneSecond
      omega
    have shows_ (t : Int) : t + (if t < at_ then before else after) * oneSecond = localTime ↔
        t < at_ ∧ t = localTime - before * oneSecond ∨ at_ ≤ t ∧ t = localTime - after * oneSecond := by
      split <;> omega
    simp only [shows_]
    split
    case isTrue early =>
      split
      case isTrue late =>
        have between : Between (fun t => t < at_ ∧ t = localTime - before * oneSecond ∨
            at_ ≤ t ∧ t = localTime - after * oneSecond)
            (localTime - before * oneSecond) (localTime - after * oneSecond) := by
          refine ⟨by omega, by omega, by omega, ?_⟩
          rintro t (⟨-, rfl⟩ | ⟨-, rfl⟩) <;> omega
        cases laterFirst with
        | true => exact between
        | false => exact between
      case isFalse late =>
        intro t
        omega
    case isFalse early =>
      intro t
      omega

end Zone

end LocalTime
