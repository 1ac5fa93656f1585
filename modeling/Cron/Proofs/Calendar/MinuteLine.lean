import Cron.Calendar.Instant
import Cron.Proofs.Calendar.DayLine

/-! # The line of minutes

Instants are ordered in time, and those at which a minute begins are numbered without a gap
from one end of the calendar to the other.  Stepping from minute to minute walks along these
numbers (`Instant.minuteNumber_of_nextMinute?`) up to the greatest of them
(`Instant.minuteNumber_le_of_nextMinute?`).  A step keeps what is finer than a minute, so a walk
that begins with a minute stays at the beginnings of minutes (`Instant.IsWhole.of_nextMinute?`).
Hence the minutes that its steps reach are all those whose numbers lie in the stretch that was
walked (`Instant.isStretch_minutesAfter`): none is left out, and there are fewer of them than
steps only where the calendar ends.
-/
namespace Cron.Calendar.Instant

variable {t u : Instant}

/-- Whether a minute begins at the instant. -/
def IsWhole (t : Instant) : Prop := t.second = 0 ∧ t.nanosecond = 0

/-- Time goes by minutes, within a minute by seconds, and within a second by nanoseconds, as
long as the second runs on. -/
instance : LT Instant where
  lt t u := t.minuteNumber < u.minuteNumber ∨ t.minuteNumber = u.minuteNumber ∧
    (t.second < u.second ∨ t.second = u.second ∧ t.nanosecond < u.nanosecond)

theorem lt_of_minuteNumber_lt (h : t.minuteNumber < u.minuteNumber) : t < u := Or.inl h

/-- No instant comes before itself. -/
theorem lt_irrefl (t : Instant) : ¬ t < t := by
  rintro (h | ⟨_, h | ⟨_, h⟩⟩)
  · exact Int.lt_irrefl _ h
  · exact Nat.lt_irrefl _ h
  · exact Nat.lt_irrefl _ h

theorem year_le_of_minuteNumber_le (h : t.minuteNumber ≤ u.minuteNumber) :
    t.date.year ≤ u.date.year := by
  obtain ⟨hth, htm, -, -⟩ := t.valid
  obtain ⟨huh, hum, -, -⟩ := u.valid
  simp only [minuteNumber] at h
  exact Date.year_le_of_dayNumber_le (by omega)

theorem isWhole_startOfMinute (t : Instant) : t.startOfMinute.IsWhole := ⟨rfl, rfl⟩

/-- A whole minute begins with itself. -/
theorem IsWhole.startOfMinute_eq (ht : t.IsWhole) : t.startOfMinute = t := by
  obtain ⟨hs, hn⟩ := ht
  cases t
  simp_all [startOfMinute]

/-! ## Steps -/

/-- What a step can do: it goes on within the hour, to the next hour or to the next day.  It leaves
what is finer than a minute as it is, but for a second that runs on. -/
theorem cases_of_nextMinute? (h : t.nextMinute? = some u) :
    (u.date = t.date ∧ u.hour = t.hour ∧ u.minute = t.minute + 1 ∨
      u.date = t.date ∧ u.hour = t.hour + 1 ∧ t.minute = 59 ∧ u.minute = 0 ∨
      t.date.next? = some u.date ∧ t.hour = 23 ∧ u.hour = 0 ∧ t.minute = 59 ∧ u.minute = 0) ∧
    u.second = t.second ∧ u.nanosecond = t.fraction := by
  obtain ⟨hhour, hminute, -, -⟩ := t.valid
  unfold nextMinute? at h
  split at h
  · obtain rfl := Option.some.inj h
    exact ⟨Or.inl ⟨rfl, rfl, rfl⟩, rfl, rfl⟩
  · split at h
    · obtain rfl := Option.some.inj h
      exact ⟨Or.inr (Or.inl ⟨rfl, rfl, by omega, rfl⟩), rfl, rfl⟩
    · obtain ⟨d, hd, rfl⟩ := Option.map_eq_some_iff.mp h
      exact ⟨Or.inr (Or.inr ⟨hd, by omega, rfl, by omega, rfl⟩), rfl, rfl⟩

/-- A step leads from a whole minute to a whole minute. -/
theorem IsWhole.of_nextMinute? (ht : t.IsWhole) (h : t.nextMinute? = some u) : u.IsWhole := by
  obtain ⟨-, hsecond, hnano⟩ := cases_of_nextMinute? h
  have hfraction : t.fraction = 0 := by rw [fraction, ht.2]
  exact ⟨hsecond.trans ht.1, hnano.trans hfraction⟩

/-- The next minute has the next number. -/
theorem minuteNumber_of_nextMinute? (h : t.nextMinute? = some u) :
    u.minuteNumber = t.minuteNumber + 1 := by
  unfold minuteNumber
  obtain ⟨⟨hd, hh, hm⟩ | ⟨hd, hh, hm, hm'⟩ | ⟨hd, hh, hh', hm, hm'⟩, -⟩ := cases_of_nextMinute? h
  · rw [hd, hh, hm]
    omega
  · rw [hd, hh, hm, hm']
    omega
  · rw [Date.dayNumber_of_next? hd, hh, hh', hm, hm']
    omega

/-- The minute without a next one is the last one of the calendar. -/
theorem minuteNumber_le_of_nextMinute? (h : t.nextMinute? = none) (u : Instant) :
    u.minuteNumber ≤ t.minuteNumber := by
  unfold nextMinute? at h
  split at h
  · cases h
  · split at h
    · cases h
    · have hday := Date.dayNumber_le_of_next? (Option.map_eq_none_iff.mp h) u.date
      obtain ⟨hhour, hminute, _, _⟩ := u.valid
      simp only [minuteNumber]
      omega

/-- Two whole minutes with one number are one instant. -/
theorem eq_of_minuteNumber_eq (ht : t.IsWhole) (hu : u.IsWhole)
    (h : t.minuteNumber = u.minuteNumber) : t = u := by
  obtain ⟨hth, htm, _, _⟩ := t.valid
  obtain ⟨huh, hum, _, _⟩ := u.valid
  simp only [minuteNumber] at h
  have hdate : t.date = u.date := Date.eq_of_dayNumber_eq (by omega)
  have hhour : t.hour = u.hour := by omega
  have hminute : t.minute = u.minute := by omega
  have hsecond : t.second = u.second := ht.1.trans hu.1.symm
  have hnano : t.nanosecond = u.nanosecond := ht.2.trans hu.2.symm
  cases t
  cases u
  simp_all

/-! ## Stretches -/

/-- The list holds, in ascending order, the whole minutes of the calendar that begin after the
given one, the last of them `length` minutes after it. -/
structure IsStretch (t : Instant) (length : Nat) (minutes : List Instant) : Prop where
  mem_iff : ∀ u, u ∈ minutes ↔
    u.IsWhole ∧ t.minuteNumber < u.minuteNumber ∧ u.minuteNumber ≤ t.minuteNumber + length
  ascending : minutes.Pairwise (· < ·)

/-- The minutes that a number of steps reach. -/
def minutesAfter : Nat → Instant → List Instant
  | 0, _ => []
  | h + 1, t =>
    match t.nextMinute? with
    | none => []
    | some u => u :: minutesAfter h u

/-- The minutes that a number of steps reach from a whole minute are the whole stretch. -/
theorem isStretch_minutesAfter (h : Nat) (ht : t.IsWhole) :
    t.IsStretch h (minutesAfter h t) := by
  -- the steps go on from the next minute, so the hypothesis is needed for every start
  induction h generalizing t with
  | zero =>
    refine ⟨fun u => ⟨fun hu => absurd hu List.not_mem_nil, ?_⟩, List.Pairwise.nil⟩
    rintro ⟨_, hlt, hle⟩
    omega
  | succ h ih =>
    unfold minutesAfter
    cases hn : t.nextMinute? with
    | none =>
      -- the calendar ends here, and no whole minute is later
      refine ⟨fun u => ⟨fun hu => absurd hu List.not_mem_nil, ?_⟩, List.Pairwise.nil⟩
      rintro ⟨_, hlt, _⟩
      have hlast := minuteNumber_le_of_nextMinute? hn u
      omega
    | some v =>
      have hwhole := ht.of_nextMinute? hn
      obtain ⟨hmem, hasc⟩ := ih hwhole
      have hv := minuteNumber_of_nextMinute? hn
      refine ⟨fun u => ?_, List.pairwise_cons.mpr ⟨fun u hu => ?_, hasc⟩⟩
      · rw [List.mem_cons, hmem]
        constructor
        · rintro (rfl | ⟨hu, hlt, hle⟩)
          · exact ⟨hwhole, by omega, by omega⟩
          · exact ⟨hu, by omega, by omega⟩
        · rintro ⟨hu, hlt, hle⟩
          rcases Int.lt_or_le v.minuteNumber u.minuteNumber with hvu | huv
          · exact Or.inr ⟨hu, hvu, by omega⟩
          · -- there is no number between those of a minute and of the next one
            exact Or.inl (eq_of_minuteNumber_eq hu hwhole (by omega))
      · exact lt_of_minuteNumber_lt ((hmem u).mp hu).2.1

/-- So are those from the beginning of the minute in which an instant lies. -/
theorem isStretch_startOfMinute (h : Nat) (t : Instant) :
    t.startOfMinute.IsStretch h (minutesAfter h t.startOfMinute) :=
  isStretch_minutesAfter h t.isWhole_startOfMinute

end Cron.Calendar.Instant
