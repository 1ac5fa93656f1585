import Cron.Proofs.Calendar.Cycle
import Cron.Proofs.Calendar.WeekDays
import Cron.Proofs.Preview.NextRuns
import Cron.Proofs.Schedule.Reading

/-! # Previews over a whole cycle

A preview looks at finitely many minutes, so an empty one says little of the other instants.  It
says all where the minutes it looks at make up a cycle of the calendar: every instant has a
counterpart among them with the same numbers in all fields, and a schedule looks at nothing
else.
-/
namespace Cron

open Calendar (Instant)

/-- A schedule that runs at some instant does so within the cycle after any start. -/
theorem Schedule.exists_run_in_cycle {s : Schedule} {t start fin : Instant}
    (ht : s.runsAt t = true) (h : start.daysLater? 146097 = some fin) :
    ∃ u : Instant, u.IsWhole ∧ start.minuteNumber < u.minuteNumber ∧
      u.minuteNumber ≤ start.minuteNumber + 146097 * 1440 ∧ s.runsAt u = true := by
  obtain ⟨u, hwhole, hlt, hle, hvalue⟩ := Instant.exists_whole_in_cycle t h
  exact ⟨u, hwhole, hlt, hle, (Schedule.runsAt_congr hvalue).trans ht⟩

namespace Preview

/-- **The runs of a schedule repeat with the 400 years of the calendar**, so a preview that
looks at as many days as these years have, and does not meet the end of the calendar, is empty
only if the schedule runs at no instant at all. -/
theorem runs_repeat_each_cycle :
    (∀ (s : Schedule) (t u : Instant), t.daysLater? 146097 = some u → s.runsAt t = s.runsAt u) ∧
      ∀ line : String, (Verdict.ofLine line).valid = true →
        ∃ s, Schedule.ofLine line = .ok s ∧
          ∀ (start fin : Instant) (count : UInt64) (horizon : UInt32),
            start.daysLater? 146097 = some fin → 1 ≤ count → 146097 * 1440 ≤ horizon.toNat →
              (runsAfter horizon line start count = [] ↔ ∀ t, s.runsAt t = false) := by
  constructor
  · intro s t u h
    exact (Schedule.runsAt_congr (Instant.value_of_daysLater? h)).symm
  · intro line hvalid
    obtain ⟨s, hs⟩ := Verdict.ofLine_valid_iff.mp hvalid
    refine ⟨s, hs, fun start fin count horizon hfin hcount hhorizon => ?_⟩
    rw [runsAfter_eq_nil_iff hs horizon start hcount]
    constructor
    · intro hrest t
      by_contra ht
      obtain ⟨u, hwhole, hlt, hle, hu⟩ :=
        Schedule.exists_run_in_cycle (eq_true_of_ne_false ht) hfin
      have hfalse := hrest u hwhole hlt (by omega)
      exact Bool.false_ne_true (hfalse.symm.trans hu)
    · intro hnever u _ _ _
      exact hnever u

/-- A leap day comes again after 400 years, and February 30 comes at no time.  So a preview that
starts on a leap day finds another one, and finds no run of the other line however far it looks. -/
theorem runs_repeat_each_cycle_february :
    let t : Instant := ⟨⟨2024, 2, 29, by decide⟩, 12, 0, 59, 1999999999, by decide⟩
    let u : Instant := ⟨⟨2424, 2, 29, by decide⟩, 12, 0, 59, 1999999999, by decide⟩
    t.daysLater? 146097 = some u ∧ (∀ s : Schedule, s.runsAt t = s.runsAt u) ∧
      (Verdict.ofLine "0 12 29 2 *").valid = true ∧
      runsAfter 4294967295 "0 12 29 2 *" t 1 ≠ [] ∧
      (Verdict.ofLine "0 12 30 2 *").valid = true ∧
      runsAfter 4294967295 "0 12 30 2 *" t 1 = [] := by
  intro t u
  have hlater : t.daysLater? 146097 = some u := by
    have hdate : t.date.later? 146097 = some u.date :=
      Calendar.Date.later?_eq_some_iff.mpr (by decide)
    rw [Instant.daysLater?, hdate]
    rfl
  have hleap : Schedule.ofLine "0 12 29 2 *" =
      .ok ⟨.single 0, .single 12, .single 29, .single 2, .any, false⟩ := by decide +kernel
  have hleapValid := Verdict.ofLine_valid_iff.mpr ⟨_, hleap⟩
  obtain ⟨s, hs, hsome⟩ := runs_repeat_each_cycle.2 _ hleapValid
  obtain rfl := Except.ok.inj (hleap.symm.trans hs)
  have hline : Schedule.ofLine "0 12 30 2 *" =
      .ok ⟨.single 0, .single 12, .single 30, .single 2, .any, false⟩ := by decide +kernel
  have hvalid := Verdict.ofLine_valid_iff.mpr ⟨_, hline⟩
  obtain ⟨s, hs, hnil⟩ := runs_repeat_each_cycle.2 _ hvalid
  obtain rfl := Except.ok.inj (hline.symm.trans hs)
  refine ⟨hlater, fun s => runs_repeat_each_cycle.1 s t u hlater, hleapValid, fun hempty => ?_,
    hvalid, (hnil t u 1 4294967295 hlater (by decide) (by decide)).mpr fun v => ?_⟩
  · -- the line runs at the start itself
    have hrest := (hsome t u 1 4294967295 hlater (by decide) (by decide)).mp hempty t
    exact absurd hrest (by decide +kernel)
  · by_contra hv
    obtain ⟨hfields, -⟩ := Schedule.runsAt_iff.mp (eq_true_of_ne_false hv)
    have hday : v.value .dayOfMonth = 30 := beq_iff_eq.mp (hfields .dayOfMonth (by decide))
    have hmonth : v.value .month = 2 := beq_iff_eq.mp (hfields .month (by decide))
    have hnumbers : v.date.day = 30 ∧ v.date.month = 2 :=
      ⟨(v.toNat_value .dayOfMonth).symm.trans (congrArg UInt32.toNat hday),
        (v.toNat_value .month).symm.trans (congrArg UInt32.toNat hmonth)⟩
    have hlen := v.date.isDayOfYear.2.2.2
    rw [hnumbers.1, hnumbers.2] at hlen
    exact absurd hlen (by decide)

end Preview
end Cron
