import Cron.Proofs.Calendar.MinuteLine
import Mathlib.Data.List.Sort

/-! # Stretches of minutes

A stretch is told by the numbers of its minutes, and these ascend, so there is only one list that
is the stretch of a given length after a given instant (`IsStretch.unique`).  Hence a stretch may
be walked in parts: it is the stretch up to any of its minutes and the one from there on
(`minutesAfter_add`), and what lies before or behind a minute of it is a stretch again
(`filter_le_minutesAfter`, `filter_lt_minutesAfter`).  It has its full length wherever the calendar
does not end before (`exists_whole_later`).
-/
namespace Cron.Calendar.Instant

variable {t u : Instant} {n k : Nat} {xs ys : List Instant}

/-- Of two instants one at most comes before the other. -/
theorem lt_asymm (h : t < u) : ¬ u < t := by
  rcases h with h | ⟨h, hs | ⟨hs, hn⟩⟩
  · rintro (h' | ⟨h', -⟩) <;> omega
  · rintro (h' | ⟨-, hs' | ⟨hs', -⟩⟩) <;> omega
  · rintro (h' | ⟨-, hs' | ⟨-, hn'⟩⟩) <;> omega

instance : Std.Asymm (α := Instant) (· < ·) where
  asymm _ _ := lt_asymm

/-- The numbers of a stretch ascend. -/
theorem IsStretch.pairwise_minuteNumber (hx : t.IsStretch n xs) :
    xs.Pairwise fun v w => v.minuteNumber < w.minuteNumber := by
  refine hx.ascending.imp_of_mem fun {v w} hv hw h => ?_
  obtain ⟨hvs, hvn⟩ := ((hx.mem_iff v).mp hv).1
  obtain ⟨hws, hwn⟩ := ((hx.mem_iff w).mp hw).1
  rcases h with h | ⟨-, h⟩
  · exact h
  · -- within a minute there is no whole one but the first instant
    omega

/-- Two stretches of one length after instants of one minute are one list. -/
theorem IsStretch.unique (hx : t.IsStretch n xs) (hy : u.IsStretch n ys)
    (h : t.minuteNumber = u.minuteNumber) : xs = ys := by
  refine hx.ascending.eq_of_mem_iff hy.ascending fun v => ?_
  rw [hx.mem_iff, hy.mem_iff, h]

/-- A stretch goes on with the one after its last minute. -/
theorem IsStretch.append (hx : t.IsStretch n xs) (hy : u.IsStretch k ys)
    (h : u.minuteNumber = t.minuteNumber + n) : t.IsStretch (n + k) (xs ++ ys) := by
  refine ⟨fun v => ?_, List.pairwise_append.mpr ⟨hx.ascending, hy.ascending, ?_⟩⟩
  · rw [List.mem_append, hx.mem_iff, hy.mem_iff]
    constructor
    · rintro (⟨hv, hlt, hle⟩ | ⟨hv, hlt, hle⟩)
      · exact ⟨hv, by omega, by omega⟩
      · exact ⟨hv, by omega, by omega⟩
    · rintro ⟨hv, hlt, hle⟩
      by_cases hvn : v.minuteNumber ≤ t.minuteNumber + n
      · exact Or.inl ⟨hv, hlt, hvn⟩
      · exact Or.inr ⟨hv, by omega, by omega⟩
  · intro v hv w hw
    obtain ⟨-, -, hle⟩ := (hx.mem_iff v).mp hv
    obtain ⟨-, hlt, -⟩ := (hy.mem_iff w).mp hw
    exact lt_of_minuteNumber_lt (by omega)

/-- What does not lie too far off in a stretch is a stretch. -/
theorem IsStretch.filter_le (hx : t.IsStretch n xs) (h : k ≤ n) :
    t.IsStretch k (xs.filter fun v => v.minuteNumber ≤ t.minuteNumber + k) := by
  refine ⟨fun v => ?_, hx.ascending.filter _⟩
  rw [List.mem_filter, hx.mem_iff, decide_eq_true_eq]
  constructor
  · rintro ⟨⟨hv, hlt, -⟩, hle⟩
    exact ⟨hv, hlt, hle⟩
  · rintro ⟨hv, hlt, hle⟩
    exact ⟨⟨hv, hlt, by omega⟩, hle⟩

/-- What lies behind an instant in a stretch is a stretch. -/
theorem IsStretch.filter_lt (hx : t.IsStretch (n + k) xs)
    (h : u.minuteNumber = t.minuteNumber + n) :
    u.IsStretch k (xs.filter fun v => u.minuteNumber < v.minuteNumber) := by
  refine ⟨fun v => ?_, hx.ascending.filter _⟩
  rw [List.mem_filter, hx.mem_iff, decide_eq_true_eq]
  constructor
  · rintro ⟨⟨hv, -, hle⟩, hlt⟩
    exact ⟨hv, hlt, by omega⟩
  · rintro ⟨hv, hlt, hle⟩
    exact ⟨⟨hv, by omega, by omega⟩, hlt⟩

/-! ## Walks -/

/-- A walk goes on from the minute that its first part leads to. -/
theorem minutesAfter_add (k : Nat) (ht : t.IsWhole) (hu : u.IsWhole)
    (h : u.minuteNumber = t.minuteNumber + n) :
    minutesAfter (n + k) t = minutesAfter n t ++ minutesAfter k u :=
  (isStretch_minutesAfter (n + k) ht).unique
    ((isStretch_minutesAfter n ht).append (isStretch_minutesAfter k hu) h) rfl

/-- What a walk comes to behind a minute is the walk from there. -/
theorem filter_lt_minutesAfter (k : Nat) (ht : t.IsWhole) (hu : u.IsWhole)
    (h : u.minuteNumber = t.minuteNumber + n) :
    (minutesAfter (n + k) t).filter (fun v => u.minuteNumber < v.minuteNumber) =
      minutesAfter k u :=
  ((isStretch_minutesAfter (n + k) ht).filter_lt h).unique (isStretch_minutesAfter k hu) rfl

/-- The beginning of a walk is a shorter walk. -/
theorem filter_le_minutesAfter (ht : t.IsWhole) (h : k ≤ n) :
    (minutesAfter n t).filter (fun v => v.minuteNumber ≤ t.minuteNumber + k) =
      minutesAfter k t :=
  ((isStretch_minutesAfter n ht).filter_le h).unique (isStretch_minutesAfter k ht) rfl

/-- A longer walk only goes on where a shorter one ends. -/
theorem minutesAfter_prefix_of_le (t : Instant) (h : k ≤ n) :
    minutesAfter k t <+: minutesAfter n t := by
  induction k generalizing n t with
  | zero => exact List.nil_prefix
  | succ k ih =>
    obtain ⟨n, rfl⟩ := Nat.exists_eq_add_of_le' (Nat.le_trans (Nat.le_add_left 1 k) h)
    unfold minutesAfter
    cases t.nextMinute? with
    | none => exact List.prefix_rfl
    | some v => exact List.cons_prefix_cons.mpr ⟨rfl, ih v (by omega)⟩

/-- Up to a later instant no minute is missing. -/
theorem exists_whole_later {fin : Instant} (h : t.minuteNumber + n ≤ fin.minuteNumber) :
    ∃ v : Instant, v.IsWhole ∧ v.minuteNumber = t.minuteNumber + n := by
  induction n with
  | zero => exact ⟨t.startOfMinute, t.isWhole_startOfMinute, (Int.add_zero _).symm⟩
  | succ n ih =>
    obtain ⟨v, hwhole, hv⟩ := ih (by omega)
    cases hn : v.nextMinute? with
    | none =>
      have hlast := minuteNumber_le_of_nextMinute? hn fin
      omega
    | some w =>
      have hw := minuteNumber_of_nextMinute? hn
      exact ⟨w, hwhole.of_nextMinute? hn, by omega⟩

end Cron.Calendar.Instant
