import DialogueQuery.Proofs.Calendar.Written
import DialogueQuery.Proofs.Number.Rounding

/-! The whole seconds of a date and time. The timestamp is rounded before its fraction
is dropped. This keeps the order of instants, it loses nothing where a microsecond is more
than what a timestamp is off by, and it is never more than a second away. -/

namespace DialogueQuery

def truncated (q : Rat) : Int := Int.tdiv q.num q.den

theorem truncated_of_nonneg {q : Rat} (h : 0 ≤ q) : truncated q = ⌊q⌋ := by
  rw [truncated, Int.tdiv_eq_ediv_of_nonneg (Rat.num_nonneg.mpr h), Rat.floor_def']

theorem truncated_neg (q : Rat) : truncated (-q) = -truncated q := by
  rw [truncated, Rat.num_neg_eq_neg_num, Rat.den_neg_eq_den, Int.neg_tdiv, truncated]

theorem truncated_nonneg {q : Rat} (h : 0 ≤ q) : 0 ≤ truncated q := by
  rw [truncated_of_nonneg h]
  exact Int.floor_nonneg.mpr h

theorem truncated_le {q r : Rat} (h : q ≤ r) : truncated q ≤ truncated r := by
  by_cases hq : 0 ≤ q
  · rw [truncated_of_nonneg hq, truncated_of_nonneg (hq.trans h)]
    exact Int.floor_le_floor h
  have hneg : 0 ≤ -q := by linarith
  by_cases hr : 0 ≤ r
  · have hle := truncated_nonneg hneg
    have hle' := truncated_nonneg hr
    rw [truncated_neg] at hle
    omega
  · have hneg' : 0 ≤ -r := by linarith
    have hle := Int.floor_le_floor (neg_le_neg h)
    rw [← truncated_of_nonneg hneg, ← truncated_of_nonneg hneg', truncated_neg,
      truncated_neg] at hle
    omega

/-- An instant in microseconds is short of the next whole second by one of them at least. -/
theorem seconds_bounds (i : Int) :
    ((i / 1000000 : Int) : Rat) ≤ (i : Rat) / (1000000 : Nat) ∧
      (i : Rat) / (1000000 : Nat) ≤ (i / 1000000 : Int) + 1 - 1 / 1000000 := by
  obtain ⟨n, hn⟩ : ∃ n, i / 1000000 = n := ⟨_, rfl⟩
  rw [hn, le_div_iff₀ (by norm_num), div_le_iff₀ (by norm_num)]
  constructor
  · have hle : n * 1000000 ≤ i := by omega
    exact_mod_cast hle
  · have hle : i ≤ n * 1000000 + 999999 := by omega
    have hle : (i : Rat) ≤ n * 1000000 + 999999 := by exact_mod_cast hle
    push_cast
    linarith

namespace Binary64.IsNearest

variable {i : Int} {r : Rat}

/-- Just below the next whole second there is a value that is nearer than the second. -/
theorem floor_eq (hi : 0 ≤ i) (hlt : i < 2 ^ 34 * 1000000)
    (h : IsNearest ((i : Rat) / (1000000 : Nat)) r) : ⌊r⌋ = i / 1000000 := by
  obtain ⟨hlow, hhigh⟩ := seconds_bounds i
  obtain ⟨n, hn⟩ : ∃ n, i / 1000000 = n := ⟨_, rfl⟩
  rw [hn] at hlow hhigh ⊢
  have hnext : IsValue ((n : Rat) + 1 - 1 / 2 ^ 19) := by
    refine ⟨(n + 1) * 2 ^ 19 - 1, -19, by omega, by decide, by decide, ?_⟩
    push_cast
    rw [zpow_neg]
    ring
  rw [Int.floor_eq_iff]
  refine ⟨h.ge_of_ge (isValue_int (by omega)) hlow, ?_⟩
  by_contra hge
  have hle := h.le _ hnext
  rw [abs_of_nonneg (by linarith)] at hle
  rcases abs_cases ((n : Rat) + 1 - 1 / 2 ^ 19 - (i : Rat) / (1000000 : Nat)) with
    ⟨ha, -⟩ | ⟨ha, -⟩ <;> linarith

/-- Rounding keeps the whole second of an instant or goes on to the next one. -/
theorem floor_near (hi : 0 ≤ i) (hlt : i < 2 ^ 53 * 1000000)
    (h : IsNearest ((i : Rat) / (1000000 : Nat)) r) :
    i / 1000000 ≤ ⌊r⌋ ∧ ⌊r⌋ ≤ i / 1000000 + 1 := by
  obtain ⟨hlow, hhigh⟩ := seconds_bounds i
  constructor
  · exact Int.le_floor.mpr (h.ge_of_ge (isValue_int (by omega)) hlow)
  · have hnext : (i : Rat) / (1000000 : Nat) ≤ (i / 1000000 + 1 : Int) := by
      push_cast at hhigh ⊢
      linarith
    have hle := Int.floor_le_floor (h.le_of_le (isValue_int (by omega)) hnext)
    rwa [Int.floor_intCast] at hle

theorem truncated_of_nonneg (hi : 0 ≤ i) (hlt : i < 2 ^ 53 * 1000000)
    (h : IsNearest ((i : Rat) / (1000000 : Nat)) r) :
    (i < 2 ^ 34 * 1000000 → truncated r = i.tdiv 1000000) ∧
      (truncated r - i.tdiv 1000000).natAbs ≤ 1 := by
  have hq : (0 : Rat) ≤ (i : Rat) / (1000000 : Nat) := by positivity
  have hzero : IsValue ((0 : Int) : Rat) := isValue_int (by decide)
  have hr : 0 ≤ r := by
    have hle := h.ge_of_ge hzero (by rwa [Int.cast_zero])
    rwa [Int.cast_zero] at hle
  rw [DialogueQuery.truncated_of_nonneg hr, Int.tdiv_eq_ediv_of_nonneg hi]
  refine ⟨fun hlt => h.floor_eq hi hlt, ?_⟩
  obtain ⟨hlow, hhigh⟩ := h.floor_near hi hlt
  omega

/-- What is known at and above zero holds below it by reflection. -/
theorem truncated_near (hlt : i.natAbs < 2 ^ 53 * 1000000)
    (h : IsNearest ((i : Rat) / (1000000 : Nat)) r) :
    (i.natAbs < 2 ^ 34 * 1000000 → truncated r = i.tdiv 1000000) ∧
      (truncated r - i.tdiv 1000000).natAbs ≤ 1 := by
  by_cases hi : 0 ≤ i
  · obtain ⟨hexact, hnear⟩ := h.truncated_of_nonneg hi (by omega)
    exact ⟨fun hlt => hexact (by omega), hnear⟩
  · have hneg : IsNearest (((-i : Int) : Rat) / (1000000 : Nat)) (-r) := by
      rw [Int.cast_neg, neg_div]
      exact h.neg
    obtain ⟨hexact, hnear⟩ := hneg.truncated_of_nonneg (by omega) (by omega)
    rw [truncated_neg, Int.neg_tdiv] at hexact hnear
    refine ⟨fun hlt => ?_, by omega⟩
    have heq := hexact (by omega)
    omega

end Binary64.IsNearest

theorem daysInMonth_le (year month : Nat) : daysInMonth year month ≤ 31 := by
  unfold daysInMonth
  split <;> (try split) <;> omega

theorem daysBeforeMonth_le (year month : Nat) : daysBeforeMonth year month ≤ 31 * (month - 1) := by
  have hsum (months : List Nat) :
      months.foldr (fun m days => daysInMonth year (m + 1) + days) 0 ≤ 31 * months.length := by
    induction months with
    | nil => exact le_refl 0
    | cons m months ih =>
      have hm := daysInMonth_le year (m + 1)
      rw [List.foldr_cons, List.length_cons]
      omega
  have hle := hsum (List.range (month - 1))
  rwa [List.length_range] at hle

namespace DateTime

theorem natAbs_instant_lt {t : DateTime} (h : t.hasZone = true) :
    t.instant.natAbs < 2 ^ 53 * 1000000 := by
  obtain ⟨⟨hyear, hyear'⟩, hmonth, hmonth', hday, hday'⟩ := t.date.inCalendar
  obtain ⟨hhour, hminute, hsecond, hmicrosecond⟩ := t.time.inDay
  have hmonths := daysBeforeMonth_le t.date.year t.date.month
  have hdays := daysInMonth_le t.date.year t.date.month
  have hoffset : (t.offset.getD 0).natAbs < 1440 := by
    unfold hasZone at h
    cases ho : t.offset with
    | none => decide
    | some minutes => simpa [ho] using h
  have hnumber : t.date.dayNumber.natAbs < 10000000 := by
    simp only [Date.dayNumber, daysBeforeYear]
    omega
  simp only [instant, microsecondsPerDay, TimeOfDay.microseconds]
  omega

/-- The timestamp of a date is its instant in seconds, rounded once. -/
theorem timestamp_rounds {t : DateTime} (h : t.hasZone = true) :
    ∃ r, Binary64.Rounds ((t.instant : Rat) / (1000000 : Nat)) r t.timestamp := by
  have hlt : (t.instant.natAbs : Rat) < 2 ^ (53 : Int) * (1000000 : Nat) := by
    exact_mod_cast natAbs_instant_lt h
  refine Binary64.rounds_ofFraction_natAbs t.instant (by decide) ?_
  rw [div_lt_iff₀ (by norm_num)]
  exact hlt.trans_le (mul_le_mul_of_nonneg_right (zpow_le_zpow_right₀ (by norm_num) (by norm_num))
    (by norm_num))

theorem toUnix_eq {t : DateTime} {q r : Rat} (h : Binary64.Rounds q r t.timestamp) :
    t.toUnix = truncated r := by
  rw [toUnix, Binary64.truncate?, h.value]
  rfl

/-- How the whole seconds stand to the instant that they are taken of. -/
structure CountsSeconds (t : DateTime) : Prop where
  rounded : ∃ r, Binary64.Rounds ((t.instant : Rat) / (1000000 : Nat)) r t.timestamp ∧
    t.toUnix = truncated r
  exact : t.instant.natAbs < 2 ^ 34 * 1000000 → t.toUnix = t.instant.tdiv 1000000
  near : (t.toUnix - t.instant.tdiv 1000000).natAbs ≤ 1

/-- Seconds are counted by cutting off the timestamp: exactly within `2^34` of them from the
epoch, to one of them anywhere, and never fewer for what is later. -/
theorem toUnix_counts {a b : DateTime} (ha : a.hasZone = true) (hb : b.hasZone = true) :
    a.CountsSeconds ∧ (a.instant ≤ b.instant → a.toUnix ≤ b.toUnix) ∧
      (a.instant = b.instant → a.toUnix = b.toUnix) := by
  obtain ⟨r, hr⟩ := timestamp_rounds ha
  obtain ⟨s, hs⟩ := timestamp_rounds hb
  have hsame (h : a.instant = b.instant) : a.toUnix = b.toUnix := by
    rw [toUnix, toUnix, timestamp, timestamp, h]
  refine ⟨?_, fun hle => ?_, hsame⟩
  · obtain ⟨hexact, hnear⟩ := hr.nearest.truncated_near (natAbs_instant_lt ha)
    rw [← toUnix_eq hr] at hexact hnear
    exact ⟨⟨r, hr, toUnix_eq hr⟩, hexact, hnear⟩
  · rcases hle.lt_or_eq with hlt | heq
    · have hlt : (a.instant : Rat) / (1000000 : Nat) < (b.instant : Rat) / (1000000 : Nat) := by
        have hlt : (a.instant : Rat) < b.instant := by exact_mod_cast hlt
        exact div_lt_div_of_pos_right hlt (by norm_num)
      rw [toUnix_eq hr, toUnix_eq hs]
      exact truncated_le (hr.nearest.le_of_lt hs.nearest hlt)
    · exact (hsame heq).le

/-- The last microsecond of the calendar, and the same instant on a clock that is behind. -/
def lastInstant : DateTime := ⟨⟨9999, 12, 31, by decide⟩, ⟨23, 59, 59, 999999, by decide⟩, none⟩

def lastInstantWest : DateTime :=
  ⟨⟨9999, 12, 31, by decide⟩, ⟨18, 29, 59, 999999, by decide⟩, some (-330)⟩

/-- There the timestamp is rounded up to the next second. -/
theorem toUnix_counts_last :
    lastInstant.hasZone = true ∧ lastInstantWest.hasZone = true ∧
      lastInstant.instant = lastInstantWest.instant ∧
      lastInstant.toUnix = lastInstant.instant.tdiv 1000000 + 1 ∧
      lastInstant.CountsSeconds ∧ lastInstant.toUnix = lastInstantWest.toUnix := by
  have h := toUnix_counts (a := lastInstant) (b := lastInstantWest) rfl rfl
  have hsame : lastInstant.instant = lastInstantWest.instant := by decide +kernel
  exact ⟨rfl, rfl, hsame, by decide +kernel, h.1, h.2.2 hsame⟩

end DateTime

end DialogueQuery
