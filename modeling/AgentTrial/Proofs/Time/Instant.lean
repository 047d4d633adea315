import AgentTrial.Time.Instant

/-!
# Moving along the calendar

What an instant is moved to by a length of time, and when the calendar has it.

* **Readings** — the nanoseconds that a clock counts up to an instant. They tell how far an instant
  is from the end of the calendar (`day_le_lastDay_iff`).
* **Shifts** — a shift adds its length to the reading, leap seconds or not (`reading_shift`), never
  goes back (`le_shift`), and ends at an instant of the calendar unless that is over before
  (`isValid_shift`).
* **Differences** — the difference of the instants is the length of the shift, unless it forgets a
  leap second (`since_shift_iff`).
* **Sums** — a sum is such a shift. Beyond the calendar it crashes, or stands still when the length
  is more than any shift (`add_cases`).
-/

namespace AgentTrial.Instant

/-- An instant that the calendar has. A leap second is the last one of a minute. -/
structure IsValid (t : Instant) : Prop where
  firstDay_le : firstDay ≤ t.day
  day_le : t.day ≤ lastDay
  second_lt : t.second < secondsPerDay
  nanos_lt : t.nanos < 2 * nanosPerSecond
  leap : nanosPerSecond ≤ t.nanos → t.second % 60 = 59

/-- Earlier or the same, by day, second and nanosecond. -/
instance : LE Instant where
  le t u := t.day < u.day ∨ t.day = u.day ∧
    (t.second < u.second ∨ t.second = u.second ∧ t.nanos ≤ u.nanos)

/-- The nanoseconds from 1970-01-01 to an instant. A leap second is counted like the second before
it. -/
def reading (t : Instant) : Int :=
  (t.day * secondsPerDay + t.second) * nanosPerSecond + (t.nanos % nanosPerSecond : Nat)

/-- The reading at which the calendar ends. -/
def calendarEnd : Int := (lastDay + 1) * secondsPerDay * nanosPerSecond

/-- The calendar has the instant a length of time later. -/
def Fits (t : Instant) (d : Duration) : Prop := t.reading + d.nanos < calendarEnd

/-- The nanoseconds by which an instant is later than another. Of the two, the one at the earlier
time of day is taken to be before the end of its leap second, if it is in one. -/
def since (later t : Instant) : Int :=
  let leap : Int :=
    if t.second < later.second ∧ nanosPerSecond ≤ t.nanos then 1
    else if later.second < t.second ∧ nanosPerSecond ≤ later.nanos then -1
    else 0
  ((later.day - t.day) * secondsPerDay + (later.second - t.second) + leap) * nanosPerSecond +
    (later.nanos - t.nanos)

/-- A leap second that is left for a time of day which is not after it. A difference does not count
it. -/
def Forgets (t later : Instant) : Prop :=
  nanosPerSecond ≤ t.nanos ∧ later.nanos < nanosPerSecond ∧ later.second ≤ t.second

variable {t : Instant}

/-! ## Readings -/

theorem secs_add_subsecNanos (d : Duration) :
    d.secs * nanosPerSecond + d.subsecNanos = d.nanos := by
  unfold Duration.secs Duration.subsecNanos nanosPerSecond
  omega

/-- An instant is before the end of the calendar by its reading when it is by its day. -/
theorem day_le_lastDay_iff (second_lt : t.second < secondsPerDay) :
    t.day ≤ lastDay ↔ t.reading < calendarEnd := by
  unfold reading calendarEnd
  unfold secondsPerDay at second_lt ⊢
  unfold nanosPerSecond
  omega

/-! ## Shifts -/

section Shifts

variable {d : Duration}

/-- Where a shift ends: inside the leap second that it begins in, or at a second that its length
tells. -/
theorem shift_cases (t : Instant) (d : Duration) :
    (nanosPerSecond ≤ t.nanos ∧ (d.nanos = 0 ∨ t.nanos + d.nanos < 2 * nanosPerSecond) ∧
      t.shift d = { t with nanos := t.nanos + d.nanos }) ∨
    ((t.nanos < nanosPerSecond ∨ d.nanos ≠ 0 ∧ 2 * nanosPerSecond ≤ t.nanos + d.nanos) ∧
      (t.shift d).second < secondsPerDay ∧ (t.shift d).nanos < nanosPerSecond ∧
      (t.shift d).reading = t.reading + d.nanos) := by
  have parts := secs_add_subsecNanos d
  unfold shift
  dsimp only
  split
  · rename_i stays
    obtain ⟨leap, secs, inside⟩ := stays
    have nanos : d.subsecNanos = d.nanos := by simpa [secs] using parts
    rw [nanos] at inside ⊢
    exact .inl ⟨leap, inside, rfl⟩
  · rename_i leaves
    have second : (t.second + d.secs + (t.nanos % nanosPerSecond + d.subsecNanos) / nanosPerSecond) %
        secondsPerDay < secondsPerDay := Nat.mod_lt _ (by decide)
    have nanos : (t.nanos % nanosPerSecond + d.subsecNanos) % nanosPerSecond < nanosPerSecond :=
      Nat.mod_lt _ (by decide)
    refine .inr ⟨?_, second, nanos, ?_⟩
    · unfold nanosPerSecond at *
      omega
    · unfold normalize reading
      unfold nanosPerSecond secondsPerDay at *
      dsimp only
      omega

/-- A shift adds its length to the reading. -/
theorem reading_shift (valid : t.IsValid) : (t.shift d).reading = t.reading + d.nanos := by
  rcases shift_cases t d with ⟨leap, inside, stays⟩ | ⟨-, -, -, reading⟩
  · have below := valid.nanos_lt
    rw [stays]
    unfold reading
    unfold nanosPerSecond at *
    dsimp only
    omega
  · exact reading

/-- A shift never goes back. -/
theorem le_shift (valid : t.IsValid) : t ≤ t.shift d := by
  have second := valid.second_lt
  have nanos := valid.nanos_lt
  rcases shift_cases t d with ⟨leap, inside, stays⟩ | ⟨leaves, second', nanos', reading⟩
  · rw [stays]
    exact .inr ⟨rfl, .inr ⟨rfl, Nat.le_add_right _ _⟩⟩
  · show _ ∨ _
    unfold Instant.reading at reading
    unfold secondsPerDay nanosPerSecond at *
    omega

/-- The calendar has the end of a shift when it has its day. -/
theorem fits_iff (valid : t.IsValid) : t.Fits d ↔ (t.shift d).day ≤ lastDay := by
  have second : (t.shift d).second < secondsPerDay := by
    rcases shift_cases t d with ⟨-, -, stays⟩ | ⟨-, second, -⟩
    · rw [stays]
      exact valid.second_lt
    · exact second
  rw [day_le_lastDay_iff second, reading_shift valid]
  rfl

/-- A shift ends at an instant of the calendar unless the calendar is over before. -/
theorem isValid_shift (valid : t.IsValid) (fits : t.Fits d) : (t.shift d).IsValid := by
  have later := le_shift (d := d) valid
  have first : t.day ≤ (t.shift d).day := by
    rcases later with later | ⟨same, -⟩
    · exact Int.le_of_lt later
    · exact Int.le_of_eq same
  rcases shift_cases t d with ⟨leap, inside, stays⟩ | ⟨-, second, nanos, -⟩
  · have below := valid.nanos_lt
    rw [stays]
    exact ⟨valid.firstDay_le, valid.day_le, valid.second_lt, by dsimp only; omega,
      fun _ => valid.leap leap⟩
  · exact ⟨Int.le_trans valid.firstDay_le first, (fits_iff valid).mp fits, second,
      Nat.lt_of_lt_of_le nanos (by decide), fun leap => absurd nanos (Nat.not_lt.mpr leap)⟩

theorem shift_zero (valid : t.IsValid) : t.shift ⟨0⟩ = t := by
  rcases shift_cases t ⟨0⟩ with ⟨leap, inside, stays⟩ | ⟨leaves, second, nanos, reading⟩
  · exact stays
  · have first := valid.second_lt
    have plain : t.nanos < nanosPerSecond := leaves.resolve_right fun h => h.1 rfl
    rcases moved : t.shift ⟨0⟩ with ⟨day', second', nanos'⟩
    rw [moved] at second nanos reading
    rcases t with ⟨day, sec, nano⟩
    unfold Instant.reading at reading
    unfold secondsPerDay nanosPerSecond at *
    dsimp only at *
    simp only [Instant.mk.injEq]
    omega

end Shifts

/-! ## Differences -/

/-- The difference that a shift makes is its length, unless it forgets a leap second. -/
theorem since_shift_iff (valid : t.IsValid) (d : Duration) :
    (t.shift d).since t = d.nanos ↔ ¬ t.Forgets (t.shift d) := by
  have nanos := valid.nanos_lt
  rcases shift_cases t d with ⟨leap, inside, stays⟩ | ⟨leaves, -, nanos', reading⟩
  · rw [stays]
    unfold since Forgets
    dsimp only
    rw [if_neg (by omega), if_neg (by omega)]
    omega
  · unfold Instant.reading at reading
    unfold since Forgets
    unfold secondsPerDay nanosPerSecond at *
    dsimp only
    omega

/-! ## Sums -/

theorem firstDay_eq : firstDay = -96465292 := by decide

theorem lastDay_eq : lastDay = 95026236 := rfl

/-- A length that is more than any shift is more than the calendar has. -/
theorem not_fits_of_maxShift_lt {d : Duration} (valid : t.IsValid)
    (long : maxShift.nanos < d.nanos) : ¬ t.Fits d := by
  have first := valid.firstDay_le
  have first_eq := firstDay_eq
  have last_eq := lastDay_eq
  have max_eq : maxShift.nanos = 9223372036854775807000000 := rfl
  unfold Fits reading calendarEnd
  unfold secondsPerDay nanosPerSecond
  omega

/-- A length of time is added to an instant where the calendar has the sum. Where it does not, the
sum crashes, or stands still when the length is more than any shift. -/
theorem add_cases (valid : t.IsValid) (d : Duration) :
    (t.Fits d ∧ t.add d = .ok (t.shift d)) ∨
    (¬ t.Fits d ∧ maxShift.nanos < d.nanos ∧ t.add d = .ok t) ∨
    (¬ t.Fits d ∧ d.nanos ≤ maxShift.nanos ∧ t.add d = .error (.message overflowText)) := by
  unfold add
  by_cases long : maxShift.nanos < d.nanos
  · refine .inr (.inl ⟨not_fits_of_maxShift_lt valid long, long, ?_⟩)
    rw [if_pos long]
    simp only [shift_zero valid, if_pos valid.day_le]
  · rw [if_neg long]
    by_cases fits : t.Fits d
    · exact .inl ⟨fits, if_pos ((fits_iff valid).mp fits)⟩
    · exact .inr (.inr ⟨fits, Nat.le_of_not_lt long,
        if_neg fun day_le => fits ((fits_iff valid).mpr day_le)⟩)

/-- A sum is an instant of the calendar. -/
theorem isValid_add {later : Instant} {d : Duration} (valid : t.IsValid)
    (sum : t.add d = .ok later) : later.IsValid := by
  rcases add_cases valid d with ⟨fits, sum'⟩ | ⟨-, -, sum'⟩ | ⟨-, -, sum'⟩
  · rw [sum] at sum'
    cases sum'
    exact isValid_shift valid fits
  · rw [sum] at sum'
    cases sum'
    exact valid
  · rw [sum] at sum'
    cases sum'

end AgentTrial.Instant
