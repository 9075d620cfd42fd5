import RequestLog.Proofs.TimeNotation

/-! Milliseconds of the epoch. They are shown as the date and the time of day in UTC of the second
that they fall in, so that the shown times have the order of the moments. -/

namespace RequestLog

/-! ### Seconds of the epoch -/

/-- The clock shows second `n` after the beginning of 1970, in UTC. -/
def Clock.IsSecond (n : Int) (clock : Clock) : Prop :=
  (clock.hour ≤ 23 ∧ clock.minute ≤ 59 ∧ clock.second ≤ 59) ∧
    ∃ day, Date.IsDay day clock.date ∧
      n = day * 86400 + clock.hour * 3600 + clock.minute * 60 + clock.second

namespace Clock

variable {clock clock' : Clock} {n n' : Int}

theorem isSecond_iff : clock.IsSecond n ↔
    (clock.hour ≤ 23 ∧ clock.minute ≤ 59 ∧ clock.second ≤ 59) ∧ clock.date.isValid = true ∧
      n = clock.date.toDay * 86400 + clock.hour * 3600 + clock.minute * 60 + clock.second := by
  simp only [IsSecond, Date.isDay_iff, and_assoc, exists_and_left, exists_eq_left']

def Before (clock clock' : Clock) : Prop :=
  clock.date.Before clock'.date ∨ clock.date = clock'.date ∧
    (clock.hour < clock'.hour ∨ clock.hour = clock'.hour ∧
      (clock.minute < clock'.minute ∨ clock.minute = clock'.minute ∧ clock.second < clock'.second))

/-- Seconds have the order of the times that are shown for them. -/
theorem lt_iff_before (h : clock.IsSecond n) (h' : clock'.IsSecond n') :
    n < n' ↔ clock.Before clock' := by
  obtain ⟨hrange, hvalid, rfl⟩ := isSecond_iff.1 h
  obtain ⟨hrange', hvalid', rfl⟩ := isSecond_iff.1 h'
  have hday := Date.toDay_lt_iff hvalid hvalid'
  have hdate : clock.date = clock'.date ↔ clock.date.toDay = clock'.date.toDay :=
    ⟨congrArg _, Date.toDay_inj hvalid hvalid'⟩
  rw [Before, ← hday, hdate]
  omega

theorem IsSecond.unique (h : clock.IsSecond n) (h' : clock'.IsSecond n) : clock = clock' := by
  obtain ⟨hrange, hvalid, hn⟩ := isSecond_iff.1 h
  obtain ⟨hrange', hvalid', hn'⟩ := isSecond_iff.1 h'
  have hdate : clock.date = clock'.date := Date.toDay_inj hvalid hvalid' (by omega)
  obtain ⟨date, hour, minute, second⟩ := clock
  obtain ⟨date', hour', minute', second'⟩ := clock'
  simp only at *
  subst hdate
  simp only [mk.injEq, true_and]
  omega

theorem IsSecond.isValid (h : clock.IsSecond n)
    (hyear : 0 ≤ clock.date.year ∧ clock.date.year ≤ 9999) : clock.IsValid := by
  obtain ⟨⟨hhour, hminute, hsecond⟩, hvalid, -⟩ := isSecond_iff.1 h
  exact ⟨hvalid, hyear, hhour, hminute, Nat.le_succ_of_le hsecond⟩

/-- Each second of a day is shown by a clock. -/
theorem exists_isSecond {date : Date} (h : date.IsDay (n / 86400)) :
    ∃ clock : Clock, clock.IsSecond n ∧ clock.date = date := by
  obtain ⟨time, htime⟩ : ∃ time, time = (n % 86400).toNat := ⟨_, rfl⟩
  refine ⟨⟨date, time / 3600, time / 60 % 60, time % 60⟩, ⟨?_, n / 86400, h, ?_⟩, rfl⟩
  · simp only
    omega
  · simp only
    omega

/-- In the first ten thousand years only clocks that show the same second are shown alike. -/
theorem logText_eq_iff (h : clock.IsSecond n)
    (hyear : 0 ≤ clock.date.year ∧ clock.date.year ≤ 9999) (h' : clock'.IsSecond n')
    (hyear' : 0 ≤ clock'.date.year ∧ clock'.date.year ≤ 9999) :
    clock.logText .utc = clock'.logText .utc ↔ n = n' := by
  constructor
  · intro htext
    obtain rfl := logText_inj (h.isValid hyear) (h'.isValid hyear') htext
    rw [(isSecond_iff.1 h).2.2, (isSecond_iff.1 h').2.2]
  · rintro rfl
    rw [h.unique h']

end Clock

/-! ### Milliseconds -/

/-- The number of milliseconds that a JSON number gives: its fraction is dropped. -/
def Json.IsMillis (value : Json) (ms : Int) : Prop :=
  value = .number (.integer ms) ∨ ∃ x : Binary64, value = .number (.real x) ∧ x.truncate = ms

/-- The days of the first ten thousand years. -/
theorem Date.toDay_bounds {date : Date} (h : date.isValid = true)
    (hyear : 0 ≤ date.year ∧ date.year ≤ 9999) :
    -719528 ≤ date.toDay ∧ date.toDay < 2932897 := by
  have hfirst : ¬ date.toDay < Date.toDay ⟨0, 1, 1⟩ := by
    rw [Date.toDay_lt_iff h (by decide)]
    obtain ⟨hmonth, hday⟩ := Date.isValid_iff.1 h
    simp only [Date.Before]
    omega
  have hlast : date.toDay < Date.toDay ⟨10000, 1, 1⟩ :=
    Date.toDay_lt_of_before h (by decide) (.inl (by simp only; omega))
  exact ⟨not_lt.1 hfirst, hlast⟩

namespace Timestamp

/-- The moment of a number of milliseconds in the first ten thousand years. -/
theorem ofMillis?_eq {ms : Int} (h : -719528 * 86400000 ≤ ms ∧ ms < 2932897 * 86400000) :
    ofMillis? ms = some ⟨ms / 1000, (ms % 1000).toNat * 1000000, 0⟩ := by
  have hfirst : firstDay ≤ -719528 := by decide
  have hlast : 2932897 ≤ lastDay := by decide
  rw [ofMillis?, if_pos]
  omega

theorem timestampOf?_isMillis {value : Json} {ms : Int} (hv : value.IsMillis ms)
    (h : -719528 * 86400000 ≤ ms ∧ ms < 2932897 * 86400000) :
    Record.timestampOf? value = some ⟨ms / 1000, (ms % 1000).toNat * 1000000, 0⟩ := by
  have hlimit : (Word.signedLimit : Int) = 9223372036854775808 := rfl
  rw [← ofMillis?_eq h]
  rcases hv with rfl | ⟨x, rfl, hx⟩
  · rw [Record.timestampOf?, if_pos]
    omega
  · have hwhole : x.wholePart < Word.signedLimit := by
      rw [Binary64.truncate] at hx
      split at hx <;> omega
    rw [Record.timestampOf?, if_pos hwhole, hx]

/-- A clock in UTC shows the second that the moment falls in. -/
theorem isSecond_toLocal {t : Timestamp} (hoffset : t.offset = 0) (hn : t.nanos < 1000000000) :
    t.toLocal.clock.IsSecond t.seconds := by
  obtain ⟨hvalid, hday⟩ := Date.ofDay_spec (t.seconds / 86400)
  rw [Clock.isSecond_iff]
  simp only [toLocal, Local.clock, hoffset, add_zero, hvalid, hday, true_and]
  omega

end Timestamp

namespace Renderer

theorem showsTime_of_isMillis {line : Bytes} {value : Json}
    (hline : Record.Finds line .timestamp value) {ms : Int} (hv : value.IsMillis ms) {clock : Clock}
    (hsecond : clock.IsSecond (ms / 1000))
    (hyear : 0 ≤ clock.date.year ∧ clock.date.year ≤ 9999) :
    ShowsTime line (clock.logText .utc) := by
  obtain ⟨hrange, hdate, hms⟩ := Clock.isSecond_iff.1 hsecond
  have hbounds := Date.toDay_bounds hdate hyear
  have hmoment := Timestamp.timestampOf?_isMillis hv (by omega)
  generalize ht : (⟨ms / 1000, (ms % 1000).toNat * 1000000, 0⟩ : Timestamp) = t at hmoment
  have hoffset : t.offset = 0 := by rw [← ht]
  have hseconds : t.seconds = ms / 1000 := by rw [← ht]
  have hnanos : t.nanos < 1000000000 := by
    rw [← ht]
    simp only
    omega
  have hclock : t.toLocal.clock = clock :=
    (hseconds ▸ Timestamp.isSecond_toLocal hoffset hnanos).unique hsecond
  have hvalid := hsecond.isValid hyear
  have hlog : t.toLogText.toList = t.toLocal.clock.logText .utc :=
    Timestamp.toLogText_eq rfl hoffset (by rwa [hclock]) trivial
  rw [hclock] at hlog
  exact showsTime_of_finds hline hmoment hlog (List.cons_ne_nil _ _)

/-- A number of milliseconds in the first ten thousand years, before 1970 or after, is shown as the
second in UTC that it falls in. The same second in RFC 3339 is shown alike. No moment is shown with
an earlier time than one before it, and only moments in one second are shown alike. -/
theorem showsTime_millis {ms : Int} {date : Date} (hday : date.IsDay (ms / 86400000))
    (hyear : 0 ≤ date.year ∧ date.year ≤ 9999) :
    ∃ clock : Clock, clock.IsSecond (ms / 1000) ∧
      (∀ line value, Record.Finds line .timestamp value → value.IsMillis ms →
        ShowsTime line (clock.logText .utc)) ∧
      (∀ line s (clock' : Clock), Record.Finds line .timestamp (.string s) →
        clock'.IsSecond (ms / 1000) → clock'.IsWritten .utc (Blank.trimChars s.toList) →
        ShowsTime line (clock.logText .utc)) ∧
      ∀ (ms' : Int) (clock' : Clock), clock'.IsSecond (ms' / 1000) →
        (ms ≤ ms' → ¬ clock'.Before clock) ∧
        (0 ≤ clock'.date.year ∧ clock'.date.year ≤ 9999 →
          (clock.logText .utc = clock'.logText .utc ↔ ms / 1000 = ms' / 1000)) := by
  have hdays : ms / 1000 / 86400 = ms / 86400000 := by omega
  obtain ⟨clock, hsecond, rfl⟩ := Clock.exists_isSecond (hdays ▸ hday)
  refine ⟨clock, hsecond, fun line value hline hv => showsTime_of_isMillis hline hv hsecond hyear,
    fun line s clock' hline hsecond' hw => ?_, fun ms' clock' hsecond' => ⟨fun hle hb => ?_,
      fun hyear' => Clock.logText_eq_iff hsecond hyear hsecond' hyear'⟩⟩
  · obtain rfl := hsecond.unique hsecond'
    exact showsTime_of_isWritten hline (hsecond.isValid hyear) trivial hw
  · have hlt := (Clock.lt_iff_before hsecond' hsecond).2 hb
    omega

def beforeEpochLine : Bytes := Utf8.encode "\x7b\"timestamp\":-1\x7d"

theorem showsTime_beforeEpoch :
    (⟨1969, 12, 31⟩ : Date).IsDay (-1 / 86400000) ∧ (0 ≤ (1969 : Int) ∧ (1969 : Int) ≤ 9999) ∧
      ShowsTime beforeEpochLine "[31/Dec/1969:23:59:59 +0000]".toList := by
  have hday : (⟨1969, 12, 31⟩ : Date).IsDay (-1 / 86400000) := ⟨by decide, by decide⟩
  have hyear : 0 ≤ (1969 : Int) ∧ (1969 : Int) ≤ 9999 := by decide
  obtain ⟨clock, hsecond, hshown, -⟩ := showsTime_millis hday hyear
  have hlast : (⟨⟨1969, 12, 31⟩, 23, 59, 59⟩ : Clock).IsSecond (-1 / 1000) :=
    ⟨by decide, -1 / 86400000, hday, by decide⟩
  have htext : clock.logText .utc = "[31/Dec/1969:23:59:59 +0000]".toList := by
    rw [hsecond.unique hlast]
    decide +kernel
  have hline : Record.Finds beforeEpochLine .timestamp (.number (.integer (-1))) :=
    ⟨[(.timestamp, .number (.integer (-1)))], by cbv, List.mem_singleton_self _⟩
  exact ⟨hday, hyear, htext ▸ hshown beforeEpochLine _ hline (.inl rfl)⟩

end Renderer

end RequestLog
