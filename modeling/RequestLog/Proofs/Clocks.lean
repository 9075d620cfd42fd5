import RequestLog.Time.Timestamp
import RequestLog.Proofs.Calendar

/-! Clocks. The time of a request log shows what the clock showed: its date, its time of day and its
offset, and no two readings of a clock are shown alike. -/

namespace RequestLog

namespace Timestamp

/-! ### Numbers of fixed width -/

/-- The last decimal digits of a number, as many as the width says. -/
def decimals : Nat → Nat → List Char
  | 0, _ => []
  | width + 1, n => Nat.digitChar (n / 10 ^ width % 10) :: decimals width n

theorem decimals_concat (width n : Nat) :
    decimals (width + 1) n = decimals width (n / 10) ++ [Nat.digitChar (n % 10)] := by
  induction width with
  | zero => simp [decimals]
  | succ width ih =>
    have hdigit : n / 10 ^ (width + 1) = n / 10 / 10 ^ width := by
      rw [Nat.div_div_eq_div_mul, pow_succ']
    rw [decimals, ih, decimals, hdigit, List.cons_append]

theorem decimals_zero (width : Nat) : decimals width 0 = List.replicate width '0' := by
  induction width with
  | zero => rfl
  | succ width ih =>
    rw [decimals, ih, Nat.zero_div, List.replicate_succ]
    rfl

theorem zeros_toDigits {width n : Nat} (h : n < 10 ^ (width + 1)) :
    List.replicate (width + 1 - (Nat.toDigits 10 n).length) '0' ++ Nat.toDigits 10 n
      = decimals (width + 1) n := by
  induction width generalizing n with
  | zero =>
    have hn : n < 10 := by simpa using h
    rw [Nat.toDigits_of_lt_base hn, decimals_concat, Nat.mod_eq_of_lt hn]
    rfl
  | succ width ih =>
    rw [decimals_concat, Nat.toDigits_eq_if (by decide)]
    split
    · rename_i hn
      rw [Nat.div_eq_of_lt hn, decimals_zero, Nat.mod_eq_of_lt hn]
      rfl
    · have hn : n / 10 < 10 ^ (width + 1) := by
        rw [Nat.div_lt_iff_lt_mul (by decide), ← pow_succ]
        exact h
      rw [← ih hn, List.length_append, List.length_singleton, Nat.add_sub_add_right,
        List.append_assoc]

theorem toList_pad {width n : Nat} (hw : 0 < width) (h : n < 10 ^ width) :
    (pad width n).toList = decimals width n := by
  obtain ⟨width, rfl⟩ := Nat.exists_eq_add_one_of_ne_zero hw.ne'
  have hdigits : (toString n).toList = Nat.toDigits 10 n := String.toList_ofList
  rw [← zeros_toDigits h, pad, String.toList_append, String.toList_ofList, ← String.length_toList,
    hdigits]

theorem digit?_digitChar : ∀ d < 10, digit? (Nat.digitChar d) = some d := by decide

/-- The reader takes all digits of a number and no character more. -/
theorem digits?_decimals (width value n : Nat) (cs : List Char) :
    digits? width value (decimals width n ++ cs) =
      some (value * 10 ^ width + n % 10 ^ width, cs) := by
  induction width generalizing value with
  | zero => simp [decimals, digits?, Nat.mod_one]
  | succ width ih =>
    rw [decimals, List.cons_append, digits?, digit?_digitChar _ (Nat.mod_lt _ (by decide)),
      Option.bind_some, ih, Nat.mod_pow_succ, pow_succ]
    congr 2
    ring

theorem digits?_of_lt {width n : Nat} (h : n < 10 ^ width) (cs : List Char) :
    digits? width 0 (decimals width n ++ cs) = some (n, cs) := by
  rw [digits?_decimals, Nat.mod_eq_of_lt h, Nat.zero_mul, Nat.zero_add]

theorem decimals_append_inj {width n n' : Nat} (h : n < 10 ^ width) (h' : n' < 10 ^ width)
    {cs cs' : List Char} (heq : decimals width n ++ cs = decimals width n' ++ cs') :
    n = n' ∧ cs = cs' := by
  have hread := digits?_of_lt h cs
  rw [heq, digits?_of_lt h'] at hread
  exact (Prod.mk.inj (Option.some.inj hread)).imp Eq.symm Eq.symm

end Timestamp

/-! ### Readings of a clock -/

/-- A date and a time of day as a clock shows them, to the second. -/
structure Clock where
  date : Date
  hour : Nat
  minute : Nat
  second : Nat
deriving DecidableEq, Repr

/-- How far a clock is from UTC. -/
inductive Zone where
  | utc
  | ahead (hours minutes : Nat)
  | behind (hours minutes : Nat)
deriving DecidableEq, Repr

namespace Zone

def seconds : Zone → Int
  | utc => 0
  | ahead hours minutes => hours * 3600 + minutes * 60
  | behind hours minutes => -(hours * 3600 + minutes * 60)

def IsValid : Zone → Prop
  | utc => True
  | ahead hours minutes => hours ≤ 23 ∧ minutes ≤ 59
  | behind hours minutes => hours ≤ 23 ∧ minutes ≤ 59

open Timestamp (decimals)

/-- The offset in a request log. No clock is behind UTC by nothing. -/
def logText : Zone → List Char
  | utc => ['+', '0', '0', '0', '0']
  | ahead hours minutes => '+' :: (decimals 2 hours ++ decimals 2 minutes)
  | behind hours minutes =>
    (if hours = 0 ∧ minutes = 0 then '+' else '-') :: (decimals 2 hours ++ decimals 2 minutes)

end Zone

namespace Clock

open Timestamp (decimals monthName)

/-- The clock shows a date of the calendar in one of the first ten thousand years, and a time of day
with a leap second at most. -/
structure IsValid (clock : Clock) : Prop where
  date : clock.date.isValid = true
  year : 0 ≤ clock.date.year ∧ clock.date.year ≤ 9999
  hour : clock.hour ≤ 23
  minute : clock.minute ≤ 59
  second : clock.second ≤ 60

theorem IsValid.day_lt {clock : Clock} (h : clock.IsValid) : clock.date.day < 100 := by
  have hmonth := Date.daysIn_le clock.date.year clock.date.month
  have hday := (Date.isValid_iff.1 h.date).2.2
  omega

/-- The time in a request log: `[DD/Mon/YYYY:hh:mm:ss ±HHMM]`. -/
def logText (clock : Clock) (zone : Zone) : List Char :=
  '[' :: (decimals 2 clock.date.day ++ '/' :: ((monthName clock.date.month).toList
    ++ '/' :: (decimals 4 clock.date.year.toNat ++ ':' :: (decimals 2 clock.hour
    ++ ':' :: (decimals 2 clock.minute ++ ':' :: (decimals 2 clock.second
    ++ ' ' :: (zone.logText ++ [']'])))))))

end Clock

namespace Timestamp

def Local.clock (l : Local) : Clock := ⟨l.date, l.hour, l.minute, l.second⟩

theorem toLocal_ofLocal {l : Local} (h : l.isValid = true) (hn : l.nanos < 1000000000)
    (offset : Int) : (ofLocal l offset).toLocal = l := by
  simp only [Local.isValid, Bool.and_eq_true, decide_eq_true_eq] at h
  obtain ⟨⟨⟨hdate, hhour⟩, hminute⟩, hsecond⟩ := h
  obtain ⟨time, htime⟩ : ∃ time, time = l.hour * 3600 + l.minute * 60 + min l.second 59 := ⟨_, rfl⟩
  have hsum : (ofLocal l offset).seconds + (ofLocal l offset).offset
      = l.date.toDay * 86400 + (time : Int) := by
    simp only [ofLocal]
    omega
  have hday : (l.date.toDay * 86400 + (time : Int)) / 86400 = l.date.toDay := by omega
  have hofDay : ((l.date.toDay * 86400 + (time : Int)) % 86400).toNat = time := by omega
  -- A leap second is what is left over of the nanoseconds.
  have hnanos : (ofLocal l offset).nanos = (l.second - min l.second 59) * 1000000000 + l.nanos :=
    rfl
  rw [toLocal]
  simp only [hsum, hday, hofDay, hnanos, Date.ofDay_toDay hdate]
  obtain ⟨date, hour, minute, second, nanos⟩ := l
  simp only [Local.mk.injEq, true_and] at *
  omega

theorem yearText_eq {year : Int} (h : 0 ≤ year ∧ year ≤ 9999) :
    (yearText year).toList = decimals 4 year.toNat := by
  rw [yearText, if_pos h, toList_pad (by decide) (by omega)]

theorem offsetText_seconds {zone : Zone} (h : zone.IsValid) :
    (offsetText zone.seconds).toList = zone.logText := by
  have hclock {offset : Int} {hours minutes : Nat} (hm : minutes ≤ 59) (hh : hours ≤ 23)
      (ho : offset.natAbs = hours * 3600 + minutes * 60) :
      (offsetText offset).toList
        = (if offset < 0 then '-' else '+') :: (decimals 2 hours ++ decimals 2 minutes) := by
    have hhours : offset.natAbs / 60 / 60 = hours := by omega
    have hminutes : offset.natAbs / 60 % 60 = minutes := by omega
    simp only [offsetText, hhours, hminutes, String.toList_append]
    rw [toList_pad (by decide) (by omega), toList_pad (by decide) (by omega)]
    split <;> rfl
  cases zone with
  | utc => decide
  | ahead hours minutes =>
    have hsign : ¬ (Zone.ahead hours minutes).seconds < 0 := by
      simp only [Zone.seconds]
      omega
    rw [hclock h.2 h.1 (by simp only [Zone.seconds]; omega), if_neg hsign]
    rfl
  | behind hours minutes =>
    have hsign : (Zone.behind hours minutes).seconds < 0 ↔ ¬ (hours = 0 ∧ minutes = 0) := by
      simp only [Zone.seconds]
      omega
    rw [hclock h.2 h.1 (by simp only [Zone.seconds]; omega)]
    simp only [hsign, ite_not, Zone.logText]

/-- The time of a request log, if the year has four digits. -/
theorem toLogText_eq {t : Timestamp} {l : Local} {zone : Zone} (hl : t.toLocal = l)
    (hz : t.offset = zone.seconds) (hclock : l.clock.IsValid) (hzone : zone.IsValid) :
    t.toLogText.toList = l.clock.logText zone := by
  have htwo {n : Nat} (h : n < 100) : (pad 2 n).toList = decimals 2 n := toList_pad (by decide) h
  have hday : l.date.day < 100 := hclock.day_lt
  have hhour : l.hour < 100 := Nat.lt_of_le_of_lt hclock.hour (by decide)
  have hminute : l.minute < 100 := Nat.lt_of_le_of_lt hclock.minute (by decide)
  have hsecond : l.second < 100 := Nat.lt_of_le_of_lt hclock.second (by decide)
  have hyear : (yearText l.date.year).toList = decimals 4 l.date.year.toNat :=
    yearText_eq hclock.year
  have hmark : "[".toList = ['['] ∧ "/".toList = ['/'] ∧ ":".toList = [':'] ∧ " ".toList = [' ']
      ∧ "]".toList = [']'] := by decide
  obtain ⟨hopen, hslash, hcolon, hspace, hclose⟩ := hmark
  unfold toLogText
  rw [hl, hz]
  simp only [String.toList_append, htwo hday, hyear, htwo hhour, htwo hminute, htwo hsecond,
    offsetText_seconds hzone, Clock.logText, Local.clock, List.append_assoc]
  simp only [hopen, hslash, hcolon, hspace, hclose, List.cons_append, List.nil_append]

end Timestamp

/-! ### Telling readings apart -/

namespace Clock

open Timestamp (decimals decimals_append_inj monthName)

theorem monthName_append_inj {m m' : Nat} (h : 1 ≤ m ∧ m ≤ 12) (h' : 1 ≤ m' ∧ m' ≤ 12)
    {cs cs' : List Char} (heq : (monthName m).toList ++ cs = (monthName m').toList ++ cs') :
    m = m' ∧ cs = cs' := by
  have hlength : ∀ m < 12, (monthName (m + 1)).toList.length = 3 := by decide
  have hnames : ∀ m < 12, ∀ m' < 12, (monthName (m + 1)).toList = (monthName (m' + 1)).toList →
      m = m' := by decide
  obtain ⟨k, rfl⟩ := Nat.exists_eq_add_of_le' h.1
  obtain ⟨k', rfl⟩ := Nat.exists_eq_add_of_le' h'.1
  obtain ⟨hname, hrest⟩ := List.append_inj heq (by rw [hlength k (by omega), hlength k' (by omega)])
  exact ⟨congrArg (· + 1) (hnames k (by omega) k' (by omega) hname), hrest⟩

/-- A field of fixed width and the mark after it. -/
theorem decimals_mark_inj {width n n' : Nat} (h : n < 10 ^ width) (h' : n' < 10 ^ width)
    {mark : Char} {cs cs' : List Char}
    (heq : decimals width n ++ mark :: cs = decimals width n' ++ mark :: cs') : n = n' ∧ cs = cs' :=
  (decimals_append_inj h h' heq).imp_right fun hcs => (List.cons.inj hcs).2

/-- Two clocks that are shown alike show the same. -/
theorem logText_inj {clock clock' : Clock} (h : clock.IsValid) (h' : clock'.IsValid)
    {zone zone' : Zone} (heq : clock.logText zone = clock'.logText zone') : clock = clock' := by
  have hday := h.day_lt
  have hday' := h'.day_lt
  have hmonth := (Date.isValid_iff.1 h.date).1
  have hmonth' := (Date.isValid_iff.1 h'.date).1
  obtain ⟨⟨year, month, day⟩, hour, minute, second⟩ := clock
  obtain ⟨⟨year', month', day'⟩, hour', minute', second'⟩ := clock'
  obtain ⟨-, hy, hh, hm, hs⟩ := h
  obtain ⟨-, hy', hh', hm', hs'⟩ := h'
  simp only at *
  simp only [logText] at heq
  obtain ⟨rfl, hrest₁⟩ := decimals_mark_inj hday hday' (List.cons.inj heq).2
  obtain ⟨rfl, hrest₂⟩ := monthName_append_inj hmonth hmonth' hrest₁
  obtain ⟨hyear, hrest₃⟩ := decimals_mark_inj (by omega) (by omega) (List.cons.inj hrest₂).2
  obtain ⟨rfl, hrest₄⟩ := decimals_mark_inj (by omega) (by omega) hrest₃
  obtain ⟨rfl, hrest₅⟩ := decimals_mark_inj (by omega) (by omega) hrest₄
  obtain ⟨rfl, -⟩ := decimals_mark_inj (by omega) (by omega) hrest₅
  obtain rfl : year = year' := by omega
  rfl

end Clock

end RequestLog
