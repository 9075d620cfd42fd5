import RequestLog.Proofs.Clocks
import RequestLog.Proofs.FieldWise
import RequestLog.Proofs.Rendering

/-! RFC 3339. A moment is kept by its distance from the epoch in UTC. A time that was written with
the offset of a clock is shown as that clock showed it, whatever the date in UTC. -/

namespace RequestLog

open Timestamp (decimals)

/-! ### Times as they are written -/

namespace Zone

def spellings : Zone → List (List Char)
  | utc => [['Z'], ['z']]
  | ahead hours minutes => ['+' :: (decimals 2 hours ++ ':' :: decimals 2 minutes)]
  | behind hours minutes => ['-' :: (decimals 2 hours ++ ':' :: decimals 2 minutes)]

end Zone

def IsFraction (text : List Char) : Prop :=
  text = [] ∨ ∃ digits, digits ≠ [] ∧ digits.all Char.isDigit = true ∧ text = '.' :: digits

namespace Clock

/-- The date and the time of day, with a letter or a space between them: `YYYY-MM-DDThh:mm:ss`. -/
def rfcText (clock : Clock) (mark : Char) (rest : List Char) : List Char :=
  decimals 4 clock.date.year.toNat ++ '-' :: (decimals 2 clock.date.month
    ++ '-' :: (decimals 2 clock.date.day ++ mark :: (decimals 2 clock.hour
    ++ ':' :: (decimals 2 clock.minute ++ ':' :: (decimals 2 clock.second ++ rest)))))

/-- The text is an RFC 3339 time at which the clock shows this, with this offset. -/
def IsWritten (clock : Clock) (zone : Zone) (text : List Char) : Prop :=
  ∃ mark ∈ ['T', 't', ' '], ∃ fraction, IsFraction fraction ∧ ∃ offset ∈ zone.spellings,
    text = clock.rfcText mark (fraction ++ offset)

end Clock

namespace Timestamp

/-! ### Reading them -/

theorem digitValue_lt {c : Char} (h : c.isDigit = true) : c.toNat - 48 < 10 := by
  have hrange : '0'.toNat ≤ c.toNat ∧ c.toNat ≤ '9'.toNat := Char.isDigit_iff_toNat.1 h
  have hlast : '9'.toNat = 57 := rfl
  omega

theorem foldl_digits_lt {digits : List Char} (h : digits.all Char.isDigit = true) (n : Nat) :
    digits.foldl (fun n c => n * 10 + (c.toNat - 48)) n < (n + 1) * 10 ^ digits.length := by
  induction digits generalizing n with
  | nil => simp
  | cons c digits ih =>
    rw [List.all_cons, Bool.and_eq_true] at h
    have hc := digitValue_lt h.1
    calc (c :: digits).foldl (fun n c => n * 10 + (c.toNat - 48)) n
        < (n * 10 + (c.toNat - 48) + 1) * 10 ^ digits.length := ih h.2 _
      _ ≤ ((n + 1) * 10) * 10 ^ digits.length := Nat.mul_le_mul_right _ (by omega)
      _ = (n + 1) * 10 ^ (c :: digits).length := by rw [List.length_cons, pow_succ']; ring

theorem nanosOf_lt {digits : List Char} (h : digits.all Char.isDigit = true) :
    nanosOf digits < 1000000000 := by
  have hnine : (digits.take 9).all Char.isDigit = true :=
    List.all_eq_true.2 fun c hc => List.all_eq_true.1 h c (List.mem_of_mem_take hc)
  have hlt := foldl_digits_lt hnine 0
  rw [List.length_take, Nat.zero_add, Nat.one_mul] at hlt
  calc nanosOf digits
      < 10 ^ min 9 digits.length * 10 ^ (9 - digits.length) :=
        Nat.mul_lt_mul_of_pos_right hlt (Nat.pow_pos (by decide))
    _ = 1000000000 := by
        rw [← pow_add, show min 9 digits.length + (9 - digits.length) = 9 by omega]
        norm_num

/-- An offset does not go on with a fraction. -/
theorem head_of_mem_spellings {zone : Zone} {offset : List Char} (h : offset ∈ zone.spellings) :
    ∃ c rest, offset = c :: rest ∧ c ≠ '.' ∧ c.isDigit = false := by
  cases zone <;> simp only [Zone.spellings, List.mem_cons, List.not_mem_nil, or_false] at h
  · rcases h with rfl | rfl <;> exact ⟨_, _, rfl, by decide, by decide⟩
  all_goals exact ⟨_, _, h, by decide, by decide⟩

theorem fraction?_of_isFraction {fraction : List Char} (h : IsFraction fraction) {zone : Zone}
    {offset : List Char} (ho : offset ∈ zone.spellings) :
    ∃ nanos < 1000000000, fraction? (fraction ++ offset) = some (nanos, offset) := by
  obtain ⟨c, rest, rfl, hpoint, hdigit⟩ := head_of_mem_spellings ho
  rcases h with rfl | ⟨digits, hne, hdigits, rfl⟩
  · refine ⟨0, by decide, ?_⟩
    rw [List.nil_append, fraction?]
    simpa using hpoint
  · have hall : ∀ d ∈ digits, d.isDigit = true := List.all_eq_true.1 hdigits
    have htake : (digits ++ c :: rest).takeWhile Char.isDigit = digits := by
      rw [List.takeWhile_append_of_pos hall, List.takeWhile_cons_of_neg (by simp [hdigit]),
        List.append_nil]
    have hdrop : (digits ++ c :: rest).dropWhile Char.isDigit = c :: rest := by
      rw [List.dropWhile_append_of_pos hall, List.dropWhile_cons_of_neg (by simp [hdigit])]
    refine ⟨nanosOf digits, nanosOf_lt hdigits, ?_⟩
    rw [List.cons_append, fraction?, htake, hdrop, if_neg (by simpa using hne)]

theorem offset?_of_mem_spellings {zone : Zone} (hz : zone.IsValid) {offset : List Char}
    (h : offset ∈ zone.spellings) : offset? offset = some zone.seconds := by
  have hread {hours minutes : Nat} (hh : hours ≤ 23) (hm : minutes ≤ 59) (sign : Char) :
      offset? (sign :: (decimals 2 hours ++ ':' :: decimals 2 minutes))
        = if sign = '+' then some ((hours : Int) * 3600 + minutes * 60)
          else if sign = '-' ∨ sign = minusSign then some (-((hours : Int) * 3600 + minutes * 60))
          else none := by
    have hminutes := digits?_of_lt (show minutes < 10 ^ 2 by omega) []
    rw [List.append_nil] at hminutes
    rw [offset?]
    · simp [digits?_of_lt (show hours < 10 ^ 2 by omega), mark?, hminutes, Nat.not_lt.2 hh,
        Nat.not_lt.2 hm]
    -- Digits follow the sign, so that the text is not the one letter of UTC.
    · simp [decimals]
    · simp [decimals]
  cases zone <;> simp only [Zone.spellings, List.mem_cons, List.not_mem_nil, or_false] at h
  · rcases h with rfl | rfl <;> rfl
  · rw [h, hread hz.1 hz.2]
    rfl
  · rw [h, hread hz.1 hz.2]
    rfl

/-- The date and time of day are read off the text. -/
theorem local?_rfcText {clock : Clock} (h : clock.IsValid) {mark : Char}
    (hmark : mark ∈ ['T', 't', ' ']) {nanos : Nat} {cs rest : List Char}
    (hf : fraction? cs = some (nanos, rest)) :
    local? (clock.rfcText mark cs)
      = some (⟨clock.date, clock.hour, clock.minute, clock.second, nanos⟩, rest) := by
  have htwo {n : Nat} (hn : n < 100) (cs : List Char) :
      digits? 2 0 (decimals 2 n ++ cs) = some (n, cs) :=
    digits?_of_lt hn cs
  have hyear : clock.date.year.toNat < 10 ^ 4 := by
    have := h.year
    omega
  have hmonth : clock.date.month < 100 := by
    have := (Date.isValid_iff.1 h.date).1
    omega
  have hcast : (clock.date.year.toNat : Int) = clock.date.year := Int.toNat_of_nonneg h.year.1
  have hhour : clock.hour < 100 := Nat.lt_of_le_of_lt h.hour (by decide)
  have hminute : clock.minute < 100 := Nat.lt_of_le_of_lt h.minute (by decide)
  have hsecond : clock.second < 100 := Nat.lt_of_le_of_lt h.second (by decide)
  simp only [local?, Clock.rfcText, digits?_of_lt hyear, htwo hmonth, htwo h.day_lt, htwo hhour,
    htwo hminute, htwo hsecond, mark?, hmark, hf, hcast, bind, Option.bind, pure, if_true,
    List.mem_singleton]

/-- A time is read as the moment at which the clock shows it. -/
theorem ofRfc3339Chars?_of_isWritten {clock : Clock} (h : clock.IsValid) {zone : Zone}
    (hz : zone.IsValid) {text : List Char} (hw : clock.IsWritten zone text) :
    ∃ t, ofRfc3339Chars? text = some t ∧ t.toLogText.toList = clock.logText zone := by
  obtain ⟨mark, hmark, fraction, hfraction, offset, hoffset, rfl⟩ := hw
  obtain ⟨nanos, hnanos, hf⟩ := fraction?_of_isFraction hfraction hoffset
  obtain ⟨l, hl⟩ : ∃ l : Local, l = ⟨clock.date, clock.hour, clock.minute, clock.second, nanos⟩ :=
    ⟨_, rfl⟩
  have hclock : l.clock = clock := by rw [hl]; rfl
  have hvalid : l.isValid = true := by
    rw [hl]
    simp [Local.isValid, h.date, h.hour, h.minute, h.second]
  refine ⟨ofLocal l zone.seconds, ?_, ?_⟩
  · simp only [ofRfc3339Chars?, local?_rfcText h hmark hf, offset?_of_mem_spellings hz hoffset,
      ← hl, hvalid, bind, Option.bind, if_true]
  · have hlocal : (ofLocal l zone.seconds).toLocal = l :=
      toLocal_ofLocal hvalid (by rwa [hl]) zone.seconds
    have hoffset : (ofLocal l zone.seconds).offset = zone.seconds := rfl
    rw [toLogText_eq hlocal hoffset (by rwa [hclock]) hz, hclock]

end Timestamp

/-! ### Showing them -/

namespace Renderer

/-- The line is read as a record whose time is shown as the text. -/
def ShowsTime (line : Bytes) (text : List Char) : Prop :=
  ∃ record, Record.ofBytes line = .ok record ∧
    ∀ separator, render ⟨Pattern.compile "%t", separator⟩ record = String.ofList text ++ separator

theorem showsTime_of_finds {line : Bytes} {value : Json} (h : Record.Finds line .timestamp value)
    {t : Timestamp} (ht : Record.timestampOf? value = some t) {text : List Char}
    (htext : t.toLogText.toList = text) (hne : text ≠ []) : ShowsTime line text := by
  obtain ⟨record, hread, hagree⟩ := h.ofBytes
  have htime : record.timestamp = some t := hagree.trans ht
  have htokens : (Pattern.compile "%t").tokens = [.directive "%t".toList .requestTime] := by cbv
  have hlog : t.toLogText = String.ofList text := by rw [← htext, String.ofList_toList]
  have hshown : shown? .requestTime record = some (String.ofList text) := by
    rw [shown?, Directive.value?, htime, Option.map_some, hlog]
    exact Option.filter_eq_some_iff.2 ⟨rfl, by simpa using hne⟩
  refine ⟨record, hread, fun separator => ?_⟩
  rw [render_directive htokens, hshown, Option.getD_some]

/-- A record whose time is written in RFC 3339 is shown with the date, the time of day and the
offset that were written. -/
theorem showsTime_of_isWritten {line : Bytes} {s : String}
    (hline : Record.Finds line .timestamp (.string s)) {clock : Clock} (hclock : clock.IsValid)
    {zone : Zone} (hzone : zone.IsValid) (hw : clock.IsWritten zone (Blank.trimChars s.toList)) :
    ShowsTime line (clock.logText zone) := by
  obtain ⟨t, ht, htext⟩ := Timestamp.ofRfc3339Chars?_of_isWritten hclock hzone hw
  exact showsTime_of_finds hline ht htext (List.cons_ne_nil _ _)

/-- The last second of a year, a leap second, half an hour behind UTC: there the new year has
begun. -/
def newYear : Clock := ⟨⟨2016, 12, 31⟩, 23, 59, 60⟩

def newYearText : String := " 2016-12-31T23:59:60.25-00:30 "

def newYearLine : Bytes :=
  Utf8.encode "\x7b\"timestamp\":\" 2016-12-31T23:59:60.25-00:30 \"\x7d"

theorem showsTime_newYear :
    Record.Finds newYearLine .timestamp (.string newYearText) ∧ newYear.IsValid ∧
      (Zone.behind 0 30).IsValid ∧
      newYear.IsWritten (.behind 0 30) (Blank.trimChars newYearText.toList) ∧
      ShowsTime newYearLine "[31/Dec/2016:23:59:60 -0030]".toList := by
  have hline : Record.Finds newYearLine .timestamp (.string newYearText) :=
    ⟨[(.timestamp, .string newYearText)], by cbv, List.mem_singleton_self _⟩
  have hclock : newYear.IsValid := ⟨by decide, by decide, by decide, by decide, by decide⟩
  have hzone : (Zone.behind 0 30).IsValid := ⟨by decide, by decide⟩
  have hw : newYear.IsWritten (.behind 0 30) (Blank.trimChars newYearText.toList) :=
    ⟨'T', by decide, ['.', '2', '5'], .inr ⟨['2', '5'], by decide, by decide, rfl⟩,
      _, List.mem_singleton_self _, by decide +kernel⟩
  have htext : newYear.logText (.behind 0 30) = "[31/Dec/2016:23:59:60 -0030]".toList := by
    decide +kernel
  exact ⟨hline, hclock, hzone, hw, htext ▸ showsTime_of_isWritten hline hclock hzone hw⟩

end Renderer

end RequestLog
