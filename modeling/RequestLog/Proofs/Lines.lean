import RequestLog.Proofs.LineEnds
import Mathlib.Data.List.TakeWhile

/-! The lines of an input. A source sends the records in the lines of its input, in their order,
whatever the pieces in which the input arrives. -/

namespace RequestLog

namespace Source

/-- The record in a line, if the line is not blank and can be read as one. -/
def recordOf? (line : Bytes) : Option Record :=
  if line.all Blank.isAsciiBlank then none else (Record.ofBytes line).toOption

def recordsIn (input : Bytes) : List Record :=
  (input.splitOn newline).filterMap recordOf?

variable {source next : Source} {channel channel' : Channel} {input bytes line rest : Bytes}
  {sent : List Record}

/-! ### Lines -/

/-- The end of a line, with which a source reads it, does not matter. -/
theorem recordOf?_ended (line : Bytes) : recordOf? (Json.ended line) = recordOf? line := by
  have hall : (Json.ended line).all Blank.isAsciiBlank = line.all Blank.isAsciiBlank := by
    have hblank : Blank.isAsciiBlank newline = true := rfl
    simp [Json.ended, hblank]
  unfold recordOf?
  rw [hall, Record.ofBytes_ended]

@[simp] theorem recordsIn_nil : recordsIn [] = [] := rfl

theorem recordsIn_append (bytes rest : Bytes) :
    recordsIn (bytes ++ newline :: rest) = recordsIn bytes ++ recordsIn rest := by
  unfold recordsIn
  rw [List.splitOn_append_cons_self, List.filterMap_append]

theorem recordsIn_line (h : newline ∉ line) : recordsIn line = (recordOf? line).toList := by
  unfold recordsIn
  rw [List.splitOn_eq_singleton h, List.filterMap_cons]
  cases recordOf? line <;> rfl

theorem splitLine?_some (h : splitLine? bytes = some (line, rest)) :
    ∃ first, newline ∉ first ∧ line = Json.ended first ∧ bytes = first ++ newline :: rest := by
  unfold splitLine? at h
  have hbytes := List.takeWhile_append_dropWhile (p := (· ≠ newline)) (l := bytes)
  have hhead := List.head?_dropWhile_not (· ≠ newline) bytes
  split at h
  · simp at h
  · rename_i c after hdrop
    simp only [Option.some.injEq, Prod.mk.injEq] at h
    obtain ⟨rfl, rfl⟩ := h
    rw [hdrop] at hbytes hhead
    obtain rfl : c = newline := by simpa using hhead
    refine ⟨bytes.takeWhile (· ≠ newline), fun hmem => ?_, rfl, hbytes.symm⟩
    simpa using List.mem_takeWhile_imp hmem

theorem splitLine?_none (h : splitLine? bytes = none) : newline ∉ bytes := by
  intro hmem
  unfold splitLine? at h
  split at h
  · rename_i hdrop
    simpa using List.dropWhile_eq_nil_iff.1 hdrop newline hmem
  · simp at h

/-! ### Reading -/

/-- What a source sent, what it holds and what it has not looked at yet are its input, whatever may
still arrive. -/
structure Reads (input : Bytes) (sent : List Record) (source : Source) : Prop where
  notCancelled : source.isCancelled = false
  inputEnd : source.inputEnd = none ∨ source.inputEnd = some .complete
  records : ∀ tail, source.inputEnd = none ∨ tail = [] →
    recordsIn (input ++ tail) = sent ++ source.waiting.toList ++ recordsIn (source.unread ++ tail)
  atEnd : source.status ≠ .running →
    source.inputEnd = some .complete ∧ source.unread = [] ∧ source.waiting = none

theorem reads_start : Reads [] [] {} where
  notCancelled := rfl
  inputEnd := .inl rfl
  records := fun _ _ => rfl
  atEnd := fun h => absurd rfl h

theorem Reads.feed (h : Reads input sent source) (hopen : source.inputEnd = none) (bytes : Bytes) :
    Reads (input ++ bytes) sent (source.feed bytes) where
  notCancelled := h.notCancelled
  inputEnd := h.inputEnd
  records := by
    intro tail _
    simpa [Source.feed] using h.records (bytes ++ tail) (.inl hopen)
  atEnd := by
    intro hs
    have hend := (h.atEnd hs).1
    simp [hopen] at hend

theorem Reads.endInput (h : Reads input sent source) :
    Reads input sent (source.endInput .complete) where
  notCancelled := h.notCancelled
  inputEnd := .inr rfl
  records := by
    rintro tail (hnone | rfl)
    · simp [Source.endInput] at hnone
    · exact h.records [] (.inr rfl)
  atEnd := fun hs => ⟨rfl, (h.atEnd hs).2⟩

theorem takeLine_eq (line : Bytes) (source : Source) :
    ∃ stats limiter events, source.takeLine line =
      { source with stats, limiter, events, waiting := (recordOf? line).or source.waiting } := by
  unfold takeLine Content.ofLine recordOf?
  by_cases hblank : line.all Blank.isAsciiBlank = true
  · rw [if_pos hblank, if_pos hblank]
    exact ⟨_, _, _, rfl⟩
  · rw [if_neg hblank, if_neg hblank]
    cases Record.ofBytes line with
    | error fault => exact ⟨_, _, _, rfl⟩
    | ok record => exact ⟨_, _, _, rfl⟩

/-- The next line is taken off the input. -/
theorem Reads.takeLine (h : Reads input sent source) (hwaiting : source.waiting = none)
    (hrunning : source.status = .running)
    (hline : ∀ tail, source.inputEnd = none ∨ tail = [] →
      recordsIn (source.unread ++ tail) = (recordOf? line).toList ++ recordsIn (rest ++ tail)) :
    Reads input sent (({ source with unread := rest } : Source).takeLine line) := by
  obtain ⟨stats, limiter, events, heq⟩ := ({ source with unread := rest } : Source).takeLine_eq line
  rw [heq]
  exact
    { notCancelled := h.notCancelled
      inputEnd := h.inputEnd
      records := by
        intro tail htail
        rw [h.records tail htail, hline tail htail]
        simp [hwaiting]
      atEnd := fun hs => absurd hrunning hs }

theorem Reads.readNext (h : Reads input sent source) (hwaiting : source.waiting = none)
    (hrunning : source.status = .running) (hn : source.readNext = some next) :
    Reads input sent next := by
  unfold Source.readNext at hn
  split at hn
  · rename_i line rest hsplit
    obtain rfl := Option.some.inj hn
    obtain ⟨first, hfirst, rfl, hunread⟩ := splitLine?_some hsplit
    refine h.takeLine hwaiting hrunning fun tail _ => ?_
    rw [hunread, List.append_assoc, List.cons_append, recordsIn_append, recordsIn_line hfirst,
      recordOf?_ended]
  · rename_i hsplit
    have hlast := splitLine?_none hsplit
    split at hn
    · simp at hn
    · rename_i hend
      split at hn
      · rename_i hempty
        obtain rfl := Option.some.inj hn
        exact { h with atEnd := fun _ => ⟨hend, List.isEmpty_iff.1 hempty, hwaiting⟩ }
      · obtain rfl := Option.some.inj hn
        refine h.takeLine hwaiting hrunning fun tail htail => ?_
        obtain rfl : tail = [] := by simpa [hend] using htail
        rw [List.append_nil, recordsIn_line hlast]
        exact (List.append_nil _).symm
    · rename_i cause hend
      simpa [hend] using h.inputEnd

/-- A step of a source whose channel is open: it looks at its input, or sends the record that
waits. -/
theorem Reads.step (h : Reads input sent source) (hopen : channel.isClosed = false)
    (hn : source.step channel = some (next, channel')) :
    (channel' = channel ∧ Reads input sent next) ∨
      ∃ record, channel.send record = (.sent, channel') ∧ next.status = .running ∧
        Reads input (sent ++ [record]) next := by
  unfold Source.step at hn
  split at hn
  · rename_i hrunning
    rw [if_neg (by simp [h.notCancelled])] at hn
    split at hn
    · rename_i record hwaiting
      unfold sendWaiting at hn
      split at hn
      · rename_i after hsend
        obtain ⟨rfl, rfl⟩ := Prod.mk.inj (Option.some.inj hn)
        refine .inr ⟨record, hsend, hrunning, ?_⟩
        exact
          { h with
            records := by
              intro tail htail
              rw [h.records tail htail, hwaiting]
              simp
            atEnd := fun hs => absurd hrunning hs }
      · simp at hn
      · rename_i after hsend
        unfold Channel.send at hsend
        rw [if_neg (by simp [hopen])] at hsend
        split at hsend <;> simp at hsend
    · rename_i hwaiting
      obtain ⟨after, hafter, heq⟩ := Option.map_eq_some_iff.1 hn
      obtain ⟨rfl, rfl⟩ := Prod.mk.inj heq
      exact .inl ⟨rfl, h.readNext hwaiting hrunning hafter⟩
  · simp at hn

/-- At its end a source has sent all records of its input. -/
theorem Reads.sent_eq (h : Reads input sent source) (hs : source.isRunning = false) :
    sent = recordsIn input := by
  obtain ⟨-, hunread, hwaiting⟩ := h.atEnd (by simpa [isRunning] using hs)
  have hrecords := h.records [] (.inr rfl)
  rw [hunread, hwaiting] at hrecords
  simpa using hrecords.symm

end Source

end RequestLog
