import RequestLog.Proofs.Lines
import Mathlib.Data.List.DropRight

/-! The account of a source. Whatever the pieces in which its input arrives and whenever it is
stopped, every line that it looked at was blank, malformed, sent as a record, or is the one that
waits. -/

namespace RequestLog

namespace Channel

variable {channel : Channel}

theorem send_of_closed (record : Record) (h : channel.isClosed = true) :
    channel.send record = (.closed, channel) := if_pos h

theorem send_of_full (record : Record) (hopen : channel.isClosed = false)
    (hfull : channel.capacity ≤ channel.queue.length) :
    channel.send record = (.full, channel) := by
  rw [send, if_neg (by simp [hopen]), if_pos hfull]

theorem send_of_room (record : Record) (hopen : channel.isClosed = false)
    (hroom : channel.queue.length < channel.capacity) :
    channel.send record = (.sent, { channel with queue := channel.queue ++ [record] }) := by
  rw [send, if_neg (by simp [hopen]), if_neg (Nat.not_le.2 hroom)]

end Channel

namespace Source

/-! ### The lines of an input -/

/-- What ends with a newline, without it, and what comes after the last one unless that is
nothing. -/
def linesIn (input : Bytes) : List Bytes :=
  let pieces := input.splitOn newline
  if pieces.getLast? = some [] then pieces.dropLast else pieces

def isBlank (line : Bytes) : Bool := line.all Blank.isAsciiBlank

def isMalformed (line : Bytes) : Bool := !isBlank line && (recordOf? line).isNone

variable {source next : Source} {channel channel' : Channel} {input bytes line rest : Bytes}
  {read : List Bytes} {sent : List Record}

/-- An input is what has no newline, or one line and another input. -/
theorem line_induction {P : Bytes → Prop} (last : ∀ line, newline ∉ line → P line)
    (line : ∀ line rest, newline ∉ line → P rest → P (line ++ newline :: rest)) (input : Bytes) :
    P input := by
  induction hn : input.length using Nat.strong_induction_on generalizing input with
  | _ n ih =>
    by_cases hmem : newline ∈ input
    · obtain ⟨first, rest, rfl, hfirst⟩ := List.eq_append_cons_of_mem hmem
      refine line first rest hfirst (ih rest.length ?_ rest rfl)
      rw [← hn, List.length_append, List.length_cons]
      omega
    · exact last input hmem

theorem linesIn_last (h : newline ∉ line) : linesIn line = if line = [] then [] else [line] := by
  unfold linesIn
  rw [List.splitOn_eq_singleton h]
  by_cases hline : line = [] <;> simp [hline]

theorem linesIn_append (h : newline ∉ line) (rest : Bytes) :
    linesIn (line ++ newline :: rest) = line :: linesIn rest := by
  obtain ⟨piece, pieces, hrest⟩ :=
    List.exists_cons_of_ne_nil (List.splitOn_ne_nil newline rest)
  unfold linesIn
  rw [List.splitOn_append_cons_self, List.splitOn_eq_singleton h, hrest]
  simp only [List.singleton_append, List.getLast?_cons_cons, List.dropLast_cons_cons]
  split <;> rfl

theorem rtakeWhile_append (line rest : Bytes) :
    (line ++ newline :: rest).rtakeWhile (· ≠ newline) = rest.rtakeWhile (· ≠ newline) := by
  induction rest using List.reverseRecOn with
  | nil => exact List.rtakeWhile_concat_neg _ _ _ (by simp)
  | append_singleton rest c ih =>
    rw [← List.cons_append, ← List.append_assoc, List.rtakeWhile_concat, List.rtakeWhile_concat, ih]

/-- As many as there are newlines, and one more if something comes after the last one. -/
theorem length_linesIn (input : Bytes) :
    (linesIn input).length
      = input.count newline + if input.rtakeWhile (· ≠ newline) = [] then 0 else 1 := by
  induction input using line_induction with
  | last line h =>
    have hself : line.rtakeWhile (· ≠ newline) = line := by
      rw [List.rtakeWhile_eq_self_iff]
      intro c hc
      simp only [ne_eq, decide_eq_true_eq]
      rintro rfl
      exact h hc
    rw [linesIn_last h, List.count_eq_zero.2 h, hself]
    by_cases hline : line = [] <;> simp [hline]
  | line line rest h ih =>
    rw [linesIn_append h, rtakeWhile_append, List.length_cons, ih, List.count_append,
      List.count_cons_self, List.count_eq_zero.2 h]
    omega

theorem recordOf?_of_isBlank (h : isBlank line = true) : recordOf? line = none := if_pos h

/-- A line is blank, malformed, or holds a record, and only one of these. -/
theorem length_eq_kinds (lines : List Bytes) :
    lines.length
      = lines.countP isBlank + lines.countP isMalformed + (lines.filterMap recordOf?).length := by
  induction lines with
  | nil => rfl
  | cons line lines ih =>
    rw [List.length_cons, ih, List.countP_cons, List.countP_cons, List.filterMap_cons]
    cases hb : isBlank line with
    | true =>
      simp [isMalformed, hb, recordOf?_of_isBlank hb]
      omega
    | false =>
      cases hr : recordOf? line <;> simp [isMalformed, hb, hr] <;> omega

/-! ### Steps -/

theorem isBlank_ended (line : Bytes) : isBlank (Json.ended line) = isBlank line := by
  have hblank : Blank.isAsciiBlank newline = true := rfl
  simp [isBlank, Json.ended, hblank]

theorem isMalformed_ended (line : Bytes) : isMalformed (Json.ended line) = isMalformed line := by
  rw [isMalformed, isBlank_ended, recordOf?_ended, isMalformed]

/-- A line that is looked at counts as one of its kind. -/
theorem takeLine_counts (line : Bytes) (source : Source) :
    ∃ limiter events, source.takeLine line =
      { source with
        limiter
        events
        waiting := (recordOf? line).or source.waiting
        stats :=
          { source.stats with
            lines := source.stats.lines + 1
            blank := source.stats.blank + [line].countP isBlank
            malformed := source.stats.malformed + [line].countP isMalformed } } := by
  rw [List.countP_singleton, List.countP_singleton]
  unfold takeLine Content.ofLine isMalformed isBlank recordOf?
  by_cases hblank : line.all Blank.isAsciiBlank = true
  · simp only [hblank, if_true, Bool.not_true, Bool.false_and]
    exact ⟨_, _, rfl⟩
  · simp only [hblank]
    cases Record.ofBytes line with
    | error fault => exact ⟨_, _, rfl⟩
    | ok record => exact ⟨_, _, rfl⟩

inductive Stride (source : Source) (channel : Channel) : Source → Channel → Prop where
  | cancel (hc : source.isCancelled = true) :
    Stride source channel { source with status := .finished } channel
  | send {record : Record} (hc : source.isCancelled = false) (hw : source.waiting = some record)
      (hopen : channel.isClosed = false) :
    Stride source channel
      { source with
        waiting := none
        stats := { source.stats with sent := source.stats.sent + 1 } }
      { channel with queue := channel.queue ++ [record] }
  /-- Nobody takes the record any more. -/
  | giveUp {record : Record} (hc : source.isCancelled = false) (hw : source.waiting = some record)
      (hclosed : channel.isClosed = true) :
    Stride source channel { source with status := .finished } channel
  | line {line rest : Bytes} (hc : source.isCancelled = false) (hw : source.waiting = none)
      (hn : newline ∉ line) (hs : source.unread = line ++ newline :: rest) :
    Stride source channel (({ source with unread := rest } : Source).takeLine (Json.ended line))
      channel
  /-- The last line has no newline. -/
  | last (hc : source.isCancelled = false) (hw : source.waiting = none)
      (he : source.inputEnd = some .complete) (hn : newline ∉ source.unread)
      (hne : source.unread ≠ []) :
    Stride source channel (({ source with unread := [] } : Source).takeLine source.unread) channel
  | finish (hc : source.isCancelled = false) (hw : source.waiting = none)
      (he : source.inputEnd = some .complete) (hu : source.unread = []) :
    Stride source channel { source with status := .finished } channel
  | fail {cause : IoError} (hc : source.isCancelled = false) (hw : source.waiting = none)
      (he : source.inputEnd = some (.failed cause)) :
    Stride source channel { source with status := .failed cause } channel

theorem stride_of_readNext (hc : source.isCancelled = false) (hw : source.waiting = none)
    (hn : source.readNext = some next) : Stride source channel next channel := by
  unfold readNext at hn
  split at hn
  · rename_i line rest hsplit
    obtain rfl := Option.some.inj hn
    obtain ⟨first, hfirst, rfl, hunread⟩ := splitLine?_some hsplit
    exact .line hc hw hfirst hunread
  · rename_i hsplit
    split at hn
    · simp at hn
    · rename_i hend
      split at hn
      · rename_i hempty
        obtain rfl := Option.some.inj hn
        exact .finish hc hw hend (List.isEmpty_iff.1 hempty)
      · rename_i hempty
        obtain rfl := Option.some.inj hn
        exact .last hc hw hend (splitLine?_none hsplit) fun h => hempty (List.isEmpty_iff.2 h)
    · rename_i cause hend
      obtain rfl := Option.some.inj hn
      exact .fail hc hw hend

/-- A source that is running strides. -/
theorem stride_of_step (h : source.step channel = some (next, channel')) :
    source.status = .running ∧ Stride source channel next channel' := by
  unfold step at h
  split at h
  · rename_i hrunning
    refine ⟨hrunning, ?_⟩
    cases hc : source.isCancelled with
    | true =>
      obtain ⟨rfl, rfl⟩ := Prod.mk.inj (Option.some.inj ((if_pos hc).symm.trans h))
      exact .cancel hc
    | false =>
      rw [if_neg (by simp [hc])] at h
      split at h
      · rename_i record hw
        unfold sendWaiting at h
        cases hclosed : channel.isClosed with
        | true =>
          rw [Channel.send_of_closed record hclosed] at h
          obtain ⟨rfl, rfl⟩ := Prod.mk.inj (Option.some.inj h)
          exact .giveUp hc hw hclosed
        | false =>
          rcases Nat.lt_or_ge channel.queue.length channel.capacity with hroom | hfull
          · rw [Channel.send_of_room record hclosed hroom] at h
            obtain ⟨rfl, rfl⟩ := Prod.mk.inj (Option.some.inj h)
            exact .send hc hw hclosed
          · rw [Channel.send_of_full record hclosed hfull] at h
            simp at h
      · rename_i hw
        obtain ⟨after, hafter, heq⟩ := Option.map_eq_some_iff.1 h
        obtain ⟨rfl, rfl⟩ := Prod.mk.inj heq
        exact stride_of_readNext hc hw hafter
  · simp at h

/-- A source that does nothing is at its end, or it waits for input, or for room in the channel. -/
theorem step_none (h : source.step channel = none) (hr : source.status = .running) :
    source.isCancelled = false ∧
      (source.waiting = none ∧ newline ∉ source.unread ∧ source.inputEnd = none ∨
        ∃ record, source.waiting = some record ∧ channel.isClosed = false ∧
          channel.capacity ≤ channel.queue.length) := by
  simp only [step, hr] at h
  cases hc : source.isCancelled with
  | true => simp [hc] at h
  | false =>
    refine ⟨rfl, ?_⟩
    simp only [hc, Bool.false_eq_true, if_false] at h
    cases hw : source.waiting with
    | some record =>
      refine .inr ⟨record, rfl, ?_⟩
      simp only [hw, sendWaiting] at h
      cases hclosed : channel.isClosed with
      | true => simp [Channel.send_of_closed record hclosed] at h
      | false =>
        refine ⟨rfl, Nat.le_of_not_lt fun hroom => ?_⟩
        simp [Channel.send_of_room record hclosed hroom] at h
    | none =>
      simp only [hw, Option.map_eq_none_iff, readNext] at h
      cases hs : splitLine? source.unread with
      | some found => simp [hs] at h
      | none =>
        refine .inl ⟨rfl, splitLine?_none hs, ?_⟩
        cases he : source.inputEnd with
        | none => rfl
        | some inputEnd =>
          cases inputEnd with
          | complete => by_cases hu : source.unread.isEmpty <;> simp [hs, he, hu] at h
          | failed cause => simp [hs, he] at h

/-! ### The account -/

/-- The lines that a source looked at, and what became of them. What it has not looked at are the
other lines of its input, whatever may still arrive. -/
structure Accounted (input : Bytes) (read : List Bytes) (sent : List Record) (source : Source) :
    Prop where
  ahead : ∀ tail, source.inputEnd = none ∨ tail = [] →
    linesIn (input ++ tail) = read ++ linesIn (source.unread ++ tail)
  records : read.filterMap recordOf? = sent ++ source.waiting.toList
  lines : source.stats.lines = read.length
  sent : source.stats.sent = sent.length
  blank : source.stats.blank = read.countP isBlank
  malformed : source.stats.malformed = read.countP isMalformed

namespace Accounted

/-- The next line is looked at, with or without a newline. -/
theorem takeLine (h : Accounted input read sent source) (hw : source.waiting = none)
    {shown : Bytes} (hrecord : recordOf? shown = recordOf? line)
    (hblank : isBlank shown = isBlank line) (hmalformed : isMalformed shown = isMalformed line)
    (hline : ∀ tail, source.inputEnd = none ∨ tail = [] →
      linesIn (source.unread ++ tail) = line :: linesIn (rest ++ tail)) :
    Accounted input (read ++ [line]) sent
      (({ source with unread := rest } : Source).takeLine shown) := by
  obtain ⟨limiter, events, heq⟩ := takeLine_counts shown { source with unread := rest }
  have hblanks : [shown].countP isBlank = [line].countP isBlank := by simp [hblank]
  have hmalformeds : [shown].countP isMalformed = [line].countP isMalformed := by simp [hmalformed]
  rw [heq, hrecord, hblanks, hmalformeds]
  exact
    { ahead := by
        intro tail htail
        rw [h.ahead tail htail, hline tail htail, List.append_assoc, List.singleton_append]
      records := by
        rw [List.filterMap_append, h.records, hw, Option.or_none]
        cases hr : recordOf? line <;> simp [hr]
      lines := by
        rw [List.length_append]
        exact congrArg (· + 1) h.lines
      sent := h.sent
      blank := (congrArg (· + _) h.blank).trans List.countP_append.symm
      malformed := (congrArg (· + _) h.malformed).trans List.countP_append.symm }

theorem stride (h : Accounted input read sent source)
    (hs : Stride source channel next channel') :
    ∃ read', Accounted input read' (sent ++ channel'.queue.drop channel.queue.length) next := by
  cases hs with
  | cancel hc => exact ⟨read, by simpa using { h with }⟩
  | giveUp hc hw hclosed => exact ⟨read, by simpa using { h with }⟩
  | finish hc hw he hu => exact ⟨read, by simpa using { h with }⟩
  | fail hc hw he => exact ⟨read, by simpa using { h with }⟩
  | @send record hc hw hopen =>
    rw [List.drop_left]
    refine ⟨read, { h with records := ?_, sent := ?_ }⟩
    · rw [h.records, hw]
      simp
    · rw [List.length_append, ← h.sent]
      rfl
  | @line line rest hc hw hn hunread =>
    refine ⟨read ++ [line], ?_⟩
    rw [List.drop_length, List.append_nil]
    refine h.takeLine hw (recordOf?_ended line) (isBlank_ended line) (isMalformed_ended line) ?_
    intro tail _
    rw [hunread, List.append_assoc, List.cons_append, linesIn_append hn]
  | last hc hw he hn hne =>
    refine ⟨read ++ [source.unread], ?_⟩
    rw [List.drop_length, List.append_nil]
    refine h.takeLine hw rfl rfl rfl ?_
    intro tail htail
    obtain rfl : tail = [] := by simpa [he] using htail
    rw [List.append_nil, linesIn_last hn, if_neg hne]
    rfl

/-- All lines are accounted for, but for a record that waits. -/
theorem balance (h : Accounted input read sent source) :
    source.stats.lines
      = source.stats.sent + source.stats.blank + source.stats.malformed
        + (if source.waiting.isSome then 1 else 0) := by
  have hkinds := length_eq_kinds read
  have hrecords := congrArg List.length h.records
  have hwaiting : source.waiting.toList.length = if source.waiting.isSome then 1 else 0 := by
    cases source.waiting <;> rfl
  rw [List.length_append, hwaiting] at hrecords
  have hlines := h.lines
  have hsent := h.sent
  have hblank := h.blank
  have hmalformed := h.malformed
  omega

theorem sent_isPrefix (h : Accounted input read sent source) {tail : Bytes}
    (htail : source.inputEnd = none ∨ tail = []) :
    sent <+: (linesIn (input ++ tail)).filterMap recordOf? := by
  rw [h.ahead tail htail, List.filterMap_append, h.records, List.append_assoc]
  exact List.prefix_append _ _

end Accounted

/-! ### Runs -/

inductive Exit where
  | inputEnded
  | readFailed
  | channelClosed
  | cancelled
deriving DecidableEq, Repr

def exit (source : Source) : Exit :=
  if source.isCancelled then .cancelled
  else if source.waiting.isSome then .channelClosed
  else if source.inputEnd = some .complete then .inputEnded
  else .readFailed

inductive Turn where
  | work
  | feed (bytes : Bytes)
  | endInput (inputEnd : InputEnd)
  | cancel
  | elapse (nanos : Nat)
  /-- The other side of the channel takes a record. -/
  | take
  | close
  | drop
deriving DecidableEq, Repr

/-- A source with all of its input so far, the records that came to the channel, and its exit. -/
structure Observed where
  source : Source := {}
  channel : Channel
  input : Bytes := []
  sent : List Record := []
  exit : Option Exit := none

namespace Observed

def work (w : Observed) : Observed :=
  match w.source.step w.channel with
  | some (next, channel) =>
    { w with
      source := next
      channel
      sent := w.sent ++ channel.queue.drop w.channel.queue.length
      exit := if next.isRunning then none else some w.source.exit }
  | none => w

def after (w : Observed) : Turn → Observed
  | .work => w.work
  | .feed bytes =>
    if w.source.inputEnd = none then
      { w with source := w.source.feed bytes, input := w.input ++ bytes }
    else w
  | .endInput inputEnd =>
    if w.source.inputEnd = none then { w with source := w.source.endInput inputEnd } else w
  | .cancel => { w with source := w.source.cancel }
  | .elapse nanos => { w with source := w.source.elapse nanos }
  | .take => { w with channel := { w.channel with queue := w.channel.queue.drop 1 } }
  | .close => { w with channel := w.channel.close }
  | .drop => { w with channel := w.channel.drop }

def run (turns : List Turn) (w : Observed) : Observed := turns.foldl after w

structure Settled (w : Observed) : Prop where
  running : w.exit = none ↔ w.source.isRunning = true
  inputEnded : w.exit = some .inputEnded →
    w.source.inputEnd = some .complete ∧ w.source.unread = [] ∧ w.source.waiting = none
  channelClosed : w.exit = some .channelClosed → w.channel.isClosed = true
  cancelled : w.exit = some .cancelled → w.source.isCancelled = true
  readFailed : w.exit = some .readFailed → ∃ cause, w.source.inputEnd = some (.failed cause)
  failed : ∀ cause, w.source.status = .failed cause → w.exit = some .readFailed

variable {w : Observed}

theorem work_cases (w : Observed) :
    w.work = w ∨ ∃ next channel, w.source.status = .running ∧
      Stride w.source w.channel next channel ∧
      w.work =
        { w with
          source := next
          channel
          sent := w.sent ++ channel.queue.drop w.channel.queue.length
          exit := if next.isRunning then none else some w.source.exit } := by
  unfold work
  cases hstep : w.source.step w.channel with
  | none => exact .inl rfl
  | some after =>
    obtain ⟨hrunning, hstride⟩ := stride_of_step hstep
    exact .inr ⟨after.1, after.2, hrunning, hstride, rfl⟩

theorem Settled.work (h : w.Settled) : w.work.Settled := by
  rcases w.work_cases with hrest | ⟨next, channel, hrunning, hstride, hwork⟩
  · rwa [hrest]
  have hopen : w.exit = none := h.running.2 (by simp [isRunning, hrunning])
  rw [hwork]
  -- A source that goes on has no exit yet, and one that ends takes the exit that is open to it.
  have hgoes (hgo : next.isRunning = true) : Settled
      { w with
        source := next
        channel
        sent := w.sent ++ channel.queue.drop w.channel.queue.length
        exit := if next.isRunning then none else some w.source.exit } := by
    simp only [hgo, if_true]
    constructor
    case running => exact iff_of_true rfl hgo
    case failed =>
      intro cause hfailed
      simp [isRunning, show next.status = _ from hfailed] at hgo
    all_goals
      intro hexit
      cases hexit
  cases hstride with
  | send hc hw hroom => exact hgoes (by simp [isRunning, hrunning])
  | @line line rest hc hw hn hs =>
    obtain ⟨_, _, heq⟩ := takeLine_counts (Json.ended line) { w.source with unread := rest }
    exact hgoes (by rw [heq]; simp [isRunning, hrunning])
  | last hc hw he hn hne =>
    obtain ⟨_, _, heq⟩ := takeLine_counts w.source.unread { w.source with unread := [] }
    exact hgoes (by rw [heq]; simp [isRunning, hrunning])
  | cancel hc =>
    constructor <;> simp [isRunning, Source.exit, hc]
  | giveUp hc hw hclosed =>
    constructor <;> simp [isRunning, Source.exit, hc, hw, hclosed]
  | finish hc hw he hu =>
    constructor <;> simp [isRunning, Source.exit, hc, hw, he, hu]
  | @fail cause hc hw he =>
    constructor <;> simp [isRunning, Source.exit, hc, hw, he]

theorem Settled.after (h : w.Settled) (turn : Turn) : (w.after turn).Settled := by
  cases turn with
  | work => exact h.work
  | feed bytes =>
    rw [Observed.after]
    split
    · rename_i hopen
      refine { h with inputEnded := fun hexit => ?_ }
      simp [(h.inputEnded hexit).1] at hopen
    · exact h
  | endInput inputEnd =>
    rw [Observed.after]
    split
    · rename_i hopen
      refine { h with inputEnded := fun hexit => ?_, readFailed := fun hexit => ?_ }
      · simp [(h.inputEnded hexit).1] at hopen
      · obtain ⟨cause, hfailed⟩ := h.readFailed hexit
        simp [hfailed] at hopen
    · exact h
  | cancel => exact { h with cancelled := fun _ => rfl }
  | elapse nanos => exact { h with }
  | take => exact { h with }
  | close => exact { h with channelClosed := fun _ => rfl }
  | drop => exact { h with channelClosed := fun _ => rfl }

/-- The account of a source with its input and the records that it sent. -/
def Balanced (w : Observed) : Prop := ∃ read, Accounted w.input read w.sent w.source

theorem Balanced.after (h : w.Balanced) (turn : Turn) : (w.after turn).Balanced := by
  obtain ⟨read, h⟩ := h
  cases turn with
  | work =>
    rw [Observed.after]
    rcases w.work_cases with hrest | ⟨next, channel, -, hstride, hwork⟩
    · rw [hrest]
      exact ⟨read, h⟩
    · rw [hwork]
      exact h.stride hstride
  | feed bytes =>
    rw [Observed.after]
    split
    · rename_i hopen
      refine ⟨read, { h with ahead := fun tail _ => ?_ }⟩
      simpa [feed] using h.ahead (bytes ++ tail) (.inl hopen)
    · exact ⟨read, h⟩
  | endInput inputEnd =>
    rw [Observed.after]
    split
    · refine ⟨read, { h with ahead := ?_ }⟩
      rintro tail (hnone | rfl)
      · simp [Source.endInput] at hnone
      · exact h.ahead [] (.inr rfl)
    · exact ⟨read, h⟩
  | _ => exact ⟨read, { h with }⟩

theorem run_keeps (channel : Channel) (turns : List Turn) :
    let now := ({ channel } : Observed).run turns
    now.Settled ∧ now.Balanced := by
  have hsettled : ({ channel } : Observed).Settled :=
    ⟨iff_of_true rfl rfl, nofun, nofun, nofun, nofun, nofun⟩
  have hbalanced : ({ channel } : Observed).Balanced :=
    ⟨[], fun _ _ => rfl, rfl, rfl, rfl, rfl, rfl⟩
  exact List.foldlRecOn
    (motive := fun w => Settled w ∧ Balanced w) turns after ⟨hsettled, hbalanced⟩
    fun w ⟨hsettled, hbalanced⟩ turn _ => ⟨hsettled.after turn, hbalanced.after turn⟩

end Observed

/-- The account of a source at every moment, whatever the pieces in which its input arrived. The
records sent are the first of those in the lines of the input, in their order, and every line that
was looked at is counted as one of its kind, but for a record that waits, as when the channel was
closed or the source was told to stop. Once the input has ended all its lines are accounted for. The
source only rests at its end, or while there is no line to look at or no room in the channel. -/
theorem run_accounts_for_lines (channel : Channel) (turns : List Turn) :
    let now := ({ channel } : Observed).run turns
    let stats := now.source.stats
    (∀ tail, now.source.inputEnd = none ∨ tail = [] →
        now.sent <+: (linesIn (now.input ++ tail)).filterMap recordOf?) ∧
      stats.lines
        = stats.sent + stats.blank + stats.malformed
          + (if now.source.waiting.isSome then 1 else 0) ∧
      stats.sent = now.sent.length ∧
      (now.exit ≠ some .readFailed → now.source.result = .ok stats) ∧
      (now.exit = some .inputEnded →
        stats.lines
            = now.input.count newline
              + (if now.input.rtakeWhile (· ≠ newline) = [] then 0 else 1) ∧
          stats.lines = stats.sent + stats.blank + stats.malformed ∧
          stats.blank = (linesIn now.input).countP isBlank ∧
          stats.malformed = (linesIn now.input).countP isMalformed ∧
          now.sent = (linesIn now.input).filterMap recordOf?) ∧
      (now.exit = none ↔ now.source.isRunning = true) ∧
      (now.exit = some .channelClosed → now.channel.isClosed = true) ∧
      (now.exit = some .cancelled → now.source.isCancelled = true) ∧
      (now.exit = some .readFailed → ∃ cause, now.source.inputEnd = some (.failed cause)) ∧
      (now.source.isRunning = true → now.source.step now.channel = none →
        now.source.isCancelled = false ∧
          (now.source.waiting = none ∧ newline ∉ now.source.unread ∧ now.source.inputEnd = none ∨
            ∃ record, now.source.waiting = some record ∧ now.channel.isClosed = false ∧
              now.channel.capacity ≤ now.channel.queue.length)) := by
  intro now stats
  obtain ⟨hsettled, read, hread⟩ := Observed.run_keeps channel turns
  refine ⟨fun tail htail => hread.sent_isPrefix htail, hread.balance, hread.sent, fun hread => ?_,
    fun hexit => ?_, hsettled.running, hsettled.channelClosed, hsettled.cancelled,
    hsettled.readFailed, ?_⟩
  · unfold result
    split
    · rename_i cause hstatus
      exact absurd (hsettled.failed cause hstatus) hread
    · rfl
  · obtain ⟨-, hunread, hwaiting⟩ := hsettled.inputEnded hexit
    have hlines : linesIn now.input = read := by
      have hahead := hread.ahead [] (.inr rfl)
      rw [hunread, List.append_nil] at hahead
      exact hahead.trans (List.append_nil read)
    have hbalance := hread.balance
    have hrecords := hread.records
    rw [hwaiting] at hbalance hrecords
    refine ⟨?_, hbalance, ?_, ?_, ?_⟩
    · rw [← length_linesIn, hlines]
      exact hread.lines
    · rw [hlines]
      exact hread.blank
    · rw [hlines]
      exact hread.malformed
    · rw [hlines, hrecords, Option.toList_none, List.append_nil]
  · intro hrunning hnone
    exact step_none hnone (by simpa [isRunning] using hrunning)

/-- Blank and malformed lines around two records. One line arrives in two pieces, and the last one
has no newline. -/
def mixedTurns : List Turn :=
  [ .feed (Utf8.encode "\n \r\n\x7bnot json\x7d\n\x7b\"event\":"), .work, .work, .work, .work,
    .feed (Utf8.encode "\"response\"\x7d\r\n" ++ [0xFF, newline] ++ Utf8.encode "\x7b\x7d"), .work,
    .work, .work, .work, .endInput .complete, .work, .take, .work, .work ]

def mixedEnd : Observed := ({ channel := { capacity := 1 } } : Observed).run mixedTurns

/-- The channel goes away while the first record waits. -/
def cutTurns : List Turn := mixedTurns.take 7 ++ [.drop, .work]

def cutEnd : Observed := ({ channel := { capacity := 1 } } : Observed).run cutTurns

theorem run_accounts_for_lines_mixed :
    (mixedEnd.exit = some .inputEnded ∧
      mixedEnd.source.stats = { lines := 6, sent := 2, blank := 2, malformed := 2 } ∧
      mixedEnd.sent = (linesIn mixedEnd.input).filterMap recordOf?) ∧
    cutEnd.exit = some .channelClosed ∧
      cutEnd.source.stats = { lines := 4, sent := 0, blank := 2, malformed := 1 } ∧
      cutEnd.source.result = .ok cutEnd.source.stats ∧
      cutEnd.sent <+: (linesIn (cutEnd.input ++ [newline])).filterMap recordOf? := by
  have hmixed : mixedEnd.exit = some .inputEnded := by decide +kernel
  have hcut : cutEnd.exit = some .channelClosed := by decide +kernel
  have hopen : cutEnd.source.inputEnd = none := by decide +kernel
  obtain ⟨-, -, -, -, hended, -⟩ := run_accounts_for_lines { capacity := 1 } mixedTurns
  obtain ⟨hfirst, -, -, hresult, -⟩ := run_accounts_for_lines { capacity := 1 } cutTurns
  obtain ⟨-, -, -, -, hsent⟩ := hended hmixed
  have hfinished := hresult (show cutEnd.exit ≠ _ by simp [hcut])
  exact ⟨⟨hmixed, by decide +kernel, hsent⟩, hcut, by decide +kernel, hfinished,
    hfirst [newline] (.inl hopen)⟩

end Source

end RequestLog
