import RequestLog.Proofs.Calls
import RequestLog.Proofs.Loop
import RequestLog.Proofs.Rendering
import RequestLog.Program.Basic

/-! Delivery. The report of a pipeline accounts for every record that was sent to it: what its
outputs took is the beginning of the lines of these records, and the report tells how many lines are
missing. -/

namespace RequestLog

theorem Session.nonEmpty_eq_self {lines : List Bytes} (h : ∀ line ∈ lines, line ≠ []) :
    nonEmpty lines = lines := by
  simpa [nonEmpty] using h

theorem Program.verdict_ok_iff (report : StopReport) :
    verdict report = .ok () ↔ report.closedCleanly = true ∧ report.undelivered = 0 := by
  unfold verdict
  rcases report.closedCleanly with _ | _ <;> rcases report.undelivered with _ | _ <;> simp

namespace RunLoop

variable {σ : Type} {o : Outputs σ} {v : View σ}

/-- The account of a sink that is open. -/
def Sound (v : View σ) (accepted : List Bytes) (s : Session σ) : Prop :=
  s.Inv v accepted [] ∧ s.sink.slot ≠ .closed

theorem sound_keeps (hc : WriteContract o v) : Keeps o (Sound v) where
  write_ok := by
    rintro accepted s line t ⟨hi, hopen⟩ h
    have hslot := Session.write_closed_iff o line s
    rw [h] at hslot
    exact ⟨(hi.write_ok hc h).1, mt hslot.1 hopen⟩
  write_error := by
    rintro accepted s line rejected t ⟨hi, hopen⟩ h
    have hslot := Session.write_closed_iff o line s
    rw [h] at hslot
    obtain ⟨hline, hi', -⟩ := hi.write_error hc h
    exact ⟨hline, hi', mt hslot.1 hopen⟩
  flush := by
    rintro accepted s ⟨hi, hopen⟩
    exact ⟨(hi.flush hc).1, mt (Session.flush_closed_iff o s).1 hopen⟩
  rotate := by
    rintro accepted s ⟨hi, hopen⟩
    exact ⟨(hi.rotate hc).1, mt (Session.rotate_closed_iff o s).1 hopen⟩
  aside := by
    rintro accepted s events now ⟨hi, hopen⟩
    exact ⟨hi.same { Session.Same.refl hi.valid with } rfl, hopen⟩

/-- A report is only made at the end, and the end is accounted for. -/
theorem Accounted.of_report {P : List Bytes → Session σ → Prop} {filter : KindFilter}
    {renderer : Renderer} {w : Observed σ} (h : Accounted o P filter renderer w)
    {report : StopReport} (hr : w.loop.report = .ok report) :
    ∃ accepted lost s, Ended o P filter renderer accepted lost s report w := by
  unfold RunLoop.report at hr
  cases h with
  | ended h =>
    rw [h.phase] at hr
    obtain rfl := Except.ok.inj hr
    exact ⟨_, _, _, h⟩
  | crashed h _ => simp [h] at hr
  | running h =>
    have hgo := h.goesOn
    unfold isFinished at hgo
    split at hr
    · rename_i heq
      simp [heq] at hgo
    · simp at hr

/-! ### At the end -/

section

variable {filter : KindFilter} {renderer : Renderer} {accepted lost : List Bytes} {s : Session σ}
  {report : StopReport} {w : Observed σ}

/-- The lines that were lost come after those that the sink gave up, and these after those that it
wrote. -/
theorem Ended.progress (hc : WriteContract o v)
    (h : Ended o (Sound v) filter renderer accepted lost s report w) :
    linesOf filter renderer w.sent = accepted ++ lost ∧
      ∃ dropped, dropped.length = report.sink.linesDropped ∧ (∀ line ∈ dropped, line ≠ []) ∧
        Sink.Pending.Progress (Session.nonEmpty accepted) (v.ledger w.loop.session.outputs).bytes
          report.sink.linesWritten dropped := by
  obtain ⟨hi, -⟩ := h.session
  obtain ⟨hi', -⟩ := hi.close hc
  have hempty := hi'.closed (Session.close_slot o s)
  have hprogress := hi'.progress
  have hlines := hi'.lines_ne_nil
  rw [hempty, List.nil_append] at hprogress hlines
  rw [← h.sink, ← h.outputs] at hprogress
  have hdropped := hi'.linesDropped
  rw [← h.sink] at hdropped
  exact ⟨by simpa using h.tally.lines, _, hdropped.symm, hlines, hprogress⟩

theorem Ended.bytes_prefix (hc : WriteContract o v)
    (h : Ended o (Sound v) filter renderer accepted lost s report w) :
    (v.ledger w.loop.session.outputs).bytes <+: (linesOf filter renderer w.sent).flatten := by
  obtain ⟨hlines, dropped, -, -, hprogress⟩ := h.progress hc
  have htaken := hprogress.append_flatten
  rw [Session.flatten_nonEmpty] at htaken
  rw [hlines, List.flatten_append, ← htaken]
  exact (List.prefix_append _ _).trans (List.prefix_append _ _)

theorem Ended.counts (h : Ended o (Sound v) filter renderer accepted lost s report w) :
    report.counters.received = w.sent.length ∧
      report.counters.rendered = (linesOf filter renderer w.sent).length ∧
      report.counters.received = report.counters.skipped + report.counters.rendered ∧
      report.sink.linesDropped ≤ report.undelivered ∧
      report.counters.rendered
        = report.counters.written + (report.undelivered - report.sink.linesDropped) := by
  have hundelivered := h.undelivered
  have hlines : report.counters.rendered = accepted.length + lost.length := by
    rw [h.tally.rendered, h.tally.lines]
    simp
  have hwritten := h.tally.written
  exact ⟨h.tally.received, h.tally.rendered, h.tally.skipped, by omega, by omega⟩

/-- If no line is empty, each is either written in full, or counted as undelivered. -/
theorem Ended.written (hc : WriteContract o v)
    (h : Ended o (Sound v) filter renderer accepted lost s report w)
    (hne : ∀ line ∈ linesOf filter renderer w.sent, line ≠ []) :
    report.counters.rendered = report.sink.linesWritten + report.undelivered ∧
      ∀ i < (linesOf filter renderer w.sent).length,
        ((linesOf filter renderer w.sent).take (i + 1)).flatten
            <+: (v.ledger w.loop.session.outputs).bytes ↔ i < report.sink.linesWritten := by
  obtain ⟨hlines, dropped, hdropped, hleft, hprogress⟩ := h.progress hc
  have hrendered := h.tally.rendered
  have hundelivered := h.undelivered
  rw [hlines] at hne hrendered ⊢
  rw [Session.nonEmpty_eq_self fun line hmem => hne line (List.mem_append_left _ hmem)] at hprogress
  have hfull := hprogress.append lost
  have hlength := hfull.length_eq
  simp only [List.length_append] at hlength hrendered
  refine ⟨by omega, fun i hi => hfull.prefix_iff (fun line hmem => ?_) hi⟩
  rcases List.mem_append.1 hmem with hmem | hmem
  · exact hleft line hmem
  · exact hne line (List.mem_append_right _ hmem)

theorem Ended.bytes_eq (hc : WriteContract o v)
    (h : Ended o (Sound v) filter renderer accepted lost s report w)
    (hzero : report.undelivered = 0) :
    (v.ledger w.loop.session.outputs).bytes = (linesOf filter renderer w.sent).flatten := by
  obtain ⟨hlines, dropped, hdropped, -, hprogress⟩ := h.progress hc
  have hundelivered := h.undelivered
  obtain rfl : lost = [] := List.length_eq_zero_iff.1 (by omega)
  obtain rfl : dropped = [] := List.length_eq_zero_iff.1 (by omega)
  have htaken := hprogress.append_flatten
  rw [Session.flatten_nonEmpty] at htaken
  simpa [hlines] using htaken

end

/-! ### Every run -/

/-- The lines of records, as the settings of a pipeline have them. -/
def linesFor (settings : Settings) (records : List Record) : List Bytes :=
  linesOf (KindFilter.ofList settings.delivery.eventKinds)
    { pattern := Pattern.compile settings.delivery.pattern
      separator := settings.delivery.separator } records

theorem linesFor_ne_nil {settings : Settings}
    (h : settings.delivery.pattern ≠ "" ∨ settings.delivery.separator ≠ "")
    (records : List Record) : ∀ line ∈ linesFor settings records, line ≠ [] := by
  intro line hmem
  obtain ⟨record, -, rfl⟩ := List.mem_map.1 hmem
  exact Utf8.encode_ne_nil (Renderer.render_ne_empty h record)

/-- Whatever happens around a pipeline that was opened, and whatever its outputs do, a report
accounts for all records that were sent. Lines that are missing are the last ones. -/
theorem report_accounts (hc : WriteContract o v) {pipeline : Pipeline σ}
    (hs : pipeline.session.Opened o v) (trigger : Option Hub) (channel : Channel) (now : Nat)
    (happenings : List Happening) {report : StopReport} :
    let start : Observed σ := { loop := start pipeline trigger channel now, sent := channel.queue }
    let final := start.run o happenings
    let lines := linesFor pipeline.settings final.sent
    let bytes := (v.ledger final.loop.session.outputs).bytes
    final.loop.report = .ok report →
      bytes <+: lines.flatten ∧
      (report.counters.received = final.sent.length ∧ report.counters.rendered = lines.length ∧
        report.counters.received = report.counters.skipped + report.counters.rendered ∧
        report.sink.linesDropped ≤ report.undelivered ∧
        report.counters.rendered
          = report.counters.written + (report.undelivered - report.sink.linesDropped)) ∧
      (pipeline.settings.delivery.pattern ≠ "" ∨ pipeline.settings.delivery.separator ≠ "" →
        report.counters.rendered = report.sink.linesWritten + report.undelivered ∧
        ∀ i < lines.length, (lines.take (i + 1)).flatten <+: bytes ↔ i < report.sink.linesWritten) ∧
      (Program.verdict report = .ok () → bytes = lines.flatten) := by
  intro start final lines bytes hr
  have hstart := start_running (sound_keeps hc) (hs.inv hc) trigger channel now
  obtain ⟨accepted, lost, s, hend⟩ :=
    ((Accounted.running hstart).run (sound_keeps hc) happenings).of_report hr
  refine ⟨hend.bytes_prefix hc, hend.counts, fun hsettings => ?_, fun hok => ?_⟩
  · exact hend.written hc (linesFor_ne_nil hsettings final.sent)
  · exact hend.bytes_eq hc ((Program.verdict_ok_iff report).1 hok).2

/-- A pipeline on devices that fail one after the other. -/
def unluckyPipeline : Pipeline World where
  settings := { delivery := { pattern := "abc", bufferSize := 4 } }
  session := Session.onUnreliable

/-- Of three lines the last is rejected, and the second is only begun. -/
def unluckyHappenings : List Happening :=
  let record : Record := { kind := Record.responseKind }
  [ .send record, .send { kind := "request" }, .work, .work, .work, .work, .send record,
    .send record, .work, .work, .work, .work, .rotate, .cancel, .work, .work, .work, .work ]

def unluckyRun : Observed World :=
  ({ loop := .start unluckyPipeline none { capacity := 2 } 0, sent := [] } : Observed World).run
    World.deviceOutputs unluckyHappenings

def unluckyReport : StopReport where
  counters := { received := 4, skipped := 1, rendered := 3, written := 2, held := 1 }
  sink :=
    { linesWritten := 1, bytesWritten := 5, linesDropped := 1, writeErrors := 1, flushCount := 1,
      opens := 1, failedRotations := 1 }
  undelivered := 2
  closedCleanly := true

theorem report_accounts_unlucky :
    unluckyRun.loop.report = .ok unluckyReport ∧
      unluckyRun.loop.session.outputs.deviceLedger = [(0, Utf8.encode "abc\na")] ∧
      unluckyReport.counters.rendered
        = unluckyReport.sink.linesWritten + unluckyReport.undelivered := by
  have hreport : unluckyRun.loop.report = .ok unluckyReport := by cbv
  obtain ⟨-, -, hwritten, -⟩ := report_accounts World.deviceOutputs_contract
    Session.onUnreliable_opened none { capacity := 2 } 0 unluckyHappenings hreport
  exact ⟨hreport, by cbv, (hwritten (.inl (by decide))).1⟩

end RunLoop

end RequestLog
