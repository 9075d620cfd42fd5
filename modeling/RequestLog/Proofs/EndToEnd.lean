import RequestLog.Proofs.Delivery
import RequestLog.Proofs.FileSink
import RequestLog.Proofs.Lines
import RequestLog.Proofs.Stopping

/-! From the input to the file. A source feeds a pipeline whose output is a file. Whatever happens
on the way, at the end the file holds the lines of all records in the input whose kinds are
logged. -/

namespace RequestLog

open World (fileOutputs)

namespace KindFilter

theorem mem_dropRepeats (kind : String) (kinds : List String) :
    kind ∈ dropRepeats kinds ↔ kind ∈ kinds := by
  fun_induction dropRepeats kinds with
  | case1 => rfl
  | case2 => rfl
  | case3 a rest ih => simp [ih]
  | case4 a b rest hne ih => simp [ih]

theorem accepts_ofList (kinds : List String) (record : Record) :
    (ofList kinds).accepts record = decide (record.kind ∈ kinds) := by
  have hmem := mem_dropRepeats record.kind (kinds.mergeSort before)
  rw [List.mem_mergeSort] at hmem
  simp [accepts, ofList, hmem]

end KindFilter

theorem Channel.send_sent {channel channel' : Channel} {record : Record}
    (h : channel.send record = (.sent, channel')) :
    channel' = { channel with queue := channel.queue ++ [record] } := by
  unfold Channel.send at h
  split at h
  · simp at h
  · split at h
    · simp at h
    · exact (Prod.mk.inj h).2.symm

/-- What may happen to a pipeline apart from its source. It is told to stop only when the source has
come to its end. -/
def RunLoop.Happening.isAllowed (reading : Bool) : RunLoop.Happening → Bool
  | .send _ => false
  | .closeSource => !reading
  | .cancel => !reading
  | _ => true

namespace RunLoop

section

variable {σ : Type} {o : Outputs σ} {P : List Bytes → Session σ → Prop} {filter : KindFilter}
  {renderer : Renderer} {loop : RunLoop σ} {sent : List Record} {happening : Happening}

theorem Accounted.happen (hk : Keeps o P) {reading : Bool}
    (h : Accounted o P filter renderer { loop, sent }) (ha : happening.isAllowed reading = true) :
    Accounted o P filter renderer
      { loop := (({ loop, sent := [] } : Observed σ).after o happening).loop, sent } := by
  have hsame : ({ loop, sent } : Observed σ).after o happening
      = { loop := (({ loop, sent := [] } : Observed σ).after o happening).loop, sent } := by
    cases happening with
    | send record => simp [Happening.isAllowed] at ha
    | _ => rfl
  exact hsame ▸ h.after hk happening

/-- What is allowed while there is more to read does not stop a loop whose sink always accepts. -/
theorem Unstopped.happen (hrej : ¬ Rejects o P) (hcrash : ¬ Crashes o P) (hu : loop.Unstopped)
    (h : Accounted o P filter renderer { loop, sent }) (ha : happening.isAllowed true = true) :
    (({ loop, sent := [] } : Observed σ).after o happening).loop.Unstopped := by
  cases happening with
  | work =>
    unfold Observed.after
    cases hn : loop.step o with
    | none => exact hu
    | some next =>
      cases h with
      | running h => exact Unstopped.work hrej hcrash hu h hn
      | ended h => simpa [show loop.phase = _ from h.phase] using hu.phase
      | crashed _ hcrashes => exact absurd hcrashes hcrash
  | send record => simp [Happening.isAllowed] at ha
  | closeSource => simp [Happening.isAllowed] at ha
  | cancel => simp [Happening.isAllowed] at ha
  | advance nanos => exact { hu with }
  | elapse nanos => exact { hu with }
  | trigger change => exact { hu with }
  | flush => exact { hu with }
  | rotate => exact { hu with }

end

end RunLoop

structure Feeding where
  source : Source := {}
  loop : RunLoop World
  /-- The input that has arrived. -/
  input : Bytes := []

namespace Feeding

open RunLoop (Happening Observed Accounted Keeps Unstopped)

inductive Turn where
  /-- More input arrives, unless the input has ended. -/
  | feed (bytes : Bytes)
  | endInput
  | read
  | elapse (nanos : Nat)
  | happen (happening : Happening)

def after (feeding : Feeding) : Turn → Feeding
  | .feed bytes =>
    if feeding.source.inputEnd.isSome then feeding
    else { feeding with source := feeding.source.feed bytes, input := feeding.input ++ bytes }
  | .endInput => { feeding with source := feeding.source.endInput .complete }
  | .read =>
    match feeding.source.step feeding.loop.channel with
    | some (source, channel) => { feeding with source, loop := { feeding.loop with channel } }
    | none => feeding
  | .elapse nanos => { feeding with source := feeding.source.elapse nanos }
  | .happen happening =>
    if happening.isAllowed feeding.source.isRunning then
      let observed : Observed World := { loop := feeding.loop, sent := [] }
      { feeding with loop := (observed.after fileOutputs happening).loop }
    else feeding

def run (turns : List Turn) (feeding : Feeding) : Feeding := turns.foldl after feeding

/-! ### The flow of records -/

section

variable {path : String} {number : Nat} {initial : Bytes} {filter : KindFilter}
  {renderer : Renderer} {sent : List Record} {feeding : Feeding}

/-- Every record of the input that was read is accounted for, and while there is more to read the
pipeline goes on. -/
structure Flows (path : String) (number : Nat) (initial : Bytes) (filter : KindFilter)
    (renderer : Renderer) (sent : List Record) (feeding : Feeding) : Prop where
  reads : feeding.source.Reads feeding.input sent
  account : Accounted fileOutputs (Session.OnFile path number initial) filter renderer
    { loop := feeding.loop, sent }
  unstopped : feeding.source.isRunning = true → feeding.loop.Unstopped

theorem Flows.start {pipeline : Pipeline World}
    (hs : pipeline.session.OnFile path number initial []) (trigger : Option Hub)
    (capacity now : Nat) :
    Flows path number initial (KindFilter.ofList pipeline.settings.delivery.eventKinds)
      { pattern := Pattern.compile pipeline.settings.delivery.pattern
        separator := pipeline.settings.delivery.separator }
      [] { loop := .start pipeline trigger { capacity } now } where
  reads := Source.reads_start
  account := .running (RunLoop.start_running RunLoop.onFile_keeps hs trigger { capacity } now)
  unstopped := fun _ => ⟨rfl, rfl, rfl, .inl rfl⟩

/-- A source that works leaves the channel as it is, or sends a record. -/
theorem Flows.read (h : Flows path number initial filter renderer sent feeding) :
    ∃ sent, Flows path number initial filter renderer sent (feeding.after .read) := by
  unfold after
  cases hstep : feeding.source.step feeding.loop.channel with
  | none => exact ⟨sent, h⟩
  | some result =>
    obtain ⟨source, channel⟩ := result
    have hrunning : feeding.source.isRunning = true := by
      unfold Source.step at hstep
      split at hstep
      · rename_i hrunning
        simp [Source.isRunning, hrunning]
      · simp at hstep
    have hu := h.unstopped hrunning
    rcases h.reads.step hu.receiving hstep with ⟨rfl, hreads⟩ | ⟨record, hsend, hstatus, hreads⟩
    · exact ⟨sent, { h with reads := hreads, unstopped := fun _ => { hu with } }⟩
    · refine ⟨sent ++ [record], hreads, ?_, fun _ => ?_⟩
      · have haccount := h.account.send record
        simpa [Observed.after, RunLoop.send, hsend] using haccount
      · obtain rfl := Channel.send_sent hsend
        exact { hu with }

/-- What happens to the pipeline does not touch the source, nor what it sent. -/
theorem Flows.happen (h : Flows path number initial filter renderer sent feeding)
    (happening : Happening) :
    Flows path number initial filter renderer sent (feeding.after (.happen happening)) := by
  simp only [Feeding.after]
  split
  · rename_i hallowed
    refine ⟨h.reads, ?_, ?_⟩
    · exact h.account.happen RunLoop.onFile_keeps hallowed
    · intro hrunning
      rw [hrunning] at hallowed
      exact (h.unstopped hrunning).happen RunLoop.onFile_not_rejects RunLoop.onFile_not_crashes
        h.account hallowed
  · exact h

theorem Flows.after (h : Flows path number initial filter renderer sent feeding) (turn : Turn) :
    ∃ sent, Flows path number initial filter renderer sent (feeding.after turn) := by
  cases turn with
  | feed bytes =>
    simp only [Feeding.after]
    split
    · exact ⟨sent, h⟩
    · rename_i hopen
      exact ⟨sent, { h with reads := h.reads.feed (by simpa using hopen) bytes }⟩
  | endInput => exact ⟨sent, { h with reads := h.reads.endInput }⟩
  | read => exact h.read
  | elapse nanos => exact ⟨sent, { h with reads := { h.reads with } }⟩
  | happen happening => exact ⟨sent, h.happen happening⟩

theorem Flows.run (turns : List Turn)
    (h : Flows path number initial filter renderer sent feeding) :
    ∃ sent, Flows path number initial filter renderer sent (feeding.run turns) := by
  induction turns generalizing sent feeding with
  | nil => exact ⟨sent, h⟩
  | cons turn turns ih =>
    obtain ⟨sent, h⟩ := h.after turn
    exact ih h

/-- A pipeline whose source has come to its end can be stopped, and then the file holds the lines of
all records in the input. -/
theorem Flows.stop (h : Flows path number initial filter renderer sent feeding)
    (hend : feeding.source.isRunning = false) :
    ∃ report, (feeding.loop.stop fileOutputs).1 = .ok report ∧ report.undelivered = 0 ∧
      report.closedCleanly = true ∧
      (feeding.loop.stop fileOutputs).2.session.outputs.files.content number
        = initial ++
          (RunLoop.linesOf filter renderer (Source.recordsIn feeding.input)).flatten := by
  have hphase : feeding.loop.phase ≠ .crashed := by
    intro hcrashed
    cases h.account with
    | running h => simpa [RunLoop.isFinished, hcrashed] using h.goesOn
    | ended h => simpa [hcrashed] using h.phase
    | crashed _ hcrash => exact RunLoop.onFile_not_crashes hcrash
  obtain ⟨report, hreport⟩ := RunLoop.stop_reports fileOutputs hphase
  have hstopped := h.account.stop RunLoop.onFile_keeps
  obtain ⟨accepted, lost, s, hended⟩ := hstopped.of_report hreport
  obtain rfl : lost = [] := by
    by_contra hlost
    exact RunLoop.onFile_not_rejects (hended.lost_rejected hlost)
  obtain ⟨hclose, hdropped, hcontent⟩ := hended.session.close
  have hlines := hended.tally.lines
  refine ⟨report, hreport, ?_, hended.closedCleanly.2 hclose, ?_⟩
  · rw [hended.undelivered, hended.sink, hdropped]
    rfl
  · have hsent := h.reads.sent_eq hend
    rw [hended.outputs, hcontent, ← hsent, hlines]
    simp

end

/-! ### The end -/

/-- A path that leads to a file opens with every valid settings. -/
theorem openAt_file {settings : Settings} {path : String} {world : World} {number : Nat}
    {files : Files} (hfiles : world.files.Sound) (hvalid : settings.validate = .ok ())
    (hopen : world.files.openAppend path = (.ok (.file number), files)) :
    ∃ pipeline, (Pipeline.openAt fileOutputs settings path world).1 = .ok pipeline ∧
      pipeline.settings = settings ∧
      pipeline.session.OnFile path number (world.files.content number) [] := by
  have hempty : (Pipeline.sinkOf settings).pending.lines = [] := rfl
  obtain ⟨session, outputs, heq, hs⟩ := Session.openAt_file hfiles hopen hempty rfl
  refine ⟨{ settings, session }, ?_, rfl, hs⟩
  unfold Pipeline.openAt
  rw [hvalid, heq]

/-- However reading, writing, flushes and rotations follow each other, a pipeline whose input has
come to its end can be stopped. Then the file holds what it held at first, and after that the lines
of all records in the input whose kinds are logged, in their order. Nothing is lost, whatever still
waits in the channel or in the buffer. -/
theorem run_delivers {settings : Settings} {path : String} {world : World} {number : Nat}
    {files : Files} {channel : Channel} (hfiles : world.files.Sound)
    (hvalid : settings.validate = .ok ())
    (hopen : world.files.openAppend path = (.ok (.file number), files))
    (hchannel : Channel.create? settings.delivery.queueSize = some channel) :
    ∃ pipeline, (Pipeline.openAt fileOutputs settings path world).1 = .ok pipeline ∧
      ∀ (trigger : Option Hub) (now : Nat) (turns : List Turn),
        let final := ({ loop := .start pipeline trigger channel now } : Feeding).run turns
        let stopped := final.loop.stop fileOutputs
        let renderer : Renderer :=
          { pattern := Pattern.compile settings.delivery.pattern
            separator := settings.delivery.separator }
        final.source.isRunning = false →
          ∃ report, stopped.1 = .ok report ∧ report.undelivered = 0 ∧
            Program.verdict report = .ok () ∧
            stopped.2.session.outputs.files.content number = world.files.content number ++
              ((Source.recordsIn final.input).filter
                (·.kind ∈ settings.delivery.eventKinds)).flatMap
                fun record => Utf8.encode (renderer.render record) := by
  obtain ⟨pipeline, hpipeline, rfl, hs⟩ := openAt_file hfiles hvalid hopen
  obtain rfl : { capacity := pipeline.settings.delivery.queueSize } = channel := by
    unfold Channel.create? at hchannel
    split at hchannel
    · exact Option.some.inj hchannel
    · simp at hchannel
  refine ⟨_, hpipeline, fun trigger now turns => ?_⟩
  intro final stopped renderer hend
  obtain ⟨sent, hflows⟩ :=
    (Flows.start hs trigger pipeline.settings.delivery.queueSize now).run turns
  obtain ⟨report, hreport, hzero, hclean, hcontent⟩ := hflows.stop hend
  refine ⟨report, hreport, hzero, (Program.verdict_ok_iff report).2 ⟨hclean, hzero⟩, ?_⟩
  have hkinds : (KindFilter.ofList pipeline.settings.delivery.eventKinds).accepts
      = fun record => decide (record.kind ∈ pipeline.settings.delivery.eventKinds) :=
    funext (KindFilter.accepts_ofList _)
  rw [hcontent, RunLoop.linesOf, hkinds]
  rfl

def smallSettings : Settings :=
  { delivery := { pattern := "%s", eventKinds := ["r"], queueSize := 1, bufferSize := 1 } }

def smallWorld : World :=
  { files := { nodes := [(["log"], .file 0)], contents := [[Utf8.encode "old\n"]] } }

def smallPipeline : Pipeline World where
  settings := smallSettings
  session :=
    .start { Pipeline.sinkOf smallSettings with path := some "log" } 0
      { smallWorld with handles := [{ backing := .file 0 }] }

/-- Two records that are logged, a blank line, and one record that is not. The input comes in two
pieces, and the last record is still in the channel at the end. -/
def smallTurns : List Turn :=
  [ .feed (Utf8.encode "\x7b\"event\":\"r\"\x7d\n \n\x7b"), .read, .read, .read, .happen .work,
    .happen .work, .happen .work, .feed (Utf8.encode "\x7d\n\x7b\"event\":\"r\"\x7d"), .endInput,
    .read, .read, .happen .work, .happen .rotate, .read, .read, .read ]

def smallEnd : Feeding :=
  ({ loop := .start smallPipeline none { capacity := 1 } 0 } : Feeding).run smallTurns

theorem run_delivers_small :
    smallSettings.validate = .ok () ∧ smallEnd.source.isRunning = false ∧
      smallEnd.loop.channel.queue.length = 1 ∧
      (smallEnd.loop.stop fileOutputs).2.session.outputs.files.content 0
        = Utf8.encode "old\n-\n-\n" := by
  have htree : Files.ofEntries [] [("log", Utf8.encode "old\n")] = .ok smallWorld.files := by cbv
  have hvalid : smallSettings.validate = .ok () := by cbv
  have hopen : smallWorld.files.openAppend "log" = (.ok (.file 0), smallWorld.files) := by cbv
  have hchannel : Channel.create? smallSettings.delivery.queueSize = some { capacity := 1 } := rfl
  have hopened : (Pipeline.openAt fileOutputs smallSettings "log" smallWorld).1
      = .ok smallPipeline := by cbv
  have hend : smallEnd.source.isRunning = false := by cbv
  obtain ⟨pipeline, hpipeline, hdelivers⟩ :=
    run_delivers (Files.ofEntries_sound htree) hvalid hopen hchannel
  obtain rfl : smallPipeline = pipeline := Except.ok.inj (hopened.symm.trans hpipeline)
  obtain ⟨report, -, -, -, hcontent⟩ := hdelivers none 0 smallTurns hend
  refine ⟨hvalid, hend, by cbv, hcontent.trans ?_⟩
  cbv

end Feeding

end RequestLog
