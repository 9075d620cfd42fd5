import RequestLog.Proofs.Delivery
import RequestLog.Proofs.Scenes

/-! Holding back. A loop has at most one line at hand. Until the sink accepts it or the loop ends,
it is offered to the sink again and again, and no further record is taken from the channel. -/

namespace RequestLog

namespace RunLoop

variable {σ : Type} {o : Outputs σ} {filter : KindFilter} {renderer : Renderer}

/-! ### Deeds -/

namespace Deed

def received (deeds : List Deed) : List Record :=
  deeds.filterMap fun
    | .receive record => some record
    | .offer _ _ => none

def accepted (deeds : List Deed) : List Bytes :=
  deeds.filterMap fun
    | .offer line none => some line
    | _ => none

def refusals (deeds : List Deed) : List SinkError :=
  deeds.filterMap fun
    | .offer _ (some error) => some error
    | _ => none

variable (deeds more : List Deed)

@[simp] theorem received_append : received (deeds ++ more) = received deeds ++ received more :=
  List.filterMap_append

@[simp] theorem accepted_append : accepted (deeds ++ more) = accepted deeds ++ accepted more :=
  List.filterMap_append

@[simp] theorem refusals_append : refusals (deeds ++ more) = refusals deeds ++ refusals more :=
  List.filterMap_append

end Deed

/-- Deeds that lead from one line at hand to another. A record is taken only without a line, the
line at hand is the one that is offered, and it stays until it is accepted. -/
inductive Course (filter : KindFilter) (renderer : Renderer) :
    Option Bytes → List Deed → Option Bytes → Prop where
  | done (line : Option Bytes) : Course filter renderer line [] line
  | skip {record : Record} {deeds : List Deed} {line : Option Bytes}
      (ha : filter.accepts record = false) (h : Course filter renderer none deeds line) :
    Course filter renderer none (.receive record :: deeds) line
  | render {record : Record} {deeds : List Deed} {line : Option Bytes}
      (ha : filter.accepts record = true)
      (h : Course filter renderer (some (Utf8.encode (renderer.render record))) deeds line) :
    Course filter renderer none (.receive record :: deeds) line
  | accept {held : Bytes} {deeds : List Deed} {line : Option Bytes}
      (h : Course filter renderer none deeds line) :
    Course filter renderer (some held) (.offer held none :: deeds) line
  | refuse {held : Bytes} {error : SinkError} {deeds : List Deed} {line : Option Bytes}
      (he : error.isRecoverable = true) (h : Course filter renderer (some held) deeds line) :
    Course filter renderer (some held) (.offer held (some error) :: deeds) line

namespace Course

variable {before line after : Option Bytes} {deeds more : List Deed} {held : Bytes}

theorem trans (h : Course filter renderer before deeds line)
    (h' : Course filter renderer line more after) :
    Course filter renderer before (deeds ++ more) after := by
  induction h with
  | done => exact h'
  | skip ha _ ih => exact .skip ha (ih h')
  | render ha _ ih => exact .render ha (ih h')
  | accept _ ih => exact .accept (ih h')
  | refuse he _ ih => exact .refuse he (ih h')

/-- The lines that were made are those accepted since, in the same order, and the one at hand. -/
theorem lines (h : Course filter renderer before deeds line) :
    before.toList ++ linesOf filter renderer (Deed.received deeds)
      = Deed.accepted deeds ++ line.toList := by
  induction h with
  | done line => simp [linesOf, Deed.received, Deed.accepted]
  | skip ha _ ih => simpa [linesOf, Deed.received, Deed.accepted, ha] using ih
  | render ha _ ih => simpa [linesOf, Deed.received, Deed.accepted, ha] using ih
  | accept _ ih => simpa [linesOf, Deed.received, Deed.accepted] using ih
  | refuse _ _ ih => simpa [linesOf, Deed.received, Deed.accepted] using ih

theorem recoverable (h : Course filter renderer before deeds line) :
    ∀ error ∈ Deed.refusals deeds, error.isRecoverable = true := by
  induction h with
  | done => simp [Deed.refusals]
  | skip _ _ ih => exact ih
  | render _ _ ih => exact ih
  | accept _ ih => exact ih
  | refuse he _ ih =>
    intro error hmem
    rcases List.mem_cons.1 hmem with rfl | hmem
    · exact he
    · exact ih error hmem

/-- A line at hand is offered, and nothing else is done, until it is accepted. -/
theorem offers (h : Course filter renderer (some held) deeds line) :
    ∃ errors : List SinkError, (∀ error ∈ errors, error.isRecoverable = true) ∧
      (line = some held ∧ deeds = errors.map (fun error => .offer held (some error)) ∨
        ∃ rest, deeds = errors.map (fun error => .offer held (some error))
          ++ .offer held none :: rest) := by
  generalize hbefore : some held = before at h
  induction h with
  | done line =>
    subst hbefore
    exact ⟨[], by simp, .inl ⟨rfl, rfl⟩⟩
  | skip _ _ _ => simp at hbefore
  | render _ _ _ => simp at hbefore
  | @accept other deeds line _ _ =>
    obtain rfl := Option.some.inj hbefore
    exact ⟨[], by simp, .inr ⟨deeds, rfl⟩⟩
  | @refuse other error deeds line he _ ih =>
    obtain rfl := Option.some.inj hbefore
    obtain ⟨errors, herrors, hcases⟩ := ih rfl
    refine ⟨error :: errors, by simpa using ⟨he, herrors⟩, ?_⟩
    rcases hcases with ⟨rfl, rfl⟩ | ⟨rest, rfl⟩
    · exact .inl ⟨rfl, rfl⟩
    · exact .inr ⟨rest, rfl⟩

end Course

/-! ### Runs -/

/-- What a loop that has not come to its end has done since. -/
structure Since (w later : Scene σ) (new : List Deed) : Prop where
  deeds : later.deeds = w.deeds ++ new
  filter : later.loop.filter = w.loop.filter
  renderer : later.loop.formatter.renderer = w.loop.formatter.renderer
  course : Course w.loop.filter w.loop.formatter.renderer w.loop.phase.line? new
    later.loop.phase.line?
  received : later.loop.counters.received = w.loop.counters.received + (Deed.received new).length
  rendered : later.loop.counters.rendered = w.loop.counters.rendered
    + (linesOf w.loop.filter w.loop.formatter.renderer (Deed.received new)).length
  written : later.loop.counters.written = w.loop.counters.written + (Deed.accepted new).length
  held : later.loop.counters.held = w.loop.counters.held + (Deed.refusals new).length

namespace Since

variable {w later latest : Scene σ} {new newer : List Deed}

/-- Nothing was done. -/
theorem quiet (hd : later.deeds = w.deeds) (hf : later.loop.filter = w.loop.filter)
    (hr : later.loop.formatter = w.loop.formatter)
    (hl : later.loop.phase.line? = w.loop.phase.line?)
    (hc : { later.loop.counters with triggered := 0 } = { w.loop.counters with triggered := 0 }) :
    Since w later [] := by
  simp only [Pipeline.Counters.mk.injEq] at hc
  obtain ⟨hreceived, -, hrendered, hwritten, -, hheld, -⟩ := hc
  refine ⟨?_, hf, ?_, ?_, hreceived, hrendered, hwritten, hheld⟩
  · rw [hd, List.append_nil]
  · rw [hr]
  · rw [hl]
    exact .done _

theorem trans (h : Since w later new) (h' : Since later latest newer) :
    Since w latest (new ++ newer) where
  deeds := by rw [h'.deeds, h.deeds, List.append_assoc]
  filter := h'.filter.trans h.filter
  renderer := h'.renderer.trans h.renderer
  course := by
    have hnext := h'.course
    rw [h.filter, h.renderer] at hnext
    exact h.course.trans hnext
  received := by
    rw [h'.received, h.received, Deed.received_append, List.length_append, Nat.add_assoc]
  rendered := by
    rw [h'.rendered, h.rendered, h.filter, h.renderer, Deed.received_append, linesOf_append,
      List.length_append, Nat.add_assoc]
  written := by
    rw [h'.written, h.written, Deed.accepted_append, List.length_append, Nat.add_assoc]
  held := by rw [h'.held, h.held, Deed.refusals_append, List.length_append, Nat.add_assoc]

end Since

theorem deedsOf_eq {loop next : RunLoop σ} (taken : List Record)
    (hgo : next.phase.isWorking = true)
    (hq : loop.channel.queue = taken ++ next.channel.queue) :
    deedsOf o loop next =
      (loop.phase.offered?.map fun line => .offer line (loop.refusal? o line)).toList
        ++ taken.map .receive := by
  have hgoes : next.isFinished = false := by
    unfold isFinished
    cases hphase : next.phase <;> simp [hphase, Phase.isWorking] at hgo ⊢
  simp [deedsOf, hgoes, hq]

theorem offered?_of_isWaiting {phase : Phase} (h : phase.isWaiting = true) :
    phase.offered? = none := by
  cases phase <;> first | rfl | simp [Phase.isWaiting] at h

/-- Taking nothing and offering nothing. -/
theorem deedsOf_of_waiting {loop next : RunLoop σ} (hp : loop.phase.isWaiting = true)
    (hgo : next.phase.isWorking = true) (hq : next.channel.queue = loop.channel.queue) :
    deedsOf o loop next = [] := by
  rw [deedsOf_eq [] hgo hq.symm, offered?_of_isWaiting hp]
  rfl

/-- What a step does that is not the end. -/
theorem Stride.since {w : Scene σ} {next : RunLoop σ} (h : Stride o w.loop next)
    (hgo : next.phase.isWorking = true) :
    Since w { w with loop := next, deeds := w.deeds ++ deedsOf o w.loop next }
      (deedsOf o w.loop next) := by
  cases h with
  | rotate hp _ _ _ =>
    rw [deedsOf_of_waiting hp hgo]
    · exact .quiet (List.append_nil _) rfl rfl (Phase.line?_resume _) rfl
    · rfl
  | part hp _ _ _ =>
    rw [deedsOf_of_waiting hp hgo]
    · exact .quiet (List.append_nil _) rfl rfl (Phase.line?_resume _) rfl
    · rfl
  | flush hp _ _ =>
    rw [deedsOf_of_waiting (by rw [hp]; rfl) hgo]
    · exact .quiet (List.append_nil _) rfl rfl rfl rfl
    · rfl
  | retry hp _ =>
    rw [deedsOf_of_waiting (by rw [hp]; rfl) hgo]
    · exact .quiet (List.append_nil _) rfl rfl (by rw [hp]; rfl) rfl
    · rfl
  | @skip record rest hp hq ha =>
    have hline : w.loop.phase.line? = none := by rw [hp]; rfl
    have hnone : linesOf w.loop.filter w.loop.formatter.renderer [record] = [] := by
      simp [linesOf, ha]
    rw [deedsOf_eq [record] hgo hq, hp]
    exact
      { deeds := rfl
        filter := rfl
        renderer := rfl
        course := by
          rw [hline]
          exact .skip ha (.done none)
        received := rfl
        rendered := congrArg (w.loop.counters.rendered + List.length ·) hnone.symm
        written := rfl
        held := rfl }
  | @render record rest formatter events unresolved hp hq ha hf =>
    have hline : w.loop.phase.line? = none := by rw [hp]; rfl
    have hone : linesOf w.loop.filter w.loop.formatter.renderer [record]
        = [Utf8.encode (w.loop.formatter.renderer.render record)] := by
      simp [linesOf, ha]
    rw [deedsOf_eq [record] hgo hq, hp]
    exact
      { deeds := rfl
        filter := rfl
        renderer := hf
        course := by
          rw [hline]
          exact .render ha (.done _)
        received := rfl
        rendered := congrArg (w.loop.counters.rendered + List.length ·) hone.symm
        written := rfl
        held := rfl }
  | @accept line session hp hw =>
    have hline : w.loop.phase.line? = some line := by rw [hp]; rfl
    have hnone : w.loop.refusal? o line = none := by simp [refusal?, hw]
    have hq : w.loop.channel.queue = [] ++ w.loop.channel.queue := rfl
    rw [deedsOf_eq [] hgo hq, hp, Phase.offered?, Option.map_some, hnone]
    exact
      { deeds := rfl
        filter := rfl
        renderer := rfl
        course := by
          rw [hline]
          exact .accept (.done none)
        received := rfl
        rendered := rfl
        written := rfl
        held := rfl }
  | @hold line error session hp hw hr =>
    have hline : w.loop.phase.line? = some line := by rw [hp]; rfl
    have hsome : w.loop.refusal? o line = some error := by simp [refusal?, hw]
    have hq : w.loop.channel.queue = [] ++ w.loop.channel.queue := rfl
    rw [deedsOf_eq [] hgo hq, hp, Phase.offered?, Option.map_some, hsome]
    exact
      { deeds := rfl
        filter := rfl
        renderer := rfl
        course := by
          rw [hline]
          exact .refuse hr (.done _)
        received := rfl
        rendered := rfl
        written := rfl
        held := rfl }
  -- All else is part of the end.
  | _ => simp_all [shutDown, Phase.isWorking]

theorem Scene.after_since {w : Scene σ} {occasion : Occasion}
    (hgo : (w.after o occasion).loop.phase.isWorking = true) :
    ∃ new, Since w (w.after o occasion) new := by
  by_cases hwork : occasion = .work
  · subst hwork
    rcases w.work_cases o with hrest | ⟨next, hstride, hwork⟩
    · rw [Scene.after, hrest]
      exact ⟨[], .quiet rfl rfl rfl rfl rfl⟩
    · rw [Scene.after, hwork] at hgo ⊢
      exact ⟨_, hstride.since hgo⟩
  · obtain ⟨hdeeds, _, _, _, _, _, heq⟩ := w.after_frame o hwork
    exact ⟨[], .quiet hdeeds (by rw [heq]) (by rw [heq]) (by rw [heq]) (by rw [heq])⟩

/-- A run that does not reach the end. -/
theorem Scene.run_since {w : Scene σ} {occasions : List Occasion}
    (hgo : (w.run o occasions).loop.phase.isWorking = true) :
    ∃ new, Since w (w.run o occasions) new := by
  induction occasions generalizing w with
  | nil => exact ⟨[], .quiet rfl rfl rfl rfl rfl⟩
  | cons occasion occasions ih =>
    obtain ⟨new, hnew⟩ := Scene.after_since (isWorking_of_run (w := w.after o occasion) hgo)
    obtain ⟨newer, hnewer⟩ := ih hgo
    exact ⟨new ++ newer, hnew.trans hnewer⟩

/-- A loop that does nothing with a line at hand has an output to wait for, and nobody to listen
to. -/
theorem step_none_of_line {loop : RunLoop σ} {line : Bytes} (hline : loop.phase.line? = some line)
    (h : loop.step o = none) :
    loop.isCancelled = false ∧ loop.news = none ∧
      loop.session.sink.shown.isSettled = false := by
  unfold step at h
  cases hp : loop.phase with
  | holding held =>
    simp only [hp, RunLoop.hold] at h
    cases hc : loop.isCancelled with
    | true => simp [hc] at h
    | false =>
      cases hn : loop.news with
      | some heard => simp [hc, hn] at h
      | none => simpa [hc, hn] using h
  | offering held => simp [hp] at h
  | draining left lost => simp [hp] at h
  | choosing => simp [hp, Phase.line?] at hline
  | ended report => simp [hp, Phase.line?] at hline
  | crashed => simp [hp, Phase.line?] at hline

/-- While a line is at hand it is all that the loop is about. -/
theorem Scene.run_offers {w : Scene σ} {line : Bytes} (hline : w.loop.phase.line? = some line)
    {occasions : List Occasion} (hgo : (w.run o occasions).loop.phase.isWorking = true) :
    let later := w.run o occasions
    ∃ errors : List SinkError, (∀ error ∈ errors, error.isRecoverable = true) ∧
      let refused := errors.map fun error => Deed.offer line (some error)
      (later.loop.phase.line? = some line ∧ later.deeds = w.deeds ++ refused ∧
          later.loop.counters.received = w.loop.counters.received ∧
          later.loop.counters.rendered = w.loop.counters.rendered ∧
          later.loop.counters.held = w.loop.counters.held + errors.length ∨
        ∃ rest, later.deeds = w.deeds ++ refused ++ .offer line none :: rest) := by
  intro later
  obtain ⟨new, hnew⟩ := Scene.run_since hgo
  have hcourse := hnew.course
  rw [hline] at hcourse
  obtain ⟨errors, herrors, hcases⟩ := hcourse.offers
  refine ⟨errors, herrors, ?_⟩
  rcases hcases with ⟨hsame, rfl⟩ | ⟨rest, rfl⟩
  · have hnone : Deed.received (errors.map fun error => .offer line (some error)) = [] := by
      simp [Deed.received, List.filterMap_map]
    have hall : Deed.refusals (errors.map fun error => .offer line (some error)) = errors := by
      simp [Deed.refusals, List.filterMap_map]
    have hreceived := hnew.received
    have hrendered := hnew.rendered
    have hheld := hnew.held
    rw [hnone] at hreceived hrendered
    rw [hall] at hheld
    exact .inl ⟨hsame, hnew.deeds, hreceived, hrendered, hheld⟩
  · refine .inr ⟨rest, ?_⟩
    rw [List.append_assoc]
    exact hnew.deeds

/-- At every moment before the end. What the loop has done is a course of taking records and
offering lines, the lines rendered are those accepted and the one at hand, and a line counts as held
as often as it was refused. A line at hand stays and is offered again, and until it is accepted
nothing is taken or rendered; the loop rests only while there is no output to offer it to, and at
the end it has it still. -/
theorem run_holds_back (pipeline : Pipeline σ) (trigger : Option Hub) (channel : Channel)
    (start : Nat) (occasions : List Occasion) :
    let delivery := pipeline.settings.delivery
    let filter := KindFilter.ofList delivery.eventKinds
    let renderer : Renderer :=
      { pattern := Pattern.compile delivery.pattern, separator := delivery.separator }
    let now := (Scene.start pipeline trigger channel start).run o occasions
    let counters := now.loop.counters
    now.loop.phase.isWorking = true →
      Course filter renderer none now.deeds now.loop.phase.line? ∧
        counters.rendered = counters.written + now.loop.phase.line?.toList.length ∧
        counters.received = (Deed.received now.deeds).length ∧
        counters.rendered = (linesOf filter renderer (Deed.received now.deeds)).length ∧
        counters.written = (Deed.accepted now.deeds).length ∧
        counters.held = (Deed.refusals now.deeds).length ∧
        (∀ error ∈ Deed.refusals now.deeds, error.isRecoverable = true) ∧
        (∀ line, now.loop.phase.line? = some line → ∀ more,
          let later := now.run o more
          later.loop.phase.isWorking = true →
            ∃ errors : List SinkError, (∀ error ∈ errors, error.isRecoverable = true) ∧
              let refused := errors.map fun error => Deed.offer line (some error)
              (later.loop.phase.line? = some line ∧
                  later.deeds = now.deeds ++ refused ∧
                  later.loop.counters.received = counters.received ∧
                  later.loop.counters.rendered = counters.rendered ∧
                  later.loop.counters.held = counters.held + errors.length ∨
                ∃ rest, later.deeds = now.deeds ++ refused ++ .offer line none :: rest)) ∧
        (∀ line, now.loop.phase.line? = some line → now.loop.step o = none →
          now.loop.isCancelled = false ∧ now.loop.news = none ∧
            now.loop.session.sink.shown.isSettled = false) ∧
        (∀ next, now.loop.step o = some next → next.phase.isWorking = false →
          next.counters = counters ∧
            (next.phase = .draining now.loop.phase.line? 0 ∨
              now.loop.phase = .choosing ∧ next.phase = .crashed)) := by
  intro delivery filter renderer now counters hgo
  obtain ⟨new, hnew⟩ := Scene.run_since hgo
  obtain rfl : now.deeds = new := hnew.deeds
  have hcourse : Course filter renderer none now.deeds now.loop.phase.line? := hnew.course
  have hreceived : counters.received = (Deed.received now.deeds).length :=
    hnew.received.trans (Nat.zero_add _)
  have hrendered : counters.rendered = (linesOf filter renderer (Deed.received now.deeds)).length :=
    hnew.rendered.trans (Nat.zero_add _)
  have hwritten : counters.written = (Deed.accepted now.deeds).length :=
    hnew.written.trans (Nat.zero_add _)
  have hheld : counters.held = (Deed.refusals now.deeds).length := hnew.held.trans (Nat.zero_add _)
  have hlines := congrArg List.length hcourse.lines
  rw [Option.toList_none, List.nil_append, List.length_append, ← hrendered, ← hwritten] at hlines
  exact ⟨hcourse, hlines, hreceived, hrendered, hwritten, hheld, hcourse.recoverable,
    fun line hline more hlater => Scene.run_offers hline hlater,
    fun line hline hnone => step_none_of_line hline hnone,
    fun next hstep hend => (stride_of_step hstep).ends hgo hend⟩

/-- The third line is refused, a rotation fails, and it is refused again. -/
def unluckyOccasions : List Occasion :=
  let record : Record := { kind := Record.responseKind }
  [ .send record, .send { kind := "request" }, .work, .work, .work, .work, .send record,
    .send record, .work, .work, .work, .work, .trigger .fire, .work, .work ]

def unluckyHold : Scene World :=
  (Scene.start unluckyPipeline (some { name := "SIGHUP" }) { capacity := 2 } 0).run
    World.deviceOutputs unluckyOccasions

theorem run_holds_back_unlucky :
    unluckyHold.loop.phase = .holding (Utf8.encode "abc\n") ∧
      Deed.refusals unluckyHold.deeds = [.writeFailed (.failed "device full"), .detached] ∧
      unluckyHold.loop.counters.held = 2 ∧
      unluckyHold.loop.counters.rendered = unluckyHold.loop.counters.written + 1 ∧
      let later := unluckyHold.run World.deviceOutputs [.trigger .fire, .work, .work]
      later.deeds = unluckyHold.deeds ++ [.offer (Utf8.encode "abc\n") none] := by
  have hphase : unluckyHold.loop.phase = .holding (Utf8.encode "abc\n") := by cbv
  have hrefusals : Deed.refusals unluckyHold.deeds
      = [.writeFailed (.failed "device full"), .detached] := by cbv
  have hgo : unluckyHold.loop.phase.isWorking = true := by rw [hphase]; rfl
  obtain ⟨-, hrendered, -, -, -, hheld, -⟩ :=
    run_holds_back unluckyPipeline (some { name := "SIGHUP" }) { capacity := 2 } 0
      unluckyOccasions hgo
  refine ⟨hphase, hrefusals, ?_, ?_, by cbv⟩
  · exact hheld.trans (congrArg List.length hrefusals)
  · have hone : unluckyHold.loop.phase.line?.toList.length = 1 := by
      rw [hphase]
      rfl
    exact hrendered.trans (congrArg (unluckyHold.loop.counters.written + ·) hone)

end RunLoop

end RequestLog
