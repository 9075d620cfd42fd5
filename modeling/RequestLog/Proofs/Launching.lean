import RequestLog.Program.Basic
import RequestLog.Proofs.Acceptance

/-! From settings that were accepted to a loop that runs. The rules leave out sizes and spans of
zero. They leave in queues beyond counting, and over those, and nothing else, a start crashes. -/

namespace RequestLog

theorem Channel.create?_eq_none_iff {capacity : Nat} :
    create? capacity = none ↔ capacity = 0 ∨ maxCapacity < capacity := by
  unfold create?
  split
  · simp only [reduceCtorEq, false_iff]
    omega
  · simp only [true_iff]
    omega

theorem Channel.eq_of_create? {capacity : Nat} {channel : Channel}
    (h : create? capacity = some channel) : channel = { capacity } := by
  unfold create? at h
  split at h
  · exact (Option.some.inj h).symm
  · cases h

/-- The period of a ticker, in nanoseconds. There is no ticker with a period of zero. -/
def Duration.period? (d : Duration) : Option Nat := if d.isZero then none else some d.toNanos

theorem Duration.period?_eq_some_iff {d : Duration} {period : Nat} :
    d.period? = some period ↔ period = d.toNanos ∧ 0 < period := by
  have hzero := isZero_eq_false_iff d
  unfold period?
  cases h : d.isZero with
  | false =>
    have hpos := hzero.1 h
    simp only [Bool.false_eq_true, if_false, Option.some.injEq]
    omega
  | true =>
    have hnull : ¬ 0 < d.toNanos := by simp [← hzero, h]
    simp only [if_true, reduceCtorEq, false_iff]
    omega

/-- Settings that passed their check, or come from a section that did. -/
inductive Settings.Accepted : Settings → Prop where
  | byHand {settings : Settings} (h : settings.validate = .ok ()) : Accepted settings
  | bySection {a : AccessLog} (h : a.validate = .ok ()) : Accepted (.ofAccessLog a)

theorem Settings.Accepted.usable {settings : Settings} (h : settings.Accepted) :
    settings.delivery.Usable := by
  cases h with
  | byHand h => exact (Settings.validate_eq_ok_iff settings).1 h
  | bySection h => exact ((AccessLog.validate_eq_ok_iff _).1 h).2

namespace Pipeline

variable {σ : Type} {pipeline : Pipeline σ}

/-- The channel of a pipeline, the ticker for its flushes, and its loop. There is no loop if one of
the first two cannot be made. -/
def launch? (pipeline : Pipeline σ) (trigger : Option Hub) (now : Nat) : Option (RunLoop σ) := do
  let channel ← Channel.create? pipeline.settings.delivery.queueSize
  let _ ← pipeline.settings.delivery.flushInterval.period?
  return .start pipeline trigger channel now

/-- With a ticker, all hangs on the channel. -/
theorem launch?_eq_map (h : pipeline.settings.delivery.Usable) (trigger : Option Hub) (now : Nat) :
    pipeline.launch? trigger now =
      (Channel.create? pipeline.settings.delivery.queueSize).map
        (.start pipeline trigger · now) := by
  have hperiod := Duration.period?_eq_some_iff.2 ⟨rfl, h.flushInterval⟩
  rw [launch?, hperiod]
  cases Channel.create? pipeline.settings.delivery.queueSize <;> rfl

theorem channel_eq_none_iff (h : pipeline.settings.delivery.Usable) :
    Channel.create? pipeline.settings.delivery.queueSize = none ↔
      Channel.maxCapacity < pipeline.settings.delivery.queueSize := by
  have hpos := h.queueSize
  rw [Channel.create?_eq_none_iff]
  omega

/-- Accepted settings have a ticker, and a channel unless that would have to hold more than can be
counted. Then the loop starts with the channel and the interval that were asked for, and otherwise
there is none. -/
theorem launch_of_accepted (h : pipeline.settings.Accepted) (trigger : Option Hub) (now : Nat) :
    (pipeline.launch? trigger now = none ↔
        Channel.maxCapacity < pipeline.settings.delivery.queueSize) ∧
      (∀ loop, pipeline.launch? trigger now = some loop →
        loop = .start pipeline trigger { capacity := pipeline.settings.delivery.queueSize } now) ∧
      pipeline.settings.delivery.flushInterval.period?
        = some pipeline.settings.delivery.flushInterval.toNanos := by
  have husable := h.usable
  rw [launch?_eq_map husable]
  refine ⟨?_, ?_, Duration.period?_eq_some_iff.2 ⟨rfl, husable.flushInterval⟩⟩
  · rw [Option.map_eq_none_iff]
    exact channel_eq_none_iff husable
  · intro loop hloop
    obtain ⟨channel, hchannel, rfl⟩ := Option.map_eq_some_iff.1 hloop
    rw [Channel.eq_of_create? hchannel]

def queueing (queueSize : Nat) : Pipeline World where
  settings := { delivery := { queueSize } }
  session := { sink := {}, outputs := {} }

theorem launch_of_accepted_boundary :
    ((queueing (2 ^ 61 - 1)).settings.Accepted ∧ (queueing (2 ^ 61 - 1)).launch? none 0 ≠ none) ∧
      (queueing (2 ^ 61)).settings.Accepted ∧ (queueing (2 ^ 61)).launch? none 0 = none := by
  have hlargest : (queueing (2 ^ 61 - 1)).settings.Accepted := .byHand rfl
  have hoversized : (queueing (2 ^ 61)).settings.Accepted := .byHand rfl
  obtain ⟨hlaunched, -⟩ := launch_of_accepted hlargest none 0
  obtain ⟨hcrashed, -⟩ := launch_of_accepted hoversized none 0
  exact ⟨⟨hlargest, hlaunched.not.2 (by decide)⟩, hoversized, hcrashed.2 (by decide)⟩

/-- Accepted settings that cannot run. -/
theorem accepted_not_launched :
    ¬ ∀ (pipeline : Pipeline World) (trigger : Option Hub) (now : Nat),
      pipeline.settings.delivery.queueSize < 2 ^ 64 → pipeline.settings.validate = .ok () →
        (pipeline.launch? trigger now).isSome := by
  intro h
  have hlaunched := h (queueing (2 ^ 61)) none 0 (by decide) rfl
  have hnone : (queueing (2 ^ 61)).launch? none 0 = none := rfl
  rw [hnone] at hlaunched
  cases hlaunched

end Pipeline

/-! ### The start of the program -/

namespace Program

variable {options : Options} {config : Config} {world world' : World} {pipeline : Pipeline World}
  {filter : LogFilter} {log : List Event}

theorem openTarget_ok {a : AccessLog} {rest : World}
    (h : openTarget a world = (.ok pipeline, rest)) :
    (Settings.ofAccessLog a).validate = .ok () ∧ pipeline.settings = .ofAccessLog a := by
  unfold openTarget at h
  split at h
  · exact Pipeline.adopt_ok (congrArg Prod.fst h)
  · exact Pipeline.adopt_ok (congrArg Prod.fst h)
  · obtain ⟨hvalid, hsettings, -⟩ := Pipeline.openAt_ok h
    exact ⟨hvalid, hsettings⟩
  · cases h

theorem startRun_ended_iff :
    (∃ ending, startRun config filter pipeline log = .ended ending) ↔
      Channel.create? config.accessLog.delivery.queueSize = none := by
  unfold startRun
  cases Channel.create? config.accessLog.delivery.queueSize with
  | none => simp
  | some channel => cases triggerOf config.accessLog pipeline.session.sink <;> simp

/-- Once everything is open the program runs the pipeline, if that can be launched. -/
theorem start_ended_iff {rest : World} (hload : options.load world.files = .ok config)
    (hlog : openLog config.log.output world = .ok world')
    (htarget : openTarget config.accessLog world' = (.ok pipeline, rest)) (trigger : Option Hub)
    (now : Nat) :
    (∃ ending, start options world = .ended ending) ↔ pipeline.launch? trigger now = none := by
  obtain ⟨hvalid, hsettings⟩ := openTarget_ok htarget
  have husable : pipeline.settings.delivery.Usable := by
    rw [hsettings]
    exact (Settings.validate_eq_ok_iff _).1 hvalid
  rw [Pipeline.launch?_eq_map husable, Option.map_eq_none_iff, hsettings]
  simp only [start, hload, hlog, htarget]
  exact startRun_ended_iff

end Program

end RequestLog
