import RequestLog.Pipeline.Basic
import Mathlib

/-! What the rules for a configuration come down to, and that a pipeline which was built kept
them. -/

namespace RequestLog

theorem require_eq_ok_iff {condition : Bool} {field message : String} :
    require condition field message = .ok () ↔ condition = true := by
  cases condition <;> simp [require]

theorem require_bind_eq_ok_iff {condition : Bool} {field message : String}
    {next : Except ConfigError Unit} :
    (require condition field message >>= fun _ => next) = .ok () ↔
      condition = true ∧ next = .ok () := by
  cases condition <;> simp [require, bind, Except.bind]

theorem Duration.isZero_eq_false_iff (d : Duration) : d.isZero = false ↔ 0 < d.toNanos := by
  simp only [isZero, toNanos, Bool.and_eq_false_iff, beq_eq_false_iff_ne]
  omega

/-- Delivery with something to log, a place for it to wait, and a time for it to leave. -/
@[mk_iff]
structure Delivery.Usable (d : Delivery) : Prop where
  eventKinds : d.eventKinds ≠ []
  named : ∀ kind ∈ d.eventKinds, Blank.isBlankText kind = false
  queueSize : 0 < d.queueSize
  bufferSize : 0 < d.bufferSize
  flushInterval : 0 < d.flushInterval.toNanos

theorem Delivery.validate_eq_ok_iff (d : Delivery) : d.validate = .ok () ↔ d.Usable := by
  rw [usable_iff]
  simp only [validate, require_bind_eq_ok_iff, require_eq_ok_iff, Bool.not_eq_true',
    List.isEmpty_eq_false_iff, List.any_eq_false, Bool.not_eq_true, decide_eq_true_iff,
    Duration.isZero_eq_false_iff, Nat.ne_zero_iff_zero_lt]

theorem AccessLog.validate_eq_ok_iff (a : AccessLog) :
    a.validate = .ok () ↔ validateTarget a.target = .ok () ∧ a.delivery.Usable := by
  rw [← Delivery.validate_eq_ok_iff, AccessLog.validate]
  cases validateTarget a.target <;> simp [bind, Except.bind]

theorem Settings.validate_eq_ok_iff (settings : Settings) :
    settings.validate = .ok () ↔ settings.delivery.Usable := by
  rw [← Delivery.validate_eq_ok_iff, Settings.validate]
  cases settings.delivery.validate <;> simp

theorem Config.validate_eq_ok_iff (c : Config) :
    c.validate = .ok () ↔
      c.accessLog.validate = .ok () ∧ clash c.log.output c.accessLog.target = false := by
  unfold Config.validate
  cases c.accessLog.validate with
  | error error => simp [bind, Except.bind]
  | ok _ =>
    cases clash c.log.output c.accessLog.target with
    | false => simp [bind, Except.bind, pure, Except.pure]
    | true => simp [bind, Except.bind, throw, throwThe, MonadExceptOf.throw]

namespace Pipeline

variable {σ : Type} {o : Outputs σ} {settings : Settings} {outputs rest : σ} {pipeline : Pipeline σ}

theorem openAt_ok {path : String} (h : openAt o settings path outputs = (.ok pipeline, rest)) :
    settings.validate = .ok () ∧ pipeline.settings = settings ∧
      Session.openAt o (sinkOf settings) path outputs = (.ok pipeline.session, rest) := by
  unfold openAt at h
  cases hvalid : settings.validate with
  | error error => simp [hvalid] at h
  | ok _ =>
    simp only [hvalid] at h
    rcases hs : Session.openAt o (sinkOf settings) path outputs with ⟨error | session, opened⟩
    · simp [hs] at h
    · simp only [hs] at h
      obtain ⟨hpipeline, rfl⟩ := Prod.mk.inj h
      obtain rfl := Except.ok.inj hpipeline
      exact ⟨rfl, rfl, rfl⟩

theorem adopt_ok {stream : Handle} (h : adopt settings stream outputs = .ok pipeline) :
    settings.validate = .ok () ∧ pipeline.settings = settings := by
  unfold adopt at h
  cases hvalid : settings.validate with
  | error error => simp [hvalid] at h
  | ok _ =>
    simp only [hvalid] at h
    obtain rfl := Except.ok.inj h
    exact ⟨rfl, rfl⟩

end Pipeline

end RequestLog
