import RequestLog.Program.Loading
import Mathlib

/-! Options on the command line go over what a file configures. The result has to be usable, and so
has the file before the options are put on it: options do not mend a file that is refused. -/

namespace RequestLog

namespace Options

variable {options : Options} {files : Files} {config merged : Config}

/-- The configuration with everything in place that the options replace. -/
structure Overrides (options : Options) (config merged : Config) : Prop where
  log : merged.log = config.log
  target : merged.accessLog.target
    = (options.output.map Destination.ofName).or config.accessLog.target
  pattern : merged.accessLog.delivery.pattern
    = options.pattern.getD config.accessLog.delivery.pattern
  rotateOnSignal : merged.accessLog.delivery.rotateOnSignal
    = if options.noRotate then false else config.accessLog.delivery.rotateOnSignal
  separator : merged.accessLog.delivery.separator = config.accessLog.delivery.separator
  eventKinds : merged.accessLog.delivery.eventKinds = config.accessLog.delivery.eventKinds
  queueSize : merged.accessLog.delivery.queueSize = config.accessLog.delivery.queueSize
  bufferSize : merged.accessLog.delivery.bufferSize = config.accessLog.delivery.bufferSize
  flushInterval : merged.accessLog.delivery.flushInterval = config.accessLog.delivery.flushInterval

theorem overrides_override (options : Options) (config : Config) :
    Overrides options config (options.override config) where
  log := rfl
  target := by
    unfold override
    cases options.output <;> rfl
  pattern := rfl
  rotateOnSignal := by
    change (config.accessLog.delivery.rotateOnSignal && !options.noRotate) = _
    cases options.noRotate <;> simp
  separator := rfl
  eventKinds := rfl
  queueSize := rfl
  bufferSize := rfl
  flushInterval := rfl

theorem Overrides.eq (h : Overrides options config merged) : merged = options.override config := by
  have h' := overrides_override options config
  rcases merged with ⟨log, target, delivery⟩
  rcases ho : options.override config with ⟨log', target', delivery'⟩
  rw [ho] at h'
  cases delivery
  cases delivery'
  obtain ⟨h₁, h₂, h₃, h₄, h₅, h₆, h₇, h₈, h₉⟩ := h
  obtain ⟨h₁', h₂', h₃', h₄', h₅', h₆', h₇', h₈', h₉'⟩ := h'
  simp_all

/-- The text of a file spells out a configuration, whether it can be used or not. -/
def SpelledOut (files : Files) (path : String) (config : Config) : Prop :=
  ∃ bytes text, files.read path = .ok bytes ∧ Utf8.decode? bytes = some text ∧
    Config.read text = .ok config

inductive Configured (options : Options) (files : Files) : Config → Prop where
  | byFile {path : String} {config : Config} (hp : options.config = some path)
    (hs : SpelledOut files path config) : Configured options files config
  | byDefault (hp : options.config = none) : Configured options files {}

theorem pathExists_of_read {path : String} {bytes : Bytes} (h : files.read path = .ok bytes) :
    files.pathExists path = true := by
  unfold Files.read at h
  unfold Files.pathExists
  rcases hl : files.locate path with cause | target
  · simp [hl, bind, Except.bind] at h
  · cases target with
    | special device => rfl
    | place place directoryOnly =>
      simp only [hl, bind, Except.bind] at h ⊢
      rcases hn : files.node? place with _ | node
      · simp [hn, throw, throwThe, MonadExceptOf.throw] at h
      · cases node with
        | directory => rfl
        | file number =>
          cases directoryOnly with
          | false => rfl
          | true => simp [hn, throw, throwThe, MonadExceptOf.throw] at h

/-- The configuration if it can be used, and otherwise what is wrong with it. -/
def judge (message : String) (config : Config) : Except Failure Config :=
  match config.validate with
  | .ok () => .ok config
  | .error error => .error { message, causes := error.message :: error.causes }

theorem judge_of_ok {message : String} (h : config.validate = .ok ()) :
    judge message config = .ok config := by
  rw [judge, h]

theorem judge_of_error {message : String} {error : ConfigError}
    (h : config.validate = .error error) :
    judge message config = .error { message, causes := error.message :: error.causes } := by
  rw [judge, h]

theorem judge_eq_ok_iff {message : String} {result : Config} :
    judge message config = .ok result ↔ config.validate = .ok () ∧ result = config := by
  rcases hv : config.validate with error | ⟨⟩
  · simp [judge_of_error hv]
  · simp [judge_of_ok hv, eq_comm]

theorem load_eq_bind (options : Options) (files : Files) :
    options.load files = (options.base files).bind fun config =>
      judge "invalid configuration" (options.override config) := by
  unfold load
  rcases options.base files with failure | config
  · rfl
  · rcases hv : (options.override config).validate with error | ⟨⟩
    · simp [bind, Except.bind, judge_of_error hv, hv]
    · simp [bind, Except.bind, judge_of_ok hv, hv]

/-- A file is judged before the options are put on it. -/
theorem base_of_spelledOut {path : String} (hp : options.config = some path)
    (hs : SpelledOut files path config) :
    options.base files = judge "failed to load configuration" config := by
  obtain ⟨bytes, text, hread, hdecode, hconfig⟩ := hs
  have hcontent : Config.ofContent path (files.read path) =
      config.validate.bind fun _ => .ok config := by
    rw [hread, Config.ofContent]
    simp only [hdecode, Config.ofText, hconfig]
    rfl
  simp only [base, hp, pathExists_of_read hread, hcontent]
  rcases hv : config.validate with error | ⟨⟩
  · rw [judge_of_error hv]
    rfl
  · rw [judge_of_ok hv]
    rfl

theorem load_of_default (hp : options.config = none) :
    options.load files = judge "invalid configuration" (options.override {}) := by
  rw [load_eq_bind, base, hp]
  rfl

/-- Options go over a file that can be used on its own, and only then the result is judged. A file
that cannot be used is refused for its own faults, also where the options would make up for them:
exactly then the outcome is not the judgement on the result. -/
theorem load_judges_file_first (hc : Configured options files config)
    (hm : Overrides options config merged) :
    (∀ result, options.load files = .ok result ↔
      (options.config.isSome → config.validate = .ok ()) ∧ merged.validate = .ok () ∧
        result = merged) ∧
      (∀ error, options.config.isSome → config.validate = .error error →
        options.load files = .error
          { message := "failed to load configuration", causes := error.message :: error.causes }) ∧
      (options.load files = judge "invalid configuration" merged ↔
        (options.config.isSome → config.validate = .ok ())) := by
  obtain rfl := hm.eq
  cases hc with
  | byDefault hp =>
    rw [load_of_default hp, hp]
    simp [judge_eq_ok_iff]
  | byFile hp hs =>
    rw [load_eq_bind, base_of_spelledOut hp hs, hp]
    rcases hv : config.validate with error | ⟨⟩
    · rw [judge_of_error hv]
      refine ⟨by simp [Except.bind], ?_, ?_⟩
      · rintro error' - herror
        obtain rfl := Except.error.inj herror
        rfl
      · -- the two failures do not have the same name
        rcases hr : (options.override config).validate with error' | ⟨⟩
        · simp [judge_of_error hr, Except.bind]
        · simp [judge_of_ok hr, Except.bind]
    · rw [judge_of_ok hv]
      refine ⟨fun result => ?_, by simp, by simp [Except.bind]⟩
      simpa [Except.bind] using judge_eq_ok_iff

def oneFile (text : String) : Files :=
  { nodes := [(["c"], .file 0)], contents := [[Utf8.encode text]] }

theorem oneFile_read (text : String) : (oneFile text).read "c" = .ok (Utf8.encode text) := by
  have hsplit : Files.splitPath "c" = ["c"] := by cbv
  have hplace : (oneFile text).locate "c" = .ok (.place ["c"] false) := by
    unfold Files.locate
    rw [show Files.checkPath "c" = .ok () by cbv, hsplit]
    rfl
  have hnode : (oneFile text).node? ["c"] = some (.file 0) := by simp [Files.node?, oneFile]
  have hcontent : (oneFile text).content 0 = Utf8.encode text := by simp [Files.content, oneFile]
  unfold Files.read
  rw [hplace]
  simp only [bind, Except.bind, hnode, hcontent]
  rfl

/-- A file that names its output, which the options replace. -/
theorem load_judges_file_first_replaced :
    let options : Options := { config := some "c", output := some "stdout", noRotate := true }
    let merged : Config :=
      { accessLog := { target := some .stdout, delivery := { rotateOnSignal := false } } }
    options.load (oneFile "access_log=\"log\"") = .ok merged := by
  intro options merged
  have hspelled : SpelledOut (oneFile "access_log=\"log\"") "c"
      { accessLog := { target := some (.file "log") } } :=
    ⟨_, "access_log=\"log\"", oneFile_read _, by cbv, by cbv⟩
  have hmerged : Overrides options { accessLog := { target := some (.file "log") } } merged := by
    constructor <;> rfl
  obtain ⟨hok, -, -⟩ := load_judges_file_first (.byFile rfl hspelled) hmerged
  exact (hok merged).2 ⟨fun _ => by cbv, by cbv, rfl⟩

/-- Options do not mend a file: one without an output is refused although they name it, and what
comes of both can be used. -/
theorem load_incomplete_file :
    let options : Options := { config := some "c", output := some "stdout" }
    let files := oneFile "[access_log]\npattern = \"%h\"\n"
    let config : Config := { accessLog := { delivery := { pattern := "%h" } } }
    SpelledOut files "c" config ∧ (options.override config).validate = .ok () ∧
      options.load files = .error
        { message := "failed to load configuration",
          causes := ["access_log is missing required field 'target'"] } := by
  intro options files config
  have hspelled : SpelledOut files "c" config :=
    ⟨_, "[access_log]\npattern = \"%h\"\n", oneFile_read _, by cbv, by cbv⟩
  have hmissing : config.validate = .error (.missingField accessLogPart "target") := rfl
  refine ⟨hspelled, by cbv, ?_⟩
  rw [load_eq_bind, base_of_spelledOut rfl hspelled, judge_of_error hmissing]
  rfl

end Options

end RequestLog
