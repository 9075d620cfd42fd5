import RequestLog.Proofs.Pace
import RequestLog.Proofs.TwoRuns
import RequestLog.Proofs.Calls

/-! Scripts: calls of a sink with changes of its outputs between them. What a script shows, step by
step, does not depend on the pace of the outputs. -/

namespace RequestLog

namespace Device

inductive Setting where
  | budget (limit : Option Nat)
  | chunk (limit : Option Nat)
  | vectored (on : Bool)
  | zero (on : Bool)
  | interrupts (count : Nat)
  | fail (text : Option String)
  | failFlush (text : Option String)
  | crashesOnFlush (on : Bool)
  | openError (text : Option String)
deriving DecidableEq, Repr

def Setting.isPace : Setting → Bool
  | .chunk _ => true
  | .vectored _ => true
  | .interrupts _ => true
  | _ => false

def configure (device : Device) : Setting → Device
  | .budget limit => { device with budget := limit }
  | .chunk limit => { device with chunk := limit }
  | .vectored on => { device with vectored := on }
  | .zero on => { device with zero := on }
  | .interrupts count => { device with interrupts := count }
  | .fail text => { device with fail := text }
  | .failFlush text => { device with failFlush := text }
  | .crashesOnFlush on => { device with crashesOnFlush := on }
  | .openError text => { device with openError := text }

/-- Two devices with the same room, the same failures and the same bytes, each of which takes at
least one byte a call. -/
inductive SameButPace : Device → Device → Prop where
  | intro (device : Device) {chunk chunk' : Option Nat} (vectored vectored' : Bool)
      (interrupts interrupts' : Nat) (hc : chunk ≠ some 0) (hc' : chunk' ≠ some 0) :
    SameButPace { device with chunk, vectored, interrupts }
      { device with chunk := chunk', vectored := vectored', interrupts := interrupts' }

theorem SameButPace.plain_eq {device device' : Device} (h : SameButPace device device') :
    device.plain = device'.plain := by
  cases h
  rfl

theorem SameButPace.chunk {device device' : Device} (h : SameButPace device device') :
    device.chunk ≠ some 0 ∧ device'.chunk ≠ some 0 := by
  cases h with
  | intro device vectored vectored' interrupts interrupts' hc hc' => exact ⟨hc, hc'⟩

theorem plain_configure (device : Device) (setting : Setting) :
    (device.plain.configure setting).plain = (device.configure setting).plain := by
  cases setting <;> simp [configure, plain, content]

theorem plain_configure_pace {setting : Setting} (h : setting.isPace) (device : Device) :
    (device.configure setting).plain = device.plain := by
  cases setting <;> first | rfl | cases h

theorem plain_foldl_configure (settings : List Setting) {device device' : Device}
    (h : device.plain = device'.plain) :
    (settings.foldl configure device).plain = (settings.foldl configure device').plain := by
  induction settings generalizing device device' with
  | nil => exact h
  | cons setting settings ih =>
    refine ih ?_
    rw [← plain_configure, h, plain_configure]

/-- Only the settings that are not of the pace make a difference. -/
theorem plain_foldl_filter (settings : List Setting) (device : Device) :
    (settings.foldl configure device).plain
      = ((settings.filter (!·.isPace)).foldl configure device).plain := by
  induction settings generalizing device with
  | nil => rfl
  | cons setting settings ih =>
    rw [List.foldl_cons]
    cases h : setting.isPace with
    | true =>
      rw [List.filter_cons_of_neg (by simp [h]), ← ih]
      exact plain_foldl_configure settings (plain_configure_pace h device)
    | false => rw [List.filter_cons_of_pos (by simp [h]), List.foldl_cons, ih]

theorem foldl_configure_chunk {settings : List Setting} (hs : .chunk (some 0) ∉ settings)
    {device : Device} (hc : device.chunk ≠ some 0) :
    (settings.foldl configure device).chunk ≠ some 0 := by
  induction settings generalizing device with
  | nil => exact hc
  | cons setting settings ih =>
    obtain ⟨hhead, htail⟩ := not_or.1 (mt List.mem_cons.2 hs)
    refine ih htail ?_
    cases setting with
    | chunk limit => exact fun h => hhead (congrArg Setting.chunk h.symm)
    | _ => exact hc

end Device

namespace World

structure SameButPace (world world' : World) : Prop where
  plain_eq : world.plain = world'.plain
  left : Paced world
  right : Paced world'

theorem plain_openDevice (world : World) :
    world.plain.openDevice = (world.openDevice.1, world.openDevice.2.plain) := by
  have hd : world.plain.devices[world.used]? = (world.devices[world.used]?).map Device.plain := by
    simp [plain]
  unfold openDevice
  rw [show world.plain.used = world.used from rfl, hd]
  cases world.devices[world.used]? with
  | none => rfl
  | some device =>
    simp only [Option.map_some, show device.plain.openError = device.openError from rfl]
    cases device.openError <;> rfl

theorem Paced.handOut {world : World} (hw : Paced world) :
    Paced ({ world with used := world.used + 1 }.addHandle (.device world.used)).2 where
  backed := by
    intro backing hmem
    rcases List.mem_append.1 (backings_addHandle _ _ ▸ hmem) with hmem | hmem
    · exact hw.backed backing hmem
    · exact ⟨world.used, List.mem_singleton.1 hmem⟩
  chunk := hw.chunk

theorem Paced.openDevice {world : World} (hw : Paced world) : Paced world.openDevice.2 := by
  unfold World.openDevice
  split
  · exact hw
  · dsimp only
    split
    · exact ⟨hw.backed, hw.chunk⟩
    · exact hw.handOut

theorem SameButPace.adoptDevice {world world' : World} (h : SameButPace world world') :
    (world.adoptDevice = none ∧ world'.adoptDevice = none) ∨
      ∃ handle t t', world.adoptDevice = some (handle, t) ∧
        world'.adoptDevice = some (handle, t') ∧ SameButPace t t' := by
  have hused : world.used = world'.used := congrArg (fun world => world.used) h.plain_eq
  have hlen : world.devices.length = world'.devices.length := by
    simpa [plain] using congrArg (fun world => world.devices.length) h.plain_eq
  have hhandles : world.handles.length = world'.handles.length :=
    congrArg (fun world => world.handles.length) h.plain_eq
  by_cases hlt : world.used < world.devices.length
  · have hlt' : world'.used < world'.devices.length := by omega
    refine .inr ⟨world.handles.length, _, _, if_pos hlt, ?_, ?_, h.left.handOut, h.right.handOut⟩
    · rw [hhandles]
      exact if_pos hlt'
    · exact congrArg (fun world =>
        ({ world with used := world.used + 1 }.addHandle (.device world.used)).2) h.plain_eq
  · have hlt' : ¬ world'.used < world'.devices.length := by omega
    exact .inl ⟨if_neg hlt, if_neg hlt'⟩

theorem flushOf_plain (world : World) (backing : Backing) :
    world.plain.flushOf backing = world.flushOf backing := by
  cases backing with
  | file number => rfl
  | special which => rfl
  | device index =>
    have hd : world.plain.devices[index]? = (world.devices[index]?).map Device.plain := by
      simp [plain]
    simp only [flushOf, hd]
    cases world.devices[index]? <;> rfl

theorem flush_plain (handle : Handle) (world : World) :
    (world.plain.flush handle).1 = (world.flush handle).1 := by
  unfold World.flush
  rw [show world.plain.backing? handle = world.backing? handle from rfl]
  cases world.backing? handle with
  | none => rfl
  | some backing => exact flushOf_plain world backing

theorem finish_plain (handle : Handle) (world : World) :
    (world.plain.finish handle).1 = (world.finish handle).1 := by
  unfold World.finish
  rw [show world.plain.backing? handle = world.backing? handle from rfl]
  cases world.backing? handle with
  | none => rfl
  | some backing =>
    cases backing with
    | special which => rfl
    | file number => rfl
    | device index => exact flushOf_plain world (.device index)

/-- Outputs are told apart by nothing that a sink does with them if only their pace differs. -/
theorem deviceOutputs_indistinct : deviceOutputs.Indistinct SameButPace where
  opened := by
    intro world world' path h
    have hopen := plain_openDevice world
    rw [h.plain_eq, plain_openDevice] at hopen
    obtain ⟨hresult, hplain⟩ := Prod.mk.inj hopen
    exact ⟨world.openDevice.1, world.openDevice.2, world'.openDevice.2, rfl,
      Prod.ext hresult rfl, hplain.symm, h.left.openDevice, h.right.openDevice⟩
  drained := by
    intro world world' handle pending counters hp h
    obtain ⟨hleft, hresult, hconsume, hplain⟩ := h.left.drain_eq_fate handle hp counters
    obtain ⟨hright, hresult', hconsume', hplain'⟩ := h.right.drain_eq_fate handle hp counters
    have hlaw := pace_lawful handle
    have hfate : world'.fate handle = world.fate handle := (hlaw.fate_congr h.plain_eq).symm
    rw [hfate] at hresult' hconsume' hplain'
    rw [← hconsume'] at hconsume
    obtain ⟨hpending, hcounters⟩ := Prod.mk.inj hconsume
    exact ⟨hresult.trans hresult'.symm, hpending, hcounters,
      hplain.trans ((hlaw.feed_congr _ h.plain_eq).trans hplain'.symm), hleft, hright⟩
  flushed := by
    intro world world' handle h
    refine ⟨(world.flush handle).1, world, world', Prod.ext rfl (flush_snd handle world), ?_, h⟩
    refine Prod.ext ?_ (flush_snd handle world')
    change (world'.flush handle).1 = (world.flush handle).1
    rw [← flush_plain, ← h.plain_eq, flush_plain]
  finished := by
    intro world world' handle h
    refine ⟨(world.finish handle).1, world, world', Prod.ext rfl (finish_snd handle world), ?_, h⟩
    refine Prod.ext ?_ (finish_snd handle world')
    change (world'.finish handle).1 = (world.finish handle).1
    rw [← finish_plain, ← h.plain_eq, finish_plain]

def configure (world : World) (index : Nat) (settings : List Device.Setting) : World :=
  { world with devices := world.devices.modify index (settings.foldl Device.configure) }

theorem plain_configure (world : World) (index : Nat) (settings : List Device.Setting) :
    (world.configure index settings).plain
      = (world.plain.configure index (settings.filter (!·.isPace))).plain := by
  have hmodify : (world.devices.modify index (settings.foldl Device.configure)).map Device.plain
      = ((world.devices.map Device.plain).modify index
          ((settings.filter (!·.isPace)).foldl Device.configure)).map Device.plain := by
    refine List.ext_getElem? fun i => ?_
    simp only [List.getElem?_map, List.getElem?_modify]
    cases world.devices[i]? with
    | none => rfl
    | some device =>
      by_cases hi : index = i
      · have h := (Device.plain_foldl_filter settings device).trans
          (Device.plain_foldl_configure _ (Device.plain_plain device).symm)
        simp [hi, h]
      · simp [hi]
  simp only [plain, configure, hmodify]

theorem Paced.configure {world : World} (hw : Paced world) (index : Nat)
    {settings : List Device.Setting} (hc : .chunk (some 0) ∉ settings) :
    Paced (world.configure index settings) where
  backed := hw.backed
  chunk := by
    intro device hmem
    obtain ⟨i, hi⟩ := List.getElem?_of_mem hmem
    simp only [World.configure, List.getElem?_modify] at hi
    obtain ⟨found, hfound, rfl⟩ := Option.map_eq_some_iff.1 hi
    have hchunk := hw.chunk found (List.mem_of_getElem? hfound)
    split
    · exact Device.foldl_configure_chunk hc hchunk
    · exact hchunk

theorem SameButPace.configure {world world' : World} (h : SameButPace world world') (index : Nat)
    {settings settings' : List Device.Setting}
    (hs : settings.filter (!·.isPace) = settings'.filter (!·.isPace))
    (hc : .chunk (some 0) ∉ settings) (hc' : .chunk (some 0) ∉ settings') :
    SameButPace (world.configure index settings) (world'.configure index settings') where
  plain_eq := by rw [plain_configure, h.plain_eq, hs, ← plain_configure]
  left := h.left.configure index hc
  right := h.right.configure index hc'

end World

namespace Session

inductive Step where
  | call (call : Call)
  | set (index : Nat) (settings : List Device.Setting)
deriving DecidableEq, Repr

inductive Step.SameButPace : Step → Step → Prop where
  | call (c : Call) : SameButPace (.call c) (.call c)
  | set (index : Nat) {settings settings' : List Device.Setting}
      (hs : settings.filter (!·.isPace) = settings'.filter (!·.isPace))
      (hc : .chunk (some 0) ∉ settings) (hc' : .chunk (some 0) ∉ settings') :
    SameButPace (.set index settings) (.set index settings')

inductive Outcome where
  | opened
  | wrote (result : Except Rejected Unit)
  | flushed (result : Flushed)
  | rotated (result : Except SinkError Rotation)
  | closed (result : Except SinkError Unit)
  | done
deriving DecidableEq

def perform (s : Session World) : Step → Outcome × Session World
  | .call (.write line) => Prod.map .wrote id (s.write World.deviceOutputs line)
  | .call .flush => Prod.map .flushed id (s.flush World.deviceOutputs)
  | .call .rotate => Prod.map .rotated id (s.rotate World.deviceOutputs)
  | .call .close => Prod.map .closed id (s.close World.deviceOutputs)
  | .call (.pause nanos) => (.done, s.elapse nanos)
  | .set index settings => (.done, { s with outputs := s.outputs.configure index settings })

/-- What can be seen after a step: how it went, the sink with its state, its generation, its queue
and its counters, what was logged, and the bytes in every output. -/
structure Report where
  outcome : Outcome
  sink : Sink
  events : List Event
  contents : List Bytes
deriving DecidableEq

def report (outcome : Outcome) (s : Session World) : Report :=
  ⟨outcome, s.sink, s.events, s.outputs.devices.map Device.content⟩

def trace : List Step → Session World → List Report
  | [], _ => []
  | step :: script, s =>
    (s.perform step).2.report (s.perform step).1 :: trace script (s.perform step).2

/-- A path takes the next device at each opening, a stream only the first one. -/
inductive Target where
  | path (path : String)
  | stream
deriving DecidableEq, Repr

/-- Opens a sink. There may be no stream to take. -/
def openTarget (sink : Sink) (world : World) : Target → Option (Except SinkError (Session World))
  | .path path => some (openAt World.deviceOutputs sink path world).1
  | .stream => world.adoptDevice.map fun adopted => .ok (start sink adopted.1 adopted.2)

def showScript (name : String) (bufferSize : Nat) (target : Target) (script : List Step)
    (devices : List Device) : Option (Except SinkError (List Report)) :=
  (openTarget { name, bufferSize } { devices } target).map fun opened =>
    opened.map fun s => s.report .opened :: s.trace script

open World (SameButPace)

variable {s t : Session World}

theorem Agree.report (h : Agree SameButPace s t) (outcome : Outcome) :
    s.report outcome = t.report outcome := by
  obtain ⟨h, -⟩ := h
  rename_i outputs outputs'
  have hcontents (world : World) :
      world.devices.map Device.content = world.plain.devices.map Device.content := by
    simp [World.plain, Function.comp_def]
  simp only [Session.report, Report.mk.injEq, true_and]
  rw [hcontents, h.plain_eq, ← hcontents]

theorem perform_agree (h : Agree SameButPace s t) {step step' : Step}
    (hs : step.SameButPace step') :
    AnswerAlike (Agree SameButPace) (s.perform step) (t.perform step') := by
  have hi := World.deviceOutputs_indistinct
  have hmap {α : Type} (f : α → Outcome) {r r' : α × Session World}
      (h : AnswerAlike (Agree SameButPace) r r') :
      AnswerAlike (Agree SameButPace) (Prod.map f id r) (Prod.map f id r') := by
    obtain ⟨answer, s, t, rfl, rfl, h⟩ := h
    exact .intro h
  cases hs with
  | call c =>
    cases c with
    | write line => exact hmap .wrote (h.write hi line)
    | flush => exact hmap .flushed (h.flush hi)
    | rotate => exact hmap .rotated (h.rotate hi)
    | close => exact hmap .closed (h.close hi)
    | pause nanos => exact .intro (h.elapse nanos)
  | set index hs hc hc' =>
    obtain ⟨h, hp⟩ := h
    exact .intro ⟨h.configure index hs hc hc', hp⟩

theorem trace_agree {script script' : List Step} (hs : List.Forall₂ Step.SameButPace script script')
    (h : Agree SameButPace s t) : s.trace script = t.trace script' := by
  induction hs generalizing s t with
  | nil => rfl
  | cons hstep _ ih =>
    obtain ⟨outcome, s', t', hs', ht', h'⟩ := perform_agree h hstep
    simp only [trace, hs', ht']
    rw [h'.report outcome, ih h']

/-- What is made of a sink that opens. -/
theorem map_openTarget {β : Type} {f g : Session World → β}
    (hfg : ∀ s t, Agree SameButPace s t → f s = g t) {world world' : World}
    (h : SameButPace world world') (name : String) (bufferSize : Nat) (target : Target) :
    (openTarget { name, bufferSize } world target).map (Except.map f)
      = (openTarget { name, bufferSize } world' target).map (Except.map g) := by
  cases target with
  | path path =>
    obtain ⟨result, t, t', ht, ht', h'⟩ := World.deviceOutputs_indistinct.opened path h
    simp only [openTarget, openAt, ht, ht', Option.map_some]
    cases result with
    | error cause => rfl
    | ok handle => exact congrArg (some ∘ Except.ok) (hfg _ _ (start_agree (by simp) handle h'))
  | stream =>
    rcases h.adoptDevice with ⟨hn, hn'⟩ | ⟨handle, t, t', ht, ht', h'⟩
    · simp [openTarget, hn, hn']
    · simp only [openTarget, ht, ht', Option.map_some]
      exact congrArg (some ∘ Except.ok) (hfg _ _ (start_agree (by simp) handle h'))

theorem sameButPace_of_forall₂ {devices devices' : List Device}
    (hd : List.Forall₂ Device.SameButPace devices devices') :
    SameButPace { devices } { devices := devices' } := by
  have hplain : devices.map Device.plain = devices'.map Device.plain := by
    induction hd with
    | nil => rfl
    | cons h _ ih => rw [List.map_cons, List.map_cons, h.plain_eq, ih]
  have hchunk : (∀ device ∈ devices, device.chunk ≠ some 0) ∧
      ∀ device ∈ devices', device.chunk ≠ some 0 := by
    clear hplain
    induction hd with
    | nil => simp
    | cons h _ ih =>
      exact ⟨List.forall_mem_cons.2 ⟨h.chunk.1, ih.1⟩, List.forall_mem_cons.2 ⟨h.chunk.2, ih.2⟩⟩
  exact ⟨by simp only [World.plain, hplain], ⟨by simp [World.backings], hchunk.1⟩,
    ⟨by simp [World.backings], hchunk.2⟩⟩

/-- A device that runs full within a line, and one that fails to flush. -/
def hasty : List Device := [{ budget := some 5 }, { budget := some 20, failFlush := some "lost" }]

/-- The same devices, slower: a byte or two a call, and interrupted. -/
def sluggish : List Device :=
  [ { budget := some 5, chunk := some 2, vectored := true, interrupts := 3 },
    { budget := some 20, failFlush := some "lost", chunk := some 1, interrupts := 1 } ]

def hastyScript : List Step :=
  [ .call (.write [97, 98, 10]), .call (.write [99, 100, 10]), .call .flush, .call .rotate,
    .set 1 [.failFlush none], .call .flush, .call (.write [101, 10]), .call .close ]

def sluggishScript : List Step :=
  [ .call (.write [97, 98, 10]), .call (.write [99, 100, 10]), .call .flush, .call .rotate,
    .set 1 [.interrupts 2, .failFlush none, .chunk (some 3)], .call .flush,
    .call (.write [101, 10]), .call .close ]

end Session

end RequestLog
