import RequestLog.Proofs.Devices
import RequestLog.Proofs.Files
import RequestLog.Proofs.Loop

/-! A sink on a file. Files take all that is offered, so no line is rejected, rotations find the
same file again, and after the close the file holds every accepted line. -/

namespace RequestLog

namespace World

variable {s t u : World} {handle : Handle} {number : Nat} {bytes : Bytes}

/-- A file has taken bytes, and nothing else that a sink depends on has changed. -/
structure Appended (number : Nat) (bytes : Bytes) (s t : World) : Prop where
  nodes : t.files.nodes = s.files.nodes
  size : t.files.contents.length = s.files.contents.length
  content : t.files.content number = s.files.content number ++ bytes
  backings : t.backings = s.backings

theorem Appended.refl (number : Nat) (s : World) : Appended number [] s s :=
  ⟨rfl, rfl, (List.append_nil _).symm, rfl⟩

theorem Appended.trans {more : Bytes} (h : Appended number bytes s t)
    (h' : Appended number more t u) : Appended number (bytes ++ more) s u where
  nodes := h'.nodes.trans h.nodes
  size := h'.size.trans h.size
  content := by rw [h'.content, h.content, List.append_assoc]
  backings := h'.backings.trans h.backings

theorem write_file (hb : s.backings[handle]? = some (.file number))
    (hlt : number < s.files.contents.length) (slices : List Bytes) :
    ∃ t, s.write handle slices = (.took slices.flatten.length, t) ∧
      Appended number slices.flatten s t := by
  rw [← backing?_eq] at hb
  let t := { s with files := s.files.appendTo number slices.flatten }
  refine ⟨t.addTaken handle slices.flatten.length, ?_, ?_⟩
  · simp [World.write, hb, writeTo, totalLength, t]
  · exact
      { nodes := rfl
        size := List.length_modify ..
        content := Files.content_appendTo hlt _
        backings := backings_addTaken t handle _ }

/-- A call on a file takes something of every queue. -/
theorem write_queue {lines : List Bytes} (hne : lines ≠ []) (hlines : ∀ line ∈ lines, line ≠ [])
    (hb : s.backings[handle]? = some (.file number)) (hlt : number < s.files.contents.length)
    {reply : WriteReply}
    (hw : fileOutputs.write handle (lines.take Sink.Pending.batch) s = (reply, t)) :
    ∃ n, reply = .took (n + 1) ∧ Appended number (lines.flatten.take (n + 1)) s t := by
  obtain ⟨t', ht', happ⟩ := write_file hb hlt (lines.take Sink.Pending.batch)
  obtain ⟨rfl, rfl⟩ := Prod.mk.inj (ht'.symm.trans hw)
  have hpos : 0 < (lines.take Sink.Pending.batch).flatten.length := by
    obtain ⟨line, rest, rfl⟩ := List.exists_cons_of_ne_nil hne
    have := List.length_pos_iff.2 (hlines line List.mem_cons_self)
    rw [show Sink.Pending.batch = 63 + 1 from rfl, List.take_succ_cons, List.flatten_cons,
      List.length_append]
    omega
  obtain ⟨-, htake⟩ := Sink.Pending.take_batch (Nat.le_refl (lines.take _).flatten.length)
  refine ⟨(lines.take Sink.Pending.batch).flatten.length - 1, ?_, ?_⟩
  · rw [Nat.sub_add_cancel hpos]
  · rwa [Nat.sub_add_cancel hpos, ← htake, List.take_length]

/-- A drain into a file takes the whole queue. -/
theorem drain_file {pending : Sink.Pending} (hp : ∀ line ∈ pending.lines, line ≠ [])
    (counters : Sink.Counters) (hb : s.backings[handle]? = some (.file number))
    (hlt : number < s.files.contents.length) :
    (pending.drain fileOutputs handle counters s).result = .ok () ∧
      (pending.drain fileOutputs handle counters s).pending.lines = [] ∧
      (pending.drain fileOutputs handle counters s).counters.linesDropped = counters.linesDropped ∧
      Appended number pending.lines.flatten s
        (pending.drain fileOutputs handle counters s).outputs := by
  fun_induction Sink.Pending.drain fileOutputs handle pending counters s with
  | case1 pending counters s he =>
    rw [he]
    exact ⟨rfl, rfl, rfl, .refl number s⟩
  | case2 pending counters s he t hw =>
    obtain ⟨n, hn, -⟩ := write_queue he hp hb hlt hw
    simp at hn
  | case3 pending counters s he n t hw after ih =>
    obtain ⟨m, hm, happ⟩ := write_queue he hp hb hlt hw
    obtain rfl : n = m := by simpa using hm
    have hrest : after.1.lines.flatten = pending.lines.flatten.drop (n + 1) :=
      Sink.Pending.flatten_dropBytes (n + 1) pending.lines
    obtain ⟨hok, hempty, hdropped, happ'⟩ := ih (Sink.Pending.dropBytes_ne_nil hp (n + 1))
      (by rw [happ.backings]; exact hb) (by rw [happ.size]; exact hlt)
    refine ⟨hok, hempty, hdropped, ?_⟩
    have hall := happ.trans happ'
    rwa [hrest, List.take_append_drop] at hall
  | case4 pending counters s he t hw ih =>
    obtain ⟨n, hn, -⟩ := write_queue he hp hb hlt hw
    simp at hn
  | case5 pending counters s he cause t hw =>
    obtain ⟨n, hn, -⟩ := write_queue he hp hb hlt hw
    simp at hn

theorem flush_file (hb : s.backings[handle]? = some (.file number)) :
    s.flush handle = (.done, s) := by
  rw [← backing?_eq] at hb
  simp [World.flush, hb, flushOf]

theorem finish_file (hb : s.backings[handle]? = some (.file number)) :
    s.finish handle = (.done, s) := by
  rw [← backing?_eq] at hb
  simp [World.finish, hb, flushOf]

end World

namespace Session

open World (fileOutputs)

variable {path : String} {number : Nat} {initial : Bytes} {accepted : List Bytes}
  {s t : Session World}

/-- A sink that is attached to the file at its path. What the file holds and what is queued are what
the file held at first and the lines that were accepted. -/
structure OnFile (path : String) (number : Nat) (initial : Bytes) (accepted : List Bytes)
    (s : Session World) : Prop where
  attached : ∃ handle, s.sink.slot = .attached handle ∧
    s.outputs.backings[handle]? = some (.file number)
  hasPath : s.sink.path = some path
  opens : s.outputs.files.openAppend path = (.ok (.file number), s.outputs.files)
  exists_content : number < s.outputs.files.contents.length
  lines_ne_nil : ∀ line ∈ s.sink.pending.lines, line ≠ []
  bytes : s.outputs.files.content number ++ s.sink.pending.lines.flatten
    = initial ++ accepted.flatten
  linesDropped : s.sink.counters.linesDropped = 0

/-- A sink whose path leads to a file opens, and has accepted nothing. -/
theorem openAt_file {sink : Sink} {world : World} {files : Files} (hfiles : world.files.Sound)
    (hopen : world.files.openAppend path = (.ok (.file number), files))
    (hempty : sink.pending.lines = []) (hdropped : sink.counters.linesDropped = 0) :
    ∃ session outputs, openAt fileOutputs sink path world = (.ok session, outputs) ∧
      session.OnFile path number (world.files.content number) [] := by
  let opened := (({ world with files } : World).addHandle (.file number)).2
  refine ⟨start { sink with path := some path } world.handles.length opened, opened, ?_, ?_⟩
  · have hopened : fileOutputs.openPath path world = (.ok world.handles.length, opened) := by
      simp [fileOutputs, World.openFile, hopen, World.addHandle, opened]
    unfold openAt
    rw [hopened]
  · have hcontent : opened.files.content number = world.files.content number :=
      Files.openAppend_content hopen
    exact
      { attached := by
          refine ⟨_, rfl, ?_⟩
          change opened.backings[world.handles.length]? = _
          rw [World.backings_addHandle]
          simp [World.backings]
        hasPath := rfl
        opens := Files.openAppend_again hopen rfl
        exists_content := Files.openAppend_lt hfiles hopen
        lines_ne_nil := by simp [start, hempty]
        bytes := by simpa [start, hempty] using hcontent
        linesDropped := hdropped }

/-- A drain succeeds, and leaves no queue. -/
theorem OnFile.drainInto (h : OnFile path number initial accepted s) {handle : Handle}
    (hs : s.sink.slot = .attached handle) {r : Except IoError Unit}
    (hd : s.drainInto fileOutputs handle = (r, t)) :
    r = .ok () ∧ t.sink.slot = .attached handle ∧ t.sink.pending.lines = [] ∧
      OnFile path number initial accepted t := by
  obtain ⟨⟨handle', hs', hb⟩, hpath, hopens, hlt, hlines, hbytes, hdropped⟩ := h
  obtain rfl : handle = handle' := by simpa [hs] using hs'
  obtain ⟨hok, hempty, hcount, happ⟩ := World.drain_file hlines s.sink.counters hb hlt
  obtain ⟨rfl, rfl⟩ := Prod.mk.inj hd
  refine ⟨hok, hs, hempty, ⟨handle, hs, ?_⟩, hpath, ?_, ?_, ?_, ?_, ?_⟩
  · rw [happ.backings]
    exact hb
  · exact Files.openAppend_again hopens happ.nodes
  · rw [happ.size]
    exact hlt
  · simp [hempty]
  · simp only [hempty, List.flatten_nil, List.append_nil, happ.content, hbytes]
  · exact hcount.trans hdropped

theorem OnFile.accept (h : OnFile path number initial accepted s) {line : Bytes} (hl : line ≠ []) :
    OnFile path number initial (accepted ++ [line]) (s.accept line) where
  attached := h.attached
  hasPath := h.hasPath
  opens := h.opens
  exists_content := h.exists_content
  lines_ne_nil := by
    intro l hmem
    rcases List.mem_append.1 hmem with hmem | hmem
    · exact h.lines_ne_nil l hmem
    · rw [List.mem_singleton.1 hmem]
      exact hl
  bytes := by
    simp only [Session.accept, Sink.Pending.push, List.flatten_append, ← List.append_assoc, h.bytes]
  linesDropped := h.linesDropped

/-- Every line is accepted. -/
theorem OnFile.write (h : OnFile path number initial accepted s) {line : Bytes}
    {r : Except Rejected Unit} (hw : s.write fileOutputs line = (r, t)) :
    r = .ok () ∧ OnFile path number initial (accepted ++ [line]) t := by
  have hw' := write_outcome fileOutputs line s
  rw [hw] at hw'
  cases hw' with
  | unavailable hs =>
    obtain ⟨handle, hattached, -⟩ := h.attached
    exact absurd hattached (hs handle)
  | empty hs hl =>
    subst hl
    exact ⟨rfl, { h with bytes := by simpa using h.bytes }⟩
  | queued hs hl _ => exact ⟨rfl, h.accept hl⟩
  | drained hs hl _ hdrain =>
    obtain ⟨-, -, -, h'⟩ := h.drainInto hs hdrain
    exact ⟨rfl, h'.accept hl⟩
  | failed hs hl _ hdrain =>
    obtain ⟨hok, -⟩ := h.drainInto hs hdrain
    simp at hok

theorem OnFile.flush (h : OnFile path number initial accepted s) :
    (s.flush fileOutputs).1 = .done ∧
      OnFile path number initial accepted (s.flush fileOutputs).2 := by
  have hw := flush_outcome fileOutputs s
  generalize s.flush fileOutputs = r at hw ⊢
  have hflush {handle : Handle} {t : Session World} {reply : Reply} {outputs : World}
      (hs : s.sink.slot = .attached handle) (hdrain : s.drainInto fileOutputs handle = (.ok (), t))
      (hf : fileOutputs.flush handle t.outputs = (reply, outputs)) :
      reply = .done ∧ outputs = t.outputs ∧ OnFile path number initial accepted t := by
    obtain ⟨-, hslot, -, h'⟩ := h.drainInto hs hdrain
    obtain ⟨handle', hs', hb⟩ := h'.attached
    obtain rfl : handle = handle' := by simpa [hslot] using hs'
    obtain ⟨rfl, rfl⟩ := Prod.mk.inj ((World.flush_file hb).symm.trans hf)
    exact ⟨rfl, rfl, h'⟩
  cases hw with
  | idle hs =>
    obtain ⟨handle, hattached, -⟩ := h.attached
    exact absurd hattached (hs handle)
  | undrained hs hdrain =>
    obtain ⟨hok, -⟩ := h.drainInto hs hdrain
    simp at hok
  | done hs hdrain hf =>
    obtain ⟨-, rfl, h'⟩ := hflush hs hdrain hf
    exact ⟨rfl, { h' with }⟩
  | failed hs hdrain hf => simpa using (hflush hs hdrain hf).1
  | crashed hs hdrain hf => simpa using (hflush hs hdrain hf).1

/-- The file lets go of its handle without a fault. -/
theorem OnFile.retire (h : OnFile path number initial accepted s) {handle : Handle}
    (hs : s.sink.slot = .attached handle) :
    s.retire fileOutputs handle = { s with sink := { s.sink with lastDrain := some .done } } := by
  obtain ⟨handle', hs', hb⟩ := h.attached
  obtain rfl : handle = handle' := by simpa [hs] using hs'
  unfold Session.retire
  rw [show fileOutputs.finish handle s.outputs = (.done, s.outputs) from World.finish_file hb]

theorem OnFile.reopen (h : OnFile path number initial accepted s) (ht : t.outputs = s.outputs)
    (hlines : t.sink.pending.lines = s.sink.pending.lines)
    (hdropped : t.sink.counters.linesDropped = s.sink.counters.linesDropped)
    (hpath : t.sink.path = s.sink.path) :
    OnFile path number initial accepted (t.reopen fileOutputs path).2 := by
  have hopen : fileOutputs.openPath path t.outputs
      = (.ok t.outputs.handles.length, (t.outputs.addHandle (.file number)).2) := by
    simp [World.fileOutputs, World.openFile, ht, h.opens, World.addHandle]
  unfold Session.reopen
  rw [hopen, ht]
  exact
    { attached := by
        refine ⟨_, rfl, ?_⟩
        change (s.outputs.addHandle (.file number)).2.backings[s.outputs.handles.length]? = _
        rw [World.backings_addHandle]
        simp [World.backings]
      hasPath := hpath.trans h.hasPath
      opens := h.opens
      exists_content := h.exists_content
      lines_ne_nil := by
        intro line hmem
        exact h.lines_ne_nil line (hlines ▸ hmem)
      bytes := (congrArg _ (congrArg _ hlines)).trans h.bytes
      linesDropped := hdropped.trans h.linesDropped }

/-- A rotation finds the same file. -/
theorem OnFile.rotate (h : OnFile path number initial accepted s) :
    OnFile path number initial accepted (s.rotate fileOutputs).2 := by
  obtain ⟨handle, hs, -⟩ := h.attached
  rcases hdrain : s.drainInto fileOutputs handle with ⟨r, t⟩
  obtain ⟨rfl, hslot, -, h'⟩ := h.drainInto hs hdrain
  have hrelease : s.release fileOutputs
      = { t with sink := { t.sink with lastDrain := some .done } }.setSlot .unattached := by
    simp only [Session.release, hs, hdrain, h'.retire hslot]
  have hrotate : s.rotate fileOutputs = (s.release fileOutputs).reopen fileOutputs path := by
    simp only [Session.rotate, hs, h.hasPath, reduceCtorEq, if_false]
  rw [hrotate, hrelease]
  exact h'.reopen rfl rfl rfl rfl

/-- A close succeeds, and the file holds all that was accepted. -/
theorem OnFile.close (h : OnFile path number initial accepted s) :
    (s.close fileOutputs).1 = .ok () ∧ (s.close fileOutputs).2.sink.counters.linesDropped = 0 ∧
      (s.close fileOutputs).2.outputs.files.content number = initial ++ accepted.flatten := by
  obtain ⟨handle, hs, hb⟩ := h.attached
  rcases hdrain : s.drainInto fileOutputs handle with ⟨r, t⟩
  obtain ⟨rfl, hslot, hempty, h'⟩ := h.drainInto hs hdrain
  obtain ⟨handle', hs', hb'⟩ := h'.attached
  obtain rfl : handle = handle' := by simpa [hslot] using hs'
  -- the slot is closed before the queue is drained, which makes no difference to the drain
  have hclosed :
      (s.setSlot .closed).drainInto fileOutputs handle = (.ok (), t.setSlot .closed) := by
    obtain ⟨hr, rfl⟩ := Prod.mk.inj hdrain
    exact congrArg₂ Prod.mk hr rfl
  have hfinish : (s.setSlot .closed).finish fileOutputs handle = (.ok (), t.setSlot .closed) := by
    have hdone : fileOutputs.finish handle (t.setSlot .closed).outputs = (.done, t.outputs) :=
      World.finish_file hb'
    simp only [Session.finish, hclosed, hdone]
    rfl
  have hwind : s.windUp fileOutputs = (.ok (), t.setSlot .closed) := by
    simp only [Session.windUp, hs, hfinish]
  have hleft : (t.setSlot .closed).collectDrain.sink.pending.isEmpty := by
    rw [collectDrain_pending]
    exact List.isEmpty_iff.2 hempty
  have hbytes := h'.bytes
  rw [hempty, List.flatten_nil, List.append_nil] at hbytes
  rw [close_of_not_closed fileOutputs (by simp [hs]), hwind]
  refine ⟨rfl, ?_, ?_⟩
  · rw [reportClose_sink, dropPending_of_empty hleft]
    simpa [setSlot] using h'.linesDropped
  · simpa [setSlot] using hbytes

end Session

namespace RunLoop

open World (fileOutputs)

variable {path : String} {number : Nat} {initial : Bytes}

theorem onFile_keeps : Keeps fileOutputs (Session.OnFile path number initial) where
  write_ok h hw := (h.write hw).2
  write_error h hw := by simpa using (h.write hw).1
  flush h := h.flush.2
  rotate h := h.rotate
  aside _ _ h := { h with }

theorem onFile_not_rejects : ¬ Rejects fileOutputs (Session.OnFile path number initial) := by
  rintro ⟨accepted, s, line, rejected, t, h, hw⟩
  simpa using (h.write hw).1

theorem onFile_not_crashes : ¬ Crashes fileOutputs (Session.OnFile path number initial) := by
  rintro ⟨accepted, s, t, h, hf⟩
  simpa [hf] using h.flush.1

end RunLoop

end RequestLog
