import RequestLog.Output.World
import Mathlib

/-! The tree of files as an output. What is appended to a file stays at its end, and a path that was
opened leads to the same file as long as nobody moves it. -/

namespace RequestLog

namespace Files

variable {files : Files} {place parent : Place} {number : Nat} {path : String}

/-- Every file of the tree has a content of its own. -/
def Sound (files : Files) : Prop :=
  ∀ place number, files.node? place = some (.file number) → number < files.contents.length

/-! ### Appending -/

theorem content_appendTo (h : number < files.contents.length) (bytes : Bytes) :
    (files.appendTo number bytes).content number = files.content number ++ bytes := by
  simp [content, appendTo, List.getD_eq_getElem?_getD, h]

/-! ### Opening again -/

/-- A way through directories stays one while these are directories. -/
theorem walk_of_directories {files' : Files}
    (hd : ∀ place, files.node? place = some .directory → files'.node? place = some .directory)
    {names : List String} {goal : Place} (h : files.walk parent names = .ok goal) :
    files'.walk parent names = .ok goal := by
  induction names generalizing parent with
  | nil => exact h
  | cons name names ih =>
    simp only [walk] at h ⊢
    cases hn : walkName parent name with
    | error cause => simp [hn] at h
    | ok next =>
      simp only [hn] at h ⊢
      cases hx : files.node? next with
      | none => simp [hx] at h
      | some found =>
        cases found with
        | file number => simp [hx] at h
        | directory =>
          simp only [hx] at h
          simp only [hd next hx]
          exact ih h

theorem locate_of_directories {files' : Files}
    (hd : ∀ place, files.node? place = some .directory → files'.node? place = some .directory)
    {target : Target} (h : files.locate path = .ok target) : files'.locate path = .ok target := by
  unfold locate at h ⊢
  cases hc : checkPath path with
  | error cause => simp [hc, bind, Except.bind] at h
  | ok _ =>
    simp only [hc, bind, Except.bind] at h ⊢
    cases hs : specialPaths.lookup path with
    | some device => simpa [hs] using h
    | none =>
      simp only [hs] at h ⊢
      cases hn : (splitPath path).getLast? with
      | none => simpa [hn] using h
      | some name =>
        simp only [hn] at h ⊢
        cases hw : files.walk [] (splitPath path).dropLast with
        | error cause => simp [hw] at h
        | ok parent =>
          rw [walk_of_directories hd hw]
          simpa [hw] using h

theorem node?_putNode_self (h : place ≠ []) (node : Node) :
    (files.putNode place node).node? place = some node := by
  simp [node?, putNode, h]

theorem lookup_filter_ne {other : Place} (h : other ≠ place) (nodes : List (Place × Node)) :
    (nodes.filter (·.1 ≠ place)).lookup other = nodes.lookup other := by
  induction nodes with
  | nil => rfl
  | cons entry nodes ih =>
    obtain ⟨key, node⟩ := entry
    by_cases he : key = place
    · subst he
      have hne : (other == key) = false := by simpa using h
      simpa [List.lookup, hne] using ih
    · simp only [List.filter_cons, he, ne_eq, not_false_eq_true, decide_true, if_true]
      simp only [List.lookup, ih]

theorem node?_putNode_of_ne {other : Place} (h : other ≠ place) (node : Node) :
    (files.putNode place node).node? other = files.node? other := by
  unfold node?
  split
  · rfl
  · have hne : (other == place) = false := by simpa using h
    simp only [putNode, List.lookup, hne]
    exact lookup_filter_ne h files.nodes

/-- The ways in which a path opens as a file: one that is there, or a new one. -/
theorem openAppend_file {files' : Files}
    (h : files.openAppend path = (.ok (.file number), files')) :
    ∃ place, files.locate path = .ok (.place place false) ∧
      (files.node? place = some (.file number) ∧ files' = files ∨
        files.node? place = none ∧ (number, files') = files.create place) := by
  unfold openAppend at h
  split at h
  · simp at h
  · simp at h
  · rename_i place directoryOnly hl
    split at h
    · simp at h
    · rename_i hd
      have hd : directoryOnly = false := by simpa using hd
      subst hd
      refine ⟨place, hl, ?_⟩
      split at h
      · simp at h
      · rename_i found hnode
        simp only [Prod.mk.injEq, Except.ok.injEq, Opened.file.injEq] at h
        obtain ⟨rfl, rfl⟩ := h
        exact .inl ⟨hnode, rfl⟩
      · rename_i hnode
        simp only [Prod.mk.injEq, Except.ok.injEq, Opened.file.injEq] at h
        obtain ⟨rfl, rfl⟩ := h
        exact .inr ⟨hnode, rfl⟩

theorem openAppend_of_node (hl : files.locate path = .ok (.place place false))
    (hn : files.node? place = some (.file number)) :
    files.openAppend path = (.ok (.file number), files) := by
  simp [openAppend, hl, hn]

/-- A path that was opened leads to the same file again, whatever was appended since. -/
theorem openAppend_again {files' : Files} (h : files.openAppend path = (.ok (.file number), files'))
    {later : Files} (hnodes : later.nodes = files'.nodes) :
    later.openAppend path = (.ok (.file number), later) := by
  have hnode (place : Place) : later.node? place = files'.node? place := by
    simp only [node?, hnodes]
  rcases openAppend_file h with ⟨place, hl, ⟨hn, rfl⟩ | ⟨hn, heq⟩⟩
  · refine openAppend_of_node (locate_of_directories (fun other hd => ?_) hl)
      ((hnode place).trans hn)
    exact (hnode other).trans hd
  · obtain ⟨rfl, rfl⟩ := Prod.mk.inj heq
    have hplace : place ≠ [] := by
      rintro rfl
      simp [node?] at hn
    refine openAppend_of_node (locate_of_directories (fun other hd => ?_) hl) ?_
    · -- the new file is where nothing was, so no directory is lost
      have hne : other ≠ place := by
        rintro rfl
        simp [hn] at hd
      exact (hnode other).trans ((node?_putNode_of_ne hne _).trans hd)
    · exact (hnode place).trans (node?_putNode_self hplace _)

theorem openAppend_lt (hs : files.Sound) {files' : Files}
    (h : files.openAppend path = (.ok (.file number), files')) :
    number < files'.contents.length := by
  rcases openAppend_file h with ⟨place, -, ⟨hn, rfl⟩ | ⟨hn, heq⟩⟩
  · exact hs place number hn
  · obtain ⟨rfl, rfl⟩ := Prod.mk.inj heq
    simp

/-- Opening a file leaves what it holds as it is. -/
theorem openAppend_content {files' : Files}
    (h : files.openAppend path = (.ok (.file number), files')) :
    files'.content number = files.content number := by
  rcases openAppend_file h with ⟨place, -, ⟨hn, rfl⟩ | ⟨hn, heq⟩⟩
  · rfl
  · obtain ⟨rfl, rfl⟩ := Prod.mk.inj heq
    simp [content, List.getD_eq_getElem?_getD]

/-! ### Trees that are built -/

theorem Sound.of_nodes (hs : files.Sound) {files' : Files} (hnodes : files'.nodes = files.nodes)
    (hle : files.contents.length ≤ files'.contents.length) : files'.Sound := by
  intro place number hn
  simp only [node?, hnodes] at hn
  exact Nat.lt_of_lt_of_le (hs place number hn) hle

theorem Sound.putNode (hs : files.Sound) {node : Node}
    (hnode : ∀ number, node = .file number → number < files.contents.length) :
    (files.putNode place node).Sound := by
  intro other number hn
  by_cases h : other = place
  · subst h
    by_cases hroot : other = []
    · simp [node?, hroot] at hn
    · rw [node?_putNode_self hroot] at hn
      exact hnode number (Option.some.inj hn)
  · rw [node?_putNode_of_ne h] at hn
    exact hs other number hn

theorem Sound.openAppend (hs : files.Sound) {result : Except IoError Opened} {files' : Files}
    (h : files.openAppend path = (result, files')) : files'.Sound := by
  unfold Files.openAppend at h
  split at h
  · exact (Prod.mk.inj h).2 ▸ hs
  · exact (Prod.mk.inj h).2 ▸ hs
  · split at h
    · exact (Prod.mk.inj h).2 ▸ hs
    · split at h
      · exact (Prod.mk.inj h).2 ▸ hs
      · exact (Prod.mk.inj h).2 ▸ hs
      · rw [← (Prod.mk.inj h).2]
        have hgrown : ({ files with contents := files.contents ++ [[]] } : Files).Sound :=
          hs.of_nodes rfl (by simp)
        refine hgrown.putNode fun number hn => ?_
        obtain rfl := Node.file.inj hn
        simp

theorem Sound.replace (hs : files.Sound) {bytes : Bytes} {files' : Files}
    (h : files.replace path bytes = .ok files') : files'.Sound := by
  unfold Files.replace at h
  split at h
  · simp at h
  · split at h
    · exact Except.ok.inj h ▸ hs
    · simp at h
  · exact Except.ok.inj h ▸ hs
  · rename_i number opened ho
    rw [← Except.ok.inj h]
    exact (hs.openAppend ho).of_nodes rfl (by simp)

theorem Sound.makeWay (hs : files.Sound) {names : List String} {files' : Files}
    (h : files.makeWay place names = .ok files') : files'.Sound := by
  induction names generalizing files place with
  | nil => exact Except.ok.inj h ▸ hs
  | cons name names ih =>
    simp only [Files.makeWay] at h
    split at h
    · simp at h
    · split at h
      · exact ih hs h
      · simp at h
      · exact ih (hs.putNode (by simp)) h

theorem Sound.makeDirectory (hs : files.Sound) {files' : Files}
    (h : files.makeDirectory path = .ok files') : files'.Sound := by
  unfold Files.makeDirectory at h
  split at h
  · exact Except.ok.inj h ▸ hs
  · cases hc : checkPath path with
    | error cause => simp [hc, bind, Except.bind] at h
    | ok _ =>
      simp only [hc, bind, Except.bind] at h
      exact hs.makeWay h

theorem sound_empty : Sound {} := by
  intro place number h
  unfold node? at h
  split at h <;> simp at h

/-- A fold keeps what each of its steps keeps. -/
theorem foldlM_sound {α : Type} {step : Files → α → Except IoError Files}
    (hstep : ∀ {files entry files'}, Sound files → step files entry = .ok files' → Sound files')
    {entries : List α} (hs : files.Sound) {files' : Files}
    (h : entries.foldlM step files = .ok files') : files'.Sound := by
  induction entries generalizing files with
  | nil => exact Except.ok.inj h ▸ hs
  | cons entry entries ih =>
    rw [List.foldlM_cons] at h
    cases he : step files entry with
    | error cause => simp [he, bind, Except.bind] at h
    | ok next =>
      simp only [he, bind, Except.bind] at h
      exact ih (hstep hs he) h

/-- Every tree of given directories and files is sound. -/
theorem ofEntries_sound {directories : List String} {entries : List (String × Bytes)}
    {files : Files} (h : ofEntries directories entries = .ok files) : files.Sound := by
  unfold ofEntries at h
  cases hd : directories.foldlM makeDirectory ({} : Files) with
  | error cause => simp [hd, bind, Except.bind] at h
  | ok tree =>
    simp only [hd, bind, Except.bind] at h
    have htree := foldlM_sound (fun hs he => hs.makeDirectory he) sound_empty hd
    exact foldlM_sound (fun hs he => hs.replace he) htree h

end Files

end RequestLog
