import RequestLog.Proofs.Acceptance
import RequestLog.Proofs.Files

/-! Spellings of a path. Empty names and single points on the way change nothing about where a path
leads. The rules for a configuration compare paths as texts, so two spellings of one path count as
different. -/

namespace RequestLog

theorem notMem_of_mem_splitOn {a : Char} {l piece : List Char} (h : piece ∈ l.splitOn a) :
    a ∉ piece := by
  induction l generalizing piece with
  | nil =>
    rw [List.splitOn_nil, List.mem_singleton] at h
    simp [h]
  | cons b l ih =>
    rw [List.splitOn_cons_eq_if_modifyHead] at h
    split at h
    · rcases List.mem_cons.1 h with rfl | hmem
      · exact List.not_mem_nil
      · exact ih hmem
    · rename_i hne
      obtain ⟨first, rest, heq⟩ := List.exists_cons_of_ne_nil (List.splitOn_ne_nil a l)
      rw [heq] at h ih
      rcases List.mem_cons.1 h with rfl | hmem
      · have hfirst := ih List.mem_cons_self
        simp only [beq_iff_eq] at hne
        simp [hfirst, Ne.symm hne]
      · exact ih (List.mem_cons_of_mem _ hmem)

namespace Files

/-- The names in a path that lead on, up or down. -/
def partsOf (path : String) : List String := (splitPath path).filter (· ≠ ".")

def isAbsolute (path : String) : Bool := path.toList.head? = some '/'

/-- The path without empty names and single points. -/
def normalize (path : String) : String :=
  let names := "/".intercalate (partsOf path)
  if isAbsolute path then "/" ++ names else if partsOf path = [] then "." else names

variable {files files' : Files} {path : String} {place : Place} {names : List String} {number : Nat}

/-! ### The names of a path -/

/-- A name of a path is neither empty nor does it hold a slash. -/
theorem name_of_mem_splitPath {name : String} (h : name ∈ splitPath path) :
    name.toList ≠ [] ∧ '/' ∉ name.toList := by
  obtain ⟨hmem, hne⟩ := List.mem_filter.1 h
  obtain ⟨piece, hpiece, rfl⟩ := List.mem_map.1 hmem
  rw [String.toList_ofList]
  refine ⟨?_, notMem_of_mem_splitOn hpiece⟩
  rintro rfl
  simp at hne

theorem splitPath_slash (path : String) : splitPath ("/" ++ path) = splitPath path := by
  unfold splitPath
  rw [String.toList_append, show "/".toList = ['/'] from rfl, List.singleton_append,
    List.splitOn_cons_eq_if_modifyHead]
  simp

theorem splitPath_intercalate (h : ∀ name ∈ names, name.toList ≠ [] ∧ '/' ∉ name.toList) :
    splitPath ("/".intercalate names) = names := by
  unfold splitPath
  rw [String.toList_intercalate, show "/".toList = ['/'] from rfl]
  by_cases hnames : names = []
  · subst hnames
    rfl
  · have hpieces : ∀ piece ∈ names.map String.toList, '/' ∉ piece := by
      intro piece hmem
      obtain ⟨name, hname, rfl⟩ := List.mem_map.1 hmem
      exact (h name hname).2
    rw [List.splitOn_intercalate '/' hpieces (by simpa using hnames), List.map_map]
    have hsame : String.ofList ∘ String.toList = id := funext fun name => String.ofList_toList
    rw [hsame, List.map_id, List.filter_eq_self]
    intro name hmem
    have hne := (h name hmem).1
    simp only [Bool.not_eq_true', String.isEmpty_eq_false_iff]
    rintro rfl
    exact hne rfl

theorem name_of_mem_partsOf {name : String} (h : name ∈ partsOf path) :
    (name.toList ≠ [] ∧ '/' ∉ name.toList) ∧ name ≠ "." := by
  obtain ⟨hmem, hne⟩ := List.mem_filter.1 h
  exact ⟨name_of_mem_splitPath hmem, by simpa using hne⟩

/-- The normal form has the same names. -/
theorem partsOf_normalize (path : String) : partsOf (normalize path) = partsOf path := by
  have hsplit : splitPath ("/".intercalate (partsOf path)) = partsOf path :=
    splitPath_intercalate fun name hmem => (name_of_mem_partsOf hmem).1
  have hparts : (partsOf path).filter (· ≠ ".") = partsOf path := by
    rw [List.filter_eq_self]
    exact fun name hmem => by simpa using (name_of_mem_partsOf hmem).2
  unfold normalize
  dsimp only
  split
  · rw [partsOf, splitPath_slash, hsplit, hparts]
  · split
    · rename_i hnone
      rw [hnone]
      rfl
    · rw [partsOf, hsplit, hparts]

theorem isAbsolute_normalize (path : String) : isAbsolute (normalize path) = isAbsolute path := by
  unfold normalize
  dsimp only
  split
  · rename_i habsolute
    rw [habsolute]
    simp [isAbsolute]
  · rename_i hrelative
    rw [Bool.not_eq_true] at hrelative
    rw [hrelative]
    split
    · rfl
    · rename_i hsome
      obtain ⟨first, rest, heq⟩ := List.exists_cons_of_ne_nil hsome
      obtain ⟨⟨hne, hslash⟩, -⟩ := name_of_mem_partsOf (heq ▸ List.mem_cons_self)
      obtain ⟨c, cs, hfirst⟩ := List.exists_cons_of_ne_nil hne
      have hc : c ≠ '/' := fun hc => hslash (by simp [hfirst, hc])
      rw [isAbsolute, String.toList_intercalate, heq, List.map_cons, hfirst]
      cases rest <;> simp [List.intercalate, hc]

theorem normalize_eq_iff {path path' : String} :
    normalize path = normalize path' ↔
      isAbsolute path = isAbsolute path' ∧ partsOf path = partsOf path' := by
  constructor
  · intro h
    rw [← isAbsolute_normalize path, ← partsOf_normalize path, h, isAbsolute_normalize,
      partsOf_normalize]
    exact ⟨rfl, rfl⟩
  · rintro ⟨habsolute, hparts⟩
    rw [normalize, habsolute, hparts, ← normalize]

/-! ### Where a path leads -/

/-- A point stays in the directory that the way has come to. -/
theorem walk_filter (h : files.node? place = some .directory) (names : List String) :
    files.walk place (names.filter (· ≠ ".")) = files.walk place names := by
  induction names generalizing place with
  | nil => rfl
  | cons name names ih =>
    by_cases hpoint : name = "."
    · subst hpoint
      rw [List.filter_cons_of_neg (by simp), ih h]
      simp [walk, walkName, h]
    · rw [List.filter_cons_of_pos (by simpa using hpoint)]
      simp only [walk]
      cases walkName place name with
      | error cause => rfl
      | ok next =>
        dsimp only
        cases hnode : files.node? next with
        | none => rfl
        | some node =>
          cases node with
          | file number => rfl
          | directory => exact ih hnode

/-- The way to a file, by the names of its path that lead on. -/
theorem locate_place (h : files.locate path = .ok (.place place false)) :
    ∃ names name parent, partsOf path = names ++ [name] ∧ files.walk [] names = .ok parent ∧
      walkName parent name = .ok place := by
  unfold locate at h
  cases hc : checkPath path with
  | error cause => simp [hc, bind, Except.bind] at h
  | ok _ =>
    simp only [hc, bind, Except.bind] at h
    cases hs : specialPaths.lookup path with
    | some device => simp [hs, pure, Except.pure] at h
    | none =>
      simp only [hs] at h
      cases hn : (splitPath path).getLast? with
      | none => simp [hn, pure, Except.pure] at h
      | some name =>
        simp only [hn] at h
        cases hw : files.walk [] (splitPath path).dropLast with
        | error cause => simp [hw] at h
        | ok parent =>
          simp only [hw] at h
          cases hname : walkName parent name with
          | error cause => simp [hname] at h
          | ok goal =>
            simp only [hname, pure, Except.pure, Except.ok.injEq, Target.place.injEq,
              Bool.or_eq_false_iff, decide_eq_false_iff_not] at h
            obtain ⟨rfl, ⟨hpoint, -⟩, -⟩ := h
            refine ⟨(splitPath path).dropLast.filter (· ≠ "."), name, parent, ?_, ?_, hname⟩
            · have hsplit := List.dropLast_append_getLast? name hn
              rw [partsOf, ← hsplit]
              simp [hpoint]
            · rw [walk_filter rfl]
              exact hw

theorem locate_unique {log target : String} (hsame : normalize log = normalize target)
    {place' : Place} (hlog : files.locate log = .ok (.place place false))
    (htarget : files.locate target = .ok (.place place' false)) : place' = place := by
  obtain ⟨names, name, parent, hparts, hwalk, hname⟩ := locate_place hlog
  obtain ⟨names', name', parent', hparts', hwalk', hname'⟩ := locate_place htarget
  rw [← (normalize_eq_iff.1 hsame).2, hparts] at hparts'
  obtain ⟨rfl, hlast⟩ := List.append_inj' hparts' rfl
  obtain rfl : name = name' := by simpa using hlast
  obtain rfl := Except.ok.inj (hwalk.symm.trans hwalk')
  exact Except.ok.inj (hname'.symm.trans hname)

/-- A file that was opened is there. -/
theorem node_of_openAppend (h : files.openAppend path = (.ok (.file number), files')) :
    ∃ place, files'.locate path = .ok (.place place false) ∧
      files'.node? place = some (.file number) := by
  have hagain : files'.openAppend path = (.ok (.file number), files') := openAppend_again h rfl
  obtain ⟨place, hl, ⟨hn, -⟩ | ⟨-, hcreate⟩⟩ := openAppend_file hagain
  · exact ⟨place, hl, hn⟩
  · have hlength := congrArg (fun made => made.2.contents.length) hcreate
    simp [create] at hlength

/-- Two paths of one normal form that both open as files open the same one. -/
theorem openAppend_of_normalize_eq {log target : String} (hsame : normalize log = normalize target)
    {number' : Nat} {files'' : Files}
    (hlog : files.openAppend log = (.ok (.file number), files'))
    (htarget : files'.openAppend target = (.ok (.file number'), files'')) : number' = number := by
  obtain ⟨place, hplace, hnode⟩ := node_of_openAppend hlog
  obtain ⟨place', hplace', hfound⟩ := openAppend_file htarget
  obtain rfl : place' = place := locate_unique hsame hplace hplace'
  rcases hfound with ⟨hnode', -⟩ | ⟨hnode', -⟩
  · obtain rfl := Node.file.inj (Option.some.inj (hnode.symm.trans hnode'))
    rfl
  · cases hnode.symm.trans hnode'

end Files

/-! ### Diagnostics and lines -/

open Files (normalize)

/-- Diagnostics and lines in files. Whatever else is configured, the two paths are only held to
differ as texts. That is enough for paths in normal form; two spellings of one path are accepted,
and if both open as files, diagnostics and lines end up in the same one. -/
theorem Config.validate_file_paths {c : Config} {log target : String}
    (hlog : c.log.output = .file log) (htarget : c.accessLog.target = some (.file target)) :
    (c.validate = .ok () ↔ c.accessLog.validate = .ok () ∧ log ≠ target) ∧
      (c.validate = .ok () → normalize log = log → normalize target = target →
        normalize log ≠ normalize target) ∧
      (normalize log = normalize target →
        ∀ (files files' files'' : Files) (number number' : Nat),
          files.openAppend log = (.ok (.file number), files') →
            files'.openAppend target = (.ok (.file number'), files'') → number' = number) := by
  have hiff : c.validate = .ok () ↔ c.accessLog.validate = .ok () ∧ log ≠ target := by
    rw [Config.validate_eq_ok_iff, hlog, htarget]
    simp [clash]
  refine ⟨hiff, fun hvalid hnormal hnormal' => ?_, ?_⟩
  · rw [hnormal, hnormal']
    exact (hiff.1 hvalid).2
  · intro hsame files files' files'' number number' hopen hopen'
    exact Files.openAppend_of_normalize_eq hsame hopen hopen'

/-- Diagnostics go to the file of the lines, under another spelling of its path. -/
def sharedFile : Config where
  log := { output := .file "./a.log" }
  accessLog := { target := some (.file "a.log") }

theorem normalize_sharedFile : normalize "./a.log" = normalize "a.log" :=
  Files.normalize_eq_iff.2 ⟨rfl, rfl⟩

theorem sharedFile_accepted :
    sharedFile.validate = .ok () ∧
      ∃ (files files' : Files) (number number' : Nat),
        Files.openAppend {} "./a.log" = (.ok (.file number), files) ∧
          files.openAppend "a.log" = (.ok (.file number'), files') ∧ number' = number := by
  obtain ⟨hiff, -, hshared⟩ :=
    Config.validate_file_paths (rfl : sharedFile.log.output = .file "./a.log") rfl
  let files := (Files.create {} ["a.log"]).2
  have hfirst : Files.openAppend {} "./a.log" = (.ok (.file 0), files) := rfl
  have hsecond : files.openAppend "a.log" = (.ok (.file 0), files) := rfl
  exact ⟨hiff.2 ⟨rfl, by decide⟩, files, files, 0, 0, hfirst, hsecond,
    hshared normalize_sharedFile _ _ _ _ _ hfirst hsecond⟩

/-- Accepted paths of one normal form. -/
theorem sharedFile_not_apart :
    ¬ ∀ (c : Config) (log target : String), c.validate = .ok () → c.log.output = .file log →
      c.accessLog.target = some (.file target) → normalize log ≠ normalize target := by
  intro h
  exact h sharedFile "./a.log" "a.log" rfl rfl rfl normalize_sharedFile

end RequestLog
