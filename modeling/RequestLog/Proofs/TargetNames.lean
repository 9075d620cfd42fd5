import RequestLog.Program.Basic
import RequestLog.Proofs.Acceptance
import RequestLog.Proofs.FormData
import RequestLog.Proofs.Overrides
import Mathlib

/-! The name of a target. As the whole section, as the section's only entry or on the command line
it makes the same target, which is a stream for two names and a file for every other one. -/

namespace RequestLog

/-! ### Strings of a document -/

namespace Toml

def hexDigits (n : Nat) : Nat → List Char
  | 0 => []
  | width + 1 => Hex.upper (n / 16 ^ width % 16) :: hexDigits n width

def isPlain (c : Char) : Bool := isTextual c && c ≠ '"' && c ≠ '\\'

def spell (c : Char) : List Char :=
  if isPlain c then [c] else '\\' :: 'U' :: hexDigits c.toNat 8

def basicString (s : String) : String :=
  String.ofList ('"' :: s.toList.flatMap spell ++ ['"'])

theorem hexDigits?_hexDigits (n width value : Nat) (cs : List Char) :
    hexDigits? width value (hexDigits n width ++ cs) =
      some (value * 16 ^ width + n % 16 ^ width, cs) := by
  induction width generalizing value with
  | zero => simp [hexDigits, hexDigits?, Nat.mod_one]
  | succ width ih =>
    rw [hexDigits, List.cons_append, hexDigits?,
      Query.value?_upper _ (Nat.mod_lt _ (by decide)), Option.bind_some, ih, Nat.mod_pow_succ]
    congr 2
    ring

theorem escape?_code (c : Char) (cs : List Char) :
    escape? ('U' :: (hexDigits c.toNat 8 ++ cs)) = some (c, cs) := by
  have hlt : c.toNat < 16 ^ 8 := c.val.toNat_lt.trans_eq (by decide)
  have hvalid : c.toNat.isValidChar := c.valid
  rw [escape?, hexDigits?_hexDigits, Nat.mod_eq_of_lt hlt]
  simp [scalar?, hvalid, Char.ofNat_toNat]

theorem basicBody_plain {c : Char} (h : isPlain c = true) (fuel : Nat) (cs : List Char) :
    basicBody (fuel + 1) (c :: cs) = (basicBody fuel cs).map fun (body, cs) => (c :: body, cs) := by
  simp only [isPlain, ne_eq, Bool.and_eq_true, decide_eq_true_eq] at h
  obtain ⟨⟨htextual, hquote⟩, hbackslash⟩ := h
  rw [basicBody]
  · rw [htextual]
    cases basicBody fuel cs <;> rfl
  · exact hquote
  · exact hbackslash

theorem basicBody_code (c : Char) (fuel : Nat) (cs : List Char) :
    basicBody (fuel + 1) ('\\' :: 'U' :: (hexDigits c.toNat 8 ++ cs)) =
      (basicBody fuel cs).map fun (body, cs) => (c :: body, cs) := by
  rw [basicBody, escape?_code, Option.bind_eq_bind, Option.bind_some]
  dsimp only
  cases basicBody fuel cs <;> rfl

theorem basicBody_spell (c : Char) (fuel : Nat) (cs : List Char) :
    basicBody (fuel + 1) (spell c ++ cs) =
      (basicBody fuel cs).map fun (body, cs) => (c :: body, cs) := by
  unfold spell
  split
  · next h => exact basicBody_plain h fuel cs
  · exact basicBody_code c fuel cs

theorem basicBody_flatMap {text : List Char} {fuel : Nat} (h : text.length < fuel)
    (rest : List Char) :
    basicBody fuel (text.flatMap spell ++ '"' :: rest) = some (text, rest) := by
  induction text generalizing fuel with
  | nil =>
    obtain ⟨fuel, rfl⟩ := Nat.exists_eq_succ_of_ne_zero (Nat.ne_of_gt h)
    rfl
  | cons c text ih =>
    obtain ⟨fuel, rfl⟩ := Nat.exists_eq_succ_of_ne_zero (Nat.ne_zero_of_lt h)
    rw [List.flatMap_cons, List.append_assoc, basicBody_spell, ih (Nat.lt_of_succ_lt_succ h)]
    rfl

theorem length_le_flatMap_spell (text : List Char) : text.length ≤ (text.flatMap spell).length := by
  induction text with
  | nil => exact Nat.zero_le _
  | cons c text ih =>
    have hspell : 1 ≤ (spell c).length := by
      unfold spell
      split <;> simp
    rw [List.flatMap_cons, List.length_append, List.length_cons]
    omega

theorem spell_eq_cons (c : Char) : ∃ first rest, spell c = first :: rest ∧ first ≠ '"' := by
  unfold spell
  split
  · next h =>
    simp only [isPlain, ne_eq, Bool.and_eq_true, decide_eq_true_eq] at h
    exact ⟨c, [], rfl, h.1.2⟩
  · exact ⟨'\\', _, rfl, by decide⟩

/-- Three quotes in a row would open a string of several lines. -/
theorem startsWith?_quotes (quote : Char) (text : List Char) {rest : List Char}
    (h : rest.head? ≠ some '"') :
    startsWith? [quote, quote, quote] ('"' :: (text.flatMap spell ++ '"' :: rest)) = none := by
  by_cases hquote : quote = '"'
  · subst hquote
    cases text with
    | nil =>
      rcases rest with _ | ⟨c, rest⟩
      · rfl
      · have hc : ¬ '"' = c := fun hc => h (congrArg some hc.symm)
        simp [startsWith?, List.isPrefixOf, hc]
    | cons c text =>
      obtain ⟨first, more, hspell, hfirst⟩ := spell_eq_cons c
      simp [startsWith?, List.isPrefixOf, hspell, hfirst.symm]
  · simp [startsWith?, List.isPrefixOf, hquote]

theorem string?_basicString (s : String) (rest : List Char) (h : rest.head? ≠ some '"') :
    string? ((basicString s).toList ++ rest) = some (s.toList, rest) := by
  have hlist : (basicString s).toList ++ rest = '"' :: (s.toList.flatMap spell ++ '"' :: rest) := by
    simp [basicString]
  have hfuel : s.toList.length < (s.toList.flatMap spell ++ '"' :: rest).length + 1 := by
    have hle := length_le_flatMap_spell s.toList
    rw [List.length_append]
    omega
  rw [hlist, string?, startsWith?_quotes _ _ h, startsWith?_quotes _ _ h]
  exact basicBody_flatMap hfuel rest

theorem readValue_basicString (depth : Nat) (s : String) {rest : List Char}
    (h : rest.head? ≠ some '"') :
    readValue (depth + 1) ((basicString s).toList ++ rest) = some (.string s, rest) := by
  have hread : readValue (depth + 1) ((basicString s).toList ++ rest) =
      (string? ((basicString s).toList ++ rest)).map fun (text, cs) =>
        (.string (String.ofList text), cs) := by
    simp [basicString, readValue]
  rw [hread, string?_basicString s rest h, Option.map_some]
  simp

/-- The characters after a key: no more of the key, and no point for a longer path. -/
structure Ends (rest : List Char) : Prop where
  notBare : ∀ c ∈ rest.head?, isBareKey c = false
  notPoint : ∀ c ∈ (skipSpace rest).head?, c ≠ '.'

/-- A key in this notation is not taken for anything else that may begin a line. -/
theorem isBareKey_start {c : Char} (h : isBareKey c = true) :
    ∀ d ∈ [' ', '\t', '\n', '\r', '[', '#', '"', '\''], c ≠ d := by
  rintro d hd rfl
  fin_cases hd <;> exact absurd h (by decide)

theorem skipSpace_bare {c : Char} (h : isBareKey c = true) (cs : List Char) :
    skipSpace (c :: cs) = c :: cs := by
  have hspace : isSpace c = false := by simp [isSpace, isBareKey_start h]
  simp [skipSpace, hspace]

theorem takeWhile_bare {name rest : List Char} (hname : ∀ c ∈ name, isBareKey c = true)
    (hrest : Ends rest) :
    (name ++ rest).takeWhile isBareKey = name ∧ (name ++ rest).dropWhile isBareKey = rest := by
  have hstop : rest.takeWhile isBareKey = [] ∧ rest.dropWhile isBareKey = rest := by
    rcases rest with _ | ⟨c, rest⟩
    · exact ⟨rfl, rfl⟩
    · have hc := hrest.notBare c rfl
      simp [hc]
  rw [List.takeWhile_append_of_pos hname, List.dropWhile_append_of_pos hname, hstop.1, hstop.2,
    List.append_nil]
  exact ⟨rfl, rfl⟩

theorem key?_bare {name rest : List Char} (hne : name ≠ [])
    (hname : ∀ c ∈ name, isBareKey c = true) (hrest : Ends rest) :
    key? (name ++ rest) = some ([String.ofList name], skipSpace rest) := by
  obtain ⟨htake, hdrop⟩ := takeWhile_bare hname hrest
  obtain ⟨c, name, rfl⟩ := List.exists_cons_of_ne_nil hne
  have hc : isBareKey c = true := hname c (by simp)
  have hskip : skipSpace (c :: name ++ rest) = c :: name ++ rest := skipSpace_bare hc _
  have hkey : simpleKey? (c :: name ++ rest) = some (c :: name, rest) := by
    rw [simpleKey?, htake, hdrop]
    · rfl
    · exact fun _ h => isBareKey_start hc '"' (by simp) (List.cons.inj h).1
    · exact fun _ h => isBareKey_start hc '\'' (by simp) (List.cons.inj h).1
  have hpath (fuel : Nat) : keyPath (fuel + 1) (c :: name ++ rest) =
      some ([String.ofList (c :: name)], skipSpace rest) := by
    rw [keyPath, hskip, hkey, Option.bind_eq_bind, Option.bind_some]
    dsimp only
    split
    · next cs hcs => exact absurd rfl (hrest.notPoint '.' (by simp [hcs]))
    · rfl
  rw [key?, hpath]
  rfl

def assignment (name s : String) : String := name ++ " = " ++ basicString s

theorem readPair_assignment {name : String} (hne : name.toList ≠ [])
    (hname : ∀ c ∈ name.toList, isBareKey c = true) (depth : Nat) (s : String) :
    readPair (readValue (depth + 1)) (assignment name s).toList =
      some (([name], .string s), []) := by
  have hline : (assignment name s).toList =
      name.toList ++ ' ' :: '=' :: ' ' :: (basicString s).toList := by
    simp [assignment]
  have hends : Ends (' ' :: '=' :: ' ' :: (basicString s).toList) :=
    ⟨by simp; decide, by simp [skipSpace, isSpace]⟩
  have hequals : skipSpace (' ' :: '=' :: ' ' :: (basicString s).toList) =
      '=' :: ' ' :: (basicString s).toList := rfl
  have hskip : skipSpace (' ' :: (basicString s).toList) = (basicString s).toList := by
    simp [skipSpace, isSpace, basicString]
  have hvalue : readValue (depth + 1) ((basicString s).toList ++ []) = some (.string s, []) :=
    readValue_basicString depth s (by simp)
  rw [List.append_nil] at hvalue
  rw [readPair, hline, key?_bare hne hname hends, hequals]
  simp [exactly?, hskip, hvalue]

theorem readSections_assignment {name : String} (hne : name.toList ≠ [])
    (hname : ∀ c ∈ name.toList, isBareKey c = true) (fuel : Nat) (s : String) :
    readSections (fuel + 2) (assignment name s).toList = some ([([name], .string s)], []) := by
  have hpair := readPair_assignment hne hname 79 s
  obtain ⟨c, rest, hc⟩ := List.exists_cons_of_ne_nil hne
  have hbare : isBareKey c = true := hname c (by simp [hc])
  have hstart := isBareKey_start hbare
  obtain ⟨cs, hcs⟩ : ∃ cs, (assignment name s).toList = c :: cs :=
    ⟨rest ++ (" = " ++ basicString s).toList, by simp [assignment, hc]⟩
  have hline : newline? (c :: cs) = none := by
    rw [newline?]
    · exact fun _ h => hstart '\n' (by simp) (List.cons.inj h).1
    · exact fun _ h => hstart '\r' (by simp) (List.cons.inj h).1
  rw [hcs] at hpair ⊢
  rw [readSections, skipSpace_bare hbare]
  split
  · next h => exact absurd h (by simp)
  · next h => exact absurd (List.cons.inj h).1 (hstart '#' (by simp))
  · next h => exact absurd (List.cons.inj h).1 (hstart '[' (by simp))
  · next h =>
    rw [← h, hline]
    change (readPair (readValue (79 + 1)) (c :: cs) >>= _) = _
    rw [hpair]
    rfl

theorem readHeader_bare {name : List Char} (hne : name ≠ [])
    (hname : ∀ c ∈ name, isBareKey c = true) (cs : List Char) :
    readHeader ('[' :: (name ++ ']' :: '\n' :: cs)) = some (.table [String.ofList name], cs) := by
  have hends : Ends (']' :: '\n' :: cs) := ⟨by simp; decide, by simp [skipSpace, isSpace]⟩
  have hkey := key?_bare hne hname hends
  obtain ⟨c, name, rfl⟩ := List.exists_cons_of_ne_nil hne
  have hc : c ≠ '[' := isBareKey_start (hname c (by simp)) '[' (by simp)
  rw [readHeader, hkey]
  · rfl
  · exact fun _ h => hc (List.cons.inj h).1

theorem readSections_header {cs rest : List Char} {header : Header}
    {pairs : List (List String × Toml)} {sections : List Section} {fuel : Nat}
    (hheader : readHeader ('[' :: cs) = some (header, rest))
    (hrest : readSections fuel rest = some (pairs, sections)) :
    readSections (fuel + 1) ('[' :: cs) = some ([], ⟨header, pairs⟩ :: sections) := by
  have hskip : skipSpace ('[' :: cs) = '[' :: cs := rfl
  have hsection : readSections (fuel + 1) ('[' :: cs) =
      (readHeader ('[' :: cs)).bind fun found =>
        (readSections fuel found.2).bind fun more =>
          some ([], ⟨found.1, more.1⟩ :: more.2) := by
    rw [readSections, hskip]
    rfl
  rw [hsection, hheader, Option.bind_some, hrest, Option.bind_some]

/-! ### The two documents -/

/-- A document that gives a text for the section, and one with the text as its target. -/
def bareDocument (s : String) : String := assignment "access_log" s

def tableDocument (s : String) : String := "[access_log]\n" ++ assignment "target" s

theorem ofChars?_bareDocument (s : String) :
    ofChars? (bareDocument s).toList = some [("access_log", .string s)] := by
  have hstart : dropByteOrderMark (bareDocument s).toList = (bareDocument s).toList := by
    simp [bareDocument, assignment, dropByteOrderMark]
  have hlength : 1 ≤ (bareDocument s).toList.length := by simp [bareDocument, assignment]
  obtain ⟨fuel, hfuel⟩ := Nat.exists_eq_add_of_le' hlength
  have hsections : readSections (fuel + 2) (bareDocument s).toList =
      some ([(["access_log"], .string s)], []) :=
    readSections_assignment (by simp) (by simp [isBareKey]) fuel s
  rw [ofChars?, hstart, hfuel, hsections]
  rfl

theorem ofChars?_tableDocument (s : String) :
    ofChars? (tableDocument s).toList =
      some [("access_log", .table [("target", .string s)])] := by
  have hstart : dropByteOrderMark (tableDocument s).toList = (tableDocument s).toList := by
    simp [tableDocument, assignment, dropByteOrderMark]
  have hlength : 2 ≤ (tableDocument s).toList.length := by simp [tableDocument, assignment]
  obtain ⟨fuel, hfuel⟩ := Nat.exists_eq_add_of_le' hlength
  have hsections : readSections (fuel + 3) (tableDocument s).toList =
      some ([], [⟨.table ["access_log"], [(["target"], .string s)]⟩]) := by
    have hline : (tableDocument s).toList =
        '[' :: ("access_log".toList ++ ']' :: '\n' :: (assignment "target" s).toList) := by
      simp [tableDocument]
    rw [hline]
    apply readSections_header
    · exact readHeader_bare (by simp) (by simp [isBareKey]) _
    · exact readSections_assignment (by simp) (by simp [isBareKey]) fuel s
  rw [ofChars?, hstart, hfuel, hsections]
  rfl

end Toml

/-! ### The name alone -/

namespace Destination

theorem ofName_of_ne {s : String} (h : s ≠ "stdout" ∧ s ≠ "stderr") : ofName s = .file s := by
  rw [ofName, if_neg h.1, if_neg h.2]

/-- A name is one of the two that stand for a stream, or it is the path of a file. -/
theorem path?_ofName (s : String) :
    (ofName s).path? = if s ≠ "stdout" ∧ s ≠ "stderr" then some s else none := by
  split
  · next h => rw [ofName_of_ne h, path?]
  · next h =>
    obtain rfl | rfl : s = "stdout" ∨ s = "stderr" := by
      simpa [or_iff_not_imp_left] using h
    · rfl
    · rfl

theorem isSome_path?_ofName {s : String} :
    (ofName s).path?.isSome = true ↔ s ≠ "stdout" ∧ s ≠ "stderr" := by
  rw [path?_ofName]
  split <;> simp_all

theorem path?_ofName_eq_some {s path : String} :
    (ofName s).path? = some path ↔ (s ≠ "stdout" ∧ s ≠ "stderr") ∧ path = s := by
  rw [path?_ofName]
  split
  · next h => simp [h, eq_comm]
  · next h => simp [h]

theorem isFile_eq (target : Destination) : target.isFile = target.path?.isSome := by
  cases target <;> rfl

theorem eq_file_iff {target : Destination} {path : String} :
    target = .file path ↔ target.path? = some path := by
  cases target with
  | file found => rw [path?, file.injEq, Option.some.injEq]
  | stdout => exact ⟨nofun, nofun⟩
  | stderr => exact ⟨nofun, nofun⟩

theorem toText_ofName (s : String) : (ofName s).toText = s := by
  unfold ofName
  split_ifs with hout herr
  · exact hout.symm
  · exact herr.symm
  · rfl

/-- Looking the name up among the keywords makes the same choice. -/
theorem keyword?_getD (s : String) : (keyword? s).getD (.file s) = ofName s := by
  unfold keyword? keywords ofName
  by_cases hout : s = "stdout"
  · subst hout
    rfl
  by_cases herr : s = "stderr"
  · subst herr
    rfl
  · simp [toText, hout, herr, Ne.symm hout, Ne.symm herr]

end Destination

/-! ### The two sections -/

namespace Config

def withAccessLog (accessLog : AccessLog) (c : Config) : Config := { c with accessLog }

/-- The text is a document with this value for the section `access_log`, somewhere among these other
entries. -/
structure HasAccessLog (value : Toml) (others : List (String × Toml)) (text : String) : Prop where
  others_ne : ∀ entry ∈ others, entry.1 ≠ accessLogPart
  entries : ∃ before after, others = before ++ after ∧
    Toml.ofChars? text.toList = some (before ++ (accessLogPart, value) :: after)

variable {c : Config} {a : AccessLog} {value : Toml} {text : String}
  {entries others : List (String × Toml)}

theorem setPart_withAccessLog {key : String} (h : key ≠ accessLogPart) :
    setPart (c.withAccessLog a) key value = (setPart c key value).map (withAccessLog a) := by
  by_cases hlog : key = "log"
  · subst hlog
    simp only [setPart]
    cases readLog value <;> rfl
  · rw [setPart, setPart]
    · rfl
    all_goals first | exact hlog | exact h

/-- Other sections neither read nor change the section `access_log`. -/
theorem foldlM_withAccessLog (h : ∀ entry ∈ entries, entry.1 ≠ accessLogPart) :
    entries.foldlM (fun c (key, value) => setPart c key value) (c.withAccessLog a) =
      (entries.foldlM (fun c (key, value) => setPart c key value) c).map (withAccessLog a) := by
  induction entries generalizing c with
  | nil => rfl
  | cons entry entries ih =>
    obtain ⟨key, value⟩ := entry
    simp only [List.foldlM_cons, setPart_withAccessLog (h (key, value) (by simp))]
    cases setPart c key value with
    | none => rfl
    | some c' => exact ih fun entry' hentry' => h entry' (List.mem_cons_of_mem _ hentry')

/-- So the place of the section among the others does not matter. -/
theorem ofEntries?_of_mem {before after : List (String × Toml)}
    (h : ∀ entry ∈ before ++ after, entry.1 ≠ accessLogPart) :
    ofEntries? (before ++ (accessLogPart, value) :: after) =
      (readAccessLog value).bind fun a => (ofEntries? (before ++ after)).map (withAccessLog a) := by
  have hset (c : Config) :
      setPart c accessLogPart value = (readAccessLog value).map fun a => c.withAccessLog a := rfl
  have hafter : ∀ entry ∈ after, entry.1 ≠ accessLogPart := fun entry hentry =>
    h entry (List.mem_append_right _ hentry)
  unfold ofEntries?
  rw [List.foldlM_append, List.foldlM_append]
  cases before.foldlM (fun c (key, value) => setPart c key value) {} with
  | none => cases readAccessLog value <;> rfl
  | some c =>
    simp only [Option.bind_eq_bind, Option.bind_some, List.foldlM_cons, hset]
    cases readAccessLog value with
    | none => rfl
    | some a => exact foldlM_withAccessLog hafter

/-- What a document says depends on what its section says, and on the others. -/
theorem HasAccessLog.ofText_eq (h : HasAccessLog value others text)
    (hvalue : readAccessLog value = some a) :
    Config.ofText text =
      match ofEntries? others with
      | some c => (c.withAccessLog a).validate.bind fun _ => .ok (c.withAccessLog a)
      | none => .error .malformed := by
  obtain ⟨hothers, before, after, rfl, hentries⟩ := h
  rw [Config.ofText, Config.read, hentries, Option.bind_some, ofEntries?_of_mem hothers, hvalue,
    Option.bind_some]
  cases ofEntries? (before ++ after) <;> rfl

theorem HasAccessLog.accessLog_eq (h : HasAccessLog value others text)
    (hvalue : readAccessLog value = some a) {config : Config}
    (hok : Config.ofText text = .ok config) :
    config.accessLog = a := by
  rw [h.ofText_eq hvalue] at hok
  rcases hothers : ofEntries? others with _ | c
  · simp [hothers] at hok
  · rcases hvalid : (c.withAccessLog a).validate with error | ⟨⟩
    · simp [hothers, hvalid, Except.bind] at hok
    · simp only [hothers, hvalid, Except.bind, Except.ok.injEq] at hok
      subst hok
      rfl

theorem readAccessLog_string (s : String) :
    readAccessLog (.string s) = some { target := some (Destination.ofName s) } := rfl

theorem readAccessLog_target (s : String) :
    readAccessLog (.table [("target", .string s)]) =
      some { target := some (Destination.ofName s) } := by
  rw [← Destination.keyword?_getD]
  rfl

/-- A section that only names its target may be the name alone. -/
theorem ofText_bare_eq_table {s bare table : String} (hbare : HasAccessLog (.string s) others bare)
    (htable : HasAccessLog (.table [("target", .string s)]) others table) :
    Config.ofText bare = Config.ofText table := by
  rw [hbare.ofText_eq (readAccessLog_string s), htable.ofText_eq (readAccessLog_target s)]

theorem hasAccessLog_bareDocument (s : String) :
    HasAccessLog (.string s) [] (Toml.bareDocument s) :=
  ⟨by simp, [], [], rfl, Toml.ofChars?_bareDocument s⟩

theorem hasAccessLog_tableDocument (s : String) :
    HasAccessLog (.table [("target", .string s)]) [] (Toml.tableDocument s) :=
  ⟨by simp, [], [], rfl, Toml.ofChars?_tableDocument s⟩

end Config

/-! ### The command line -/

namespace Options

variable {options : Options} {s : String}

theorem word_output (s : String) : word ("--output=" ++ s) = .attached .output s := by
  have hname : ("--output=" ++ s).toList = '-' :: '-' :: ("output".toList ++ '=' :: s.toList) := by
    simp
  have hkey : Key.ofLong? (String.ofList ['o', 'u', 't', 'p', 'u', 't']) = some .output := by rfl
  rw [word, hname]
  simp [longWord, hkey]

/-- An argument that gives the target, where no earlier one did. -/
theorem readFrom_output (h : options.output = none) (s : String) (rest : List String) :
    readFrom options (("--output=" ++ s) :: rest) =
      readFrom { options with output := some s } rest := by
  have hset : options.set .output s = .ok { options with output := some s } := by
    simp [set, value?, h, put]
  rw [readFrom.eq_def]
  simp only [word_output, hset]

theorem override_target (h : options.output = some s) (config : Config) :
    (options.override config).accessLog.target = some (Destination.ofName s) := by
  simp only [override, h]

theorem load_target {files : Files} {config : Config} (h : options.output = some s)
    (hload : options.load files = .ok config) :
    config.accessLog.target = some (Destination.ofName s) := by
  rw [load_eq_bind] at hload
  rcases hbase : options.base files with failure | base
  · rw [hbase] at hload
    cases hload
  · rw [hbase] at hload
    obtain ⟨-, rfl⟩ := judge_eq_ok_iff.1 hload
    exact override_target h base

/-- The option alone says what a document with the name alone says. -/
theorem load_output_iff (s : String) (files : Files) (config : Config) :
    ({ output := some s } : Options).load files = .ok config ↔
      Config.ofText (Toml.bareDocument s) = .ok config := by
  have htext := (Config.hasAccessLog_bareDocument s).ofText_eq (Config.readAccessLog_string s)
  have hmerged : ({ output := some s } : Options).override {} =
      Config.withAccessLog { target := some (Destination.ofName s) } {} := rfl
  rw [load_of_default rfl, judge_eq_ok_iff, hmerged, htext]
  simp only [Config.ofEntries?, List.foldlM_nil, pure]
  rcases hvalid : (Config.withAccessLog { target := some (Destination.ofName s) } {}).validate with
    error | ⟨⟩
  · simp [Except.bind]
  · simp [Except.bind, eq_comm]

end Options

/-! ### What is opened -/

namespace Program

variable {delivery : Delivery} {world rest : World} {pipeline : Pipeline World}

/-- A sink has a path if its target is one, and only then. -/
theorem path_of_openTarget {target : Destination}
    (h : openTarget { target := some target, delivery } world = (.ok pipeline, rest)) :
    pipeline.session.sink.path = target.path? := by
  have hstream {device : Nat} {settings : Settings}
      (h : openStream device settings world = (.ok pipeline, rest)) :
      pipeline.session.sink.path = none := by
    have hadopt := congrArg Prod.fst h
    unfold openStream Pipeline.adopt at hadopt
    rcases hvalid : settings.validate with error | ⟨⟩
    · simp [hvalid] at hadopt
    · simp only [hvalid, Except.ok.injEq] at hadopt
      subst hadopt
      rfl
  cases target with
  | stdout => exact hstream h
  | stderr => exact hstream h
  | file path =>
    obtain ⟨-, -, hsession⟩ := Pipeline.openAt_ok (o := World.fileOutputs) h
    unfold Session.openAt at hsession
    rcases hopen : World.fileOutputs.openPath path world with ⟨cause | handle, opened⟩
    · simp [hopen] at hsession
    · rw [hopen] at hsession
      obtain ⟨hsession, -⟩ := Prod.mk.inj hsession
      rw [← Except.ok.inj hsession]
      rfl

end Program

theorem clash_file_iff {log : String} {target : Destination} :
    clash (.file log) (some target) = true ↔ target = .file log := by
  cases target with
  | file path =>
    change (log == path) = true ↔ _
    rw [beq_iff_eq, Destination.file.injEq, eq_comm]
  | stdout => exact ⟨nofun, nofun⟩
  | stderr => exact ⟨nofun, nofun⟩

theorem clash_ofName_iff {log s : String} :
    clash (.file log) (some (Destination.ofName s)) = true ↔
      (s ≠ "stdout" ∧ s ≠ "stderr") ∧ log = s := by
  rw [clash_file_iff, Destination.eq_file_iff, Destination.path?_ofName_eq_some]

/-- The name of a target means the same wherever it stands. Two documents that differ in how their
section spells it are read alike, mistakes included; on the command line it wins over what is
configured, and alone it says what the document with the name alone says. The target shows as its
name. It is a file for all names but the two of the streams: only then is it opened at a path, can
be rotated and can be the file that the diagnostics go to. -/
theorem Destination.spellings_agree (s : String) :
    (∀ others bare table, Config.HasAccessLog (.string s) others bare →
        Config.HasAccessLog (.table [("target", .string s)]) others table →
        Config.ofText bare = Config.ofText table ∧
          ∀ config, Config.ofText bare = .ok config →
            config.accessLog = { target := some (ofName s) }) ∧
      Config.HasAccessLog (.string s) [] (Toml.bareDocument s) ∧
      Config.HasAccessLog (.table [("target", .string s)]) [] (Toml.tableDocument s) ∧
      (∀ (options : Options) rest, options.output = none →
        Options.readFrom options (("--output=" ++ s) :: rest) =
          Options.readFrom { options with output := some s } rest) ∧
      (∀ options : Options, options.output = some s →
        (∀ config, (options.override config).accessLog.target = some (ofName s)) ∧
          ∀ files config, options.load files = .ok config →
            config.accessLog.target = some (ofName s)) ∧
      (∀ files config, ({ output := some s } : Options).load files = .ok config ↔
        Config.ofText (Toml.bareDocument s) = .ok config) ∧
      (ofName s).toText = s ∧
      ((ofName s).isFile = true ↔ s ≠ "stdout" ∧ s ≠ "stderr") ∧
      (∀ delivery world pipeline rest,
        Program.openTarget { target := some (ofName s), delivery } world = (.ok pipeline, rest) →
          (pipeline.session.sink.isRotatable = true ↔ s ≠ "stdout" ∧ s ≠ "stderr") ∧
          (pipeline.session.sink.path = some s ↔ s ≠ "stdout" ∧ s ≠ "stderr")) ∧
      (∀ delivery world, s ≠ "stdout" ∧ s ≠ "stderr" →
        Program.openTarget { target := some (ofName s), delivery } world =
          Pipeline.openAt World.fileOutputs { delivery } s world) ∧
      (∀ delivery world, s = "stdout" ∨ s = "stderr" →
        (Program.openTarget { target := some (ofName s), delivery } world).2.files = world.files) ∧
      ((∃ log, clash (.file log) (some (ofName s)) = true) ↔ s ≠ "stdout" ∧ s ≠ "stderr") ∧
      ∀ log, clash (.file log) (some (ofName s)) = true → log = s := by
  refine ⟨?documents, Config.hasAccessLog_bareDocument s, Config.hasAccessLog_tableDocument s,
    ?argument, ?overridden, Options.load_output_iff s, toText_ofName s, ?file, ?sink, ?opened,
    ?streams, ?clash, ?log⟩
  case documents =>
    intro others bare table hbare htable
    exact ⟨Config.ofText_bare_eq_table hbare htable, fun config =>
      hbare.accessLog_eq (Config.readAccessLog_string s)⟩
  case argument => exact fun options rest h => Options.readFrom_output h s rest
  case overridden =>
    exact fun options h => ⟨Options.override_target h, fun files config => Options.load_target h⟩
  case file => rw [isFile_eq, isSome_path?_ofName]
  case sink =>
    intro delivery world pipeline rest hopen
    rw [Sink.isRotatable, Program.path_of_openTarget hopen, isSome_path?_ofName,
      path?_ofName_eq_some]
    exact ⟨Iff.rfl, by simp⟩
  case opened =>
    intro delivery world hs
    rw [ofName_of_ne hs]
    rfl
  case streams => rintro delivery world (rfl | rfl) <;> rfl
  case clash => simp only [clash_ofName_iff, exists_and_left, exists_eq, and_true]
  case log => exact fun log h => (clash_ofName_iff.1 h).2

/-- A name that is not quite that of a stream, with diagnostics that are configured too. Its file
opens and can be rotated. -/
theorem Destination.spellings_agree_capital :
    let bare := "access_log = \"Stdout\"\n[log]\nlevel = \"debug\"\n"
    let table := "[log]\nlevel = \"debug\"\n[access_log]\ntarget = \"Stdout\"\n"
    let options : Options := { output := some "Stdout", noRotate := true }
    (Config.ofText bare = Config.ofText table ∧
      Config.ofText bare =
        .ok { log := { level := .debug }, accessLog := { target := some (.file "Stdout") } }) ∧
    (options.override { accessLog := { target := some .stdout } }).accessLog.target =
      some (.file "Stdout") ∧
    ∃ pipeline rest,
      Program.openTarget { target := some (ofName "Stdout") } {} = (.ok pipeline, rest) ∧
        pipeline.session.sink.isRotatable = true := by
  intro bare table options
  have hbare : Config.HasAccessLog (.string "Stdout") [("log", .table [("level", .string "debug")])]
      bare := ⟨by simp [accessLogPart], [], _, rfl, by cbv⟩
  have htable : Config.HasAccessLog (.table [("target", .string "Stdout")])
      [("log", .table [("level", .string "debug")])] table :=
    ⟨by simp [accessLogPart], _, [], (List.append_nil _).symm, by cbv⟩
  obtain ⟨hdocuments, -, -, -, hoverridden, -, -, -, hsink, -⟩ :=
    Destination.spellings_agree "Stdout"
  have hopen : Program.openTarget { target := some (ofName "Stdout") } {} =
      (.ok { settings := {}, session := Session.start { path := some "Stdout" } 0
              { files := { nodes := [(["Stdout"], .file 0)], contents := [[]] }
                handles := [{ backing := .file 0 }] } },
        { files := { nodes := [(["Stdout"], .file 0)], contents := [[]] }
          handles := [{ backing := .file 0 }] }) := rfl
  exact ⟨⟨(hdocuments _ bare table hbare htable).1, by cbv⟩, (hoverridden options rfl).1 _,
    _, _, hopen, ((hsink _ _ _ _ hopen).1.2 (by simp))⟩

end RequestLog
