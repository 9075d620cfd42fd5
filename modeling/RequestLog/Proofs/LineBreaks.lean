import RequestLog.Pattern.Renderer
import RequestLog.Record.Reader
import RequestLog.Pipeline.Source
import RequestLog.Proofs.CharacterBytes
import Mathlib

/-! Line breaks in lines. What a directive works out itself has none, so the newlines in a line are
its own end and those in the texts that were copied from the record. -/

namespace RequestLog

def breaks (text : String) : Nat := text.toList.count '\n'

@[simp] theorem breaks_empty : breaks "" = 0 := rfl

@[simp] theorem breaks_append (a b : String) : breaks (a ++ b) = breaks a + breaks b := by
  simp [breaks]

@[simp] theorem breaks_ofList (cs : List Char) : breaks (String.ofList cs) = cs.count '\n' := by
  simp [breaks]

theorem breaks_join (texts : List String) :
    breaks (String.join texts) = (texts.map breaks).sum := by
  induction texts with
  | nil => rfl
  | cons text texts ih => simp [String.join_cons, ih]

theorem breaks_eq_zero_iff {text : String} : breaks text = 0 ↔ '\n' ∉ text.toList :=
  List.count_eq_zero

/-! ### Texts without line breaks -/

theorem ofNat_ne_newline {n : Nat} (h : n ≠ 10) : Char.ofNat n ≠ '\n' := by
  intro heq
  by_cases hv : n.isValidChar
  · have hn : (Char.ofNat n).toNat = n := by
      rw [Char.ofNat, dif_pos hv]
      rfl
    rw [heq] at hn
    exact h hn.symm
  · rw [Char.ofNat, dif_neg hv] at heq
    exact absurd heq (by decide)

theorem breaks_repr (n : Nat) : breaks n.repr = 0 := by
  rw [breaks_eq_zero_iff, Nat.repr, String.toList_ofList]
  intro hmem
  have hdigit := Nat.isDigit_of_mem_toDigits (by decide) (by decide) hmem
  exact absurd hdigit (by decide)

namespace UpperCase

theorem runs_beyond : ∀ run ∈ runs, 10 < run.first + run.move := by decide +kernel

theorem expansions_beyond : ∀ entry ∈ expansions, ∀ code ∈ entry.2, 10 < code := by
  decide +kernel

theorem newline_not_mem_beyondAscii {n : Nat} (h : 0x80 ≤ n) : '\n' ∉ beyondAscii n := by
  unfold beyondAscii
  cases he : expansions.lookup n with
  | some codes =>
    obtain ⟨left, right, hmem, -⟩ := List.lookup_eq_some_iff.1 he
    have hcodes := expansions_beyond (n, codes) (by simp [hmem])
    intro hin
    obtain ⟨code, hcode, heq⟩ := List.mem_map.1 hin
    exact ofNat_ne_newline (hcodes code hcode).ne' heq
  | none =>
    cases hr : runs.find? (·.holds n) with
    | some run =>
      have hrun := runs_beyond run (List.mem_of_find?_eq_some hr)
      have hholds : run.holds n = true := List.find?_some (p := fun run : Run => run.holds n) hr
      have hfirst : run.first ≤ n := by
        simp only [Run.holds, Bool.and_eq_true, decide_eq_true_eq] at hholds
        exact hholds.1.1
      have hbeyond : (n + run.move).toNat ≠ 10 := by omega
      simpa using (ofNat_ne_newline hbeyond).symm
    | none =>
      have hbeyond : n ≠ 10 := by omega
      simpa using (ofNat_ne_newline hbeyond).symm

theorem count_ofChar (c : Char) : (ofChar c).count '\n' = [c].count '\n' := by
  unfold ofChar
  split
  · unfold asciiUpper
    split
    · rename_i hrange
      have hlow : 97 ≤ c.toNat := hrange.1
      have hupper : Char.ofNat (c.toNat - 32) ≠ '\n' := ofNat_ne_newline (by omega)
      have hself : c ≠ '\n' := by
        rintro rfl
        exact absurd hlow (by decide)
      simp [hupper, hself]
    · rfl
  · rename_i hascii
    have hself : c ≠ '\n' := by
      rintro rfl
      exact hascii (by decide)
    rw [List.count_eq_zero_of_not_mem (newline_not_mem_beyondAscii (by omega))]
    simp [hself]

/-- Upper case neither adds a line break nor takes one away. -/
theorem breaks_ofString (text : String) : breaks (ofString text) = breaks text := by
  rw [ofString, breaks_ofList, breaks]
  induction text.toList with
  | nil => rfl
  | cons c cs ih =>
    rw [List.flatMap_cons, List.count_append, ih, count_ofChar, ← List.count_append]
    rfl

end UpperCase

namespace Timestamp

theorem breaks_pad (width n : Nat) : breaks (pad width n) = 0 := by
  have hzeros : (List.replicate (width - (toString n).length) '0').count '\n' = 0 := by
    simp [List.count_replicate]
  rw [pad, breaks_append, breaks_ofList, hzeros, Nat.zero_add]
  exact breaks_repr n

theorem breaks_monthName (month : Nat) : breaks (monthName month) = 0 := by
  have hnames : ∀ name ∈ ["Jan", "Feb", "Mar", "Apr", "May", "Jun", "Jul", "Aug", "Sep", "Oct",
      "Nov", "Dec"], breaks name = 0 := by decide
  unfold monthName
  rw [List.getD_eq_getElem?_getD]
  cases hname : (["Jan", "Feb", "Mar", "Apr", "May", "Jun", "Jul", "Aug", "Sep", "Oct", "Nov",
      "Dec"])[month - 1]? with
  | none => rfl
  | some name => exact hnames name (List.mem_of_getElem? hname)

theorem breaks_yearText (year : Int) : breaks (yearText year) = 0 := by
  unfold yearText
  split
  · exact breaks_pad _ _
  · rw [breaks_append, breaks_pad]
    split <;> rfl

theorem breaks_offsetText (offset : Int) : breaks (offsetText offset) = 0 := by
  simp only [offsetText, breaks_append, breaks_pad]
  split <;> rfl

theorem breaks_toLogText (t : Timestamp) : breaks t.toLogText = 0 := by
  have hmarks : breaks "[" + breaks "/" + breaks ":" + breaks " " + breaks "]" = 0 := by decide
  unfold toLogText
  simp only [breaks_append, breaks_pad, breaks_monthName, breaks_yearText, breaks_offsetText]
  omega

end Timestamp

namespace Query

theorem newline_not_mem_encodeByte (b : UInt8) : '\n' ∉ encodeByte b := by
  unfold encodeByte
  split
  · rename_i hb
    have hne : b.toNat ≠ 10 := by
      intro heq
      obtain rfl : b = 10 := UInt8.toNat_inj.1 heq
      exact absurd hb (by decide)
    simpa using (ofNat_ne_newline hne).symm
  · split
    · decide
    · have hhex (m : Nat) : Hex.upper m ≠ '\n' := by
        unfold Hex.upper
        split <;> exact ofNat_ne_newline (by omega)
      simp [(hhex _).symm]

theorem newline_not_mem_encodeText (text : String) : '\n' ∉ encodeText text := by
  simp only [encodeText, List.mem_flatMap, not_exists, not_and]
  exact fun b _ => newline_not_mem_encodeByte b

theorem newline_not_mem_encodePair (pair : String × String) : '\n' ∉ encodePair pair := by
  simp [encodePair, newline_not_mem_encodeText]

theorem newline_not_mem_encodeChars (query : Query) : '\n' ∉ encodeChars query := by
  induction query using encodeChars.induct with
  | case1 => simp [encodeChars]
  | case2 pair => exact newline_not_mem_encodePair pair
  | case3 pair rest hrest ih =>
    rw [encodeChars.eq_3 _ _ hrest]
    simp [newline_not_mem_encodePair, ih]

/-- The query of a rebuilt URL has none, whatever its names and values are. -/
theorem breaks_encode (query : Query) : breaks query.encode = 0 := by
  rw [breaks_eq_zero_iff, encode, String.toList_ofList]
  exact newline_not_mem_encodeChars query

end Query

/-! ### Copied texts -/

/-- Percent-encoding keeps the query out of it: the URL breaks where the path does. -/
theorem Record.breaks_url (record : Record) :
    (record.receivedUrl?.or record.target?).map breaks
      = (record.receivedUrl?.or record.path).map breaks := by
  have htarget : record.target?.map breaks = record.path.map breaks := by
    rw [Record.target?, Option.map_map]
    congr 1
    funext path
    rw [Function.comp_apply]
    split
    · rfl
    · rw [breaks_append, breaks_append, Query.breaks_encode]
      rfl
  cases record.receivedUrl? with
  | none => exact htarget
  | some url => rfl

namespace Directive

/-- The texts of a record that the directive shows as they are, but for their case. -/
def copied (directive : Directive) (record : Record) : List String :=
  match directive with
  | .remoteHost => record.client.address.toList
  | .requestLine =>
    match record.method, record.receivedUrl?.or record.path with
    | some method, some url => if method.isEmpty then [] else [method, url]
    | _, _ => []
  | .requestHeader header => (header.value? record).toList
  | _ => []

theorem requestLine?_breaks (record : Record) :
    ((requestLine? record).map breaks).getD 0 = ((requestLine.copied record).map breaks).sum := by
  have hurl := record.breaks_url
  unfold requestLine? copied
  cases hm : record.method with
  | none => rfl
  | some method =>
    by_cases hempty : method = ""
    · cases record.receivedUrl?.or record.path <;> simp [hempty]
    · cases hr : record.receivedUrl?.or record.target? with
      | none =>
        have hp : record.receivedUrl?.or record.path = none := by simpa [hr] using hurl.symm
        simp [hp]
      | some url =>
        obtain ⟨source, hp, hsame⟩ : ∃ source,
            record.receivedUrl?.or record.path = some source ∧ breaks source = breaks url := by
          simpa [hr] using hurl.symm
        have hmarks : breaks " " + breaks protocol = 0 := by decide
        simp [hempty, hp, hsame, UpperCase.breaks_ofString]
        omega

theorem value?_breaks (directive : Directive) (record : Record) :
    ((directive.value? record).map breaks).getD 0
      = ((directive.copied record).map breaks).sum := by
  cases directive with
  | percent | remoteLogname | remoteUser => rfl
  | remoteHost =>
    rw [value?, copied]
    cases record.client.address <;> simp
  | requestTime =>
    rw [value?]
    cases record.timestamp <;> simp [Timestamp.breaks_toLogText, copied]
  | requestLine => exact requestLine?_breaks record
  | status =>
    rw [value?]
    cases record.status <;> simp [breaks_repr, copied]
  | responseSize =>
    rw [value?]
    cases record.payload <;> simp [breaks_repr, copied]
  | requestHeader header =>
    rw [value?, copied]
    cases header.value? record <;> simp
  | unknown => rfl

end Directive

namespace Token

def copied (token : Token) (record : Record) : List String :=
  match token with
  | .literal text => [String.ofList text]
  | .directive _ rule => rule.copied record

theorem breaks_tokenText (token : Token) (record : Record) :
    breaks (Renderer.tokenText record token) = ((token.copied record).map breaks).sum := by
  cases token with
  | literal text => simp [Renderer.tokenText, copied]
  | directive code rule =>
    rw [Renderer.tokenText, copied, ← rule.value?_breaks, Renderer.shown?]
    cases hv : rule.value? record with
    | none => decide
    | some text =>
      -- An empty value has no line breaks, and neither has the dash in its place.
      by_cases hempty : text = ""
      · subst hempty
        decide
      · simp [Option.filter, hempty]

end Token

namespace Renderer

def body (renderer : Renderer) (record : Record) : String :=
  String.join (renderer.pattern.tokens.map (tokenText record))

theorem render_eq_body (renderer : Renderer) (record : Record) :
    renderer.render record = renderer.body record ++ renderer.separator := rfl

/-- A line breaks where its pattern and the texts copied from the record do. -/
theorem breaks_body (renderer : Renderer) (record : Record) :
    breaks (renderer.body record)
      = ((renderer.pattern.tokens.flatMap (·.copied record)).map breaks).sum := by
  rw [body, breaks_join]
  induction renderer.pattern.tokens with
  | nil => rfl
  | cons token tokens ih =>
    simp only [List.map_cons, List.sum_cons, List.flatMap_cons, List.map_append, List.sum_append,
      token.breaks_tokenText, ih]

end Renderer

/-! ### Bytes -/

namespace Utf8

theorem eq_newline_of_mem {c : Char} (h : Source.newline ∈ String.utf8EncodeChar c) :
    c = '\n' := by
  rcases (marks_ascii (n := 10) (by decide)).char_cases c with ⟨hc, -⟩ | ⟨-, hbytes⟩
  · exact of_decide_eq_true hc
  · exact absurd rfl (of_decide_eq_false (hbytes _ h))

theorem count_encodeChar (c : Char) :
    (String.utf8EncodeChar c).count Source.newline = [c].count '\n' := by
  by_cases hc : c = '\n'
  · subst hc
    rfl
  · rw [List.count_eq_zero_of_not_mem (mt eq_newline_of_mem hc)]
    simp [hc]

theorem count_encode (text : String) : (encode text).count Source.newline = breaks text := by
  rw [encode, encodeChars, breaks]
  induction text.toList with
  | nil => rfl
  | cons c cs ih =>
    rw [List.flatMap_cons, List.count_append, ih, count_encodeChar, ← List.count_append]
    rfl

end Utf8

theorem length_splitOn (bytes : Bytes) (b : UInt8) :
    (bytes.splitOn b).length = bytes.count b + 1 := by
  induction bytes with
  | nil => rfl
  | cons a bytes ih =>
    rw [List.splitOn_eq_splitOnP] at ih ⊢
    rw [List.splitOnP_cons_eq_if_modifyHead, List.count_cons]
    by_cases h : a = b <;> simp [h, ih]

/-- A text that ends in its only newline is one line. -/
theorem splitOn_lines {lines : List Bytes} (h : ∀ line ∈ lines, Source.newline ∉ line) :
    (lines.flatMap fun line => line ++ [Source.newline]).splitOn Source.newline =
      lines ++ [[]] := by
  induction lines with
  | nil => rfl
  | cons line lines ih =>
    rw [List.flatMap_cons, List.append_assoc, List.singleton_append,
      List.splitOn_append_cons_self_of_not_mem (h line List.mem_cons_self),
      ih fun other hmem => h other (List.mem_cons_of_mem _ hmem)]
    rfl

/-! ### The combined pattern -/

/-- The texts of a record that its line shows as they are, but for the case of the method. -/
def Record.copied (record : Record) : List String :=
  record.client.address.toList ++ Directive.requestLine.copied record
    ++ record.client.referer.toList ++ record.client.userAgent.toList

namespace Renderer

def output (renderer : Renderer) (records : List Record) : Bytes :=
  records.flatMap fun record => Utf8.encode (renderer.render record)

theorem combined_tokens : (Pattern.compile Pattern.combined).tokens =
    [ .directive "%h".toList .remoteHost, .literal " ".toList,
      .directive "%l".toList .remoteLogname, .literal " ".toList,
      .directive "%u".toList .remoteUser, .literal " ".toList,
      .directive "%t".toList .requestTime, .literal " \"".toList,
      .directive "%r".toList .requestLine, .literal "\" ".toList,
      .directive "%>s".toList .status, .literal " ".toList,
      .directive "%b".toList .responseSize, .literal " \"".toList,
      .directive "%\x7bReferer\x7di".toList (.requestHeader .referer), .literal "\" \"".toList,
      .directive "%\x7bUser-agent\x7di".toList (.requestHeader .userAgent),
      .literal "\"".toList ] := by
  cbv

variable (record : Record)

theorem breaks_body_combined :
    breaks (body {} record) = (record.copied.map breaks).sum := by
  have hmarks : breaks " " + breaks " \"" + breaks "\" " + breaks "\" \"" + breaks "\"" = 0 := by
    decide
  rw [breaks_body, combined_tokens]
  simp [Token.copied, Directive.copied, Record.copied, Header.value?]
  omega

theorem count_render :
    (Utf8.encode (render {} record)).count Source.newline
      = 1 + (record.copied.map breaks).sum := by
  rw [render_eq_body, Utf8.count_encode, breaks_append, breaks_body_combined]
  exact Nat.add_comm _ _

theorem count_output (records : List Record) :
    (output {} records).count Source.newline
      = records.length + (records.map fun record => (record.copied.map breaks).sum).sum := by
  induction records with
  | nil => rfl
  | cons record records ih =>
    rw [output, List.flatMap_cons, List.count_append, count_render, ← output, ih, List.map_cons,
      List.sum_cons, List.length_cons]
    omega

theorem encode_render :
    Utf8.encode (render {} record) = Utf8.encode (body {} record) ++ [Source.newline] := by
  rw [render_eq_body, Utf8.encode, String.toList_append, Utf8.encodeChars, List.flatMap_append]
  rfl

theorem newline_mem_body_iff :
    Source.newline ∈ Utf8.encode (body {} record) ↔ ∃ text ∈ record.copied, '\n' ∈ text.toList := by
  rw [← List.count_pos_iff, Utf8.count_encode, breaks_body_combined, Nat.pos_iff_ne_zero, ne_eq,
    List.sum_eq_zero_iff]
  simp [breaks_eq_zero_iff]

/-- A line ends in a newline and breaks nowhere else but in the texts copied from its record, so the
lines of records, one after the other, break into just these lines if and only if no copied text of
the records has a newline. Every newline in them makes one line more. -/
theorem output_lines (records : List Record) :
    (∀ record ∈ records,
      render {} record = body {} record ++ "\n" ∧
        breaks (body {} record) = (record.copied.map breaks).sum) ∧
      ((output {} records).splitOn Source.newline).length
        = records.length + (records.map fun record => (record.copied.map breaks).sum).sum + 1 ∧
      ((output {} records).splitOn Source.newline
          = (records.map fun record => Utf8.encode (body {} record)) ++ [[]] ↔
        ∀ record ∈ records, ∀ text ∈ record.copied, '\n' ∉ text.toList) := by
  have hlength := length_splitOn (output {} records) Source.newline
  rw [count_output] at hlength
  refine ⟨fun record _ => ⟨rfl, breaks_body_combined record⟩, hlength, fun hsplit => ?_,
    fun hcopied => ?_⟩
  · -- As many lines as records leave no room for a further newline.
    rw [hsplit, List.length_append, List.length_map, List.length_singleton] at hlength
    have hzero : (records.map fun record => (record.copied.map breaks).sum).sum = 0 := by omega
    simpa [List.sum_eq_zero_iff, breaks_eq_zero_iff] using hzero
  · have hbodies : ∀ line ∈ records.map fun record => Utf8.encode (body {} record),
        Source.newline ∉ line := by
      intro line hline
      obtain ⟨record, hmem, rfl⟩ := List.mem_map.1 hline
      rw [newline_mem_body_iff]
      rintro ⟨text, htext, hnewline⟩
      exact hcopied record hmem text htext hnewline
    rw [← splitOn_lines hbodies, List.flatMap_map, output]
    simp only [encode_render]

/-- A request for a path in which a line ends and another begins. -/
def forged : Bytes :=
  Utf8.encode ("\x7b\"method\":\"GET\",\"path\":\"/x HTTP/1.1\\\" - - \\\"-\\\" \\\"-\\\"\\n"
    ++ "6.6.6.6 - - - \\\"GET /admin\"\x7d")

/-- One record whose line is that of two others. -/
theorem forged_lines :
    ∃ record, Record.ofBytes forged = .ok record ∧
      breaks (render {} record) = 2 ∧
      output {} [record] =
        output {}
          [ { method := some "GET", path := some "/x" },
            { client := { address := some "6.6.6.6" }, method := some "GET",
              path := some "/admin" } ]
      := by
  refine ⟨{ method := some "GET",
            path := some "/x HTTP/1.1\" - - \"-\" \"-\"\n6.6.6.6 - - - \"GET /admin" }, ?_, ?_, ?_⟩
  · cbv
  · decide +kernel
  · decide +kernel

end Renderer

end RequestLog
