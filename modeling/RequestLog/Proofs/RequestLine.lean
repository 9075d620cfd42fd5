import RequestLog.Proofs.Substitution
import RequestLog.Proofs.Rendering
import RequestLog.Record.Reader

/-! Request lines. A request line is complete or absent, unless the record gives the empty text as
its URL: that text counts as a URL and is neither passed over nor replaced by a dash. -/

namespace RequestLog

theorem Json.asString?_eq_some_iff {json : Json} {text : String} :
    json.asString? = some text ↔ json = .string text := by
  cases json <;> simp [asString?]

/-! ### The URL of a record -/

namespace SubEvent

/-- The event tells of the request as it arrived, with this URL. -/
def Carries (event : SubEvent) (url : String) : Prop :=
  "received" ∈ event.tags ∧
    ∃ members, event.data = some (.object members) ∧ members.lookup "url" = some (.string url)

theorem url?_eq_some_iff {event : SubEvent} {url : String} :
    event.url? = some url ↔
      ∃ members, event.data = some (.object members) ∧
        members.lookup "url" = some (.string url) := by
  simp only [url?, Option.bind_eq_bind, Option.bind_eq_some_iff, Json.asString?_eq_some_iff]
  constructor
  · rintro ⟨data, hdata, value, hget, rfl⟩
    cases data with
    | object members => exact ⟨members, hdata, hget⟩
    | _ => cases hget
  · rintro ⟨members, hdata, hlookup⟩
    exact ⟨.object members, hdata, .string url, hlookup, rfl⟩

def carried? (event : SubEvent) : Option String :=
  if event.hasTag receivedTag then event.url? else none

theorem carried?_eq_some_iff {event : SubEvent} {url : String} :
    event.carried? = some url ↔ event.Carries url := by
  have htag : event.hasTag receivedTag = true ↔ "received" ∈ event.tags := List.contains_iff_mem
  rw [carried?, Carries, ← htag, ← url?_eq_some_iff]
  split <;> simp_all

end SubEvent

namespace Record

open SubEvent (carried? carried?_eq_some_iff)

/-- The URL of a request by its rule: what the first sub-event with a usable URL carries, and if
there is none the path, with the query after a question mark unless it is empty. -/
inductive HasUrl (usable : String → Prop) (record : Record) : String → Prop where
  | received {before after : List SubEvent} {event : SubEvent} {url : String}
      (hs : record.subEvents = before ++ event :: after)
      (hb : ∀ e ∈ before, ∀ u, e.Carries u → ¬ usable u) (hc : event.Carries url)
      (hu : usable url) : HasUrl usable record url
  | rebuilt {path url : String} (hs : ∀ e ∈ record.subEvents, ∀ u, e.Carries u → ¬ usable u)
      (hp : record.path = some path)
      (ht : url = if record.query = [] then path else path ++ "?" ++ record.query.encode)
      (hu : usable url) : HasUrl usable record url

/-- Every URL is usable, the empty text too. -/
abbrev HasAnyUrl (record : Record) : String → Prop := record.HasUrl fun _ => True

abbrev HasFullUrl (record : Record) : String → Prop := record.HasUrl (· ≠ "")

variable {record : Record} {url : String}

theorem receivedUrl?_eq (record : Record) :
    record.receivedUrl? = record.subEvents.findSome? carried? := by
  rw [receivedUrl?]
  induction record.subEvents with
  | nil => rfl
  | cons event events ih =>
    rw [List.filter_cons, List.findSome?_cons, carried?]
    split
    · rw [List.findSome?_cons, ih]
    · exact ih

theorem receivedUrl?_eq_none_iff :
    record.receivedUrl? = none ↔ ∀ e ∈ record.subEvents, ∀ u, ¬ e.Carries u := by
  rw [receivedUrl?_eq, List.findSome?_eq_none_iff]
  simp only [Option.eq_none_iff_forall_ne_some, ne_eq, carried?_eq_some_iff]

theorem target?_eq_some_iff :
    record.target? = some url ↔ ∃ path, record.path = some path ∧
      url = if record.query = [] then path else path ++ "?" ++ record.query.encode := by
  simp only [target?, Option.map_eq_some_iff, List.isEmpty_iff]
  exact exists_congr fun path => and_congr_right' eq_comm

theorem hasAnyUrl_iff :
    record.HasAnyUrl url ↔ record.receivedUrl?.or record.target? = some url := by
  rw [Option.or_eq_some_iff, receivedUrl?_eq_none_iff, receivedUrl?_eq,
    List.findSome?_eq_some_iff, target?_eq_some_iff]
  constructor
  · rintro (⟨hs, hb, hc, -⟩ | ⟨hs, hp, ht, -⟩)
    · refine .inl ⟨_, _, _, hs, carried?_eq_some_iff.2 hc, fun e he => ?_⟩
      exact Option.eq_none_iff_forall_ne_some.2 fun u hu =>
        hb e he u (carried?_eq_some_iff.1 hu) trivial
    · exact .inr ⟨fun e he u hu => hs e he u hu trivial, _, hp, ht⟩
  · rintro (⟨before, event, after, hs, hc, hb⟩ | ⟨hs, path, hp, ht⟩)
    · refine .received hs (fun e he u hu => ?_) (carried?_eq_some_iff.1 hc) trivial
      cases (hb e he).symm.trans (carried?_eq_some_iff.2 hu)
    · exact .rebuilt (fun e he u hu => absurd hu (hs e he u)) hp ht trivial

/-- A URL that is not empty is the one that is asked for. -/
theorem HasAnyUrl.full (h : record.HasAnyUrl url) (hne : url ≠ "") : record.HasFullUrl url := by
  cases h with
  | received hs hb hc =>
    exact .received hs (fun e he u hu => absurd trivial (hb e he u hu)) hc hne
  | rebuilt hs hp ht =>
    exact .rebuilt (fun e he u hu => absurd trivial (hs e he u hu)) hp ht hne

/-- Where the rule finds a URL that is not empty, it finds some URL when it is not that choosy. -/
theorem HasFullUrl.any (h : record.HasFullUrl url) : ∃ url', record.HasAnyUrl url' := by
  have hsome : record.receivedUrl?.or record.target? ≠ none := by
    intro hnone
    obtain ⟨hreceived, htarget⟩ := Option.or_eq_none_iff.1 hnone
    cases h with
    | @received _ _ event _ hs _ hc =>
      exact receivedUrl?_eq_none_iff.1 hreceived event (by simp [hs]) _ hc
    | rebuilt _ hp ht =>
      cases htarget.symm.trans (target?_eq_some_iff.2 ⟨_, hp, ht⟩)
  obtain ⟨url', hurl⟩ := Option.ne_none_iff_exists'.1 hsome
  exact ⟨url', hasAnyUrl_iff.2 hurl⟩

end Record

/-! ### Request lines -/

def requestText (method url : String) : String :=
  UpperCase.ofString method ++ " " ++ url ++ " HTTP/1.1"

theorem requestText_ne_dash (method url : String) : requestText method url ≠ "-" := by
  intro h
  have hblank : ' ' ∈ (requestText method url).toList := by simp [requestText]
  rw [h] at hblank
  exact absurd hblank (by decide)

theorem requestText_ne_empty (method url : String) : requestText method url ≠ "" := by
  simp [requestText]

theorem requestText_inj {method url url' : String}
    (h : requestText method url = requestText method url') : url = url' := by
  simpa [requestText, String.append_assoc] using h

namespace Directive

variable {record : Record}

theorem requestLine?_of_method {method : String} (hm : record.method = some method)
    (hne : method ≠ "") :
    requestLine? record = (record.receivedUrl?.or record.target?).map (requestText method) := by
  simp only [requestLine?, Option.bind_eq_bind, hm, Option.bind_some, String.isEmpty_iff, hne,
    if_false]
  cases record.receivedUrl?.or record.target? with
  | none => rfl
  | some url => simp [requestText, protocol, String.append_assoc]

theorem requestLine?_of_no_method (hm : record.method.getD "" = "") :
    requestLine? record = none := by
  cases h : record.method with
  | none => simp [requestLine?, h]
  | some method =>
    obtain rfl : method = "" := by simpa [h] using hm
    simp [requestLine?, h]

end Directive

/-- What a request line is to be: complete, or a dash if the method or every URL is missing or
empty. -/
structure IsRequestLine (record : Record) (text : String) : Prop where
  absent : text = "-" ↔ record.method.getD "" = "" ∨ ∀ url, ¬ record.HasFullUrl url
  complete : text ≠ "-" → ∃ method url, record.method = some method ∧ method ≠ "" ∧
    record.HasFullUrl url ∧ url ≠ "" ∧ text = requestText method url

namespace Renderer

variable (record : Record) (separator : String)

def requestLine : String := (shown? .requestLine record).getD fallback

theorem render_requestLine_eq :
    render ⟨Pattern.compile "%r", separator⟩ record = requestLine record ++ separator :=
  have htokens : (Pattern.compile "%r").tokens = [.directive "%r".toList .requestLine] := by cbv
  render_directive htokens record

theorem requestLine_of_url {record : Record} {method url : String}
    (hm : record.method = some method) (hne : method ≠ "") (hu : record.HasAnyUrl url) :
    requestLine record = requestText method url := by
  have hvalue : Directive.requestLine.value? record = some (requestText method url) := by
    rw [Directive.value?, Directive.requestLine?_of_method hm hne, Record.hasAnyUrl_iff.1 hu]
    rfl
  rw [requestLine, shown?_eq_some_iff.2 ⟨hvalue, requestText_ne_empty method url⟩]
  rfl

theorem requestLine_eq_dash_iff {record : Record} :
    requestLine record = "-" ↔ record.method.getD "" = "" ∨ ∀ url, ¬ record.HasAnyUrl url := by
  by_cases hm : record.method.getD "" = ""
  · have hvalue : Directive.requestLine.value? record = none :=
      Directive.requestLine?_of_no_method hm
    simp [requestLine, shown?, hvalue, hm, fallback]
  · obtain ⟨method, hmethod⟩ : ∃ method, record.method = some method :=
      Option.ne_none_iff_exists'.1 fun h => hm (by rw [h]; rfl)
    have hne : method ≠ "" := by simpa [hmethod] using hm
    by_cases hu : ∃ url, record.HasAnyUrl url
    · obtain ⟨url, hurl⟩ := hu
      rw [requestLine_of_url hmethod hne hurl]
      simp only [hm, requestText_ne_dash, false_or, false_iff, not_forall, not_not]
      exact ⟨url, hurl⟩
    · have hnone : record.receivedUrl?.or record.target? = none :=
        Option.eq_none_iff_forall_ne_some.2 fun url h => hu ⟨url, Record.hasAnyUrl_iff.2 h⟩
      have hvalue : Directive.requestLine.value? record = none := by
        rw [Directive.value?, Directive.requestLine?_of_method hmethod hne, hnone]
        rfl
      simp [requestLine, shown?, hvalue, fallback, not_exists.1 hu]

/-- With a URL that is not empty, or with none, the request line is as it is to be. -/
theorem isRequestLine_of_url {record : Record} (h : ¬ record.HasAnyUrl "") :
    IsRequestLine record (requestLine record) := by
  have hfull (url : String) (hu : record.HasAnyUrl url) : url ≠ "" := by
    rintro rfl
    exact h hu
  constructor
  · rw [requestLine_eq_dash_iff]
    refine or_congr_right ⟨fun hnone url hu => ?_, fun hnone url hu => ?_⟩
    · obtain ⟨url', hu'⟩ := hu.any
      exact hnone url' hu'
    · exact hnone url (hu.full (hfull url hu))
  · intro hshown
    rw [ne_eq, requestLine_eq_dash_iff, not_or, not_forall] at hshown
    obtain ⟨hm, url, hu⟩ := hshown
    rw [not_not] at hu
    obtain ⟨method, hmethod⟩ : ∃ method, record.method = some method :=
      Option.ne_none_iff_exists'.1 fun hnone => hm (by rw [hnone]; rfl)
    have hne : method ≠ "" := by simpa [hmethod] using hm
    exact ⟨method, url, hmethod, hne, hu.full (hfull url hu), hfull url hu,
      requestLine_of_url hmethod hne hu⟩

theorem isRequestLine_of_no_method {record : Record} (hm : record.method.getD "" = "") :
    IsRequestLine record (requestLine record) := by
  have hdash : requestLine record = "-" := requestLine_eq_dash_iff.2 (.inl hm)
  exact ⟨iff_of_true hdash (.inl hm), fun hshown => absurd hdash hshown⟩

/-- The request line of a record is a dash if the record has no method or no URL, and complete if it
has both. An empty URL counts as one, and with that, and a method, the line is not as it is to be;
with any other record it is. -/
theorem render_requestLine :
    ∃ text, render ⟨Pattern.compile "%r", separator⟩ record = text ++ separator ∧
      (text = "-" ↔ record.method.getD "" = "" ∨ ∀ url, ¬ record.HasAnyUrl url) ∧
      (∀ method url, record.method = some method → method ≠ "" → record.HasAnyUrl url →
        text = requestText method url) ∧
      (IsRequestLine record text ↔ record.method.getD "" = "" ∨ ¬ record.HasAnyUrl "") := by
  refine ⟨requestLine record, render_requestLine_eq record separator, requestLine_eq_dash_iff,
    fun method url hmethod hne hu => requestLine_of_url hmethod hne hu, fun hline => ?_, ?_⟩
  · by_contra! hbad
    obtain ⟨hm, hempty⟩ := hbad
    have hshown : requestLine record ≠ "-" := by
      rw [ne_eq, requestLine_eq_dash_iff, not_or, not_forall]
      exact ⟨hm, "", not_not.2 hempty⟩
    obtain ⟨method, url, hmethod, hne, -, hurl, htext⟩ := hline.complete hshown
    -- One line cannot show both the empty URL and another.
    rw [requestLine_of_url hmethod hne hempty] at htext
    exact hurl (requestText_inj htext).symm
  · rintro (hm | hurl)
    · exact isRequestLine_of_no_method hm
    · exact isRequestLine_of_url hurl

def emptyPath : Bytes := Utf8.encode "\x7b\"method\":\"GET\",\"path\":\"\"\x7d"

/-- Its request line has a gap in the place of the URL. -/
theorem emptyPath_not_requestLine :
    ¬ ∀ (line : Bytes) (record : Record) (separator : String), Record.ofBytes line = .ok record →
      ∃ text, render ⟨Pattern.compile "%r", separator⟩ record = text ++ separator ∧
        IsRequestLine record text := by
  intro h
  have hread : Record.ofBytes emptyPath = .ok { method := some "GET", path := some "" } := by cbv
  obtain ⟨text, hshown, hline⟩ := h emptyPath _ "" hread
  have hgap : render ⟨Pattern.compile "%r", ""⟩ { method := some "GET", path := some "" }
      = "GET  HTTP/1.1" := by
    decide +kernel
  obtain rfl : "GET  HTTP/1.1" = text := by simpa [hgap] using hshown
  obtain ⟨method, url, hmethod, -, -, hurl, htext⟩ := hline.complete (by decide)
  obtain rfl : "GET" = method := Option.some.inj hmethod
  have hempty : "GET  HTTP/1.1" = requestText "GET" "" := by decide +kernel
  exact hurl (requestText_inj (htext.symm.trans hempty))

end Renderer

end RequestLog
