import ServiceWire.Operation.ErrorResponse
import ServiceWire.Proofs.Codec.Success
import ServiceWire.Proofs.Number.Digits
import ServiceWire.Proofs.Number.Nearest
import ServiceWire.Proofs.Text.Cut

/-!
# Codes of error responses

A response whose status is no success is reported as an error of the service, whatever its body is:
a body that cannot be read says nothing. The code of the error is never empty and has neither a
namespace nor a location: the body names it, else a header field, else the status. The one body
that breaks this is a document whose code is no text. It is not passed over: taking it apart fails,
and the failure takes the place of the error.
-/

namespace ServiceWire

/-- Integers are compared as they are. -/
theorem Numeric.lt_int (i j : Int) : (Numeric.int i).lt (.int j) = decide (i < j) := by
  have hpos : (0 : Int) < Double.unitsInOne := Int.natCast_pos.mpr Double.unitsInOne_pos
  exact decide_eq_decide.mpr (Int.mul_lt_mul_right hpos)

namespace ErrorResponse

/-! ### Bare codes -/

/-- A code without the namespace before it and the location after it: what stands between the last
number sign before the first colon and that colon. -/
structure Bare (said code : String) : Prop where
  cut : ∃ before after : List Char, said.toList = before ++ code.toList ++ after ∧ ':' ∉ before ∧
    (before = [] ∨ before.getLast? = some '#') ∧ (after = [] ∨ after.head? = some ':')
  noNamespace : '#' ∉ code.toList
  noLocation : ':' ∉ code.toList

/-- The bare part of a code. -/
def bareOf (said : String) : String :=
  String.ofList (Text.afterLast '#' (Text.beforeFirst ':' said.toList))

theorem bare_bareOf (said : String) : Bare said (bareOf said) := by
  obtain ⟨after, hafter, hcolon⟩ := Text.exists_beforeFirst_append ':' said.toList
  obtain ⟨before, hbefore, hsign⟩ := Text.exists_append_afterLast '#'
    (Text.beforeFirst ':' said.toList)
  have hnot := Text.not_mem_beforeFirst ':' said.toList
  rw [hbefore, List.mem_append, not_or] at hnot
  refine ⟨⟨before, after, ?_, hnot.1, hsign, hcolon⟩, ?_, ?_⟩
  · rw [bareOf, String.toList_ofList, ← hbefore]
    exact hafter
  · rw [bareOf, String.toList_ofList]
    exact Text.not_mem_afterLast '#' _
  · rw [bareOf, String.toList_ofList]
    exact hnot.2

theorem normalizeCode_str (said : String) :
    normalizeCode (.str said) = .ok (if said = "" then none else some (bareOf said)) := by
  by_cases h : said = ""
  · rw [h]
    rfl
  · have htruthy : (Value.str said).truthy = true := by simpa [Value.truthy] using h
    rw [normalizeCode, htruthy, if_neg h]
    rfl

/-- A code that is no text cannot be taken apart. -/
theorem exists_normalizeCode_error {v : Value} (htruthy : v.truthy = true)
    (h : ∀ s, v ≠ .str s) : ∃ f, normalizeCode v = .error f := by
  have htext : ∃ f, v.asText = .error f := by
    cases v with
    | str s => exact absurd rfl (h s)
    | bytes form data => cases form <;> exact ⟨_, rfl⟩
    | _ => exact ⟨_, rfl⟩
  obtain ⟨f, hf⟩ := htext
  refine ⟨f, ?_⟩
  rw [normalizeCode, htruthy, hf]
  rfl

/-- The code that stands for a status. -/
def statusCode (status : Int) : String := "Http" ++ toString status

theorem toList_statusCode (status : Int) :
    (statusCode status).toList = "Http".toList ++ (toString status).toList :=
  String.toList_append

theorem statusCode_ne_empty (status : Int) : statusCode status ≠ "" := by
  intro h
  have hlist := toList_statusCode status
  rw [h] at hlist
  exact absurd hlist (by simp)

/-- The code of a status consists of letters, digits and a minus sign. -/
theorem not_mem_statusCode (status : Int) {c : Char} (hdigit : Number.isDigit c = false)
    (hminus : c ≠ '-') (hletters : c ∉ "Http".toList) : c ∉ (statusCode status).toList := by
  rw [toList_statusCode, List.mem_append, not_or, Number.toList_toString]
  refine ⟨hletters, fun h => ?_⟩
  have hnot : c ∉ Nat.toDigits 10 status.natAbs := by
    intro hmem
    rw [Number.isDigit_of_mem_toDigits hmem] at hdigit
    cases hdigit
  split at h
  · exact hnot h
  · rcases List.mem_cons.mp h with rfl | h
    · exact hminus rfl
    · exact hnot h

/-! ### Bodies -/

/-- What cannot be read as JSON is no error of its own. -/
theorem kind_of_parse_error {content : Bytes} {f : Failure}
    (h : JsonBody.parse content = .error f) : f.kind = .malformedJson ∨ f.kind = .undecodable := by
  rw [JsonBody.parse, JsonBody.textOf] at h
  cases hdecode : Utf8.decode? content with
  | none =>
    rw [hdecode] at h
    cases h
    exact .inr rfl
  | some s =>
    rw [hdecode] at h
    change JsonBody.parseText s = .error f at h
    rw [JsonBody.parseText] at h
    split at h
    · cases h
    · cases h
      exact .inl rfl

/-- The failures that make a body say nothing. -/
def passedOver : List FailureKind := [.value, .malformedJson, .undecodable, .malformedXml]

theorem passedOver_of_ofJson {content : Bytes} {f : Failure} (h : ofJson content = .error f) :
    f.kind ∈ passedOver := by
  rw [ofJson] at h
  cases hparse : JsonBody.parse content with
  | error e =>
    rw [hparse] at h
    cases h
    rcases kind_of_parse_error hparse with hkind | hkind
    · rw [hkind]
      decide
    · rw [hkind]
      decide
  | ok d =>
    rw [hparse, ok_bind] at h
    split at h
    · cases h
    · cases h
      decide

theorem passedOver_of_ofXml {content : Bytes}
    (hxml : ∀ f, Xml.parse content = .error f → f.kind = .malformedXml ∨ f.kind = .value)
    {f : Failure} (h : ofXml content = .error f) : f.kind ∈ passedOver := by
  rw [ofXml] at h
  cases hparse : Xml.parse content with
  | error e =>
    rw [hparse] at h
    cases h
    rcases hxml f hparse with hkind | hkind
    · rw [hkind]
      decide
    · rw [hkind]
      decide
  | ok root =>
    rw [hparse] at h
    cases h

/-- Every body says something, if only that it says nothing. -/
theorem exists_details {content : Bytes}
    (hxml : looksLikeXml content = true → ∀ f, Xml.parse content = .error f →
      f.kind = .malformedXml ∨ f.kind = .value) :
    ∃ d, details content = .ok d := by
  rw [details]
  split
  · exact ⟨{}, rfl⟩
  · cases hread : if looksLikeXml content then ofXml content else ofJson content with
    | ok d => exact ⟨d, rfl⟩
    | error f =>
      have hkind : f.kind ∈ passedOver := by
        split at hread
        · rename_i hlooks
          exact passedOver_of_ofXml (hxml hlooks) hread
        · exact passedOver_of_ofJson hread
      refine ⟨{}, ?_⟩
      simp only [passedOver, List.mem_cons, List.not_mem_nil, or_false] at hkind
      rcases hkind with hkind | hkind | hkind | hkind
      · simp only [hkind]
      · simp only [hkind]
      · simp only [hkind]
      · simp only [hkind]

/-- The body of a response: bytes, a text or nothing. -/
def PlainBody (response : Http.Response) : Prop :=
  response.body = .null ∨ (∃ data, response.body = .ofBytes data) ∨ ∃ s, response.body = .str s

theorem exists_content {response : Http.Response} (h : PlainBody response) :
    ∃ content, response.read.1 = .ok content := by
  rw [Http.Response.read]
  rcases h with h | ⟨data, h⟩ | ⟨s, h⟩
  · rw [h]
    exact ⟨[], rfl⟩
  · rw [h]
    exact ⟨data, rfl⟩
  · rw [h]
    exact ⟨bytesOf s, rfl⟩

/-! ### The code of an error -/

/-- The code that a body names, if it names any, is a text. -/
def Details.Textual (d : Details) : Prop := d.code.truthy = true → ∃ s, d.code = .str s

/-- What is said of the code of an error: by the body, else by the header field for it. -/
inductive Said (response : Http.Response) (d : Details) : String → Prop
  | body {s : String} (code : d.code = .str s) (nonempty : s ≠ "") : Said response d s
  | header {s : String} (silent : d.code.truthy = false)
      (field : response.headers.get? "x-amzn-ErrorType" = some (.str s)) : Said response d s
  | nothing (silent : d.code.truthy = false)
      (field : response.headers.get? "x-amzn-ErrorType" = none) : Said response d ""

theorem get?_isText {h : Headers} (texts : ∀ p ∈ h.toList, ∃ s, p.2 = .str s) {name : String}
    {v : Value} (hv : h.get? name = some v) : ∃ s, v = .str s := by
  rw [Headers.get?, Option.map_eq_some_iff] at hv
  obtain ⟨p, hp, rfl⟩ := hv
  obtain ⟨before, after, heq, -⟩ := List.lookup_eq_some_iff.mp hp
  refine texts p (List.mem_map.mpr ⟨(Text.lower name, p), ?_, rfl⟩)
  rw [heq]
  exact List.mem_append_right _ (List.mem_cons_self ..)

theorem exists_said {response : Http.Response} {d : Details}
    (texts : ∀ p ∈ response.headers.toList, ∃ s, p.2 = .str s) (hd : d.Textual) :
    ∃ said, Said response d said ∧
      normalizeCode (if d.code.truthy then d.code
        else (response.headers.get? "x-amzn-ErrorType").getD .null) =
          .ok (if said = "" then none else some (bareOf said)) := by
  cases htruthy : d.code.truthy with
  | true =>
    obtain ⟨s, hs⟩ := hd htruthy
    have hne : s ≠ "" := by
      rintro rfl
      rw [hs] at htruthy
      cases htruthy
    refine ⟨s, .body hs hne, ?_⟩
    rw [if_pos rfl, hs, normalizeCode_str]
  | false =>
    rw [if_neg Bool.false_ne_true]
    cases hfield : response.headers.get? "x-amzn-ErrorType" with
    | none => exact ⟨"", .nothing htruthy hfield, rfl⟩
    | some v =>
      obtain ⟨s, rfl⟩ := get?_isText texts hfield
      exact ⟨s, .header htruthy hfield, normalizeCode_str s⟩

theorem bareOf_empty : bareOf "" = "" := rfl

/-- The code of an error is the bare part of what is said, or stands for the status. -/
theorem codeOf_eq {response : Http.Response} {d : Details} {status : Int}
    (hstatus : response.status = .int status)
    (texts : ∀ p ∈ response.headers.toList, ∃ s, p.2 = .str s) (hd : d.Textual) :
    ∃ said, Said response d said ∧ codeOf response d =
      .ok (if bareOf said = "" then statusCode status else bareOf said) := by
  obtain ⟨said, hsaid, hnormalize⟩ := exists_said texts hd
  refine ⟨said, hsaid, ?_⟩
  rw [codeOf]
  simp only [hnormalize, ok_bind, hstatus]
  by_cases hempty : said = ""
  · rw [if_pos hempty, hempty, bareOf_empty, if_pos rfl]
    rfl
  · rw [if_neg hempty]
    by_cases hbare : bareOf said = ""
    · rw [hbare, if_pos rfl]
      rfl
    · have hnonempty : (bareOf said).isEmpty = false := by
        rw [Bool.eq_false_iff]
        exact fun h => hbare (String.isEmpty_iff.mp h)
      rw [if_neg hbare, Option.filter_some, hnonempty]
      rfl

/-- A code is not empty, and names neither a namespace nor a location. -/
structure WellNamed (code : String) : Prop where
  nonempty : code ≠ ""
  noNamespace : '#' ∉ code.toList
  noLocation : ':' ∉ code.toList

theorem wellNamed_code (said : String) (status : Int) :
    WellNamed (if bareOf said = "" then statusCode status else bareOf said) := by
  split
  · exact ⟨statusCode_ne_empty status, not_mem_statusCode status (by decide) (by decide) (by decide),
      not_mem_statusCode status (by decide) (by decide) (by decide)⟩
  · rename_i h
    exact ⟨h, (bare_bareOf said).noNamespace, (bare_bareOf said).noLocation⟩

/-! ### Failed responses -/

variable {g : Graph}

theorem isSuccess_of_int {response : Http.Response} {status : Int}
    (hstatus : response.status = .int status) (hrange : status < 200 ∨ 300 ≤ status) :
    response.isSuccess = .ok false := by
  rw [Http.Response.isSuccess, hstatus]
  refine congrArg Except.ok ?_
  rcases hrange with h | h
  · rw [Numeric.lt_int, decide_eq_true h]
    rfl
  · rw [Numeric.lt_int status 300, decide_eq_false (Int.not_lt.mpr h), Bool.and_false]

/-- A response that failed is reported as an error of the service with its status and a well-named
code, unless its body is a document whose code is no text: then a failure is reported instead. -/
theorem handle_of_failed (u : ResponseReader) (shape : Option g.Ref) (operation : Value)
    {response : Http.Response} {status : Int} (hstatus : response.status = .int status)
    (hrange : status < 200 ∨ 300 ≤ status)
    (texts : ∀ p ∈ response.headers.toList, ∃ s, p.2 = .str s) (hbody : PlainBody response)
    (hxml : ∀ content f, response.read.1 = .ok content → looksLikeXml content = true →
      Xml.parse content = .error f → f.kind = .malformedXml ∨ f.kind = .value) :
    ∃ content d, response.read.1 = .ok content ∧ details content = .ok d ∧
      (d.Textual → ∃ said code text request, Said response d said ∧ Bare said (bareOf said) ∧
        code = (if bareOf said = "" then statusCode status else bareOf said) ∧ WellNamed code ∧
        (handle u response shape operation).result =
          .error (.service code text (.int status) request operation)) ∧
      (¬d.Textual → ∃ f, (handle u response shape operation).result = .error (.failure f)) := by
  obtain ⟨content, hcontent⟩ := exists_content hbody
  obtain ⟨d, hd⟩ := exists_details fun hlooks f => hxml content f hcontent hlooks
  have hparse : parse response operation = (do
      let code ← codeOf response d
      return .service code (if d.text.truthy then d.text else .str "") response.status
        (requestOf response d) operation) := by
    rw [parse, hcontent, ok_bind, hd, ok_bind]
  have hreported {e : WireError} (h : parse response operation = .ok e) :
      (handle u response shape operation).result = .error e := by
    rw [handle, isSuccess_of_int hstatus hrange, h]
  have hfailed {f : Failure} (h : parse response operation = .error f) :
      (handle u response shape operation).result = .error (.failure f) := by
    rw [handle, isSuccess_of_int hstatus hrange, h]
  refine ⟨content, d, hcontent, hd, fun htextual => ?_, fun htextual => ?_⟩
  · obtain ⟨said, hsaid, hcode⟩ := codeOf_eq hstatus texts htextual
    refine ⟨said, _, if d.text.truthy then d.text else .str "", requestOf response d, hsaid,
      bare_bareOf said, rfl, wellNamed_code said status, hreported ?_⟩
    rw [hparse, hcode, ok_bind, hstatus]
    rfl
  · rw [Details.Textual, Classical.not_imp, not_exists] at htextual
    obtain ⟨f, hf⟩ := exists_normalizeCode_error htextual.1 htextual.2
    refine ⟨f, hfailed ?_⟩
    rw [hparse, codeOf, if_pos htextual.1, hf]
    rfl

/-- A body that says what was not found, with a namespace and a location. -/
def notFoundText : String := "\x7b\"__type\":\"shop#NotFound:/items\",\"message\":\"gone\"\x7d"

/-- A response that says what was not found. -/
def notFound : Http.Response where
  status := .int 404
  body := .str notFoundText

theorem details_notFound : details (bytesOf notFoundText) =
    .ok { code := .str "shop#NotFound:/items", text := .str "gone" } := by
  cbv

theorem looksLikeXml_notFound : looksLikeXml (bytesOf notFoundText) = false := by
  cbv

/-- The code of what was not found is freed of its namespace and its location. -/
theorem handle_of_failed_notFound :
    ∃ text request, (handle ⟨.json, .complete .json false .null, .null, false⟩ notFound
        (none : Option Graph.empty.Ref) .null).result =
      .error (.service "NotFound" text (.int 404) request .null) := by
  obtain ⟨content, d, hcontent, hd, htextual, -⟩ :=
    handle_of_failed (g := Graph.empty) ⟨.json, .complete .json false .null, .null, false⟩ none
      .null (show notFound.status = .int 404 from rfl) (.inr (by decide)) (fun p hp => by cases hp)
      (.inr (.inr ⟨_, rfl⟩)) fun content f hcontent hlooks => by
        cases hcontent
        cases looksLikeXml_notFound.symm.trans hlooks
  cases hcontent
  cases details_notFound.symm.trans hd
  obtain ⟨said, code, text, request, hsaid, -, hcode, -, hresult⟩ := htextual fun _ => ⟨_, rfl⟩
  cases hsaid with
  | body hsaid =>
    cases hsaid
    have hbare : bareOf "shop#NotFound:/items" = "NotFound" := by decide +kernel
    rw [hbare, if_neg (by decide)] at hcode
    exact ⟨text, request, hcode ▸ hresult⟩
  | header silent | nothing silent => cases silent

/-- A response whose body is a document with a number for its code. -/
def numbered : Http.Response where
  status := .int 400
  body := .str "\x7b\"code\":5\x7d"

/-- Not every failed response is reported as an error of the service: taking a code apart that is
no text fails. -/
theorem handle_numbered :
    (handle ⟨.json, .complete .json false .null, .null, false⟩ numbered
      (none : Option Graph.empty.Ref) .null).result = .error (.failure (.plain .attribute)) := by
  cbv

end ErrorResponse

end ServiceWire
