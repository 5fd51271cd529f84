import WebServer.Proofs.Requests.Answers
import WebServer.Proofs.Stream.Calm
import WebServer.Proofs.Text.Utf8

/-!
# Answers to HEAD requests

What a route answers to a HEAD request is cut behind its head. What is written instead of it, if
there is no such answer, is a page for the failure, and that is written with its body
(`answer_to_head`).
-/
namespace WebServer

open Http (Request Response Failure)
open WebSocket (Handshake.isUpgrade Handshake.validate)

/-- What is written is a head and nothing behind it. -/
def HeadOnly (bytes : Bytes) : Prop := Request.cutHead? bytes = some (bytes, [])

/-- What is cut off behind a head is not in it. -/
theorem headOnly_of_cutHead? {bytes head rest : Bytes}
    (cut : Request.cutHead? bytes = some (head, rest)) : HeadOnly head := by
  obtain ⟨⟨lines, tail⟩, found, same⟩ := Option.map_eq_some_iff.1 cut
  obtain ⟨rfl, rfl⟩ := Prod.mk.inj same
  obtain ⟨head, rest, again, -⟩ := Request.exists_cutHead? lines []
  rw [List.append_nil] at again
  have longer := Request.cutHead?_append again tail
  rw [← Request.append_of_cutHead? cut, cut] at longer
  obtain ⟨rfl, behind⟩ := Prod.mk.inj (Option.some.inj longer)
  obtain rfl : rest = [] := List.append_left_eq_self.1 behind.symm
  exact again

namespace Http.Response

/-- The text ends where a line does. -/
def EndsLine (text : String) : Prop := ∃ line, text = line ++ "\r\n"

theorem EndsLine.behind {a b : String} (h : EndsLine b) : EndsLine (a ++ b) := by
  obtain ⟨line, rfl⟩ := h
  exact ⟨a ++ line, by rw [String.append_assoc]⟩

theorem endsLine_statusLine (r : Response) : EndsLine r.statusLine := ⟨_, rfl⟩

theorem endsLine_fieldLine (field : String × String) : EndsLine (fieldLine field) := ⟨_, rfl⟩

/-- Lines behind a line leave it at the end of one, if there are any. -/
theorem EndsLine.join {start : String} (h : EndsLine start) (fields : List (String × String)) :
    EndsLine (start ++ String.join (fields.map fieldLine)) := by
  induction fields generalizing start with
  | nil => simpa using h
  | cons field fields ih =>
    rw [List.map_cons, String.join_cons, ← String.append_assoc]
    exact ih (endsLine_fieldLine field).behind

/-- A head ends in CRLFCRLF. -/
theorem exists_append_crlfcrlf (r : Response) :
    ∃ before, Text.encode r.head = before ++ crlfcrlf := by
  have fields : EndsLine (r.statusLine ++ String.join (r.writtenHeaders.fields.map fieldLine)) :=
    (endsLine_statusLine r).join _
  have lines : EndsLine
      (r.statusLine ++ String.join (r.writtenHeaders.fields.map fieldLine) ++ r.lengthLine) := by
    unfold lengthLine
    split
    · simpa using fields
    · exact EndsLine.behind ⟨_, rfl⟩
  obtain ⟨before, whole⟩ := lines
  refine ⟨Text.encode before, ?_⟩
  have mark : Text.encode "\r\n" ++ Text.encode "\r\n" = crlfcrlf := by decide
  rw [head, whole, Text.encode_append, Text.encode_append, List.append_assoc, mark]

/-- A response with a body is more than a head. -/
theorem body_of_headOnly {r : Response} (h : HeadOnly r.toBytes) : r.body = [] := by
  obtain ⟨before, ends⟩ := r.exists_append_crlfcrlf
  obtain ⟨head, rest, cut, early⟩ := Request.exists_cutHead? before r.body
  have same : (head, rest) = (r.toBytes, []) := by
    rw [HeadOnly, toBytes, ends, cut] at h
    rw [toBytes, ends]
    exact Option.some.inj h
  obtain ⟨rfl, -⟩ := Prod.mk.inj same
  rw [toBytes, ends, List.length_append] at early
  exact List.length_eq_zero_iff.1 (by omega)

end Http.Response

theorem Text.encode_singleton_ne_nil (c : Char) : encode (.singleton c) ≠ [] := by
  intro empty
  have size : (encode (.singleton c)).length = c.utf8Size := by
    rw [← String.utf8ByteSize_singleton]
    rfl
  have pos := c.utf8Size_pos
  rw [empty, List.length_nil] at size
  omega

/-- The plain page has a body, whatever its status and message. -/
theorem Dispatcher.body_plainPage_ne_nil (status : Nat) (message : String) :
    (plainPage status message).body ≠ [] := by
  have brace (members : List (String × Json)) :
      ∃ text, Json.render (.object members) = text ++ String.singleton '\x7d' := by
    cases members with
    | nil => exact ⟨"\x7b", rfl⟩
    | cons member members => exact ⟨_, String.push_eq_append _⟩
  obtain ⟨text, rendered⟩ := brace (List.foldl
    (fun done member => Json.putMember member.1 member.2 done) [] [("status", .nat status),
      ("error", .text ((Http.reasonPhrase? status).getD "Unknown")), ("message", .text message)])
  have body : (plainPage status message).body =
      Text.encode text ++ Text.encode (.singleton '\x7d') := by
    rw [← Text.encode_append, ← rendered]
    rfl
  rw [body]
  exact List.append_ne_nil_of_right_ne_nil _ (Text.encode_singleton_ne_nil _)

/-- Only a GET request becomes a WebSocket. -/
theorem WebSocket.Handshake.method_of_validate {request : Request} {key : String}
    (valid : validate request = .ok key) : request.method = .get := by
  unfold validate at valid
  simp only at valid
  split at valid
  · cases valid
  · split at valid
    · cases valid
    · split at valid
      · cases valid
      · rename_i get
        exact Classical.not_not.1 get

namespace Host

variable {app : App}

/-- A handler has this response to a request with that body. -/
def Responds (host : Host app) (request : Request) (body : Bytes) (response : Response) : Prop :=
  ∃ whole, request.attachBody body = .ok whole ∧ Handshake.isUpgrade whole = false ∧
    (App.tryRoute host.tables whole).result = .ok response

/-- What is written of the answer to a HEAD request is its head. -/
theorem bytesOf_head (response : Response) :
    HeadOnly (bytesOf response true) ∧ bytesOf response true <+: response.toBytes := by
  obtain ⟨before, ends⟩ := response.exists_append_crlfcrlf
  obtain ⟨head, rest, cut, -⟩ := Request.exists_cutHead? before response.body
  have written : Request.cutHead? response.toBytes = some (head, rest) := by
    rw [Response.toBytes, ends, cut]
  have same : bytesOf response true = head := by
    simp [bytesOf, written]
  rw [same]
  exact ⟨headOnly_of_cutHead? cut, rest, (Request.append_of_cutHead? written).symm⟩

/-- What is written for a failure is its page with its body. The plain page has one. -/
theorem body_of_refusal {tables : app.Tables} {failure : Failure} {closes : Bool}
    (h : HeadOnly (refusal tables failure closes)) :
    (App.errorFor tables failure).body = [] ∧ tables.errorPage ≠ none := by
  have announced : (announce (App.errorFor tables failure) closes).body =
      (App.errorFor tables failure).body := by
    cases closes <;> rfl
  have empty : (App.errorFor tables failure).body = [] := by
    rw [← announced]
    exact Response.body_of_headOnly h
  refine ⟨empty, fun none => ?_⟩
  unfold App.errorFor App.errorResponse at empty
  rw [none] at empty
  exact Dispatcher.body_plainPage_ne_nil _ _ empty

end Host

variable {app : App}

theorem Host.Responds.unique {host : Host app} {request : Request} {body : Bytes}
    {response response' : Response} (h : host.Responds request body response)
    (h' : host.Responds request body response') : response = response' := by
  obtain ⟨whole, attached, -, result⟩ := h
  obtain ⟨whole', attached', -, result'⟩ := h'
  cases attached.symm.trans attached'
  exact Except.ok.inj (result.symm.trans result')

/-- A HEAD request is answered with the head of a handler's response, or with the page for a
failure if there is no response. -/
theorem Element.Answered.of_head {config : Config} {host host' : Host app} {request : Request}
    {body written : Bytes} {sequel : Sequel app.Handler} (isHead : request.method = .head)
    (h : (Element.ofBody request body).Answered config host written sequel host') :
    ∃ (asked : Host app) (closes : Bool), sequel = .ofClose closes ∧ host' = asked.write written ∧
      ((∃ response, host.Responds request body response ∧
          written = Host.bytesOf (Host.announce response closes) true) ∨
        (∀ response, ¬ host.Responds request body response) ∧
          ∃ failure, written = Host.refusal asked.tables failure closes) := by
  cases attached : request.attachBody body with
  | error fault =>
    have none (response : Response) : ¬ host.Responds request body response := by
      rintro ⟨whole, attached', -⟩
      cases attached.symm.trans attached'
    simp only [ofBody, attached] at h
    cases h with
    | badBody client => exact ⟨host, _, rfl, rfl, .inr ⟨none, _, rfl⟩⟩
  | ok whole =>
    have head : whole.method = .head := by
      obtain ⟨parts, rfl⟩ := Request.exists_parts_of_attachBody attached
      exact isHead
    simp only [ofBody, attached] at h
    cases h with
    | @routed _ response plain result =>
      have responds : host.Responds request body response := ⟨whole, attached, plain, result⟩
      refine ⟨_, _, rfl, rfl, .inl ⟨response, responds, ?_⟩⟩
      rw [head, decide_eq_true rfl]
    | failed plain result last =>
      have none (response : Response) : ¬ host.Responds request body response := by
        rintro ⟨whole', attached', -, result'⟩
        cases attached.symm.trans attached'
        cases result.symm.trans result'
      exact ⟨_, _, rfl, rfl, .inr ⟨none, _, rfl⟩⟩
    | refused upgrade opened last =>
      have none (response : Response) : ¬ host.Responds request body response := by
        rintro ⟨whole', attached', plain, -⟩
        cases attached.symm.trans attached'
        cases upgrade.symm.trans plain
      exact ⟨_, _, rfl, rfl, .inr ⟨none, _, rfl⟩⟩
    | upgraded upgrade valid opened =>
      have get := WebSocket.Handshake.method_of_validate valid
      cases head.symm.trans get

/-- A HEAD request gets one answer. If a handler has a response to it, only the head of that is
written. If not, be it that no route takes it, or that the handler declines, fails or panics, or
that its body or its upgrade is rejected, the page for that is written, and with its body. -/
theorem answer_to_head (host : Host app) (config : Config) {request : Request} (body : Bytes)
    (isHead : request.method = .head) :
    ∃ (asked : Host app) (written : Bytes) (closes : Bool),
      host.answer config request body = (.ofClose closes, asked.write written) ∧
      (∃ requests, List.Sublist requests (Element.ofBody request body).requests ∧
        host.channel.Shows (asked.write written).channel requests [written]) ∧
      (∀ response, host.Responds request body response →
        HeadOnly written ∧ written <+: (Host.announce response closes).toBytes) ∧
      ((∀ response, ¬ host.Responds request body response) →
        ∃ failure, written = Host.refusal asked.tables failure closes ∧
          (HeadOnly written → (App.errorFor asked.tables failure).body = [] ∧
            asked.tables.errorPage ≠ none)) := by
  obtain ⟨written, answered⟩ := Element.answered_ofBody config host request body
  obtain ⟨asked, closes, goesOn, comesTo, outcome⟩ := answered.of_head isHead
  have stays (conversation : WebSocket.Paused app.Handler) :
      (host.answer config request body).1 ≠ .upgraded conversation := by
    rw [goesOn]
    cases closes <;> nofun
  have shown := answered.shows stays
  rw [comesTo] at shown
  refine ⟨asked, written, closes, Prod.ext goesOn comesTo, shown, ?_, ?_⟩
  · intro response responds
    rcases outcome with ⟨response', responds', rfl⟩ | ⟨none, -⟩
    · obtain rfl := responds.unique responds'
      exact Host.bytesOf_head _
    · exact absurd responds (none response)
  · intro none
    rcases outcome with ⟨response, responds, -⟩ | ⟨-, failure, rfl⟩
    · exact absurd responds (none response)
    · exact ⟨failure, rfl, Host.body_of_refusal⟩

/-- Of a greeting only the head is written. -/
theorem greeting_to_head :
    let greeting : Response := { status := 200, body := Text.encode "hello" }
    let app : App := { bareApp with call := fun _ _ _ => { verdict := .respond greeting } }
    let host : Host app := { tables := { routes := [⟨0, "/", fun _ => some [], [], ()⟩] } }
    let request : Request :=
      { method := .head, url := "/", path := "/", query := none, version := .http11, headers := {},
        args := {}, cookies := {} }
    request.method = .head ∧ host.Responds request [] greeting ∧
      ∃ (asked : Host app) (written : Bytes) (closes : Bool),
        host.answer {} request [] = (.ofClose closes, asked.write written) ∧ HeadOnly written ∧
          written <+: (Host.announce greeting closes).toBytes := by
  intro greeting app host request
  have isHead : request.method = .head := rfl
  have responds : host.Responds request [] greeting := by
    refine ⟨request, ?_, ?_, ?_⟩
    · rfl
    · rfl
    · rfl
  obtain ⟨asked, written, closes, answered, -, headOnly, -⟩ := answer_to_head host {} [] isHead
  exact ⟨isHead, responds, asked, written, closes, answered, headOnly greeting responds⟩

/-- The plain page for a missing route is written with its body, to a HEAD request as well. -/
theorem missing_route_to_head :
    let host : Host bareApp := {}
    let window := Text.encode "HEAD /missing HTTP/1.1\r\n\r\n"
    let page := Text.encode
      "\x7b\"error\":\"Not Found\",\"message\":\"no route for /missing\",\"status\":404\x7d"
    (writesIn ((Active.http none).consume {} window host).2.channel.trace).map
        (fun written => (Request.cutHead? written).map Prod.snd) = [some page] ∧
      page ≠ [] := by
  decide +kernel

end WebServer
