import Switchboard.Handler.Stock
import Switchboard.Proofs.Answer

/-!
# Redirects on the wire

The location of a redirect is written into its head as it is, between the other headers. A parameter
of the request may take its place and is only looked at for the slash in front; and since the
percent signs of a query are resolved before, there may be line breaks in it.

* `Stock.isRedirect_iff`: the answer of a redirect is one status line and four headers exactly if no
  parameter with a line break takes the place of the location.
* `Stock.read?_injected`: what follows a line break in such a parameter is read as further headers.
* `Stock.splitting_accepted`: so a request can add headers to its answer.
-/

namespace Switchboard

/-! ### Line breaks in a value -/

namespace Outbound

/-- Line breaks and the lines of headers after them. -/
def broken (headers : List (String × String)) : String :=
  String.join (headers.map fun header => lineEnd ++ RequestHead.headerLine header)

@[simp] theorem broken_nil : broken [] = "" := rfl

theorem broken_cons (header : String × String) (headers : List (String × String)) :
    broken (header :: headers) = lineEnd ++ RequestHead.headerLine header ++ broken headers :=
  String.join_cons

theorem broken_append_lineEnd (headers : List (String × String)) :
    broken headers ++ lineEnd =
      lineEnd ++
        String.join (headers.map fun header => header.1 ++ ": " ++ header.2 ++ lineEnd) := by
  induction headers with
  | nil => rfl
  | cons header headers ih =>
    rw [broken_cons, String.append_assoc, ih, List.map_cons, String.join_cons,
      RequestHead.headerLine]
    simp only [String.append_assoc]

/-- Line breaks in the value of a header begin further headers. -/
theorem head_broken (status : String) (before after more : List (String × String))
    (name value : String) :
    head status (before ++ (name, value ++ broken more) :: after) =
      head status (before ++ (name, value) :: (more ++ after)) := by
  have hline : name ++ ": " ++ (value ++ broken more) ++ lineEnd =
      name ++ ": " ++ value ++ lineEnd ++
        String.join (more.map fun header => header.1 ++ ": " ++ header.2 ++ lineEnd) := by
    rw [← String.append_assoc, String.append_assoc, broken_append_lineEnd, ← String.append_assoc]
  simp only [head, List.map_append, List.map_cons, String.join_append, String.join_cons, hline]
  simp only [String.append_assoc]

end Outbound

namespace Stock

/-! ### Targets -/

variable {location target : String} {allowOverride : Bool} {request : Request}

/-- A redirect goes to the parameter if it may, and to the configured location otherwise. -/
theorem eq_of_redirectTarget (h : redirectTarget location allowOverride request = .ok target) :
    target = if allowOverride then (request.param? "to").getD location else location := by
  unfold redirectTarget at h
  cases hparam : request.param? "to" with
  | none => simpa [hparam, eq_comm] using h
  | some param =>
    rw [hparam] at h
    cases allowOverride with
    | false => exact (Except.ok.inj h).symm
    | true =>
      dsimp only at h
      rw [if_pos rfl] at h
      split at h
      · exact (Except.ok.inj h).symm
      · cases h

/-- A parameter that begins with a slash takes the place of the location. -/
theorem redirectTarget_of_param (hparam : request.param? "to" = some target)
    (hslash : target.toList.head? = some '/') :
    redirectTarget location true request = .ok target := by
  simp [redirectTarget, hparam, hslash]

/-- A redirect is answered exactly if it has a target. -/
theorem handle_redirect_iff {n k : ℕ} {r : Response} :
    (redirect location allowOverride).handle n k request = .answered r ↔
      ∃ target, redirectTarget location allowOverride request = .ok target ∧
        r = ({} : Response).redirectTo target := by
  simp only [redirect, Template.ofFunction]
  cases redirectTarget location allowOverride request with
  | error e => simp
  | ok target => simp [eq_comm]

/-! ### Answers -/

/-- The text of a redirect. -/
def redirectText (target : String) : String :=
  "HTTP/1.1 302 Found\r\nConnection: close\r\nContent-Type: application/json\r\nLocation: " ++
    target ++ "\r\nContent-Length: 0\r\n\r\n"

/-- Bytes that are a redirect and nothing else: a status line, four headers, and an empty body. -/
def IsRedirect (bytes : List UInt8) : Prop :=
  ∃ target, Unbroken target ∧ bytes = utf8 (redirectText target)

/-- The headers of a redirect, those of the response among them. -/
def redirectHeaders (headers : List (String × String)) : List (String × String) :=
  [("Connection", "close"), ("Content-Type", "application/json")] ++ headers ++
    [("Content-Length", "0")]

/-- A redirect as its client reads it. -/
def redirectAnswer (headers : List (String × String)) : Answer where
  statusLine := "HTTP/1.1 302 Found"
  headers := redirectHeaders headers
  body := []

theorem headers_redirect (headers : List (String × String)) :
    Outbound.headers { status := .redirect, headers } = redirectHeaders headers := by
  have hlength : Outbound.lengthHeader [] = ("Content-Length", "0") := rfl
  rw [redirectHeaders, ← hlength]
  rfl

theorem response_redirect (headers : List (String × String)) :
    Outbound.response "302 Found" { status := .redirect, headers } =
      utf8 (Outbound.head "302 Found" (redirectHeaders headers)) := by
  rw [Outbound.response, headers_redirect, List.append_nil]

theorem head_redirectTo (target : String) :
    Outbound.head "302 Found" (redirectHeaders [("Location", target)]) = redirectText target := by
  have hbefore : "HTTP/1.1 " ++ "302 Found" ++ "\r\n" ++
      ("Connection" ++ ": " ++ "close" ++ "\r\n") ++
      ("Content-Type" ++ ": " ++ "application/json" ++ "\r\n") ++ ("Location" ++ ": ") =
      "HTTP/1.1 302 Found\r\nConnection: close\r\nContent-Type: application/json\r\nLocation: " := by
    simp only [String.reduceAppend]
  have hafter : "\r\n" ++ ("Content-Length" ++ ": " ++ "0" ++ "\r\n") ++ "\r\n" =
      "\r\nContent-Length: 0\r\n\r\n" := by simp only [String.reduceAppend]
  calc
    _ = ("HTTP/1.1 " ++ "302 Found" ++ "\r\n" ++ ("Connection" ++ ": " ++ "close" ++ "\r\n") ++
          ("Content-Type" ++ ": " ++ "application/json" ++ "\r\n") ++ ("Location" ++ ": ")) ++
        target ++ ("\r\n" ++ ("Content-Length" ++ ": " ++ "0" ++ "\r\n") ++ "\r\n") := by
      simp only [Outbound.head, Outbound.lineEnd, redirectHeaders, List.cons_append,
        List.nil_append, List.map_cons, List.map_nil, String.join_cons, String.join_nil,
        String.append_assoc, String.append_empty]
    _ = redirectText target := by
      rw [hbefore, hafter]
      rfl

theorem call_redirectTo (target : String) :
    Outbound.call (({} : Response).redirectTo target).call = utf8 (redirectText target) :=
  (response_redirect [("Location", target)]).trans (congrArg utf8 (head_redirectTo target))

/-- A target and what is broken off it are read as a location and further headers. -/
theorem read?_redirectText {target : String} {more : List (String × String)}
    (htarget : Unbroken target) (hmore : ∀ header ∈ more, Answer.IsField header) :
    Answer.read? (utf8 (redirectText (target ++ Outbound.broken more))) =
      some (redirectAnswer (("Location", target) :: more)) := by
  have hlocation : Answer.IsField ("Location", target) :=
    ⟨(by decide : ':' ∉ "Location".toList), (by decide : Unbroken "Location"), htarget⟩
  have hfields : ∀ header ∈ redirectHeaders (("Location", target) :: more), Answer.IsField header :=
    headers_redirect _ ▸ Answer.isField_headers (List.forall_mem_cons.mpr ⟨hlocation, hmore⟩)
  have hbroken : Outbound.head "302 Found"
      (redirectHeaders [("Location", target ++ Outbound.broken more)]) =
      Outbound.head "302 Found" (redirectHeaders (("Location", target) :: more)) :=
    Outbound.head_broken "302 Found" [("Connection", "close"), ("Content-Type", "application/json")]
      [("Content-Length", "0")] more "Location" target
  have hread := Answer.read?_head (by decide : Unbroken "302 Found") hfields []
  rw [List.append_nil, ← hbroken, head_redirectTo] at hread
  exact hread

theorem redirectText_injective : Function.Injective redirectText := fun _ _ h =>
  (String.append_right_inj _).mp ((String.append_left_inj _).mp h)

/-- The redirect to a target is nothing else exactly if no line is broken in the target. -/
theorem isRedirect_redirectText {target : String} :
    IsRedirect (utf8 (redirectText target)) ↔ Unbroken target := by
  refine ⟨fun ⟨target', hunbroken, hbytes⟩ => ?_, fun hunbroken => ⟨target, hunbroken, rfl⟩⟩
  rwa [redirectText_injective (utf8_injective hbytes)]

/-- A redirect that is nothing else is read as such. -/
theorem read?_of_isRedirect {bytes : List UInt8} (h : IsRedirect bytes) :
    ∃ target, Answer.read? bytes = some (redirectAnswer [("Location", target)]) := by
  obtain ⟨target, hunbroken, rfl⟩ := h
  have hread := @read?_redirectText target [] hunbroken nofun
  rw [Outbound.broken_nil, String.append_empty] at hread
  exact ⟨target, hread⟩

/-- **Redirects are whole exactly without line breaks.** Where no line is broken in the configured
location, the answer to a request is one status line, four headers and no body unless the parameter
may take the place of the location and a line is broken in it. -/
theorem isRedirect_iff (hlocation : Unbroken location) {n k : ℕ} {r : Response}
    (h : (redirect location allowOverride).handle n k request = .answered r) :
    IsRedirect (Outbound.call r.call) ↔
      (allowOverride = true → ∀ target, request.param? "to" = some target → Unbroken target) := by
  obtain ⟨target, htarget, rfl⟩ := handle_redirect_iff.mp h
  rw [call_redirectTo, isRedirect_redirectText, eq_of_redirectTarget htarget]
  cases allowOverride with
  | false => simpa using hlocation
  | true =>
    cases request.param? "to" with
    | none => simpa using hlocation
    | some param => simp

/-- A request for another page is answered with a whole redirect. -/
theorem isRedirect_sample :
    Unbroken "/home" ∧
      (redirect "/home" true).handle 0 0 { params := [("to", ["/docs"])] } =
        .answered (({} : Response).redirectTo "/docs") ∧
      IsRedirect (Outbound.call (({} : Response).redirectTo "/docs").call) := by
  have hlocation : Unbroken "/home" := by decide
  have hanswered : (redirect "/home" true).handle 0 0 { params := [("to", ["/docs"])] } =
      .answered (({} : Response).redirectTo "/docs") :=
    handle_redirect_iff.mpr ⟨"/docs", redirectTarget_of_param rfl rfl, rfl⟩
  refine ⟨hlocation, hanswered, (isRedirect_iff hlocation hanswered).mpr fun _ target htarget => ?_⟩
  obtain rfl : "/docs" = target := Option.some.inj htarget
  decide

/-! ### Further headers -/

/-- **Headers are added.** Fields after a line break in a parameter that takes the place of the
location are read as further headers of the answer. -/
theorem read?_injected {more : List (String × String)} (htarget : Unbroken target)
    (hslash : target.toList.head? = some '/') (hmore : ∀ header ∈ more, Answer.IsField header)
    (hparam : request.param? "to" = some (target ++ Outbound.broken more)) (location : String)
    (n k : ℕ) :
    ∃ r, (redirect location true).handle n k request = .answered r ∧
      Answer.read? (Outbound.call r.call) =
        some (redirectAnswer (("Location", target) :: more)) := by
  have hhead : (target ++ Outbound.broken more).toList.head? = some '/' := by
    rw [String.toList_append, List.head?_append, hslash, Option.some_or]
  refine ⟨({} : Response).redirectTo (target ++ Outbound.broken more), ?_, ?_⟩
  · exact handle_redirect_iff.mpr ⟨_, redirectTarget_of_param hparam hhead, rfl⟩
  · rw [call_redirectTo, read?_redirectText htarget hmore]

/-- A head whose query resolves to a line break and a header. -/
def splittingHead : RequestHead where
  method := "GET"
  path := "/go"
  query := some "to=/x%0D%0ASet-Cookie:%20a=b"
  version := "HTTP/1.1"

/-- Its bytes. -/
def splitting : Stream :=
  .ofBytes (utf8 "GET /go?to=/x%0D%0ASet-Cookie:%20a=b HTTP/1.1\r\n\r\n") false

/-- They are accepted, and the parameter has a line break in it. -/
theorem read_splitting :
    ∃ request, (Inbound.read default "127.0.0.1" (.ofStream splitting 8192)).1 = .ok request ∧
      request.param? "to" = some ("/x" ++ Outbound.broken [("Set-Cookie", "a=b")]) := by
  have hwf : splittingHead.WellFormed :=
    { method := by decide +kernel
      target := by decide +kernel
      path := by decide
      version := by decide +kernel
      protocol := by decide
      headers := nofun }
  have hbytes : splitting.bytes = utf8 (splittingHead.requestLine ++ "\r\n\r\n") := by
    decide +kernel
  exact ⟨splittingHead.request default "127.0.0.1",
    Inbound.read_lone hwf rfl (by decide +kernel) hbytes (by decide +kernel) default "127.0.0.1",
    by decide +kernel⟩

/-- **Answers are split.** A request whose query resolves to a line break and a header is accepted,
and where a parameter may take the place of the location the redirect answers it with a header more
than it has. -/
theorem splitting_accepted :
    ∃ request r, (Inbound.read default "127.0.0.1" (.ofStream splitting 8192)).1 = .ok request ∧
      Unbroken "/home" ∧ (redirect "/home" true).handle 0 0 request = .answered r ∧
      ¬ IsRedirect (Outbound.call r.call) ∧
      Answer.read? (Outbound.call r.call) = some
        { statusLine := "HTTP/1.1 302 Found"
          headers := [("Connection", "close"), ("Content-Type", "application/json"),
            ("Location", "/x"), ("Set-Cookie", "a=b"), ("Content-Length", "0")]
          body := [] } := by
  obtain ⟨request, hread, hparam⟩ := read_splitting
  have hcookie : ∀ header ∈ [("Set-Cookie", "a=b")], Answer.IsField header :=
    List.forall_mem_singleton.mpr ⟨by decide, by decide, by decide⟩
  obtain ⟨r, hanswered, hanswer⟩ := read?_injected (by decide : Unbroken "/x") rfl hcookie
    hparam "/home" 0 0
  refine ⟨request, r, hread, by decide, hanswered, fun hwhole => ?_, hanswer⟩
  obtain ⟨target, hwhole⟩ := read?_of_isRedirect hwhole
  have hheaders := congrArg Answer.headers (Option.some.inj (hanswer.symm.trans hwhole))
  have hlength : 5 = 4 := congrArg List.length hheaders
  omega

end Stock

end Switchboard
