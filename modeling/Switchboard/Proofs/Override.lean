import Switchboard.Proofs.Redirect

/-!
# Redirects to where a request says

A redirect that allows it goes where the parameter `to` of the request says, the least one if there
are several. It refuses what does not begin with a slash. But what begins with two slashes, or with
a slash and a backslash, is the name of a host to a client, and no path of the site.

* `Stock.redirect_override`: which of the values a redirect goes to, what it refuses, and that it
  keeps to the site exactly if the least value is no such name.
* `Stock.override_leaves_site`: so a request can send its client to another host.
-/

namespace Switchboard

/-! ### The least value of a parameter -/

namespace Request

variable {r : Request} {pairs : List (String × String)} {key v : String}

/-- The values that pairs give to a key. -/
def given (key : String) (pairs : List (String × String)) : Set String := {v | (key, v) ∈ pairs}

/-- A parameter is absent if nothing is given for it. -/
theorem Carries.param?_eq_none_iff (h : r.Carries pairs) :
    r.param? key = none ↔ given key pairs = ∅ := by
  rw [Set.eq_empty_iff_forall_notMem]
  refine Iff.trans ?_ (h.absent key)
  rw [param?]
  cases hvalues : r.paramValues? key with
  | none => simp
  | some values =>
    -- no key is kept without a value
    suffices hne : values ≠ [] by simpa using hne
    rintro rfl
    have hmem := (h.sets key [] hvalues).2
    have habsent := (h.absent key).mpr fun v hv => List.not_mem_nil ((hmem v).mpr hv)
    rw [hvalues] at habsent
    cases habsent

/-- Otherwise it is the least of what is given. -/
theorem Carries.isLeast_of_param? (h : r.Carries pairs) (hparam : r.param? key = some v) :
    IsLeast (given key pairs) v := by
  obtain ⟨values, hvalues, hhead⟩ := Option.bind_eq_some_iff.mp hparam
  obtain ⟨hsorted, hmem⟩ := h.sets key values hvalues
  obtain ⟨rest, rfl⟩ := List.head?_eq_some_iff.mp hhead
  refine ⟨(hmem v).mp List.mem_cons_self, fun w hw => ?_⟩
  obtain rfl | hw := List.mem_cons.mp ((hmem w).mpr hw)
  · exact String.le_refl _
  · exact String.not_lt.mp (String.lt_asymm (List.rel_of_pairwise_cons hsorted hw))

end Request

/-! ### Paths of the site -/

/-- A path of the site: it begins with a slash, and no second slash of either kind follows. -/
structure IsSitePath (s : String) : Prop where
  slash : s.toList[0]? = some '/'
  second : ∀ c, s.toList[1]? = some c → c ≠ '/' ∧ c ≠ '\\'

namespace Stock

variable {allowOverride : Bool} {request : Request} {pairs : List (String × String)}

/-- A request that gives overrides **keeps to the site** if it is refused, or redirected to the
least of them and that is a path of the site. -/
def KeepsToSite (overrides : Set String) (e : HandlerEnd) : Prop :=
  (∃ why, e = .failed (.badRequest why)) ∨
    ∃ target, e = .answered (({} : Response).redirectTo target) ∧ IsLeast overrides target ∧
      IsSitePath target

/-- What a redirect does with an override that it allows. -/
theorem handle_redirect_of_param {target : String} (hparam : request.param? "to" = some target)
    (location : String) (n k : ℕ) :
    (redirect location true).handle n k request =
      if target.toList[0]? = some '/' then .answered (({} : Response).redirectTo target)
      else .failed (.badRequest ("refusing off-site redirect to " ++ Quoted.quote target)) := by
  simp only [redirect, Template.ofFunction, redirectTarget, hparam, List.head?_eq_getElem?]
  by_cases hslash : target.toList[0]? = some '/' <;> simp [hslash]

/-- What a redirect does without an override. -/
theorem handle_redirect_of_none (hparam : allowOverride = false ∨ request.param? "to" = none)
    (location : String) (n k : ℕ) :
    (redirect location allowOverride).handle n k request =
      .answered (({} : Response).redirectTo location) := by
  simp only [redirect, Template.ofFunction, redirectTarget]
  obtain rfl | hparam := hparam
  · cases request.param? "to" <;> rfl
  · rw [hparam]

/-- A redirect names its target. -/
theorem redirectTo_injective : Function.Injective ({} : Response).redirectTo := by
  intro s t h
  have hheaders := congrArg Response.headers h
  simpa [Response.redirectTo, Response.withHeader] using hheaders

/-- **Redirects and overrides.** Where no override is allowed or none is given, a redirect goes to
its location. Otherwise the least one counts: it is refused if it does not begin with a slash, and
redirected to if it does. So the redirect keeps to the site exactly if what begins with a slash is a
path of the site. -/
theorem redirect_override (location : String) (allowOverride : Bool) (n k : ℕ)
    (h : request.Carries pairs) :
    ((allowOverride = false ∨ Request.given "to" pairs = ∅) →
      (redirect location allowOverride).handle n k request =
        .answered (({} : Response).redirectTo location)) ∧
    (allowOverride = true → (Request.given "to" pairs).Nonempty →
      ∃ target, IsLeast (Request.given "to" pairs) target ∧
        (redirect location allowOverride).handle n k request =
          (if target.toList[0]? = some '/' then .answered (({} : Response).redirectTo target)
          else .failed (.badRequest ("refusing off-site redirect to " ++ Quoted.quote target))) ∧
        (KeepsToSite (Request.given "to" pairs)
            ((redirect location allowOverride).handle n k request) ↔
          (target.toList[0]? = some '/' → IsSitePath target))) := by
  refine ⟨fun hnone => ?_, ?_⟩
  · exact handle_redirect_of_none (hnone.imp_right h.param?_eq_none_iff.mpr) location n k
  rintro rfl hgiven
  obtain ⟨target, hparam⟩ := Option.ne_none_iff_exists'.mp
    (mt h.param?_eq_none_iff.mp hgiven.ne_empty)
  have hhandle := handle_redirect_of_param hparam location n k
  refine ⟨target, h.isLeast_of_param? hparam, hhandle, ?_⟩
  rw [hhandle]
  by_cases hslash : target.toList[0]? = some '/'
  · rw [if_pos hslash]
    constructor
    · rintro (⟨why, hfailed⟩ | ⟨other, hanswered, -, hpath⟩) -
      · cases hfailed
      · rwa [redirectTo_injective (HandlerEnd.answered.inj hanswered)]
    · intro hpath
      exact .inr ⟨target, rfl, h.isLeast_of_param? hparam, hpath hslash⟩
  · rw [if_neg hslash]
    exact iff_of_true (.inl ⟨_, rfl⟩) fun hcontra => absurd hcontra hslash

/-- Of two overrides the least one counts, and it is a path of the site. -/
theorem redirect_override_sample :
    (({} : Request).addParams [("to", "/b"), ("to", "/a/")]).Carries
        [("to", "/b"), ("to", "/a/")] ∧
      (redirect "/home" true).handle 0 0 (({} : Request).addParams [("to", "/b"), ("to", "/a/")]) =
        .answered (({} : Response).redirectTo "/a/") ∧
      KeepsToSite (Request.given "to" [("to", "/b"), ("to", "/a/")])
        ((redirect "/home" true).handle 0 0
          (({} : Request).addParams [("to", "/b"), ("to", "/a/")])) := by
  have hcarries : (({} : Request).addParams [("to", "/b"), ("to", "/a/")]).Carries
      [("to", "/b"), ("to", "/a/")] := (Request.carries_nil rfl).addParams _
  have hleast : IsLeast (Request.given "to" [("to", "/b"), ("to", "/a/")]) "/a/" := by
    refine ⟨by simp [Request.given], fun v hv => ?_⟩
    obtain rfl | rfl : v = "/b" ∨ v = "/a/" := by simpa [Request.given] using hv
    · decide
    · decide
  obtain ⟨target, htarget, hhandle, hkeeps⟩ :=
    (redirect_override "/home" true 0 0 hcarries).2 rfl ⟨_, hleast.1⟩
  obtain rfl : target = "/a/" := String.le_antisymm (htarget.2 hleast.1) (hleast.2 htarget.1)
  have hpath : IsSitePath "/a/" := by
    refine ⟨rfl, fun c hc => ?_⟩
    obtain rfl : 'a' = c := Option.some.inj hc
    decide
  exact ⟨hcarries, hhandle.trans (if_pos rfl), hkeeps.mpr fun _ => hpath⟩

/-- A head whose query names another host. -/
def elsewhere : RequestHead where
  method := "GET"
  path := "/go"
  query := some "to=//evil.example"
  version := "HTTP/1.1"

/-- Its bytes. -/
def leaving : Stream :=
  .ofBytes (utf8 "GET /go?to=//evil.example HTTP/1.1\r\n\r\n") false

/-- **A redirect leaves the site.** A request whose query names another host, after two slashes, is
accepted, and where overrides are allowed the redirect sends its client there. -/
theorem override_leaves_site :
    ∃ request, (Inbound.read default "127.0.0.1" (.ofStream leaving 8192)).1 = .ok request ∧
      request.Carries elsewhere.pairs ∧
      Request.given "to" elsewhere.pairs = {"//evil.example"} ∧
      (redirect "/home" true).handle 0 0 request =
        .answered (({} : Response).redirectTo "//evil.example") ∧
      ¬ IsSitePath "//evil.example" ∧
      ¬ KeepsToSite {"//evil.example"} ((redirect "/home" true).handle 0 0 request) := by
  have hwf : elsewhere.WellFormed :=
    { method := by decide +kernel
      target := by decide +kernel
      path := by decide
      version := by decide +kernel
      protocol := by decide
      headers := nofun }
  have hbytes : leaving.bytes = utf8 (elsewhere.requestLine ++ "\r\n\r\n") := by decide +kernel
  have hread := Inbound.read_lone hwf rfl (by decide +kernel) hbytes
    (by decide +kernel : leaving.bytes.length ≤ 8192) default "127.0.0.1"
  have hpairs : elsewhere.pairs = [("to", "//evil.example")] := by decide +kernel
  have hhandle : (redirect "/home" true).handle 0 0 (elsewhere.request default "127.0.0.1") =
      .answered (({} : Response).redirectTo "//evil.example") :=
    handle_redirect_iff.mpr
      ⟨_, redirectTarget_of_param (by decide +kernel) (by decide), rfl⟩
  have hoff : ¬ IsSitePath "//evil.example" := fun h => (h.second '/' (by decide)).1 rfl
  refine ⟨_, hread, elsewhere.carries_request default "127.0.0.1", ?_, hhandle, hoff, ?_⟩
  · ext v
    simp [Request.given, hpairs]
  · rw [hhandle]
    rintro (⟨why, hfailed⟩ | ⟨target, -, hleast, hpath⟩)
    · cases hfailed
    · exact hoff (hleast.1 ▸ hpath)

end Stock

end Switchboard
