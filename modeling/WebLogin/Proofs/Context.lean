/-
The queue of cookies for a response.

Whoever takes part in a request may queue cookies, in any order and as often as they like. A cookie
takes the place of an earlier one of its name and stands at the end, so what is queued in the end
are the cookies that no later one of the same name follows.

* `lasting_concat` — what one more cookie does to them;
* `foldl_addResponseCookie` — what many cookies leave in a context without any;
* `RequestContext.queue_added` — the queue, what is found in it, and that it is taken once.
-/
import WebLogin.Context
import Mathlib.Data.List.Induction
import Mathlib.Data.List.Nodup

namespace WebLogin

/-- The cookies that no later one of the same name follows. -/
def lasting : List ResponseCookie → List ResponseCookie
  | [] => []
  | c :: cookies => if c.name ∈ cookies.map (·.name) then lasting cookies else c :: lasting cookies

variable {cookies : List ResponseCookie}

/-- One more cookie replaces an earlier one of its name. -/
theorem lasting_concat (cookies : List ResponseCookie) (cookie : ResponseCookie) :
    lasting (cookies ++ [cookie]) =
      (lasting cookies).filter (fun c => c.name != cookie.name) ++ [cookie] := by
  induction cookies with
  | nil => simp [lasting]
  | cons c cookies ih =>
    have hnames : c.name ∈ (cookies ++ [cookie]).map (·.name) ↔
        c.name ∈ cookies.map (·.name) ∨ c.name = cookie.name := by
      rw [List.map_append, List.mem_append, List.map_singleton, List.mem_singleton]
    rw [List.cons_append, lasting, lasting, ih]
    by_cases hlater : c.name ∈ cookies.map (·.name)
    · rw [if_pos (hnames.2 (.inl hlater)), if_pos hlater]
    · by_cases hname : c.name = cookie.name
      · rw [if_pos (hnames.2 (.inr hname)), if_neg hlater,
          List.filter_cons_of_neg (by simp [hname])]
      · rw [if_neg (by simp [hlater, hname]), if_neg hlater,
          List.filter_cons_of_pos (by simpa using hname), List.cons_append]

theorem mem_of_mem_lasting {cookie : ResponseCookie} (h : cookie ∈ lasting cookies) :
    cookie ∈ cookies := by
  induction cookies with
  | nil => exact h
  | cons c cookies ih =>
    rw [lasting] at h
    split at h
    · exact List.mem_cons_of_mem _ (ih h)
    · rcases List.mem_cons.1 h with rfl | h
      · exact List.mem_cons_self
      · exact List.mem_cons_of_mem _ (ih h)

/-- No two of them have the same name. -/
theorem nodup_lasting (cookies : List ResponseCookie) :
    ((lasting cookies).map (·.name)).Nodup := by
  induction cookies with
  | nil => exact List.nodup_nil
  | cons c cookies ih =>
    rw [lasting]
    split
    · exact ih
    · rename_i hlast
      rw [List.map_cons, List.nodup_cons]
      refine ⟨fun hmem => ?_, ih⟩
      obtain ⟨c', hc', hname⟩ := List.mem_map.1 hmem
      exact hlast (List.mem_map.2 ⟨c', mem_of_mem_lasting hc', hname⟩)

/-- Under a name stands the last cookie of that name. -/
theorem find?_lasting (cookies : List ResponseCookie) (name : String) :
    (lasting cookies).find? (fun c => c.name == name) =
      cookies.reverse.find? fun c => c.name == name := by
  induction cookies using List.reverseRecOn with
  | nil => rfl
  | append_singleton cookies cookie ih =>
    rw [lasting_concat, List.find?_append, List.reverse_concat]
    by_cases hname : cookie.name = name
    · -- The cookie has replaced any other that would be found.
      have hgone : ((lasting cookies).filter fun c => c.name != cookie.name).find?
          (fun c => c.name == name) = none := by
        rw [List.find?_eq_none]
        intro c hc
        have hother := (List.mem_filter.1 hc).2
        rw [hname] at hother
        simpa using hother
      rw [hgone, Option.none_or, List.find?_cons_of_pos (by simp [hname]),
        List.find?_cons_of_pos (by simp [hname])]
    · have hkept : ((lasting cookies).filter fun c => c.name != cookie.name).find?
          (fun c => c.name == name) = (lasting cookies).find? fun c => c.name == name := by
        rw [List.find?_filter]
        congr 1
        funext c
        by_cases hc : c.name = name
        · simp [hc, Ne.symm hname]
        · simp [hc]
      rw [hkept, ih, List.find?_cons_of_neg (by simpa using hname),
        List.find?_cons_of_neg (by simpa using hname), List.find?_nil, Option.or_none]

namespace RequestContext

/-- Cookies that are queued one after the other in a context without any leave the lasting ones, and
change nothing else. -/
theorem foldl_addResponseCookie {ctx : RequestContext} (h : ctx.responseCookies = [])
    (cookies : List ResponseCookie) :
    cookies.foldl addResponseCookie ctx = { ctx with responseCookies := lasting cookies } := by
  induction cookies using List.reverseRecOn with
  | nil => rw [List.foldl_nil, lasting, ← h]
  | append_singleton cookies cookie ih =>
    rw [List.foldl_append, ih, lasting_concat]
    rfl

/-- Whatever cookies are queued in the context of a new request: no two in the queue have the same
name, they are those that no later one of the same name follows, in this order, each is found by its
name, and the queue can be taken once. -/
theorem queue_added (session : Option SessionId) (brought : List (String × String))
    (cookies : List ResponseCookie) :
    ∃ ctx, ctx = cookies.foldl addResponseCookie
        { sessionId := session, requestCookies := brought } ∧
      (ctx.responseCookies.map (·.name)).Nodup ∧
      ctx.responseCookies = lasting cookies ∧
      (∀ name, ctx.responseCookie? name = cookies.reverse.find? fun c => c.name == name) ∧
      ctx.takeResponseCookies =
        (lasting cookies, { sessionId := session, requestCookies := brought }) ∧
      ctx.takeResponseCookies.2.takeResponseCookies =
        ([], { sessionId := session, requestCookies := brought }) := by
  refine ⟨_, rfl, ?_⟩
  rw [foldl_addResponseCookie rfl]
  exact ⟨nodup_lasting cookies, rfl, find?_lasting cookies, rfl, rfl⟩

/-- A removal that is followed by a new value is forgotten, and other names are left alone. -/
example : lasting [.removal "a", { name := "b", value := "1" }, { name := "a", value := "2" }] =
    [{ name := "b", value := "1" }, { name := "a", value := "2" }] := by decide

end RequestContext

end WebLogin
