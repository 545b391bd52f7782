/-
Cookies that a response removes.

What a request leaves queued is written to its jar one cookie after the other, and last the cookie
of the session. A removal that is queued goes out if the request brought a cookie of that name,
unless the response moves the browser to another session by a cookie of the same name.

* `SetCookie.text_removal_injective`, `SetCookie.text_ne_removal` — the texts of removals;
* `CookieJar.removal_mem_foldl`, `CookieJar.pending_foldl` — what queued removals leave in a jar;
* `CookieJar.removes_writeContext_iff` — which removals go out.
-/
import WebLogin.Proofs.Http.Browser

namespace WebLogin

namespace Http

/-! ### Texts -/

namespace SetCookie

/-- The texts of cookies are told apart by the name and the value before their attributes. -/
theorem eq_of_text_toList {name name' value value' : String} {rest rest' : List Char}
    (h : (encoded name).toList ++ '=' :: ((encoded value).toList ++ ';' :: rest) =
      (encoded name').toList ++ '=' :: ((encoded value').toList ++ ';' :: rest')) :
    name = name' ∧ rest = rest' := by
  have hcut := congrArg (cut? '=') h
  rw [cut?_append_cons (wire_encoded name).notMem.2, cut?_append_cons (wire_encoded name').notMem.2]
    at hcut
  obtain ⟨hname, hvalue⟩ := Prod.mk.inj (Option.some.inj hcut)
  have hcut' := congrArg (cut? ';') hvalue
  rw [cut?_append_cons (wire_encoded value).notMem.1,
    cut?_append_cons (wire_encoded value').notMem.1] at hcut'
  refine ⟨?_, (Prod.mk.inj (Option.some.inj hcut')).2⟩
  have hdecode := decode?_encoded name
  rw [String.toList_injective hname, decode?_encoded] at hdecode
  exact (Option.some.inj hdecode).symm

theorem toList_text_removal (now : Timestamp) (name : String) :
    (removal now name).text.toList = (encoded name).toList ++ '=' :: ((encoded "").toList ++
      ';' :: (" Path=/; Max-Age=0; Expires=" ++ pastDate now).toList) := by
  rw [text_removal]
  simp only [String.toList_append, List.append_assoc]
  rfl

theorem text_removal_injective {now now' : Timestamp} {name name' : String}
    (h : (removal now name).text = (removal now' name').text) : name = name' := by
  have htext := congrArg String.toList h
  rw [toList_text_removal, toList_text_removal] at htext
  exact (eq_of_text_toList htext).1

/-- A cookie that is kept from scripts is none that is removed. -/
theorem text_ne_removal {c : SetCookie} (h : c.httpOnly = true) (now : Timestamp) (name : String) :
    c.text ≠ (removal now name).text := by
  have hattributes : ∃ attributes, c.attributes = "HttpOnly" :: attributes := by
    rw [attributes, h]
    exact ⟨_, rfl⟩
  obtain ⟨attributes, hattributes⟩ := hattributes
  have htext : ∃ rest, c.text.toList = (encoded c.name).toList ++ '=' ::
      ((encoded c.value).toList ++ ';' :: ' ' :: 'H' :: rest) := by
    rw [text, hattributes, String.intercalate_cons_cons]
    cases attributes with
    | nil =>
      rw [String.intercalate_singleton]
      refine ⟨"ttpOnly".toList, ?_⟩
      simp only [String.toList_append, List.append_assoc]
      rfl
    | cons a attributes =>
      rw [String.intercalate_cons_cons]
      refine ⟨"ttpOnly".toList ++ ("; ".toList ++ ("; ".intercalate (a :: attributes)).toList), ?_⟩
      simp only [String.toList_append, List.append_assoc]
      rfl
  obtain ⟨rest, htext⟩ := htext
  intro heq
  rw [heq, toList_text_removal] at htext
  have hrest := (eq_of_text_toList htext).2
  rw [String.toList_append] at hrest
  exact absurd (List.cons.inj (List.cons.inj hrest).2).1 (by decide)

end SetCookie

/-- A browser is told to forget the cookie of a name. -/
def Removes (headers : List Header) (name : String) : Prop :=
  ∃ now, ("set-cookie", (SetCookie.removal now name).text) ∈ headers

namespace CookieJar

variable {now : Timestamp} {cookieName name : String} {jar : CookieJar}

/-- The name of the cookie that moves a browser to another session, as it is read. -/
def sessionName? (cookieName : String) (id : SessionId) : Option String :=
  (SetCookie.parse? (rawText (sessionCookie cookieName (some id)))).map SetCookie.name

/-- A name that can be written in a cookie is read as it is. -/
theorem sessionName?_eq (h : IsCookieName cookieName) (id : SessionId) :
    sessionName? cookieName id = some cookieName := by
  rw [sessionName?, Browser.parse?_rawText h]
  rfl

/-- However the name of the session cookie is read, the cookie is kept from scripts. -/
theorem httpOnly_of_parse? {id : SessionId} {c : SetCookie}
    (h : SetCookie.parse? (rawText (sessionCookie cookieName (some id))) = some c) :
    c.httpOnly = true := by
  have htext : (rawText (sessionCookie cookieName (some id))).toList =
      (cookieName ++ "=" ++ id.text ++ "; Path=/").toList ++ ';' :: " HttpOnly".toList := by
    show (cookieName ++ "=" ++ id.text ++ "; Path=/" ++ "; HttpOnly" ++ "").toList = _
    simp only [String.toList_append, List.append_assoc]
    rfl
  rw [SetCookie.parse?, htext, splitOn_append] at h
  -- Whatever stands before it, this is the last of the attributes.
  obtain ⟨pair, fields, hfields⟩ := List.exists_cons_of_ne_nil
    (splitOn_ne_nil ';' (cookieName ++ "=" ++ id.text ++ "; Path=/").toList)
  have hlast : splitOn ';' " HttpOnly".toList = [" HttpOnly".toList] := rfl
  rw [hfields, hlast, List.cons_append] at h
  obtain ⟨⟨n, v⟩, -, hc⟩ := Option.map_eq_some_iff.1 h
  rw [← hc]
  simp only [List.foldl_append, List.foldl_cons, List.foldl_nil,
    SetCookie.withAttribute_httpOnly]

/-! ### What is pending -/

theorem received_remove (jar : CookieJar) (now : Timestamp) (name : String) :
    (jar.remove now name).received = jar.received := by
  rw [remove]
  split <;> rfl

theorem write_of_isRemoval {c : ResponseCookie} (h : c.isRemoval = true) :
    jar.write now c = jar.remove now c.name := by
  rw [write, if_pos h]

theorem received_foldl {cookies : List ResponseCookie} (h : ∀ c ∈ cookies, c.isRemoval = true) :
    (cookies.foldl (write now) jar).received = jar.received := by
  induction cookies generalizing jar with
  | nil => rfl
  | cons c cookies ih =>
    rw [List.foldl_cons, ih fun c' hc' => h c' (List.mem_cons_of_mem c hc'),
      write_of_isRemoval (h c List.mem_cons_self), received_remove]

/-- A pending cookie outlives what is written under other names. -/
theorem mem_discard {c : SetCookie} (hc : c ∈ jar.pending) (hname : c.name ≠ name) :
    c ∈ (jar.discard name).pending :=
  List.mem_filter.2 ⟨hc, by simpa using hname⟩

theorem mem_pending_add {c c' : SetCookie} :
    c' ∈ (jar.add c).pending ↔ c' ∈ (jar.discard c.name).pending ∨ c' = c := by
  rw [add, List.mem_append, List.mem_singleton]

/-- Removing one cookie leaves the removal of another pending, and brings its own. -/
theorem removal_mem_remove (hreceived : (jar.received? name).isSome = true) {name' : String}
    (h : SetCookie.removal now name ∈ jar.pending ∨ name' = name) :
    SetCookie.removal now name ∈ (jar.remove now name').pending := by
  by_cases hname : name' = name
  · subst hname
    rw [remove, if_pos hreceived]
    exact mem_pending_add.2 (.inr rfl)
  · have hpending := mem_discard (h.resolve_right hname)
      (show (SetCookie.removal now name).name ≠ name' from Ne.symm hname)
    rw [remove]
    split
    · exact mem_pending_add.2 (.inl hpending)
    · exact hpending

/-- Among removals only, one that is queued for a received cookie is pending at the end. -/
theorem removal_mem_foldl {cookies : List ResponseCookie}
    (hremovals : ∀ c ∈ cookies, c.isRemoval = true)
    (hreceived : (jar.received? name).isSome = true)
    (h : SetCookie.removal now name ∈ jar.pending ∨ ∃ c ∈ cookies, c.name = name) :
    SetCookie.removal now name ∈ (cookies.foldl (write now) jar).pending := by
  induction cookies generalizing jar with
  | nil =>
    rcases h with h | ⟨c, hc, -⟩
    · exact h
    · cases hc
  | cons c cookies ih =>
    have hwrite : jar.write now c = jar.remove now c.name :=
      write_of_isRemoval (hremovals c List.mem_cons_self)
    have hkept : ((jar.write now c).received? name).isSome = true := by
      rw [received?, hwrite, received_remove]
      exact hreceived
    rw [List.foldl_cons]
    refine ih (fun c' hc' => hremovals c' (List.mem_cons_of_mem c hc')) hkept ?_
    rw [hwrite]
    rcases h with h | ⟨c', hc', hname⟩
    · exact .inl (removal_mem_remove hreceived (.inl h))
    · rcases List.mem_cons.1 hc' with rfl | hc'
      · exact .inl (removal_mem_remove hreceived (.inr hname))
      · exact .inr ⟨c', hc', hname⟩

/-- Removals leave nothing but removals of cookies that the request brought. -/
theorem pending_foldl {cookies : List ResponseCookie}
    (hremovals : ∀ c ∈ cookies, c.isRemoval = true)
    (h : ∀ c ∈ jar.pending, ∃ n, c = SetCookie.removal now n ∧ (jar.received? n).isSome = true) :
    ∀ c ∈ (cookies.foldl (write now) jar).pending,
      ∃ n, c = SetCookie.removal now n ∧ (jar.received? n).isSome = true := by
  induction cookies generalizing jar with
  | nil => exact h
  | cons c cookies ih =>
    have hreceived (n : String) : (jar.remove now c.name).received? n = jar.received? n := by
      rw [received?, received_remove, received?]
    have hcookies := @ih (jar.remove now c.name)
      fun c' hc' => hremovals c' (List.mem_cons_of_mem c hc')
    simp only [hreceived] at hcookies
    rw [List.foldl_cons, write_of_isRemoval (hremovals c List.mem_cons_self)]
    refine hcookies fun c' hc' => ?_
    rw [remove] at hc'
    split at hc'
    · rename_i hsome
      rcases mem_pending_add.1 hc' with hc' | rfl
      · exact h c' (List.mem_filter.1 hc').1
      · exact ⟨_, rfl, hsome⟩
    · exact h c' (List.mem_filter.1 hc').1

/-! ### What goes out -/

theorem mem_headers_iff {line : String} (hline : isHeaderValue line = true) :
    ("set-cookie", line) ∈ jar.headers ↔ ∃ c ∈ jar.pending, c.text = line := by
  simp only [headers, List.mem_map, List.mem_filter, Prod.mk.injEq, true_and]
  constructor
  · rintro ⟨line', ⟨hc, -⟩, rfl⟩
    exact hc
  · rintro ⟨c, hc, rfl⟩
    exact ⟨c.text, ⟨⟨c, hc, rfl⟩, hline⟩, rfl⟩

theorem removes_headers (h : SetCookie.removal now name ∈ jar.pending) :
    Removes jar.headers name :=
  ⟨now, (mem_headers_iff (SetCookie.isHeaderValue_text_removal now name)).2 ⟨_, h, rfl⟩⟩

/-- A session cookie that is set takes the place of a removal under its name, and of no other. -/
theorem removes_write_iff (hpending : SetCookie.removal now name ∈ jar.pending)
    (honly : ∀ c ∈ jar.pending, ∃ n, c = SetCookie.removal now n) (id : SessionId) :
    Removes (jar.write now (sessionCookie cookieName (some id))).headers name ↔
      sessionName? cookieName id ≠ some name := by
  rw [write, if_neg (by simp [sessionCookie, ResponseCookie.isRemoval]), sessionName?]
  cases hparse : SetCookie.parse? (rawText (sessionCookie cookieName (some id))) with
  | none => exact iff_of_true (removes_headers hpending) (by simp)
  | some c =>
    rw [Option.map_some, ne_eq, Option.some_inj]
    constructor
    · rintro ⟨now', hmem⟩ hcname
      obtain ⟨c', hc', htext⟩ :=
        (mem_headers_iff (SetCookie.isHeaderValue_text_removal now' name)).1 hmem
      rcases mem_pending_add.1 hc' with hc' | rfl
      · obtain ⟨hmem, hother⟩ := List.mem_filter.1 hc'
        obtain ⟨n, rfl⟩ := honly c' hmem
        obtain rfl := SetCookie.text_removal_injective htext
        exact absurd hother (by simp [hcname, SetCookie.removal])
      · have hhidden : c.httpOnly = true := httpOnly_of_parse? hparse
        refine SetCookie.text_ne_removal ?_ now' name htext
        exact hhidden
    · intro hcname
      exact removes_headers (mem_pending_add.2 (.inl (mem_discard hpending (Ne.symm hcname))))

/-- Where only removals are queued, the one of a cookie that the request brought goes out, unless
the browser is moved to another session by a cookie of this name. -/
theorem removes_writeContext_iff {ctx : RequestContext} {presented : Option SessionId}
    (hjar : jar.pending = []) (hremovals : ∀ c ∈ ctx.responseCookies, c.isRemoval = true)
    (hqueued : ∃ c ∈ ctx.responseCookies, c.name = name)
    (hreceived : (jar.received? name).isSome = true) :
    Removes (jar.writeContext cookieName now presented ctx).1.headers name ↔
      ∀ id, ctx.sessionId = some id → some id ≠ presented →
        sessionName? cookieName id ≠ some name := by
  obtain ⟨queue, hqueue⟩ : ∃ queue, queue = ctx.responseCookies.foldl (write now) jar := ⟨_, rfl⟩
  have hpending : SetCookie.removal now name ∈ queue.pending :=
    hqueue ▸ removal_mem_foldl hremovals hreceived (.inr hqueued)
  have honly : ∀ c ∈ queue.pending, ∃ n, c = SetCookie.removal now n :=
    fun c hc => (pending_foldl hremovals (by simp [hjar]) c (hqueue ▸ hc)).imp fun _ h => h.1
  rw [writeContext, RequestContext.takeResponseCookies]
  dsimp only
  rw [← hqueue]
  split
  · rename_i hsame
    refine iff_of_true (removes_headers hpending) fun id hid hne => ?_
    exact absurd (hid.symm.trans hsame) hne
  · rename_i hmoved
    cases hid : ctx.sessionId with
    | none =>
      -- The session cookie is removed as well, which harms no other removal.
      have hkept : (queue.received? name).isSome = true := by
        rw [received?, hqueue, received_foldl hremovals]
        exact hreceived
      have hwrite : queue.write now (sessionCookie cookieName none) = queue.remove now cookieName :=
        write_of_isRemoval rfl
      rw [hwrite]
      exact iff_of_true (removes_headers (removal_mem_remove hkept (.inl hpending)))
        fun id hid => by cases hid
    | some id =>
      rw [removes_write_iff hpending honly]
      constructor
      · rintro h id' hid' -
        exact Option.some.inj hid' ▸ h
      · exact fun h => h id rfl (hid ▸ hmoved)

end CookieJar

end Http

end WebLogin
