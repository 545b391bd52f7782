/-
What is left in a browser after a response.

A browser may hold any cookies, also such that no service has set, or that cannot be read. What the
service reads under a name comes from the place where it sets a cookie of that name. Then a removal
takes it away, and a session cookie takes its place, and what is read under other names is as it
was.

* `Browser.received?_jar` — what a request brings under a name;
* `CookieJar.pending_writeContext` — the cookies that a context in which only removals are queued
  leads to;
* `Browser.presented_written` — a browser presents the session that the context was left with, if
  any;
* `Browser.received?_written` — it no longer brings a cookie whose removal was queued.
-/
import WebLogin.Proofs.Http.Removals

namespace WebLogin

namespace Http

/-! ### What a browser brings -/

/-- A blank before a pair is no part of it. -/
theorem cookie?_blank (cs : List Char) : cookie? (' ' :: cs) = cookie? cs := by
  have hassign : assignment? (' ' :: cs) = assignment? cs := by
    rw [assignment?, cut?, if_neg (by decide), Option.map_map, assignment?]
    congr 1
  rw [cookie?, namedPair?, hassign, cookie?, namedPair?]

theorem filterMap_splitOn_blank (cs : List Char) :
    (splitOn ';' (' ' :: cs)).filterMap cookie? = (splitOn ';' cs).filterMap cookie? := by
  obtain ⟨field, fields, hfields⟩ := List.exists_cons_of_ne_nil (splitOn_ne_nil ';' cs)
  rw [splitOn, if_neg (by decide), hfields]
  dsimp only
  rw [List.filterMap_cons, List.filterMap_cons, cookie?_blank]

namespace SetCookie

/-- The pair as it is sent. -/
def pair (c : SetCookie) : String := c.name ++ "=" ++ c.value

/-- What the service takes the pair to be. -/
def brought (c : SetCookie) : List (String × String) :=
  (splitOn ';' c.pair.toList).filterMap cookie?

/-- The values that are read under a name. -/
def values (c : SetCookie) (name : String) : List String :=
  c.brought.filterMap fun p => if p.1 = name then some p.2 else none

theorem values_eq_nil_iff {c : SetCookie} {name : String} :
    c.values name = [] ↔ ∀ p ∈ c.brought, p.1 ≠ name := by
  simp [values, List.filterMap_eq_nil_iff]

theorem exists_of_values {c : SetCookie} {name : String} (h : c.values name ≠ []) :
    ∃ p ∈ c.brought, p.1 = name := by
  refine Decidable.byContradiction fun hnone => h (values_eq_nil_iff.2 fun p hp heq => ?_)
  exact hnone ⟨p, hp, heq⟩

theorem brought_ofSession {cookieName : String} (h : IsCookieName cookieName) (id : SessionId) :
    (ofSession cookieName id).brought = [(cookieName, id.text)] := by
  have hcookies := cookiesOf_session h id
  rw [cookiesOf] at hcookies
  split at hcookies
  · exact hcookies
  · cases hcookies

theorem encoded_injective {s t : String} (h : encoded s = encoded t) : s = t := by
  have hdecode := decode?_encoded s
  rw [h, decode?_encoded] at hdecode
  exact (Option.some.inj hdecode).symm

end SetCookie

/-- The last pair of a name decides. -/
theorem lookup_reverse (pairs : List (String × String)) (name : String) :
    pairs.reverse.lookup name =
      (pairs.filterMap fun p => if p.1 = name then some p.2 else none).getLast? := by
  induction pairs with
  | nil => rfl
  | cons p pairs ih =>
    obtain ⟨n, v⟩ := p
    rw [List.reverse_cons, List.lookup_append, ih, List.filterMap_cons]
    by_cases hname : n = name
    · subst hname
      rw [if_pos rfl, List.getLast?_cons, List.lookup_cons, beq_self_eq_true]
      cases (List.filterMap (fun p => if p.1 = n then some p.2 else none) pairs).getLast? <;> rfl
    · rw [if_neg hname, List.lookup_cons, beq_false_of_ne (Ne.symm hname), List.lookup_nil]
      exact Option.or_none

namespace Browser

variable {b : Browser} {name : String}

/-- The value of the header that brings the cookies. -/
def line (b : Browser) : String := "; ".intercalate (b.map SetCookie.pair)

/-- The jar of a request that the browser sends. -/
def jar (b : Browser) : CookieJar := CookieJar.ofHeaders b.cookieHeaders

/-- The values that are read under a name. -/
def values (b : Browser) (name : String) : List String := b.flatMap fun c => c.values name

theorem values_cons (c : SetCookie) (b : Browser) (name : String) :
    values (c :: b) name = c.values name ++ values b name := List.flatMap_cons

theorem values_append (b b' : Browser) (name : String) :
    values (b ++ b') name = values b name ++ values b' name := List.flatMap_append

/-- What is read under a name does not depend on cookies that are read under others. -/
theorem values_filter {kept : SetCookie → Bool} (h : ∀ c ∈ b, c.values name ≠ [] → kept c = true) :
    values (b.filter kept) name = b.values name := by
  induction b with
  | nil => rfl
  | cons c b ih =>
    have hrest : values (List.filter kept b) name = values b name :=
      ih fun c' hc' => h c' (List.mem_cons_of_mem c hc')
    rw [values_cons, ← hrest, List.filter_cons]
    split
    · exact values_cons c _ name
    · rename_i hdropped
      have hnone : c.values name = [] :=
        Decidable.byContradiction fun hne => hdropped (h c List.mem_cons_self hne)
      rw [hnone, List.nil_append]

theorem ofHeaders_send_bare {r : Request} (hr : headerValues "cookie" r.headers = [])
    (b : Browser) : CookieJar.ofHeaders (b.send r).headers = b.jar := by
  rw [CookieJar.ofHeaders, send, headerValues_append, hr, List.nil_append, jar,
    CookieJar.ofHeaders]

theorem filterMap_splitOn_line (b : Browser) :
    (splitOn ';' b.line.toList).filterMap cookie? = b.flatMap SetCookie.brought := by
  induction b with
  | nil => rfl
  | cons c b ih =>
    cases b with
    | nil =>
      rw [line, List.map_singleton, String.intercalate_singleton, List.flatMap_singleton]
      rfl
    | cons c' b =>
      have hline : (line (c :: c' :: b)).toList =
          c.pair.toList ++ ';' :: ' ' :: (line (c' :: b)).toList := by
        rw [line, List.map_cons, List.map_cons, String.intercalate_cons_cons, String.toList_append,
          String.toList_append, List.append_assoc]
        rfl
      rw [hline, splitOn_append, List.filterMap_append, filterMap_splitOn_blank, ih,
        List.flatMap_cons]
      rfl

/-- All cookies are read, or none if one of them is not plain. -/
theorem received_jar (b : Browser) : b.jar.received =
    if isPlain b.line then (b.flatMap SetCookie.brought).reverse else [] := by
  cases b with
  | nil => rfl
  | cons c b =>
    have hvalues : headerValues "cookie" (cookieHeaders (c :: b)) = [line (c :: b)] := by
      have hlower : ("cookie".toLower == "cookie") = true := by decide +kernel
      rw [headerValues, cookieHeaders, List.filter_cons_of_pos (by exact hlower)]
      rfl
    rw [jar, CookieJar.ofHeaders]
    dsimp only
    rw [hvalues, List.flatMap_singleton, cookiesOf, filterMap_splitOn_line]
    split <;> rfl

theorem received?_jar (b : Browser) (name : String) :
    b.jar.received? name = if isPlain b.line then (b.values name).getLast? else none := by
  rw [CookieJar.received?, received_jar]
  split
  · rw [lookup_reverse, List.filterMap_flatMap]
    rfl
  · rfl

theorem received?_jar_of_values (h : b.values name = []) : b.jar.received? name = none := by
  rw [received?_jar, h]
  split <;> rfl

theorem values_of_received?_jar (hplain : isPlain b.line = true)
    (h : b.jar.received? name = none) : b.values name = [] := by
  rw [received?_jar, if_pos hplain] at h
  exact List.getLast?_eq_none_iff.1 h

/-- Whatever is read under one of the names comes from the place where the service sets a cookie of
that name: under the name as it is written, and for the whole site. -/
def Regular (names : List String) (b : Browser) : Prop :=
  ∀ c ∈ b, ∀ p ∈ c.brought, p.1 ∈ names →
    c.name = SetCookie.encoded p.1 ∧ c.path.getD "/" = "/"

/-- That is so if every cookie stands where the service would set it, whatever its value. -/
theorem Regular.of_placed (h : ∀ c ∈ b, (∃ n ≠ "", c.name = SetCookie.encoded n) ∧
    ';' ∉ c.value.toList ∧ c.path.getD "/" = "/") (names : List String) : b.Regular names := by
  intro c hc p hp _
  obtain ⟨⟨n, hn, hname⟩, hvalue, hpath⟩ := h c hc
  have hcookie := SetCookie.isCookieName_encoded hn
  have hpair : c.pair.toList = (SetCookie.encoded n).toList ++ '=' :: c.value.toList := by
    rw [SetCookie.pair, hname, String.toList_append, String.toList_append, List.append_assoc]
    rfl
  have hone : ';' ∉ c.pair.toList := by
    rw [hpair, List.mem_append, List.mem_cons, not_or, not_or]
    exact ⟨hcookie.semicolon, by decide, hvalue⟩
  have hnamed : namedPair? c.pair.toList =
      some (SetCookie.encoded n, String.ofList (trimWhiteSpace c.value.toList)) := by
    rw [hpair]
    exact namedPair?_cons hcookie.edges hcookie.equals hcookie.ne_empty c.value.toList
  rw [SetCookie.brought, splitOn_of_notMem hone, List.mem_filterMap] at hp
  obtain ⟨cs, hcs, hread⟩ := hp
  obtain rfl := List.mem_singleton.1 hcs
  -- If the value can be read at all, it is read under the name that the cookie was set with.
  rw [cookie?, hnamed] at hread
  simp only [Option.bind_eq_bind, Option.bind_some, SetCookie.decode?_encoded] at hread
  obtain ⟨value, -, hp⟩ := Option.bind_eq_some_iff.1 hread
  rw [← Option.some.inj hp]
  exact ⟨hname, hpath⟩

/-! ### What a browser is told -/

/-- The browser without the cookie that the service has set under a name. -/
def forget (b : Browser) (name : String) : Browser :=
  b.filter fun c => !(SetCookie.encoded name == c.name && "/" == c.path.getD "/")

variable {names : List String}

theorem Regular.forget (h : b.Regular names) (name : String) : (b.forget name).Regular names :=
  fun c hc => h c (List.mem_filter.1 hc).1

theorem values_forget_self (h : b.Regular names) (hname : name ∈ names) :
    (b.forget name).values name = [] := by
  rw [values, List.flatMap_eq_nil_iff]
  intro c hc
  rw [SetCookie.values_eq_nil_iff]
  rintro p hp rfl
  obtain ⟨hc, hkept⟩ := List.mem_filter.1 hc
  obtain ⟨hcname, hpath⟩ := h c hc p hp hname
  rw [hcname, hpath] at hkept
  simp at hkept

theorem values_forget_of_ne (h : b.Regular names) (hname : name ∈ names) {gone : String}
    (hne : gone ≠ name) : (b.forget gone).values name = b.values name := by
  refine values_filter fun c hc hread => ?_
  obtain ⟨p, hp, rfl⟩ := SetCookie.exists_of_values hread
  rw [(h c hc p hp hname).1, beq_false_of_ne fun heq => hne (SetCookie.encoded_injective heq)]
  rfl

/-- A browser that is told to forget a name does so; a name that is empty cannot be told. -/
theorem receive_removal_eq (b : Browser) (now : Timestamp) (name : String) :
    b.receive (SetCookie.removal now name).text = if name = "" then b else b.forget name := by
  by_cases hname : name = ""
  · subst hname
    have hnone : SetCookie.parse? (SetCookie.removal now "").text = none := by
      have hrest : ∃ rest, (SetCookie.removal now "").text.toList = ['='] ++ ';' :: rest := by
        rw [SetCookie.toList_text_removal]
        exact ⟨_, rfl⟩
      obtain ⟨rest, hrest⟩ := hrest
      rw [SetCookie.parse?, hrest, splitOn_append_cons (by decide)]
      rfl
    rw [if_pos rfl, receive, hnone]
  · obtain ⟨e, hparse⟩ := SetCookie.parse?_text_removal hname now
    rw [if_neg hname, receive, hparse]
    rfl

/-- A browser that is told its session drops the one it had. -/
theorem receive_forSession_eq {cookieName : String} (h : IsCookieName cookieName) (b : Browser)
    (id : SessionId) : b.receive (SetCookie.forSession cookieName id).text =
      b.forget cookieName ++ [.ofSession cookieName id] := by
  rw [receive, SetCookie.parse?_text_forSession h]
  rfl

/-- A browser that is told to forget a name keeps what is regular about it, and what it brings
under other names. -/
theorem values_receive_removal (h : b.Regular names) (hname : name ∈ names) (hne : name ≠ "")
    (now : Timestamp) (gone : String) :
    (b.receive (SetCookie.removal now gone).text).Regular names ∧
      (b.receive (SetCookie.removal now gone).text).values name =
        if name = gone then [] else b.values name := by
  rw [receive_removal_eq]
  by_cases hgone : name = gone
  · subst hgone
    rw [if_neg hne, if_pos rfl]
    exact ⟨h.forget name, values_forget_self h hname⟩
  · rw [if_neg hgone]
    split
    · exact ⟨h, rfl⟩
    · exact ⟨h.forget gone, values_forget_of_ne h hname (Ne.symm hgone)⟩

/-- A browser that is told to forget some names. -/
def forgetting (b : Browser) (now : Timestamp) (gone : List String) : Browser :=
  gone.foldl (fun b n => b.receive (SetCookie.removal now n).text) b

theorem values_forgetting (h : b.Regular names) (hname : name ∈ names) (hne : name ≠ "")
    (now : Timestamp) (gone : List String) :
    (b.forgetting now gone).Regular names ∧
      (b.forgetting now gone).values name = if name ∈ gone then [] else b.values name := by
  induction gone generalizing b with
  | nil => exact ⟨h, rfl⟩
  | cons n gone ih =>
    obtain ⟨hregular, hvalues⟩ := values_receive_removal h hname hne now n
    obtain ⟨hregular', hvalues'⟩ := ih hregular
    rw [forgetting, List.foldl_cons, ← forgetting]
    refine ⟨hregular', ?_⟩
    rw [hvalues', hvalues]
    by_cases hgone : name ∈ gone
    · rw [if_pos hgone, if_pos (List.mem_cons_of_mem n hgone)]
    · simp only [List.mem_cons, hgone, or_false, if_false]

end Browser

/-! ### What a response tells a browser -/

namespace CookieJar

variable {now : Timestamp} {cookieName name : String} {jar : CookieJar} {ctx : RequestContext}
  {presented : Option SessionId}

/-- The jar brings the removals of some cookies of the request, and nothing else. -/
def Forgets (now : Timestamp) (jar : CookieJar) (gone : List String) : Prop :=
  jar.pending = gone.map (SetCookie.removal now) ∧
    ∀ name ∈ gone, (jar.received? name).isSome = true

theorem forgets_of_pending (h : ∀ c ∈ jar.pending,
    ∃ n, c = SetCookie.removal now n ∧ (jar.received? n).isSome = true) :
    jar.Forgets now (jar.pending.map SetCookie.name) := by
  refine ⟨?_, fun name hname => ?_⟩
  · have hself : ∀ c ∈ jar.pending, SetCookie.removal now c.name = c := by
      intro c hc
      obtain ⟨n, rfl, -⟩ := h c hc
      rfl
    rw [List.map_map]
    exact (List.map_congr_left hself).trans (List.map_id _) |>.symm
  · obtain ⟨c, hc, rfl⟩ := List.mem_map.1 hname
    obtain ⟨n, rfl, hreceived⟩ := h c hc
    exact hreceived

/-- What is pending under a name is given up. -/
theorem Forgets.discard {gone : List String} (h : jar.Forgets now gone) (name : String) :
    (jar.discard name).Forgets now (gone.filter (· != name)) := by
  refine ⟨?_, fun n hn => h.2 n (List.mem_filter.1 hn).1⟩
  rw [CookieJar.discard]
  dsimp only
  rw [h.1, List.filter_map]
  rfl

theorem Forgets.remove {gone : List String} (h : jar.Forgets now gone) (name : String) :
    ∃ gone', (jar.remove now name).Forgets now gone' ∧ (∀ n ∈ gone, n ≠ name → n ∈ gone') ∧
      ((jar.received? name).isSome = true → name ∈ gone') := by
  have hdiscard := h.discard name
  rw [CookieJar.remove]
  split
  · rename_i hsome
    refine ⟨gone.filter (· != name) ++ [name], ⟨?_, fun n hn => ?_⟩, fun n hn hne => ?_,
      fun _ => ?_⟩
    · rw [add, List.map_append, List.map_singleton]
      dsimp only
      rw [← hdiscard.1]
      rfl
    · rcases List.mem_append.1 hn with hn | hn
      · exact hdiscard.2 n hn
      · obtain rfl := List.mem_singleton.1 hn
        exact hsome
    · exact List.mem_append_left _ (List.mem_filter.2 ⟨hn, by simpa using hne⟩)
    · exact List.mem_append_right _ (List.mem_singleton_self name)
  · rename_i hnone
    exact ⟨_, hdiscard, fun n hn hne => List.mem_filter.2 ⟨hn, by simpa using hne⟩,
      fun hsome => absurd hsome hnone⟩

theorem write_sessionCookie (h : IsCookieName cookieName) (jar : CookieJar) (id : SessionId) :
    jar.write now (sessionCookie cookieName (some id)) =
      jar.add (SetCookie.forSession cookieName id) := by
  rw [write, Browser.parse?_rawText h]
  rfl

/-- The session that the response tells of: the one that the request is left with, if it has not
come with it. -/
def newSession? (presented : Option SessionId) (ctx : RequestContext) : Option SessionId :=
  if ctx.sessionId = presented then none else ctx.sessionId

theorem sessionId_of_newSession? {id : SessionId} (h : newSession? presented ctx = some id) :
    ctx.sessionId = some id := by
  rw [newSession?] at h
  split at h
  · cases h
  · exact h

theorem newSession?_eq_none (h : newSession? presented ctx = none) :
    ctx.sessionId = presented ∨ ctx.sessionId ≠ presented ∧ ctx.sessionId = none := by
  rw [newSession?] at h
  split at h
  · rename_i hsame
    exact .inl hsame
  · rename_i hmoved
    exact .inr ⟨hmoved, h⟩

/-- Where only removals are queued, the response removes cookies that the request brought, among
them those whose removal is queued, and last it sets the session cookie if the session has
changed. -/
theorem pending_writeContext (h : IsCookieName cookieName)
    (hjar : jar.pending = []) (hremovals : ∀ c ∈ ctx.responseCookies, c.isRemoval = true) :
    ∃ gone : List String, (jar.writeContext cookieName now presented ctx).1.pending =
        gone.map (SetCookie.removal now) ++
          (newSession? presented ctx).toList.map (SetCookie.forSession cookieName) ∧
      (∀ name ∈ gone, (jar.received? name).isSome = true) ∧
      (∀ name ≠ cookieName, (∃ c ∈ ctx.responseCookies, c.name = name) →
        (jar.received? name).isSome = true → name ∈ gone) ∧
      (ctx.sessionId = none → ctx.sessionId ≠ presented →
        (jar.received? cookieName).isSome = true → cookieName ∈ gone) := by
  obtain ⟨queue, hqueue⟩ : ∃ queue, queue = ctx.responseCookies.foldl (write now) jar := ⟨_, rfl⟩
  have hreceived (n : String) : queue.received? n = jar.received? n := by
    rw [received?, hqueue, received_foldl hremovals, received?]
  obtain ⟨gone, hgone⟩ : ∃ gone, queue.Forgets now gone := by
    refine ⟨_, forgets_of_pending fun c hc => ?_⟩
    rw [hqueue] at hc
    obtain ⟨n, hn, hsome⟩ := pending_foldl hremovals (by simp [hjar]) c hc
    exact ⟨n, hn, (hreceived n).symm ▸ hsome⟩
  have hqueued (name : String) (hname : ∃ c ∈ ctx.responseCookies, c.name = name)
      (hsome : (jar.received? name).isSome = true) : name ∈ gone := by
    have hmem : SetCookie.removal now name ∈ queue.pending :=
      hqueue ▸ removal_mem_foldl hremovals hsome (.inr hname)
    rw [hgone.1, List.mem_map] at hmem
    obtain ⟨n, hn, heq⟩ := hmem
    obtain rfl : n = name := congrArg SetCookie.name heq
    exact hn
  simp only [← hreceived] at hqueued ⊢
  rw [writeContext, RequestContext.takeResponseCookies]
  dsimp only
  rw [← hqueue]
  split
  · rename_i hsame
    refine ⟨gone, ?_, hgone.2, fun n _ => hqueued n, fun _ hne => absurd hsame hne⟩
    rw [hgone.1, newSession?, if_pos hsame]
    exact (List.append_nil _).symm
  · rename_i hmoved
    cases hid : ctx.sessionId with
    | none =>
      obtain ⟨gone', hgone', hkept, hsession⟩ := hgone.remove cookieName
      refine ⟨gone', ?_, ?_, fun n hne hname hsome => hkept n (hqueued n hname hsome) hne,
        fun _ _ => hsession⟩
      · rw [newSession?, if_neg hmoved, hid]
        exact hgone'.1.trans (List.append_nil _).symm
      · have hremove (n : String) :
            (queue.remove now cookieName).received? n = queue.received? n := by
          rw [received?, received_remove, received?]
        exact fun n hn => hremove n ▸ hgone'.2 n hn
    | some id =>
      have hdiscard := hgone.discard cookieName
      refine ⟨_, ?_, hdiscard.2, fun n hne hname hsome =>
        List.mem_filter.2 ⟨hqueued n hname hsome, by simpa using hne⟩, fun hnone => by cases hnone⟩
      rw [write_sessionCookie h, newSession?, if_neg hmoved, hid, ← hdiscard.1]
      rfl

end CookieJar

namespace Browser

variable {b : Browser} {names : List String} {cookieName name : String} {now : Timestamp}
  {ctx : RequestContext}

/-- The browser after the cookies of a context were written to the jar of its request. -/
def written (b : Browser) (cookieName : String) (now : Timestamp) (ctx : RequestContext) :
    Browser :=
  (headerValues "set-cookie" (b.jar.writeContext cookieName now (b.jar.presented cookieName)
    ctx).1.headers).foldl receive b

/-- A browser after it was told a session, if there is one to tell. -/
def taking (b : Browser) (cookieName : String) (id : Option SessionId) : Browser :=
  id.elim b fun id => b.receive (SetCookie.forSession cookieName id).text

/-- The browser forgets what it is told to forget, and last takes the session cookie. -/
theorem written_eq {gone : List String} {new : Option SessionId}
    (h : (b.jar.writeContext cookieName now (b.jar.presented cookieName) ctx).1.pending =
      gone.map (SetCookie.removal now) ++ new.toList.map (SetCookie.forSession cookieName)) :
    b.written cookieName now ctx = (b.forgetting now gone).taking cookieName new := by
  have hsent : ∀ line ∈ (gone.map (SetCookie.removal now) ++
      new.toList.map (SetCookie.forSession cookieName)).map SetCookie.text,
      isHeaderValue line = true := by
    simp only [List.mem_map, List.mem_append]
    rintro line ⟨c, ⟨n, -, rfl⟩ | ⟨id, -, rfl⟩, rfl⟩
    · exact SetCookie.isHeaderValue_text_removal now n
    · exact SetCookie.isHeaderValue_text_forSession cookieName id
  have hgone : (gone.map (SetCookie.text ∘ SetCookie.removal now)).foldl receive b =
      b.forgetting now gone := List.foldl_map
  rw [written, headerValues_headers, h, List.filter_eq_self.2 hsent, List.map_append,
    List.foldl_append, List.map_map, hgone, taking]
  cases new with
  | none => rw [Option.toList_none, List.map_nil, List.map_nil, List.foldl_nil, Option.elim_none]
  | some id =>
    rw [Option.toList_some, List.map_singleton, List.map_singleton, List.foldl_cons,
      List.foldl_nil, Option.elim_some]

/-- The session cookie takes the place of the one before, and touches no other name. -/
theorem values_receive_forSession (h : b.Regular names) (hsession : cookieName ∈ names)
    (hcookie : IsCookieName cookieName) (id : SessionId) (hname : name ∈ names) :
    (b.receive (SetCookie.forSession cookieName id).text).Regular names ∧
      (b.receive (SetCookie.forSession cookieName id).text).values name =
        if name = cookieName then [id.text] else b.values name := by
  rw [receive_forSession_eq hcookie]
  have hbrought := SetCookie.brought_ofSession hcookie id
  refine ⟨fun c hc p hp hmem => ?_, ?_⟩
  · rcases List.mem_append.1 hc with hc | hc
    · exact h.forget cookieName c hc p hp hmem
    · obtain rfl := List.mem_singleton.1 hc
      rw [hbrought] at hp
      obtain rfl := List.mem_singleton.1 hp
      exact ⟨rfl, rfl⟩
  · have hlast : values [SetCookie.ofSession cookieName id] name =
        if cookieName = name then [id.text] else [] := by
      rw [values, List.flatMap_singleton, SetCookie.values, hbrought, List.filterMap_cons]
      split <;> simp_all
    rw [values_append, hlast]
    by_cases heq : name = cookieName
    · subst heq
      rw [if_pos rfl, if_pos rfl, values_forget_self h hname, List.nil_append]
    · rw [if_neg heq, if_neg (Ne.symm heq), List.append_nil,
        values_forget_of_ne h hname (Ne.symm heq)]

theorem values_taking (h : b.Regular names) (hsession : cookieName ∈ names)
    (hcookie : IsCookieName cookieName) (new : Option SessionId) (hname : name ∈ names) :
    (b.taking cookieName new).Regular names ∧ (b.taking cookieName new).values name =
      if name = cookieName then new.elim (b.values name) fun id => [id.text]
      else b.values name := by
  rw [taking]
  cases new with
  | none =>
    rw [Option.elim_none, Option.elim_none, ite_self]
    exact ⟨h, rfl⟩
  | some id =>
    rw [Option.elim_some, Option.elim_some]
    exact values_receive_forSession h hsession hcookie id hname

/-- A browser that holds a cookie it cannot send brings nothing. -/
theorem received?_jar_of_not_plain (h : isPlain b.line ≠ true) (name : String) :
    b.jar.received? name = none := by
  rw [received?_jar, if_neg h]

theorem presented_of_not_plain (h : isPlain b.line ≠ true) (cookieName : String) :
    b.jar.presented cookieName = none := by
  rw [CookieJar.presented, received?_jar_of_not_plain h]
  rfl

theorem received?_jar_of_values_eq {b' : Browser} (hplain : isPlain b.line = true)
    (hvalues : b'.values name = b.values name) {v : String}
    (h : b'.jar.received? name = some v) : b.jar.received? name = some v := by
  rw [received?_jar] at h ⊢
  split at h
  · rw [if_pos hplain, ← hvalues]
    exact h
  · cases h

theorem forgetting_of_not_plain (h : isPlain b.line ≠ true) {gone : List String}
    (hgone : ∀ n ∈ gone, (b.jar.received? n).isSome = true) (now : Timestamp) :
    b.forgetting now gone = b := by
  have hnil : gone = [] := by
    rw [List.eq_nil_iff_forall_not_mem]
    intro n hn
    have hsome := hgone n hn
    rw [received?_jar_of_not_plain h] at hsome
    cases hsome
  rw [hnil]
  rfl

theorem presented_of_values (h : b.values cookieName = []) :
    b.jar.presented cookieName = none := by
  rw [CookieJar.presented, received?_jar_of_values h]
  rfl

/-- After a request a browser is regular as before, and presents the session of the context, or
none. -/
theorem presented_written (h : b.Regular names) (hsession : cookieName ∈ names)
    (hcookie : IsCookieName cookieName) (hremovals : ∀ c ∈ ctx.responseCookies, c.isRemoval = true)
    (now : Timestamp) :
    (b.written cookieName now ctx).Regular names ∧
      ∀ id, (b.written cookieName now ctx).jar.presented cookieName = some id →
        ctx.sessionId = some id := by
  obtain ⟨gone, hpending, hgone, -, hleft⟩ := @CookieJar.pending_writeContext now cookieName b.jar
    ctx (b.jar.presented cookieName) hcookie rfl hremovals
  obtain ⟨hregular, hforgets⟩ := values_forgetting h hsession hcookie.ne_empty now gone
  obtain ⟨hregular', hvalues⟩ := values_taking hregular hsession hcookie
    (CookieJar.newSession? (b.jar.presented cookieName) ctx) hsession
  rw [written_eq hpending]
  refine ⟨hregular', fun id hid => ?_⟩
  rw [if_pos rfl, hforgets] at hvalues
  cases hnew : CookieJar.newSession? (b.jar.presented cookieName) ctx with
  | some id' =>
    rw [hnew, Option.elim_some] at hvalues
    rw [hnew, CookieJar.presented, received?_jar, hvalues] at hid
    split at hid
    · rw [List.getLast?_singleton, Option.bind_some, SessionId.parse?_text] at hid
      exact (CookieJar.sessionId_of_newSession? hnew).trans hid
    · cases hid
  | none =>
    rw [hnew, Option.elim_none] at hvalues
    rw [hnew] at hid
    rcases CookieJar.newSession?_eq_none hnew with hsame | ⟨hmoved, hnone⟩
    · rw [hsame]
      by_cases hplain : isPlain b.line = true
      · -- What the browser still brings it has brought before.
        split at hvalues
        · rw [presented_of_values hvalues] at hid
          cases hid
        · rw [CookieJar.presented] at hid ⊢
          obtain ⟨v, hv, hparse⟩ := Option.bind_eq_some_iff.1 hid
          rw [received?_jar_of_values_eq hplain hvalues hv]
          exact hparse
      · rw [forgetting_of_not_plain hplain hgone] at hid
        exact hid
    · have hsome : (b.jar.received? cookieName).isSome = true := by
        cases hreceived : b.jar.received? cookieName with
        | none => exact absurd (hnone.trans (by rw [CookieJar.presented, hreceived]; rfl)) hmoved
        | some v => rfl
      rw [if_pos (hleft hnone hmoved hsome)] at hvalues
      rw [presented_of_values hvalues] at hid
      cases hid

/-- A browser brings no cookie of another name if the removal of any that it brought was queued.
One that brings nothing at all may do so only if it is not given a session. -/
theorem received?_written (h : b.Regular names) (hsession : cookieName ∈ names)
    (hcookie : IsCookieName cookieName) (hremovals : ∀ c ∈ ctx.responseCookies, c.isRemoval = true)
    (hname : name ∈ names) (hne : name ≠ "") (hother : name ≠ cookieName)
    (hqueued : (b.jar.received? name).isSome = true → ∃ c ∈ ctx.responseCookies, c.name = name)
    (hplain : isPlain b.line = true ∨ ctx.sessionId = none) (now : Timestamp) :
    (b.written cookieName now ctx).jar.received? name = none := by
  obtain ⟨gone, hpending, hgone, hremoved, -⟩ := @CookieJar.pending_writeContext now cookieName
    b.jar ctx (b.jar.presented cookieName) hcookie rfl hremovals
  rw [written_eq hpending]
  by_cases hline : isPlain b.line = true
  · obtain ⟨hregular, hforgets⟩ := values_forgetting h hname hne now gone
    obtain ⟨-, hvalues⟩ := values_taking hregular hsession hcookie
      (CookieJar.newSession? (b.jar.presented cookieName) ctx) hname
    refine received?_jar_of_values ?_
    rw [hvalues, if_neg hother, hforgets]
    split
    · rfl
    · rename_i hkept
      refine values_of_received?_jar hline (Option.not_isSome_iff_eq_none.1 fun hsome => ?_)
      exact hkept (hremoved name hother (hqueued hsome) hsome)
  · rw [CookieJar.newSession?, hplain.resolve_left hline, presented_of_not_plain hline, if_pos rfl,
      forgetting_of_not_plain hline hgone]
    exact received?_jar_of_not_plain hline name

end Browser

end Http

end WebLogin
