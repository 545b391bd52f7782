/-
The session of a browser follows the context.

A browser that holds cookies by names, each as the service would set it, reads the response and
sends its cookies with the next request. That one presents the session that the context was left
with, and the session cookie is set if the session has changed, as long as no queued cookie is read
under the name of the session cookie. One that is not named like it may still be read as if it were.

* `SetCookie.parse?_text` — what a browser reads of any header that sets a cookie;
* `Browser.Settled.foldl_receive` — cookies of other names do not change what is read under a name;
* `CookieJar.pending?_foldl` — the last cookie that is read under a name;
* `Browser.follows_iff`, `Browser.follows_of_names` — when a browser follows a context.
-/
import WebLogin.Proofs.Http.Queued

namespace WebLogin

namespace Http

/-! ### Pairs on their way -/

namespace SetCookie

theorem withAttribute_pair (c : SetCookie) (cs : List Char) :
    (c.withAttribute cs).name = c.name ∧ (c.withAttribute cs).value = c.value := by
  rw [withAttribute]
  dsimp only
  split
  case h_5 => split <;> exact ⟨rfl, rfl⟩
  all_goals exact ⟨rfl, rfl⟩

theorem foldl_withAttribute_pair (c : SetCookie) (attributes : List (List Char)) :
    (attributes.foldl withAttribute c).name = c.name ∧
      (attributes.foldl withAttribute c).value = c.value := by
  induction attributes generalizing c with
  | nil => exact ⟨rfl, rfl⟩
  | cons cs attributes ih =>
    obtain ⟨hname, hvalue⟩ := ih (c.withAttribute cs)
    obtain ⟨hname', hvalue'⟩ := withAttribute_pair c cs
    exact ⟨hname.trans hname', hvalue.trans hvalue'⟩

/-- A cookie that a browser holds, or takes over from a header. -/
def Writes (c : SetCookie) (name value : String) : Prop :=
  c.name = encoded name ∧ c.value = encoded value

/-- A browser takes over name and value, unless the name is empty. -/
theorem parse?_text (c : SetCookie) :
    if c.name = "" then parse? c.text = none
    else ∃ d, parse? c.text = some d ∧ d.Writes c.name c.value := by
  rw [parse?, splitOn_text]
  dsimp only
  split
  · rename_i hname
    have htext : (encoded c.name ++ "=" ++ encoded c.value).toList =
        [] ++ '=' :: (encoded c.value).toList := by
      rw [hname, encoded_empty, String.toList_append]
      rfl
    rw [htext, namedPair?_of_blank (List.forall_mem_nil _) List.not_mem_nil, Option.map_none]
  · rename_i hname
    have hpair := ((isCookieName_encoded hname).namedPair? (wire_encoded c.value)).2
    rw [hpair]
    exact ⟨_, rfl, foldl_withAttribute_pair _ _⟩

/-- What the service reads is what was set. -/
theorem Writes.brought {c : SetCookie} {name value : String} (h : c.Writes name value) :
    c.brought = if name = "" then [] else [(name, value)] := by
  rw [SetCookie.brought, pair, h.1, h.2, splitOn_of_notMem (notMem_pair name value),
    List.filterMap_cons, cookie?_encoded]
  split <;> simp_all

theorem Writes.values {c : SetCookie} {name value : String} (h : c.Writes name value)
    {name' : String} (hname : name' ≠ "") :
    c.values name' = if name = name' then [value] else [] := by
  rw [SetCookie.values, h.brought]
  by_cases hempty : name = ""
  · rw [if_pos hempty, if_neg (hempty ▸ Ne.symm hname)]
    rfl
  · rw [if_neg hempty, List.filterMap_cons]
    split <;> simp_all

theorem Writes.isPlain_pair {c : SetCookie} {name value : String} (h : c.Writes name value) :
    isPlain c.pair = true := by
  rw [pair, h.1, h.2]
  exact isPlain_append (isPlain_append (wire_encoded name).isPlain (by decide))
    (wire_encoded value).isPlain

end SetCookie

/-! ### What a browser keeps -/

namespace Browser

variable {b : Browser} {cookieName name : String} {now : Timestamp}

/-- A browser that holds only what can be sent, and what is read under a name where the service
sets it. -/
structure Settled (b : Browser) (name : String) : Prop where
  regular : b.Regular [name]
  plain : ∀ c ∈ b, isPlain c.pair = true

theorem isPlain_line (h : ∀ c ∈ b, isPlain c.pair = true) : isPlain b.line = true := by
  induction b with
  | nil => rfl
  | cons c b ih =>
    have hrest := ih fun c' hc' => h c' (List.mem_cons_of_mem c hc')
    cases b with
    | nil =>
      rw [line, List.map_singleton, String.intercalate_singleton]
      exact h c List.mem_cons_self
    | cons c' b =>
      rw [line, List.map_cons, List.map_cons, String.intercalate_cons_cons]
      exact isPlain_append (isPlain_append (h c List.mem_cons_self) (by decide)) hrest

/-- Such a browser presents the last value that is read under the name. -/
theorem Settled.presented_eq (h : b.Settled name) :
    b.jar.presented name = (b.values name).getLast?.bind SessionId.parse? := by
  rw [CookieJar.presented, received?_jar, if_pos (isPlain_line h.plain)]

/-- A cookie of another name does not change what is read under a name. -/
theorem Settled.receive (h : b.Settled name) {c : SetCookie} (hne : c.name ≠ name) :
    (b.receive c.text).Settled name ∧ (b.receive c.text).values name = b.values name := by
  have hparse := SetCookie.parse?_text c
  rw [Browser.receive]
  split at hparse
  · rw [hparse]
    exact ⟨h, rfl⟩
  · obtain ⟨d, hd, hwrites⟩ := hparse
    rw [hd]
    dsimp only
    have hothers : Settled (b.filter fun c' => !samePlace d c') name :=
      ⟨fun c' hc' => h.regular c' (List.mem_filter.1 hc').1,
        fun c' hc' => h.plain c' (List.mem_filter.1 hc').1⟩
    have hvalues : Browser.values (b.filter fun c' => !samePlace d c') name = b.values name := by
      refine values_filter fun c' hc' hread => ?_
      obtain ⟨p, hp, rfl⟩ := SetCookie.exists_of_values hread
      have hother : d.name ≠ c'.name := by
        rw [hwrites.1, (h.regular c' hc' p hp List.mem_cons_self).1]
        exact fun heq => hne (SetCookie.encoded_injective heq)
      rw [samePlace, beq_false_of_ne hother]
      rfl
    split
    · exact ⟨hothers, hvalues⟩
    · have hbrought : ∀ p ∈ d.brought, p.1 = c.name := by
        rw [hwrites.brought]
        split <;> simp
      have hnone : d.values name = [] :=
        SetCookie.values_eq_nil_iff.2 fun p hp heq => hne ((hbrought p hp).symm.trans heq)
      refine ⟨⟨fun c' hc' p hp hname => ?_, fun c' hc' => ?_⟩, ?_⟩
      · rcases List.mem_append.1 hc' with hc' | hc'
        · exact hothers.regular c' hc' p hp hname
        · obtain rfl := List.mem_singleton.1 hc'
          exact absurd ((hbrought p hp).symm.trans (List.mem_singleton.1 hname)) hne
      · rcases List.mem_append.1 hc' with hc' | hc'
        · exact hothers.plain c' hc'
        · obtain rfl := List.mem_singleton.1 hc'
          exact hwrites.isPlain_pair
      · rw [values_append, hvalues]
        show _ ++ (d.values name ++ []) = _
        rw [hnone, List.append_nil, List.append_nil]

theorem Settled.foldl_receive (h : b.Settled name) {cookies : List SetCookie}
    (hcookies : ∀ c ∈ cookies, c.name ≠ name) :
    ((cookies.map SetCookie.text).foldl Browser.receive b).Settled name ∧
      ((cookies.map SetCookie.text).foldl Browser.receive b).values name = b.values name := by
  induction cookies generalizing b with
  | nil => exact ⟨h, rfl⟩
  | cons c cookies ih =>
    obtain ⟨hsettled, hvalues⟩ := h.receive (hcookies c List.mem_cons_self)
    have hrest : ∀ c' ∈ cookies, c'.name ≠ name := fun c' hc' => hcookies c' (.tail c hc')
    obtain ⟨hsettled', hvalues'⟩ := ih hsettled hrest
    rw [List.map_cons, List.foldl_cons]
    exact ⟨hsettled', hvalues'.trans hvalues⟩

end Browser

/-! ### What is read under the name of the session cookie -/

/-- The last cookie of a queue that is read under a name; a removal is not read. -/
def lastReading? (queue : List ResponseCookie) (name : String) : Option SetCookie :=
  (queue.filterMap fun c => if c.isRemoval then none else reading c).reverse.find?
    fun d => d.name == name

theorem lastReading?_cons (c : ResponseCookie) (queue : List ResponseCookie) (name : String) :
    lastReading? (c :: queue) name = (lastReading? queue name).or
      ((if c.isRemoval then none else reading c).filter fun d => d.name == name) := by
  rw [lastReading?, List.filterMap_cons]
  split
  · rename_i hnone
    rw [hnone]
    exact Option.or_none.symm
  · rename_i d hd
    rw [hd, List.reverse_cons, List.find?_append, lastReading?, Option.filter_some,
      List.find?_singleton]

namespace CookieJar

variable {now : Timestamp} {cookieName name : String} {jar : CookieJar}
  {queue : List ResponseCookie}

/-- Where no removal is queued under a name, the last cookie that is read under it is set. -/
theorem pending?_foldl (hqueue : ∀ c ∈ queue, c.isRemoval = true → c.name ≠ name)
    (jar : CookieJar) (now : Timestamp) :
    (queue.foldl (write now) jar).pending? name =
      (lastReading? queue name).or (jar.pending? name) := by
  induction queue generalizing jar with
  | nil => rfl
  | cons c queue ih =>
    rw [List.foldl_cons, ih fun c' hc' => hqueue c' (List.mem_cons_of_mem c hc'), pending?_write,
      lastReading?_cons, Option.or_assoc, writtenName?, outcome]
    congr 1
    by_cases hremoval : c.isRemoval = true
    · have hother : some c.name ≠ some name :=
        fun heq => hqueue c List.mem_cons_self hremoval (Option.some.inj heq)
      rw [if_pos hremoval, if_neg hother, if_pos hremoval]
      rfl
    · rw [if_neg hremoval, if_neg hremoval, if_neg hremoval]
      cases reading c with
      | none => rfl
      | some d =>
        rw [Option.map_some, Option.filter_some]
        by_cases hname : d.name = name
        · simp [hname]
        · simp [hname]

/-- A cookie whose name can be written is read under its name, whatever its value. -/
theorem name_of_reading {c : ResponseCookie} (h : IsCookieName c.name) {d : SetCookie}
    (hd : reading c = some d) : d.name = c.name := by
  obtain ⟨more, hmore⟩ := exists_rawText c
  have hsemicolon : ';' ∉ c.name.toList ++ ['='] := by
    rw [List.mem_append, not_or]
    exact ⟨h.semicolon, by decide⟩
  obtain ⟨value, fields, hfields⟩ := splitOn_append_of_notMem hsemicolon more
  have hpair : namedPair? (c.name.toList ++ ['='] ++ value) =
      some (c.name, String.ofList (trimWhiteSpace value)) := by
    rw [List.append_assoc]
    exact namedPair?_cons h.edges h.equals h.ne_empty value
  rw [reading, SetCookie.parse?, hmore, hfields] at hd
  dsimp only at hd
  rw [hpair, Option.map_some, Option.map_some] at hd
  rw [← Option.some.inj hd]
  exact (SetCookie.foldl_withAttribute_pair _ fields).1

/-- Cookies with names that can be written are read under no other name. -/
theorem lastReading?_of_names (h : ∀ c ∈ queue, IsCookieName c.name ∧ c.name ≠ name) :
    lastReading? queue name = none := by
  rw [lastReading?, List.find?_eq_none]
  intro d hd hname
  obtain ⟨c, hc, hread⟩ := List.mem_filterMap.1 (List.mem_reverse.1 hd)
  split at hread
  · cases hread
  · exact (h c hc).2 ((name_of_reading (h c hc).1 hread).symm.trans (eq_of_beq hname))

theorem sent_add (jar : CookieJar) {c : SetCookie} (h : isHeaderValue c.text = true) :
    (jar.add c).sent = (jar.discard c.name).sent ++ [c] := by
  rw [sent, add, List.filter_append, List.filter_cons_of_pos (by exact h)]
  rfl

theorem name_ne_of_sent_discard {c : SetCookie} (h : c ∈ (jar.discard name).sent) :
    c.name ≠ name := by
  have hkept := (List.mem_filter.1 (List.mem_filter.1 h).1).2
  exact bne_iff_ne.1 hkept

end CookieJar

namespace Browser

variable {b : Browser} {cookieName name : String} {now : Timestamp} {jar : CookieJar}
  {ctx : RequestContext}

/-- A browser is told of the cookie that is added last after those of other names. -/
theorem Settled.receive_add (h : b.Settled name) (jar : CookieJar) {c : SetCookie}
    (hname : c.name = name) (hsent : isHeaderValue c.text = true) :
    ∃ b' : Browser, (jar.add c).lines.foldl Browser.receive b = b'.receive c.text ∧
      b'.Settled name := by
  have hothers : ∀ c' ∈ (jar.discard c.name).sent, c'.name ≠ name :=
    fun c' hc' => hname ▸ CookieJar.name_ne_of_sent_discard hc'
  obtain ⟨hsettled, -⟩ := h.foldl_receive hothers
  refine ⟨_, ?_, hsettled⟩
  rw [CookieJar.lines_eq, CookieJar.sent_add jar hsent, List.map_append, List.foldl_append,
    List.map_singleton, List.foldl_cons, List.foldl_nil]

/-- The session cookie is the last that a browser is told of, and is presented from then on. -/
theorem Settled.presented_forSession (h : b.Settled cookieName) (hcookie : IsCookieName cookieName)
    (id : SessionId) :
    (b.receive (SetCookie.forSession cookieName id).text).jar.presented cookieName = some id := by
  obtain ⟨hregular, hvalues⟩ := values_receive_forSession h.regular (List.mem_singleton_self _)
    hcookie id (List.mem_singleton_self _)
  rw [if_pos rfl] at hvalues
  have hsettled : (b.receive (SetCookie.forSession cookieName id).text).Settled cookieName := by
    refine ⟨hregular, ?_⟩
    rw [receive_forSession_eq hcookie]
    intro c hc
    rcases List.mem_append.1 hc with hc | hc
    · exact h.plain c (List.mem_filter.1 hc).1
    · obtain rfl := List.mem_singleton.1 hc
      have hwrites : (SetCookie.ofSession cookieName id).Writes cookieName id.text :=
        ⟨rfl, (SetCookie.encoded_id id).symm⟩
      exact hwrites.isPlain_pair
  rw [hsettled.presented_eq, hvalues, List.getLast?_singleton, Option.bind_some,
    SessionId.parse?_text]

/-- The removal of the session cookie leaves none to be presented. -/
theorem Settled.presented_removal (h : b.Settled cookieName) (hcookie : IsCookieName cookieName)
    (now : Timestamp) :
    (b.receive (SetCookie.removal now cookieName).text).jar.presented cookieName = none := by
  obtain ⟨-, hvalues⟩ := values_receive_removal h.regular (List.mem_singleton_self _)
    hcookie.ne_empty now cookieName
  rw [if_pos rfl] at hvalues
  exact presented_of_values hvalues

theorem distinct_writeContext (b : Browser) (cookieName : String) (now : Timestamp)
    (ctx : RequestContext) :
    (b.jar.writeContext cookieName now (b.jar.presented cookieName) ctx).1.Distinct :=
  (CookieJar.distinct_ofHeaders b.cookieHeaders).writeContext cookieName now _ ctx

theorem sessionId_requestContext (jar : CookieJar) (cookieName : String) :
    (jar.requestContext cookieName).sessionId = jar.presented cookieName := rfl

/-- The next request of the browser presents the session that the context was left with, and the
response sets the session cookie if that is not the session that was presented. -/
structure Follows (b : Browser) (cookieName : String) (now : Timestamp) (ctx : RequestContext) :
    Prop where
  presents : ((b.written cookieName now ctx).jar.requestContext cookieName).sessionId =
    ctx.sessionId
  tells : (∃ line ∈ (b.jar.writeContext cookieName now (b.jar.presented cookieName) ctx).1.lines,
      SetCookie.readName? line = some cookieName) ↔
    ctx.sessionId ≠ b.jar.presented cookieName

theorem written_eq_foldl (b : Browser) (cookieName : String) (now : Timestamp)
    (ctx : RequestContext) : b.written cookieName now ctx = (b.jar.writeContext cookieName now
      (b.jar.presented cookieName) ctx).1.lines.foldl receive b := by
  rw [written, CookieJar.lines]

/-- A cookie that is written last under the name of the session cookie is what a browser is told. -/
theorem Settled.follows_of_add (h : b.Settled cookieName) (hcookie : IsCookieName cookieName)
    (hmoved : ctx.sessionId ≠ b.jar.presented cookieName) {c : SetCookie}
    (hname : c.name = cookieName) (hsent : isHeaderValue c.text = true)
    (hwrite : (b.jar.writeContext cookieName now (b.jar.presented cookieName) ctx).1 = jar.add c)
    (hpresents : ∀ b' : Browser, b'.Settled cookieName →
      (b'.receive c.text).jar.presented cookieName = ctx.sessionId) :
    b.Follows cookieName now ctx := by
  have hdistinct := b.distinct_writeContext cookieName now ctx
  obtain ⟨b', hreceive, hsettled⟩ := h.receive_add jar hname hsent
  have hwritten : b.written cookieName now ctx = b'.receive c.text := by
    rw [written_eq_foldl, hwrite, hreceive]
  refine ⟨?_, iff_of_true ?_ hmoved⟩
  · rw [hwritten, sessionId_requestContext]
    exact hpresents b' hsettled
  · refine (CookieJar.exists_line_iff hdistinct hcookie.ne_empty).2 ⟨c, ?_, hsent⟩
    rw [hwrite, CookieJar.pending?_add, if_pos hname]

/-- If the session has changed, whatever else is read under its name is overwritten. -/
theorem Settled.follows_of_ne (h : b.Settled cookieName) (hcookie : IsCookieName cookieName)
    (hmoved : ctx.sessionId ≠ b.jar.presented cookieName) (now : Timestamp) :
    b.Follows cookieName now ctx := by
  have hwrite : (b.jar.writeContext cookieName now (b.jar.presented cookieName) ctx).1 =
      (ctx.responseCookies.foldl (CookieJar.write now) b.jar).write now
        (CookieJar.sessionCookie cookieName ctx.sessionId) := by
    rw [CookieJar.writeContext_eq_foldl, CookieJar.moves, if_neg hmoved, List.foldl_append,
      List.foldl_cons, List.foldl_nil]
  cases hid : ctx.sessionId with
  | some id =>
    rw [hid, CookieJar.write_sessionCookie hcookie] at hwrite
    refine h.follows_of_add hcookie hmoved rfl
      (SetCookie.isHeaderValue_text_forSession cookieName id) hwrite fun b' hb' => ?_
    rw [hid, hb'.presented_forSession hcookie]
  | none =>
    have hreceived : ((ctx.responseCookies.foldl (CookieJar.write now) b.jar).received?
        cookieName).isSome = true := by
      rw [CookieJar.received?_foldl]
      cases hvalue : b.jar.received? cookieName with
      | none => exact absurd (hid.trans (by rw [CookieJar.presented, hvalue]; rfl)) hmoved
      | some v => rfl
    have hremoval : (CookieJar.sessionCookie cookieName none).isRemoval = true := rfl
    rw [hid, CookieJar.write_of_isRemoval hremoval, CookieJar.remove] at hwrite
    replace hwrite := hwrite.trans (if_pos hreceived)
    refine h.follows_of_add hcookie hmoved rfl
      (SetCookie.isHeaderValue_text_removal now cookieName) hwrite fun b' hb' => ?_
    rw [hid]
    exact hb'.presented_removal hcookie now

/-- If it has not, nothing may be read under its name. -/
theorem Settled.follows_iff_of_eq (h : b.Settled cookieName) (hcookie : IsCookieName cookieName)
    (hqueue : ∀ c ∈ ctx.responseCookies, c.name ≠ cookieName)
    (hkept : ctx.sessionId = b.jar.presented cookieName) (now : Timestamp) :
    b.Follows cookieName now ctx ↔
      ∀ c, lastReading? ctx.responseCookies cookieName = some c → isHeaderValue c.text = false := by
  have hdistinct := b.distinct_writeContext cookieName now ctx
  have hpending : (b.jar.writeContext cookieName now (b.jar.presented cookieName) ctx).1.pending?
      cookieName = lastReading? ctx.responseCookies cookieName := by
    rw [CookieJar.writeContext_eq_foldl, CookieJar.moves, if_pos hkept, List.append_nil,
      CookieJar.pending?_foldl fun c hc _ => hqueue c hc]
    exact Option.or_none
  have htold := CookieJar.exists_line_iff hdistinct hcookie.ne_empty
  rw [hpending] at htold
  constructor
  · intro hfollows c hc
    refine Bool.eq_false_iff.2 fun hsent => ?_
    exact hfollows.tells.1 (htold.2 ⟨c, hc, hsent⟩) hkept
  · intro hunread
    have hnone : ¬ ∃ line ∈
        (b.jar.writeContext cookieName now (b.jar.presented cookieName) ctx).1.lines,
        SetCookie.readName? line = some cookieName := by
      rw [htold]
      rintro ⟨c, hc, hsent⟩
      rw [hunread c hc] at hsent
      cases hsent
    refine ⟨?_, iff_of_false hnone fun hmoved => hmoved hkept⟩
    have hothers : ∀ c ∈
        (b.jar.writeContext cookieName now (b.jar.presented cookieName) ctx).1.sent,
        c.name ≠ cookieName := by
      intro c hc hname
      refine hnone ⟨c.text, ?_, ?_⟩
      · rw [CookieJar.lines_eq]
        exact List.mem_map_of_mem hc
      · rw [SetCookie.readName?_text, hname, if_neg hcookie.ne_empty]
    obtain ⟨hsettled, hvalues⟩ := h.foldl_receive hothers
    rw [← CookieJar.lines_eq, ← written_eq_foldl] at hsettled hvalues
    rw [sessionId_requestContext, hsettled.presented_eq, hvalues, ← h.presented_eq, hkept]

/-! ### Browsers that hold a map -/

/-- A browser that holds some cookies by name, as the service sets them. -/
def ofPairs (held : List (String × String)) : Browser :=
  held.map fun p =>
    { name := SetCookie.encoded p.1, value := SetCookie.encoded p.2, path := some "/" }

theorem settled_ofPairs (held : List (String × String)) (name : String) :
    (ofPairs held).Settled name := by
  have hwrites : ∀ c ∈ ofPairs held, (∃ n v, c.Writes n v) ∧ c.path = some "/" := by
    intro c hc
    obtain ⟨p, -, rfl⟩ := List.mem_map.1 hc
    exact ⟨⟨p.1, p.2, rfl, rfl⟩, rfl⟩
  refine ⟨fun c hc p hp _ => ?_, fun c hc => ?_⟩
  · obtain ⟨⟨n, v, hnv⟩, hpath⟩ := hwrites c hc
    rw [hnv.brought] at hp
    split at hp
    · cases hp
    · obtain rfl := List.mem_singleton.1 hp
      exact ⟨hnv.1, by rw [hpath]; rfl⟩
  · obtain ⟨⟨n, v, hnv⟩, -⟩ := hwrites c hc
    exact hnv.isPlain_pair

/-- A browser with a map of cookies follows a context unless the session is the same and the last
queued cookie that is read under its name, though it has another one, can be sent. In any case no
name is set twice, and no cookie is left in the context. -/
theorem follows_iff (hcookie : IsCookieName cookieName) (held : List (String × String))
    (now : Timestamp) (id : Option SessionId) {queue : List ResponseCookie}
    (hqueue : ∀ c ∈ queue, c.name ≠ cookieName) :
    let b := ofPairs held
    let ctx := { b.jar.requestContext cookieName with sessionId := id, responseCookies := queue }
    let out := b.jar.writeContext cookieName now (b.jar.presented cookieName) ctx
    (b.Follows cookieName now ctx ↔ id ≠ b.jar.presented cookieName ∨
      ∀ c, lastReading? queue cookieName = some c → isHeaderValue c.text = false) ∧
    (out.1.lines.map SetCookie.readName?).Nodup ∧ out.2.responseCookies = [] := by
  intro b ctx out
  have hsettled := settled_ofPairs held cookieName
  refine ⟨?_, ?_, ?_⟩
  · by_cases hkept : id = b.jar.presented cookieName
    · rw [hsettled.follows_iff_of_eq hcookie hqueue hkept now]
      exact (or_iff_right fun hmoved => hmoved hkept).symm
    · exact iff_of_true (hsettled.follows_of_ne hcookie hkept now) (.inl hkept)
  · exact CookieJar.nodup_lines (b.distinct_writeContext cookieName now ctx)
  · show (CookieJar.writeContext _ _ _ _ _).2.responseCookies = []
    rw [CookieJar.writeContext, RequestContext.takeResponseCookies]
    dsimp only
    split <;> rfl

/-- Where all queued names can be written, a browser follows any context. -/
theorem follows_of_names (hcookie : IsCookieName cookieName) (h : b.Settled cookieName)
    (hqueue : ∀ c ∈ ctx.responseCookies, IsCookieName c.name ∧ c.name ≠ cookieName)
    (now : Timestamp) : b.Follows cookieName now ctx := by
  by_cases hkept : ctx.sessionId = b.jar.presented cookieName
  · refine (h.follows_iff_of_eq hcookie (fun c hc => (hqueue c hc).2) hkept now).2 fun c hc => ?_
    rw [CookieJar.lastReading?_of_names hqueue] at hc
    cases hc
  · exact h.follows_of_ne hcookie hkept now

/-- The session that a browser presents is the one that its map has under the name. -/
theorem presented_ofPairs (held : List (String × String)) (hname : name ≠ "") :
    (ofPairs held).jar.presented name = (held.reverse.lookup name).bind SessionId.parse? := by
  have hvalues : (ofPairs held).values name =
      held.filterMap fun p => if p.1 = name then some p.2 else none := by
    induction held with
    | nil => rfl
    | cons p held ih =>
      have hfirst : Browser.values (ofPairs (p :: held)) name = _ ++ (ofPairs held).values name :=
        values_cons _ _ name
      have hwrites : SetCookie.Writes
          { name := SetCookie.encoded p.1, value := SetCookie.encoded p.2, path := some "/" }
          p.1 p.2 := ⟨rfl, rfl⟩
      rw [hfirst, ih, hwrites.values hname, List.filterMap_cons]
      split <;> rfl
  rw [(settled_ofPairs held name).presented_eq, hvalues, lookup_reverse]

/-- A browser that holds a session and a theme. -/
def themed : List (String × String) := [("SESSION", (SessionId.mk 1).text), ("theme", "light")]

theorem follows_iff_themed :
    let b := ofPairs themed
    let ctx := { b.jar.requestContext "SESSION" with
      sessionId := some ⟨1⟩, responseCookies := [CookieJar.themeCookie] }
    let out := b.jar.writeContext "SESSION" ⟨0⟩ (b.jar.presented "SESSION") ctx
    b.Follows "SESSION" ⟨0⟩ ctx ∧ b.jar.presented "SESSION" = some ⟨1⟩ ∧
      (out.1.lines.map SetCookie.readName?).Nodup ∧ out.2.responseCookies = [] := by
  have hcookie : IsCookieName "SESSION" := .of_token (by decide) (by decide)
  have hnames : ∀ c ∈ [CookieJar.themeCookie], IsCookieName c.name ∧ c.name ≠ "SESSION" := by
    intro c hc
    obtain rfl := List.mem_singleton.1 hc
    exact ⟨.of_token (by decide) (by decide), by decide⟩
  have hiff := follows_iff hcookie themed ⟨0⟩ (some ⟨1⟩) fun c hc => (hnames c hc).2
  have hpresented : (ofPairs themed).jar.presented "SESSION" = some ⟨1⟩ := by
    rw [presented_ofPairs _ (by decide)]
    exact SessionId.parse?_text ⟨1⟩
  refine ⟨hiff.1.2 (.inr fun c hc => ?_), hpresented, hiff.2⟩
  rw [CookieJar.lastReading?_of_names hnames] at hc
  cases hc

/-- A cookie whose name is that of the session cookie but for a blank. -/
def impostor : ResponseCookie := { name := " SESSION", value := "x" }

/-- A browser that keeps its session loses it to such a cookie. -/
theorem impostor_misleads :
    impostor.name ≠ "SESSION" ∧ (ofPairs themed).jar.presented "SESSION" = some ⟨1⟩ ∧
    ((ofPairs themed).written "SESSION" ⟨0⟩
      { (ofPairs themed).jar.requestContext "SESSION" with
        sessionId := some ⟨1⟩, responseCookies := [impostor] }).jar.presented "SESSION" = none ∧
    ¬ (ofPairs themed).Follows "SESSION" ⟨0⟩
      { (ofPairs themed).jar.requestContext "SESSION" with
        sessionId := some ⟨1⟩, responseCookies := [impostor] } := by
  have hpresents : ((ofPairs themed).written "SESSION" ⟨0⟩
      { (ofPairs themed).jar.requestContext "SESSION" with
        sessionId := some ⟨1⟩, responseCookies := [impostor] }).jar.presented "SESSION" = none := by
    decide +kernel
  refine ⟨by decide, ?_, hpresents, fun hfollows => ?_⟩
  · rw [presented_ofPairs _ (by decide)]
    exact SessionId.parse?_text ⟨1⟩
  · have hnext := hfollows.presents
    rw [sessionId_requestContext, hpresents] at hnext
    cases hnext

end Browser

end Http

end WebLogin
