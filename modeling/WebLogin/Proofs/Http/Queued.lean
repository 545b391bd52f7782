/-
How a queued cookie is set.

A cookie whose name and value can be written is set as it was queued, with the attributes that it
was queued with, and the removal of a cookie tells the browser to forget it if the browser brought
it. A cookie that has no name is lost, and the response is the one without it.

* `IsWritable.reading` — what a cookie that can be written is read as;
* `reading_of_isNameless` — a cookie that is lost;
* `CookieJar.writeContext_tells` — what a response says of a queued cookie.
-/
import Mathlib.Data.List.TakeWhile
import WebLogin.Proofs.Http.SetCookies

namespace WebLogin

namespace Http

/-! ### What a queued cookie is read as -/

/-- The attributes of a queued cookie as they are put after its name and its value. -/
def rawAttributes (c : ResponseCookie) : List String :=
  "Path=/" :: (if c.httpOnly then ["HttpOnly"] else []) ++
    (c.maxAge.map fun m => "Max-Age=" ++ toString m).toList

theorem rawText_eq (c : ResponseCookie) :
    CookieJar.rawText c = "; ".intercalate ((c.name ++ "=" ++ c.value) :: rawAttributes c) := by
  rw [CookieJar.rawText, rawAttributes]
  cases c.httpOnly <;> cases c.maxAge <;>
    simp only [Bool.false_eq_true, if_true, if_false, Option.map_none, Option.map_some,
      Option.toList_none, Option.toList_some, List.append_nil, List.cons_append, List.nil_append,
      String.intercalate_cons_cons, String.intercalate_singleton, String.append_assoc] <;>
    rfl

/-- A cookie whose name and value are read as they are written. -/
structure IsWritable (c : ResponseCookie) : Prop where
  name : IsCookieName c.name
  edges : HasBareEdges c.value.toList
  semicolon : ';' ∉ c.value.toList

/-- The cookie that is set for such a cookie. -/
def ofQueued (c : ResponseCookie) : SetCookie where
  name := c.name
  value := c.value
  httpOnly := c.httpOnly
  sameSiteLax := true
  path := some "/"
  maxAge := c.maxAge.map fun m => min SetCookie.longestAge m.toNat

theorem notMem_rawAttributes (c : ResponseCookie) : ∀ s ∈ rawAttributes c, ';' ∉ s.toList := by
  intro s hs
  rw [rawAttributes, List.mem_append, List.mem_cons] at hs
  rcases hs with (rfl | hs) | hs
  · decide
  · split at hs
    · rw [List.mem_singleton.1 hs]
      decide
    · cases hs
  · obtain ⟨m, -, rfl⟩ := Option.map_eq_some_iff.1 (Option.mem_toList.1 hs)
    rw [String.toList_append, List.mem_append, not_or]
    exact ⟨by decide, (wire_int m).notMem.1⟩

theorem foldl_rawAttributes (c : ResponseCookie) (d : SetCookie) :
    ((rawAttributes c).map fun s => ' ' :: s.toList).foldl SetCookie.withAttribute d =
      { d with
        path := some "/"
        httpOnly := c.httpOnly || d.httpOnly
        maxAge := (c.maxAge.map fun m => min SetCookie.longestAge m.toNat) <|> d.maxAge } := by
  have hpath (d : SetCookie) : d.withAttribute (' ' :: "Path=/".toList) = _ :=
    SetCookie.withAttribute_path d
  have hhidden (d : SetCookie) : d.withAttribute (' ' :: "HttpOnly".toList) = _ :=
    SetCookie.withAttribute_httpOnly d
  rw [rawAttributes, List.map_append, List.foldl_append, List.map_cons, List.foldl_cons, hpath]
  cases c.httpOnly <;> cases c.maxAge <;>
    simp only [Bool.false_eq_true, if_true, if_false, Option.map_none, Option.map_some,
      Option.toList_none, Option.toList_some, List.map_cons, List.map_nil, List.foldl_cons,
      List.foldl_nil, hhidden, SetCookie.withAttribute_maxAge] <;>
    rfl

theorem IsWritable.reading {c : ResponseCookie} (h : IsWritable c) :
    reading c = some (ofQueued c) := by
  have htext : (c.name ++ "=" ++ c.value).toList = c.name.toList ++ '=' :: c.value.toList := by
    rw [String.toList_append, String.toList_append, List.append_assoc]
    rfl
  have hone : ';' ∉ (c.name ++ "=" ++ c.value).toList := by
    rw [htext, List.mem_append, List.mem_cons, not_or, not_or]
    exact ⟨h.name.semicolon, by decide, h.semicolon⟩
  have hpair : namedPair? (c.name ++ "=" ++ c.value).toList = some (c.name, c.value) := by
    rw [htext]
    exact namedPair?_append h.name.edges h.edges h.name.equals h.name.ne_empty
  have hsplit := splitOn_intercalate [] (c.name ++ "=" ++ c.value) (rawAttributes c)
  rw [List.nil_append, List.nil_append, splitOn_of_notMem hone,
    flatMap_splitOn_blank (notMem_rawAttributes c), List.singleton_append] at hsplit
  rw [Http.reading, SetCookie.parse?, rawText_eq, hsplit]
  dsimp only
  rw [hpair, Option.map_some, Option.map_some, foldl_rawAttributes, Bool.or_false]
  dsimp only
  rw [ofQueued]
  cases c.maxAge <;> rfl

/-- A name that is not read as one: a semicolon comes before any equals sign, or only blanks
stand before the one that follows. -/
def IsNameless (name : String) : Prop :=
  ∃ front sign rest, name.toList ++ ['='] = front ++ sign :: rest ∧ '=' ∉ front ∧ ';' ∉ front ∧
    (sign = ';' ∨ sign = '=' ∧ ∀ c ∈ front, isWhiteSpace c = true)

theorem namedPair?_of_notMem {cs : List Char} (h : '=' ∉ cs) : namedPair? cs = none := by
  rw [namedPair?, assignment?, cut?_of_notMem h]
  rfl

theorem namedPair?_of_blank {cs rest : List Char} (h : ∀ c ∈ cs, isWhiteSpace c = true)
    (hequals : '=' ∉ cs) : namedPair? (cs ++ '=' :: rest) = none := by
  have htrim : trimWhiteSpace cs = [] := by
    rw [trimWhiteSpace, List.dropWhile_eq_nil_iff.2 h]
    rfl
  rw [namedPair?, assignment?, cut?_append_cons hequals, Option.map_some]
  dsimp only
  rw [htrim]
  rfl

theorem exists_rawText (c : ResponseCookie) :
    ∃ more, (CookieJar.rawText c).toList = c.name.toList ++ ['='] ++ more := by
  rw [CookieJar.rawText]
  simp only [String.toList_append, List.append_assoc]
  exact ⟨_, rfl⟩

/-- A cookie whose name is not read as one is lost. -/
theorem reading_of_isNameless {c : ResponseCookie} (h : IsNameless c.name) : reading c = none := by
  obtain ⟨front, sign, rest, hname, hequals, hsemicolon, hsign⟩ := h
  obtain ⟨tail, htail⟩ : ∃ tail, (CookieJar.rawText c).toList = front ++ sign :: tail := by
    obtain ⟨more, hmore⟩ := exists_rawText c
    rw [hmore, hname, List.append_assoc]
    exact ⟨rest ++ more, rfl⟩
  have hnone : SetCookie.parse? (CookieJar.rawText c) = none := by
    rw [SetCookie.parse?, htail]
    rcases hsign with rfl | ⟨rfl, hblank⟩
    · rw [splitOn_append_cons hsemicolon]
      dsimp only
      rw [namedPair?_of_notMem hequals, Option.map_none]
    · -- The name is cut off at its equals sign before anything that a semicolon ends.
      have hsemicolon' : ';' ∉ front ++ ['='] := by
        rw [List.mem_append, not_or]
        exact ⟨hsemicolon, by decide⟩
      obtain ⟨field, fields, hfields⟩ := splitOn_append_of_notMem hsemicolon' tail
      rw [List.append_assoc, List.append_assoc] at hfields
      rw [show front ++ '=' :: tail = front ++ (['='] ++ tail) from rfl, hfields]
      dsimp only
      rw [show front ++ (['='] ++ field) = front ++ '=' :: field from rfl,
        namedPair?_of_blank hblank hequals, Option.map_none]
  rw [reading, hnone, Option.map_none]

/-! ### What a response says of a queued cookie -/

/-- The attributes that a cookie is set with. -/
theorem attributes_ofQueued (c : ResponseCookie) : (ofQueued c).attributes =
    (if c.httpOnly then ["HttpOnly"] else []) ++ ["SameSite=Lax", "Path=/"] ++
      (c.maxAge.map fun m => "Max-Age=" ++ toString (min SetCookie.longestAge m.toNat)).toList := by
  rw [SetCookie.attributes, ofQueued]
  cases c.httpOnly <;> cases c.maxAge <;> rfl

/-- A text of visible characters other than semicolons. -/
def IsVisible (s : String) : Prop := ∀ c ∈ s.toList, ' ' < c ∧ c < '\x7f' ∧ c ≠ ';'

instance : DecidablePred IsVisible := fun s => List.decidableBAll _ s.toList

theorem IsVisible.append {s t : String} (hs : IsVisible s) (ht : IsVisible t) :
    IsVisible (s ++ t) := by
  intro c hc
  rw [String.toList_append, List.mem_append] at hc
  exact hc.elim (hs c) (ht c)

/-- Such a text can be sent, and is read as it is written. -/
theorem IsVisible.isAttribute {s : String} (h : IsVisible s) :
    isHeaderValue s = true ∧ SetCookie.IsAttribute s := by
  have htext : IsAttributeText s := fun c hc =>
    ⟨⟨Nat.le_of_lt (show 0x20 < c.toNat from (h c hc).1), (h c hc).2.1⟩, (h c hc).2.2⟩
  refine ⟨htext.isHeaderValue, fun hc => (h _ hc).2.2 rfl, hasBareEdges_of_all fun c hc => ?_⟩
  exact not_isWhiteSpace_of_visible (h c hc).1 (h c hc).2.1

theorem isVisible_ofQueued {c : ResponseCookie} {a : String} (h : a ∈ (ofQueued c).attributes) :
    IsVisible a := by
  rw [attributes_ofQueued, List.mem_append, List.mem_append] at h
  rcases h with (h | h) | h
  · split at h
    · rw [List.mem_singleton.1 h]
      decide
    · cases h
  · rw [List.mem_cons, List.mem_singleton] at h
    rcases h with rfl | rfl <;> decide
  · obtain ⟨m, -, rfl⟩ := Option.map_eq_some_iff.1 (Option.mem_toList.1 h)
    have hdigits : IsVisible (toString (min SetCookie.longestAge m.toNat)) := by
      intro d hd
      have hwire := wire_nat _ d hd
      exact ⟨hwire.1, hwire.2.1, hwire.2.2.1⟩
    exact IsVisible.append (by decide) hdigits

namespace SetCookie

theorem isHeaderValue_text {c : SetCookie} (h : ∀ a ∈ c.attributes, isHeaderValue a = true) :
    isHeaderValue c.text = true := by
  have hpair : isHeaderValue (encoded c.name ++ "=" ++ encoded c.value) = true :=
    isHeaderValue_append (isHeaderValue_append (wire_encoded c.name).isAttributeText.isHeaderValue
      (by decide)) (wire_encoded c.value).isAttributeText.isHeaderValue
  show isHeaderValue ("; ".intercalate ((encoded c.name ++ "=" ++ encoded c.value) :: _)) = true
  generalize encoded c.name ++ "=" ++ encoded c.value = s at hpair
  generalize c.attributes = as at h
  induction as generalizing s with
  | nil => rwa [String.intercalate_singleton]
  | cons a as ih =>
    rw [String.intercalate_cons_cons]
    exact isHeaderValue_append (isHeaderValue_append hpair (by decide))
      (ih a (h a List.mem_cons_self) fun a' ha' => h a' (List.mem_cons_of_mem a ha'))

theorem isAttribute_removal {now : Timestamp} {name a : String}
    (h : a ∈ (removal now name).attributes) : IsAttribute a := by
  have hattributes : (removal now name).attributes =
      ["Path=/", "Max-Age=0", "Expires=" ++ pastDate now] := rfl
  rw [hattributes, List.mem_cons, List.mem_cons, List.mem_singleton] at h
  rcases h with rfl | rfl | rfl
  · exact (IsVisible.isAttribute (by decide)).2
  · exact (IsVisible.isAttribute (by decide)).2
  · refine ⟨?_, ?_, ?_⟩
    · rw [String.toList_append, List.mem_append, not_or]
      exact ⟨by decide, fun hc => (HttpDate.isAttributeText_text _ _ hc).2 rfl⟩
    · rw [String.toList_append]
      exact fun c hc => Option.some.inj hc ▸ by decide
    · -- The date ends with the name of its zone.
      have hzone (s : String) : ("Expires=" ++ (s ++ " GMT")).toList =
          ("Expires=".toList ++ s.toList ++ " GM".toList) ++ ['T'] := by
        simp only [String.toList_append, List.append_assoc]
        rfl
      rw [pastDate, HttpDate.text, hzone, List.getLast?_concat]
      exact fun c hc => Option.some.inj hc ▸ by decide

end SetCookie

/-- No cookie of a request has an empty name. -/
theorem name_ne_empty_of_cookie? {cs : List Char} {p : String × String} (h : cookie? cs = some p) :
    p.1 ≠ "" := by
  rw [cookie?] at h
  simp only [Option.bind_eq_bind, Option.bind_eq_some_iff] at h
  obtain ⟨pair, hpair, name, hname, value, -, hp⟩ := h
  intro hempty
  obtain rfl := Option.some.inj hp
  dsimp only at hempty
  subst hempty
  rw [namedPair?, Option.filter_eq_some_iff, Percent.eq_empty_of_decode? hname] at hpair
  exact absurd hpair.2 (by decide)

namespace CookieJar

variable {now : Timestamp} {cookieName name : String} {jar : CookieJar} {c : ResponseCookie}

theorem received?_ofHeaders_empty (headers : List Header) :
    (ofHeaders headers).received? "" = none := by
  rw [received?, List.lookup_eq_none_iff]
  intro p hp
  rw [ofHeaders, List.mem_reverse, List.mem_flatMap] at hp
  obtain ⟨value, -, hp⟩ := hp
  rw [cookiesOf] at hp
  split at hp
  · obtain ⟨cs, -, hcs⟩ := List.mem_filterMap.1 hp
    exact bne_iff_ne.2 (Ne.symm (name_ne_empty_of_cookie? hcs))
  · cases hp

/-- What a response says of a queued cookie: a name, a value and attributes. -/
def announced? (jar : CookieJar) (now : Timestamp) (c : ResponseCookie) :
    Option ((String × String) × List String) :=
  if c.isRemoval then
    if (jar.received? c.name).isSome then
      some ((c.name, ""), ["Path=/", "Max-Age=0", "Expires=" ++ SetCookie.pastDate now])
    else none
  else
    some ((c.name, c.value), (if c.httpOnly then ["HttpOnly"] else []) ++
      ["SameSite=Lax", "Path=/"] ++
      (c.maxAge.map fun m => "Max-Age=" ++ toString (min SetCookie.longestAge m.toNat)).toList)

/-- A cookie that can be sent is all that a response says of its name. -/
theorem told_of_pending {d : SetCookie} (h : jar.Distinct) (hpending : jar.pending? d.name = some d)
    (hname : d.name ≠ "") (hattributes : ∀ a ∈ d.attributes, SetCookie.IsAttribute a)
    (hsent : isHeaderValue d.text = true) :
    jar.told d.name = [((d.name, d.value), d.attributes)] := by
  rw [told_eq, filter_lines h hname, hpending, Option.toList_some, List.map_singleton,
    List.filter_cons_of_pos hsent, List.filter_nil,
    List.filterMap_cons_some (SetCookie.read?_text hname hattributes), List.filterMap_nil]

theorem told_of_not_pending (h : jar.Distinct) (hpending : jar.pending? name = none) :
    jar.told name = [] := by
  by_cases hname : name = ""
  · rw [hname, told_empty]
  · rw [told_eq, filter_lines h hname, hpending]
    rfl

/-- A queued cookie is set under one name at most. One that can be written, or removes another, is
set as it was queued, unless a cookie that is written later takes its name. One without a name is
lost. -/
theorem writeContext_tells (headers : List Header) (cookieName : String) (now : Timestamp)
    (presented : Option SessionId) {ctx : RequestContext} {before after : List ResponseCookie}
    {c : ResponseCookie} (hqueue : ctx.responseCookies = before ++ c :: after) :
    let jar := ofHeaders headers
    let out := (jar.writeContext cookieName now presented ctx).1
    let rest := (jar.writeContext cookieName now presented
      { ctx with responseCookies := before ++ after }).1
    (∀ name, (out.told name).length ≤ 1 ∧
      (writtenName? c ≠ some name → out.told name = rest.told name)) ∧
    (c.isRemoval = true ∨ IsWritable c →
      (∀ c' ∈ after ++ moves cookieName presented ctx, writtenName? c' ≠ some c.name) →
      out.told c.name = (jar.announced? now c).toList) ∧
    (c.isRemoval = false → IsNameless c.name → out = rest) := by
  intro jar out rest
  have hout : out =
      (before ++ c :: (after ++ moves cookieName presented ctx)).foldl (write now) jar := by
    show (jar.writeContext cookieName now presented ctx).1 = _
    rw [writeContext_eq_foldl, hqueue, List.append_assoc, List.cons_append]
  have hrest : rest =
      (before ++ (after ++ moves cookieName presented ctx)).foldl (write now) jar := by
    show (jar.writeContext cookieName now presented _).1 = _
    rw [writeContext_eq_foldl, List.append_assoc]
    rfl
  have hdistinct (cookies : List ResponseCookie) : (cookies.foldl (write now) jar).Distinct :=
    (distinct_ofHeaders headers).foldl now cookies
  rw [hout, hrest]
  refine ⟨fun name => ⟨length_told_le (hdistinct _) name, fun hname => ?_⟩,
    fun hc hlater => ?_, fun hremoval hnameless => ?_⟩
  · exact told_congr (hdistinct _) (hdistinct _) (pending?_foldl_without jar now before _ hname)
  · have hlast (hname : writtenName? c = some c.name) :=
      pending?_foldl_last jar now before hname hlater
    rw [announced?]
    by_cases hremoval : c.isRemoval = true
    · have hpending := hlast (by rw [writtenName?, if_pos hremoval])
      rw [outcome, if_pos hremoval] at hpending
      rw [if_pos hremoval]
      split at hpending
      · rename_i hreceived
        have hname : c.name ≠ "" := by
          intro hempty
          rw [hempty, received?_ofHeaders_empty] at hreceived
          cases hreceived
        rw [if_pos hreceived]
        exact told_of_pending (hdistinct _) hpending hname
          (fun a ha => SetCookie.isAttribute_removal ha)
          (SetCookie.isHeaderValue_text_removal now c.name)
      · rename_i hreceived
        rw [if_neg hreceived, told_of_not_pending (hdistinct _) hpending]
        rfl
    · have hwritable := hc.resolve_left hremoval
      have hpending := hlast (by rw [writtenName?, if_neg hremoval, hwritable.reading]; rfl)
      rw [outcome, if_neg hremoval, hwritable.reading] at hpending
      rw [if_neg hremoval, ← attributes_ofQueued]
      exact told_of_pending (hdistinct _) hpending hwritable.name.ne_empty
        (fun a ha => (isVisible_ofQueued ha).isAttribute.2)
        (SetCookie.isHeaderValue_text fun a ha => (isVisible_ofQueued ha).isAttribute.1)
  · have hlost (jar : CookieJar) : jar.write now c = jar := by
      rw [write_eq, if_neg (by simp [hremoval]), reading_of_isNameless hnameless]
      rfl
    rw [List.foldl_append, List.foldl_cons, hlost, ← List.foldl_append]

/-- A cookie that scripts may read, for ten minutes. -/
def themeCookie : ResponseCookie :=
  { name := "theme", value := "dark", maxAge := some 600, httpOnly := false }

/-- A cookie without a name. -/
def namelessCookie : ResponseCookie := { name := " =sidebar", value := "open" }

/-- The headers of a request that brings a cookie which is removed. -/
def remembering : List Header := [("cookie", "remember-me=x")]

/-- A context with such cookies, and the removal of the one that the request brought. -/
def mixed : RequestContext :=
  { responseCookies := [themeCookie, namelessCookie, .removal "remember-me"] }

theorem writeContext_tells_mixed :
    ((ofHeaders remembering).writeContext "SESSION" ⟨0⟩ none mixed).1.told "theme" =
      [(("theme", "dark"), ["SameSite=Lax", "Path=/", "Max-Age=600"])] ∧
    ((ofHeaders remembering).writeContext "SESSION" ⟨0⟩ none mixed).1.told "remember-me" =
      [(("remember-me", ""), ["Path=/", "Max-Age=0", "Expires=" ++ SetCookie.pastDate ⟨0⟩])] ∧
    ((ofHeaders remembering).writeContext "SESSION" ⟨0⟩ none mixed).1 =
      ((ofHeaders remembering).writeContext "SESSION" ⟨0⟩ none
        { mixed with responseCookies := [themeCookie, .removal "remember-me"] }).1 := by
  have hvalue : IsCookieName "dark" := .of_token (by decide) (by decide)
  have htheme : IsWritable themeCookie :=
    ⟨.of_token (by decide) (by decide), hvalue.edges, hvalue.semicolon⟩
  have hnameless : IsNameless namelessCookie.name :=
    ⟨[' '], '=', "sidebar=".toList, rfl, by decide, by decide,
      .inr ⟨rfl, List.forall_mem_singleton.2 rfl⟩⟩
  have hlost : writtenName? namelessCookie = none := by
    rw [writtenName?, if_neg (by decide), reading_of_isNameless hnameless]
    rfl
  have hreceived : ((ofHeaders remembering).received? "remember-me").isSome = true := by
    decide +kernel
  have hfirst : mixed.responseCookies =
      [] ++ themeCookie :: [namelessCookie, .removal "remember-me"] := rfl
  have hsecond : mixed.responseCookies =
      [themeCookie] ++ namelessCookie :: [.removal "remember-me"] := rfl
  have hlast : mixed.responseCookies =
      [themeCookie, namelessCookie] ++ .removal "remember-me" :: [] := rfl
  refine ⟨?_, ?_, (writeContext_tells remembering "SESSION" ⟨0⟩ none hsecond).2.2 rfl hnameless⟩
  · refine (writeContext_tells remembering "SESSION" ⟨0⟩ none hfirst).2.1 (.inr htheme) ?_
    intro c hc
    rcases List.mem_cons.1 hc with rfl | hc
    · rw [hlost]
      decide
    · obtain rfl := List.mem_singleton.1 hc
      decide
  · refine ((writeContext_tells remembering "SESSION" ⟨0⟩ none hlast).2.1 (.inl rfl) ?_).trans ?_
    · intro c hc
      cases hc
    · have hremoval : (ResponseCookie.removal "remember-me").isRemoval = true := rfl
      rw [announced?, if_pos hremoval]
      exact congrArg Option.toList (if_pos hreceived)

/-- A removal is told without the marks that its cookie is queued with. -/
theorem removal_unmarked : (ResponseCookie.removal "remember-me").httpOnly = true ∧
    ∃ attributes, ((ofHeaders remembering).writeContext "SESSION" ⟨0⟩ none
      { responseCookies := [.removal "remember-me"] }).1.told "remember-me" =
        [(("remember-me", ""), attributes)] ∧
      "HttpOnly" ∉ attributes ∧ "SameSite=Lax" ∉ attributes := by
  have hpending : ((ofHeaders remembering).writeContext "SESSION" ⟨0⟩ none
      { responseCookies := [.removal "remember-me"] }).1.pending? "remember-me" =
        some (.removal ⟨0⟩ "remember-me") := by
    decide +kernel
  have htold := told_of_pending ((distinct_ofHeaders remembering).writeContext "SESSION" ⟨0⟩ none _)
    hpending (by decide) (fun a ha => SetCookie.isAttribute_removal ha)
    (SetCookie.isHeaderValue_text_removal ⟨0⟩ "remember-me")
  refine ⟨rfl, _, htold, ?_, ?_⟩
  · decide +kernel
  · decide +kernel

end CookieJar

end Http

end WebLogin
