/-
What a response sets under a name.

A queued cookie is put together as a text and read back from it before it is set, so it may be set
under another name than its own. Whatever is queued, no name is set twice: under each name stands
the cookie that was written to it last.

* `SetCookie.read?_text` — what is read of a header that sets a cookie;
* `CookieJar.pending?_write`, `CookieJar.pending?_foldl` — the cookie that is set under a name;
* `CookieJar.nodup_writeContext` — no name is set twice.
-/
import Mathlib.Data.List.Nodup
import WebLogin.Proofs.Http.Jars

namespace WebLogin

namespace Http

/-! ### Headers that set a cookie -/

/-- A text that joins others with semicolons is cut where they are joined, and where they are cut
themselves. -/
theorem splitOn_intercalate (cs : List Char) (s : String) (ss : List String) :
    splitOn ';' (cs ++ ("; ".intercalate (s :: ss)).toList) =
      splitOn ';' (cs ++ s.toList) ++ ss.flatMap fun t => splitOn ';' (' ' :: t.toList) := by
  induction ss generalizing cs s with
  | nil => rw [String.intercalate_singleton, List.flatMap_nil, List.append_nil]
  | cons t ss ih =>
    have htext : cs ++ ("; ".intercalate (s :: t :: ss)).toList =
        (cs ++ s.toList) ++ ';' :: ([' '] ++ ("; ".intercalate (t :: ss)).toList) := by
      rw [String.intercalate_cons_cons, String.toList_append, String.toList_append]
      simp only [List.append_assoc]
      rfl
    rw [htext, splitOn_append, ih, List.flatMap_cons]
    rfl

/-- Texts without semicolons are not cut. -/
theorem flatMap_splitOn_blank {ss : List String} (h : ∀ s ∈ ss, ';' ∉ s.toList) :
    (ss.flatMap fun s => splitOn ';' (' ' :: s.toList)) = ss.map fun s => ' ' :: s.toList := by
  rw [← List.flatMap_singleton' (ss.map _), List.flatMap_map]
  refine List.flatMap_congr fun s hs => splitOn_of_notMem ?_
  rw [List.mem_cons, not_or]
  exact ⟨by decide, h s hs⟩

namespace SetCookie

/-- What is read of a header that sets a cookie: name and value, decoded, and the attributes. -/
def read? (line : String) : Option ((String × String) × List String) :=
  match splitOn ';' line.toList with
  | [] => none
  | pair :: attributes =>
    (cookie? pair).map fun p => (p, attributes.map fun cs => String.ofList (trimWhiteSpace cs))

/-- The name that a header sets. -/
def readName? (line : String) : Option String := (read? line).map fun r => r.1.1

/-- A pair that was encoded, unless it has no name. -/
theorem cookie?_encoded (name value : String) :
    cookie? (encoded name ++ "=" ++ encoded value).toList =
      if name = "" then none else some (name, value) := by
  split
  · rename_i hname
    subst hname
    have htext : (encoded "" ++ "=" ++ encoded value).toList = '=' :: (encoded value).toList := by
      rw [encoded_empty, String.toList_append]
      rfl
    rw [htext]
    rfl
  · rename_i hname
    have hpair := ((isCookieName_encoded hname).namedPair? (wire_encoded value)).2
    rw [cookie?, hpair]
    simp only [Option.bind_eq_bind, Option.bind_some, decode?_encoded]
    rfl

theorem notMem_pair (name value : String) :
    ';' ∉ (encoded name ++ "=" ++ encoded value).toList := by
  rw [String.toList_append, String.toList_append, List.mem_append, List.mem_append, not_or, not_or]
  exact ⟨⟨(wire_encoded name).notMem.1, by decide⟩, (wire_encoded value).notMem.1⟩

/-- The pair stands before the attributes. -/
theorem splitOn_text (c : SetCookie) :
    splitOn ';' c.text.toList = (encoded c.name ++ "=" ++ encoded c.value).toList ::
      c.attributes.flatMap fun a => splitOn ';' (' ' :: a.toList) := by
  have hsplit := splitOn_intercalate [] (encoded c.name ++ "=" ++ encoded c.value) c.attributes
  rw [List.nil_append, List.nil_append, splitOn_of_notMem (notMem_pair c.name c.value)] at hsplit
  exact hsplit

theorem readName?_text (c : SetCookie) :
    readName? c.text = if c.name = "" then none else some c.name := by
  rw [readName?, read?, splitOn_text]
  dsimp only
  rw [cookie?_encoded]
  split <;> rfl

/-- An attribute that is read as it is written. -/
def IsAttribute (a : String) : Prop := ';' ∉ a.toList ∧ HasBareEdges a.toList

/-- A header gives back what it was made of. -/
theorem read?_text {c : SetCookie} (hname : c.name ≠ "") (h : ∀ a ∈ c.attributes, IsAttribute a) :
    read? c.text = some ((c.name, c.value), c.attributes) := by
  have hattributes : (c.attributes.map fun a => ' ' :: a.toList).map
      (fun cs => String.ofList (trimWhiteSpace cs)) = c.attributes := by
    rw [List.map_map]
    refine (List.map_congr_left fun a ha => ?_).trans (List.map_id _)
    have htrim : trimWhiteSpace (' ' :: a.toList) = trimWhiteSpace a.toList := rfl
    rw [Function.comp, htrim, trimWhiteSpace_of_edges (h a ha).2, String.ofList_toList, id]
  rw [read?, splitOn_text, flatMap_splitOn_blank fun a ha => (h a ha).1]
  dsimp only
  rw [cookie?_encoded, if_neg hname, hattributes, Option.map_some]

end SetCookie

/-! ### What is pending under a name -/

/-- The cookie that is set for a queued one, as its text is read. -/
def reading (c : ResponseCookie) : Option SetCookie :=
  (SetCookie.parse? (CookieJar.rawText c)).map fun parsed => { parsed with sameSiteLax := true }

/-- The name that a queued cookie is written to: a removal to its own, another one to that under
which its text is read. -/
def writtenName? (c : ResponseCookie) : Option String :=
  if c.isRemoval then some c.name else (reading c).map SetCookie.name

namespace CookieJar

variable {now : Timestamp} {cookieName name : String} {jar : CookieJar} {c : ResponseCookie}
  {ctx : RequestContext} {presented : Option SessionId}

theorem write_eq (jar : CookieJar) (now : Timestamp) (c : ResponseCookie) :
    jar.write now c =
      if c.isRemoval then jar.remove now c.name else (reading c).elim jar jar.add := by
  rw [write, reading]
  split
  · rfl
  · cases SetCookie.parse? (rawText c) <;> rfl

theorem received_write (jar : CookieJar) (now : Timestamp) (c : ResponseCookie) :
    (jar.write now c).received = jar.received := by
  rw [write_eq]
  split
  · exact received_remove jar now c.name
  · cases reading c <;> rfl

theorem received?_foldl (jar : CookieJar) (now : Timestamp) (cookies : List ResponseCookie)
    (name : String) : (cookies.foldl (write now) jar).received? name = jar.received? name := by
  have hreceived : (cookies.foldl (write now) jar).received = jar.received := by
    induction cookies generalizing jar with
    | nil => rfl
    | cons c cookies ih => rw [List.foldl_cons, ih, received_write]
  rw [received?, hreceived, received?]

/-- The cookie that is to be set under a name. -/
def pending? (jar : CookieJar) (name : String) : Option SetCookie :=
  jar.pending.find? fun c => c.name == name

theorem pending?_discard (jar : CookieJar) (gone name : String) :
    (jar.discard gone).pending? name = if gone = name then none else jar.pending? name := by
  rw [pending?, discard]
  dsimp only
  rw [List.find?_filter]
  split
  · rename_i heq
    subst heq
    rw [List.find?_eq_none]
    intro c _
    by_cases hname : c.name = gone <;> simp [hname]
  · rename_i hne
    have hsame : (fun c : SetCookie => decide ((c.name != gone) = true ∧ (c.name == name) = true)) =
        fun c => c.name == name := by
      funext c
      by_cases hname : c.name = name
      · simp [hname, Ne.symm hne]
      · simp [hname]
    rw [hsame]
    rfl

theorem pending?_add (jar : CookieJar) (c : SetCookie) (name : String) :
    (jar.add c).pending? name = if c.name = name then some c else jar.pending? name := by
  have hdiscard := pending?_discard jar c.name name
  rw [pending?] at hdiscard
  rw [pending?, add]
  dsimp only
  rw [List.find?_append, hdiscard]
  split
  · rename_i heq
    simp [heq]
  · rename_i hne
    rw [List.find?_cons_of_neg (by simpa using hne)]
    exact Option.or_none

/-- What writing a queued cookie leaves under the name that it is written to. -/
def outcome (jar : CookieJar) (now : Timestamp) (c : ResponseCookie) : Option SetCookie :=
  if c.isRemoval then
    if (jar.received? c.name).isSome then some (.removal now c.name) else none
  else reading c

/-- A cookie is written to one name, and nothing else changes. -/
theorem pending?_write (jar : CookieJar) (now : Timestamp) (c : ResponseCookie) (name : String) :
    (jar.write now c).pending? name =
      if writtenName? c = some name then jar.outcome now c else jar.pending? name := by
  rw [write_eq, writtenName?, outcome]
  by_cases hremoval : c.isRemoval = true
  · rw [if_pos hremoval, if_pos hremoval, if_pos hremoval, remove]
    simp only [Option.some.injEq]
    by_cases hreceived : (jar.received? c.name).isSome = true
    · rw [if_pos hreceived, if_pos hreceived, pending?_add]
      rfl
    · rw [if_neg hreceived, if_neg hreceived, pending?_discard]
  · rw [if_neg hremoval, if_neg hremoval, if_neg hremoval]
    cases reading c with
    | none => rfl
    | some d =>
      rw [Option.elim_some, pending?_add, Option.map_some]
      simp only [Option.some.injEq]

theorem pending?_foldl_of_unwritten {cookies : List ResponseCookie}
    (h : ∀ c ∈ cookies, writtenName? c ≠ some name) :
    (cookies.foldl (write now) jar).pending? name = jar.pending? name := by
  induction cookies generalizing jar with
  | nil => rfl
  | cons c cookies ih =>
    rw [List.foldl_cons, ih fun c' hc' => h c' (List.mem_cons_of_mem c hc'), pending?_write,
      if_neg (h c List.mem_cons_self)]

/-- The cookie that is written to a name last is the one that is set, or removed. -/
theorem pending?_foldl_last (jar : CookieJar) (now : Timestamp) (before : List ResponseCookie)
    {after : List ResponseCookie} (hname : writtenName? c = some name)
    (hafter : ∀ c' ∈ after, writtenName? c' ≠ some name) :
    ((before ++ c :: after).foldl (write now) jar).pending? name = jar.outcome now c := by
  rw [List.foldl_append, List.foldl_cons, pending?_foldl_of_unwritten hafter, pending?_write,
    if_pos hname, outcome, received?_foldl, outcome]

/-- What becomes of one name depends on nothing that is pending under another. -/
theorem pending?_foldl_congr {jar jar' : CookieJar} (hreceived : jar.received = jar'.received)
    (hpending : jar.pending? name = jar'.pending? name) (now : Timestamp)
    (cookies : List ResponseCookie) :
    (cookies.foldl (write now) jar).pending? name =
      (cookies.foldl (write now) jar').pending? name := by
  induction cookies generalizing jar jar' with
  | nil => exact hpending
  | cons c cookies ih =>
    rw [List.foldl_cons, List.foldl_cons]
    refine ih ?_ ?_
    · rw [received_write, received_write, hreceived]
    · rw [pending?_write, pending?_write, hpending, outcome, outcome, received?, received?,
        hreceived]

/-- A cookie that is written to another name makes no difference to one. -/
theorem pending?_foldl_without (jar : CookieJar) (now : Timestamp)
    (before after : List ResponseCookie) (hname : writtenName? c ≠ some name) :
    ((before ++ c :: after).foldl (write now) jar).pending? name =
      ((before ++ after).foldl (write now) jar).pending? name := by
  rw [List.foldl_append, List.foldl_cons, List.foldl_append]
  refine pending?_foldl_congr (received_write _ now c) ?_ now after
  rw [pending?_write, if_neg hname]

/-- The cookie that tells a browser of another session than the one it has presented. -/
def moves (cookieName : String) (presented : Option SessionId) (ctx : RequestContext) :
    List ResponseCookie :=
  if ctx.sessionId = presented then [] else [sessionCookie cookieName ctx.sessionId]

/-- The session cookie is written after those that are queued. -/
theorem writeContext_eq_foldl (jar : CookieJar) (cookieName : String) (now : Timestamp)
    (presented : Option SessionId) (ctx : RequestContext) :
    (jar.writeContext cookieName now presented ctx).1 =
      (ctx.responseCookies ++ moves cookieName presented ctx).foldl (write now) jar := by
  rw [writeContext, RequestContext.takeResponseCookies, moves, List.foldl_append]
  dsimp only
  split <;> rfl

/-! ### Names are set once -/

/-- The pending cookies have different names. -/
def Distinct (jar : CookieJar) : Prop := (jar.pending.map SetCookie.name).Nodup

theorem Distinct.discard (h : jar.Distinct) (name : String) : (jar.discard name).Distinct :=
  h.sublist (List.filter_sublist.map SetCookie.name)

theorem Distinct.add (h : jar.Distinct) (c : SetCookie) : (jar.add c).Distinct := by
  rw [Distinct, CookieJar.add, List.map_append, List.map_singleton, List.nodup_append]
  refine ⟨h.discard c.name, List.nodup_singleton c.name, ?_⟩
  rintro n hn n' hn' rfl
  obtain ⟨c', hc', hname⟩ := List.mem_map.1 hn
  obtain rfl := List.mem_singleton.1 hn'
  exact absurd (List.mem_filter.1 hc').2 (by simp [hname])

theorem Distinct.write (h : jar.Distinct) (now : Timestamp) (c : ResponseCookie) :
    (jar.write now c).Distinct := by
  rw [write_eq, remove]
  split
  · split
    · exact h.add _
    · exact h.discard c.name
  · cases reading c with
    | none => exact h
    | some d => exact h.add d

theorem Distinct.foldl (h : jar.Distinct) (now : Timestamp) (cookies : List ResponseCookie) :
    (cookies.foldl (CookieJar.write now) jar).Distinct := by
  induction cookies generalizing jar with
  | nil => exact h
  | cons c cookies ih => exact ih (h.write now c)

theorem Distinct.writeContext (h : jar.Distinct) (cookieName : String) (now : Timestamp)
    (presented : Option SessionId) (ctx : RequestContext) :
    (jar.writeContext cookieName now presented ctx).1.Distinct := by
  rw [writeContext_eq_foldl]
  exact h.foldl now _

theorem distinct_ofHeaders (headers : List Header) : (ofHeaders headers).Distinct :=
  List.nodup_nil

theorem filter_pending (h : jar.Distinct) (name : String) :
    jar.pending.filter (fun c => c.name == name) = (jar.pending? name).toList := by
  rw [Distinct] at h
  rw [pending?]
  generalize jar.pending = cs at h
  induction cs with
  | nil => rfl
  | cons c cs ih =>
    rw [List.map_cons, List.nodup_cons] at h
    by_cases hname : c.name = name
    · have hothers : cs.filter (fun c' => c'.name == name) = [] := by
        rw [List.filter_eq_nil_iff]
        intro c' hc' hsame
        refine h.1 (List.mem_map.2 ⟨c', hc', ?_⟩)
        rw [hname]
        exact eq_of_beq hsame
      rw [List.filter_cons_of_pos (by simpa using hname),
        List.find?_cons_of_pos (by simpa using hname), hothers]
      rfl
    · rw [List.filter_cons_of_neg (by simpa using hname),
        List.find?_cons_of_neg (by simpa using hname), ih h.2]

/-- The values of the headers that set the cookies of a jar. -/
def lines (jar : CookieJar) : List String := headerValues "set-cookie" jar.headers

/-- The cookies that are set, in order. -/
def sent (jar : CookieJar) : List SetCookie := jar.pending.filter fun c => isHeaderValue c.text

theorem lines_eq (jar : CookieJar) : jar.lines = jar.sent.map SetCookie.text := by
  rw [lines, Browser.headerValues_headers, List.filter_map, sent, Function.comp_def]

/-- Under a name stands the cookie that is pending there, if it can be sent. -/
theorem filter_lines (h : jar.Distinct) (hname : name ≠ "") :
    jar.lines.filter (fun line => SetCookie.readName? line == some name) =
      ((jar.pending? name).toList.map SetCookie.text).filter isHeaderValue := by
  have hread : (fun line => SetCookie.readName? line == some name) ∘ SetCookie.text =
      fun c => c.name == name := by
    funext c
    rw [Function.comp, SetCookie.readName?_text]
    split
    · rename_i hempty
      rw [hempty]
      exact (beq_false_of_ne (Ne.symm hname)).symm
    · rfl
  rw [lines_eq, List.filter_map, hread, sent, List.filter_comm, filter_pending h, List.filter_map,
    Function.comp_def]

/-- A name is set if the cookie that is pending under it can be sent. -/
theorem exists_line_iff (h : jar.Distinct) (hname : name ≠ "") :
    (∃ line ∈ jar.lines, SetCookie.readName? line = some name) ↔
      ∃ c, jar.pending? name = some c ∧ isHeaderValue c.text = true := by
  have hfilter := filter_lines h hname
  constructor
  · rintro ⟨line, hline, hread⟩
    have hmem : line ∈ jar.lines.filter fun line => SetCookie.readName? line == some name :=
      List.mem_filter.2 ⟨hline, beq_iff_eq.2 hread⟩
    rw [hfilter, List.mem_filter, List.mem_map] at hmem
    obtain ⟨⟨c, hc, rfl⟩, hsent⟩ := hmem
    exact ⟨c, Option.mem_toList.1 hc, hsent⟩
  · rintro ⟨c, hc, hsent⟩
    have hmem : c.text ∈ ((jar.pending? name).toList.map SetCookie.text).filter isHeaderValue := by
      rw [hc]
      exact List.mem_filter.2 ⟨List.mem_map_of_mem List.mem_cons_self, hsent⟩
    rw [← hfilter, List.mem_filter] at hmem
    exact ⟨c.text, hmem.1, eq_of_beq hmem.2⟩

/-- What the headers say of a name: its value and the attributes. -/
def told (jar : CookieJar) (name : String) : List ((String × String) × List String) :=
  (jar.lines.filterMap SetCookie.read?).filter fun r => r.1.1 == name

theorem told_eq (jar : CookieJar) (name : String) : jar.told name =
    (jar.lines.filter fun line => SetCookie.readName? line == some name).filterMap
      SetCookie.read? := by
  rw [told]
  induction jar.lines with
  | nil => rfl
  | cons line lines ih =>
    have hname : (SetCookie.readName? line == some name) =
        (SetCookie.read? line).any fun r => r.1.1 == name := by
      rw [SetCookie.readName?]
      cases SetCookie.read? line <;> rfl
    rw [List.filter_cons, hname]
    cases hread : SetCookie.read? line with
    | none =>
      rw [List.filterMap_cons_none hread, ih, Option.any_none, if_neg (by decide)]
    | some r =>
      rw [List.filterMap_cons_some hread, List.filter_cons, ih, Option.any_some]
      split
      · rw [List.filterMap_cons_some hread]
      · rfl

/-- No header sets the empty name. -/
theorem told_empty (jar : CookieJar) : jar.told "" = [] := by
  have hnone : jar.lines.filter (fun line => SetCookie.readName? line == some "") = [] := by
    rw [List.filter_eq_nil_iff, lines_eq]
    intro line hline
    obtain ⟨c, -, rfl⟩ := List.mem_map.1 hline
    rw [SetCookie.readName?_text]
    split
    · decide
    · rename_i hname
      simpa using hname
  rw [told_eq, hnone, List.filterMap_nil]

theorem told_congr {jar jar' : CookieJar} (h : jar.Distinct) (h' : jar'.Distinct)
    (hpending : jar.pending? name = jar'.pending? name) : jar.told name = jar'.told name := by
  by_cases hname : name = ""
  · rw [hname, told_empty, told_empty]
  · rw [told_eq, told_eq, filter_lines h hname, filter_lines h' hname, hpending]

/-- Of a name the headers speak once, if at all. -/
theorem length_told_le (h : jar.Distinct) (name : String) : (jar.told name).length ≤ 1 := by
  by_cases hname : name = ""
  · rw [hname, told_empty]
    exact Nat.zero_le 1
  · rw [told_eq, filter_lines h hname]
    refine Nat.le_trans (List.length_filterMap_le _ _) (Nat.le_trans (List.length_filter_le _ _) ?_)
    rw [List.length_map]
    cases jar.pending? name with
    | none => exact Nat.zero_le 1
    | some c => exact Nat.le_refl 1

/-- No header sets a name that another one sets. -/
theorem nodup_lines (h : jar.Distinct) : (jar.lines.map SetCookie.readName?).Nodup := by
  have hinjective : Function.Injective
      fun name : String => if name = "" then none else some name := by
    intro n n' heq
    dsimp only at heq
    split at heq <;> split at heq <;> simp_all
  have hread : SetCookie.readName? ∘ SetCookie.text =
      (fun name : String => if name = "" then none else some name) ∘ SetCookie.name := by
    funext c
    rw [Function.comp, SetCookie.readName?_text, Function.comp]
  have hsent : (jar.sent.map SetCookie.name).Nodup :=
    h.sublist (List.filter_sublist.map SetCookie.name)
  rw [lines_eq, List.map_map, hread, ← List.map_map]
  exact hsent.map hinjective

end CookieJar

end Http

end WebLogin
