/-
Session cookies on their way to a browser and back.

A name that can be written in a cookie survives: the cookie that a response sets is read by the
browser as the encoded name and the text of the session id, and a request that brings these back
names the same session.

* `IsCookieName.namedPair?` — a name and a value are read as they are written;
* `SetCookie.withAttribute_maxAge` — an age is read as it is written;
* `SetCookie.parse?_text_forSession`, `SetCookie.parse?_text_removal` — what a browser reads.
-/
import WebLogin.Http.Jar
import WebLogin.Http.MediaType
import WebLogin.Proofs.Session.Id
import WebLogin.Proofs.Text.Percent
import WebLogin.Proofs.Text.Split

namespace WebLogin

namespace Http

/-! ### Characters on the wire -/

/-- A visible character that neither ends a cookie nor its name. -/
def IsWireChar (c : Char) : Prop := ' ' < c ∧ c < '\x7f' ∧ c ≠ ';' ∧ c ≠ '='

instance : DecidablePred IsWireChar := fun _ => inferInstanceAs (Decidable (_ ∧ _))

/-- A text of such characters. -/
def IsWireText (s : String) : Prop := ∀ c ∈ s.toList, IsWireChar c

theorem not_isWhiteSpace_of_visible {c : Char} (hlow : ' ' < c) (hhigh : c < '\x7f') :
    isWhiteSpace c = false := by
  have hlow : 0x20 < c.toNat := hlow
  have hhigh : c.toNat < 0x7f := hhigh
  simp only [isWhiteSpace, inRanges, whiteSpaceRanges, List.any_eq_false, List.mem_cons,
    List.not_mem_nil, or_false, Bool.and_eq_true, decide_eq_true_eq, not_and, Nat.not_le]
  rintro ⟨low, high⟩ hrange
  simp only [Prod.mk.injEq] at hrange ⊢
  omega

theorem IsWireChar.not_isWhiteSpace {c : Char} (h : IsWireChar c) : isWhiteSpace c = false :=
  not_isWhiteSpace_of_visible h.1 h.2.1

theorem IsWireChar.isPlain {c : Char} (h : IsWireChar c) : ' ' ≤ c ∧ c < '\x7f' :=
  ⟨Nat.le_of_lt (show 0x20 < c.toNat from h.1), h.2.1⟩

theorem IsWireText.hasBareEdges {s : String} (h : IsWireText s) : HasBareEdges s.toList :=
  hasBareEdges_of_all fun c hc => (h c hc).not_isWhiteSpace

theorem IsWireText.notMem {s : String} (h : IsWireText s) : ';' ∉ s.toList ∧ '=' ∉ s.toList :=
  ⟨fun hc => (h _ hc).2.2.1 rfl, fun hc => (h _ hc).2.2.2 rfl⟩

theorem isPlain_append {s t : String} (hs : isPlain s = true) (ht : isPlain t = true) :
    isPlain (s ++ t) = true := by
  rw [isPlain, String.toList_append, List.all_append, Bool.and_eq_true]
  exact ⟨hs, ht⟩

theorem IsWireText.isPlain {s : String} (h : IsWireText s) : isPlain s = true := by
  rw [Http.isPlain, List.all_eq_true]
  intro c hc
  rw [Bool.or_eq_true, Bool.and_eq_true, decide_eq_true_iff, decide_eq_true_iff,
    decide_eq_true_iff]
  exact .inr (h c hc).isPlain

namespace SetCookie

theorem wire_of_not_isEscaped {c : Char} (h : isEscaped c = false) : IsWireChar c ∧ c ≠ '%' := by
  rw [isEscaped, Bool.or_eq_false_iff, Bool.or_eq_false_iff, decide_eq_false_iff_not,
    decide_eq_false_iff_not, Char.not_lt, Char.not_le] at h
  have hsign (d : Char) (hd : d ∈ escapedSigns) : c ≠ d := by
    rintro rfl
    exact absurd (List.contains_iff_mem.2 hd) (by rw [h.2]; decide)
  have hblank : ' '.toNat ≠ c.toNat := fun heq => hsign ' ' (by decide) (Char.toNat_inj.1 heq.symm)
  exact ⟨⟨Nat.lt_of_le_of_ne h.1.1 hblank, h.1.2, hsign ';' (by decide), hsign '=' (by decide)⟩,
    hsign '%' (by decide)⟩

theorem keepsAscii_isEscaped : Percent.KeepsAscii isEscaped := fun c h =>
  have hwire := wire_of_not_isEscaped h
  ⟨Nat.lt_trans (show c.toNat < 0x7f from hwire.1.2.1) (by decide), hwire.2⟩

/-- A name or a value as it is written. -/
def encoded (s : String) : String := Percent.encode isEscaped s

theorem wire_encoded (s : String) : IsWireText (encoded s) := by
  intro c hc
  rcases Percent.mem_encode hc with h | rfl | ⟨n, hn, rfl⟩
  · exact (wire_of_not_isEscaped h).1
  · decide
  · have hall : ∀ n < 16, IsWireChar (upperHexDigit n) := by decide
    exact hall n hn

theorem decode?_encoded (s : String) : Percent.decode? (encoded s) = some s :=
  Percent.decode?_encode keepsAscii_isEscaped s

theorem encoded_id (id : SessionId) : encoded id.text = id.text := by
  refine Percent.encode_eq_self fun c hc => ?_
  rcases SessionId.mem_text hc with rfl | ⟨v, hv, rfl⟩
  · decide
  · have hall : ∀ v < 16, isEscaped (hexDigit v) = false := by decide
    exact hall v hv

theorem encoded_empty : encoded "" = "" := rfl

theorem encoded_ne_empty {s : String} (h : s ≠ "") : encoded s ≠ "" := by
  intro hempty
  have hdecode := decode?_encoded s
  rw [hempty, ← encoded_empty, decode?_encoded] at hdecode
  exact h (Option.some.inj hdecode).symm

end SetCookie

theorem wire_id (id : SessionId) : IsWireText id.text := by
  rw [← SetCookie.encoded_id]
  exact SetCookie.wire_encoded _

/-! ### Pairs -/

/-- A name without blanks around it is read up to its equals sign. -/
theorem namedPair?_cons {name : String} (hedges : HasBareEdges name.toList)
    (h : '=' ∉ name.toList) (hne : name ≠ "") (value : List Char) :
    namedPair? (name.toList ++ '=' :: value) =
      some (name, String.ofList (trimWhiteSpace value)) := by
  rw [namedPair?, assignment?, cut?_append_cons h, Option.map_some]
  dsimp only
  rw [trimWhiteSpace_of_edges hedges, String.ofList_toList, Option.filter_some_pos]
  rw [Bool.not_eq_true', ← Bool.not_eq_true, String.isEmpty_iff]
  exact hne

theorem namedPair?_append {name value : String} (hname : HasBareEdges name.toList)
    (hvalue : HasBareEdges value.toList) (h : '=' ∉ name.toList) (hne : name ≠ "") :
    namedPair? (name.toList ++ '=' :: value.toList) = some (name, value) := by
  rw [namedPair?_cons hname h hne, trimWhiteSpace_of_edges hvalue, String.ofList_toList]

/-- A name that can be written in a cookie. -/
structure IsCookieName (name : String) : Prop where
  ne_empty : name ≠ ""
  edges : HasBareEdges name.toList
  semicolon : ';' ∉ name.toList
  equals : '=' ∉ name.toList

theorem IsWireText.isCookieName {name : String} (h : IsWireText name) (hne : name ≠ "") :
    IsCookieName name := ⟨hne, h.hasBareEdges, h.notMem.1, h.notMem.2⟩

/-- A name and a value are read as they are written. -/
theorem IsCookieName.namedPair? {name value : String} (h : IsCookieName name)
    (hvalue : IsWireText value) : ';' ∉ (name ++ "=" ++ value).toList ∧
      namedPair? (name ++ "=" ++ value).toList = some (name, value) := by
  have htext : (name ++ "=" ++ value).toList = name.toList ++ '=' :: value.toList := by
    rw [String.toList_append, String.toList_append, List.append_assoc]
    rfl
  rw [htext]
  refine ⟨?_, namedPair?_append h.edges hvalue.hasBareEdges h.equals h.ne_empty⟩
  rw [List.mem_append, List.mem_cons, not_or, not_or]
  exact ⟨h.semicolon, by decide, hvalue.notMem.1⟩

/-- The names that HTTP calls tokens are such names. -/
theorem IsCookieName.of_token {name : String} (hne : name ≠ "")
    (h : name.toList.all MediaType.isNameChar = true) : IsCookieName name := by
  -- A character of a token is a letter, a digit or one of a few signs.
  have hsigns : MediaType.nameSigns.all (IsWireChar ·) = true := by decide
  have hwire : IsWireText name := by
    intro c hc
    have hname := List.all_eq_true.1 h c hc
    rw [MediaType.isNameChar, Bool.or_eq_true, List.contains_iff_mem] at hname
    rcases hname with hname | hname
    · have hnat : (0x41 ≤ c.toNat ∧ c.toNat ≤ 0x5a ∨ 0x61 ≤ c.toNat ∧ c.toNat ≤ 0x7a) ∨
          0x30 ≤ c.toNat ∧ c.toNat ≤ 0x39 := by
        change (decide (_ ∧ _) || (decide _ && decide _) || (decide _ && decide _)) = true at hname
        rw [Bool.or_eq_true, Bool.or_eq_true, Bool.and_eq_true, Bool.and_eq_true,
          decide_eq_true_iff, decide_eq_true_iff, decide_eq_true_iff, decide_eq_true_iff,
          decide_eq_true_iff] at hname
        exact hname
      refine ⟨show 0x20 < c.toNat by omega, show c.toNat < 0x7f by omega, ?_, ?_⟩
      · rintro rfl
        revert hnat
        decide
      · rintro rfl
        revert hnat
        decide
    · exact of_decide_eq_true (List.all_eq_true.1 hsigns c hname)
  exact hwire.isCookieName hne

/-! ### Dates -/

/-- A text that can stand in an attribute of a cookie. -/
def IsAttributeText (s : String) : Prop :=
  ∀ c ∈ s.toList, (' ' ≤ c ∧ c < '\x7f') ∧ c ≠ ';'

instance : DecidablePred IsAttributeText := fun s => List.decidableBAll _ s.toList

theorem IsAttributeText.append {s t : String} (hs : IsAttributeText s) (ht : IsAttributeText t) :
    IsAttributeText (s ++ t) := by
  intro c hc
  rw [String.toList_append, List.mem_append] at hc
  exact hc.elim (hs c) (ht c)

theorem IsWireText.isAttributeText {s : String} (h : IsWireText s) : IsAttributeText s :=
  fun c hc => ⟨(h c hc).isPlain, (h c hc).2.2.1⟩

theorem IsAttributeText.isHeaderValue {s : String} (h : IsAttributeText s) :
    isHeaderValue s = true := by
  rw [Http.isHeaderValue, List.all_eq_true]
  intro c hc
  obtain ⟨⟨hlow, hhigh⟩, -⟩ := h c hc
  have hne : c ≠ '\x7f' := fun heq => absurd hhigh (by rw [heq]; decide)
  rw [Bool.or_eq_true, Bool.and_eq_true, decide_eq_true_iff, decide_eq_true_iff,
    decide_eq_true_iff]
  exact .inr ⟨hlow, hne⟩

/-- A number is written with digits alone. -/
theorem isDigit_of_mem_nat {n : Nat} {c : Char} (h : c ∈ (toString n).toList) :
    c.isDigit = true := by
  refine Nat.isDigit_of_mem_toDigits (b := 10) (by decide) (by decide) (n := n) ?_
  rwa [Nat.toString_eq_repr, Nat.repr, String.toList_ofList] at h

theorem wire_nat (n : Nat) : IsWireText (toString n) := by
  intro c hc
  have hdigit := isDigit_of_mem_nat hc
  rw [Char.isDigit, Bool.and_eq_true, decide_eq_true_iff, decide_eq_true_iff] at hdigit
  have hlow : 0x30 ≤ c.toNat := hdigit.1
  have hhigh : c.toNat ≤ 0x39 := hdigit.2
  refine ⟨show 0x20 < c.toNat by omega, show c.toNat < 0x7f by omega, ?_, ?_⟩
  · rintro rfl
    exact absurd hhigh (by decide)
  · rintro rfl
    exact absurd hhigh (by decide)

theorem toList_negSucc (n : Nat) :
    (toString (Int.negSucc n)).toList = '-' :: (toString (n + 1)).toList := by
  show ("-" ++ toString (n + 1)).toList = _
  rw [String.toList_append]
  rfl

theorem wire_int (n : Int) : IsWireText (toString n) := by
  cases n with
  | ofNat n => exact wire_nat n
  | negSucc n =>
    intro c hc
    rw [toList_negSucc, List.mem_cons] at hc
    rcases hc with rfl | hc
    · decide
    · exact wire_nat (n + 1) c hc

namespace HttpDate

theorem isAttributeText_twoDigits (n : Nat) : IsAttributeText (twoDigits n) := by
  rw [twoDigits]
  split
  · exact IsAttributeText.append (by decide) (wire_nat n).isAttributeText
  · exact (wire_nat n).isAttributeText

theorem isAttributeText_getD {names : List String} (h : ∀ s ∈ names, IsAttributeText s) (n : Nat) :
    IsAttributeText (names.getD n "") := by
  rw [List.getD_eq_getElem?_getD]
  cases hn : names[n]? with
  | none => exact fun c hc => absurd hc (by simp)
  | some s => exact h s (List.mem_of_getElem? hn)

theorem isAttributeText_short {s : String} (h : IsAttributeText s) : IsAttributeText (short s) := by
  intro c hc
  rw [short, String.toList_ofList] at hc
  exact h c (List.mem_of_mem_take hc)

theorem isAttributeText_text (d : HttpDate) : IsAttributeText d.text := by
  have hday : IsAttributeText (short d.dayName) :=
    isAttributeText_short (isAttributeText_getD (by decide) _)
  have hmonth : IsAttributeText (monthNames.getD (d.month - 1) "") :=
    isAttributeText_getD (by decide) _
  have hnumber := isAttributeText_twoDigits
  have hyear := (wire_int d.year).isAttributeText
  have hcomma : IsAttributeText ", " := by decide
  have hblank : IsAttributeText " " := by decide
  have hcolon : IsAttributeText ":" := by decide
  have hzone : IsAttributeText " GMT" := by decide
  exact ((((((((((((hday.append hcomma).append (hnumber _)).append hblank).append hmonth).append
    hblank).append hyear).append hblank).append (hnumber _)).append hcolon).append
    (hnumber _)).append hcolon).append (hnumber _)).append hzone

end HttpDate

/-! ### Ages -/

/-- The digits that a number is written with stand for it. -/
theorem foldl_digits (n : Nat) :
    (toString n).toList.foldl (fun v c => v * 10 + (c.toNat - '0'.toNat)) 0 = n := by
  have hdigits := Nat.ofDigitChars_toDigits (b := 10) (n := n) (by decide) (by decide)
  simp only [Nat.ofDigitChars_eq_foldl, Nat.mul_comm 10] at hdigits
  rwa [Nat.toString_eq_ofList_toDigits, String.toList_ofList]

theorem toString_nat_ne_nil (n : Nat) : (toString n).toList ≠ [] := by
  rw [Nat.toString_eq_ofList_toDigits, String.toList_ofList]
  exact Nat.toDigits_ne_nil

namespace SetCookie

theorem age?_nat (n : Nat) : age? (toString n).toList = some (min longestAge n) := by
  have hdigits : (toString n).toList.all Char.isDigit = true :=
    List.all_eq_true.2 fun c hc => isDigit_of_mem_nat hc
  have hvalue := foldl_digits n
  obtain ⟨d, ds, hds⟩ := List.exists_cons_of_ne_nil (toString_nat_ne_nil n)
  have hsign : d ≠ '-' := by
    rintro rfl
    exact absurd (isDigit_of_mem_nat (hds ▸ List.mem_cons_self)) (by decide)
  rw [hds] at hdigits hvalue ⊢
  rw [age?]
  · dsimp only
    rw [if_pos hdigits, hvalue, Option.map_some]
  · rintro rest heq
    exact hsign (List.cons.inj heq).1
  · exact List.cons_ne_nil d ds

/-- An age below zero is none at all, and one that is too long is the longest one. -/
theorem age?_int (m : Int) : age? (toString m).toList = some (min longestAge m.toNat) := by
  cases m with
  | ofNat n => exact age?_nat n
  | negSucc n =>
    have hdigits : (toString (n + 1)).toList.all Char.isDigit = true :=
      List.all_eq_true.2 fun c hc => isDigit_of_mem_nat hc
    rw [toList_negSucc, age?]
    dsimp only
    rw [if_pos hdigits]
    rfl

end SetCookie

/-! ### What a browser reads -/

namespace SetCookie

/-- A cookie is read up to the first semicolon, and then attribute by attribute. -/
theorem parse?_append {pair rest : String} {name value : String} (h : ';' ∉ pair.toList)
    (hpair : namedPair? pair.toList = some (name, value)) :
    parse? (pair ++ ";" ++ rest) =
      some ((splitOn ';' rest.toList).foldl withAttribute { name, value }) := by
  have htext : (pair ++ ";" ++ rest).toList = pair.toList ++ ';' :: rest.toList := by
    rw [String.toList_append, String.toList_append, List.append_assoc]
    rfl
  rw [parse?, htext, splitOn_append_cons h]
  dsimp only
  rw [hpair, Option.map_some]

theorem withAttribute_path (c : SetCookie) :
    c.withAttribute " Path=/".toList = { c with path := some "/" } := by
  have hassign : assignment? " Path=/".toList = some ("Path", "/") := rfl
  have hkey : "Path".toLower = "path" := by decide +kernel
  rw [withAttribute, hassign]
  dsimp only
  rw [hkey]
  rfl

theorem withAttribute_httpOnly (c : SetCookie) :
    c.withAttribute " HttpOnly".toList = { c with httpOnly := true } := by
  have hassign : assignment? " HttpOnly".toList = none := rfl
  have hname : String.ofList (trimWhiteSpace " HttpOnly".toList) = "HttpOnly" := rfl
  have hkey : "HttpOnly".toLower = "httponly" := by decide +kernel
  rw [withAttribute, hassign]
  dsimp only
  rw [hname, hkey]
  rfl

theorem withAttribute_sameSite (c : SetCookie) :
    c.withAttribute " SameSite=Lax".toList = c := by
  have hassign : assignment? " SameSite=Lax".toList = some ("SameSite", "Lax") := rfl
  have hkey : "SameSite".toLower = "samesite" := by decide +kernel
  rw [withAttribute, hassign]
  dsimp only
  rw [hkey]
  rfl

/-- An age is read as it is written. -/
theorem withAttribute_maxAge (c : SetCookie) (m : Int) :
    c.withAttribute (' ' :: ("Max-Age=" ++ toString m).toList) =
      { c with maxAge := some (min longestAge m.toNat) } := by
  have hedges := (wire_int m).hasBareEdges
  have hassign : assignment? (' ' :: ("Max-Age=" ++ toString m).toList) =
      some ("Max-Age", toString m) := by
    have htext : ' ' :: ("Max-Age=" ++ toString m).toList =
        " Max-Age".toList ++ '=' :: (toString m).toList := by
      rw [String.toList_append]
      rfl
    have hname : String.ofList (trimWhiteSpace " Max-Age".toList) = "Max-Age" := rfl
    rw [assignment?, htext, cut?_append_cons (by decide), Option.map_some]
    dsimp only
    rw [hname, trimWhiteSpace_of_edges hedges, String.ofList_toList]
  have hkey : "Max-Age".toLower = "max-age" := by decide +kernel
  rw [withAttribute, hassign]
  dsimp only
  rw [hkey]
  show { c with maxAge := age? (toString m).toList <|> c.maxAge } = _
  rw [age?_int]
  rfl

theorem withAttribute_noAge (c : SetCookie) :
    c.withAttribute " Max-Age=0".toList = { c with maxAge := some 0 } :=
  withAttribute_maxAge c 0

theorem withAttribute_expires (c : SetCookie) (date : List Char) :
    ∃ e, c.withAttribute (" Expires=".toList ++ date) = { c with expires := e } := by
  have hassign : assignment? (" Expires=".toList ++ date) =
      some ("Expires", String.ofList (trimWhiteSpace date)) := rfl
  have hkey : "Expires".toLower = "expires" := by decide +kernel
  refine ⟨HttpDate.parse? (String.ofList (trimWhiteSpace date)) <|> c.expires, ?_⟩
  rw [withAttribute, hassign]
  dsimp only
  rw [hkey]
  rfl

/-- The cookie that a browser keeps for a session. -/
def ofSession (cookieName : String) (id : SessionId) : SetCookie where
  name := encoded cookieName
  value := id.text
  httpOnly := true
  path := some "/"

/-- The cookie that a response sets for a session. -/
def forSession (cookieName : String) (id : SessionId) : SetCookie where
  name := cookieName
  value := id.text
  httpOnly := true
  sameSiteLax := true
  path := some "/"

theorem text_forSession (cookieName : String) (id : SessionId) :
    (forSession cookieName id).text =
      encoded cookieName ++ "=" ++ id.text ++ ";" ++ " HttpOnly; SameSite=Lax; Path=/" := by
  have htext : (forSession cookieName id).text = encoded cookieName ++ "=" ++ encoded id.text ++
      "; " ++ "HttpOnly" ++ "; " ++ "SameSite=Lax" ++ "; " ++ "Path=/" := rfl
  rw [htext, encoded_id]
  simp only [String.append_assoc]
  rfl

theorem isCookieName_encoded {cookieName : String} (h : cookieName ≠ "") :
    IsCookieName (encoded cookieName) :=
  (wire_encoded cookieName).isCookieName (encoded_ne_empty h)

theorem parse?_text_forSession {cookieName : String} (h : IsCookieName cookieName)
    (id : SessionId) :
    parse? (forSession cookieName id).text = some (ofSession cookieName id) := by
  obtain ⟨hsemicolon, hpair⟩ := (isCookieName_encoded h.ne_empty).namedPair? (wire_id id)
  rw [text_forSession, parse?_append hsemicolon hpair]
  have hsplit : splitOn ';' " HttpOnly; SameSite=Lax; Path=/".toList =
      [" HttpOnly".toList, " SameSite=Lax".toList, " Path=/".toList] := rfl
  -- The attributes are read one by one, and the last of them leaves what the browser keeps.
  rw [hsplit, List.foldl_cons, List.foldl_cons, List.foldl_cons, List.foldl_nil,
    withAttribute_httpOnly, withAttribute_sameSite, withAttribute_path]
  rfl

/-- The day that a removed cookie expired at. -/
def pastDate (now : Timestamp) : String :=
  (HttpDate.ofTimestamp (now.addSeconds (-365 * 86400))).text

theorem text_removal (now : Timestamp) (cookieName : String) :
    (removal now cookieName).text = encoded cookieName ++ "=" ++ "" ++ ";" ++
      (" Path=/; Max-Age=0; Expires=" ++ pastDate now) := by
  have htext : (removal now cookieName).text = encoded cookieName ++ "=" ++ encoded "" ++
      "; " ++ "Path=/" ++ "; " ++ "Max-Age=0" ++ "; " ++ ("Expires=" ++ pastDate now) := rfl
  rw [htext, encoded_empty]
  simp only [String.append_assoc]
  rfl

theorem parse?_text_removal {cookieName : String} (h : cookieName ≠ "")
    (now : Timestamp) : ∃ e, parse? (removal now cookieName).text = some
      { name := encoded cookieName, value := "", path := some "/", maxAge := some 0,
        expires := e } := by
  have hempty : IsWireText "" := fun c hc => absurd hc (by simp)
  obtain ⟨hsemicolon, hpair⟩ := (isCookieName_encoded h).namedPair? hempty
  have hnone : ';' ∉ (pastDate now).toList := fun hc =>
    (HttpDate.isAttributeText_text _ _ hc).2 rfl
  have hsplit : splitOn ';' (" Path=/; Max-Age=0; Expires=" ++ pastDate now).toList =
      [" Path=/".toList, " Max-Age=0".toList, " Expires=".toList ++ (pastDate now).toList] := by
    have hhead : splitOn ';' (" Path=/; Max-Age=0; Expires=" ++ pastDate now).toList =
        " Path=/".toList :: " Max-Age=0".toList ::
          splitOn ';' (" Expires=".toList ++ (pastDate now).toList) := by
      rw [String.toList_append]
      rfl
    rw [hhead, splitOn_of_notMem]
    rw [List.mem_append, not_or]
    exact ⟨by decide, hnone⟩
  obtain ⟨e, he⟩ := withAttribute_expires
    { name := encoded cookieName, value := "", path := some "/", maxAge := some 0 }
    (pastDate now).toList
  refine ⟨e, ?_⟩
  rw [text_removal, parse?_append hsemicolon hpair, hsplit, List.foldl_cons, List.foldl_cons,
    List.foldl_cons, List.foldl_nil, withAttribute_path, withAttribute_noAge, he]

/-! ### What can be sent -/

theorem isHeaderValue_append {s t : String} (hs : isHeaderValue s = true)
    (ht : isHeaderValue t = true) : isHeaderValue (s ++ t) = true := by
  rw [Http.isHeaderValue, String.toList_append, List.all_append, Bool.and_eq_true]
  exact ⟨hs, ht⟩

theorem isHeaderValue_text_forSession (cookieName : String) (id : SessionId) :
    isHeaderValue (forSession cookieName id).text = true := by
  rw [text_forSession]
  exact isHeaderValue_append (isHeaderValue_append (isHeaderValue_append (isHeaderValue_append
    (wire_encoded cookieName).isAttributeText.isHeaderValue (by decide))
    (wire_id id).isAttributeText.isHeaderValue) (by decide)) (by decide)

theorem isHeaderValue_text_removal (now : Timestamp) (cookieName : String) :
    isHeaderValue (removal now cookieName).text = true := by
  rw [text_removal]
  exact isHeaderValue_append (isHeaderValue_append (isHeaderValue_append (isHeaderValue_append
    (wire_encoded cookieName).isAttributeText.isHeaderValue (by decide)) (by decide))
    (by decide)) (isHeaderValue_append (by decide)
      (HttpDate.isAttributeText_text _).isHeaderValue)

end SetCookie

end Http

end WebLogin
