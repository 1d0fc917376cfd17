import Switchyard.Proofs.Http.Buffered
import Switchyard.Proofs.Http.UrlDecode
import Switchyard.Http.Request
/-!
# Reading cookies back

A client sends its cookies in `Cookie` fields, each joining pairs `name=value` with `; `
(`cookieLine`). `Request.cookie` reads them back: every field whose value is visible ASCII is split
at `;`, each part is trimmed and cut at its first `=`, and the first pair of the name gives its
value, stripped of quotes.

`Request.cookie_eq_lookup` says that the reading inverts the writing. Take pairs whose names are
visible ASCII without `=` or `;`, and whose values are printable ASCII without `;` or quotes and
do not end in a space (`CookiePair`), spread over any number of `Cookie` fields of a request that
had none. The cookie of a name is then the value of its first pair, in field order, or nothing
when no pair has the name. A value may hold `=` and inner spaces, and may even start with a space:
trimming a part only reaches the space that `; ` puts before the name.

The first section says that an ASCII text is its character codes as octets, both ways
(`Utf8.encode_ascii`, `Utf8.decodeChars_ascii`); the header value of a printable text reads back
as that text.
-/
namespace Switchyard

/-! ## ASCII text as octets -/

theorem ByteArray.toList_eq_data_toList (bs : ByteArray) : bs.toList = bs.data.toList := by
  -- the loop conses the octets from index `i` on onto the reversed accumulator
  suffices h : ∀ i r, i ≤ bs.size →
      ByteArray.toList.loop bs i r = r.reverse ++ bs.data.toList.drop i by
    unfold ByteArray.toList
    simpa using h 0 [] (Nat.zero_le _)
  intro i r hi
  fun_induction ByteArray.toList.loop bs i r with
  | case1 i r hlt ih =>
    have hlt' : i < bs.data.toList.length := by simpa using hlt
    rw [ih (by omega), List.drop_eq_getElem_cons hlt']
    simp [ByteArray.get!, getElem!_pos bs.data i (by simpa using hlt)]
  | case2 i r hge =>
    have : i = bs.size := by omega
    subst this
    simp

theorem List.utf8Encode_data_toList (l : List Char) :
    l.utf8Encode.data.toList = l.flatMap String.utf8EncodeChar := by
  induction l with
  | nil => simp
  | cons c l ih =>
    rw [List.utf8Encode_cons, ByteArray.toList_data_append, ih, List.utf8Encode_singleton,
      List.toList_data_toByteArray, List.flatMap_cons]

theorem Utf8.encode_eq_flatMap (s : String) :
    Utf8.encode s = s.toList.flatMap String.utf8EncodeChar := by
  rw [Utf8.encode, ByteArray.toList_eq_data_toList, String.toUTF8_eq_toByteArray,
    ← String.utf8Encode_toList, List.utf8Encode_data_toList]

/-- An ASCII character is one octet in UTF-8: its code. -/
theorem utf8EncodeChar_of_lt {c : Char} (h : c.toNat < 128) :
    String.utf8EncodeChar c = [c.toUInt8] := by
  have hval : c.val.toNat < 128 := h
  exact String.utf8EncodeChar_eq_singleton
    (Char.utf8Size_eq_one_iff.2 (UInt32.le_iff_toNat_le.2 (Nat.le_of_lt_succ hval)))

theorem Utf8.encode_ascii {s : String} (h : ∀ c ∈ s.toList, c.toNat < 128) :
    Utf8.encode s = s.toList.map Char.toUInt8 := by
  rw [Utf8.encode_eq_flatMap, List.flatMap_congr fun c hc => utf8EncodeChar_of_lt (h c hc)]
  exact List.map_eq_flatMap.symm

theorem toUInt8_toNat_of_lt {c : Char} (h : c.toNat < 128) : c.toUInt8.toNat = c.toNat := by
  have hval : c.val.toNat < 128 := h
  show c.val.toUInt8.toNat = c.val.toNat
  rw [UInt32.toNat_toUInt8]
  omega

theorem charOfNat_toUInt8 {c : Char} (h : c.toNat < 128) : Char.ofNat c.toUInt8.toNat = c := by
  rw [toUInt8_toNat_of_lt h, Char.ofNat_toNat]

theorem Utf8.decodeChars_ascii (cs : List Char) (h : ∀ c ∈ cs, c.toNat < 128) :
    Utf8.decodeChars (cs.map Char.toUInt8) = cs := by
  induction cs with
  | nil => simp [Utf8.decodeChars]
  | cons c cs ih =>
    have hc := h c List.mem_cons_self
    have hlt : c.toUInt8 < 128 := by
      rw [UInt8.lt_iff_toNat_lt, toUInt8_toNat_of_lt hc]
      simpa using hc
    simp only [List.map_cons, Utf8.decodeChars, scan_ascii hlt, List.drop_zero,
      ih fun d hd => h d (List.mem_cons_of_mem _ hd), charOfNat_toUInt8 hc]

/-- Printable ASCII: the visible characters and the space. -/
def Printable (s : String) : Prop := ∀ c ∈ s.toList, 32 ≤ c.toNat ∧ c.toNat ≤ 126

theorem Printable.ascii {s : String} (h : Printable s) : ∀ c ∈ s.toList, c.toNat < 128 :=
  fun c hc => Nat.lt_of_le_of_lt (h c hc).2 (by decide)

theorem Printable.visibleOctet {s : String} (h : Printable s) :
    ∀ b ∈ Utf8.encode s, HeaderValue.visibleOctet b := by
  rw [Utf8.encode_ascii h.ascii]
  intro b hb
  obtain ⟨c, hc, rfl⟩ := List.mem_map.1 hb
  have hcode := toUInt8_toNat_of_lt (h.ascii c hc)
  have ⟨hlo, hhi⟩ := h c hc
  simp [HeaderValue.visibleOctet, UInt8.le_iff_toNat_le, UInt8.lt_iff_toNat_lt, hcode]
  omega

theorem HeaderValue.ofText?_of_printable {s : String} (h : Printable s) :
    HeaderValue.ofText? s = some ⟨Utf8.encode s⟩ := by
  rw [HeaderValue.ofText?, if_pos]
  refine List.all_eq_true.2 fun b hb => ?_
  have hvis := h.visibleOctet b hb
  simp only [HeaderValue.visibleOctet, HeaderValue.validOctet, Bool.or_eq_true,
    Bool.and_eq_true, bne_iff_ne, ne_eq] at hvis ⊢
  rcases hvis with ⟨hlo, hhi⟩ | htab
  · exact Or.inl ⟨hlo, fun heq => by simp [heq] at hhi⟩
  · exact Or.inr htab

/-- A printable text read back from its header value is that text. -/
theorem HeaderValue.text?_of_printable {s : String} (h : Printable s) :
    HeaderValue.text? ⟨Utf8.encode s⟩ = some s := by
  rw [HeaderValue.text?, if_pos (List.all_eq_true.2 h.visibleOctet), Utf8.decodeLossy,
    Utf8.encode_ascii h.ascii, Utf8.decodeChars_ascii _ h.ascii, String.ofList_toList]

/-! ## Cookie pairs -/

/-- A character a cookie name may hold: visible ASCII other than `=` and `;`. -/
def cookieNameChar (c : Char) : Bool := 33 ≤ c.toNat && c.toNat ≤ 126 && c != '=' && c != ';'

/-- A character a cookie value may hold: printable ASCII other than `;` and the quote. -/
def cookieValueChar (c : Char) : Bool := 32 ≤ c.toNat && c.toNat ≤ 126 && c != ';' && c != '"'

/-- A cookie pair as a client sends it: a name of name characters, and a value of value
characters that does not end in a space. -/
structure CookiePair (p : String × String) : Prop where
  name : ∀ c ∈ p.1.toList, cookieNameChar c
  value : ∀ c ∈ p.2.toList, cookieValueChar c
  last : p.2.toList.getLast? ≠ some ' '

instance (p : String × String) : Decidable (CookiePair p) :=
  decidable_of_iff ((∀ c ∈ p.1.toList, cookieNameChar c) ∧
      (∀ c ∈ p.2.toList, cookieValueChar c) ∧ p.2.toList.getLast? ≠ some ' ')
    ⟨fun ⟨hn, hv, hl⟩ => ⟨hn, hv, hl⟩, fun h => ⟨h.name, h.value, h.last⟩⟩

/-- A pair as it stands in a `Cookie` field. -/
def cookieText (p : String × String) : String := p.1 ++ "=" ++ p.2

/-- A `Cookie` field: the pairs joined with `; `. -/
def cookieLine (pairs : List (String × String)) : String := "; ".intercalate (pairs.map cookieText)

theorem cookieText_toList (p : String × String) :
    (cookieText p).toList = p.1.toList ++ '=' :: p.2.toList := by
  simp [cookieText]

/-- A list keeps what it is when its head fails the test. -/
theorem dropWhile_eq_self_of_head {α : Type} {q : α → Bool} :
    ∀ {l : List α}, (∀ c ∈ l.head?, q c = false) → l.dropWhile q = l
  | [], _ => rfl
  | c :: _, h => List.dropWhile_cons_of_neg (by simpa using h c rfl)

/-- Every character from `!` to `~` is visible: none is white space. -/
theorem isWhiteSpace_of_visible {c : Char} (hlo : 33 ≤ c.toNat) (hhi : c.toNat ≤ 126) :
    Unicode.isWhiteSpace c = false := by
  simp [Unicode.isWhiteSpace]
  omega

section Pair

variable {p : String × String}

theorem CookiePair.name_visible (hp : CookiePair p) {c : Char} (hc : c ∈ p.1.toList) :
    33 ≤ c.toNat ∧ c.toNat ≤ 126 ∧ c ≠ '=' ∧ c ≠ ';' := by
  have h := hp.name c hc
  simp only [cookieNameChar, Bool.and_eq_true, decide_eq_true_eq, bne_iff_ne, ne_eq] at h
  exact ⟨h.1.1.1, h.1.1.2, h.1.2, h.2⟩

theorem CookiePair.value_printable (hp : CookiePair p) {c : Char} (hc : c ∈ p.2.toList) :
    32 ≤ c.toNat ∧ c.toNat ≤ 126 ∧ c ≠ ';' ∧ c ≠ '"' := by
  have h := hp.value c hc
  simp only [cookieValueChar, Bool.and_eq_true, decide_eq_true_eq, bne_iff_ne, ne_eq] at h
  exact ⟨h.1.1.1, h.1.1.2, h.1.2, h.2⟩

/-- A pair's text starts with a visible character: the name's first, or `=`. -/
theorem CookiePair.head?_not_whiteSpace (hp : CookiePair p) :
    ∀ c ∈ (cookieText p).toList.head?, Unicode.isWhiteSpace c = false := by
  intro c hc
  rw [cookieText_toList, List.head?_append] at hc
  cases hname : p.1.toList.head? with
  | none =>
    -- an empty name: the text starts with `=`
    simp [hname] at hc
    subst hc
    decide
  | some d =>
    simp only [hname, Option.some_or, Option.mem_def, Option.some.injEq] at hc
    subst hc
    have ⟨hlo, hhi, _⟩ := hp.name_visible (List.mem_of_mem_head? hname)
    exact isWhiteSpace_of_visible hlo hhi

/-- A pair's text ends in a visible character: the value's last, which is no space, or `=`. -/
theorem CookiePair.getLast?_not_whiteSpace (hp : CookiePair p) :
    ∀ c ∈ (cookieText p).toList.getLast?, Unicode.isWhiteSpace c = false := by
  intro c hc
  rw [cookieText_toList, List.getLast?_append, List.getLast?_cons] at hc
  cases hlast : p.2.toList.getLast? with
  | none =>
    -- an empty value: the text ends in `=`
    simp [hlast] at hc
    subst hc
    decide
  | some d =>
    simp only [hlast, Option.getD_some, Option.some_or, Option.mem_def, Option.some.injEq] at hc
    subst hc
    have ⟨hlo, hhi, _⟩ := hp.value_printable (List.mem_of_getLast? hlast)
    have hspace : d.toNat ≠ ' '.toNat := fun h =>
      hp.last (hlast.trans (by rw [Char.toNat_inj.1 h]))
    exact isWhiteSpace_of_visible (by simp at hspace; omega) hhi

/-- Trimming white space off a part that holds a pair's text after white space leaves the text. -/
theorem CookiePair.trim (hp : CookiePair p) {pre : List Char}
    (hpre : ∀ c ∈ pre, Unicode.isWhiteSpace c) :
    Unicode.trim (String.ofList (pre ++ (cookieText p).toList)) = cookieText p := by
  have hfront := dropWhile_eq_self_of_head hp.head?_not_whiteSpace
  have hback : (cookieText p).toList.reverse.dropWhile Unicode.isWhiteSpace =
      (cookieText p).toList.reverse :=
    dropWhile_eq_self_of_head (by rw [List.head?_reverse]; exact hp.getLast?_not_whiteSpace)
  rw [Unicode.trim, String.toList_ofList, List.dropWhile_append_of_pos hpre, hfront, hback,
    List.reverse_reverse, String.ofList_toList]

/-- A pair's text cut at its first `=` is the pair: no name holds `=`. -/
theorem CookiePair.splitOnce_cookieText (hp : CookiePair p) :
    splitOnce '=' (cookieText p) = some p := by
  have hname : ∀ c ∈ p.1.toList, (c != '=') = true := fun c hc => by
    simpa using (hp.name_visible hc).2.2.1
  simp [splitOnce, cookieText_toList, List.takeWhile_append_of_pos hname,
    List.dropWhile_append_of_pos hname]

/-- No value starts or ends with a quote, so stripping quotes leaves it. -/
theorem CookiePair.trimQuotes (hp : CookiePair p) : Request.trimQuotes p.2 = p.2 := by
  have hquote : ∀ c ∈ p.2.toList, (c == '"') = false := fun c hc => by
    simpa using (hp.value_printable hc).2.2.2
  rw [Request.trimQuotes, dropWhile_eq_self_of_head fun c hc => hquote c (List.mem_of_mem_head? hc),
    dropWhile_eq_self_of_head fun c hc =>
      hquote c (List.mem_reverse.1 (List.mem_of_mem_head? hc)),
    List.reverse_reverse, String.ofList_toList]

/-- A pair's text reads back as the pair, whatever white space comes before it. -/
theorem CookiePair.readPart (hp : CookiePair p) {pre : List Char}
    (hpre : ∀ c ∈ pre, Unicode.isWhiteSpace c) :
    splitOnce '=' (Unicode.trim (String.ofList (pre ++ (cookieText p).toList))) = some p := by
  rw [hp.trim hpre, hp.splitOnce_cookieText]

theorem CookiePair.printable (hp : CookiePair p) : Printable (cookieText p) := by
  intro c hc
  rw [cookieText_toList] at hc
  rcases List.mem_append.1 hc with hn | hv
  · have ⟨hlo, hhi, _⟩ := hp.name_visible hn
    omega
  · rcases List.mem_cons.1 hv with rfl | hv
    · decide
    · have ⟨hlo, hhi, _⟩ := hp.value_printable hv
      exact ⟨hlo, hhi⟩

theorem CookiePair.semicolon_not_mem (hp : CookiePair p) : ';' ∉ (cookieText p).toList := by
  rw [cookieText_toList]
  intro h
  rcases List.mem_append.1 h with hn | hv
  · exact (hp.name_visible hn).2.2.2 rfl
  · rcases List.mem_cons.1 hv with hv | hv
    · exact absurd hv (by decide)
    · exact (hp.value_printable hv).2.2.1 rfl

end Pair

/-! ## A field of pairs -/

/-- Joining with a separator of two is joining with its first after prefixing its second to
every part but the first. -/
theorem intercalate_pair_sep {α : Type} (a b : α) :
    ∀ (x : List α) (xs : List (List α)),
      [a, b].intercalate (x :: xs) = [a].intercalate (x :: xs.map (b :: ·))
  | x, [] => by simp
  | x, y :: ys => by
    rw [List.intercalate_cons_cons, intercalate_pair_sep a b y ys, List.map_cons,
      List.intercalate_cons_cons, List.intercalate_cons_cons_left]
    simp

theorem List.mem_of_mem_intercalate {α : Type} {sep : List α} {c : α} :
    ∀ {ls : List (List α)}, c ∈ sep.intercalate ls → c ∈ sep ∨ ∃ l ∈ ls, c ∈ l
  | [], h => by simp at h
  | [l], h => Or.inr ⟨l, by simp, by simpa using h⟩
  | l :: l' :: ls, h => by
    rw [List.intercalate_cons_cons] at h
    rcases List.mem_append.1 h with h | h
    · rcases List.mem_append.1 h with h | h
      · exact Or.inr ⟨l, List.mem_cons_self, h⟩
      · exact Or.inl h
    · rcases List.mem_of_mem_intercalate h with hs | ⟨m, hm, hcm⟩
      · exact Or.inl hs
      · exact Or.inr ⟨m, List.mem_cons_of_mem _ hm, hcm⟩

section Line

variable {pairs : List (String × String)}

theorem cookieLine_printable (hpairs : ∀ p ∈ pairs, CookiePair p) :
    Printable (cookieLine pairs) := by
  intro c hc
  rw [cookieLine, String.toList_intercalate] at hc
  rcases List.mem_of_mem_intercalate hc with hsep | ⟨l, hl, hcl⟩
  · -- the separator `; `
    have hsep' : c = ';' ∨ c = ' ' := by simpa using hsep
    rcases hsep' with rfl | rfl <;> decide
  · obtain ⟨p, hp, rfl⟩ : ∃ p ∈ pairs, (cookieText p).toList = l := by simpa using hl
    exact (hpairs p hp).printable c hcl

/-- A field splits at `;` into the first pair's text and each other pair's text after the space
of the separator. -/
theorem cookieLine_splitOn (p : String × String) (rest : List (String × String))
    (hpairs : ∀ q ∈ p :: rest, CookiePair q) :
    (cookieLine (p :: rest)).toList.splitOn ';' =
      (cookieText p).toList :: rest.map fun q => ' ' :: (cookieText q).toList := by
  have hsep : "; ".toList = [';', ' '] := rfl
  rw [cookieLine, String.toList_intercalate, hsep, List.map_map, List.map_cons,
    intercalate_pair_sep, List.map_map]
  refine List.splitOn_intercalate ';' ?_ (List.cons_ne_nil _ _)
  intro l hl
  rcases List.mem_cons.1 hl with rfl | hl
  · exact (hpairs p List.mem_cons_self).semicolon_not_mem
  · obtain ⟨q, hq, rfl⟩ := List.mem_map.1 hl
    simpa using (hpairs q (List.mem_cons_of_mem _ hq)).semicolon_not_mem

/-- Reading a field gives back the pairs it was written from. -/
theorem cookiePairs_cookieLine (hpairs : ∀ p ∈ pairs, CookiePair p) :
    Request.cookiePairs (cookieLine pairs) = pairs := by
  cases pairs with
  | nil => decide +kernel
  | cons p rest =>
    have hfirst : splitOnce '=' (Unicode.trim (String.ofList ([] ++ (cookieText p).toList))) =
        some p := (hpairs p List.mem_cons_self).readPart nofun
    rw [List.nil_append] at hfirst
    have hspace : ∀ c ∈ [' '], Unicode.isWhiteSpace c := by
      simp [Unicode.isWhiteSpace]
    have hrest : ∀ q ∈ rest,
        splitOnce '=' (Unicode.trim (String.ofList (' ' :: (cookieText q).toList))) = some q := by
      intro q hq
      rw [← List.singleton_append]
      exact (hpairs q (List.mem_cons_of_mem _ hq)).readPart hspace
    rw [Request.cookiePairs, cookieLine_splitOn p rest hpairs]
    simp only [List.map_cons, List.filterMap_cons, hfirst, List.map_map, List.filterMap_map]
    refine congrArg (p :: ·) ?_
    trans rest.filterMap some
    · exact List.filterMap_congr fun q hq => by simp only [Function.comp_apply]; exact hrest q hq
    · exact List.filterMap_some

end Line

/-! ## Reading every field -/

/-- The first pair of a key, by its value, is the key's lookup. -/
theorem find?_fst_map_snd (l : List (String × String)) (k : String) :
    (l.find? (·.1 == k)).map Prod.snd = l.lookup k := by
  induction l with
  | nil => rfl
  | cons q l ih =>
    obtain ⟨k', v⟩ := q
    by_cases hk : k' = k
    · simp [hk]
    · have hk' : (k == k') = false := by simpa using Ne.symm hk
      simp [List.lookup_cons, hk, hk', ih]

namespace Request

theorem headers_withHeader {r : Request} {name value : String} {n : HeaderName} {v : HeaderValue}
    (hn : HeaderName.parse? name = some n) (hv : HeaderValue.ofText? value = some v) :
    (r.withHeader name value).headers = r.headers.append n v := by
  simp [withHeader, hn, hv]

/-- Each field of pairs added as `Cookie` adds its text as a value of `cookie`, in order. -/
theorem getAll_cookie_foldl (r : Request) (lines : List (List (String × String)))
    (hlines : ∀ l ∈ lines, ∀ p ∈ l, CookiePair p) :
    (lines.foldl (fun r l => r.withHeader "Cookie" (cookieLine l)) r).headers.getAll
        ⟨"cookie"⟩ = r.headers.getAll ⟨"cookie"⟩ ++ lines.map fun l => ⟨Utf8.encode (cookieLine l)⟩ := by
  have hname : HeaderName.parse? "Cookie" = some ⟨"cookie"⟩ := by decide +kernel
  induction lines generalizing r with
  | nil => simp
  | cons l lines ih =>
    have hvalue :=
      HeaderValue.ofText?_of_printable (cookieLine_printable (hlines l List.mem_cons_self))
    rw [List.foldl_cons, ih _ fun l' hl' => hlines l' (List.mem_cons_of_mem _ hl'),
      headers_withHeader hname hvalue, HeaderMap.getAll_append]
    simp [FieldMap.add]

/-- Reading cookies inverts writing them: after fields of pairs are added as `Cookie` to a request
that had none, the cookie of a name is the value of its first pair, in field order, and nothing
when no pair has the name. -/
theorem cookie_eq_lookup (r : Request) (hr : r.headers.getAll ⟨"cookie"⟩ = [])
    (lines : List (List (String × String))) (hpairs : ∀ p ∈ lines.flatten, CookiePair p)
    (name : String) :
    (lines.foldl (fun r l => r.withHeader "Cookie" (cookieLine l)) r).cookie name =
      lines.flatten.lookup name := by
  have hlines : ∀ l ∈ lines, ∀ p ∈ l, CookiePair p := fun l hl p hp =>
    hpairs p (List.mem_flatten_of_mem hl hp)
  have htext : (lines.map fun l => (⟨Utf8.encode (cookieLine l)⟩ : HeaderValue)).filterMap
      HeaderValue.text? = lines.map cookieLine := by
    rw [List.filterMap_map]
    trans lines.filterMap (some ∘ cookieLine)
    · exact List.filterMap_congr fun l hl =>
        HeaderValue.text?_of_printable (cookieLine_printable (hlines l hl))
    · exact congrFun List.filterMap_eq_map lines
  have hread : (lines.map cookieLine).flatMap cookiePairs = lines.flatten := by
    rw [List.flatMap_map, ← List.flatMap_id]
    exact List.flatMap_congr fun l hl => cookiePairs_cookieLine (hlines l hl)
  rw [cookie, getAll_cookie_foldl r lines hlines, hr, List.nil_append, htext, hread,
    ← find?_fst_map_snd]
  refine Option.map_congr fun p hp => ?_
  exact (hpairs p (List.mem_of_find?_eq_some hp)).trimQuotes

/-- The fields `a=1; session=xyz` and `session=old; b=x=y z` on `GET /`: the first `session` is
read, and the value of `b` keeps its `=` and its inner space. -/
theorem cookie_eq_lookup_two_fields :
    Request.default.headers.getAll ⟨"cookie"⟩ = [] ∧
      (∀ p ∈ [[("a", "1"), ("session", "xyz")], [("session", "old"), ("b", "x=y z")]].flatten,
        CookiePair p) ∧
      ([[("a", "1"), ("session", "xyz")], [("session", "old"), ("b", "x=y z")]].foldl
          (fun r l => r.withHeader "Cookie" (cookieLine l)) Request.default).cookie "session" =
        some "xyz" ∧
      ([[("a", "1"), ("session", "xyz")], [("session", "old"), ("b", "x=y z")]].foldl
          (fun r l => r.withHeader "Cookie" (cookieLine l)) Request.default).cookie "b" =
        some "x=y z" := by
  have hr : Request.default.headers.getAll ⟨"cookie"⟩ = [] := by decide +kernel
  have hpairs :
      ∀ p ∈ [[("a", "1"), ("session", "xyz")], [("session", "old"), ("b", "x=y z")]].flatten,
        CookiePair p := by
    intro p hp
    simp only [List.flatten_cons, List.flatten_nil, List.cons_append, List.nil_append,
      List.append_nil, List.mem_cons, List.not_mem_nil, or_false] at hp
    rcases hp with rfl | rfl | rfl | rfl <;>
      exact ⟨by simp [cookieNameChar], by simp [cookieValueChar], by simp⟩
  refine ⟨hr, hpairs, ?_, ?_⟩
  · rw [cookie_eq_lookup _ hr _ hpairs]
    decide +kernel
  · rw [cookie_eq_lookup _ hr _ hpairs]
    decide +kernel

end Request

end Switchyard
