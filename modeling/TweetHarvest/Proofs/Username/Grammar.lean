import TweetHarvest.Proofs.Url.Reading
import TweetHarvest.Proofs.Username.Handles

/-!
# Which texts give a handle

Nothing but a handle is ever read from a text, and a handle is read as itself.  A text that cannot
be an address gives a handle only if it is one behind any number of at signs.  From the address of a
profile the handle is read whatever follows it: a query, a fragment or further segments.

## Key results

- `Username.read_eq_ok_iff_of_notMem`: texts without a colon
- `Username.read_address`: addresses of profiles
- `Username.read_grammar`: all of these
-/

namespace TweetHarvest.Username

open Text (dropEndWhile trim trimChars isBlank)

/-! ## Texts that are no addresses -/

/-- Without a colon a text is no address. -/
theorem candidate_of_notMem {input : String} (h : ':' ∉ input.toList) :
    candidate input = input.toList.dropWhile (· = '@') := by
  unfold candidate
  split
  · next url hurl => exact absurd (Url.colon_mem_of_read hurl) h
  · rfl

/-- An address on a host that counts as the site of the profiles leads to its first segment. -/
theorem candidate_of_isProfileHost {input : String} {url : Url} {host : List Char}
    (hread : Url.read input = .ok url) (hhost : url.hostText? = some host)
    (hprofile : isProfileHost host = true) : candidate input = url.firstSegment?.getD [] := by
  simp only [candidate, hread, hhost, Option.any_some, hprofile, if_true]

/-- What is left behind the at signs in front. -/
theorem dropWhile_at_eq_iff {s handle : List Char} (h : '@' ∉ handle) :
    s.dropWhile (· = '@') = handle ↔ ∃ n, s = List.replicate n '@' ++ handle := by
  constructor
  · rintro rfl
    -- All that is taken off the front are at signs
    have hfront : s.takeWhile (· = '@') = List.replicate (s.takeWhile (· = '@')).length '@' :=
      List.eq_replicate_iff.2 ⟨rfl, fun c hc => by
        simpa using List.all_eq_true.1 List.all_takeWhile c hc⟩
    refine ⟨(s.takeWhile (· = '@')).length, ?_⟩
    rw [← hfront, List.takeWhile_append_dropWhile]
  · rintro ⟨n, rfl⟩
    rw [List.dropWhile_append_of_pos fun c hc => by simpa using List.eq_of_mem_replicate hc]
    cases handle with
    | nil => rfl
    | cons c cs =>
      have hc : c ≠ '@' := fun hc => h (hc ▸ List.mem_cons_self ..)
      exact List.dropWhile_cons_of_neg (by simpa using hc)

namespace IsHandle

variable {handle : String} (h : IsHandle handle)
include h

/-- The characters of a handle are letters, digits and underscores. -/
theorem isHandleChar {c : Char} (hc : c ∈ handle.toList) : isHandleChar c = true :=
  isHandleChar_iff.2 (h.letters c hc)

/-- No other character stands in a handle. -/
theorem notMem {c : Char} (hc : Username.isHandleChar c = false) : c ∉ handle.toList := by
  intro hmem
  rw [h.isHandleChar hmem] at hc
  exact nomatch hc

/-- A handle is not empty. -/
theorem toList_ne_nil : handle.toList ≠ [] := by
  have hlength := h.nonempty
  rw [← String.length_toList] at hlength
  exact List.ne_nil_of_length_pos hlength

/-- There are no blanks in a handle. -/
theorem isBlank_eq_false {c : Char} (hc : c ∈ handle.toList) : isBlank c = false :=
  isHandleChar_induction (P := fun c => isBlank c = false) (by decide) (h.isHandleChar hc)

/-- A handle has no blanks at its ends. -/
theorem trim_eq : trim handle = handle := by
  rw [trim, Text.trimChars_eq_self fun _ => h.isBlank_eq_false, String.ofList_toList]

end IsHandle

/-- A text without a colon gives a handle if it is one behind any number of at signs. -/
theorem read_eq_ok_iff_of_notMem {text handle : String} (h : ':' ∉ text.toList) :
    read text = .ok handle ↔
      IsHandle handle ∧ ∃ n, trim text = String.ofList (List.replicate n '@') ++ handle := by
  -- Trimming adds no colon, so the text is not an address
  have hcolon : ':' ∉ (trim text).toList := by
    rw [trim, String.toList_ofList]
    exact mt Text.mem_of_mem_trimChars h
  rw [read_eq_ok_iff, candidate_of_notMem hcolon]
  constructor
  · rintro ⟨-, hcandidate, hhandle⟩
    obtain ⟨n, hn⟩ := (dropWhile_at_eq_iff (hhandle.notMem (by decide))).1 hcandidate
    refine ⟨hhandle, n, ?_⟩
    rw [← String.toList_inj, hn, String.toList_append, String.toList_ofList]
  · rintro ⟨hhandle, n, hn⟩
    have hchars : (trim text).toList = List.replicate n '@' ++ handle.toList := by
      rw [hn, String.toList_append, String.toList_ofList]
    refine ⟨?_, (dropWhile_at_eq_iff (hhandle.notMem (by decide))).2 ⟨n, hchars⟩, hhandle⟩
    -- A handle has at least one character
    intro hempty
    rw [hempty] at hchars
    exact hhandle.toList_ne_nil (List.append_eq_nil_iff.1 hchars.symm).2

/-- A handle is read as itself. -/
theorem read_handle {handle : String} (h : IsHandle handle) : read handle = .ok handle :=
  (read_eq_ok_iff_of_notMem (h.notMem (by decide))).2 ⟨h, 0, by simp [h.trim_eq]⟩

/-! ## Addresses of profiles -/

/-- What may follow a handle in the address of a profile. -/
inductive Tail : List Char → Prop
  | none : Tail []
  | query (t : List Char) : Tail ('?' :: t)
  | fragment (t : List Char) : Tail ('#' :: t)
  | further {t : List Char} (h : ∀ c ∈ t, IsHandleLetter c ∨ c = '-' ∨ c = '/') : Tail ('/' :: t)

/-- The characters of handles belong to a path. -/
theorem stays_inPath {c : Char} (h : isHandleChar c = true) : c ≠ '#' ∧ c ≠ '?' :=
  isHandleChar_induction (P := fun c => c ≠ '#' ∧ c ≠ '?') (by decide) h

namespace Tail

variable {tail : List Char} (h : Tail tail) {p : Char → Bool}
include h

/-- What is left of a tail is one if none of the signs in front can be dropped from its end. -/
theorem dropEndWhile (hp : p '?' = false ∧ p '#' = false ∧ p '/' = false) :
    Tail (dropEndWhile p tail) := by
  cases h with
  | none => exact .none
  | query t => exact Text.dropEndWhile_append_cons [] t hp.1 ▸ .query _
  | fragment t => exact Text.dropEndWhile_append_cons [] t hp.2.1 ▸ .fragment _
  | further ht =>
    rw [← List.nil_append ('/' :: _), Text.dropEndWhile_append_cons [] _ hp.2.2]
    exact .further fun c hc => ht c (Text.mem_of_mem_dropEndWhile hc)

/-- A tail stays one if characters other than the signs are left out. -/
theorem filter (hp : p '?' = true ∧ p '#' = true ∧ p '/' = true) : Tail (tail.filter p) := by
  cases h with
  | none => exact .none
  | query t => exact List.filter_cons_of_pos hp.1 ▸ .query _
  | fragment t => exact List.filter_cons_of_pos hp.2.1 ▸ .fragment _
  | further ht =>
    rw [List.filter_cons_of_pos hp.2.2]
    exact .further fun c hc => ht c (List.mem_filter.1 hc).1

/-- What is left of an address when it is read ends in such a tail again. -/
theorem exists_clean {front : List Char} (hne : front ≠ [])
    (hfront : ∀ c ∈ front,
      isBlank c = false ∧ Url.isC0OrSpace c = false ∧ Url.isPassedOver c = false) :
    ∃ tail', Tail tail' ∧ Url.clean (trimChars (front ++ tail)) = front ++ tail' := by
  have htrim : trimChars (front ++ tail) = front ++ Text.dropEndWhile isBlank tail :=
    Text.dropEnds_append hne (fun c hc => (hfront c hc).1) tail
  rw [htrim, Url.clean_append hne fun c hc => (hfront c hc).2]
  exact ⟨_, ((h.dropEndWhile (by decide)).dropEndWhile (by decide)).filter (by decide), rfl⟩

/-- Of such a tail only further segments belong to the path. -/
theorem spanPath_fst :
    (Url.spanPath true tail).1 = [] ∨ ∃ t, (Url.spanPath true tail).1 = '/' :: t ∧
      ∀ c ∈ t, IsHandleLetter c ∨ c = '-' ∨ c = '/' := by
  cases h with
  | none => exact .inl rfl
  | query t => exact .inl (by rw [Url.spanPath_fst]; rfl)
  | fragment t => exact .inl rfl
  | @further t ht =>
    -- Neither a query nor a fragment starts within further segments
    have hpath : ∀ c ∈ '/' :: t, c ≠ '#' ∧ c ≠ '?' := by
      intro c hc
      rcases List.mem_cons.1 hc with rfl | hc
      · decide
      rcases ht c hc with hletter | rfl | rfl
      · exact stays_inPath (isHandleChar_iff.2 hletter)
      all_goals decide
    have hwhole := Url.spanPath_append true hpath []
    rw [List.append_nil, show (Url.spanPath true []).1 = [] from rfl, List.append_nil] at hwhole
    exact .inr ⟨t, hwhole, ht⟩

end Tail

/-- The characters of handles may stand in paths as they are. -/
theorem isPathChar_of_isHandleChar {c : Char} (h : isHandleChar c = true) : Url.IsPathChar c := by
  obtain ⟨hplain, hbackslash, hdot, hpercent⟩ := isHandleChar_induction
    (P := fun c => Percent.encodeChar Percent.inPath c = [c] ∧ c ≠ '\\' ∧ c ≠ '.' ∧ c ≠ '%')
    (by decide) h
  exact ⟨hplain, hbackslash, hdot, hpercent⟩

/-- The handle is the first segment of the path. -/
theorem head?_readSegments {port : Nat} {handle : String} (h : IsHandle handle) {more : List Char}
    (hmore : more = [] ∨
      ∃ t, more = '/' :: t ∧ ∀ c ∈ t, IsHandleLetter c ∨ c = '-' ∨ c = '/') :
    (Url.readSegments (.special port) ('/' :: (handle.toList ++ more))).head? =
      some handle.toList := by
  have hhandle : ∀ c ∈ handle.toList, Url.IsPathChar c := fun c hc =>
    isPathChar_of_isHandleChar (h.isHandleChar hc)
  -- All characters can stand in a path as they are
  have hchars : ∀ c ∈ handle.toList ++ more, Url.IsPathChar c ∨ c = '/' := by
    intro c hc
    rcases List.mem_append.1 hc with hc | hc
    · exact .inl (hhandle c hc)
    rcases hmore with rfl | ⟨t, rfl, ht⟩
    · exact nomatch hc
    rcases List.mem_cons.1 hc with rfl | hc
    · exact .inr rfl
    rcases ht c hc with hletter | rfl | rfl
    · exact .inl (isPathChar_of_isHandleChar (isHandleChar_iff.2 hletter))
    · exact .inl ⟨by decide, by decide, by decide, by decide⟩
    · exact .inr rfl
  -- A handle has no slash, so it is a segment of its own
  have hsplit : Text.splitOn '/' handle.toList = [handle.toList] :=
    Text.splitOn_of_not_mem (h.notMem (by decide))
  have hspecial : Url.SchemeKind.special port ≠ .file := nofun
  rw [Url.readSegments_eq hspecial hchars]
  rcases hmore with rfl | ⟨t, rfl, -⟩
  · rw [List.append_nil, hsplit]
    rfl
  · rw [Text.splitOn_append_sep, hsplit]
    rfl

/-- The schemes of the addresses of profiles. -/
theorem scheme_spec {scheme : String} (h : scheme ∈ ["http", "https"]) (rest : List Char) :
    (∃ port, Url.schemeKind scheme.toList = .special port) ∧
      Url.readScheme? (scheme.toList ++ ':' :: rest) = some (scheme.toList, rest) ∧
      ∀ c ∈ scheme.toList, isHandleChar c = true := by
  -- What can be computed of both schemes
  have hall : ∀ scheme ∈ ["http", "https"], scheme.toList.head?.any Char.isAlpha = true ∧
      scheme.toList.all Url.isSchemeChar = true ∧
      scheme.toList.map Char.toLower = scheme.toList ∧
      scheme.toList.all isHandleChar = true := by decide
  obtain ⟨hhead, hchars, hlower, hletters⟩ := hall scheme h
  refine ⟨?_, Url.readScheme?_append hhead hchars hlower rest, List.all_eq_true.1 hletters⟩
  simp only [List.mem_cons, List.not_mem_nil, or_false] at h
  rcases h with rfl | rfl
  · exact ⟨80, rfl⟩
  · exact ⟨443, rfl⟩

/-- Hosts of the addresses of profiles. -/
theorem host_spec {host : String}
    (h : host ∈ ["x.com", "twitter.com", "www.x.com", "mobile.twitter.com"]) :
    Url.IsHostText host.toList ∧ Url.readHost host.toList = .ok (.domain host.toList) ∧
      isProfileHost host.toList = true ∧
      ∀ c ∈ host.toList, isHandleChar c = true ∨ c = '.' := by
  -- What can be computed of each host
  have hall : ∀ host ∈ ["x.com", "twitter.com", "www.x.com", "mobile.twitter.com"],
      host.toList ≠ [] ∧ Url.readHost host.toList = .ok (.domain host.toList) ∧
      isProfileHost host.toList = true ∧
      host.toList.all (fun c => isHandleChar c || c = '.') = true := by decide +kernel
  obtain ⟨hne, hread, hprofile, hletters⟩ := hall host h
  have hchars : ∀ c ∈ host.toList, isHandleChar c = true ∨ c = '.' := fun c hc => by
    simpa using List.all_eq_true.1 hletters c hc
  refine ⟨⟨hne, fun c hc => ?_⟩, hread, hprofile, hchars⟩
  rcases hchars c hc with hchar | rfl
  · exact isHandleChar_induction (P := fun c =>
      Url.endsAuthority true c = false ∧ c ≠ ':' ∧ c ≠ '[' ∧ c ≠ '@') (by decide) hchar
  · decide

/-- What stands in front of the tail of an address stays where blanks are dropped. -/
theorem stays_of_isHandleChar {c : Char}
    (h : isHandleChar c = true ∨ c = ':' ∨ c = '/' ∨ c = '.') :
    isBlank c = false ∧ Url.isC0OrSpace c = false ∧ Url.isPassedOver c = false := by
  rcases h with h | rfl | rfl | rfl
  · exact isHandleChar_induction (P := fun c =>
      isBlank c = false ∧ Url.isC0OrSpace c = false ∧ Url.isPassedOver c = false) (by decide) h
  all_goals decide

/-- The address of a profile leads to the handle in its path. -/
theorem candidate_address {input scheme host handle : String} {tail : List Char}
    (hscheme : scheme ∈ ["http", "https"])
    (hhost : host ∈ ["x.com", "twitter.com", "www.x.com", "mobile.twitter.com"])
    (hhandle : IsHandle handle) (htail : Tail tail)
    (hclean : Url.clean input.toList =
      scheme.toList ++ ':' :: '/' :: '/' :: (host.toList ++ '/' :: (handle.toList ++ tail))) :
    candidate input = handle.toList := by
  obtain ⟨hname, hreadHost, hprofile, -⟩ := host_spec hhost
  obtain ⟨⟨port, hkind⟩, hreadScheme, -⟩ := scheme_spec hscheme
    ('/' :: '/' :: (host.toList ++ '/' :: (handle.toList ++ tail)))
  obtain ⟨url, hread, hhostText, hurlPath⟩ :=
    Url.read_special (hclean ▸ hreadScheme) hkind hname hreadHost nofun
  have hbody : ∀ c ∈ '/' :: handle.toList, c ≠ '#' ∧ c ≠ '?' := by
    intro c hc
    rcases List.mem_cons.1 hc with rfl | hc
    · decide
    · exact stays_inPath (hhandle.isHandleChar hc)
  -- The path is the handle, and what of the tail belongs to it
  have hpath : (Url.spanPath true ('/' :: (handle.toList ++ tail))).1 =
      '/' :: (handle.toList ++ (Url.spanPath true tail).1) := Url.spanPath_append true hbody tail
  rw [candidate_of_isProfileHost hread hhostText hprofile, Url.firstSegment?_eq hurlPath, hpath,
    head?_readSegments hhandle htail.spanPath_fst, Option.getD_some]

/-- From the address of a profile the handle is read, whatever follows it. -/
theorem read_address {scheme host handle : String} {tail : List Char}
    (hscheme : scheme ∈ ["http", "https"])
    (hhost : host ∈ ["x.com", "twitter.com", "www.x.com", "mobile.twitter.com"])
    (hhandle : IsHandle handle) (htail : Tail tail) :
    read (scheme ++ "://" ++ host ++ "/" ++ handle ++ String.ofList tail) = .ok handle := by
  let front := scheme.toList ++ ':' :: '/' :: '/' :: (host.toList ++ '/' :: handle.toList)
  have hfront : ∀ c ∈ front, isHandleChar c = true ∨ c = ':' ∨ c = '/' ∨ c = '.' := by
    intro c hc
    simp only [front, List.mem_append, List.mem_cons] at hc
    rcases hc with hc | rfl | rfl | rfl | hc | rfl | hc
    · exact .inl ((scheme_spec hscheme []).2.2 c hc)
    · simp
    · simp
    · simp
    · exact ((host_spec hhost).2.2.2 c hc).imp_right fun h => .inr (.inr h)
    · simp
    · exact .inl (hhandle.isHandleChar hc)
  have hne : front ≠ [] := by simp [front]
  obtain ⟨tail', htail', hclean⟩ :=
    htail.exists_clean hne fun c hc => stays_of_isHandleChar (hfront c hc)
  -- What is left behind the handle is such a tail again
  have htrim : Url.clean (trim (scheme ++ "://" ++ host ++ "/" ++ handle ++
      String.ofList tail)).toList = scheme.toList ++ ':' :: '/' :: '/' ::
        (host.toList ++ '/' :: (handle.toList ++ tail')) := by
    have hchars : (scheme ++ "://" ++ host ++ "/" ++ handle ++ String.ofList tail).toList =
        front ++ tail := by simp [front]
    rw [trim, String.toList_ofList, hchars, hclean]
    simp [front]
  refine read_eq_ok_iff.2 ⟨fun hempty => ?_,
    candidate_address hscheme hhost hhandle htail' htrim, hhandle⟩
  rw [hempty] at htrim
  simp [Url.clean, dropEndWhile] at htrim

/-- Only handles are read, and a handle is read as itself.  A text without a colon gives a handle
if it is one behind at signs, apart from the blanks around it.  The address of a profile gives its
handle, whatever follows it. -/
theorem read_grammar :
    (∀ text handle, read text = .ok handle → IsHandle handle ∧ read handle = .ok handle) ∧
    (∀ text handle, ':' ∉ text.toList → (read text = .ok handle ↔
      IsHandle handle ∧ ∃ n, trim text = String.ofList (List.replicate n '@') ++ handle)) ∧
    ∀ scheme ∈ ["http", "https"],
      ∀ host ∈ ["x.com", "twitter.com", "www.x.com", "mobile.twitter.com"],
      ∀ handle tail, IsHandle handle → Tail tail →
        read (scheme ++ "://" ++ host ++ "/" ++ handle ++ String.ofList tail) = .ok handle := by
  refine ⟨fun text handle h => ?_, fun text handle h => read_eq_ok_iff_of_notMem h,
    fun scheme hscheme host hhost handle tail => read_address hscheme hhost⟩
  obtain ⟨-, -, hhandle⟩ := read_eq_ok_iff.1 h
  exact ⟨hhandle, read_handle hhandle⟩

/-- A handle with all kinds of characters, behind at signs and blanks and in an address. -/
theorem read_grammar_jack :
    IsHandle "Jack_1" ∧ Tail "/status/20".toList ∧ read "Jack_1" = .ok "Jack_1" ∧
    read "\u3000@@Jack_1 \n" = .ok "Jack_1" ∧
    read "https://mobile.twitter.com/Jack_1/status/20" = .ok "Jack_1" := by
  have hhandle : IsHandle "Jack_1" := isHandle_iff.1 (by decide)
  have htail : Tail "/status/20".toList :=
    .further fun c hc => by
      have hall : "status/20".toList.all (fun c => isHandleChar c || c = '/') = true := by decide
      have hchar : isHandleChar c = true ∨ c = '/' := by simpa using List.all_eq_true.1 hall c hc
      exact hchar.imp isHandleChar_iff.1 .inr
  have hsigns : read "\u3000@@Jack_1 \n" = .ok "Jack_1" :=
    (read_grammar.2.1 _ _ (by decide)).2 ⟨hhandle, 2, by decide⟩
  have haddress :=
    read_grammar.2.2 "https" (by simp) "mobile.twitter.com" (by simp) _ _ hhandle htail
  -- The address is put together from its parts
  have htext : "https" ++ "://" ++ "mobile.twitter.com" ++ "/" ++ "Jack_1" ++
      String.ofList "/status/20".toList = "https://mobile.twitter.com/Jack_1/status/20" := by decide
  rw [htext] at haddress
  exact ⟨hhandle, htail, (read_grammar.1 _ _ hsigns).2, hsigns, haddress⟩

end TweetHarvest.Username
