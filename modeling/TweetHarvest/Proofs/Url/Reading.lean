import Mathlib.Data.List.TakeDrop
import TweetHarvest.Proofs.Outcome
import TweetHarvest.Proofs.Text.Ends
import TweetHarvest.Proofs.Text.Pieces
import TweetHarvest.Proofs.Url.Percent
import TweetHarvest.Url.Reader

/-!
# Reading addresses

What reading gives for an address under a special scheme that names a host and nothing else before
its path, and what every text that is read has in it.

## Key results

- `Url.colon_mem_of_read`: a URL has a colon
- `Url.readAuthority_host`: an authority that is nothing but a host
- `Url.resolveSegments_eq`: segments that are no dots stay as they are
- `Url.hierarchical_of_read`: what every URL under a special scheme has
- `Url.read_special`: reading an address
-/

namespace TweetHarvest.Url

/-! ## What is passed over -/

/-- Cleaning adds no characters. -/
theorem mem_of_mem_clean {s : List Char} {c : Char} (h : c ∈ clean s) : c ∈ s :=
  (List.dropWhile_sublist isC0OrSpace).subset
    (Text.mem_of_mem_dropEndWhile (List.mem_filter.1 h).1)

/-- With a part in front that stays, what is passed over is behind it. -/
theorem clean_append {a : List Char} (ha : a ≠ [])
    (h : ∀ c ∈ a, isC0OrSpace c = false ∧ isPassedOver c = false) (b : List Char) :
    clean (a ++ b) = a ++ (Text.dropEndWhile isC0OrSpace b).filter (!isPassedOver ·) := by
  have hfilter : a.filter (!isPassedOver ·) = a :=
    List.filter_eq_self.2 fun c hc => by simp [h c hc]
  rw [clean, Text.dropEnds_append ha (fun c hc => (h c hc).1), List.filter_append, hfilter]

/-! ## Schemes -/

/-- A scheme ends in a colon. -/
theorem colon_mem_of_readScheme? {s : List Char} {found : List Char × List Char}
    (h : readScheme? s = some found) : ':' ∈ s := by
  unfold readScheme? at h
  split at h
  · split at h
    · next scheme rest hspan =>
      rw [List.span_eq_takeWhile_dropWhile, Prod.mk.injEq] at hspan
      -- The colon is where the characters of the scheme end
      refine (List.dropWhile_sublist isSchemeChar).subset ?_
      rw [hspan.2]
      exact List.mem_cons_self ..
    · exact nomatch h
  · exact nomatch h

/-- A URL has a colon. -/
theorem colon_mem_of_read {text : String} {url : Url} (h : read text = .ok url) :
    ':' ∈ text.toList := by
  unfold read at h
  split at h
  · exact nomatch h
  · next scheme rest hscheme => exact mem_of_mem_clean (colon_mem_of_readScheme? hscheme)

/-- The scheme ends at the first colon. -/
theorem readScheme?_append {scheme : List Char} (hhead : scheme.head?.any Char.isAlpha = true)
    (hchars : scheme.all isSchemeChar = true) (hlower : scheme.map Char.toLower = scheme)
    (rest : List Char) : readScheme? (scheme ++ ':' :: rest) = some (scheme, rest) := by
  have hfirst : (scheme ++ ':' :: rest).head?.any Char.isAlpha = true := by
    cases scheme with
    | nil => exact nomatch hhead
    | cons c cs => exact hhead
  -- The colon is the first character that does not belong to a scheme
  have hspan : (scheme ++ ':' :: rest).span isSchemeChar = (scheme, ':' :: rest) := by
    have hall := List.all_eq_true.1 hchars
    have hcolon : ¬ isSchemeChar ':' = true := by decide
    rw [List.span_eq_takeWhile_dropWhile, List.takeWhile_append_of_pos hall,
      List.dropWhile_append_of_pos hall, List.takeWhile_cons_of_neg hcolon,
      List.dropWhile_cons_of_neg hcolon, List.append_nil]
  simp only [readScheme?, hfirst, hspan, hlower, if_true]

/-! ## Hosts -/

/-- The host ends where the path begins. -/
theorem spanHost_append {name : List Char}
    (h : ∀ c ∈ name, endsAuthority true c = false ∧ c ≠ ':' ∧ c ≠ '[') (rest : List Char) :
    spanHost true false (name ++ '/' :: rest) = (name, '/' :: rest) := by
  induction name with
  | nil => rfl
  | cons c cs ih =>
    obtain ⟨hends, hcolon, hbracket⟩ := h c (List.mem_cons_self ..)
    have hcs := ih fun d hd => h d (List.mem_cons_of_mem _ hd)
    simp [spanHost, hends, hcolon, hbracket, hcs]

/-- Without an at sign there is no user. -/
theorem readUserInfo_append {name : List Char}
    (h : ∀ c ∈ name, endsAuthority true c = false ∧ c ≠ '@') (rest : List Char) :
    readUserInfo true (name ++ '/' :: rest) = .ok (⟨[], none⟩, name ++ '/' :: rest) := by
  have hfront : (name ++ '/' :: rest).takeWhile (!endsAuthority true ·) = name := by
    rw [List.takeWhile_append_of_pos fun c hc => by simp [h c hc]]
    simp [endsAuthority, isSlash]
  have hat : name.contains '@' = false := by
    simpa using fun hmem => (h '@' hmem).2 rfl
  simp only [readUserInfo, hfront, splitLastAt, hat, Bool.false_eq_true, if_false]

/-- A text of which all is a host. -/
structure IsHostText (name : List Char) : Prop where
  nonempty : name ≠ []
  chars : ∀ c ∈ name, endsAuthority true c = false ∧ c ≠ ':' ∧ c ≠ '[' ∧ c ≠ '@'

/-- An authority that is nothing but a host. -/
theorem readAuthority_host {kind : SchemeKind} (hkind : kind.isSpecial = true)
    {name : List Char} (hname : IsHostText name) {host : Host} (hhost : readHost name = .ok host)
    (hne : host ≠ .empty) (rest : List Char) :
    readAuthority kind (name ++ '/' :: rest) = .ok (Authority.ofHost host, '/' :: rest) := by
  have huser := readUserInfo_append
    (fun c hc => ⟨(hname.chars c hc).1, (hname.chars c hc).2.2.2⟩) rest
  -- No port: the colon is not a character of the host
  have hspan := spanHost_append
    (fun c hc => ⟨(hname.chars c hc).1, (hname.chars c hc).2.1, (hname.chars c hc).2.2.1⟩) rest
  have hempty : name.isEmpty = false := by simpa using hname.nonempty
  simp [readAuthority, hkind, huser, hspan, hempty, hhost, hne, Authority.ofHost, UserInfo.text,
    bind, Except.bind, pure, Except.pure]

/-! ## Paths -/

/-- What has neither a dot nor a percent sign in it is no coded dot. -/
theorem isDot_eq_false {s : List Char} (hdot : '.' ∉ s) (hpercent : '%' ∉ s) :
    isDot s = false := by
  simp only [isDot, Bool.or_eq_false_iff, decide_eq_false_iff_not]
  refine ⟨⟨?_, ?_⟩, ?_⟩
  · rintro rfl
    exact hdot (by decide)
  all_goals
    rintro rfl
    exact hpercent (by decide)

/-- What has neither a dot nor a percent sign in it is no coded pair of dots. -/
theorem isDoubleDot_eq_false {s : List Char} (hdot : '.' ∉ s) (hpercent : '%' ∉ s) :
    isDoubleDot s = false := by
  have hhead : s.head? ≠ some '.' := fun h => hdot (List.mem_of_mem_head? h)
  have htake : isDot (s.take 3) = false :=
    isDot_eq_false (mt List.mem_of_mem_take hdot) (mt List.mem_of_mem_take hpercent)
  simp [isDoubleDot, hhead, htake]

/-- Segments that are no dots stay as they are. -/
theorem resolveSegments_eq {kind : SchemeKind} (hkind : kind ≠ .file)
    {segments : List (List Char)}
    (h : ∀ s ∈ segments, isDot s = false ∧ isDoubleDot s = false) (before : List (List Char)) :
    resolveSegments kind before segments = before ++ segments := by
  -- Drives are special to files alone
  have hdrive : ∀ before segment, normalizeDrive kind before segment = segment := by
    simp [normalizeDrive, hkind]
  induction segments generalizing before with
  | nil => simp [resolveSegments]
  | cons segment rest ih =>
    obtain ⟨hdot, hdouble⟩ := h segment (List.mem_cons_self ..)
    have hrest := ih fun s hs => h s (List.mem_cons_of_mem _ hs)
    cases rest with
    | nil => simp [resolveSegments, closePath, hdot, hdouble, hdrive]
    | cons next others => simp [resolveSegments, hdot, hdouble, hdrive, hrest]

/-- A character that stands for itself in a path, and neither divides segments nor is part of what
leads up. -/
structure IsPathChar (c : Char) : Prop where
  plain : Percent.encodeChar Percent.inPath c = [c]
  backslash : c ≠ '\\'
  dot : c ≠ '.'
  percent : c ≠ '%'

/-- The segments of a path of such characters are the texts between the slashes. -/
theorem readSegments_eq {kind : SchemeKind} (hkind : kind ≠ .file) {body : List Char}
    (h : ∀ c ∈ body, IsPathChar c ∨ c = '/') :
    readSegments kind ('/' :: body) = Text.splitOn '/' body := by
  -- There are no backslashes that could count as slashes
  have hslashes : (body.map fun c => if isSlash kind.isSpecial c then '/' else c) = body := by
    rw [List.map_congr_left (g := id), List.map_id]
    intro c hc
    rcases h c hc with hplain | rfl
    · by_cases hslash : c = '/' <;> simp [isSlash, hplain.backslash, hslash]
    · simp [isSlash]
  have hmem : ∀ s ∈ Text.splitOn '/' body, ∀ c ∈ s, IsPathChar c := by
    intro s hs c hc
    have hne : c ≠ '/' := by
      rintro rfl
      exact Text.not_mem_of_mem_splitOn hs hc
    exact (h c ((Text.mem_splitOn_iff hne).2 ⟨s, hs, hc⟩)).resolve_right hne
  -- Nothing needs to be encoded
  have hcoded : (Text.splitOn '/' body).map (Percent.encode Percent.inPath) =
      Text.splitOn '/' body := by
    rw [List.map_congr_left (g := id), List.map_id]
    intro s hs
    exact Percent.encode_eq_self fun c hc => (hmem s hs c hc).plain
  -- Without dots and percent signs, no segment leads up or stays
  have hdots : ∀ s ∈ Text.splitOn '/' body, isDot s = false ∧ isDoubleDot s = false := by
    intro s hs
    have hdot : '.' ∉ s := fun hc => (hmem s hs _ hc).dot rfl
    have hpercent : '%' ∉ s := fun hc => (hmem s hs _ hc).percent rfl
    exact ⟨isDot_eq_false hdot hpercent, isDoubleDot_eq_false hdot hpercent⟩
  have hfirst : isSlash kind.isSpecial '/' = true := rfl
  simp only [readSegments, trimFilePath, if_neg hkind, resolvedSegments, hfirst, if_true,
    splitSegments, hslashes, hcoded, resolveSegments_eq hkind hdots, List.nil_append]

/-- The path ends at the first question mark or number sign. -/
theorem spanPath_fst (special : Bool) (s : List Char) :
    (spanPath special s).1 = (s.takeWhile (· ≠ '#')).takeWhile (· ≠ '?') := by
  simp only [spanPath, List.span_eq_takeWhile_dropWhile]

/-- A part without question marks and number signs belongs to the path. -/
theorem spanPath_append (special : Bool) {body : List Char}
    (h : ∀ c ∈ body, c ≠ '#' ∧ c ≠ '?') (rest : List Char) :
    (spanPath special (body ++ rest)).1 = body ++ (spanPath special rest).1 := by
  have hnumber : ∀ c ∈ body, decide (c ≠ '#') = true := fun c hc => by simpa using (h c hc).1
  have hquestion : ∀ c ∈ body, decide (c ≠ '?') = true := fun c hc => by simpa using (h c hc).2
  rw [spanPath_fst, spanPath_fst, List.takeWhile_append_of_pos hnumber,
    List.takeWhile_append_of_pos hquestion]

/-- The first segment of a path of segments is the first of them. -/
theorem firstSegment?_eq {u : Url} {segments : List (List Char)} (h : u.path = .segments segments) :
    u.firstSegment? = segments.head? := by
  unfold firstSegment?
  rw [h]
  cases segments <;> rfl

/-! ## Addresses -/

/-- An address read with an authority has one, and a path of segments. -/
theorem readWithAuthority_eq_ok {scheme s : List Char} {url : Url}
    (h : readWithAuthority scheme s = .ok url) :
    url.authority.isSome = true ∧ url.isHierarchical = true := by
  obtain ⟨⟨authority, rest⟩, -, hurl⟩ := bind_eq_ok_iff.1 h
  cases hurl
  exact ⟨rfl, rfl⟩

/-- The address of a file has an authority, which may be empty, and a path of segments. -/
theorem readFile_eq_ok {scheme s : List Char} {url : Url} (h : readFile scheme s = .ok url) :
    url.authority.isSome = true ∧ url.isHierarchical = true := by
  unfold readFile at h
  -- However the host is found, the URL is put together in the same way
  extract_lets build at h
  have hbuild : ∀ found : Except UrlFault (Host × List Char), found >>= build = .ok url →
      url.authority.isSome = true ∧ url.isHierarchical = true := by
    intro found hfound
    obtain ⟨parts, -, hurl⟩ := bind_eq_ok_iff.1 hfound
    cases hurl
    exact ⟨rfl, rfl⟩
  split at h
  · split at h
    · extract_lets name at h
      split at h
      · exact hbuild _ h
      · obtain ⟨host, -, hhost⟩ := bind_eq_ok_iff.1 h
        exact hbuild _ hhost
    · exact hbuild _ h
  · exact hbuild _ h

/-- An address with any other scheme keeps it. -/
theorem scheme_of_readOther {scheme s : List Char} {url : Url}
    (h : readOther scheme s = .ok url) : url.scheme = scheme := by
  unfold readOther at h
  split at h
  · obtain ⟨⟨authority, rest⟩, -, hurl⟩ := bind_eq_ok_iff.1 h
    cases hurl
    rfl
  · cases h
    rfl
  · cases h
    rfl

/-- A URL under a special scheme has an authority, and its path is divided. -/
theorem hierarchical_of_read {text : String} {url : Url} (h : read text = .ok url)
    (hkind : url.kind ≠ .other) : url.authority.isSome = true ∧ url.isHierarchical = true := by
  unfold read at h
  split at h
  · exact nomatch h
  · next scheme rest _ =>
    split at h
    · exact readFile_eq_ok h
    · exact readWithAuthority_eq_ok h
    · next hother => exact absurd ((congrArg schemeKind (scheme_of_readOther h)).trans hother) hkind

/-- Reading an address that names a host and nothing else before its path. -/
theorem read_special {text : String} {scheme name rest : List Char} {port : Nat} {host : Host}
    (hscheme : readScheme? (clean text.toList) = some (scheme, '/' :: '/' :: (name ++ '/' :: rest)))
    (hkind : schemeKind scheme = .special port) (hname : IsHostText name)
    (hhost : readHost name = .ok host) (hne : host ≠ .empty) :
    ∃ url, read text = .ok url ∧ url.hostText? = some host.text ∧
      url.path = .segments (readSegments (.special port) (spanPath true ('/' :: rest)).1) := by
  have hspecial : SchemeKind.isSpecial (.special port) = true := rfl
  -- The slashes end where the host begins
  have hslashes : ('/' :: '/' :: (name ++ '/' :: rest)).dropWhile (isSlash true) =
      name ++ '/' :: rest := by
    obtain ⟨c, cs, rfl⟩ := List.exists_cons_of_ne_nil hname.nonempty
    have hends := (hname.chars c (List.mem_cons_self ..)).1
    simp only [endsAuthority, Bool.or_eq_false_iff] at hends
    rw [List.dropWhile_cons_of_pos rfl, List.dropWhile_cons_of_pos rfl, List.cons_append,
      List.dropWhile_cons_of_neg (by simp [hends.1.1])]
  have hauthority := readAuthority_host hspecial hname hhost hne rest
  let parts := spanPath true ('/' :: rest)
  refine ⟨⟨scheme, some (Authority.ofHost host),
    .segments (readSegments (.special port) parts.1), parts.2.1, parts.2.2⟩, ?_, if_neg hne, rfl⟩
  simp only [read, hscheme, hkind, hslashes, readWithAuthority, hauthority, bind, Except.bind,
    hspecial, Bool.not_true, Bool.and_false, Bool.false_eq_true, if_false]
  rfl

end TweetHarvest.Url
