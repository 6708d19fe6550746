import Mathlib.Data.List.Forall2
import TweetHarvest.Proofs.Text.Octets
import TweetHarvest.Proofs.Text.Pieces
import TweetHarvest.Proofs.Url.Percent
import TweetHarvest.Url.Basic

/-!
# Adding segments to a path

A name that is added to the path of a URL under HTTP becomes one segment, from which decoding gives
the name back; not so the names that are dots, and those with a tab or a line break in them.  What
becomes of a path is told name by name: no name adds more than one segment, so if there are as many
new segments as names, each name has added one.

## Key results

- `Url.spells_coded`: the segment of a plain name
- `Url.addSegment_of_isPlain`: what a plain name adds
- `Url.exists_of_length_addSegment`: which names add a segment that spells them
- `Url.addSegments_eq_iff`: the same for a list of names
- `Url.extend_path_iff`, `Url.extend_target_inj`: what becomes of the path of a URL
-/

namespace TweetHarvest.Url

/-- A name that can be one segment: it is no dot, no two dots, and has no tab and no line break. -/
structure IsPlain (name : String) : Prop where
  dot : name ≠ "."
  twoDots : name ≠ ".."
  tab : '\t' ∉ name.toList
  lineFeed : '\n' ∉ name.toList
  carriageReturn : '\r' ∉ name.toList

instance (name : String) : Decidable (IsPlain name) :=
  decidable_of_iff (name ≠ "." ∧ name ≠ ".." ∧ '\t' ∉ name.toList ∧ '\n' ∉ name.toList ∧
      '\r' ∉ name.toList)
    ⟨fun ⟨dot, twoDots, tab, lineFeed, carriageReturn⟩ =>
      ⟨dot, twoDots, tab, lineFeed, carriageReturn⟩,
    fun h => ⟨h.dot, h.twoDots, h.tab, h.lineFeed, h.carriageReturn⟩⟩

/-- A segment that stands for a name: decoding gives the octets of the name, no character of it ends
the segment, and it does not lead anywhere else. -/
structure Spells (segment : List Char) (name : String) : Prop where
  octets : Percent.decode segment = Utf8.encode name.toList
  undivided : ∀ c ∈ segment, c ≠ '/' ∧ c ≠ '\\' ∧ c ≠ '?' ∧ c ≠ '#'
  dot : isDot segment = false
  twoDots : isDoubleDot segment = false

/-! ## The segment of a name -/

/-- A name as a segment under a special scheme. -/
def coded (name : List Char) : List Char := Percent.encode (Percent.inSegment true) name

/-- A coded name is decoded to the octets of the name. -/
theorem decode_coded (name : List Char) : Percent.decode (coded name) = Utf8.encode name :=
  Percent.decode_encode rfl name

/-- Different names are coded differently. -/
theorem coded_inj {name name' : List Char} : coded name = coded name' ↔ name = name' := by
  refine ⟨fun h => ?_, fun h => h ▸ rfl⟩
  have hoctets := congrArg Percent.decode h
  rwa [decode_coded, decode_coded, Utf8.encode_inj] at hoctets

/-- Whichever way a dot is written, it is decoded as one. -/
theorem decode_of_isDot {s : List Char} (h : isDot s = true) (rest : List Char) :
    Percent.decode (s ++ rest) = 46 :: Percent.decode rest := by
  simp only [isDot, Bool.or_eq_true, decide_eq_true_eq] at h
  rcases h with (rfl | rfl) | rfl
  · exact Percent.decode_cons (by decide) rest
  · rfl
  · rfl

/-- However two dots are coded, they are decoded to two dots. -/
theorem decode_of_isDoubleDot {s : List Char} (h : isDoubleDot s = true) :
    Percent.decode s = [46, 46] := by
  simp only [isDoubleDot, Bool.or_eq_true, Bool.and_eq_true, decide_eq_true_eq] at h
  -- The first of the two dots stands for itself, or it is coded
  rcases h with ⟨hhead, htail⟩ | ⟨⟨hfront, -⟩, hback⟩
  · cases s with
    | nil => exact nomatch hhead
    | cons c cs =>
      obtain rfl := Option.some.inj hhead
      have hrest := decode_of_isDot htail []
      rw [List.append_nil] at hrest
      rw [Percent.decode_cons (by decide), show Percent.decode cs = _ from hrest]
      rfl
  · have hrest := decode_of_isDot hback []
    rw [List.append_nil] at hrest
    rw [← List.take_append_drop 3 s, decode_of_isDot hfront, hrest]
    rfl

/-- Only a dot is encoded as one. -/
theorem isDot_coded {name : List Char} : isDot (coded name) = true ↔ name = ['.'] := by
  constructor
  · intro h
    have hoctets := decode_of_isDot h []
    rw [List.append_nil, decode_coded] at hoctets
    exact Utf8.encode_inj.1 hoctets
  · rintro rfl
    rfl

/-- Of all names, only two dots are coded as two dots. -/
theorem isDoubleDot_coded {name : List Char} :
    isDoubleDot (coded name) = true ↔ name = ['.', '.'] := by
  constructor
  · intro h
    have hoctets := decode_of_isDoubleDot h
    rw [decode_coded] at hoctets
    exact Utf8.encode_inj.1 hoctets
  · rintro rfl
    rfl

/-- The characters of segments divide nothing. -/
theorem undivided_coded {name : List Char} {c : Char} (h : c ∈ coded name) :
    c ≠ '/' ∧ c ≠ '\\' ∧ c ≠ '?' ∧ c ≠ '#' := by
  have hdigit : ∀ d < 16, Hex.upper d ≠ '/' ∧ Hex.upper d ≠ '\\' ∧ Hex.upper d ≠ '?' ∧
      Hex.upper d ≠ '#' := by decide
  -- A character that is kept, a percent sign, or one of the two digits behind it
  rcases Percent.mem_encode h with h | rfl | ⟨d, hd, rfl⟩
  · refine ⟨?_, ?_, ?_, ?_⟩
    all_goals
      rintro rfl
      exact absurd h (by decide)
  · decide
  · exact hdigit d hd

/-- The segment of a plain name spells it. -/
theorem spells_coded {name : String} (h : IsPlain name) : Spells (coded name.toList) name where
  octets := decode_coded _
  undivided _ := undivided_coded
  dot := by
    rw [← Bool.not_eq_true, isDot_coded]
    exact fun hname => h.dot (String.toList_inj.1 hname)
  twoDots := by
    rw [← Bool.not_eq_true, isDoubleDot_coded]
    exact fun hname => h.twoDots (String.toList_inj.1 hname)

/-! ## What a name adds -/

section Adding

variable {port : Nat} {segments : List (List Char)}

/-- What a name adds under a special scheme: dots add nothing, and what is left of other names may
still turn out to be dots. -/
theorem addSegment_special (name : List Char) :
    addSegment (.special port) segments name =
      let before := if segments = [[]] then [] else segments
      let kept := name.filter (!isPassedOver ·)
      if name = ['.'] ∨ name = ['.', '.'] then segments
      else if kept = ['.', '.'] then popSegment before ++ [[]]
      else if kept = ['.'] then before ++ [[]]
      else before ++ [coded kept] := by
  have hcoded : Percent.encode (Percent.inSegment (SchemeKind.special port).isSpecial) =
      coded := rfl
  -- Drives and leading slashes only matter to files
  have htrim : ∀ s, trimFilePath (.special port) s = s := fun s => if_neg nofun
  have hdrive : ∀ before s, normalizeDrive (.special port) before s = s :=
    fun before s => if_neg (by simp)
  simp only [addSegment, hcoded, htrim, closePath, hdrive, isDoubleDot_coded, isDot_coded,
    Bool.or_eq_true, decide_eq_true_eq]

/-- A name is plain if it is no dots and nothing of it is passed over. -/
theorem isPlain_iff {name : String} :
    IsPlain name ↔ ¬(name.toList = ['.'] ∨ name.toList = ['.', '.']) ∧
      name.toList.filter (!isPassedOver ·) = name.toList := by
  rw [List.filter_eq_self]
  constructor
  · intro h
    refine ⟨?_, fun c hc => ?_⟩
    · rintro (hname | hname)
      · exact h.dot (String.toList_inj.1 hname)
      · exact h.twoDots (String.toList_inj.1 hname)
    · have htab : c ≠ '\t' := fun hc' => h.tab (hc' ▸ hc)
      have hfeed : c ≠ '\n' := fun hc' => h.lineFeed (hc' ▸ hc)
      have hreturn : c ≠ '\r' := fun hc' => h.carriageReturn (hc' ▸ hc)
      simp [isPassedOver, htab, hfeed, hreturn]
  · rintro ⟨hdots, hkept⟩
    rw [not_or] at hdots
    -- What is passed over would be missing in what is kept
    have hnotMem : ∀ c, isPassedOver c = true → c ∉ name.toList := fun c hc hmem => by
      simpa [hc] using hkept c hmem
    exact {
      dot := fun h => hdots.1 (h ▸ rfl)
      twoDots := fun h => hdots.2 (h ▸ rfl)
      tab := hnotMem _ rfl
      lineFeed := hnotMem _ rfl
      carriageReturn := hnotMem _ rfl }

/-- A plain name adds its segment. -/
theorem addSegment_of_isPlain {name : String} (h : IsPlain name) :
    addSegment (.special port) segments name.toList =
      (if segments = [[]] then [] else segments) ++ [coded name.toList] := by
  obtain ⟨hdots, hkept⟩ := isPlain_iff.1 h
  rw [addSegment_special, hkept]
  rw [not_or] at hdots
  simp [hdots]

/-- Taking a segment away adds none. -/
theorem length_popSegment_le (s : List (List Char)) : (popSegment s).length ≤ s.length := by
  unfold popSegment
  split
  · exact Nat.zero_le _
  · split
    · exact Nat.le_refl _
    · simp

/-- Going up takes a segment away, or leaves all as it is. -/
theorem popSegment_eq_self {s : List (List Char)} (h : s.length ≤ (popSegment s).length) :
    popSegment s = s := by
  unfold popSegment at h ⊢
  split at h
  · next hlast => rw [List.getLast?_eq_none_iff.1 hlast]
  · next last hlast =>
    split at h
    · next hdrive => rw [if_pos hdrive]
    -- Taking a segment away would make the path shorter
    · have hpos : s ≠ [] := by
        rintro rfl
        exact nomatch hlast
      have hlength := List.length_pos_iff.2 hpos
      rw [List.length_dropLast] at h
      omega

/-- No name adds more than one segment. -/
theorem length_addSegment_le (name : List Char) :
    (addSegment (.special port) segments name).length ≤ segments.length + 1 := by
  have hbefore : (if segments = [[]] then [] else segments).length ≤ segments.length := by
    split
    · exact Nat.zero_le _
    · exact Nat.le_refl _
  -- Two dots that turn up late take a segment away before they add one
  have hpop := length_popSegment_le (if segments = [[]] then [] else segments)
  rw [addSegment_special]
  dsimp only
  split
  · exact Nat.le_succ _
  · split
    · rw [List.length_append, List.length_singleton]
      omega
    · split <;> rw [List.length_append, List.length_singleton] <;> omega

/-- An empty segment spells nothing but the empty name. -/
theorem eq_nil_of_spells_nil {name : String} (h : Spells [] name) : name.toList = [] :=
  Utf8.encode_inj.1 h.octets.symm

/-- A name that adds a segment keeps those in front of it; if the segment spells it, the name is
plain. -/
theorem exists_of_length_addSegment (hne : segments ≠ [[]]) {name : String}
    (h : (addSegment (.special port) segments name.toList).length = segments.length + 1) :
    ∃ s, addSegment (.special port) segments name.toList = segments ++ [s] ∧
      (Spells s name → IsPlain name) := by
  rw [addSegment_special] at h ⊢
  simp only [if_neg hne] at h ⊢
  split at h
  · omega
  · next hdots =>
    rw [if_neg hdots]
    -- An empty segment does not spell a name of which something is kept
    have hempty : name.toList.filter (!isPassedOver ·) ≠ [] → Spells [] name → IsPlain name := by
      intro hkept hspells
      rw [eq_nil_of_spells_nil hspells] at hkept
      exact absurd rfl hkept
    split at h
    · next hkept =>
      rw [List.length_append, List.length_singleton] at h
      rw [if_pos hkept, popSegment_eq_self (by omega)]
      exact ⟨[], rfl, hempty (by simp [hkept])⟩
    · next htwoDots =>
      rw [if_neg htwoDots]
      split
      · next hkept => exact ⟨[], rfl, hempty (by simp [hkept])⟩
      · refine ⟨_, rfl, fun hspells => isPlain_iff.2 ⟨hdots, ?_⟩⟩
        have hoctets := hspells.octets
        rwa [decode_coded, Utf8.encode_inj] at hoctets

/-! ## What names add -/

/-- The path behind which names have been added one by one. -/
def addSegments (port : Nat) (start : List (List Char)) (names : List String) :
    List (List Char) :=
  names.foldl (fun path name => addSegment (.special port) path name.toList) start

/-- The first name is added first. -/
theorem addSegments_cons (name : String) (names : List String) :
    addSegments port segments (name :: names) =
      addSegments port (addSegment (.special port) segments name.toList) names := rfl

/-- Each name adds one segment at most. -/
theorem length_addSegments_le (names : List String) (segments : List (List Char)) :
    (addSegments port segments names).length ≤ segments.length + names.length := by
  induction names generalizing segments with
  | nil => exact Nat.le_refl _
  | cons name names ih =>
    have hfirst : (addSegment (.special port) segments name.toList).length ≤ segments.length + 1 :=
      length_addSegment_le _
    have hrest := ih (addSegment (.special port) segments name.toList)
    rw [addSegments_cons, List.length_cons]
    omega

/-- With one more segment there is more than an empty one. -/
theorem append_singleton_ne (hpos : segments ≠ []) (s : List Char) : segments ++ [s] ≠ [[]] := by
  intro h
  have hlength := congrArg List.length h
  have := List.length_pos_iff.2 hpos
  rw [List.length_append, List.length_singleton, List.length_singleton] at hlength
  omega

/-- Plain names add their segments. -/
theorem addSegments_of_isPlain (hpos : segments ≠ []) (hne : segments ≠ [[]])
    {names : List String} (h : ∀ name ∈ names, IsPlain name) :
    addSegments port segments names = segments ++ names.map (coded ·.toList) := by
  induction names generalizing segments with
  | nil => exact (List.append_nil _).symm
  | cons name names ih =>
    rw [List.forall_mem_cons] at h
    rw [addSegments_cons, addSegment_of_isPlain h.1, if_neg hne,
      ih (by simp) (append_singleton_ne hpos _) h.2, List.map_cons, List.append_assoc,
      List.singleton_append]

/-- The segments of plain names spell them. -/
theorem forall₂_spells_coded {names : List String} (h : ∀ name ∈ names, IsPlain name) :
    List.Forall₂ Spells (names.map (coded ·.toList)) names := by
  rw [List.forall₂_map_left_iff, List.forall₂_same]
  exact fun name hname => spells_coded (h name hname)

/-- Names add segments that spell them behind a path of the same length, or a longer one, just if it
is that path and the names are plain. -/
theorem addSegments_eq_iff (hpos : segments ≠ []) (hne : segments ≠ [[]])
    {stem : List (List Char)} (hlength : segments.length ≤ stem.length) {names : List String} :
    (∃ added, addSegments port segments names = stem ++ added ∧ List.Forall₂ Spells added names) ↔
      segments = stem ∧ ∀ name ∈ names, IsPlain name := by
  constructor
  · rintro ⟨added, hadded, hspells⟩
    induction hspells generalizing segments stem with
    | nil => exact ⟨by simpa [addSegments] using hadded, by simp⟩
    | @cons s name added names hs hnames ih =>
      rw [addSegments_cons] at hadded
      -- As many segments come to be as there are names, so the first name has added one
      have htotal := congrArg List.length hadded
      have hrest : (addSegments port (addSegment (.special port) segments name.toList) names).length
          ≤ _ := length_addSegments_le names _
      have hfirst : (addSegment (.special port) segments name.toList).length ≤
          segments.length + 1 := length_addSegment_le _
      rw [List.length_append, List.length_cons, hnames.length_eq] at htotal
      have hgrows : (addSegment (.special port) segments name.toList).length =
          segments.length + 1 := by omega
      obtain ⟨s', hs', hplain⟩ := exists_of_length_addSegment hne hgrows
      rw [hs'] at hadded
      have hlength' : (segments ++ [s']).length ≤ (stem ++ [s]).length := by simpa using hlength
      obtain ⟨hfront, hallPlain⟩ :=
        ih (by simp) (append_singleton_ne hpos s') hlength' (by simpa using hadded)
      obtain ⟨rfl, hsame⟩ := List.append_inj' hfront rfl
      rw [List.singleton_inj] at hsame
      exact ⟨rfl, List.forall_mem_cons.2 ⟨hplain (hsame ▸ hs), hallPlain⟩⟩
  · rintro ⟨rfl, hplain⟩
    exact ⟨_, addSegments_of_isPlain hpos hne hplain, forall₂_spells_coded hplain⟩

end Adding

/-! ## Longer URLs -/

/-- The segments of the path, none if it is not divided. -/
def segments (u : Url) : List (List Char) :=
  match u.path with
  | .segments segments => segments
  | .undivided _ => []

/-- The segments of the path without an empty one at its end. -/
def stem (u : Url) : List (List Char) :=
  if u.segments.getLast? = some [] then u.segments.dropLast else u.segments

/-- What the first name is put behind: of two empty segments none is left. -/
def trunk (u : Url) : List (List Char) :=
  if dropEmptyLast u.segments = [[]] then [] else dropEmptyLast u.segments

/-- An empty segment behind others is left away. -/
theorem dropEmptyLast_append {front : List (List Char)} (h : front ≠ []) :
    dropEmptyLast (front ++ [[]]) = front := by
  simp [dropEmptyLast, List.length_pos_iff.2 h]

/-- Where no empty segment stands at the end, nothing is dropped. -/
theorem dropEmptyLast_eq_self {segments : List (List Char)} (h : segments.getLast? ≠ some []) :
    dropEmptyLast segments = segments := by
  simp [dropEmptyLast, h]

/-- Only of a path of two slashes the trunk is not the stem. -/
theorem trunk_eq_stem_iff {u : Url} : u.trunk = u.stem ↔ u.segments ≠ [[], []] := by
  unfold trunk stem
  by_cases hlast : u.segments.getLast? = some []
  · obtain ⟨front, hfront⟩ := List.getLast?_eq_some_iff.1 hlast
    rw [if_pos hlast, hfront, List.dropLast_concat]
    -- The empty segment at the end is dropped, unless it is the only one
    rcases eq_or_ne front [] with rfl | hne
    · simp [dropEmptyLast]
    · rw [dropEmptyLast_append hne, show [[], []] = [[]] ++ [([] : List Char)] from rfl, ne_eq,
        List.append_cancel_right_eq]
      split
      · next h => simp [h]
      · next h => simp [h]
  · have hne : u.segments ≠ [[]] := fun h => hlast (h ▸ rfl)
    have hne' : u.segments ≠ [[], []] := fun h => hlast (h ▸ rfl)
    simp [dropEmptyLast_eq_self hlast, hlast, hne, hne']

/-- The trunk is no longer than the stem. -/
theorem length_trunk_le (u : Url) : u.trunk.length ≤ u.stem.length := by
  by_cases h : u.segments = [[], []]
  · have htrunk : u.trunk = [] := by simp [trunk, dropEmptyLast, h]
    rw [htrunk]
    exact Nat.zero_le _
  · exact Nat.le_of_eq (congrArg List.length (trunk_eq_stem_iff.2 h))

/-- The text of segments is divided where they are. -/
theorem splitOn_append_segmentsText {s : List Char} {segments : List (List Char)} (hs : '/' ∉ s)
    (h : ∀ t ∈ segments, '/' ∉ t) :
    Text.splitOn '/' (s ++ segmentsText segments) = s :: segments := by
  induction segments generalizing s with
  | nil => rw [segmentsText, List.flatMap_nil, List.append_nil, Text.splitOn_of_not_mem hs]
  | cons next others ih =>
    rw [List.forall_mem_cons] at h
    rw [segmentsText, List.flatMap_cons, List.cons_append, Text.splitOn_append_sep,
      Text.splitOn_of_not_mem hs, List.singleton_append]
    exact congrArg (s :: ·) (ih h.1 h.2)

/-- Segments without slashes can be told from the text of the path. -/
theorem segmentsText_inj {segments segments' : List (List Char)} (h : ∀ s ∈ segments, '/' ∉ s)
    (h' : ∀ s ∈ segments', '/' ∉ s) (hsame : segmentsText segments = segmentsText segments') :
    segments = segments' := by
  have hpieces := congrArg (fun text => Text.splitOn '/' ([] ++ text)) hsame
  simp only [splitOn_append_segmentsText List.not_mem_nil h,
    splitOn_append_segmentsText List.not_mem_nil h'] at hpieces
  exact (List.cons.inj hpieces).2

/-- No slash stands in coded names. -/
theorem forall_slash_notMem_coded (names : List String) :
    ∀ s ∈ names.map (coded ·.toList), '/' ∉ s := by
  intro s hs hslash
  obtain ⟨name, -, rfl⟩ := List.mem_map.1 hs
  exact (undivided_coded hslash).1 rfl

/-- Nothing but the path is changed. -/
theorem extend_eq (u : Url) (names : List String) :
    u.extend names = { u with path := (u.extend names).path } := by
  unfold extend
  split <;> rfl

/-- A URL that names a host under a special scheme other than that of files. -/
structure IsAddress (u : Url) (port : Nat) : Prop where
  kind : u.kind = .special port
  host : u.authority.isSome
  path : u.path = .segments u.segments

section IsAddress

variable {u : Url} {port : Nat} {first : String} {names : List String}

/-- The path of a longer URL. -/
theorem extend_path (h : u.IsAddress port) (hfirst : IsPlain first) :
    (u.extend (first :: names)).path =
      .segments (addSegments port (u.trunk ++ [coded first.toList]) names) := by
  -- With a host, a path of two slashes is written as it is
  have hdotted : (u.authority.isNone && u.segments = [[], []]) = false := by
    rw [← Option.not_isSome, h.host]
    rfl
  have htrunk : addSegment (.special port) (dropEmptyLast u.segments) first.toList = _ :=
    addSegment_of_isPlain hfirst
  unfold extend
  rw [h.path]
  simp only [h.kind, hdotted, Bool.false_eq_true, if_false, List.foldl_cons, htrunk]
  rfl

/-- The path has something in it before the second name is added. -/
theorem trunk_append_ne (hfirst : first ≠ "") : u.trunk ++ [coded first.toList] ≠ [[]] := by
  intro h
  have hlast := congrArg List.getLast? h
  rw [List.getLast?_concat] at hlast
  have hcoded : coded first.toList = coded [] := Option.some.inj hlast
  exact hfirst (String.toList_inj.1 (coded_inj.1 hcoded))

/-- The path of a URL with plain names at its end. -/
theorem extend_path_of_isPlain (h : u.IsAddress port) (hne : first ≠ "")
    (hplain : ∀ name ∈ first :: names, IsPlain name) :
    (u.extend (first :: names)).path =
      .segments (u.trunk ++ (first :: names).map (coded ·.toList)) := by
  rw [List.forall_mem_cons] at hplain
  rw [extend_path h hplain.1, addSegments_of_isPlain (by simp) (trunk_append_ne hne) hplain.2,
    ← List.append_cons, List.map_cons]

/-- The segments behind those of a URL spell the names just if these are plain; a URL of which the
path is two slashes loses one of them. -/
theorem extend_path_iff (h : u.IsAddress port) (hfirst : IsPlain first) (hne : first ≠ "") :
    (∃ added, (u.extend (first :: names)).path = .segments (u.stem ++ added) ∧
      List.Forall₂ Spells added (first :: names)) ↔
      u.segments ≠ [[], []] ∧ ∀ name ∈ names, IsPlain name := by
  rw [← trunk_eq_stem_iff]
  constructor
  · rintro ⟨added, hadded, hspells⟩
    cases hspells with
    | @cons s _ added _ hs hnames =>
      rw [extend_path h hfirst, UrlPath.segments.injEq, List.append_cons u.stem s added] at hadded
      -- The trunk is no longer than the stem, so nothing can be lost behind the first name
      have hlength : (u.trunk ++ [coded first.toList]).length ≤ (u.stem ++ [s]).length := by
        simpa using length_trunk_le u
      obtain ⟨hsame, hplain⟩ := (addSegments_eq_iff (by simp) (trunk_append_ne hne) hlength).1
        ⟨added, hadded, hnames⟩
      exact ⟨(List.append_inj' hsame rfl).1, hplain⟩
  · rintro ⟨hsame, hplain⟩
    -- Plain names are added as they are, each as a segment of its own
    have hall := List.forall_mem_cons.2 ⟨hfirst, hplain⟩
    exact ⟨_, hsame ▸ extend_path_of_isPlain h hne hall, forall₂_spells_coded hall⟩

/-- Different plain names are requested in different ways. -/
theorem extend_target_inj (h : u.IsAddress port) (hne : first ≠ "") {names' : List String}
    (hplain : ∀ name ∈ first :: names, IsPlain name)
    (hplain' : ∀ name ∈ first :: names', IsPlain name)
    (hsame : (u.extend (first :: names)).target = (u.extend (first :: names')).target) :
    names = names' := by
  -- In front of the new segments and behind them the two are the same
  have htext := String.ofList_injective hsame
  rw [extend_eq u, extend_eq u (first :: names')] at htext
  dsimp only at htext
  rw [extend_path_of_isPlain h hne hplain, extend_path_of_isPlain h hne hplain'] at htext
  have hsegments := List.append_cancel_right htext
  simp only [pathText, Bool.not_true, Bool.false_and, Bool.false_eq_true, if_false, segmentsText,
    List.flatMap_append, List.append_cancel_left_eq] at hsegments
  have hcoded :=
    segmentsText_inj (forall_slash_notMem_coded _) (forall_slash_notMem_coded _) hsegments
  have hinjective : Function.Injective fun name : String => coded name.toList :=
    fun _ _ heq => String.toList_inj.1 (coded_inj.1 heq)
  exact (List.cons.inj (List.map_injective_iff.2 hinjective hcoded)).2

/-- The URL with a slash at its end. -/
def withSlash (u : Url) : Url := { u with path := .segments (u.segments ++ [[]]) }

/-- A slash behind a base that does not end in one leaves its trunk as it is. -/
theorem trunk_withSlash (hlast : u.segments.getLast? ≠ some []) : u.withSlash.trunk = u.trunk := by
  have hsegments : u.withSlash.segments = u.segments ++ [[]] := rfl
  unfold trunk
  rw [hsegments, dropEmptyLast_eq_self hlast]
  rcases eq_or_ne u.segments [] with hnil | hne
  · simp [hnil, dropEmptyLast]
  · rw [dropEmptyLast_append hne]

/-- A slash at the end makes no difference. -/
theorem extend_withSlash (h : u.IsAddress port) (hlast : u.segments.getLast? ≠ some [])
    (hfirst : IsPlain first) : u.withSlash.extend (first :: names) = u.extend (first :: names) := by
  have hslash : u.withSlash.IsAddress port := ⟨h.kind, h.host, rfl⟩
  have hpath : (u.withSlash.extend (first :: names)).path = (u.extend (first :: names)).path := by
    rw [extend_path hslash hfirst, extend_path h hfirst, trunk_withSlash hlast]
  rw [extend_eq, hpath, extend_eq u]
  rfl

end IsAddress

end TweetHarvest.Url
