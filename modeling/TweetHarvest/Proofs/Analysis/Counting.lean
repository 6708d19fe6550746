import TweetHarvest.Proofs.Analysis.Confinement
import TweetHarvest.Proofs.Text.Octets
import TweetHarvest.Proofs.Text.Pieces

/-!
# What is counted in a file

Lines and words are made by splitting; their numbers are those of certain positions.  Each line feed
ends a line, and each word has a place where it starts.  Splitting goes through a text from its front,
so a word is recognized where it starts by what stands in front of it, which the induction carries
along.

## Key results

- `Text.length_lines`: the line feeds, and the end of a text that does not end in one
- `Text.length_words`: the places where words start
- `Statistics.ofChars_append`: the statistics of two texts with a line feed in between
- `Analysis.analyze_counts`: what is told of a file is told of one decoding of its octets
-/

namespace TweetHarvest

namespace Text

/-! ## Lines -/

section Pieces

variable {α : Type} [DecidableEq α]

/-- There is one piece more than there are separators. -/
theorem length_splitOn (sep : α) (s : List α) : (splitOn sep s).length = s.count sep + 1 := by
  induction s with
  | nil => rfl
  | cons c cs ih =>
    rw [splitOn]
    -- A separator starts a piece, another character goes to the piece that is there
    by_cases hc : c = sep
    · rw [if_pos hc, List.length_cons, ih, hc, List.count_cons_self]
    · rw [if_neg hc, List.count_cons_of_ne hc, ← ih]
      cases hcs : splitOn sep cs with
      | nil => exact absurd hcs (splitOn_ne_nil sep cs)
      | cons piece rest => rfl

/-- The last piece is empty if the text is, or if the text ends in a separator. -/
theorem getLast?_splitOn_eq_nil_iff (sep : α) (s : List α) :
    (splitOn sep s).getLast? = some [] ↔ ∀ c ∈ s.getLast?, c = sep := by
  constructor
  · intro h c hc
    obtain ⟨front, hfront⟩ := List.getLast?_eq_some_iff.1 h
    -- The text is its pieces joined, so with an empty one at the end it ends in a separator
    have hs := joinWith_splitOn sep s
    rw [hfront] at hs
    by_cases hnil : front = []
    · rw [← hs, hnil] at hc
      exact nomatch hc
    · rw [joinWith_append hnil (List.cons_ne_nil _ _)] at hs
      rw [← hs, joinWith, List.getLast?_concat] at hc
      exact (Option.some.inj hc).symm
  · intro h
    cases hs : s.getLast? with
    | none =>
      rw [List.getLast?_eq_none_iff.1 hs]
      rfl
    | some c =>
      obtain ⟨front, rfl⟩ := List.getLast?_eq_some_iff.1 hs
      rw [h c hs, splitOn_append_sep]
      exact List.getLast?_concat ..

end Pieces

/-- The number of lines: each line feed ends one, and so does the end of a text that is not empty and
does not end in a line feed. -/
theorem length_lines (s : List Char) :
    (lines s).length = s.count '\n' + if s ≠ [] ∧ s.getLast? ≠ some '\n' then 1 else 0 := by
  obtain ⟨front, last, hpieces⟩ : ∃ front last, splitOn '\n' s = front ++ [last] :=
    ⟨_, _, (List.dropLast_concat_getLast (splitOn_ne_nil '\n' s)).symm⟩
  have hlength : front.length = s.count '\n' := by
    simpa [hpieces] using length_splitOn '\n' s
  -- The last piece counts as a line unless it is empty
  have hends : last = [] ↔ ¬ (s ≠ [] ∧ s.getLast? ≠ some '\n') := by
    have hlast := getLast?_splitOn_eq_nil_iff '\n' s
    rw [hpieces, List.getLast?_concat, Option.some.injEq] at hlast
    rw [hlast]
    cases hs : s.getLast? with
    | none => simp [List.getLast?_eq_none_iff.1 hs]
    | some c =>
      have hne : s ≠ [] := by rintro rfl; exact nomatch hs
      simp [hne]
  have hlines : lines s = front.map dropReturn ++ [last].filter (!·.isEmpty) := by
    rw [lines, hpieces, List.dropLast_concat, List.getLast?_concat]
    rfl
  -- Every piece but the last ends in a line feed, and is a line
  rw [hlines, List.length_append, List.length_map, hlength]
  congr 1
  by_cases hempty : last = []
  · rw [hempty, if_neg (hends.1 hempty)]
    rfl
  · rw [if_pos (not_not.1 (mt hends.2 hempty)), List.filter_cons_of_pos (by simpa using hempty)]
    rfl

/-- A line feed divides the lines of a text. -/
theorem lines_append (a b : List Char) :
    lines (a ++ '\n' :: b) = (splitOn '\n' a).map dropReturn ++ lines b := by
  have hne := splitOn_ne_nil '\n' b
  rw [lines, lines, splitOn_append_sep, List.dropLast_append_of_ne_nil hne,
    List.getLast?_append_of_ne_nil _ hne, List.map_append, List.append_assoc]

/-! ## Words -/

/-- Whether a text starts with a word. -/
def opensWithWord (s : List Char) : Bool := s.head?.any (!isBlank ·)

/-- The first piece between blanks is empty unless the text starts with a word. -/
theorem head?_splitOnP_isBlank (s : List Char) :
    ∃ piece rest, s.splitOnP isBlank = piece :: rest ∧ piece.isEmpty = !opensWithWord s := by
  cases s with
  | nil => exact ⟨[], [], rfl, rfl⟩
  | cons c cs =>
    rw [List.splitOnP_cons_eq_if_modifyHead]
    -- A blank in front leaves an empty piece, else the first piece has the character
    by_cases hc : isBlank c = true
    · exact ⟨[], _, if_pos hc, by simp [opensWithWord, hc]⟩
    · obtain ⟨piece, rest, hcs⟩ := List.exists_cons_of_ne_nil (List.splitOnP_ne_nil isBlank cs)
      exact ⟨c :: piece, rest, by rw [if_neg hc, hcs]; rfl, by simp [opensWithWord, hc]⟩

/-- A character in front of a text makes a word of its own, unless it is a blank or belongs to the
word that the text starts with. -/
theorem length_words_cons (c : Char) (cs : List Char) : (words (c :: cs)).length =
    (words cs).length + if isBlank c || opensWithWord cs then 0 else 1 := by
  rw [words, words, List.splitOnP_cons_eq_if_modifyHead]
  by_cases hc : isBlank c = true
  · simp [hc]
  -- The character is put in front of the first piece, which is empty unless a word starts there
  · obtain ⟨piece, rest, hcs, hempty⟩ := head?_splitOnP_isBlank cs
    rw [if_neg hc, hcs, List.modifyHead_cons, List.filter_cons_of_pos (by simp)]
    cases hopens : opensWithWord cs with
    | true =>
      rw [List.filter_cons_of_pos (by simp [hempty, hopens])]
      simp
    | false =>
      rw [List.filter_cons_of_neg (by simp [hempty, hopens])]
      simp [hc]

/-- Whether a word starts at a position: the character there is no blank, and it is the first one or
a blank stands in front of it. -/
def startsWord (s : List Char) (i : Nat) : Bool :=
  s[i]?.any (!isBlank ·) && (i == 0 || s[i - 1]?.any isBlank)

/-- The same for a text that follows a blank (`fresh`) or a character of a word. -/
def startsWordAfter (fresh : Bool) (s : List Char) (i : Nat) : Bool :=
  s[i]?.any (!isBlank ·) && if i = 0 then fresh else s[i - 1]?.any isBlank

/-- Behind the first character, words start as they do in the text that follows it. -/
theorem startsWordAfter_succ (fresh : Bool) (c : Char) (cs : List Char) (i : Nat) :
    startsWordAfter fresh (c :: cs) (i + 1) = startsWordAfter (isBlank c) cs i := by
  cases i with
  | zero => simp [startsWordAfter]
  | succ i => simp [startsWordAfter]

/-- The places where words start, but for a word that has started in front of the text. -/
theorem countP_startsWordAfter (fresh : Bool) (s : List Char) :
    (List.range s.length).countP (startsWordAfter fresh s) +
      (if !fresh && opensWithWord s then 1 else 0) = (words s).length := by
  -- A character is what the rest of the text follows
  induction s generalizing fresh with
  | nil => cases fresh <;> rfl
  | cons c cs ih =>
    have hrest : (List.range cs.length).countP (startsWordAfter fresh (c :: cs) ∘ Nat.succ) =
        (List.range cs.length).countP (startsWordAfter (isBlank c) cs) := by
      congr 1
      funext i
      exact startsWordAfter_succ fresh c cs i
    have hfirst : startsWordAfter fresh (c :: cs) 0 = (!isBlank c && fresh) := by
      simp [startsWordAfter]
    have hopens : opensWithWord (c :: cs) = !isBlank c := rfl
    rw [length_words_cons, ← ih (isBlank c), List.length_cons, List.range_succ_eq_map,
      List.countP_cons, List.countP_map, hrest, hfirst, hopens]
    cases fresh <;> cases isBlank c <;> cases opensWithWord cs <;> simp

/-- The number of words is that of the places where one starts. -/
theorem length_words (s : List Char) :
    (words s).length = (List.range s.length).countP (startsWord s) := by
  have hcount := countP_startsWordAfter true s
  have hstarts : startsWordAfter true s = startsWord s := by
    funext i
    cases i <;> simp [startsWordAfter, startsWord]
  rw [hstarts] at hcount
  exact hcount.symm

/-- A blank divides the words of a text. -/
theorem words_append {c : Char} (hc : isBlank c = true) (a b : List Char) :
    words (a ++ c :: b) = words a ++ words b := by
  rw [words, List.splitOnP_append_cons a b hc, List.filter_append]
  rfl

end Text

/-! ## Statistics of texts -/

/-- The statistics of two texts with a line feed in between: the words are those of both, the first
text ends in a line feed, and numeric characters are in either of them. -/
theorem Statistics.ofChars_append (a b : List Char) :
    Statistics.ofChars (a ++ '\n' :: b) =
      { words := (ofChars a).words + (ofChars b).words
        lines := a.count '\n' + 1 + (ofChars b).lines
        hasNumbers := (ofChars a).hasNumbers || (ofChars b).hasNumbers } := by
  have hwords := Text.words_append (c := '\n') (by decide) a b
  have hlines := Text.lines_append a b
  have hnumeric : Text.isNumeric '\n' = false := by decide
  simp only [ofChars, hwords, hlines, List.length_append, List.length_map, Text.length_splitOn,
    List.any_append, List.any_cons, hnumeric, Bool.false_or]

/-- A short text is its own preview, and of a longer one the start is shown. -/
theorem preview_eq (s : List Char) :
    preview s = if s.length ≤ 100 then s else s.take 100 ++ ['.', '.', '.'] := by
  simp only [preview, previewLength, List.isEmpty_iff, List.drop_eq_nil_iff]
  split
  · next hshort => rw [List.take_of_length_le hshort]
  · rfl

/-! ## Files -/

namespace Analysis

variable {here : Location} {shared path : Path} {input shown : String}

/-- An analysis is that of the file which the input is resolved to, whatever trouble the disk is
in. -/
theorem analyze_eq_ok {d : Disk} {a : Analysis}
    (h : ((analyze (FileSystem.ofDisk here) shared input).run d).1 = .ok a) :
    ∃ path shown content, resolve shared input = .ok (path, shown) ∧
      d.tree.read here path = .ok content ∧ a = ofContent shown content := by
  unfold analyze at h
  split at h
  · exact nomatch h
  · next path shown hresolve =>
    -- Looking for the file changes nothing, so it is read from the same tree
    have hsame : FileTree.SameOn d.tree d.tree ((FileSystem.ofDisk here).isFile path) :=
      .attempt rfl fun _ => false
    obtain ⟨isFile, left, hseen, -⟩ := hsame d.troubles
    rw [StateT.run_bind, hseen] at h
    cases isFile with
    | false => exact nomatch h
    | true =>
      obtain ⟨content, hcontent, rfl⟩ := map_eq_ok_iff.1 h
      have hread := mapError_eq_ok_iff.1 hcontent
      rcases Disk.attempt_fst (FileTree.read · here path) (fun trouble => .error trouble.cause)
        ⟨d.tree, left⟩ with hlook | ⟨trouble, hblind⟩
      · exact ⟨path, shown, content, hresolve, hlook.symm.trans hread, rfl⟩
      · exact nomatch hblind.symm.trans hread

/-- A file that the input is resolved to is analyzed where nothing is in the way. -/
theorem analyze_of_find {t : FileTree} {l : Location} {content : ByteArray}
    (hresolve : resolve shared input = .ok (path, shown))
    (hfile : t.find here path = .ok (l, .file content)) :
    ((analyze (FileSystem.ofDisk here) shared input).run ⟨t, []⟩).1 =
      .ok (ofContent shown content) := by
  have hseen : ((FileSystem.ofDisk here).isFile path).run ⟨t, []⟩ = (true, ⟨t, []⟩) :=
    congrArg (·, (⟨t, []⟩ : Disk)) (FileTree.isFile_iff.2 ⟨l, content, hfile⟩)
  have hread : ((FileSystem.ofDisk here).read path).run ⟨t, []⟩ = (.ok content, ⟨t, []⟩) :=
    congrArg (·, (⟨t, []⟩ : Disk)) (FileTree.read_of_find hfile)
  rw [analyze, hresolve]
  dsimp only
  rw [StateT.run_bind, hseen]
  -- With the file seen, what is left is to read it
  show (((((FileSystem.ofDisk here).read path).run ⟨t, []⟩).1.mapError Fault.unreadable).map
    (ofContent shown)) = _
  rw [hread]
  rfl

/-- What is told of a content: everything is told of one decoding of its octets, with the replacement
character where they are not UTF-8. -/
structure Tells (content : ByteArray) (a : Analysis) : Prop where
  length : a.length = (Utf8.lossy content.data.toList).length
  preview : a.preview.toList =
    if a.length ≤ 100 then Utf8.lossy content.data.toList
    else (Utf8.lossy content.data.toList).take 100 ++ ['.', '.', '.']
  statistics : a.statistics = .ofChars (Utf8.lossy content.data.toList)

/-- What the analysis of an octet string tells is what it claims to tell. -/
theorem tells_ofContent (shown : String) (content : ByteArray) :
    Tells content (ofContent shown content) where
  length := rfl
  preview := (String.toList_ofList ..).trans (preview_eq _)
  statistics := rfl

/-- The counts of every text are those of positions in it, and a line feed between two texts adds
them up.  An analysis is told of the file that the input is resolved to, and every such file is
analyzed; if it holds the octets of a text, then it is decoded to this text. -/
theorem analyze_counts :
    (∀ s : List Char,
      (Statistics.ofChars s).lines =
        s.count '\n' + (if s ≠ [] ∧ s.getLast? ≠ some '\n' then 1 else 0) ∧
      (Statistics.ofChars s).words = (List.range s.length).countP (Text.startsWord s)) ∧
    (∀ a b : List Char, Statistics.ofChars (a ++ '\n' :: b) =
      { words := (Statistics.ofChars a).words + (Statistics.ofChars b).words
        lines := a.count '\n' + 1 + (Statistics.ofChars b).lines
        hasNumbers := (Statistics.ofChars a).hasNumbers || (Statistics.ofChars b).hasNumbers }) ∧
    (∀ here shared input d a, ((analyze (FileSystem.ofDisk here) shared input).run d).1 = .ok a →
      ∃ path shown content, resolve shared input = .ok (path, shown) ∧
        d.tree.read here path = .ok content ∧ Tells content a) ∧
    (∀ s : List Char, Utf8.lossy (Utf8.encode s) = s) ∧
    ∀ here shared input path shown t l content, resolve shared input = .ok (path, shown) →
      FileTree.find t here path = .ok (l, .file content) →
      ∃ a, ((analyze (FileSystem.ofDisk here) shared input).run ⟨t, []⟩).1 = .ok a ∧
        Tells content a := by
  refine ⟨fun s => ⟨Text.length_lines s, Text.length_words s⟩, Statistics.ofChars_append, ?_,
    Utf8.lossy_encode, ?_⟩
  · intro here shared input d a h
    obtain ⟨path, shown, content, hresolve, hread, rfl⟩ := analyze_eq_ok h
    exact ⟨path, shown, content, hresolve, hread, tells_ofContent shown content⟩
  · intro here shared input path shown t l content hresolve hfile
    exact ⟨_, analyze_of_find hresolve hfile, tells_ofContent shown content⟩

/-- A content with an octet that is not UTF-8, two kinds of line endings and a blank in front. -/
def strangeContent : ByteArray := ⟨#[0x20, 0x61, 0xFF, 0x0D, 0x0A, 0xC3, 0xA9, 0x0A, 0x0A, 0x37]⟩

/-- It has three words and four lines, one of them empty, and the stray octet is one character. -/
theorem analyze_counts_strange :
    let t := sampleTree.put (.ofTexts ["shared", "note.txt"]) (.file strangeContent)
    resolve (.ofText "/shared") "note.txt" = .ok (.ofText "/shared/note.txt", "note.txt") ∧
    FileTree.find t [] (.ofText "/shared/note.txt") =
      .ok (Location.ofTexts ["shared", "note.txt"], .file strangeContent) ∧
    ∃ a, ((analyze (FileSystem.ofDisk []) (.ofText "/shared") "note.txt").run ⟨t, []⟩).1 = .ok a ∧
      a.length = 9 ∧ a.preview = " a\uFFFD\r\né\n\n7" ∧ a.statistics = ⟨3, 4, true⟩ := by
  intro t
  have hresolve : resolve (.ofText "/shared") "note.txt" =
      .ok (.ofText "/shared/note.txt", "note.txt") := by decide +kernel
  have hfile : FileTree.find t [] (.ofText "/shared/note.txt") =
      .ok (Location.ofTexts ["shared", "note.txt"], .file strangeContent) := rfl
  -- The octet that is no text is the replacement character, and the two behind it are one
  have htext : Utf8.lossy strangeContent.data.toList =
      [' ', 'a', '\uFFFD', '\r', '\n', 'é', '\n', '\n', '7'] := by decide +kernel
  obtain ⟨-, -, -, -, hcounts⟩ := analyze_counts
  obtain ⟨a, ha, htells⟩ := hcounts [] _ _ _ _ t _ _ hresolve hfile
  have hlength := htells.length
  have hpreview := htells.preview
  have hstatistics := htells.statistics
  rw [htext] at hlength hpreview hstatistics
  rw [hlength] at hpreview
  exact ⟨hresolve, hfile, a, ha, hlength, String.toList_inj.1 hpreview, hstatistics.trans rfl⟩

end Analysis

end TweetHarvest
