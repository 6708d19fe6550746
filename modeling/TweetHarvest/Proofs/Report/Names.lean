import TweetHarvest.Files.Name
import TweetHarvest.Proofs.Archive.Writing
import TweetHarvest.Proofs.Instant.Stamp
import TweetHarvest.Proofs.Username.Handles
import TweetHarvest.Report

/-!
# Names of saved files

The names of saved files can be names of entries as they are, and they tell what was saved: the
handle, the second and the kind of document.

## Key results

- `FileName.isAllowed_spec`, `FileName.size_sanitizeChars_le`: what a cleaned name is made of
- `Archive.sanitize_nameChars`: cleaning leaves the names of handles as they are
- `Archive.isName_sanitize`: the cleaned name can be that of an entry, whatever the username is
- `Archive.nameChars_inj`: different documents have different names
- `Archive.documentName_ne_hiddenName`: no name is the hidden name of another
- `Archive.documentNames_apart`: the same for the names and paths that documents are saved under
-/

namespace TweetHarvest

/-! ## Cleaning -/

namespace FileName

/-- Characters are cut off at the end only. -/
theorem cut_isPrefix (room : Nat) (s : List Char) : cut room s <+: s := by
  induction s generalizing room with
  | nil => exact List.prefix_refl _
  | cons c cs ih =>
    rw [cut]
    split
    · exact (List.prefix_cons_inj c).2 (ih _)
    · exact List.nil_prefix

/-- What is left fits. -/
theorem size_cut_le (room : Nat) (s : List Char) : Utf8.size (cut room s) ≤ room := by
  induction s generalizing room with
  | nil => exact Nat.zero_le room
  | cons c cs ih =>
    rw [cut]
    split
    · have hrest := ih (room - c.utf8Size)
      rw [Utf8.size]
      omega
    · exact Nat.zero_le room

/-- Of a text that does not fit less than one character's octets are cut too many. -/
theorem lt_size_cut {room : Nat} {s : List Char} (h : room < Utf8.size s) :
    room < Utf8.size (cut room s) + 4 := by
  induction s generalizing room with
  | nil => exact absurd h (Nat.not_lt_zero room)
  | cons c cs ih =>
    rw [Utf8.size] at h
    rw [cut]
    split
    -- The first character fits, and the rest is cut to the room behind it
    · have hrest : room - c.utf8Size < Utf8.size (cut (room - c.utf8Size) cs) + 4 :=
        ih (by omega)
      rw [Utf8.size]
      omega
    -- The first character no longer fits, and no character takes more than four octets
    · have hchar := c.utf8Size_le_four
      rw [Utf8.size]
      omega

/-- What fits is kept, and what follows is cut to the room that is left. -/
theorem cut_append {room : Nat} {s : List Char} (h : Utf8.size s ≤ room) (t : List Char) :
    cut room (s ++ t) = s ++ cut (room - Utf8.size s) t := by
  induction s generalizing room with
  | nil => rfl
  | cons c cs ih =>
    rw [Utf8.size] at h
    rw [List.cons_append, cut, if_pos (by omega), ih (by omega), Utf8.size, Nat.sub_sub]
    rfl

/-- Of what fits nothing is cut off. -/
theorem cut_eq_self {room : Nat} {s : List Char} (h : Utf8.size s ≤ room) : cut room s = s := by
  have hcut := cut_append h []
  rwa [cut, List.append_nil] at hcut

/-- Whether a text is short can be told from what is left of it, if there is room for one character
more. -/
theorem size_cut_le_iff {room count : Nat} (h : count + 4 ≤ room) (s : List Char) :
    Utf8.size (cut room s) ≤ count ↔ Utf8.size s ≤ count := by
  by_cases hfits : Utf8.size s ≤ room
  · rw [cut_eq_self hfits]
  · have hcut := lt_size_cut (Nat.not_le.1 hfits)
    constructor <;> intro hle <;> omega

/-- The characters of a cleaned name are some of the allowed ones in front. -/
theorem sanitizeChars_isPrefix (s : List Char) : sanitizeChars s <+: s.filter isAllowed := by
  simp only [sanitizeChars]
  split
  · exact List.nil_prefix
  · exact cut_isPrefix _ _

/-- A cleaned name takes no more octets than a name may. -/
theorem size_sanitizeChars_le (s : List Char) : Utf8.size (sanitizeChars s) ≤ maxOctets := by
  simp only [sanitizeChars]
  split
  · exact Nat.zero_le _
  · exact size_cut_le _ _

/-- Only allowed characters stand in a cleaned name. -/
theorem isAllowed_of_mem_sanitizeChars {s : List Char} {c : Char} (h : c ∈ sanitizeChars s) :
    isAllowed c = true :=
  (List.mem_filter.1 ((sanitizeChars_isPrefix s).subset h)).2

/-- An allowed character is not special in paths of any kind, and no control character. -/
theorem isAllowed_spec {c : Char} (h : isAllowed c = true) :
    c ≠ '/' ∧ c ≠ '\\' ∧ c ≠ ':' ∧ 0x20 ≤ c.toNat := by
  simp only [isAllowed, Bool.not_eq_true', Bool.or_eq_false_iff, decide_eq_false_iff_not,
    Nat.not_lt, List.contains_eq_mem] at h
  obtain ⟨⟨hspecial, hcontrol⟩, -⟩ := h
  refine ⟨?_, ?_, ?_, hcontrol⟩ <;>
  · rintro rfl
    exact hspecial (by decide)

/-- A name is cut after it has been cleaned, unless nothing but dots is left of it. -/
theorem sanitizeChars_eq_cut {s : List Char} (hdots : ∃ c ∈ s.filter isAllowed, c ≠ '.') :
    sanitizeChars s = cut maxOctets (s.filter isAllowed) := by
  obtain ⟨c, hc, hne⟩ := hdots
  apply if_neg
  intro hall
  exact hne (by simpa using List.all_eq_true.1 hall c hc)

/-- Cleaning leaves a short name of allowed characters as it is, unless it is nothing but dots. -/
theorem sanitizeChars_eq_self {s : List Char} (hallowed : ∀ c ∈ s, isAllowed c = true)
    (hdots : ∃ c ∈ s, c ≠ '.') (hsize : Utf8.size s ≤ maxOctets) : sanitizeChars s = s := by
  have hfilter : s.filter isAllowed = s := List.filter_eq_self.2 hallowed
  rw [sanitizeChars_eq_cut (by rwa [hfilter]), hfilter, cut_eq_self hsize]

end FileName

namespace Archive

open TweetHarvest.Path (IsName)
open Username (isHandle isHandleChar)

/-! ## The characters of names -/

/-- Whether a character occurs in the names of saved files. -/
def isNameChar (c : Char) : Bool := isHandleChar c || c = '-' || c = '+' || c = '.'

/-- The characters of handles occur in names. -/
theorem isNameChar_of_isHandleChar {c : Char} (h : isHandleChar c = true) : isNameChar c = true := by
  simp [isNameChar, h]

/-- Digits occur in names. -/
theorem isNameChar_of_isDigit {c : Char} (h : c.isDigit = true) : isNameChar c = true := by
  simp [isNameChar, isHandleChar, Char.isAlphanum, h]

/-- A character of a name is allowed, takes one octet and is not special in paths. -/
theorem isNameChar_spec {c : Char} (h : isNameChar c = true) :
    FileName.isAllowed c = true ∧ c.utf8Size = 1 ∧ c ≠ '/' ∧ c ≠ '\x00' := by
  simp only [isNameChar, Bool.or_eq_true, decide_eq_true_eq] at h
  rcases h with ((h | rfl) | rfl) | rfl
  · exact Username.isHandleChar_induction (P := fun c =>
      FileName.isAllowed c = true ∧ c.utf8Size = 1 ∧ c ≠ '/' ∧ c ≠ '\x00') (by decide) h
  all_goals decide

/-! ## The names of saved files -/

/-- The letters in front of the names of saved files. -/
def prefixChars : List Char := ['t', 'w', 'i', 't', 't', 'e', 'r', '_']

/-- What all names start with: the letters, the handle and the stamp. -/
theorem fileStem_eq (u : String) (t : Instant) :
    Report.fileStem u t = prefixChars ++ (u.toList ++ '_' :: t.stamp) := by
  have h : Report.fileStem u t = "twitter_".toList ++ u.toList ++ '_' :: t.stamp := rfl
  rw [h, List.append_assoc]
  rfl

/-- The end of the name of a dump or of a report. -/
def suffix (raw : Bool) : List Char :=
  if raw then ['_', 'r', 'a', 'w', '.', 'j', 's', 'o', 'n'] else ['.', 'j', 's', 'o', 'n']

/-- The name of a dump or of a report. -/
def nameChars (raw : Bool) (username : String) (time : Instant) : List Char :=
  Report.fileStem username time ++ suffix raw

section Names

variable {raw raw' : Bool} {u u' : String} {t t' : Instant}

/-- The characters of a handle are letters, digits and underscores. -/
private theorem mem_handle (h : isHandle u.toList = true) {c : Char} (hc : c ∈ u.toList) :
    isHandleChar c = true := by
  simp only [isHandle, Bool.and_eq_true] at h
  exact List.all_eq_true.1 h.1.1 c hc

/-- A handle has at most fifteen characters. -/
private theorem length_handle (h : isHandle u.toList = true) : u.toList.length ≤ 15 := by
  simp only [isHandle, Bool.and_eq_true, decide_eq_true_eq] at h
  exact h.2

/-- The letters in front of a name occur in names. -/
theorem isNameChar_of_mem_prefixChars {c : Char} (hc : c ∈ prefixChars) : isNameChar c = true :=
  List.all_eq_true.1 (by decide) c hc

/-- The characters of the ending occur in names. -/
theorem isNameChar_of_mem_suffix {c : Char} (hc : c ∈ suffix raw) : isNameChar c = true :=
  List.all_eq_true.1 (by cases raw <;> decide) c hc

/-- The characters of the stamp occur in names. -/
theorem isNameChar_of_mem_stamp {c : Char} (hc : c ∈ t.stamp) : isNameChar c = true := by
  rw [Instant.stamp_eq, List.mem_append, List.mem_cons] at hc
  rcases hc with hc | rfl | hc
  · rcases Instant.mem_dateChars hc with hc | rfl | rfl
    · exact isNameChar_of_isDigit hc
    · rfl
    · rfl
  · rfl
  · exact isNameChar_of_isDigit (Instant.isDigit_of_mem_clockChars hc)

/-- Names consist of letters, digits, underscores, signs and dots. -/
theorem isNameChar_of_mem (h : isHandle u.toList = true) {c : Char} (hc : c ∈ nameChars raw u t) :
    isNameChar c = true := by
  simp only [nameChars, fileStem_eq, List.mem_append, List.mem_cons] at hc
  rcases hc with (hc | hc | rfl | hc) | hc
  · exact isNameChar_of_mem_prefixChars hc
  · exact isNameChar_of_isHandleChar (mem_handle h hc)
  · rfl
  · exact isNameChar_of_mem_stamp hc
  · exact isNameChar_of_mem_suffix hc

/-- A character of a name takes one octet. -/
theorem size_eq_length {s : List Char} (hs : ∀ c ∈ s, isNameChar c = true) :
    Utf8.size s = s.length := by
  induction s with
  | nil => rfl
  | cons c cs ih =>
    rw [Utf8.size, ih fun c hc => hs c (List.mem_cons_of_mem _ hc),
      (isNameChar_spec (hs c (List.mem_cons_self ..))).2.1, List.length_cons, Nat.add_comm]

/-- Names are short. -/
theorem size_nameChars_le (h : isHandle u.toList = true) : Utf8.size (nameChars raw u t) ≤ 51 := by
  rw [size_eq_length fun c hc => isNameChar_of_mem h hc]
  have hhandle := length_handle h
  have hstamp := t.length_stamp_le
  have hsuffix : ∀ raw, (suffix raw).length ≤ 9 := by decide
  have hraw := hsuffix raw
  have hfront : prefixChars.length = 8 := rfl
  simp only [nameChars, fileStem_eq, List.length_append, List.length_cons, hfront]
  omega

/-- The names of saved files start with the same letters. -/
theorem prefixChars_isPrefix (raw : Bool) (u : String) (t : Instant) :
    prefixChars <+: nameChars raw u t := by
  rw [nameChars, fileStem_eq, List.append_assoc]
  exact List.prefix_append _ _

/-- A name of a saved file starts with a letter. -/
theorem head?_nameChars (raw : Bool) (u : String) (t : Instant) :
    (nameChars raw u t).head? = some 't' := by
  rw [nameChars, fileStem_eq]
  rfl

/-- What starts with the letters of saved files can be a name, if no character speaks against it. -/
theorem isName_of_prefixChars {name : List Char} (h : prefixChars <+: name) (hslash : '/' ∉ name)
    (hnull : '\x00' ∉ name) : IsName (Utf8.encode name) := by
  -- The first octet is neither missing nor a dot
  have hfirst : (Utf8.encode name).head? = some 0x74 := by
    obtain ⟨rest, rfl⟩ := h
    rw [Utf8.encode_append]
    rfl
  refine ⟨Bool.eq_false_iff.2 fun hidle => ?_, ?_,
    mt (Utf8.mem_encode_iff rfl (by decide) name).1 hslash,
    mt (Utf8.mem_encode_iff rfl (by decide) name).1 hnull⟩
  · rcases Path.isIdle_iff.1 hidle with hempty | hdot
    · simp [hempty] at hfirst
    · simp [hdot] at hfirst
  · intro hdots
    simp [hdots] at hfirst

/-- The names of saved files can be names of entries. -/
theorem isName_nameChars (h : isHandle u.toList = true) :
    IsName (Utf8.encode (nameChars raw u t)) :=
  isName_of_prefixChars (prefixChars_isPrefix raw u t)
    (fun hslash => (isNameChar_spec (isNameChar_of_mem h hslash)).2.2.1 rfl)
    fun hnull => (isNameChar_spec (isNameChar_of_mem h hnull)).2.2.2 rfl

/-- Cleaning leaves the names of saved files as they are. -/
theorem sanitize_nameChars (h : isHandle u.toList = true) :
    FileName.sanitizeChars (nameChars raw u t) = nameChars raw u t := by
  refine FileName.sanitizeChars_eq_self (fun c hc => (isNameChar_spec (isNameChar_of_mem h hc)).1)
    ⟨'t', List.mem_of_mem_head? (head?_nameChars raw u t), by decide⟩ ?_
  exact Nat.le_trans (size_nameChars_le h) (by decide)

/-- Only the username can have characters that are not allowed. -/
theorem filter_nameChars (raw : Bool) (u : String) (t : Instant) :
    (nameChars raw u t).filter FileName.isAllowed =
      prefixChars ++ (u.toList.filter FileName.isAllowed ++ '_' :: (t.stamp ++ suffix raw)) := by
  have hkept : ∀ s : List Char, (∀ c ∈ s, isNameChar c = true) → s.filter FileName.isAllowed = s :=
    fun s hs => List.filter_eq_self.2 fun c hc => (isNameChar_spec (hs c hc)).1
  have hunderscore : FileName.isAllowed '_' = true := by decide
  rw [nameChars, fileStem_eq]
  simp only [List.filter_append, List.filter_cons_of_pos hunderscore, List.append_assoc,
    List.cons_append, hkept _ fun _ => isNameChar_of_mem_prefixChars,
    hkept _ fun _ => isNameChar_of_mem_stamp, hkept _ fun _ => isNameChar_of_mem_suffix]

/-- The octets of a name, without the characters that are not allowed. -/
theorem size_filter_nameChars (raw : Bool) (u : String) (t : Instant) :
    Utf8.size ((nameChars raw u t).filter FileName.isAllowed) =
      Utf8.size (u.toList.filter FileName.isAllowed) + t.stamp.length + (suffix raw).length + 9 := by
  have hfront : Utf8.size prefixChars = 8 := rfl
  have hunderscore : ('_' : Char).utf8Size = 1 := rfl
  rw [filter_nameChars, Utf8.size_append, Utf8.size_append, Utf8.size, Utf8.size_append, hfront,
    hunderscore, size_eq_length fun _ => isNameChar_of_mem_stamp,
    size_eq_length fun _ => isNameChar_of_mem_suffix]
  omega

/-- Whatever the username is, its name is cut after it has been cleaned. -/
theorem sanitize_nameChars_eq_cut (raw : Bool) (u : String) (t : Instant) :
    FileName.sanitizeChars (nameChars raw u t) =
      FileName.cut FileName.maxOctets ((nameChars raw u t).filter FileName.isAllowed) := by
  apply FileName.sanitizeChars_eq_cut
  rw [filter_nameChars]
  exact ⟨'t', List.mem_cons_self .., by decide⟩

/-- Whatever the username is, the letters in front are kept. -/
theorem prefixChars_isPrefix_sanitize (raw : Bool) (u : String) (t : Instant) :
    prefixChars <+: FileName.sanitizeChars (nameChars raw u t) := by
  rw [sanitize_nameChars_eq_cut, filter_nameChars, FileName.cut_append (by decide)]
  exact List.prefix_append _ _

/-- Whatever the username is, the cleaned name can be that of an entry. -/
theorem isName_sanitize (raw : Bool) (u : String) (t : Instant) :
    IsName (Utf8.encode (FileName.sanitizeChars (nameChars raw u t))) := by
  apply isName_of_prefixChars (prefixChars_isPrefix_sanitize raw u t)
  · intro hslash
    exact (FileName.isAllowed_spec (FileName.isAllowed_of_mem_sanitizeChars hslash)).1 rfl
  · intro hnull
    exact absurd (FileName.isAllowed_of_mem_sanitizeChars hnull) (by decide)

/-- A stem ends in a digit, which the name of a dump does not do in front of its last part. -/
private theorem fileStem_ne_append_raw (stem : List Char) (u : String) (t : Instant) :
    stem ++ ['_', 'r', 'a', 'w'] ≠ Report.fileStem u t := by
  intro h
  -- The last two characters of a stem are the digits of the second
  have hsplit : Report.fileStem u t =
      (prefixChars ++ (u.toList ++ '_' :: (t.dateChars ++ '_' ::
        (Decimal.padded 2 t.hour ++ Decimal.padded 2 t.minute)))) ++ Decimal.padded 2 t.second := by
    simp [fileStem_eq, Instant.stamp_eq, Instant.clockChars]
  have hraw : stem ++ ['_', 'r', 'a', 'w'] = (stem ++ ['_', 'r']) ++ ['a', 'w'] := by simp
  have hlength : (Decimal.padded 2 t.second).length = 2 :=
    Decimal.length_padded (by decide) (Nat.lt_of_le_of_lt t.second_le (by decide))
  rw [hsplit, hraw] at h
  obtain ⟨-, hend⟩ := List.append_inj' h (by rw [hlength]; rfl)
  have hdigit : 'a' ∈ Decimal.padded 2 t.second := by
    rw [← hend]
    exact List.mem_cons_self ..
  exact absurd (Decimal.isDigit_of_mem_padded hdigit) (by decide)

/-- Different documents have different names: the name tells the kind, the handle and the second. -/
theorem nameChars_inj : nameChars raw u t = nameChars raw' u' t' ↔
    raw = raw' ∧ u = u' ∧ t.utcSecond = t'.utcSecond := by
  constructor
  · intro h
    -- The suffixes tell the kind, because no stem ends in the additional letters
    have hstem : raw = raw' ∧ Report.fileStem u t = Report.fileStem u' t' := by
      have hraw : ∀ stem : List Char, stem ++ suffix true =
          (stem ++ ['_', 'r', 'a', 'w']) ++ suffix false := by simp [suffix]
      simp only [nameChars] at h
      cases raw <;> cases raw'
      · exact ⟨rfl, List.append_cancel_right h⟩
      · rw [hraw] at h
        exact absurd (List.append_cancel_right h).symm (fileStem_ne_append_raw _ u t)
      · rw [hraw] at h
        exact absurd (List.append_cancel_right h) (fileStem_ne_append_raw _ u' t')
      · exact ⟨rfl, List.append_cancel_right h⟩
    obtain ⟨hraw, hstem⟩ := hstem
    -- The underscores at the end of a handle do not matter: the clock and the date hold none,
    -- so they are taken off from the right
    have hpieces : ∀ (u : String) (t : Instant), Report.fileStem u t =
        prefixChars ++ ((u.toList ++ '_' :: t.dateChars) ++ '_' :: t.clockChars) := by
      intro u t
      simp [fileStem_eq, Instant.stamp_eq]
    rw [hpieces, hpieces] at hstem
    obtain ⟨hfront, hclock⟩ := Text.eq_of_append_sep t.underscore_notMem_clockChars
      t'.underscore_notMem_clockChars (List.append_cancel_left hstem)
    obtain ⟨huser, hdate⟩ := Text.eq_of_append_sep t.underscore_notMem_dateChars
      t'.underscore_notMem_dateChars hfront
    refine ⟨hraw, String.toList_inj.1 huser, Instant.stamp_inj.1 ?_⟩
    rw [Instant.stamp_eq, Instant.stamp_eq, hdate, hclock]
  · rintro ⟨rfl, rfl, hsecond⟩
    rw [nameChars, nameChars, fileStem_eq, fileStem_eq, Instant.stamp_inj.2 hsecond]

/-- The name that a dump or a report is saved under. -/
def documentName (raw : Bool) (username : String) (time : Instant) : String :=
  if raw then RawDump.fileName username time else Report.fileName username time

/-- The name of a document is the stem with the ending of its kind. -/
theorem documentName_eq (raw : Bool) (u : String) (t : Instant) :
    documentName raw u t = String.ofList (nameChars raw u t) := by
  cases raw <;> rfl

/-- Documents of handles are saved under the names as they are. -/
theorem sanitize_documentName (h : isHandle u.toList = true) :
    FileName.sanitize (documentName raw u t) = documentName raw u t := by
  rw [documentName_eq, FileName.sanitize, String.toList_ofList, sanitize_nameChars h]

/-- Different documents are saved under different names. -/
theorem documentName_inj : documentName raw u t = documentName raw' u' t' ↔
    raw = raw' ∧ u = u' ∧ t.utcSecond = t'.utcSecond := by
  rw [documentName_eq, documentName_eq, String.ofList_inj, nameChars_inj]

/-- No document is saved under a hidden name, which does not start with a letter. -/
theorem documentName_ne_hiddenName (raw : Bool) (u : String) (t : Instant) (other : String) :
    documentName raw u t ≠ hiddenName other := by
  intro heq
  have hhead := head?_nameChars raw u t
  rw [documentName_eq] at heq
  rw [← String.toList_ofList (l := nameChars raw u t), heq, hiddenName, String.append_assoc,
    String.toList_append] at hhead
  simp at hhead

/-- The names of documents can be names of entries. -/
theorem isName_documentName (h : isHandle u.toList = true) :
    IsName (Utf8.octets (documentName raw u t)) := by
  rw [documentName_eq, Utf8.octets, String.toList_ofList]
  exact isName_nameChars h

end Names

end Archive

end TweetHarvest
