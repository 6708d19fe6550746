import TweetHarvest.Proofs.Archive.Atomic
import TweetHarvest.Proofs.Archive.Map
import TweetHarvest.Proofs.Files.Components

/-!
# Documents on any username

A username is any text when a document is saved, and only what is cleaned of it gets into the name of
the file.  So the file stands in the directory, under a single name.  The name is cut to what a name
may have, but the hidden name is longer by five octets, and a document whose name needs this room
cannot be saved.

## Key results

- `Archive.Call.perform_contained`: a call touches nothing but two names in the directory
- `Archive.Call.perform_outcome`: a call succeeds exactly if there is room for the hidden name
-/

namespace TweetHarvest

namespace Archive

open FileTree (SameBut)
open TweetHarvest.Path (IsName)

namespace Call

/-! ## Nothing leaves the directory -/

/-- A call leaves all as it was but for two names in the directory, that of the document and the
hidden one, and for directories made on the way; this holds for every username and whatever goes
wrong.  A path that is returned is a single name behind the directory: it is not empty and not made
of dots, starts with the letters of saved files, takes no more octets than a name may, and has
neither separators nor control characters in it. -/
theorem perform_contained (here : Location) (dir : Path) (c : Call) (disk : Disk) :
    let done := (c.perform here dir).run disk
    SameBut (dir.Passes here)
      (fun l => l = dir.placeOf here (Utf8.octets c.cleanName) ∨
        l = dir.placeOf here (hidden (Utf8.octets c.cleanName)))
      disk.tree done.2.tree ∧
    ∀ path, done.1 = .ok path → ∃ name : String,
      path = dir.join (.ofText name) ∧
      path.components = dir.components ++ [.normal (Utf8.octets name)] ∧
      name ≠ "" ∧ name ≠ "." ∧ name ≠ ".." ∧
      prefixChars <+: name.toList ∧ (Utf8.octets name).length ≤ 255 ∧
      ∀ x ∈ name.toList, x ≠ '/' ∧ x ≠ '\\' ∧ x ≠ ':' ∧ 0x20 ≤ x.toNat := by
  intro done
  have hwritten := perform_cleaned here dir c disk
  constructor
  -- A failure touches the hidden name at most, and a success both
  · cases hresult : done.1 with
    | error fault => exact (hwritten.failed fault hresult).mono (fun _ => id) fun _ => .inr
    | ok path => exact (hwritten.placed path hresult).others
  · intro path hpath
    obtain rfl := perform_path_cleaned here dir hpath
    have hname := c.isName_cleanName
    have hchars := c.toList_cleanName
    -- The cleaned name is the one component behind the directory
    refine ⟨c.cleanName, rfl, Path.components_join_name dir hname, ?_, ?_, ?_, ?_, ?_, ?_⟩
    · intro hempty
      exact hname.ne_nil (by rw [hempty]; rfl)
    · intro hdot
      exact absurd hname.not_idle (by rw [hdot]; decide)
    · intro hdots
      exact hname.not_dots (by rw [hdots]; rfl)
    · rw [hchars]
      exact prefixChars_isPrefix_sanitize ..
    · rw [Utf8.octets, Utf8.length_encode, hchars]
      exact FileName.size_sanitizeChars_le _
    · intro x hx
      rw [hchars] at hx
      exact FileName.isAllowed_spec (FileName.isAllowed_of_mem_sanitizeChars hx)

/-! ## Room for the hidden name -/

/-- The octets that the name of a document needs: those of the characters of the username that are
allowed, and those of the stamp, the ending, the letters in front and an underscore. -/
def octets (c : Call) : Nat :=
  Utf8.size (c.username.toList.filter FileName.isAllowed) + c.time.stamp.length +
    (suffix c.raw).length + 9

/-- There is room for the hidden name if the name needs no more than the octets that are left. -/
theorem length_hidden_cleanName_le_iff (c : Call) :
    (hidden (Utf8.octets c.cleanName)).length ≤ FileTree.maxNameOctets ↔ c.octets ≤ 250 := by
  have hoctets : Utf8.size ((nameChars c.raw c.username c.time).filter FileName.isAllowed) =
      c.octets := size_filter_nameChars ..
  -- What is too long by more than five octets is still too long when it is cut
  have hcut : (Utf8.octets c.cleanName).length ≤ 250 ↔ c.octets ≤ 250 := by
    rw [Utf8.octets, Utf8.length_encode, c.toList_cleanName, sanitize_nameChars_eq_cut, ← hoctets]
    exact FileName.size_cut_le_iff (by decide) _
  have hmax : FileTree.maxNameOctets = 250 + 5 := rfl
  rw [length_hidden, hmax, Nat.add_le_add_iff_right, hcut]

/-- Where the document is written first. -/
def hiddenPath (dir : Path) (c : Call) : Path :=
  (dir.join (.ofText c.cleanName)).withFileName (hidden (Utf8.octets c.cleanName))

section Outcome

variable {here : Location} {dir : Path} {c : Call} {disk : Disk} {t : FileTree}

/-- A call writes into the directory once it has been made. -/
theorem run_perform (hmade : ((FileSystem.ofDisk here).makeDirs dir).run disk = (.ok (), ⟨t, []⟩)) :
    (c.perform here dir).run disk =
      let path := dir.join (.ofText c.cleanName)
      let written := (writeJson (.ofDisk here) c.value path c.title).run ⟨t, []⟩
      (written.1.map fun _ => path, written.2) := by
  rw [perform_eq, run_save, hmade]
  rfl

/-- A hidden name that is too long cannot be written. -/
theorem write_hiddenPath (hreach : t.reach here dir = .ok (dir.place here)) (hlong : 250 < c.octets)
    (content : ByteArray) :
    t.write here (hiddenPath dir c) content = .error .nameTooLong := by
  have hname := c.isName_cleanName
  obtain ⟨dir', hpath, hspot⟩ := FileTree.spot_withFileName dir hname (hidden (Utf8.octets c.cleanName))
  have hsize : FileTree.maxNameOctets < (hidden (Utf8.octets c.cleanName)).length :=
    Nat.lt_of_not_le fun hfits => Nat.not_le.2 hlong ((length_hidden_cleanName_le_iff c).1 hfits)
  -- The directory is reached, and then the name is refused
  rw [hiddenPath, Path.ofText, hpath, FileTree.write_join t here dir' (isName_hidden hname),
    hspot, FileTree.spot, hreach]
  simp only [bind, Except.bind, if_pos hsize]

/-- Where a document can be written it is saved. -/
theorem perform_of_canWrite
    (hmade : ((FileSystem.ofDisk here).makeDirs dir).run disk = (.ok (), ⟨t, []⟩))
    (hcan : CanWrite here (dir.join (.ofText c.cleanName)) t) :
    ((c.perform here dir).run disk).1 = .ok (dir.join (.ofText c.cleanName)) ∧
      ((c.perform here dir).run disk).2.tree.read here (dir.join (.ofText c.cleanName)) =
        .ok c.content := by
  have hwritten := (writeJson_ok_iff here c.value _ c.title t).2 hcan
  have hread := writeJson_read c.value c.title _ (FileSystem.keeps_ofDisk here) hwritten
  rw [run_perform hmade, content_eq]
  dsimp only
  rw [hwritten]
  exact ⟨rfl, hread⟩

/-- Where the hidden name is too long nothing is written. -/
theorem perform_of_long
    (hmade : ((FileSystem.ofDisk here).makeDirs dir).run disk = (.ok (), ⟨t, []⟩))
    (hreach : t.reach here dir = .ok (dir.place here)) (hlong : 250 < c.octets) :
    (c.perform here dir).run disk =
      (.error (.write c.title (hiddenPath dir c) .nameTooLong), ⟨t, []⟩) := by
  have hwrite := write_hiddenPath hreach hlong c.value.pretty.toUTF8
  rw [hiddenPath] at hwrite
  have hlast : (dir.join (.ofText c.cleanName)).fileName? = some (Utf8.octets c.cleanName) :=
    Path.fileName?_join dir c.isName_cleanName
  -- The write is what fails, and a calm disk has no trouble that would come before it
  rw [run_perform hmade]
  dsimp only
  rw [run_writeJson_calm here c.value _ c.title hlast]
  simp only [hwrite]
  rfl

end Outcome

/-- A document is saved exactly if there is room for its hidden name.

The directory is there or can be made, neither of the two names is taken, and nothing goes wrong
afterwards.  Then a call succeeds, and its document is read under the path that it returns, if the
name needs at most 250 octets, whatever they are.  If it needs more, nothing is written, since the
hidden name is too long. -/
theorem perform_outcome {here : Location} {dir : Path} {c : Call} {disk : Disk} {t : FileTree}
    (hhere : disk.tree.get? here = some .directory)
    (hmade : ((FileSystem.ofDisk here).makeDirs dir).run disk = (.ok (), ⟨t, []⟩))
    (hfree : t.get? (dir.placeOf here (Utf8.octets c.cleanName)) = none)
    (hhidden : t.get? (dir.placeOf here (hidden (Utf8.octets c.cleanName))) = none) :
    let done := (c.perform here dir).run disk
    let path := dir.join (.ofText c.cleanName)
    (c.octets ≤ 250 → done.1 = .ok path ∧ done.2.tree.read here path = .ok c.content) ∧
    (250 < c.octets →
      done = (.error (.write c.title (hiddenPath dir c) .nameTooLong), ⟨t, []⟩)) := by
  -- What has been made can be reached
  have hreach := FileSystem.reach_of_makeDirs here dir hhere (congrArg Prod.fst hmade)
  rw [hmade] at hreach
  constructor
  · intro hshort
    apply perform_of_canWrite hmade
    have hfits := (length_hidden_cleanName_le_iff c).2 hshort
    refine ⟨dir, Utf8.octets c.cleanName, c.isName_cleanName, rfl, hreach, ?_, hfits, ?_, ?_⟩
    · rw [length_hidden] at hfits
      exact Nat.le_trans (Nat.le_add_right _ 5) hfits
    · simp [hhidden]
    · simp [hfree]
  · exact perform_of_long hmade hreach

/-! ### Two usernames -/

/-- The tree with nothing but the directory of saved documents. -/
def directoryTree : FileTree := FileTree.empty.put (.ofTexts [directoryName]) .directory

/-- On the empty disk, the directory is made. -/
private theorem makeDirs_emptyDisk :
    ((FileSystem.ofDisk []).makeDirs (.ofText directoryName)).run emptyDisk =
      (.ok (), ⟨directoryTree, []⟩) := by
  have hlocate : FileTree.empty.locate [] (.ofText directoryName) .alreadyExists =
      .ok (.ofTexts [directoryName], false) := by decide +kernel
  apply Disk.run_makeDirs_of_makeDir (by decide)
  rw [FileTree.makeDir, hlocate]
  rfl

/-- No name is taken in the directory. -/
private theorem get?_directoryTree (name : List UInt8) :
    directoryTree.get? ((Path.ofText directoryName).placeOf [] name) = none := by
  have hplace : (Path.ofText directoryName).place [] = .ofTexts [directoryName] := by decide +kernel
  rw [Path.placeOf, hplace, directoryTree, FileTree.get?_put_of_ne _ (by simp)]
  rfl

/-- A dump on a username with all that is cleaned out of a name, and more. -/
def strange : Call := .dump ⟨[], "d"⟩ "../a\\b:\x01é 😀" afternoon

/-- The path of a document whose username has slashes, accents and more. -/
private theorem join_strange : (Path.ofText directoryName).join (.ofText strange.cleanName) =
    (.ofText "reports/twitter_..abé 😀_20240801_140000_raw.json") := by
  decide +kernel

/-- It is saved under what is left of the name. -/
theorem perform_outcome_strange :
    let dir : Path := .ofText directoryName
    let done := (strange.perform [] dir).run emptyDisk
    let path : Path := .ofText "reports/twitter_..abé 😀_20240801_140000_raw.json"
    ((FileSystem.ofDisk []).makeDirs dir).run emptyDisk = (.ok (), ⟨directoryTree, []⟩) ∧
    directoryTree.get? (dir.placeOf [] (Utf8.octets strange.cleanName)) = none ∧
    directoryTree.get? (dir.placeOf [] (hidden (Utf8.octets strange.cleanName))) = none ∧
    strange.octets ≤ 250 ∧
    done.1 = .ok path ∧ done.2.tree.read [] path = .ok strange.content := by
  have hoctets : strange.octets ≤ 250 := by decide +kernel
  have hfree := get?_directoryTree (Utf8.octets strange.cleanName)
  have hhidden := get?_directoryTree (hidden (Utf8.octets strange.cleanName))
  have hsaved := (perform_outcome rfl makeDirs_emptyDisk hfree hhidden).1 hoctets
  rw [join_strange] at hsaved
  exact ⟨makeDirs_emptyDisk, hfree, hhidden, hoctets, hsaved⟩

/-- A report on a username of two hundred and fifty letters. -/
def lengthy : Call :=
  .report ⟨⟨"2024-08-01T14:00:00Z", String.ofList (List.replicate 250 'a'), 10, 0⟩, none, []⟩ afternoon

/-- The cleaned name leaves no room for the marks of a hidden one. -/
private theorem lt_octets_lengthy : 250 < lengthy.octets := by
  have husername : lengthy.username.toList = List.replicate 250 'a' := String.toList_ofList
  have hsize : Utf8.size ((List.replicate 250 'a').filter FileName.isAllowed) = 250 := by
    decide +kernel
  rw [octets, husername, hsize]
  omega

/-- It is not saved, although the directory can be made and neither of the two names is taken in
it. -/
theorem perform_lengthy_fails :
    let dir : Path := .ofText directoryName
    ((FileSystem.ofDisk []).makeDirs dir).run emptyDisk = (.ok (), ⟨directoryTree, []⟩) ∧
    directoryTree.get? (dir.placeOf [] (Utf8.octets lengthy.cleanName)) = none ∧
    directoryTree.get? (dir.placeOf [] (hidden (Utf8.octets lengthy.cleanName))) = none ∧
    (lengthy.perform [] dir).run emptyDisk =
      (.error (.write "report" (hiddenPath dir lengthy) .nameTooLong), ⟨directoryTree, []⟩) := by
  intro dir
  have hreach := FileSystem.reach_of_makeDirs [] dir (d := emptyDisk) rfl
    (congrArg Prod.fst makeDirs_emptyDisk)
  rw [makeDirs_emptyDisk] at hreach
  exact ⟨makeDirs_emptyDisk, get?_directoryTree _, get?_directoryTree _,
    perform_of_long makeDirs_emptyDisk hreach lt_octets_lengthy⟩

end Call

end Archive

end TweetHarvest
