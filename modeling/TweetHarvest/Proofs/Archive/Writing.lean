import TweetHarvest.Archive
import TweetHarvest.Proofs.Files.Keeping
import TweetHarvest.Proofs.Text.Shown

/-!
# Writing under a path

A document is written to a hidden file beside its path and moved into place.  Whatever happens on the
way, nothing else is touched: a failure, for whatever reason, leaves all but the hidden file as it
was, and a success leaves the document under its path and no hidden file.  The file system is watched
while this goes on, so that all trees on the way can be spoken of.

## Key results

- `Archive.Course`: all that can happen while a document is written
- `Archive.course_of_writeJson`: nothing else does
- `Archive.arrived_of_writeJson`: a document that has been written stands under its path
-/

namespace TweetHarvest

namespace Archive

open FileTree (SameBut DirectoriesStay)
open Json (Value)
open TweetHarvest.Path (IsName)

/-- The hidden name is what is shown of the name, with a dot in front and four octets behind. -/
theorem hidden_eq (name : List UInt8) :
    hidden name = Path.dot :: (Utf8.encode (Utf8.lossy name) ++ Utf8.octets ".tmp") := by
  simp only [hidden, Utf8.octets, hiddenName, Utf8.shown, String.toList_append,
    String.toList_ofList, Utf8.encode_append]
  rfl

/-- The hidden name of a text. -/
theorem hidden_octets (s : String) : hidden (Utf8.octets s) = Utf8.octets (hiddenName s) := by
  rw [hidden, Utf8.shown_octets]

/-- An octet that is a character stands in the hidden name only if it stands in the name. -/
theorem mem_of_mem_hidden {b : UInt8} {c : Char} (hc : c.toNat = b.toNat) (hb : b < 0x80)
    (hfront : b ≠ Path.dot) (hback : b ∉ Utf8.octets ".tmp") {name : List UInt8}
    (h : b ∈ hidden name) : b ∈ name := by
  -- Such an octet is not one of those around, so it stands in what is shown of the name
  rw [hidden_eq, List.mem_cons, List.mem_append, or_iff_right hfront, or_iff_left hback,
    Utf8.mem_encode_iff hc hb] at h
  exact Utf8.mem_of_mem_lossy hc hb h

/-- The hidden name can be the name of an entry, unless a slash or a null stands in it. -/
theorem isName_hidden_of {name : List UInt8} (hslash : Path.slash ∉ name)
    (hnull : Path.null ∉ hidden name) : IsName (hidden name) := by
  refine ⟨?_, ?_, ?_, hnull⟩
  · simp [hidden_eq, Path.isIdle, Utf8.octets, Utf8.encode]
  -- Two dots are shorter than the ending alone
  · intro hdots
    have hlength := congrArg List.length hdots
    have hend : (Utf8.octets ".tmp").length = 4 := rfl
    rw [hidden_eq, List.length_cons, List.length_append, hend] at hlength
    simp at hlength
  · exact mt (mem_of_mem_hidden (c := '/') rfl (by decide) (by decide) (by decide)) hslash

/-- The hidden name can be the name of an entry as well. -/
theorem isName_hidden {name : List UInt8} (h : IsName name) : IsName (hidden name) :=
  isName_hidden_of h.no_slash <|
    mt (mem_of_mem_hidden (c := '\x00') rfl (by decide) (by decide) (by decide)) h.no_null

/-- No name is its own hidden name: what is shown of the hidden name is longer. -/
theorem hidden_ne (name : List UInt8) : hidden name ≠ name := by
  intro h
  have hshown := congrArg (fun octets => (Utf8.lossy octets).length) h
  simp only [hidden, Utf8.octets, Utf8.lossy_encode, hiddenName, Utf8.shown, String.toList_append,
    String.toList_ofList, List.length_append] at hshown
  have hfront : ".".toList.length = 1 := rfl
  omega

/-- The hidden name of a text is five octets longer. -/
theorem length_hidden (s : String) :
    (hidden (Utf8.octets s)).length = (Utf8.octets s).length + 5 := by
  have hend : (Utf8.octets ".tmp").length = 4 := rfl
  rw [hidden_eq, Utf8.octets, Utf8.lossy_encode, List.length_cons, List.length_append, hend]

/-! ## The hidden file beside a path -/

/-- The place of the hidden file beside a path that ends in a name. -/
def hiddenPlace (here : Location) (path : Path) (name : List UInt8) : Location :=
  (path.place here).dropLast ++ [hidden name]

/-- A hidden file does not take the place of the root. -/
theorem hiddenPlace_ne_nil (here : Location) (path : Path) (name : List UInt8) :
    hiddenPlace here path name ≠ [] :=
  List.append_ne_nil_of_right_ne_nil _ (List.cons_ne_nil _ _)

/-- The hidden file beside a name in a directory. -/
theorem hiddenPlace_join (here : Location) (dir : Path) {name : List UInt8} (h : IsName name) :
    hiddenPlace here (dir.join ⟨name⟩) name = dir.placeOf here (hidden name) := by
  rw [hiddenPlace, Path.place_join_name here dir h, Path.placeOf, Path.placeOf,
    List.dropLast_concat]

/-- In a directory, a file and its hidden sibling have different places. -/
theorem placeOf_ne_placeOf_hidden (here : Location) (dir : Path) (name : List UInt8) :
    dir.placeOf here name ≠ dir.placeOf here (hidden name) := by
  rw [ne_eq, Path.placeOf_inj]
  exact (hidden_ne name).symm

/-- A document has come to stand under a path, and its hidden file is gone. -/
structure Arrived (here : Location) (path : Path) (name : List UInt8) (content : ByteArray)
    (t t' : FileTree) : Prop where
  stay : DirectoriesStay t t'
  free : t.get? (path.place here) ≠ some .directory
  located : ∃ special, t'.locate here path special = .ok (path.place here, false)
  there : t'.get? (path.place here) = some (.file content)
  gone : t'.get? (hiddenPlace here path name) = none
  others : SameBut (fun _ => False)
    (fun l => l = path.place here ∨ l = hiddenPlace here path name) t t'

section Hidden

variable {here : Location} {path : Path} {last : List UInt8} (hlast : path.fileName? = some last)
  {t t₁ t₂ : FileTree} {content : ByteArray}

include hlast

/-- The hidden file stands elsewhere than the path. -/
theorem place_ne_hiddenPlace : path.place here ≠ hiddenPlace here path last := by
  rw [Path.place_of_fileName? here hlast, hiddenPlace]
  intro h
  have hname : last = hidden last := by simpa using h
  exact hidden_ne last hname.symm

/-- Where the hidden file can be written, it is written beside the path. -/
theorem write_hidden
    (h : t.write here (path.withFileName (hidden last)) content = .ok t₁) :
    t₁ = t.put (hiddenPlace here path last) (.file content) ∧
      t.get? (hiddenPlace here path last) ≠ some .directory ∧
      (path.withFileName (hidden last)).place here = hiddenPlace here path last := by
  obtain ⟨hput, hfree, -, special, hlocate⟩ := FileTree.write_eq_put h
  obtain ⟨-, -, -, -, hslash⟩ := Path.steps_of_fileName? hlast
  -- The path of the hidden file is a path that a file can be written under
  have hnull : Path.null ∉ hidden last := by
    obtain ⟨dir, hjoin, -⟩ := Path.withFileName_eq hlast
    have hrelative : (⟨hidden last⟩ : Path).isAbsolute = false := by
      simp [Path.isAbsolute, hidden_eq]
    intro hmem
    apply FileTree.null_notMem_of_locate hlocate
    rw [hjoin, ← List.contains_iff_mem, FileTree.contains_null_join dir hrelative]
    simp [hmem]
  have hplace := Path.place_withFileName here hlast (isName_hidden_of hslash hnull)
  rw [hplace] at hput hfree
  exact ⟨hput, hfree, hplace⟩

/-- Writing the hidden file touches nothing else. -/
theorem sameBut_of_write_hidden
    (h : t.write here (path.withFileName (hidden last)) content = .ok t₁) :
    DirectoriesStay t t₁ ∧ SameBut (fun _ => False) (· = hiddenPlace here path last) t t₁ := by
  obtain ⟨rfl, hfree, -⟩ := write_hidden hlast h
  exact ⟨FileTree.directoriesStay_put (hiddenPlace_ne_nil here path last) hfree _,
    FileTree.sameBut_put _ _ _ _⟩

/-- The document comes to stand under the path once its hidden file has been written and moved. -/
theorem arrived_of_rename
    (hwrite : t.write here (path.withFileName (hidden last)) content = .ok t₁)
    (hrename : t₁.rename here (path.withFileName (hidden last)) path = .ok t₂) :
    Arrived here path last content t t₂ := by
  obtain ⟨hstay, hwritten⟩ := sameBut_of_write_hidden hlast hwrite
  obtain ⟨hput, -, hplace⟩ := write_hidden hlast hwrite
  have hne : path.place here ≠ hiddenPlace here path last := place_ne_hiddenPlace hlast
  have hbeside := hiddenPlace_ne_nil here path last
  have hplaceNe : path.place here ≠ [] := by
    rw [Path.place_of_fileName? here hlast]
    exact List.append_ne_nil_of_right_ne_nil _ (List.cons_ne_nil _ _)
  have hthere : t₁.get? (hiddenPlace here path last) = some (.file content) := by
    rw [hput]
    exact t.get?_put_self hbeside _
  -- What is moved is what has been written
  obtain ⟨found, hfile, hfree, rfl, special, hlocate⟩ := FileTree.rename_eq_move hrename
  rw [hplace] at hfile ⊢
  obtain rfl : found = content := by
    rw [hthere] at hfile
    exact (Entry.file.inj (Option.some.inj hfile)).symm
  have hclear : DirectoriesStay t₁ (t₁.erase (hiddenPlace here path last)) :=
    FileTree.directoriesStay_erase hbeside (by simp [hthere])
  have hmove : DirectoriesStay t₁
      ((t₁.erase (hiddenPlace here path last)).put (path.place here) (.file found)) :=
    hclear.trans (FileTree.directoriesStay_put hplaceNe (by rwa [t₁.get?_erase_of_ne hne]) _)
  refine ⟨hstay.trans hmove, ?_, ⟨special, FileTree.locate_mono hmove hlocate⟩,
    FileTree.get?_put_self _ hplaceNe _, ?_, ?_⟩
  · rwa [← hwritten.get?_eq hne]
  · rw [FileTree.get?_put_of_ne _ hne.symm]
    exact t₁.get?_erase_self hbeside
  · have herase := FileTree.sameBut_erase (fun _ => False) t₁ (hiddenPlace here path last)
    exact ((hwritten.trans herase).mono (fun _ => id) fun _ => .inr).trans
      ((FileTree.sameBut_put _ _ _ _).mono (fun _ => id) fun _ => .inl)

end Hidden

/-! ## What can happen -/

/-- What can happen to a tree while a document is written under a path: the result, the trees that
the operations leave one after the other, and the last one of them.  It is known whether the removal
of the hidden file can be relied on. -/
inductive Course (here : Location) (path : Path) (name : List UInt8) (content : ByteArray)
    (clears : Prop) (t : FileTree) : Except Fault Unit → List FileTree → FileTree → Prop
  /-- The hidden file is not written, and something may be left of it. -/
  | spoiled {document : String} {hiddenPath : Path} {cause : FileFault} {t₁ : FileTree}
      (stay : DirectoriesStay t t₁)
      (left : SameBut (fun _ => False) (· = hiddenPlace here path name) t t₁) :
      Course here path name content clears t (.error (.write document hiddenPath cause)) [t₁] t₁
  /-- The hidden file is written and not moved, and it is removed if it can be. -/
  | unmoved {document : String} {cause : FileFault} {t₁ t₂ : FileTree}
      (written : SameBut (fun _ => False) (· = hiddenPlace here path name) t t₁)
      (stay : DirectoriesStay t t₂)
      (left : SameBut (fun _ => False) (· = hiddenPlace here path name) t t₂)
      (cleared : clears → t₂.get? (hiddenPlace here path name) = none) :
      Course here path name content clears t (.error (.move document path cause)) [t₁, t₁, t₂] t₂
  /-- The hidden file is written and moved into place. -/
  | moved {t₁ t₂ : FileTree}
      (written : SameBut (fun _ => False) (· = hiddenPlace here path name) t t₁)
      (arrived : Arrived here path name content t t₂) :
      Course here path name content clears t (.ok ()) [t₁, t₂] t₂

namespace Course

variable {here : Location} {path : Path} {name : List UInt8} {content : ByteArray} {clears : Prop}
  {t t' : FileTree} {result : Except Fault Unit} {trees : List FileTree}
  (h : Course here path name content clears t result trees t')

include h

/-- All the while the path stands for what it stood for, or for the whole document. -/
theorem get?_of_mem (hlast : path.fileName? = some name) {seen : FileTree} (hseen : seen ∈ trees) :
    seen.get? (path.place here) = t.get? (path.place here) ∨
      seen.get? (path.place here) = some (.file content) := by
  have hne : path.place here ≠ hiddenPlace here path name := place_ne_hiddenPlace hlast
  -- Only a move that succeeds changes what the path stands for
  cases h with
  | spoiled stay left =>
    rw [List.mem_singleton.1 hseen]
    exact .inl (left.get?_eq hne)
  | unmoved written stay left cleared =>
    simp only [List.mem_cons, List.not_mem_nil, or_false] at hseen
    rcases hseen with rfl | rfl | rfl
    · exact .inl (written.get?_eq hne)
    · exact .inl (written.get?_eq hne)
    · exact .inl (left.get?_eq hne)
  | moved written arrived =>
    simp only [List.mem_cons, List.not_mem_nil, or_false] at hseen
    rcases hseen with rfl | rfl
    · exact .inl (written.get?_eq hne)
    · exact .inr arrived.there

/-- A failure leaves everything as it was but for the hidden file. -/
theorem of_error {fault : Fault} (hresult : result = .error fault) :
    SameBut (fun _ => False) (· = hiddenPlace here path name) t t' := by
  cases h with
  | spoiled stay left => exact left
  | unmoved written stay left cleared => exact left
  | moved => exact nomatch hresult

/-- A move that fails leaves no hidden file, if its removal can be relied on. -/
theorem of_move {document : String} {cause : FileFault}
    (hresult : result = .error (.move document path cause)) (hclears : clears) :
    t'.get? (hiddenPlace here path name) = none := by
  cases h with
  | spoiled => exact nomatch hresult
  | unmoved written stay left cleared => exact cleared hclears
  | moved => exact nomatch hresult

/-- A success leaves the document. -/
theorem of_ok (hresult : result = .ok ()) : Arrived here path name content t t' := by
  cases h with
  | spoiled => exact nomatch hresult
  | unmoved => exact nomatch hresult
  | moved written arrived => exact arrived

/-- Directories stay directories on the way from one tree to the other. -/
theorem stay : DirectoriesStay t t' := by
  cases h with
  | spoiled stay left => exact stay
  | unmoved written stay left cleared => exact stay
  | moved written arrived => exact arrived.stay

end Course

/-! ## Writing -/

section Writing

variable {σ : Type} (fs : FileSystem (StateM σ)) (tree : σ → FileTree) (value : Value) (path : Path)
  (document : String) (s : σ)

/-- Writing while the file system is watched. -/
def writeWatched : Except Fault Unit × FileSystem.Watched σ :=
  (writeJson (fs.watched tree) value path document).run ⟨s, []⟩

/-- No operation is performed for a path that does not end in a name. -/
theorem writeWatched_unnamed (hlast : path.fileName? = none) :
    writeWatched fs tree value path document s = (.error (.unnamed path), ⟨s, []⟩) := by
  simp only [writeWatched, writeJson, hlast]
  rfl

variable {fs}

/-- Writing goes through the hidden path, which is cleared if the move fails. -/
theorem run_writeJson {path : Path} {last : List UInt8} (hlast : path.fileName? = some last) :
    (writeJson fs value path document).run s =
      match (fs.write (path.withFileName (hidden last)) value.pretty.toUTF8).run s with
      | (.error cause, s₁) =>
        (.error (.write document (path.withFileName (hidden last)) cause), s₁)
      | (.ok (), s₁) =>
        match (fs.rename (path.withFileName (hidden last)) path).run s₁ with
        | (.ok (), s₂) => (.ok (), s₂)
        | (.error cause, s₂) => (.error (.move document path cause),
          ((fs.removeFile (path.withFileName (hidden last))).run s₂).2) := by
  simp only [writeJson, hlast, StateT.run_bind]
  -- The write fails, or it succeeds and then the move fails or succeeds
  rcases (fs.write (path.withFileName (hidden last)) value.pretty.toUTF8).run s with
    ⟨_ | ⟨⟩, s₁⟩
  · rfl
  · show StateT.run (fs.rename _ path >>= _) s₁ = _
    rw [StateT.run_bind]
    dsimp only
    rcases (fs.rename (path.withFileName (hidden last)) path).run s₁ with ⟨_ | ⟨⟩, s₂⟩ <;> rfl

variable (fs)

/-- Writing while the file system is watched goes through the same operations, and shows their
trees. -/
theorem writeWatched_eq {last : List UInt8} (hlast : path.fileName? = some last) :
    writeWatched fs tree value path document s =
      let hiddenPath := path.withFileName (hidden last)
      match (fs.write hiddenPath value.pretty.toUTF8).run s with
      | (.error cause, s₁) => (.error (.write document hiddenPath cause), ⟨s₁, [tree s₁]⟩)
      | (.ok (), s₁) =>
        match (fs.rename hiddenPath path).run s₁ with
        | (.ok (), s₂) => (.ok (), ⟨s₂, [tree s₁, tree s₂]⟩)
        | (.error cause, s₂) =>
          let s₃ := ((fs.removeFile hiddenPath).run s₂).2
          (.error (.move document path cause), ⟨s₃, [tree s₁, tree s₂, tree s₃]⟩) := by
  rw [writeWatched, run_writeJson value document _ hlast]
  simp only [FileSystem.run_watched_write, FileSystem.run_watched_rename,
    FileSystem.run_watched_removeFile, FileSystem.run_watch]
  rcases (fs.write (path.withFileName (hidden last)) value.pretty.toUTF8).run s with
    ⟨_ | ⟨⟩, s₁⟩
  · rfl
  · dsimp only
    rcases (fs.rename (path.withFileName (hidden last)) path).run s₁ with ⟨_ | ⟨⟩, s₂⟩ <;> rfl

/-- Watching changes nothing. -/
theorem run_writeJson_eq_writeWatched :
    (writeJson fs value path document).run s =
      ((writeWatched fs tree value path document s).1,
        (writeWatched fs tree value path document s).2.state) := by
  cases hlast : path.fileName? with
  | none =>
    rw [writeWatched_unnamed fs tree value path document s hlast, writeJson, hlast]
    rfl
  | some last =>
    rw [run_writeJson value document s hlast, writeWatched_eq fs tree value path document s hlast]
    dsimp only
    rcases (fs.write (path.withFileName (hidden last)) value.pretty.toUTF8).run s with
      ⟨_ | ⟨⟩, s₁⟩
    · rfl
    · dsimp only
      rcases (fs.rename (path.withFileName (hidden last)) path).run s₁ with ⟨_ | ⟨⟩, s₂⟩ <;> rfl

/-- After a move that has failed a file is removed, if it is one in the tree. -/
def Clears (here : Location) (hiddenPath target : Path) (content : ByteArray) : Prop :=
  let s₂ := ((fs.rename hiddenPath target).run ((fs.write hiddenPath content).run s).2).2
  ∀ t, (tree s₂).removeFile here hiddenPath = .ok t → ((fs.removeFile hiddenPath).run s₂).1 = .ok ()

variable {fs tree} {here : Location} (hfs : fs.Keeps here tree)

include hfs

/-- The hidden file that is to be removed is gone, if its removal can be relied on, or is left as
it was. -/
private theorem sameBut_of_removeFile {t t₁ : FileTree} {p : Path} {content : ByteArray}
    (hwrite : t.write here p content = .ok t₁) (hsame : tree s = t₁) :
    DirectoriesStay t₁ (tree ((fs.removeFile p).run s).2) ∧
      SameBut (fun _ => False) (· = p.place here) t₁ (tree ((fs.removeFile p).run s).2) ∧
      ((∀ t', (tree s).removeFile here p = .ok t' → ((fs.removeFile p).run s).1 = .ok ()) →
        (tree ((fs.removeFile p).run s).2).get? (p.place here) = none) := by
  have hremove := FileTree.removeFile_of_write hwrite
  obtain ⟨hput, -, hne, -⟩ := FileTree.write_eq_put hwrite
  -- Either the file is removed, or the tree is left as it was
  rcases hfs.removeFile p s with ⟨-, hremoved⟩ | ⟨fault, hfault, hleft⟩
  · dsimp only at hremoved
    rw [hsame, hremove] at hremoved
    rw [← Except.ok.inj hremoved]
    refine ⟨FileTree.directoriesStay_erase hne ?_, FileTree.sameBut_erase _ _ _,
      fun _ => t₁.get?_erase_self hne⟩
    simp [hput, t.get?_put_self hne]
  · have hleft : tree ((fs.removeFile p).run s).2 = tree s := hleft
    rw [hleft, hsame]
    refine ⟨.refl t₁, .refl, fun hclears => ?_⟩
    rw [hclears _ hremove] at hfault
    exact nomatch hfault

/-- All that can happen while a document is written. -/
theorem course_of_writeJson {last : List UInt8} (hlast : path.fileName? = some last) :
    Course here path last value.pretty.toUTF8
      (Clears fs tree s here (path.withFileName (hidden last)) path value.pretty.toUTF8)
      (tree s) (writeWatched fs tree value path document s).1
      (writeWatched fs tree value path document s).2.trees
      (tree (writeWatched fs tree value path document s).2.state) := by
  let hiddenPath := path.withFileName (hidden last)
  rw [writeWatched_eq fs tree value path document s hlast]
  unfold Clears
  have hwrite := hfs.write hiddenPath value.pretty.toUTF8 s
  dsimp only
  generalize (fs.write hiddenPath value.pretty.toUTF8).run s = done₁ at hwrite ⊢
  obtain ⟨result₁, s₁⟩ := done₁
  -- The three ways to end: in the write, in the move, and with success
  rcases hwrite with ⟨hok, hwrite⟩ | ⟨fault, herror, hspoiled⟩
  · obtain rfl : result₁ = .ok () := hok
    obtain ⟨hstay, hwritten⟩ := sameBut_of_write_hidden hlast hwrite
    obtain ⟨-, -, hplace⟩ := write_hidden hlast hwrite
    have hrename := hfs.rename hiddenPath path s₁
    dsimp only
    generalize (fs.rename hiddenPath path).run s₁ = done₂ at hrename ⊢
    obtain ⟨result₂, s₂⟩ := done₂
    rcases hrename with ⟨hok, hrename⟩ | ⟨fault, herror, hsame⟩
    · obtain rfl : result₂ = .ok () := hok
      exact .moved hwritten (arrived_of_rename hlast hwrite hrename)
    · obtain rfl : result₂ = .error fault := herror
      have hsame : tree s₂ = tree s₁ := hsame
      obtain ⟨hleftStay, hleft, hcleared⟩ := sameBut_of_removeFile s₂ hfs hwrite hsame
      rw [hplace] at hleft hcleared
      dsimp only
      rw [hsame] at hcleared ⊢
      exact .unmoved hwritten (hstay.trans hleftStay) (hwritten.trans hleft) hcleared
  · obtain rfl : result₁ = .error fault := herror
    rcases hspoiled with hsame | ⟨remains, hremains⟩
    · have hsame : tree s₁ = tree s := hsame
      dsimp only
      rw [hsame]
      exact .spoiled (.refl _) .refl
    · obtain ⟨hstay, hleft⟩ := sameBut_of_write_hidden hlast hremains
      exact .spoiled hstay hleft

/-- A document that has been written stands under its path, which ends in a name. -/
theorem arrived_of_writeJson (hok : ((writeJson fs value path document).run s).1 = .ok ()) :
    ∃ name, path.fileName? = some name ∧
      Arrived here path name value.pretty.toUTF8 (tree s)
        (tree ((writeJson fs value path document).run s).2) := by
  rw [run_writeJson_eq_writeWatched fs tree] at hok ⊢
  cases hlast : path.fileName? with
  | none =>
    rw [writeWatched_unnamed fs tree value path document s hlast] at hok
    exact nomatch hok
  | some name => exact ⟨name, rfl, (course_of_writeJson value path document s hfs hlast).of_ok hok⟩

end Writing

end Archive

end TweetHarvest
