import TweetHarvest.Scrape.World

/-!
# Saving in a world

Working on the files of a world is working on its disk, so saving a document changes nothing of a
world but its disk.

## Key results

- `Archive.save_onDisk`: saving in a world is saving on its disk
- `Scrape.run_save`: what the last part of a scrape does to a world
-/

namespace TweetHarvest

namespace World

/-- Two steps on the disk of a world are two steps on its disk. -/
theorem onDisk_bind {α β : Type} (x : StateM Disk α) (g : α → StateM Disk β) :
    onDisk (x >>= g) = onDisk x >>= fun a => onDisk (g a) := rfl

end World

namespace FileSystem

variable (fs : FileSystem (StateM Disk))

/-- A directory that is there already is fine on the disk of a world as on the disk. -/
theorem settle_onDisk (p : Path) (result : Except FileFault Unit) :
    makeDirsUp.settle (fs.lift World.onDisk) p result =
      World.onDisk (makeDirsUp.settle fs p result) := by
  rcases result with fault | ⟨⟩
  · simp only [makeDirsUp.settle, World.onDisk_bind]
    congr 1
    funext isDir
    cases isDir <;> rfl
  · rfl

/-- Directories are made on the disk of a world as on the disk. -/
theorem makeDirsUp_onDisk (levels : Nat) (p : Path) :
    (fs.lift World.onDisk).makeDirsUp levels p = World.onDisk (fs.makeDirsUp levels p) := by
  induction levels generalizing p with
  -- The number of levels bounds the recursion on the parents
  | zero =>
    unfold makeDirsUp
    split
    · rfl
    · simp only [World.onDisk_bind]
      congr 1
      funext result
      split
      · rfl
      · rfl
      · exact fs.settle_onDisk p _
  | succ levels ih =>
    unfold makeDirsUp
    split
    · rfl
    · simp only [World.onDisk_bind]
      congr 1
      funext result
      split
      · rfl
      · cases hp : p.parent? with
        | none => rfl
        | some parent =>
          simp only [ih, World.onDisk_bind]
          congr 1
          funext above
          rcases above with fault | ⟨⟩
          · rfl
          · simp only [World.onDisk_bind, settle_onDisk]
            rfl
      · exact fs.settle_onDisk p _

end FileSystem

namespace Archive

open Json (Value)

variable (fs : FileSystem (StateM Disk))

/-- A directory is made sure of on the disk of a world as on the disk. -/
theorem ensureDirectory_onDisk (dir : Path) :
    ensureDirectory (fs.lift World.onDisk) dir = World.onDisk (ensureDirectory fs dir) := by
  simp only [ensureDirectory, FileSystem.makeDirs, fs.makeDirsUp_onDisk]
  rfl

/-- Writing in a world is writing on its disk. -/
theorem writeJson_onDisk (value : Value) (path : Path) (document : String) :
    writeJson (fs.lift World.onDisk) value path document =
      World.onDisk (writeJson fs value path document) := by
  unfold writeJson
  -- Both sides write the hidden file, move it, and remove it if that fails
  split
  · rfl
  · next name _ =>
    simp only [World.onDisk_bind]
    congr 1
    funext written
    rcases written with cause | ⟨⟩
    · rfl
    · simp only [World.onDisk_bind]
      congr 1
      funext moved
      rcases moved with cause | ⟨⟩ <;> rfl

/-- Saving in a world is saving on its disk. -/
theorem save_onDisk (value : Value) (dir : Path) (name document : String) :
    save (fs.lift World.onDisk) value dir name document =
      World.onDisk (save fs value dir name document) := by
  simp only [save, World.onDisk_bind, ensureDirectory_onDisk]
  congr 1
  funext made
  rcases made with fault | ⟨⟩
  · rfl
  · simp only [World.onDisk_bind, writeJson_onDisk]
    rfl

end Archive

namespace Scrape

open Json (Value)

section

variable (o : ScrapeOptions) (r : JobRequest) (dataset : String) (items : List Value)
  (time : Instant)

/-- The report on the items of a dataset. -/
def reportOn : Report :=
  .ofTimeline r.username r.tweets (Timeline.ofItems items r.username) time

/-- The document that is saved. -/
def savedValue : Value :=
  if o.raw then (RawDump.mk items dataset).toValue else (reportOn r items time).toValue

/-- The name under which it is saved. -/
def savedName : String :=
  if o.raw then RawDump.fileName r.username time else Report.fileName r.username time

/-- What it is called in messages. -/
def savedTitle : String := if o.raw then "raw dataset dump" else "report"

/-- The outcome of a scrape that has saved its document under `path`. -/
def savedEnvelope (path : Path) : Envelope :=
  if o.raw then dumpEnvelope r.username ⟨items, dataset⟩ path
  else reportEnvelope o (reportOn r items time) dataset path

end

/-- What comes of saving. -/
def savedResult (envelope : Path → Envelope) :
    Except Archive.Fault Path → Except ScrapeFault Envelope
  | .error fault => .error (.other fault.chain)
  | .ok path => .ok (envelope path)

/-- Reports and dumps are saved in the same way. -/
theorem save_eq {m : Type → Type} [Monad m] [LawfulMonad m] (machine : Machine m)
    (o : ScrapeOptions) (shared : Path) (r : JobRequest) (dataset : String) (items : List Value) :
    save machine o shared r dataset items = (do
      let time ← machine.now
      let saved ← Archive.save machine.files (savedValue o r dataset items time)
        (Archive.directory shared) (savedName o r time) (savedTitle o)
      return savedResult (savedEnvelope o r dataset items time) saved) := by
  unfold save
  congr 1
  funext time
  -- Both branches save in the same way, and differ in what, under which name and as what
  by_cases hraw : o.raw = true
  · simp only [if_pos hraw, Archive.saveDump, savedValue, savedName, savedTitle]
    congr 1
    funext saved
    cases saved <;> simp only [savedResult, savedEnvelope, if_pos hraw]
  · simp only [if_neg hraw, Archive.saveReport, savedValue, savedName, savedTitle]
    congr 1
    funext saved
    cases saved <;> simp only [savedResult, savedEnvelope, if_neg hraw, reportOn]

/-- Saving in a world changes its disk, and nothing else. -/
theorem run_save (here : Location) (o : ScrapeOptions) (shared : Path) (r : JobRequest)
    (dataset : String) (items : List Value) (w : World) :
    (save (World.machine here) o shared r dataset items).run w =
      (savedResult (savedEnvelope o r dataset items w.time)
        ((Archive.save (.ofDisk here) (savedValue o r dataset items w.time)
          (Archive.directory shared) (savedName o r w.time) (savedTitle o)).run w.disk).1,
      { w with disk := ((Archive.save (.ofDisk here) (savedValue o r dataset items w.time)
          (Archive.directory shared) (savedName o r w.time) (savedTitle o)).run w.disk).2 }) := by
  rw [save_eq, show (World.machine here).files = (FileSystem.ofDisk here).lift World.onDisk from rfl]
  simp only [Archive.save_onDisk]
  rfl

end Scrape

end TweetHarvest
