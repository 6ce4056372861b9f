import Wireforge.Domain.Entities
import Wireforge.Lib.Program

/-!
# Encrypted backups

The backup commands as programs over calls to the file system and to SQLite. `restore_cases` says
what `restore` leaves for every choice of failing calls, where a failed write may leave anything in
the file it was writing: what the database says changes at one call only, the renaming of the file
beside the live one.
-/

namespace Wireforge

open Effect

/-! ## Paths -/

namespace Paths

/-- A reversed path without the separators and the `.` components at its end. -/
def trimEnd : List Char → List Char
  | [] => []
  | c :: rest =>
      if c = '/' || c = '.' && rest.head? = some '/' then trimEnd rest else c :: rest

/-- The name of the file, if the path ends in one. -/
def fileName (path : List Char) : Option (List Char) :=
  let name := ((trimEnd path.reverse).takeWhile (· ≠ '/')).reverse
  if name = [] || name = ['.'] || name = ['.', '.'] then none else some name

/-- The directory part of a path, with its separator. -/
def directory (path : List Char) : List Char :=
  ((trimEnd path.reverse).dropWhile (· ≠ '/')).reverse

/-- The name of a file without its last extension. -/
def fileStem (name : List Char) : List Char :=
  let before := (name.reverse.dropWhile (· ≠ '.')).tail.reverse
  if before = [] then name else before

/-- The path with another extension. A path that names no file stays as it is. -/
def withExtension (path : String) (extension : String) : String :=
  match fileName path.toList with
  | none => path
  | some name =>
      String.ofList (directory path.toList ++ fileStem name ++ '.' :: extension.toList)

/-- The path of the directory that a path lies in. -/
def parent (path : String) : Option String :=
  if trimEnd path.toList.reverse = [] then none
  else
    let dir := (trimEnd (directory path.toList).reverse).reverse
    some (if dir = [] && path.startsWith "/" then "/" else String.ofList dir)

example : withExtension "data/wireforge.db" "restore.tmp" = "data/wireforge.restore.tmp" ∧
    withExtension ".db" "restore.tmp" = ".db.restore.tmp" ∧ withExtension ".." "tmp" = ".." ∧
    parent "/var/backup/" = some "/var" ∧ parent "x.age" = some "" ∧ parent "/" = none := by
  decide +kernel

/-- What is cut off at the end of a path contains a separator. -/
theorem trim_end_append (chars : List Char) :
    ∃ cut, chars = cut ++ trimEnd chars ∧ (cut = [] ∨ '/' ∈ cut) ∧
      (chars.head? = some '/' → '/' ∈ cut) := by
  induction chars with
  | nil => exact ⟨[], rfl, .inl rfl, by simp⟩
  | cons c rest ih =>
      obtain ⟨cut, hrest, hcut, hhead⟩ := ih
      unfold trimEnd
      split
      · rename_i hc
        refine ⟨c :: cut, congrArg (c :: ·) hrest, .inr ?_, fun h => ?_⟩
        · simp only [Bool.or_eq_true, Bool.and_eq_true, decide_eq_true_eq] at hc
          rcases hc with rfl | ⟨-, hslash⟩
          · exact List.mem_cons_self
          · exact List.mem_cons_of_mem c (hhead hslash)
        · rw [Option.some.inj h]
          exact List.mem_cons_self
      · rename_i hc
        refine ⟨[], rfl, .inl rfl, fun h => absurd ?_ hc⟩
        simp [Option.some.inj h]

/-- A name is its stem, and after it nothing or an extension without a dot. -/
theorem file_stem_append (name : List Char) :
    ∃ rest, name = fileStem name ++ rest ∧
      ∀ extension, rest = '.' :: extension → '.' ∉ extension := by
  unfold fileStem
  simp only
  split
  · exact ⟨[], by simp, by simp⟩
  · rename_i hbefore
    cases hdrop : name.reverse.dropWhile (· ≠ '.') with
    | nil => exact absurd (by rw [hdrop]; rfl) hbefore
    | cons c before =>
        have hc : c = '.' := by
          have hhead := List.head?_dropWhile_not (· ≠ '.') name.reverse
          rw [hdrop] at hhead
          simpa using hhead
        have hname : name =
            before.reverse ++ '.' :: (name.reverse.takeWhile (· ≠ '.')).reverse := by
          have hsplit := List.takeWhile_append_dropWhile (p := (· ≠ '.')) (l := name.reverse)
          rw [hdrop, hc] at hsplit
          conv_lhs => rw [← List.reverse_reverse name, ← hsplit]
          rw [List.reverse_append, List.reverse_cons, List.append_assoc]
          rfl
        refine ⟨'.' :: (name.reverse.takeWhile (· ≠ '.')).reverse, hname, ?_⟩
        intro extension hextension hmem
        rw [← (List.cons.inj hextension).2, List.mem_reverse] at hmem
        simpa using List.mem_takeWhile_imp hmem

/-- A path that names a file: its directory, the name, and what was cut off. -/
theorem directory_append_name {path name : List Char} (h : fileName path = some name) :
    ∃ cut, path = directory path ++ name ++ cut ∧ (cut = [] ∨ '/' ∈ cut) := by
  obtain ⟨cut, hpath, hcut, -⟩ := trim_end_append path.reverse
  have hname : name = ((trimEnd path.reverse).takeWhile (· ≠ '/')).reverse := by
    unfold fileName at h
    simp only at h
    split at h
    · cases h
    · exact (Option.some.inj h).symm
  refine ⟨cut.reverse, ?_, ?_⟩
  · rw [← List.reverse_inj, hname, directory]
    simp only [List.reverse_append, List.reverse_reverse, List.takeWhile_append_dropWhile]
    exact hpath
  · simpa using hcut

theorem with_extension_of_name {path : String} {name : List Char}
    (h : fileName path.toList = some name) (extension : String) :
    (withExtension path extension).toList =
      directory path.toList ++ fileStem name ++ '.' :: extension.toList := by
  unfold withExtension
  rw [h]
  exact String.toList_ofList

/-- The file beside another one is not that one. -/
theorem with_extension_ne {path : String} (h : fileName path.toList ≠ none) :
    withExtension path "restore.tmp" ≠ path := by
  intro heq
  obtain ⟨name, hname⟩ := Option.ne_none_iff_exists'.mp h
  obtain ⟨cut, hpath, hcut⟩ := directory_append_name hname
  obtain ⟨rest, hstem, hrest⟩ := file_stem_append name
  have hlist := with_extension_of_name hname "restore.tmp"
  rw [heq] at hlist
  -- The two ends of the path are the same.
  have hend : '.' :: "restore.tmp".toList = rest ++ cut := by
    have hsame := hlist.symm.trans hpath
    generalize fileStem name = stem at hstem hsame
    rw [hstem, List.append_assoc, List.append_assoc, List.append_assoc] at hsame
    exact List.append_cancel_left (List.append_cancel_left hsame)
  rcases hcut with rfl | hcut
  · rw [List.append_nil] at hend
    exact hrest _ hend.symm (by decide)
  · have hslash : '/' ∈ '.' :: "restore.tmp".toList := hend ▸ List.mem_append_right _ hcut
    revert hslash
    decide

/-- A path names a file when its last character is neither a separator nor a dot. -/
theorem file_name_append_ne_none {chars : List Char} {c : Char} (hslash : c ≠ '/')
    (hdot : c ≠ '.') : fileName (chars ++ [c]) ≠ none := by
  have htrim : trimEnd (chars ++ [c]).reverse = c :: chars.reverse := by
    rw [List.reverse_append, List.reverse_singleton, List.singleton_append, trimEnd]
    simp [hslash, hdot]
  unfold fileName
  rw [htrim, List.takeWhile_cons_of_pos (by simpa using hslash), List.reverse_cons]
  generalize (chars.reverse.takeWhile (· ≠ '/')).reverse = front
  have hname : ∀ name : List Char, name.getLast? = some '.' → front ++ [c] ≠ name := by
    intro name hname heq
    rw [← heq, List.getLast?_concat] at hname
    exact hdot (Option.some.inj hname)
  simp [hname ['.'] rfl, hname ['.', '.'] rfl]

/-- A file beside another one has a name if the other one has. -/
theorem file_name_with_extension (path : String) :
    fileName (withExtension path "restore.tmp").toList ≠ none ↔ fileName path.toList ≠ none := by
  cases hname : fileName path.toList with
  | none =>
      unfold withExtension
      rw [hname]
      exact iff_of_false (fun h => h hname) fun h => h rfl
  | some name =>
      refine iff_of_true ?_ (Option.some_ne_none name)
      rw [with_extension_of_name hname]
      -- The last character is neither a separator nor a dot.
      have hlast : '.' :: "restore.tmp".toList = ".restore.tm".toList ++ ['p'] := by decide
      rw [hlast, ← List.append_assoc]
      exact file_name_append_ne_none (by decide) (by decide)

theorem with_extension_ne_wal (path : String) :
    withExtension path "restore.tmp" ≠ path ++ "-wal" := by
  intro heq
  cases hname : fileName path.toList with
  | none =>
      unfold withExtension at heq
      rw [hname] at heq
      have hlength := congrArg String.length heq
      simp at hlength
  | some name =>
      have hlist := with_extension_of_name hname "restore.tmp"
      rw [heq] at hlist
      have hlast := congrArg List.getLast? hlist
      simp at hlast

end Paths

/-! ## Calls -/

namespace Cli

/-- The calls of the backup commands. -/
inductive Call where
  | tempFile
  | removeFile (path : String)
  | vacuumInto (target : String)
  | readFile (path : String)
  | createDirAll (path : String)
  | writeFile (path : String) (bytes : ByteArray)
  | checkpoint
  | rename (source target : String)

/-- What a call returns. -/
@[reducible] def Call.Reply : Call → Type
  | .tempFile => Except String String
  | .readFile _ => Except String ByteArray
  | .removeFile _ | .vacuumInto _ | .createDirAll _ | .writeFile _ _ => Except String Unit
  | .checkpoint | .rename _ _ => Except String Unit

/-- The program that issues one call. -/
abbrev Call.request (call : Call) : Program Call Call.Reply call.Reply :=
  Program.request call

/-- Why a step failed. -/
inductive Cause where
  | call (text : String)
  | core (error : CoreError)
  deriving DecidableEq

/-- An error: the step that failed, and why it did. -/
structure CliError where
  context : String
  source : Option Cause
  deriving DecidableEq

/-- A command. -/
abbrev Command : Type → Type := Fallible Call Call.Reply CliError

/-- A step that may fail. -/
def step {α : Type} (context : String) (program : Program Call Call.Reply (Except String α)) :
    Command α :=
  orElse (fun text => ⟨context, some (.call text)⟩) program

/-- The outcome of a pure step. -/
def pureStep {α : Type} (context : String) (result : Except CoreError α) : Command α :=
  match result with
  | .ok value => pure value
  | .error e => throw ⟨context, some (.core e)⟩

/-- A step whose failure is ignored. -/
def tolerate (program : Program Call Call.Reply (Except String Unit)) : Command Unit :=
  ignore (orElse id program : Fallible Call Call.Reply String Unit)

/-! ## Commands -/

namespace Backup

/-- The first bytes of every SQLite file. -/
def magic : List UInt8 := "SQLite format 3".toUTF8.data.toList

/-- The file is long enough for a SQLite file and begins as one. -/
def looksLikeSqlite (plain : ByteArray) : Bool :=
  !(plain.size < 16 || plain.data.toList.take 15 ≠ magic)

/-- Create the directory of a file, unless it is the current one. -/
def createParent (outputPath : String) : Command Unit :=
  match Paths.parent outputPath with
  | some parent =>
      if !parent.isEmpty then tolerate (Call.createDirAll parent).request else pure ()
  | none => pure ()

variable (crates : Crates)

/-- Write a snapshot of the database, encrypted. -/
def create (outputPath : String) : Command Unit := do
  let tmpPath ← step "temp file" Call.tempFile.request
  tolerate (Call.removeFile tmpPath).request
  step "vacuum into" (Call.vacuumInto tmpPath).request
  let bytes ← step "read vacuum output" (Call.readFile tmpPath).request
  tolerate (Call.removeFile tmpPath).request
  let sealed ← pureStep "seal backup" (crates.seal bytes)
  createParent outputPath
  step "write backup" (Call.writeFile outputPath sealed).request

/-- Put a file in the place of the live database. -/
def replaceLive (livePath : String) (plain : ByteArray) : Command Unit := do
  tolerate Call.checkpoint.request
  let tmp := Paths.withExtension livePath "restore.tmp"
  step "write restored db" (Call.writeFile tmp plain).request
  step "rename restored db" (Call.rename tmp livePath).request
  tolerate (Call.removeFile (livePath ++ "-wal")).request
  tolerate (Call.removeFile (livePath ++ "-shm")).request

/-- Replace the live database by the content of a backup. -/
def restore (livePath inputPath : String) : Command Unit := do
  let sealed ← step "read backup" (Call.readFile inputPath).request
  let plain ← pureStep "unseal backup (wrong master key?)" (crates.unseal sealed)
  if looksLikeSqlite plain then
    replaceLive livePath plain
  else
    throw ⟨"backup does not look like a SQLite file", none⟩

end Backup

/-! ## The disk -/

/-- The files, by path. -/
abbrev Files := String → Option ByteArray

/-- SQLite: where the database is, what its file and its log say together, the file that
`VACUUM INTO` writes, and what a checkpoint does to the files. -/
structure Sqlite where
  path : String
  Content : Type
  read : Option ByteArray → Option ByteArray → Content
  vacuum : Option ByteArray → Option ByteArray → ByteArray
  checkpoint : Files → Except String Unit × Files

namespace Sqlite

/-- The logical content of the database. -/
def content (db : Sqlite) (files : Files) : db.Content :=
  db.read (files db.path) (files (db.path ++ "-wal"))

/-- The file that `VACUUM INTO` writes. -/
def snapshot (db : Sqlite) (files : Files) : ByteArray :=
  db.vacuum (files db.path) (files (db.path ++ "-wal"))

/-- `VACUUM INTO` writes a SQLite file that says what the database says, and a checkpoint does not
change what it says. -/
structure Faithful (db : Sqlite) : Prop where
  looks : ∀ main wal, Backup.looksLikeSqlite (db.vacuum main wal) = true
  vacuum : ∀ main wal, db.read (some (db.vacuum main wal)) none = db.read main wal
  checkpoint : ∀ files, db.content (db.checkpoint files).2 = db.content files

end Sqlite

/-- What the calls of a command depend on: those that fail, what a failed write leaves in its file,
and the path of the temporary file. -/
structure DiskPlan where
  error : Call → Option String
  leftover : String → Option ByteArray
  temp : String

/-- A call that fails as planned, or else has its effect. -/
def DiskPlan.run {α : Type} (plan : DiskPlan) (call : Call) (failed : Files)
    (effect : Except String α × Files) : Except String α × Files :=
  match plan.error call with
  | some text => (.error text, failed)
  | none => effect

/-- The meaning of every call. A temporary file is deleted as soon as its path is known. A path that
names no file cannot be written, and a failed write may leave anything in its file. -/
def serveDisk (db : Sqlite) (plan : DiskPlan) : Handler Call Call.Reply Files
  | .tempFile, files =>
      plan.run .tempFile files
        (if files plan.temp = none then .ok plan.temp else .error "file exists", files)
  | .removeFile path, files =>
      plan.run (.removeFile path) files
        (if files path = none then (.error "no such file", files)
        else (.ok (), Function.update files path none))
  | .vacuumInto target, files =>
      plan.run (.vacuumInto target) (Function.update files target (plan.leftover target))
        (if files target = none then
          (.ok (), Function.update files target (some (db.snapshot files)))
        else (.error "output file already exists", files))
  | .readFile path, files =>
      plan.run (.readFile path) files
        (match files path with
          | some bytes => .ok bytes
          | none => .error "no such file", files)
  | .createDirAll path, files => plan.run (.createDirAll path) files (.ok (), files)
  | .writeFile path bytes, files =>
      if Paths.fileName path.toList = none then (.error "is a directory", files)
      else
        plan.run (.writeFile path bytes) (Function.update files path (plan.leftover path))
          (.ok (), Function.update files path (some bytes))
  | .checkpoint, files => plan.run .checkpoint files (db.checkpoint files)
  | .rename source target, files =>
      plan.run (.rename source target) files
        (match files source with
          | some bytes =>
              (.ok (), Function.update (Function.update files source none) target (some bytes))
          | none => (.error "no such file", files))

/-! ## What the commands do -/

namespace Backup

variable {crates : Crates} {db : Sqlite} {plan : DiskPlan} {files : Files}

theorem eval_step {α : Type} (context : String)
    (program : Program Call Call.Reply (Except String α)) :
    eval (serveDisk db plan) (step context program) files =
      ((program.exec (serveDisk db plan) files).1.mapError fun text => ⟨context, some (.call text)⟩,
        (program.exec (serveDisk db plan) files).2) :=
  eval_or_else _ _ _

theorem eval_tolerate (program : Program Call Call.Reply (Except String Unit)) :
    eval (serveDisk db plan) (tolerate program) files =
      (.ok (), (program.exec (serveDisk db plan) files).2) := by
  unfold tolerate
  rw [eval_ignore, eval_or_else]

/-- A file beside the database does not belong to it. -/
theorem content_update {path : String} {bytes : Option ByteArray} (hlive : path ≠ db.path)
    (hwal : path ≠ db.path ++ "-wal") :
    db.content (Function.update files path bytes) = db.content files := by
  unfold Sqlite.content
  rw [Function.update_of_ne hlive.symm, Function.update_of_ne hwal.symm]

/-- A checkpoint, whether it fails or not. -/
theorem content_checkpoint (hdb : db.Faithful) (plan : DiskPlan) (files : Files) :
    db.content (serveDisk db plan .checkpoint files).2 = db.content files := by
  simp only [serveDisk, DiskPlan.run]
  split
  · rfl
  · exact hdb.checkpoint files

/-- Removing a file leaves the others alone. -/
theorem remove_file_frame {path other : String} (h : other ≠ path) :
    (serveDisk db plan (.removeFile path) files).2 other = files other := by
  simp only [serveDisk, DiskPlan.run]
  split
  · rfl
  · split
    · rfl
    · exact Function.update_of_ne h _ _

/-- Writing a file: the path names no file, or the call fails and leaves anything in the file, or
the file is written. -/
theorem write_file_cases (db : Sqlite) (plan : DiskPlan) (path : String) (bytes : ByteArray)
    (files : Files) :
    (∃ text, serveDisk db plan (.writeFile path bytes) files = (.error text, files)) ∨
    (Paths.fileName path.toList ≠ none ∧
      ∃ text, serveDisk db plan (.writeFile path bytes) files =
        (.error text, Function.update files path (plan.leftover path))) ∨
    (Paths.fileName path.toList ≠ none ∧
      serveDisk db plan (.writeFile path bytes) files =
        (.ok (), Function.update files path (some bytes))) := by
  simp only [serveDisk, DiskPlan.run]
  split
  · exact .inl ⟨_, rfl⟩
  · rename_i hname
    cases plan.error (.writeFile path bytes) with
    | some text => exact .inr (.inl ⟨hname, text, rfl⟩)
    | none => exact .inr (.inr ⟨hname, rfl⟩)

/-- Renaming a file that exists: the call fails and changes nothing, or the file has moved. -/
theorem rename_cases (db : Sqlite) (plan : DiskPlan) {source : String} (target : String)
    {files : Files} {bytes : ByteArray} (h : files source = some bytes) :
    (∃ text, serveDisk db plan (.rename source target) files = (.error text, files)) ∨
    serveDisk db plan (.rename source target) files =
      (.ok (), Function.update (Function.update files source none) target (some bytes)) := by
  simp only [serveDisk, DiskPlan.run, h]
  cases plan.error (.rename source target) with
  | some text => exact .inl ⟨text, rfl⟩
  | none => exact .inr rfl

theorem written_self (files : Files) (path : String) (bytes : ByteArray) :
    Function.update files path (some bytes) path = some bytes :=
  Function.update_self _ _ _

theorem path_ne_append {path suffix : String} (h : suffix ≠ "") : path ≠ path ++ suffix := by
  intro heq
  have hlength := congrArg String.length heq
  rw [String.length_append] at hlength
  have hzero : suffix.length = 0 := by omega
  exact h (String.length_eq_zero_iff.mp hzero)

/-- The files after the clean-up at the end: the live file is as it was. -/
theorem clean_up_live (db : Sqlite) (plan : DiskPlan) (files : Files) :
    (serveDisk db plan (.removeFile (db.path ++ "-shm"))
      (serveDisk db plan (.removeFile (db.path ++ "-wal")) files).2).2 db.path =
      files db.path := by
  rw [remove_file_frame (path_ne_append (by decide)),
    remove_file_frame (path_ne_append (by decide))]

/-- Without failures there is no log after the clean-up. -/
theorem clean_up_wal (hplan : ∀ call, plan.error call = none) (files : Files) :
    (serveDisk db plan (.removeFile (db.path ++ "-shm"))
      (serveDisk db plan (.removeFile (db.path ++ "-wal")) files).2).2 (db.path ++ "-wal") =
      none := by
  have hne : db.path ++ "-wal" ≠ db.path ++ "-shm" := by
    intro heq
    have hlist := congrArg String.toList heq
    rw [String.toList_append, String.toList_append] at hlist
    exact absurd (List.append_cancel_left hlist) (by decide)
  rw [remove_file_frame hne]
  simp only [serveDisk, DiskPlan.run, hplan]
  split
  · assumption
  · exact Function.update_self _ _ _

/-- Putting a file in the place of the live one: it stops and the database says what it said, or
the live file is the new one. -/
theorem replace_live_cases (hdb : db.Faithful) (plan : DiskPlan) (plain : ByteArray)
    (files : Files) :
    (∃ e files', eval (serveDisk db plan) (replaceLive db.path plain) files = (.error e, files') ∧
      db.content files' = db.content files) ∨
    ∃ files', eval (serveDisk db plan) (replaceLive db.path plain) files = (.ok (), files') ∧
      files' db.path = some plain := by
  unfold replaceLive
  simp only [eval_bind, eval_tolerate, eval_step, exec_request]
  -- The checkpoint may fail or not.
  have hcontent := content_checkpoint hdb plan files
  generalize (serveDisk db plan .checkpoint files).2 = checked at hcontent
  rcases write_file_cases db plan (Paths.withExtension db.path "restore.tmp") plain checked with
    ⟨text, hwrite⟩ | ⟨hname, text, hwrite⟩ | ⟨hname, hwrite⟩
  · rw [hwrite]
    exact .inl ⟨_, _, rfl, hcontent⟩
  · have hname := (Paths.file_name_with_extension db.path).mp hname
    rw [hwrite]
    refine .inl ⟨_, _, rfl, (content_update ?_ ?_).trans hcontent⟩
    · exact Paths.with_extension_ne hname
    · exact Paths.with_extension_ne_wal db.path
  · have hname := (Paths.file_name_with_extension db.path).mp hname
    have hwritten : db.content (Function.update checked
        (Paths.withExtension db.path "restore.tmp") (some plain)) = db.content files :=
      (content_update (Paths.with_extension_ne hname)
        (Paths.with_extension_ne_wal db.path)).trans hcontent
    rw [hwrite]
    simp only [Except.mapError]
    rcases rename_cases db plan db.path (written_self checked _ plain) with
      ⟨text, hrename⟩ | hrename
    · rw [hrename]
      exact .inl ⟨_, _, rfl, hwritten⟩
    · rw [hrename]
      refine .inr ⟨_, rfl, ?_⟩
      rw [clean_up_live]
      exact Function.update_self _ _ _

/-- When nothing fails, the new file is in the place of the live one, and its log is gone. -/
theorem replace_live_ok (hplan : ∀ call, plan.error call = none)
    (hname : Paths.fileName db.path.toList ≠ none) (plain : ByteArray) (files : Files) :
    ∃ files', eval (serveDisk db plan) (replaceLive db.path plain) files = (.ok (), files') ∧
      files' db.path = some plain ∧ files' (db.path ++ "-wal") = none := by
  unfold replaceLive
  simp only [eval_bind, eval_tolerate, eval_step, exec_request]
  generalize (serveDisk db plan .checkpoint files).2 = checked
  have hwrite : serveDisk db plan
      (.writeFile (Paths.withExtension db.path "restore.tmp") plain) checked =
      (.ok (), Function.update checked (Paths.withExtension db.path "restore.tmp")
        (some plain)) := by
    simp only [serveDisk, DiskPlan.run, hplan]
    rw [if_neg ((Paths.file_name_with_extension db.path).mpr hname)]
  rw [hwrite]
  simp only [Except.mapError]
  rcases rename_cases db plan db.path (written_self checked _ plain) with
    ⟨text, hrename⟩ | hrename
  · simp [serveDisk, DiskPlan.run, hplan] at hrename
  · rw [hrename]
    refine ⟨_, rfl, ?_, clean_up_wal hplan _⟩
    rw [clean_up_live]
    exact written_self _ _ _

/-- What `restore` can do: it stops and the database says what it said, or the live file is what
the backup holds. -/
theorem restore_cases (crates : Crates) (hdb : db.Faithful) (plan : DiskPlan) (inputPath : String)
    (files : Files) :
    (∃ e files', eval (serveDisk db plan) (restore crates db.path inputPath) files =
        (.error e, files') ∧ db.content files' = db.content files) ∨
    ∃ sealed plain files', eval (serveDisk db plan) (restore crates db.path inputPath) files =
        (.ok (), files') ∧ files inputPath = some sealed ∧ crates.unseal sealed = .ok plain ∧
      files' db.path = some plain := by
  unfold restore
  rw [eval_bind, eval_step, exec_request]
  simp only [serveDisk, DiskPlan.run]
  cases plan.error (.readFile inputPath) with
  | some text => exact .inl ⟨_, _, rfl, rfl⟩
  | none =>
      cases hinput : files inputPath with
      | none => exact .inl ⟨_, _, rfl, rfl⟩
      | some sealed =>
          simp only [Except.mapError]
          cases hunseal : crates.unseal sealed with
          | error e => exact .inl ⟨_, _, rfl, rfl⟩
          | ok plain =>
              simp only [pureStep, eval_bind, eval_pure, eval_ite]
              split
              · rcases replace_live_cases hdb plan plain files with
                  ⟨e, files', heval, hcontent⟩ | ⟨files', heval, hlive⟩
                · exact .inl ⟨e, files', heval, hcontent⟩
                · exact .inr ⟨sealed, plain, files', heval, rfl, hunseal, hlive⟩
              · exact .inl ⟨_, _, rfl, rfl⟩

/-- When nothing fails, a backup of a SQLite file is restored. -/
theorem restore_ok {sealed plain : ByteArray} {inputPath : String}
    (hplan : ∀ call, plan.error call = none) (hname : Paths.fileName db.path.toList ≠ none)
    (hinput : files inputPath = some sealed) (hunseal : crates.unseal sealed = .ok plain)
    (hlooks : looksLikeSqlite plain = true) :
    ∃ files', eval (serveDisk db plan) (restore crates db.path inputPath) files =
        (.ok (), files') ∧
      files' db.path = some plain ∧ files' (db.path ++ "-wal") = none := by
  unfold restore
  rw [eval_bind, eval_step, exec_request]
  simp only [serveDisk, DiskPlan.run, hplan, hinput, Except.mapError, hunseal, pureStep, eval_bind,
    eval_pure, hlooks]
  exact replace_live_ok hplan hname plain files

/-- A step that succeeds. -/
theorem eval_step_ok {α : Type} {context : String}
    {program : Program Call Call.Reply (Except String α)} {value : α} {files' : Files} :
    eval (serveDisk db plan) (step context program) files = (.ok value, files') ↔
      program.exec (serveDisk db plan) files = (.ok value, files') := by
  rw [eval_step]
  rcases program.exec (serveDisk db plan) files with ⟨e | reply, final⟩
  · simp [Except.mapError]
  · simp [Except.mapError]

theorem temp_file_ok (db : Sqlite) {path : String} {files' : Files}
    (h : serveDisk db plan .tempFile files = (.ok path, files')) :
    files' = files ∧ files path = none := by
  simp only [serveDisk, DiskPlan.run] at h
  split at h
  · cases h
  · rename_i hfresh
    split at h
    · cases h
      exact ⟨rfl, by assumption⟩
    · cases h

theorem remove_missing {path : String} (h : files path = none) :
    (serveDisk db plan (.removeFile path) files).2 = files := by
  simp only [serveDisk, DiskPlan.run, h]
  split
  · rfl
  · rfl

theorem vacuum_into_ok {path : String} {files' : Files}
    (h : serveDisk db plan (.vacuumInto path) files = (.ok (), files')) :
    files' path = some (db.snapshot files) := by
  simp only [serveDisk, DiskPlan.run] at h
  split at h
  · cases h
  · split at h
    · cases h
      exact written_self _ _ _
    · cases h

theorem read_file_ok (db : Sqlite) {path : String} {bytes : ByteArray} {files' : Files}
    (h : serveDisk db plan (.readFile path) files = (.ok bytes, files')) :
    files path = some bytes := by
  simp only [serveDisk, DiskPlan.run] at h
  split at h
  · cases h
  · cases hfile : files path with
    | none => simp [hfile] at h
    | some found => simp_all

theorem write_file_ok (db : Sqlite) {path : String} {bytes : ByteArray} {files' : Files}
    (h : serveDisk db plan (.writeFile path bytes) files = (.ok (), files')) :
    files' path = some bytes := by
  rcases write_file_cases db plan path bytes files with
    ⟨text, hwrite⟩ | ⟨-, text, hwrite⟩ | ⟨-, hwrite⟩
  · rw [hwrite] at h
    cases h
  · rw [hwrite] at h
    cases h
  · rw [hwrite] at h
    cases h
    exact written_self _ _ _

theorem pure_step_ok {α : Type} {context : String} {result : Except CoreError α} {value : α}
    {files' : Files}
    (h : eval (serveDisk db plan) (pureStep context result) files = (.ok value, files')) :
    result = .ok value := by
  cases result with
  | error e => cases h
  | ok found => cases h; rfl

/-- A backup that was written holds the snapshot of the database. -/
theorem create_ok {outputPath : String} {files' : Files}
    (h : eval (serveDisk db plan) (create crates outputPath) files = (.ok (), files')) :
    ∃ sealed, crates.seal (db.snapshot files) = .ok sealed ∧ files' outputPath = some sealed := by
  unfold create at h
  obtain ⟨tmpPath, files₁, htemp, hrest⟩ := eval_bind_ok.mp h
  obtain ⟨heq, hfresh⟩ := temp_file_ok db (eval_step_ok.mp htemp)
  rw [heq] at hrest
  obtain ⟨_, files₂, hremoved, hrest⟩ := eval_bind_ok.mp hrest
  rw [eval_tolerate, exec_request, remove_missing hfresh] at hremoved
  have hfiles : files₂ = files := (congrArg Prod.snd hremoved).symm
  rw [hfiles] at hrest
  obtain ⟨_, files₃, hvacuum, hrest⟩ := eval_bind_ok.mp hrest
  have hsnapshot := vacuum_into_ok (eval_step_ok.mp hvacuum)
  obtain ⟨bytes, files₄, hread, hrest⟩ := eval_bind_ok.mp hrest
  have hbytes := read_file_ok db (eval_step_ok.mp hread)
  rw [← Option.some.inj (hsnapshot.symm.trans hbytes)] at hrest
  -- What remains seals the bytes and writes them.
  obtain ⟨_, files₅, -, hrest⟩ := eval_bind_ok.mp hrest
  obtain ⟨sealed, files₆, hseal, hrest⟩ := eval_bind_ok.mp hrest
  obtain ⟨_, files₇, -, hwrite⟩ := eval_bind_ok.mp hrest
  exact ⟨sealed, pure_step_ok hseal, write_file_ok db (eval_step_ok.mp hwrite)⟩

end Backup

/-- A backup that was written can be restored: the live file is then the snapshot that
`VACUUM INTO` wrote, and without failures the database says what it said at the time of the backup.
Whatever the input is and whatever fails, a restore that reports an error leaves what the database
says as it was. -/
theorem restore_all_or_nothing (crates : Crates) (hcrates : crates.SealsBack) (db : Sqlite)
    (hdb : db.Faithful) :
    (∀ (plan : DiskPlan) (outputPath : String) (files files₁ : Files),
      eval (serveDisk db plan) (Backup.create crates outputPath) files = (.ok (), files₁) →
      ∀ (inputPath : String) (files₂ : Files), files₂ inputPath = files₁ outputPath →
        (∀ (plan₂ : DiskPlan) (files₃ : Files),
          eval (serveDisk db plan₂) (Backup.restore crates db.path inputPath) files₂ =
              (.ok (), files₃) →
            files₃ db.path = some (db.snapshot files)) ∧
        ∀ plan₂ : DiskPlan, (∀ call, plan₂.error call = none) →
          Paths.fileName db.path.toList ≠ none →
          ∃ files₃, eval (serveDisk db plan₂) (Backup.restore crates db.path inputPath) files₂ =
              (.ok (), files₃) ∧
            files₃ db.path = some (db.snapshot files) ∧ db.content files₃ = db.content files) ∧
    ∀ (other : Crates) (plan : DiskPlan) (inputPath : String) (files files' : Files) (e : CliError),
      eval (serveDisk db plan) (Backup.restore other db.path inputPath) files =
          (.error e, files') →
        db.content files' = db.content files := by
  constructor
  · intro plan outputPath files files₁ hcreate inputPath files₂ hinput
    obtain ⟨sealed, hseal, houtput⟩ := Backup.create_ok hcreate
    have hunseal := Crates.unseal_seal hcrates hseal
    rw [houtput] at hinput
    refine ⟨fun plan₂ files₃ hrestore => ?_, fun plan₂ hplan hname => ?_⟩
    · rcases Backup.restore_cases crates hdb plan₂ inputPath files₂ with
        ⟨e, files', heval, -⟩ | ⟨read, plain, files', heval, hread, hplain, hlive⟩
      · rw [heval] at hrestore
        cases hrestore
      · rw [heval] at hrestore
        cases hrestore
        obtain rfl : sealed = read := Option.some.inj (hinput.symm.trans hread)
        rw [hlive, Except.ok.inj (hunseal.symm.trans hplain)]
    · obtain ⟨files₃, heval, hlive, hwal⟩ :=
        Backup.restore_ok hplan hname hinput hunseal (hdb.looks _ _)
      refine ⟨files₃, heval, hlive, ?_⟩
      unfold Sqlite.content
      rw [hlive, hwal]
      exact hdb.vacuum _ _
  · intro other plan inputPath files files' e hrestore
    rcases Backup.restore_cases other hdb plan inputPath files with
      ⟨e', files'', heval, hcontent⟩ | ⟨-, -, files'', heval, -⟩
    · rw [heval] at hrestore
      cases hrestore
      exact hcontent
    · rw [heval] at hrestore
      cases hrestore

/-! ## A database that only grows -/

namespace Sqlite

/-- The first bytes of the file of a growing database. -/
def header : List UInt8 := Backup.magic ++ [0]

/-- The bytes of a file that may be missing. -/
def bytes (file : Option ByteArray) : List UInt8 :=
  file.elim [] (·.data.toList)

/-- A database whose content is a list of bytes. The log holds what is to be appended. -/
def growing (path : String) : Sqlite where
  path := path
  Content := List UInt8
  read main wal := (bytes main).drop header.length ++ bytes wal
  vacuum main wal := ⟨(header ++ ((bytes main).drop header.length ++ bytes wal)).toArray⟩
  checkpoint files :=
    (.ok (), Function.update (Function.update files path (some ⟨(header ++
      ((bytes (files path)).drop header.length ++ bytes (files (path ++ "-wal")))).toArray⟩))
      (path ++ "-wal") none)

theorem growing_faithful (path : String) : (growing path).Faithful where
  looks main wal := by
    unfold Backup.looksLikeSqlite growing
    have htake : ∀ rest, (header ++ rest).take 15 = Backup.magic := fun rest => rfl
    have hsize : header.length = 16 := by decide
    simp [ByteArray.size, htake, hsize]
  vacuum main wal := by
    simp [growing, bytes]
  checkpoint files := by
    have hne : path ≠ path ++ "-wal" := Backup.path_ne_append (by decide)
    simp [content, growing, Function.update_of_ne hne, bytes]

end Sqlite

/-- A call that renames a file. -/
def Call.isRename : Call → Bool
  | .rename _ _ => true
  | _ => false

/-- A plan in which some calls fail. -/
def DiskPlan.failing (fails : Call → Bool) : DiskPlan :=
  ⟨fun call => if fails call then some "disk full" else none, fun _ => none, "/tmp/wireforge"⟩

/-- A database with its log, backed up and restored. When the renaming fails, nothing changes. -/
theorem restore_all_or_nothing_growing :
    let db := Sqlite.growing "wg.db"
    let files : Files := Function.update (fun _ => none) "wg.db-wal" (some ⟨#[7]⟩)
    let saved := (eval (serveDisk db (.failing fun _ => false))
      (Backup.create .transparent "wg.age") files).2
    (∃ files', eval (serveDisk db (.failing fun _ => false))
        (Backup.restore .transparent db.path "wg.age") saved = (.ok (), files') ∧
      files' db.path = some (db.snapshot files) ∧ db.content files' = db.content files) ∧
    db.content (eval (serveDisk db (.failing Call.isRename))
      (Backup.restore .transparent db.path "wg.age") saved).2 = db.content saved := by
  intro db files saved
  obtain ⟨hrestore, hstops⟩ := restore_all_or_nothing .transparent Crates.seals_back_transparent db
    (Sqlite.growing_faithful _)
  constructor
  · exact (hrestore (.failing fun _ => false) "wg.age" files saved
      (Prod.ext (by decide +kernel) rfl) "wg.age" saved rfl).2 (.failing fun _ => false)
      (fun _ => rfl) (by decide)
  · exact hstops .transparent (.failing Call.isRename) "wg.age" saved _
      ⟨"rename restored db", some (.call "disk full")⟩ (Prod.ext (by decide +kernel) rfl)

end Cli

end Wireforge
