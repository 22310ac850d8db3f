import Sessionbus.Text

/-!
# The files of the communication log

`file.go`: the lines go to one file until the next would make it too long; then each file gets the
name with the next index, the oldest goes, and a new file is started. The operations on files fail
only as they must: a file takes no byte after the last offset that a 64-bit integer can name.
-/

namespace Sessionbus.CommsLog

/-! ## Files -/

inductive FileKind
  | regular | symlink | other
deriving DecidableEq, Repr

/-- A file as `Lstat` and a reader see it. -/
structure LogFile where
  kind : FileKind := .regular
  perm : Nat := 0o600
  bytes : List UInt8 := []
deriving DecidableEq, Repr

abbrev Disk := String → Option LogFile

/-- An error of this package, or one of the operating system. -/
inductive FileError
  | message (text : String)
  /-- The error of `validateLogPath`, which quotes the path. -/
  | unsafePath (path : String)
  | system
deriving DecidableEq, Repr

/-- An open file. Nothing renames or removes a file while it is open, so its name stands for it. -/
structure Handle where
  name : String
  append : Bool
  offset : Nat
deriving DecidableEq, Repr

def maxOffset : Nat := 9223372036854775807

namespace Disk

def set (disk : Disk) (name : String) (file : Option LogFile) : Disk :=
  Function.update disk name file

/-- `os.Remove`; that there is no such file is no error to the callers. -/
def remove (disk : Disk) (name : String) : Disk := disk.set name none

/-- `os.Rename` of a file that is there. -/
def rename (disk : Disk) (source target : String) : Disk :=
  (disk.set target (disk source)).set source none

/-- `Write`: the kernel writes what fits, and reports an error if that is not all. -/
def write (disk : Disk) (file : Handle) (raw : List UInt8) : Disk × Handle × Nat :=
  match disk file.name with
  | none => (disk, { file with offset := file.offset + raw.length }, raw.length)
  | some found =>
    let start := if file.append then found.bytes.length else file.offset
    let written := min raw.length (maxOffset - start)
    let bytes := found.bytes.take start ++ raw.take written ++ found.bytes.drop (start + written)
    (disk.set file.name (some { found with bytes }),
      { file with offset := start + written }, written)

end Disk

/-! ## Opening -/

def LogFile.safe (file : LogFile) : Bool := file.kind == .regular && file.perm == 0o600

def validateLogPath (disk : Disk) (path : String) : Option FileError :=
  match disk path with
  | none => none
  | some file => if !file.safe then some (.unsafePath path) else none

/-- `openLogFile` with `O_CREAT`: what is truncated is truncated before it is looked at. -/
def openLogFile (disk : Disk) (path : String) (append truncate : Bool) :
    Disk × Except FileError Handle :=
  match disk path with
  | none => (disk.set path (some {}), .ok { name := path, append, offset := 0 })
  | some file =>
    if file.kind = .symlink then (disk, .error .system)
    else
      let disk := if truncate then disk.set path (some { file with bytes := [] }) else disk
      if !file.safe then
        (disk, .error (.message "communication log is not a mode-0600 regular file"))
      else (disk, .ok { name := path, append, offset := 0 })

def rotatedName (path : String) (index : Nat) : String :=
  if index = 0 then path else path ++ "." ++ Text.formatUint index

/-- The lock is not part of it. `maxFiles` is at least 1, as `validateOptions` wants it. -/
structure RotatingFile where
  path : String
  maxBytes : Int64
  maxFiles : Nat
  file : Option Handle
  size : Int64

/-! ## Rotation -/

/-- The loop of `rotate` over the indices below `n`, from the highest. -/
def shift (path : String) : Nat → Disk → Disk × Option FileError
  | 0, disk => (disk, none)
  | index + 1, disk =>
    let source := rotatedName path index
    match validateLogPath disk source with
    | some error => (disk, some error)
    | none =>
      if (disk source).isNone then shift path index disk
      else shift path index (disk.rename source (rotatedName path (index + 1)))

namespace RotatingFile

/-- The end of `rotate`: the file of the log is opened anew. -/
def reopen (f : RotatingFile) (disk : Disk) : RotatingFile × Disk × Option FileError :=
  match openLogFile disk f.path false true with
  | (disk, .error error) => (f, disk, some error)
  | (disk, .ok file) => ({ f with file := some file, size := 0 }, disk, none)

def rotate (f : RotatingFile) (disk : Disk) : RotatingFile × Disk × Option FileError :=
  match f.file with
  | none => (f, disk, some .system) -- `Sync` of a file that is not open
  | some _ =>
    let f := { f with file := none }
    if f.maxFiles = 1 then f.reopen disk
    else
      match shift f.path (f.maxFiles - 1) (disk.remove (rotatedName f.path (f.maxFiles - 1))) with
      | (disk, some error) => (f, disk, some error)
      | (disk, none) => f.reopen disk

/-- `WriteRecord` once there is room. -/
def append (f : RotatingFile) (disk : Disk) (raw : List UInt8) :
    RotatingFile × Disk × Option FileError :=
  match f.file with
  | none => (f, disk, some .system)
  | some file =>
    let (disk, file, written) := disk.write file raw
    ({ f with file := some file, size := f.size + Int64.ofNat written }, disk,
      if written ≠ raw.length then some .system else none)

def writeRecord (f : RotatingFile) (disk : Disk) (raw : List UInt8) :
    RotatingFile × Disk × Option FileError :=
  if Int64.ofNat raw.length > f.maxBytes then
    (f, disk, some (.message "communication log record exceeds file limit"))
  else if f.size ≠ 0 ∧ f.size + Int64.ofNat raw.length > f.maxBytes then
    match f.rotate disk with
    | (f, disk, some error) => (f, disk, some error)
    | (f, disk, none) => f.append disk raw
  else f.append disk raw

/-- The records that the write loop hands over, up to the first error. -/
def writeRecords (f : RotatingFile) (disk : Disk) :
    List (List UInt8) → RotatingFile × Disk × Option FileError
  | [] => (f, disk, none)
  | raw :: rest =>
    match f.writeRecord disk raw with
    | (f, disk, some error) => (f, disk, some error)
    | (f, disk, none) => f.writeRecords disk rest

end RotatingFile

/-- What `Lstat` says of the directory. -/
structure DirectoryInfo where
  isDir : Bool := true
  symlink : Bool := false
  perm : Nat := 0o700
deriving DecidableEq, Repr

/-- `directory` is none when it cannot be made; with `owned` another process holds the lock. -/
def openRotatingFile (directory : Option DirectoryInfo) (owned : Bool) (disk : Disk) (path : String)
    (maxBytes : Int64) (maxFiles : Nat) : Disk × Except FileError RotatingFile :=
  if path.toList.head? ≠ some '/' then
    (disk, .error (.message "communication log path must be absolute"))
  else
    match directory with
    | none => (disk, .error .system)
    | some info =>
      if !info.isDir || info.symlink || info.perm ≠ 0o700 then
        (disk, .error (.message "communication log directory must be a mode-0700 directory"))
      else
        match openLogFile disk (path ++ ".lock") false false with
        | (disk, .error error) => (disk, .error error)
        | (disk, .ok _) =>
          if owned then
            (disk,
              .error
              (.message "communication log is already owned: resource temporarily unavailable"))
          else
            match (List.range maxFiles).findSome? fun index =>
              validateLogPath disk (rotatedName path index) with
            | some error => (disk, .error error)
            | none =>
              match openLogFile disk path true false with
              | (disk, .error error) => (disk, .error error)
              | (disk, .ok file) =>
                let size := Int64.ofNat (((disk path).map fun file => file.bytes.length).getD 0)
                let f : RotatingFile := { path, maxBytes, maxFiles, file := some file, size }
                if f.size ≠ 0 then
                  match f.rotate disk with
                  | (_, disk, some error) => (disk, .error error)
                  | (f, disk, none) => (disk, .ok f)
                else (disk, .ok f)

/-- The files from the highest index down to the current one. -/
def retained (path : String) (maxFiles : Nat) (disk : Disk) : List (List UInt8) :=
  (List.range maxFiles).reverse.filterMap fun index =>
    (disk (rotatedName path index)).map LogFile.bytes

end Sessionbus.CommsLog
