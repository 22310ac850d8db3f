import Mathlib.Logic.Function.Basic
import Sessionbus.CommsLog.File
import Sessionbus.Segments

/-!
# What the files of the log keep

The files are the segments of a log: a rotation starts a new segment and drops the oldest, and a
record goes whole to the newest. So the files hold the last records, in order.
-/

namespace Sessionbus.CommsLog

open Segments

/-! ## Names -/

variable {path : String}

theorem append_ne_self {s : String} (h : s ≠ "") : path ++ s ≠ path := by
  intro same
  have length := congrArg String.length same
  rw [String.length_append] at length
  have none : s.length = 0 := by omega
  exact h (String.length_eq_zero_iff.mp none)

theorem rotatedName_succ (path : String) (i : Nat) :
    rotatedName path (i + 1) = path ++ ("." ++ Text.formatUint (i + 1)) := by
  rw [rotatedName, if_neg (Nat.succ_ne_zero i), String.append_assoc]

theorem rotatedName_injective {i j : Nat}
    (h : rotatedName path i = rotatedName path j) : i = j := by
  have longer : ∀ k, path ++ ("." ++ Text.formatUint (k + 1)) ≠ path := fun k =>
      append_ne_self (by simp)
  match i, j with
  | 0, 0 => rfl
  | 0, j + 1 =>
    rw [rotatedName_succ] at h
    exact absurd h.symm (longer j)
  | i + 1, 0 =>
    rw [rotatedName_succ] at h
    exact absurd h (longer i)
  | i + 1, j + 1 =>
    rw [rotatedName_succ, rotatedName_succ, String.append_right_inj, String.append_right_inj] at h
    exact Text.formatUint_injective h

theorem lock_ne (path : String) (i : Nat) : path ++ ".lock" ≠ rotatedName path i := by
  match i with
  | 0 => exact append_ne_self (by decide)
  | i + 1 =>
    intro same
    have split : ".lock" = "." ++ "lock" := rfl
    rw [rotatedName_succ, String.append_right_inj, split, String.append_right_inj] at same
    have parsed := Text.parseUint_formatUint (i + 1)
    have text : Text.parseUint "lock" = none := by decide
    rw [← same, text] at parsed
    cases parsed

/-! ## Disks -/

variable {disk disk' : Disk}

@[simp]
theorem set_self (disk : Disk) (name : String) (file : Option LogFile) :
    disk.set name file name = file := by
  unfold Disk.set
  rw [Function.update_self]

theorem set_other {name other : String} (h : other ≠ name) (file : Option LogFile) :
    disk.set name file other = disk other := by
  unfold Disk.set
  rw [Function.update_of_ne h]

theorem rename_source {source target : String} : disk.rename source target source = none :=
  set_self _ _ _

theorem rename_target {source target : String} (h : target ≠ source) :
    disk.rename source target target = disk source := by
  rw [Disk.rename, set_other h, set_self]

theorem rename_other {source target other : String} (hs : other ≠ source) (ht : other ≠ target) :
    disk.rename source target other = disk other := by
  rw [Disk.rename, set_other hs, set_other ht]

/-! ## The shift -/

/-- The files below `n` have the next index, and the others are as they were. -/
structure Shifted (path : String) (n : Nat) (disk disk' : Disk) : Prop where
  first : disk' (rotatedName path 0) = none
  moved : ∀ i, i < n → disk' (rotatedName path (i + 1)) = disk (rotatedName path i)
  others : ∀ name, (∀ i, i ≤ n → name ≠ rotatedName path i) → disk' name = disk name

/-- Also where the chain has holes: what would come to a hole leaves one. -/
theorem shift_moves (n : Nat) (safe : ∀ i, i < n → validateLogPath disk (rotatedName path i) = none)
    (vacant : disk (rotatedName path n) = none) :
    ∃ disk', shift path n disk = (disk', none) ∧ Shifted path n disk disk' := by
  induction n generalizing disk with
  | zero => exact ⟨disk, rfl, vacant, fun i hi => absurd hi (Nat.not_lt_zero i), fun _ _ => rfl⟩
  | succ n ih =>
    have other : ∀ i, i ≤ n → rotatedName path (n + 1) ≠ rotatedName path i := by
      intro i hi same
      have := rotatedName_injective same
      omega
    unfold shift
    simp only [safe n (Nat.lt_succ_self n)]
    split
    next hole =>
      rw [Option.isNone_iff_eq_none] at hole
      obtain ⟨disk', heq, shifted⟩ := ih (fun i hi => safe i (by omega)) hole
      refine ⟨disk', heq, shifted.first, fun i hi => ?_, fun name hname => ?_⟩
      · rcases Nat.lt_succ_iff_lt_or_eq.mp hi with hi | rfl
        · exact shifted.moved i hi
        · rw [shifted.others _ other, vacant, hole]
      · exact shifted.others name fun i hi => hname i (by omega)
    · have kept : ∀ i, i < n → disk.rename (rotatedName path n) (rotatedName path (n + 1))
          (rotatedName path i) = disk (rotatedName path i) := by
        intro i hi
        apply rename_other
        · intro same
          have := rotatedName_injective same
          omega
        · exact (other i (by omega)).symm
      have safe' : ∀ i, i < n →
          validateLogPath (disk.rename (rotatedName path n) (rotatedName path (n + 1)))
          (rotatedName path i) = none := by
        intro i hi
        unfold validateLogPath
        rw [kept i hi]
        exact safe i (by omega)
      obtain ⟨disk', heq, shifted⟩ := ih safe' rename_source
      refine ⟨disk', heq, shifted.first, fun i hi => ?_, fun name hname => ?_⟩
      · rcases Nat.lt_succ_iff_lt_or_eq.mp hi with hi | rfl
        · rw [shifted.moved i hi, kept i hi]
        · rw [shifted.others _ other, rename_target (other i (Nat.le_refl i))]
      · rw [shifted.others name fun i hi => hname i (by omega)]
        exact rename_other (hname n (by omega)) (hname (n + 1) (Nat.le_refl _))

/-! ## Rotations -/

/-- A new file, and each older one under the next index, as long as that is below `m`. -/
structure Rotated (path : String) (m : Nat) (disk disk' : Disk) : Prop where
  current : disk' path = some {}
  moved : ∀ i, disk' (rotatedName path (i + 1)) =
    if i + 1 < m then disk (rotatedName path i) else disk (rotatedName path (i + 1))
  others : ∀ name, (∀ i, name ≠ rotatedName path i) → disk' name = disk name

theorem safe_empty {file : LogFile} (h : file.safe = true) :
    ({ file with bytes := [] } : LogFile) = {} := by
  unfold LogFile.safe at h
  rw [Bool.and_eq_true, beq_iff_eq, beq_iff_eq] at h
  rw [h.1, h.2]

theorem reopen_spec (f : RotatingFile) (disk : Disk)
    (safe : ∀ file, disk f.path = some file → file.safe = true) :
    f.reopen disk =
      ({ f with file := some { name := f.path, append := false, offset := 0 }, size := 0 },
        disk.set f.path (some {}), none) := by
  unfold RotatingFile.reopen openLogFile
  cases found : disk f.path with
  | none => rfl
  | some file =>
    have good := safe file found
    have regular : file.kind ≠ .symlink := by
      unfold LogFile.safe at good
      rw [Bool.and_eq_true, beq_iff_eq] at good
      rw [good.1]
      decide
    simp only [regular, if_false, if_true, good, Bool.not_true, Bool.false_eq_true, safe_empty good]

theorem rotate_moves {f : RotatingFile} (open_ : f.file ≠ none) (one : 1 ≤ f.maxFiles)
    (safe : ∀ i file, disk (rotatedName f.path i) = some file → file.safe = true) :
    ∃ disk', f.rotate disk =
      ({ f with file := some { name := f.path, append := false, offset := 0 }, size := 0 },
      disk', none) ∧ Rotated f.path f.maxFiles disk disk' := by
  obtain ⟨file, hfile⟩ := Option.ne_none_iff_exists'.mp open_
  have succ_ne : ∀ i, rotatedName f.path (i + 1) ≠ f.path := by
    intro i same
    exact absurd (rotatedName_injective (j := 0) same) (Nat.succ_ne_zero i)
  unfold RotatingFile.rotate
  rw [hfile]
  simp only
  split
  next single =>
    -- the one file is truncated
    refine ⟨disk.set f.path (some {}), reopen_spec _ disk (safe 0), set_self _ _ _, fun i => ?_,
      fun name hname => ?_⟩
    · rw [set_other (succ_ne i), if_neg (by omega)]
    · exact set_other (hname 0) _
  next several =>
    obtain ⟨n, hn⟩ : ∃ n, f.maxFiles = n + 2 := ⟨f.maxFiles - 2, by omega⟩
    have last : f.maxFiles - 1 = n + 1 := by omega
    rw [last]
    have kept :
        ∀ i, i ≠ n + 1 →
          disk.remove (rotatedName f.path (n + 1)) (rotatedName f.path i) =
            disk (rotatedName f.path i) :=
      fun i hi => set_other (fun same => hi (rotatedName_injective same)) none
    have valid : ∀ i, i < n + 1 →
        validateLogPath (disk.remove (rotatedName f.path (n + 1)))
        (rotatedName f.path i) = none := by
      intro i hi
      unfold validateLogPath
      rw [kept i (by omega)]
      cases found : disk (rotatedName f.path i) with
      | none => rfl
      | some file => simp [safe i file found]
    obtain ⟨shifted_disk, heq, shifted⟩ := shift_moves (n + 1) valid (set_self _ _ _)
    have absent : shifted_disk f.path = none := shifted.first
    have reopened := reopen_spec { f with file := none } shifted_disk (by
      intro file found
      rw [absent] at found
      cases found)
    refine ⟨shifted_disk.set f.path (some {}), ?_, set_self _ _ _, fun i => ?_,
      fun name hname => ?_⟩
    · rw [heq]
      exact reopened
    · rw [set_other (succ_ne i), hn]
      split
      next inside =>
        rw [shifted.moved i (by omega), kept i (by omega)]
      next outside =>
        rw [shifted.others _ fun j hj same => by
          have := rotatedName_injective same
          omega]
        exact kept (i + 1) (by omega)
    · have current : name ≠ f.path := hname 0
      rw [set_other current, shifted.others name fun i _ => hname i]
      exact set_other (hname (n + 1)) none

/-! ## The files as segments -/

/-- The file with an index holds the records of the segment with that index. -/
def Holds (path : String) (disk : Disk) (segments : List (List (List UInt8))) : Prop :=
  ∀ i, disk (rotatedName path i) = segments[i]?.map fun segment => { bytes := segment.flatten }

theorem Holds.safe {segments : List (List (List UInt8))} (h : Holds path disk segments) (i : Nat)
    {file : LogFile} (found : disk (rotatedName path i) = some file) : file.safe = true := by
  rw [h i, Option.map_eq_some_iff] at found
  obtain ⟨segment, -, rfl⟩ := found
  rfl

theorem Holds.rotated {segments : List (List (List UInt8))} {m : Nat} (h : Holds path disk segments)
    (one : 1 ≤ m) (few : segments.length ≤ m) (rotated : Rotated path m disk disk') :
    Holds path disk' (roll m segments) := by
  intro i
  match i with
  | 0 =>
    rw [roll_pos one]
    exact rotated.current
  | i + 1 =>
    rw [rotated.moved i, getElem?_roll_succ]
    split
    · exact h i
    · rw [h (i + 1), List.getElem?_eq_none (by omega)]

theorem Holds.pushed {newest : List (List UInt8)} {older : List (List (List UInt8))}
    (h : Holds path disk (newest :: older)) (raw : List UInt8) :
    Holds path (disk.set path (some { bytes := (newest ++ [raw]).flatten }))
    ((newest ++ [raw]) :: older) := by
  intro i
  match i with
  | 0 => exact set_self _ _ _
  | i + 1 =>
    have other : rotatedName path (i + 1) ≠ path := fun same =>
        absurd (rotatedName_injective (j := 0) same) (Nat.succ_ne_zero i)
    rw [set_other other, h (i + 1)]
    rfl

theorem Holds.retained {segments : List (List (List UInt8))} {m : Nat}
    (h : Holds path disk segments) (few : segments.length ≤ m) :
    retained path m disk = segments.reverse.map List.flatten := by
  have each : ∀ l : List (List (List UInt8)), ∀ n, l.length ≤ n →
      (List.range n).filterMap (fun i => l[i]?.map List.flatten) = l.map List.flatten := by
    intro l
    induction l with
    | nil =>
      intro n _
      simp
    | cons segment l ih =>
      intro n long
      obtain ⟨n, rfl⟩ : ∃ k, n = k + 1 := ⟨n - 1, by simp at long; omega⟩
      rw [List.range_succ_eq_map, List.filterMap_cons, List.filterMap_map]
      simp only [List.getElem?_cons_zero, Option.map_some, List.map_cons, List.cons.injEq, true_and]
      exact ih n (by simpa using long)
  have files : (fun i => (disk (rotatedName path i)).map LogFile.bytes) = fun i =>
      segments[i]?.map List.flatten := by
    funext i
    rw [h i]
    cases segments[i]? <;> rfl
  unfold CommsLog.retained
  rw [files, List.filterMap_reverse, each segments m few, List.map_reverse]

/-! ## One record -/

/-- The log is open and its files hold the last of these records. -/
structure Logging (f : RotatingFile) (disk : Disk) (history newest : List (List UInt8))
    (older : List (List (List UInt8))) : Prop where
  files : Holds f.path disk (newest :: older)
  handle : ∃ append, f.file = some { name := f.path, append, offset := newest.flatten.length }
  size : f.size.toInt = newest.flatten.length
  few : older.length < f.maxFiles
  fits : ∀ segment ∈ newest :: older, segment.flatten.length ≤ f.maxBytes.toInt.toNat
  suffix : read (newest :: older) <:+ history

/-- The settings of the log, and the files that are not its own, do not change. -/
structure SameLog (f f' : RotatingFile) (disk disk' : Disk) : Prop where
  path : f'.path = f.path
  maxBytes : f'.maxBytes = f.maxBytes
  maxFiles : f'.maxFiles = f.maxFiles
  others : ∀ name, (∀ i, name ≠ rotatedName f.path i) → disk' name = disk name

theorem SameLog.refl (f : RotatingFile) (disk : Disk) : SameLog f f disk disk :=
  ⟨rfl, rfl, rfl, fun _ _ => rfl⟩

theorem SameLog.trans {f f' f'' : RotatingFile} {disk'' : Disk} (h : SameLog f f' disk disk')
    (h' : SameLog f' f'' disk' disk'') : SameLog f f'' disk disk'' where
  path := h'.path.trans h.path
  maxBytes := h'.maxBytes.trans h.maxBytes
  maxFiles := h'.maxFiles.trans h.maxFiles
  others name hname := (h'.others name (h.path ▸ hname)).trans (h.others name hname)

variable {f : RotatingFile} {history newest : List (List UInt8)} {older : List (List (List UInt8))}

theorem Logging.rotate (h : Logging f disk history newest older) :
    ∃ f' disk' older', f.rotate disk = (f', disk', none) ∧ SameLog f f' disk disk' ∧
    Logging f' disk' history [] older' := by
  have one : 1 ≤ f.maxFiles := by
    have := h.few
    omega
  have open_ : f.file ≠ none := by
    obtain ⟨append, file⟩ := h.handle
    simp [file]
  obtain ⟨disk', heq, rotated⟩ := rotate_moves open_ one fun i _ found => h.files.safe i found
  have rolled := roll_pos one (newest :: older)
  refine ⟨_, disk', (newest :: older).take (f.maxFiles - 1), heq,
    ⟨rfl, rfl, rfl, rotated.others⟩, ?_⟩
  constructor
  · rw [← rolled]
    exact h.files.rotated one h.few rotated
  · exact ⟨false, rfl⟩
  · rfl
  · rw [List.length_take]
    show min (f.maxFiles - 1) _ < f.maxFiles
    omega
  · rw [← rolled]
    intro segment hsegment
    rcases mem_roll hsegment with rfl | old
    · exact Nat.zero_le _
    · exact h.fits segment old
  · rw [← rolled]
    exact (read_roll_suffix _ _).trans h.suffix

theorem Logging.offset (h : Logging f disk history newest older) :
    newest.flatten.length ≤ maxOffset := by
  have bound := f.size.toInt_lt
  rw [h.size] at bound
  unfold maxOffset
  omega

theorem Logging.append (h : Logging f disk history newest older) {raw : List UInt8}
    (fine : (f.append disk raw).2.2 ≠ some .system) :
    newest.flatten.length + raw.length ≤ maxOffset ∧
      f.append disk raw =
        ({ f with file := (f.append disk raw).1.file, size := f.size + Int64.ofNat raw.length },
          disk.set f.path (some { bytes := (newest ++ [raw]).flatten }), none) ∧
      ∃ append, (f.append disk raw).1.file =
        some { name := f.path, append, offset := newest.flatten.length + raw.length } := by
  obtain ⟨append, file⟩ := h.handle
  have offset := h.offset
  have found : disk f.path = some { bytes := newest.flatten } := h.files 0
  unfold RotatingFile.append Disk.write at fine ⊢
  simp only [file, found, ite_self] at fine ⊢
  have all : raw.length ≤ maxOffset - newest.flatten.length := by
    by_contra short
    have part : min raw.length (maxOffset - newest.flatten.length) ≠ raw.length := by omega
    exact fine (if_pos part)
  have written : min raw.length (maxOffset - newest.flatten.length) = raw.length := by omega
  have bytes : newest.flatten.take newest.flatten.length ++ raw.take raw.length ++
      newest.flatten.drop (newest.flatten.length + raw.length) = (newest ++ [raw]).flatten := by
    rw [List.take_length, List.take_length, List.drop_eq_nil_of_le (by omega), List.append_nil,
      List.flatten_append, List.flatten_singleton]
  refine ⟨by omega, ?_, append, by rw [written]⟩
  simp only [written, bytes, ne_eq, not_true_eq_false, if_false]

theorem add_toInt {size : Int64} {a n : Nat} (hs : size.toInt = a) (sum : a + n ≤ maxOffset) :
    (size + Int64.ofNat n).toInt = a + n := by
  unfold maxOffset at sum
  rw [Int64.toInt_add, hs, Int64.toInt_ofNat_of_lt (by omega)]
  apply Int.bmod_eq_of_le <;> omega

theorem Logging.pushed (h : Logging f disk history newest older) {raw : List UInt8}
    (fine : (f.append disk raw).2.2 ≠ some .system)
    (room : newest.flatten.length + raw.length ≤ f.maxBytes.toInt.toNat) :
    ∃ f' disk', f.append disk raw = (f', disk', none) ∧ SameLog f f' disk disk' ∧
      Logging f' disk' (history ++ [raw]) (newest ++ [raw]) older := by
  obtain ⟨sum, heq, file⟩ := h.append fine
  have length : (newest ++ [raw]).flatten.length = newest.flatten.length + raw.length := by
    rw [List.flatten_append, List.length_append, List.flatten_singleton]
  refine ⟨_, _, heq, ⟨rfl, rfl, rfl, fun name hname => set_other (hname 0) _⟩, ?_⟩
  constructor
  · exact h.files.pushed raw
  · rw [length]
    exact file
  · rw [length]
    exact add_toInt h.size sum
  · exact h.few
  · have old := h.fits
    rw [List.forall_mem_cons] at old ⊢
    exact ⟨by rw [length]; exact room, old.2⟩
  · obtain ⟨dropped, whole⟩ := h.suffix
    refine ⟨dropped, ?_⟩
    have pushed := read_push (newest :: older) raw
    rw [push] at pushed
    rw [pushed, ← List.append_assoc, whole]

/-- The sum that is compared does not wrap, as the file could not take so much. -/
theorem Logging.room (h : Logging f disk history newest older) {raw : List UInt8}
    (short : (raw.length : Int) ≤ f.maxBytes.toInt)
    (sum : newest.flatten.length + raw.length ≤ maxOffset)
    (stays : ¬ (f.size ≠ 0 ∧ f.size + Int64.ofNat raw.length > f.maxBytes)) :
    newest.flatten.length + raw.length ≤ f.maxBytes.toInt.toNat := by
  by_cases empty : f.size = 0
  · have none : (newest.flatten.length : Int) = 0 := by rw [← h.size, empty, Int64.toInt_zero]
    omega
  · have under : ¬ f.size + Int64.ofNat raw.length > f.maxBytes := fun longer =>
        stays ⟨empty, longer⟩
    rw [gt_iff_lt, Int64.lt_iff_toInt_lt, add_toInt h.size sum] at under
    omega

theorem Logging.writeRecord (h : Logging f disk history newest older) {raw : List UInt8}
    (short : (raw.length : Int) ≤ f.maxBytes.toInt)
    (fine : (f.writeRecord disk raw).2.2 ≠ some .system) :
    ∃ f' disk' newest' older', f.writeRecord disk raw = (f', disk', none) ∧
    SameLog f f' disk disk' ∧
      Logging f' disk' (history ++ [raw]) newest' older' ∧ newest'.getLast? = some raw := by
  have accepted : ¬ Int64.ofNat raw.length > f.maxBytes := by
    have bound := f.maxBytes.toInt_lt
    rw [gt_iff_lt, Int64.lt_iff_toInt_lt, Int64.toInt_ofNat_of_lt (by omega)]
    omega
  unfold RotatingFile.writeRecord at fine ⊢
  rw [if_neg accepted] at fine ⊢
  split at fine
  next rotates =>
    rw [if_pos rotates]
    obtain ⟨f', disk', older', heq, same, rotated⟩ := h.rotate
    rw [heq] at fine ⊢
    have room : ([] : List (List UInt8)).flatten.length + raw.length ≤ f'.maxBytes.toInt.toNat := by
      rw [same.maxBytes, List.flatten_nil, List.length_nil]
      omega
    obtain ⟨f'', disk'', appended, same', logging⟩ := rotated.pushed fine room
    exact ⟨f'', disk'', _, older', appended, same.trans same', logging, by simp⟩
  next stays =>
    rw [if_neg stays]
    obtain ⟨f', disk', appended, same, logging⟩ :=
      h.pushed fine (h.room short (h.append fine).1 stays)
    exact ⟨f', disk', _, older, appended, same, logging, by simp⟩

/-! ## Every sequence of records -/

theorem Logging.writeRecords {records : List (List UInt8)} (h : Logging f disk history newest older)
    (last : newest.getLast? = history.getLast?)
    (short : ∀ raw ∈ records, (raw.length : Int) ≤ f.maxBytes.toInt)
    (fine : (f.writeRecords disk records).2.2 ≠ some .system) :
    ∃ f' disk' newest' older', f.writeRecords disk records = (f', disk', none) ∧
      SameLog f f' disk disk' ∧ Logging f' disk' (history ++ records) newest' older' ∧
      newest'.getLast? = (history ++ records).getLast? := by
  induction records generalizing f disk history newest older with
  | nil =>
    rw [List.append_nil]
    exact ⟨f, disk, newest, older, rfl, .refl f disk, h, last⟩
  | cons raw records ih =>
    rw [List.forall_mem_cons] at short
    unfold RotatingFile.writeRecords at fine ⊢
    have first : (f.writeRecord disk raw).2.2 ≠ some .system := by
      intro failed
      apply fine
      split
      next error heq =>
        rw [heq] at failed
        exact failed
      next heq =>
        rw [heq] at failed
        cases failed
    obtain ⟨f₁, disk₁, newest₁, older₁, heq, same, logging, written⟩ := h.writeRecord short.1 first
    rw [heq] at fine ⊢
    have last₁ : newest₁.getLast? = (history ++ [raw]).getLast? := by
      rw [written, List.getLast?_concat]
    obtain ⟨f₂, disk₂, newest₂, older₂, rest, same₂, logging₂, last₂⟩ :=
      ih logging last₁ (same.maxBytes ▸ short.2) fine
    rw [List.append_assoc, List.singleton_append] at logging₂ last₂
    exact ⟨f₂, disk₂, newest₂, older₂, rest, same.trans same₂, logging₂, last₂⟩

/-! ## The start -/

theorem openLogFile_ok {name : String} {append : Bool} {file : Handle}
    (h : openLogFile disk name append false = (disk', .ok file)) :
    file = { name, append, offset := 0 } ∧ disk' name = some ((disk name).getD {}) ∧
      ∀ other, other ≠ name → disk' other = disk other := by
  unfold openLogFile at h
  split at h
  next absent =>
    simp only [Prod.mk.injEq, Except.ok.injEq] at h
    obtain ⟨rfl, rfl⟩ := h
    refine ⟨rfl, ?_, fun other ne => set_other ne _⟩
    rw [set_self, absent]
    rfl
  next found present =>
    split at h
    · simp at h
    · simp only [Bool.false_eq_true, if_false] at h
      split at h
      · simp at h
      · simp only [Prod.mk.injEq, Except.ok.injEq] at h
        obtain ⟨rfl, rfl⟩ := h
        refine ⟨rfl, ?_, fun _ _ => rfl⟩
        rw [present]
        rfl

theorem openRotatingFile_empty {directory : Option DirectoryInfo} {owned : Bool} {maxBytes : Int64}
    {maxFiles : Nat} (one : 1 ≤ maxFiles) (clean : ∀ i, disk (rotatedName path (i + 1)) = none)
    (empty : disk path = none ∨ disk path = some {})
    (opened : openRotatingFile directory owned disk path maxBytes maxFiles = (disk', .ok f)) :
    f.path = path ∧ f.maxBytes = maxBytes ∧ f.maxFiles = maxFiles ∧ Logging f disk' [] [] [] ∧
      ∀ name, name ≠ path ++ ".lock" → (∀ i, name ≠ rotatedName path i) →
        disk' name = disk name := by
  unfold openRotatingFile at opened
  split at opened
  · simp at opened
  split at opened
  · simp at opened
  split at opened
  · simp at opened
  split at opened
  · simp at opened
  next locked lockFile lock =>
  split at opened
  · simp at opened
  split at opened
  · simp at opened
  split at opened
  · simp at opened
  next started file current =>
    obtain ⟨-, -, lock_others⟩ := openLogFile_ok lock
    obtain ⟨rfl, here, others⟩ := openLogFile_ok current
    have kept : ∀ i, locked (rotatedName path i) = disk (rotatedName path i) := fun i =>
        lock_others _ (lock_ne path i).symm
    have now : started path = some {} := by
      rw [here, show locked path = disk path from kept 0]
      rcases empty with none | some <;> simp [*]
    simp only [now, Option.map_some, Option.getD_some, List.length_nil] at opened
    rw [if_neg (by decide)] at opened
    simp only [Prod.mk.injEq, Except.ok.injEq] at opened
    obtain ⟨rfl, rfl⟩ := opened
    refine ⟨rfl, rfl, rfl, ?_, fun name notLock foreign => ?_⟩
    · constructor
      · intro i
        match i with
        | 0 => exact now
        | i + 1 =>
          have other : rotatedName path (i + 1) ≠ path := fun same =>
              absurd (rotatedName_injective (j := 0) same) (Nat.succ_ne_zero i)
          show started (rotatedName path (i + 1)) = _
          rw [others _ other, kept, clean i]
          rfl
      · exact ⟨true, rfl⟩
      · rfl
      · exact one
      · simp
      · exact List.suffix_refl _
    · rw [others name (foreign 0), lock_others name notLock]

/-- After any records that fit in one file, when no operation on a file failed, the files hold the
last of them whole and in order; no file is longer than `maxBytes`, and there are at most
`maxFiles`. -/
theorem rotation_retains {directory : Option DirectoryInfo} {owned : Bool} {disk : Disk}
    {path : String} {maxBytes : Int64} {maxFiles : Nat} (one : 1 ≤ maxFiles)
    (clean : ∀ i, disk (rotatedName path (i + 1)) = none)
    (empty : disk path = none ∨ disk path = some {}) {disk₀ : Disk} {f : RotatingFile}
    (opened : openRotatingFile directory owned disk path maxBytes maxFiles = (disk₀, .ok f))
    {records : List (List UInt8)} (short : ∀ raw ∈ records, (raw.length : Int) ≤ maxBytes.toInt)
    (fine : (f.writeRecords disk₀ records).2.2 ≠ some .system) :
    ∃ f' disk' older newest, f.writeRecords disk₀ records = (f', disk', none) ∧
      retained path maxFiles disk' = (older ++ [newest]).map List.flatten ∧
      (older ++ [newest]).flatten <:+ records ∧ newest.getLast? = records.getLast? ∧
      (∀ i file, disk' (rotatedName path i) = some file →
        i < maxFiles ∧ file.bytes.length ≤ maxBytes.toInt.toNat) ∧
      ∀ name, name ≠ path ++ ".lock" → (∀ i, name ≠ rotatedName path i) →
        disk' name = disk name := by
  obtain ⟨rfl, rfl, rfl, logging, foreign⟩ := openRotatingFile_empty one clean empty opened
  obtain ⟨f', disk', newest, older, heq, same, kept, last⟩ := logging.writeRecords rfl short fine
  rw [List.nil_append] at kept last
  have few : (newest :: older).length ≤ f.maxFiles := by
    have := kept.few
    rw [same.maxFiles] at this
    exact this
  have files : Holds f.path disk' (newest :: older) := same.path ▸ kept.files
  refine ⟨f', disk', older.reverse, newest, heq, ?_, ?_, last, fun i file found => ?_,
    fun name notLock others => ?_⟩
  · rw [files.retained few, List.reverse_cons]
  · rw [← List.reverse_cons]
    exact kept.suffix
  · rw [files i, Option.map_eq_some_iff] at found
    obtain ⟨segment, inside, rfl⟩ := found
    obtain ⟨low, rfl⟩ := List.getElem?_eq_some_iff.mp inside
    refine ⟨by omega, ?_⟩
    rw [← same.maxBytes]
    exact kept.fits _ (List.getElem_mem low)
  · exact (same.others name others).trans (foreign name notLock others)

/-- A new log of two files with four bytes each. -/
def smallLog : RotatingFile :=
  { path := "/l", maxBytes := 4, maxFiles := 2,
    file := some { name := "/l", append := true, offset := 0 }, size := 0 }

def smallDisk : Disk := (Disk.set (fun _ => none) "/l.lock" (some {})).set "/l" (some {})

def fourRecords : List (List UInt8) := [[1, 2, 3], [4], [5, 6], [7, 8, 9]]

/-- The first two records share a file, which the second rotation drops. -/
theorem rotation_retains_two :
    ∃ f' disk' older newest, smallLog.writeRecords smallDisk fourRecords = (f', disk', none) ∧
      retained "/l" 2 disk' = (older ++ [newest]).map List.flatten ∧
      retained "/l" 2 disk' = [[5, 6], [7, 8, 9]] ∧ (older ++ [newest]).flatten <:+ fourRecords ∧
      newest.getLast? = some [7, 8, 9] := by
  have opened : openRotatingFile (some {}) false (fun _ => none) "/l" 4 2 =
      (smallDisk, .ok smallLog) := rfl
  have short : ∀ raw ∈ fourRecords, (raw.length : Int) ≤ (4 : Int64).toInt := by decide
  have fine : (smallLog.writeRecords smallDisk fourRecords).2.2 ≠ some .system := by decide +kernel
  have files : retained "/l" 2 (smallLog.writeRecords smallDisk fourRecords).2.1 =
      [[5, 6], [7, 8, 9]] := by decide +kernel
  obtain ⟨f', disk', older, newest, heq, kept, suffix, last, -⟩ :=
    rotation_retains (by decide) (fun _ => rfl) (.inl rfl) opened short fine
  rw [heq] at files
  exact ⟨f', disk', older, newest, heq, kept, files, suffix, last⟩

end Sessionbus.CommsLog
