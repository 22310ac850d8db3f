import Sessionbus.Directory.Named

/-!
# What the maps of the directory mean
-/

namespace Sessionbus

namespace Directory

/-- A lane that is in the directory, or whose name is reserved for a launch. -/
def Lane (d : Directory) (p : Ptr) : Prop :=
  (d.items p).peer = false ∧
    (d.listed p = true ∨ ∃ l, d.Open l ∧ (d.launches l).describe = false ∧ (d.launches l).entry = p)

structure Represents (d : Directory) : Prop where
  ids : ∀ id p, d.entries id = some p → (d.items p).row.sessionID = id
  peers : ∀ id p, d.entries id = some p → (d.items p).peer = true →
    (d.items p).attachment ≠ none ∧ (d.items p).done = false
  lanes : ∀ id p, d.entries id = some p → (d.items p).peer = false →
    d.names (d.items p).row.name = some p
  distinct : ∀ p q, d.Lane p → d.Lane q → (d.items p).row.name = (d.items q).row.name → p = q
  kinds : ∀ p q, d.listed p = true → d.listed q = true → (d.items p).peer = true →
    (d.items q).peer = false → (d.items p).row.sessionID ≠ (d.items q).row.sessionID
  idle : ∀ p, (d.items p).attachment = none → (d.items p).running = false

variable {d : Directory}

theorem Names.lane_named (h : d.Names) {p : Ptr} (lane : d.Lane p) :
    d.names (d.items p).row.name = some p := by
  obtain ⟨kind, listed | ⟨l, hl, undescribed, rfl⟩⟩ := lane
  · exact h.lanes _ p (by simpa [Directory.listed] using listed) kind
  · exact h.reserved l hl undescribed

theorem Sound.represents (h : d.Sound) (names : d.Names) : d.Represents where
  ids id p he := (h.shape.ids id p he).1
  peers id p he hp := by
    have attached := h.holds.peers id p he hp
    obtain ⟨s, hs⟩ := Option.ne_none_iff_exists'.mp attached
    exact ⟨attached, (h.holds.attached p s hs).2.1⟩
  lanes := names.lanes
  distinct p q hp hq heq := by
    have named := names.lane_named hp
    rw [heq, names.lane_named hq] at named
    exact (Option.some.inj named).symm
  kinds p q hp hq peer lane heq := by
    simp only [Directory.listed, beq_iff_eq] at hp hq
    rw [heq, hq] at hp
    cases hp
    simp [peer] at lane
  idle := h.holds.idle

/-! ## A session that lost its entry -/

/-- Nothing attaches the session to the entry any more. -/
def Gone (d : Directory) (p s : Ptr) : Prop :=
  p < d.nextItem ∧ (d.items p).attachment ≠ some s ∧ ∀ l, d.Open l → (d.launches l).entry ≠ p

theorem Gone.later {d' : Directory} {p s : Ptr} (h : d.Gone p s) (later : Later d d') :
    d'.Gone p s := by
  obtain ⟨old, detached, free⟩ := h
  refine ⟨Nat.lt_of_lt_of_le old later.items, fun attached => ?_, fun l hl entry => ?_⟩
  · rcases later.attached p s old attached with attached | ⟨l, hl, entry⟩
    · exact detached attached
    · exact free l hl entry
  · obtain ⟨hl, entry⟩ := later.open_old hl entry old
    exact free l hl entry

theorem Sound.attached_kept (h : d.Sound) {p s : Ptr} (attached : (d.items p).attachment = some s) :
    p < d.nextItem ∧ ∀ l, d.Open l → (d.launches l).entry ≠ p :=
  ⟨(h.shape.ids _ p (h.holds.attached p s attached).1).2,
    fun _ hl => (h.attached_free attached hl).1⟩

theorem Sound.gone (h : d.Sound) {p s : Ptr} (current : d.current p s = true)
    (actions : List Action) (lost : (d.run actions).current p s = false) :
    (d.run actions).Gone p s := by
  have attached : (d.items p).attachment = some s := by
    simp only [Directory.current, Bool.and_eq_true, beq_iff_eq] at current
    exact current.2
  obtain ⟨old, free⟩ := h.attached_kept attached
  have later := Later.run h actions
  refine ⟨Nat.lt_of_lt_of_le old later.items, fun still => ?_, fun l hl entry => ?_⟩
  · -- An attached entry is listed.
    have := ((h.run actions).holds.attached p s still).1
    simp [Directory.current, Directory.listed, still, this] at lost
  · obtain ⟨hl, entry⟩ := later.open_old hl entry old
    exact free l hl entry

theorem Gone.not_current {p s : Ptr} (h : d.Gone p s) : d.current p s = false := by
  simp [Directory.current, h.2.1]

/-- The directory of a daemon that started on rows with different names and with creation times. -/
theorem representation (host : String) (u : Unicode) {rows : List Row}
    (names : (rows.map Row.name).Nodup) (written : ∀ row ∈ rows, row.name ≠ "" ∧ row.createdAt ≠ 0)
    (actions : List Action) :
    ((newDirectory host u rows).run actions).Represents ∧
      ∀ p s more, ((newDirectory host u rows).run actions).current p s = true →
        (((newDirectory host u rows).run actions).run more).current p s = false →
        ∀ rest,
          ((((newDirectory host u rows).run actions).run more).run rest).current p s = false := by
  have start := sound_newDirectory host u rows
  have sound := start.run actions
  have named := (names_newDirectory host u names written).run start actions
  refine ⟨sound.represents named, fun p s more current lost rest => ?_⟩
  have gone := sound.gone current more lost
  exact (gone.later (Later.run (sound.run more) rest)).not_current

def writtenRows : List Row :=
  [{ sessionID := "lane@h", product := "kit", name := "work@h", groups := ["team"],
     createdAt := 1 },
    { sessionID := "other@h", product := "kit", name := "play@h", groups := ["team"],
      createdAt := 2 }]

def ascii : Unicode := { print := fun c => ' ' ≤ c && c ≤ '~', space := fun c => c == ' ' }

/-- A peer says hello and loses its connection, and another takes its ID. -/
theorem representation_peer :
    (writtenRows.map Row.name).Nodup ∧
      (∀ row ∈ writtenRows, row.name ≠ "" ∧ row.createdAt ≠ 0) ∧
      let boss : PeerHello := { sessionID := "boss", product := "kit", groups := ["team"] }
      let d := (newDirectory "h" ascii writtenRows).run [.hello 0 boss []]
      d.Represents ∧ d.current 2 0 = true ∧ (d.run [.disconnect 0 []]).current 2 0 = false ∧
        ((d.run [.disconnect 0 []]).run [.hello 1 boss []]).current 2 0 = false := by
  have names : (writtenRows.map Row.name).Nodup := by decide
  have written : ∀ row ∈ writtenRows, row.name ≠ "" ∧ row.createdAt ≠ 0 := by decide
  have current : ((newDirectory "h" ascii writtenRows).run [.hello 0
      { sessionID := "boss", product := "kit", groups := ["team"] } []]).current 2 0 = true := by
        decide +kernel
  have lost : (((newDirectory "h" ascii writtenRows).run [.hello 0
      { sessionID := "boss", product := "kit", groups := ["team"] } []]).run
        [.disconnect 0 []]).current 2 0 = false := by
    decide +kernel
  obtain ⟨represents, forever⟩ := representation "h" ascii names written
    [.hello 0 { sessionID := "boss", product := "kit", groups := ["team"] } []]
  exact ⟨names, written, represents, current, lost, forever 2 0 _ current lost _⟩

/-- A row without a creation time loses its name when its resume fails. -/
theorem representation_zero_created :
    ∃ (rows : List Row) (actions : List Action),
      (rows.map Row.sessionID).Nodup ∧ (rows.map Row.name).Nodup ∧
        ¬ ((newDirectory "h" ascii rows).run actions).Represents := by
  refine ⟨[{ sessionID := "lane@h", product := "kit", name := "work@h", groups := ["team"] }],
    [.hello 0 { sessionID := "boss", product := "kit", groups := ["team"] } [],
      .spawn 0 { resumeSessionID := "lane" }, .revoke 0 (.code .timeout), .release 0 []],
    by decide, by decide, fun h => ?_⟩
  have named := h.lanes "lane@h" 0 (by decide +kernel) (by decide +kernel)
  exact absurd named (by decide +kernel)

end Directory

end Sessionbus
