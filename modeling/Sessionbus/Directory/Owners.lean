import Sessionbus.Directory.Listed
import Sessionbus.Directory.Retiring

/-!
# Where owner records come from

An owner is recorded for a peer, for a lane that is published, and for a caller of another host;
afterwards it gets destinations and ends. What holds of every new record and does not depend on
these holds of every record in every run.
-/

namespace Sessionbus

namespace Directory

/-- The record that `remoteOwnerLocked` makes. -/
def remoteRecord (caller : Caller) : Ownership :=
  { caller := some caller, id := caller.sessionID, token := caller.ownerLifetime
    host := ((splitHost caller.sessionID).map Prod.snd).getD caller.sessionID
    attachment := caller.sourceAttachment }

/-- What does not depend on the parts of a record that change. -/
structure Records (P : Ownership → Prop) : Prop where
  here : ∀ id token, P { id, token }
  changed : ∀ owner ended destinations, P owner → P { owner with ended, destinations }

/-- It holds of every record there has been. -/
def Owned (P : Ownership → Prop) (d : Directory) : Prop := ∀ o, P (d.owners o)

namespace Owned

variable {P : Ownership → Prop} {d d' : Directory}

theorem same (h : d.Owned P) (owners : d'.owners = d.owners) : d'.Owned P := by
  intro o
  rw [owners]
  exact h o

theorem setOwner (h : d.Owned P) (o : Ptr) {owner : Ownership} (new : P owner) :
    (d.setOwner o owner).Owned P := by
  intro o'
  show P (Function.update d.owners o owner o')
  rw [Function.update_apply]
  split
  · exact new
  · exact h o'

theorem newOwner (h : d.Owned P) {owner : Ownership} (new : P owner) : (d.newOwner owner).Owned P :=
  (h.setOwner d.nextOwner new).same rfl

/-! ## Ends -/

theorem endOwner (h : d.Owned P) (rule : Records P) (full : List Ptr) (owner : Option Ptr) :
    (d.endOwner full owner).Owned P := by
  obtain ⟨heq, -⟩ | ⟨o, -, -, ends⟩ := endOwner_cases (d := d) full owner
  · rw [heq]
    exact h
  · exact (h.setOwner o (rule.changed (d.owners o) true (d.owners o).destinations (h o))).same
      ends.owners

theorem endEntry (h : d.Owned P) (rule : Records P) (full : List Ptr) (p : Ptr) :
    (d.endEntry full p).Owned P :=
  (h.endOwner rule full (d.items p).lifetime).same rfl

theorem retiring (h : d.Owned P) (rule : Records P) (run : Retiring d d') : d'.Owned P := by
  induction run with
  | refl => exact h
  | plain _ change ih => exact ih.same change.owners
  | endEntry _ _ full p ih => exact ih.endEntry rule full p
  | endRemote _ _ full e o ih =>
    unfold Directory.endRemote
    split
    · exact (ih.endOwner rule full (some o)).same rfl
    · exact ih

/-! ## Peers -/

theorem takeID (h : d.Owned P) (rule : Records P) (full : List Ptr) (host : String) (s : Ptr)
    (hello : PeerHello) : (d.takeID full host s hello).Owned P := by
  unfold Directory.takeID
  simp only
  split
  next found _ =>
    have marked : (d.setItem found ((d.items found).setLifetime none)).Owned P := h.same rfl
    exact (marked.endEntry rule full found).same rfl
  · exact (h.newOwner (rule.here _ _)).same rfl

theorem replacePeer (h : d.Owned P) (rule : Records P) (full : List Ptr) (s : Ptr)
    (value : PeerHello) (old : Option Ptr) : (d.replacePeer full s value old).Owned P := by
  unfold Directory.replacePeer
  split
  · exact h.takeID rule full _ s value
  next o =>
    have unlisted : (d.setEntry (d.items o).row.sessionID none).Owned P := h.same rfl
    exact (unlisted.endEntry rule full o).takeID rule full _ s value

/-! ## Callers of other hosts -/

theorem postCallerForward (h : d.Owned P) (rule : Records P) (s : Ptr) (target : String) :
    (d.postCallerForward s target).Owned P := by
  unfold Directory.postCallerForward
  split
  · exact h
  next o _ =>
    split
    · exact h
    · exact h.setOwner o (rule.changed (d.owners o) (d.owners o).ended _ (h o))

theorem remoteOwner (h : d.Owned P) {caller : Caller}
    (new : caller.ownerLifetime ≠ "" → caller.sourceAttachment ≠ "" → P (remoteRecord caller)) :
    (d.remoteOwner caller).1.Owned P := by
  unfold Directory.remoteOwner
  split
  · exact h
  next known =>
    rw [not_or] at known
    split
    · exact h
    · exact (h.newOwner (new known.1 known.2)).same rfl

/-! ## Steps -/

theorem attach (h : d.Owned P) (rule : Records P) (l s : Ptr) (createdAt : Nat) :
    (d.attach l s createdAt).Owned P := by
  unfold Directory.attach
  exact (h.newOwner (rule.here (d.entryOf l).row.sessionID (ownerToken d.nextOwner))).same rfl

theorem step (h : d.Owned P) (rule : Records P) (sound : d.Sound) (a : Action)
    (new : ∀ caller, a.remoteCaller = some caller → caller.ownerLifetime ≠ "" →
      caller.sourceAttachment ≠ "" → P (remoteRecord caller)) : (d.step a).Owned P := by
  obtain retiring | ⟨s, target, -, heq⟩ | ⟨caller, remote, plain⟩ | ⟨l, s, createdAt, -, plain⟩ |
    ⟨up, room, rfl⟩ |
    ⟨s, value, full, old, -, -, heq⟩ := sound.step_cases a
  · exact h.retiring rule retiring
  · exact (h.postCallerForward rule s target).same (by rw [heq])
  · exact (h.remoteOwner (new caller remote)).same plain.owners
  · exact (h.attach rule l s createdAt).same plain.owners
  · exact h.same rfl
  · exact (h.replacePeer rule full s value old).same (by rw [heq])

theorem newDirectory (rule : Records P) (host : String) (u : Unicode) (rows : List Row) :
    (newDirectory host u rows).Owned P := by
  rw [newDirectory_eq]
  have start : Owned P { host, unicode := u } := fun _ => rule.here "" ""
  revert start
  generalize ({ host, unicode := u } : Directory) = d
  intro start
  induction rows generalizing d with
  | nil => exact start
  | cons row rows ih => exact ih (d.addRow row) (start.same rfl)

end Owned

end Directory

end Sessionbus
