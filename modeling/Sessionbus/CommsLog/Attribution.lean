import Mathlib.Data.List.TakeWhile
import Sessionbus.CommsLog.Spec
import Sessionbus.Directory.Listed
import Sessionbus.Federation.Forward

/-!
# Hosts in the communication log

`comms.go`: the endpoints of an event. Every other place reads the host of an identity after its
last `@`; the log reads it after the first one.
-/

namespace Sessionbus

/-- The text after the first separator: the second result of `strings.Cut`. -/
def afterFirst (separator : Char) (value : String) : Option String :=
  match value.toList.dropWhile (· != separator) with
  | [] => none
  | _ :: rest => some (String.ofList rest)

theorem afterFirst_append {separator : Char} {before : String} (clean : separator ∉ before.toList)
    (after : String) :
    afterFirst separator (before ++ String.singleton separator ++ after) = some after := by
  have skip : (before.toList ++ separator :: after.toList).dropWhile (· != separator) = separator ::
      after.toList := by
    rw [List.dropWhile_append_of_pos]
    · simp
    · intro c hc
      simp only [bne_iff_ne, ne_eq]
      rintro rfl
      exact clean hc
  simp [afterFirst, skip]

theorem afterFirst_early {separator : Char} {before : String} (early : separator ∈ before.toList)
    (after : String) :
    ∃ rest, afterFirst separator (before ++ String.singleton separator ++ after) = some rest ∧
      after.length < rest.length := by
  have kept : before.toList.dropWhile (· != separator) ≠ [] := by
    intro gone
    rw [List.dropWhile_eq_nil_iff] at gone
    have stopped := gone separator early
    simp at stopped
  obtain ⟨c, rest, hrest⟩ := List.exists_cons_of_ne_nil kept
  have cut : (before.toList ++ separator :: after.toList).dropWhile (· != separator) =
      c :: (rest ++ separator :: after.toList) := by
    rw [List.dropWhile_append, hrest]
    simp
  refine ⟨String.ofList (rest ++ separator :: after.toList), by simp [afterFirst, cut], ?_⟩
  simp
  omega

namespace CommsLog

def endpoint (id name product : String) (groups : List String) : Endpoint :=
  { sessionID := id, host := (afterFirst '@' id).getD "", name, product, groups }

end CommsLog

namespace Directory

def logTarget (d : Directory) (target : String) : CommsLog.Endpoint :=
  match d.entries target with
  | some p =>
    let row := (d.items p).row
    { CommsLog.endpoint row.sessionID row.name row.product row.groups with target }
  | none => { target, host := (afterFirst '@' target).getD "" }

theorem logTarget_host {d : Directory} (reach : d.Reachable) (target : String) :
    (d.logTarget target).host = (afterFirst '@' target).getD "" := by
  unfold logTarget
  split
  · rename_i p found
    simp [CommsLog.endpoint, (reach.sound.shape.ids target p found).1]
  · rfl

/-- The filter of `finishTrace`: a child of this host. -/
def ownChild (child here : String) : Bool := ("@" ++ here).toList.isSuffixOf child.toList

end Directory

/-! ## All sites but the log agree -/

section
variable {value part host : String}

theorem at_inj {part' host' : String} (clean : '@' ∉ host.toList) (clean' : '@' ∉ host'.toList)
    (same : part ++ "@" ++ host = part' ++ "@" ++ host') : host = host' := by
  have after : ∀ (before : List Char) {last : List Char}, '@' ∉ last →
      (before ++ '@' :: last).reverse.takeWhile (· != '@') = last.reverse := by
    intro before last free
    rw [List.reverse_append, List.reverse_cons, List.append_assoc, List.takeWhile_append_of_pos]
    · simp
    · intro c hc
      simp only [bne_iff_ne, ne_eq]
      rintro rfl
      exact free (List.mem_reverse.mp hc)
  have chars := congrArg (fun text => (String.toList text).reverse.takeWhile (· != '@')) same
  simp only [String.toList_append, List.append_assoc] at chars
  have left := after part.toList clean
  have right := after part'.toList clean'
  simp only [String.reduceToList, List.cons_append, List.nil_append] at chars
  rw [left, right, List.reverse_inj] at chars
  exact String.toList_injective chars

theorem ownChild_iff (split : splitHost value = some (part, host)) (valid : validHost host = true)
    {here : String} (here_valid : validHost here = true) : Directory.ownChild value here = true ↔
    here = host := by
  unfold Directory.ownChild
  rw [List.isSuffixOf_iff_suffix, splitHost_eq split]
  constructor
  · rintro ⟨before, hbefore⟩
    have same : String.ofList before ++ "@" ++ here = part ++ "@" ++ host := by
      apply String.toList_injective
      simpa using hbefore
    exact at_inj (validHost_free here_valid) (validHost_free valid) same
  · rintro rfl
    exact ⟨part.toList, by simp⟩

theorem canonicalTarget_host (split : splitHost value = some (part, host))
    (valid : validHost host = true) (here : String) (validPart : String → Bool) :
    canonicalTarget value here validPart = if validPart part then some (value, host) else none := by
  simp [canonicalTarget, split, valid]

theorem canonical_host (split : splitHost value = some (part, host)) (valid : validHost host = true)
    (here : String) (validPart : String → Bool) : canonical value here validPart =
      if !validPart part then ("", some .invalidFrame)
      else if host ≠ here then ("", some .unknownHost) else (value, none) := by
  simp [canonical, split, valid]

theorem ownedPart_host (split : splitHost value = some (part, host)) (u : Unicode) (there : String)
    (spaces : Bool) :
    ownedPart u value there spaces = true ↔ there = host ∧ 0 < part.length ∧ part.length ≤ 128 ∧
      ∀ c ∈ part.toList, u.print c = true ∧ (spaces = true ∨ u.space c = false) := by
  rw [ownedPart, split, eq_comm (a := there)]
  simp [and_assoc]

theorem suffix_host (split : splitHost value = some (part, host)) (valid : validHost host = true) :
    Federation.suffix value = if part ≠ "" ∧ host ≠ "local" then some host else none := by
  simp [Federation.suffix, split, Federation.validHost, validToken, valid]

theorem addRemoteOwner_host (split : splitHost value = some (part, host)) (d : Directory)
    {caller : Caller} (id : caller.sessionID = value) :
    ((d.addRemoteOwner caller).owners d.nextOwner).host = host := by
  simp [Directory.addRemoteOwner, Directory.newOwner, id, split]

theorem afterFirst_host (split : splitHost value = some (part, host)) :
    (afterFirst '@' value).getD "" = host ↔ '@' ∉ part.toList := by
  rw [splitHost_eq split]
  constructor
  · intro h early
    obtain ⟨rest, cut, longer⟩ := afterFirst_early early host
    have whole : rest = host := (congrArg (Option.getD · "") cut).symm.trans h
    exact absurd longer (whole ▸ Nat.lt_irrefl _)
  · intro clean
    exact congrArg (Option.getD · "") (afterFirst_append clean host)

/-- All the code reads the host of a qualified identity after its last `@`. The log agrees exactly
when the part before holds no `@`. -/
theorem host_attribution (split : splitHost value = some (part, host))
    (valid : validHost host = true) {d : Directory} (reach : d.Reachable) :
    (∀ here validPart, canonicalTarget value here validPart =
        if validPart part then some (value, host) else none) ∧
      (∀ here validPart, canonical value here validPart =
        if !validPart part then ("", some .invalidFrame)
        else if host ≠ here then ("", some .unknownHost) else (value, none)) ∧
      (Federation.suffix value = if part ≠ "" ∧ host ≠ "local" then some host else none) ∧
      (∀ u there spaces, ownedPart u value there spaces = true ↔
        there = host ∧ 0 < part.length ∧ part.length ≤ 128 ∧
          ∀ c ∈ part.toList, u.print c = true ∧ (spaces = true ∨ u.space c = false)) ∧
      (∀ caller, caller.sessionID = value →
        ((d.addRemoteOwner caller).owners d.nextOwner).host = host) ∧
      (∀ here, validHost here = true → (Directory.ownChild value here = true ↔ here = host)) ∧
      (((d.logTarget value).host = host ∧
          ∀ name product groups, (CommsLog.endpoint value name product groups).host = host) ↔
        '@' ∉ part.toList) := by
  refine ⟨canonicalTarget_host split valid, canonical_host split valid, suffix_host split valid,
    ownedPart_host split, fun _ => addRemoteOwner_host split d,
    fun _ => ownChild_iff split valid, ?_⟩
  rw [Directory.logTarget_host reach]
  constructor
  · rintro ⟨logged, -⟩
    exact (afterFirst_host split).mp logged
  · intro clean
    exact ⟨(afterFirst_host split).mpr clean, fun _ _ _ => (afterFirst_host split).mpr clean⟩

end

namespace Directory

theorem onePeer_attribution :
    splitHost "a@h" = some ("a", "h") ∧ (onePeer.logTarget "a@h").host = "h" := by
  have split : splitHost "a@h" = some ("a", "h") := by decide +kernel
  have reach : onePeer.Reachable :=
    ⟨"h", anyUnicode, [],
      [.hello 0 { sessionID := "a", product := "p", name := "n", groups := ["g"] } []], rfl⟩
  exact ⟨split, ((host_attribution split (by decide) reach).2.2.2.2.2.2.mpr (by decide)).1⟩

/-- A peer whose ID has an `@` of its own. -/
def atPeer : Directory :=
  (newDirectory "h" anyUnicode []).step
    (.hello 0 { sessionID := "a@b", product := "p", name := "n", groups := ["g"] } [])

/-- Routing finds the peer on this host, and the log says that it is on `b@h`. -/
theorem atPeer_misattributed :
    atPeer.entries "a@b@h" = some 0 ∧
      canonicalTarget "a@b@h" "h" (validIDPart anyUnicode) = some ("a@b@h", "h") ∧
      (atPeer.logTarget "a@b@h").host = "b@h" := by
  decide +kernel

end Directory

end Sessionbus
