import Sessionbus.Session.Spec

/-!
# What leaves calls and runs alone

Most of what a session does to its wire, its client requests and its timers touches neither
its identity nor its calls and runs. `Quiet` says so once for each such function.
-/

namespace Sessionbus

/-- A command that is no call of a routed request. -/
def Command.quiet : Command → Bool
  | .openSession _ => true
  | .superseded => true
  | _ => false

def OutFrame.quiet : OutFrame → Bool
  | .request _ c => c.quiet
  | .response _ _ => true

def Act.quiet : Act → Bool
  | .responded _ => true
  | .notified _ _ _ => true
  | .wrote _ c => c.quiet
  | .unsent _ c _ => c.quiet
  | _ => false

/-- The wire was closed or took frames that are no calls. -/
structure Wire.Grows (low high : Nat) (c d : Wire) : Prop where
  outbox : ∃ l, d.outbox = c.outbox ++ l ∧ (∀ f ∈ l, f.quiet = true) ∧ Numbered low high l
  finishing : c.finishing = true → d.finishing = true
  done : c.done = true → d.done = true
  fdClosed : c.fdClosed = true → d.fdClosed = true

theorem Wire.Grows.refl (n : Nat) (c : Wire) : Wire.Grows n n c c :=
  ⟨⟨[], by simp, by simp, .nil le_rfl⟩, fun h => h, fun h => h, fun h => h⟩

theorem Wire.Grows.trans {l m n : Nat} {a b c : Wire} (h : Wire.Grows l m a b)
    (h' : Wire.Grows m n b c) : Wire.Grows l n a c := by
  obtain ⟨fs, hl, hq, hn⟩ := h.outbox
  obtain ⟨fs', hl', hq', hn'⟩ := h'.outbox
  refine ⟨⟨fs ++ fs', by rw [hl', hl, List.append_assoc], ?_, hn.append hn'⟩, h'.finishing ∘
    h.finishing, h'.done ∘ h.done, h'.fdClosed ∘ h.fdClosed⟩
  intro f hf
  rcases List.mem_append.mp hf with hf | hf
  · exact hq f hf
  · exact hq' f hf

theorem Wire.grows_close (n : Nat) (c : Wire) : Wire.Grows n n c c.close :=
  ⟨⟨[], by simp [close], by simp, .nil le_rfl⟩, fun h => h, fun h => h, fun _ => rfl⟩

theorem Wire.grows_send {low high : Nat} (c : Wire) (f : OutFrame) (hf : f.quiet = true)
    (hn : Numbered low high [f]) : Wire.Grows low high c (c.send f).1 := by
  unfold send
  split
  · exact ⟨⟨[], by simp, by simp, .nil hn.le⟩, fun h => h, fun h => h, fun h => h⟩
  · split
    · exact ⟨⟨[f], rfl, by simpa using hf, hn⟩, fun h => h, fun h => h, fun h => h⟩
    · exact ⟨⟨[], by simp [close], by simp, .nil hn.le⟩, fun h => h, fun h => h, fun _ => rfl⟩

theorem Wire.grows_finish {low high : Nat} (c : Wire) (f : OutFrame) (hf : f.quiet = true)
    (hn : Numbered low high [f]) : Wire.Grows low high c (c.finish f).1 := by
  unfold finish
  split
  · exact ⟨⟨[], by simp, by simp, .nil hn.le⟩, fun h => h, fun h => h, fun h => h⟩
  · split
    · exact ⟨⟨[f], rfl, by simpa using hf, hn⟩, fun _ => rfl, fun h => h, fun h => h⟩
    · exact ⟨⟨[], by simp [close], by simp, .nil hn.le⟩, fun _ => rfl, fun h => h, fun _ => rfl⟩

namespace Session

structure Quiet (s t : Session) : Prop where
  core : t.toSessionCore = s.toSessionCore
  stopping : s.stopping = true → t.stopping = true
  autoClose : t.autoClose = s.autoClose ∨
    t.autoClose = false ∧ (t.stopping = true ∨ t.closeCall ≠ none ∨ t.committed = false)
  wire : Wire.Grows s.nextOut t.nextOut s.wire t.wire
  history : ∃ l, t.history = s.history ++ l ∧ ∀ a ∈ l, a.quiet = true

namespace Quiet

theorem refl (s : Session) : Quiet s s := ⟨rfl, fun h => h, .inl rfl, .refl _ _, [], by simp⟩

theorem nextOut {s t : Session} (h : Quiet s t) : s.nextOut ≤ t.nextOut := by
  obtain ⟨l, -, -, hn⟩ := h.wire.outbox
  exact hn.le

theorem trans {s t u : Session} (h : Quiet s t) (h' : Quiet t u) : Quiet s u := by
  obtain ⟨l, hl, hq⟩ := h.history
  obtain ⟨l', hl', hq'⟩ := h'.history
  refine ⟨h'.core.trans h.core, h'.stopping ∘ h.stopping, ?_, h.wire.trans h'.wire,
    l ++ l', by rw [hl', hl, List.append_assoc], ?_⟩
  · rcases h'.autoClose with hu | hu
    · rw [hu, h'.core]
      exact h.autoClose.imp_right fun ht => ⟨ht.1, ht.2.imp_left h'.stopping⟩
    · exact .inr hu
  · intro a ha
    rcases List.mem_append.mp ha with ha | ha
    · exact hq a ha
    · exact hq' a ha

theorem of_wire {s t : Session} (hcore : t.toSessionCore = s.toSessionCore)
    (hstop : s.stopping = true → t.stopping = true) (hauto : t.autoClose = s.autoClose)
    (hwire : Wire.Grows s.nextOut t.nextOut s.wire t.wire) (hhist : t.history = s.history) :
    Quiet s t :=
  ⟨hcore, hstop, .inl hauto, hwire, [], by simp [hhist]⟩

theorem same {s t : Session} (hcore : t.toSessionCore = s.toSessionCore)
    (hnext : t.nextOut = s.nextOut) (hstop : t.stopping = s.stopping)
    (hauto : t.autoClose = s.autoClose) (hwire : t.wire = s.wire) (hhist : t.history = s.history) :
    Quiet s t :=
  .of_wire hcore (fun h => hstop.trans h) hauto (by rw [hwire, hnext]; exact .refl _ _) hhist

theorem act {s t : Session} {a : Act} (h : Quiet s t) (ha : a.quiet = true) : Quiet s (t.act a) :=
  h.trans ⟨rfl, fun h => h, .inl rfl, .refl _ _, [a], rfl, by simpa using ha⟩

end Quiet

theorem close_quiet (s : Session) : Quiet s { s with wire := s.wire.close } :=
  .of_wire rfl (fun h => h) rfl (Wire.grows_close _ _) rfl

theorem respond_quiet (env : Env) (s : Session) (id : Nat) (method : Method) (answer : Answer) :
    Quiet s (s.respond env id method answer) := by
  have hwire := s.wire.grows_send (.response id answer.body) rfl
      (.response s.nextOut id answer.body)
  unfold respond
  split
  · split <;> rename_i w heq <;> rw [heq] at hwire
    · exact Quiet.act (a := .responded id) (.of_wire rfl (fun h => h) rfl hwire rfl) rfl
    · exact .of_wire rfl (fun h => h) rfl (hwire.trans (Wire.grows_close _ _)) rfl
  · exact close_quiet s

theorem respond_queued (env : Env) (s : Session) (id : Nat) (method : Method) (answer : Answer) :
    (s.respond env id method answer).wire = s.wire.queue (.response id answer.body) ∨
      (s.respond env id method answer).wire.fdClosed = true := by
  unfold respond
  split
  · rcases s.wire.send_cases (.response id answer.body) with ⟨hok, hwire, -, -⟩ | ⟨hok, -⟩
    · have heq :
          s.wire.send (.response id answer.body) =
            (s.wire.queue (.response id answer.body), true) :=
        Prod.ext hwire hok
      rw [heq]
      exact .inl rfl
    · have heq :
          s.wire.send (.response id answer.body) =
            ((s.wire.send (.response id answer.body)).1, false) :=
        Prod.ext rfl hok
      rw [heq]
      exact .inr rfl
  · exact .inr rfl

theorem respond_nextOut (env : Env) (s : Session) (id : Nat) (method : Method) (answer : Answer) :
    (s.respond env id method answer).nextOut = s.nextOut := by
  unfold respond
  split
  · split <;> rfl
  · rfl

theorem reject_quiet (s : Session) (request : Bool) (id : Nat) (code : Code) :
    Quiet s (s.reject request id code) := by
  have hwire := s.wire.grows_finish (.response id (.error { code })) rfl (.response s.nextOut id _)
  unfold reject
  split
  · simp only
    split <;> rename_i w heq <;> rw [heq] at hwire
    · exact Quiet.act (a := .responded id) (.of_wire rfl (fun _ => rfl) rfl hwire rfl) rfl
    · exact .of_wire rfl (fun _ => rfl) rfl (hwire.trans (Wire.grows_close _ _)) rfl
  · exact .of_wire rfl (fun _ => rfl) rfl (Wire.grows_close _ _) rfl

theorem recordStop_quiet (s : Session) (signal : Signal) : Quiet s (s.recordStop signal) :=
  .of_wire rfl (fun _ => rfl) rfl (Wire.grows_close _ _) rfl

theorem orderlyStop_quiet (s : Session) : Quiet s s.orderlyStop := by
  have h := recordStop_quiet s .term
  unfold orderlyStop
  simp only
  split
  · exact h.trans (.same rfl rfl rfl rfl rfl rfl)
  · exact h

theorem abortLaunch_quiet (s : Session) (answer : Answer) : Quiet s (s.abortLaunch answer) := by
  unfold abortLaunch
  split
  · exact .refl s
  · exact .same rfl rfl rfl rfl rfl rfl

theorem finishCloseResponse_quiet (s : Session) (body : Body) :
    Quiet s (s.finishCloseResponse body) := by
  unfold finishCloseResponse
  split
  · exact close_quiet s
  · split
    · exact close_quiet s
    · exact orderlyStop_quiet s

theorem finishOne_quiet (env : Env) (s : Session) (id : Nat) (state : RequestState)
    (result : Answer) : Quiet s (s.finishOne env id state result) := by
  refine Quiet.trans ?_ (respond_quiet env _ _ _ _)
  exact .same rfl rfl rfl rfl rfl rfl

theorem finishRequest_quiet (env : Env) (s : Session) (id : Nat) (state : RequestState)
    (result : Answer) : Quiet s (s.finishRequest env id state result) := by
  unfold finishRequest
  have h := finishOne_quiet env s id state result
  simp only
  split
  · exact h
  · split
    · exact h
    · exact h.trans (finishOne_quiet env _ _ _ _)

theorem consumeReply_quiet (env : Env) (s : Session) (requestID leg : Nat) (answer : Answer) :
    Quiet s (s.consumeReply env requestID leg answer) := by
  have h : Quiet s { s with owned := s.owned - 1 } :=
    .same rfl rfl rfl rfl rfl rfl
  have hset : ∀ requests, Quiet s { s with owned := s.owned - 1, requests } :=
    fun _ => .same rfl rfl rfl rfl rfl rfl
  unfold consumeReply
  simp only
  split
  · exact h
  · split
    · split
      · exact hset _
      · exact h.trans (finishOne_quiet env _ _ _ _)
    · split
      · split
        · exact hset _
        · exact h.trans (finishRequest_quiet env _ _ _ _)
      · exact h.trans (finishRequest_quiet env _ _ _ _)

theorem detachRequests_quiet (env : Env) (s : Session) (code : Code) :
    Quiet s (s.detachRequests env code) := by
  have hfold : ∀ (l : List (Sigma fun _ : Nat => RequestState)) (t : Session), Quiet s t →
      Quiet s (l.foldl (fun s e => s.respond env e.1 e.2.method (.code code)) t) := by
    intro l
    induction l with
    | nil => exact fun t h => h
    | cons e l ih => exact fun t h => ih _ (h.trans (respond_quiet env t _ _ _))
  exact hfold _ _ (.same rfl rfl rfl rfl rfl rfl)

theorem supersede_quiet (env : Env) (s : Session) : Quiet s (s.supersede env) := by
  unfold supersede
  split
  · exact .refl s
  · have hstop : Quiet s { s with stopping := true } :=
      .of_wire rfl (fun _ => rfl) rfl (.refl _ _) rfl
    have h := hstop.trans (detachRequests_quiet env _ .superseded)
    simp only
    generalize ({ s with stopping := true }).detachRequests env .superseded = t at h ⊢
    have hwire := t.wire.grows_finish (.request (t.nextOut + 1) .superseded) rfl
        (.request t.nextOut _)
    have hnext : ∀ wire, Wire.Grows t.nextOut (t.nextOut + 1) t.wire wire →
        Quiet s { t with nextOut := t.nextOut + 1, wire } :=
      fun w hw => h.trans ⟨rfl, fun h => h, .inl rfl, hw, [], by simp⟩
    have hskip : Wire.Grows t.nextOut (t.nextOut + 1) t.wire t.wire.close :=
      ⟨⟨[], by simp [Wire.close], by simp, .nil (Nat.le_succ _)⟩, fun h => h, fun h => h,
        fun _ => rfl⟩
    split
    · split <;> rename_i w heq <;> rw [heq] at hwire
      · exact (hnext _ hwire).act rfl
      · exact (hnext _ (hwire.trans (Wire.grows_close _ _))).act rfl
    · exact (hnext _ hskip).act rfl

theorem notifyCompletion_quiet (s : Session) (value : TurnReady) (fromTrace fromCompletion : Bool) :
    Quiet s (s.notifyCompletion value fromTrace fromCompletion) := by
  unfold notifyCompletion
  extract_lets policy target
  split
  · split
    · refine Quiet.act ?_ rfl
      exact .same rfl rfl rfl rfl rfl rfl
    · exact .refl s
  · exact .refl s

theorem clientRequest_quiet (env : Env) (s : Session) (id : Nat) (method : Method)
    (verdict : Verdict) : Quiet s (s.clientRequest env id method verdict) := by
  unfold clientRequest
  split
  · exact supersede_quiet env s
  · split
    · exact respond_quiet env s _ _ _
    · split
      · exact respond_quiet env s _ _ _
      · exact reject_quiet s _ _ _
      · exact .same rfl rfl rfl rfl rfl rfl

theorem processStarted_quiet (s : Session) (launch : Ptr) (child : Child) :
    Quiet s (s.processStarted launch child) := by
  unfold processStarted
  split
  · exact .refl s
  · exact .same rfl rfl rfl rfl rfl rfl

theorem handleExit_quiet (s : Session) (launch : Ptr) (error : Option String) :
    Quiet s (s.handleExit launch error) := by
  unfold handleExit
  split
  · exact .refl s
  · split
    · exact .refl s
    · extract_lets s₁ s₂
      have h : Quiet s s₂ := by
        simp only [s₂]
        split <;> exact .same rfl rfl rfl rfl rfl rfl
      split
      · split
        · exact h.trans (abortLaunch_quiet _ _)
        · exact h
      · exact h

end Session

end Sessionbus
