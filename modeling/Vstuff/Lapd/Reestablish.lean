import Vstuff.Lapd.Footprint

/-! Loss of data when a link is set up again. The handlers of SABME and UA mean
to discard the queue and to tell layer 3 when frames were outstanding, but they
compare V(S) and V(A) after setting both to 0. -/
namespace Vstuff.Lapd
open Transition
set_option linter.all false

/-- Frames are outstanding, and a SABME is handled in state 7 or 8 or a UA with
F = 1 in state 5 that layer 3 did not ask for. -/
def LosesFrames (s : Sock) (e : Event) : Prop :=
  s.vS ≠ s.vA ∧
    ((s.state = .linkConnectionEstablished ∨ s.state = .timerRecovery) ∧
      (handledUframe s e = some (.sabme, true) ∨ handledUframe s e = some (.sabme, false)) ∨
    s.state = .awaitingEstablish ∧ s.layer3Initiated = false ∧
      handledUframe s e = some (.ua, true))

instance (s : Sock) (e : Event) : Decidable (LosesFrames s e) :=
  inferInstanceAs (Decidable (_ ∧ _))

/-- The event took the outstanding frames off the queue and told layer 3. -/
def LossReported (s t : Sock) : Prop :=
  (∀ skb ∈ s.preceding, skb.id ∉ t.writeQueue.map Skb.id) ∧
    ∃ more size, t.receiveQueue = s.receiveQueue ++ more ∧
      .primitive .establishIndication size ∈ more

theorem indication_receiveQueue (s : Sock) (errors : List MdlError)
    (harmless : verifiesTei errors = false) :
    (mdlPrimitive s (.errorIndication errors)).receiveQueue = s.receiveQueue := by
  simp only [mdlPrimitive, mdlPrimitiveWith, mdlRecv, mdlErrorIndication, harmless]
  split <;> rfl

/-- The reset is silent: after it V(S) and V(A) are equal whatever they were. -/
theorem resetLink_receiveQueue (s : Sock) (pF : Bool) :
    (resetLink s pF).receiveQueue = s.receiveQueue := by
  unfold resetLink
  dsimp only
  rw [if_neg (fun differ => differ rfl)]
  exact indication_receiveQueue _ [.F] rfl

theorem handleUframeUa_receiveQueue (s : Sock) (here : s.state = .awaitingEstablish)
    (foreign : s.layer3Initiated = false) :
    (handleUframeUa s true).receiveQueue = s.receiveQueue := by
  unfold handleUframeUa
  simp only [here, Bool.not_true, Bool.false_eq_true, if_false]
  rw [if_neg (by simp [changeState, startT203, stopT200, foreign]), if_neg (fun differ => differ rfl)]
  rfl

variable {s t : Sock} {e : Event}

theorem lossy_perform (lossy : LosesFrames s e) : (perform s e).receiveQueue = s.receiveQueue := by
  obtain ⟨_, ⟨here, sabme⟩ | ⟨here, foreign, ua⟩⟩ := lossy
  · obtain ⟨pF, got⟩ : ∃ pF, handledUframe s e = some (.sabme, pF) := by
      obtain got | got := sabme <;> exact ⟨_, got⟩
    obtain ⟨skb, item, control, length⟩ := handledUframe_frame got
    obtain ⟨backlog, result⟩ := handled_perform item
    rw [result]
    simp only [dlcRecv, control, handleUframe, length, handleUframeSabme]
    obtain here | here := here
    · simp only [here]
      exact resetLink_receiveQueue { s with backlog := backlog } pF
    · simp only [here]
      exact resetLink_receiveQueue { s with backlog := backlog } pF
  · obtain ⟨skb, item, control, length⟩ := handledUframe_frame ua
    obtain ⟨backlog, result⟩ := handled_perform item
    rw [result]
    simp only [dlcRecv, control, handleUframe, length]
    exact handleUframeUa_receiveQueue { s with backlog := backlog } here foreign

/-- No event of this kind tells layer 3 about the frames it may have lost. -/
theorem loss_is_never_reported (lossy : LosesFrames s e) (took : step s e = some t) :
    ¬ LossReported s t := by
  obtain ⟨_, rfl, _⟩ := step_performs took
  rintro ⟨_, more, size, queue, told⟩
  have silent : (perform { s with out := [] } e).receiveQueue = s.receiveQueue :=
    lossy_perform (s := { s with out := [] }) lossy
  rw [silent] at queue
  have nothing : more = [] := by simpa using queue.symm
  rw [nothing] at told
  cases told

/-- The network socket once the terminal has connected and a frame has been
sent to it. -/
def outstandingSock : Sock :=
  { networkSock 1 with
    state := .linkConnectionEstablished
    vS := 1
    writeQueue := [{ id := 0, tei := 64, nS := 0, nR := 0, data := [1], transmitted := true }]
    nextId := 1
    t200 := true
    receiveQueue := [.primitive .establishIndication 100]
    rmemAlloc := 100
    out := [.phDataRequest
      { sapi := 0, cr := true, tei := 64, control := .iframe 0 0 false, data := [1] } false] }

theorem outstandingSock_run : Run step Any (networkSock 1)
    [fromTerminal .command (.uframe .sabme true) [], .dataRequest [1] 0 0] outstandingSock :=
  follow_run step Any (networkSock 1) _ (by decide)

/-- The terminal resets the link and the frame is lost. -/
theorem reset_loses_a_frame :
    LosesFrames outstandingSock (fromTerminal .command (.uframe .sabme true) []) ∧
    ∃ t, step outstandingSock (fromTerminal .command (.uframe .sabme true) []) = some t ∧
      ¬ LossReported outstandingSock t := by
  refine ⟨by decide, _, rfl, ?_⟩
  exact loss_is_never_reported (e := fromTerminal .command (.uframe .sabme true) []) (by decide) rfl

theorem reset_is_silent :
    ¬ ∀ s es t e u, Init s → Run step Any s es t → LosesFrames t e → step t e = some u →
      LossReported t u := by
  intro claim
  obtain ⟨gone, _⟩ := claim _ _ outstandingSock (fromTerminal .command (.uframe .sabme true) []) _
    (networkSock_init (by decide) (by decide)) outstandingSock_run (by decide) rfl
  exact absurd gone (by decide)

end Vstuff.Lapd
