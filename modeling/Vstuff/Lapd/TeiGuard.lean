import Vstuff.Lapd.Footprint

/-! No link without a TEI. In states 1 to 3 every handler must keep still by
itself, since received frames are filtered by an address that may be stale. The
FRMR handler does not, and starts a link from any state. -/
namespace Vstuff.Lapd
open Transition
set_option linter.all false

/-- A socket of a TE as `lapd_bind` leaves it when it is bound to a dynamic
TEI. -/
structure DynamicTe (s : Sock) : Prop where
  fresh : Init s
  role : s.dev.role = .te
  managed : s.usrTme = true
  kind : s.skState = .normalDlc
  state : s.state = .teiUnassigned

/-- SABME, DISC, I and S frames. -/
def Frame.needsTei (frame : Frame) : Bool :=
  match frame.control with
  | .uframe .sabme _ | .uframe .disc _ | .iframe _ _ _ | .sframe _ _ _ => true
  | .uframe _ _ => false

/-- The socket is in states 4 to 8 only with a TEI, and the frames that need one
were sent with one. -/
structure TeiGuarded (s : Sock) : Prop where
  state : s.state.assigned = true → s.assigned = true
  sent : ∀ frame flag, .phDataRequest frame flag ∈ s.out → frame.needsTei = true → flag = true

/-- The invariant adds that only UI frames wait in the U queue. -/
structure TeiInv (s : Sock) : Prop extends TeiGuarded s where
  queued : ∀ frame ∈ s.uQueue, frame.needsTei = false

section Changes
variable {s t : Sock}

private theorem inv_keeps (held : TeiInv s) (assigned : s.assigned = true) (kept : Keeps s t) :
    TeiInv t where
  state := fun _ => kept.assigned.trans assigned
  sent := by
    obtain ⟨more, out, flags⟩ := kept.sent
    intro frame flag member needs
    rw [out] at member
    obtain early | late := List.mem_append.mp member
    · exact held.sent frame flag early needs
    · rw [flags frame flag late, assigned]
  queued := fun frame member => held.queued frame (kept.uQueue member)

private theorem inv_removed (held : TeiInv s) (removed : Removed s t) : TeiInv t where
  state := fun on => absurd (removed.state.symm.trans on) (by simp)
  sent := by
    rw [removed.sent]
    exact held.sent
  queued := fun frame member => held.queued frame (removed.uQueue member)

/-- A change that sends nothing and does not enter states 4 to 8. -/
private theorem inv_quiet (held : TeiInv s) (off : t.state.assigned = false) (out : t.out = s.out)
    (uQueue : t.uQueue ⊆ s.uQueue) : TeiInv t where
  state := fun on => absurd (off.symm.trans on) (by simp)
  sent := by
    rw [out]
    exact held.sent
  queued := fun frame member => held.queued frame (uQueue member)

/-! ## Without a TEI -/

private theorem not_connected (off : s.state.assigned = false) :
    s.state ≠ .linkConnectionEstablished ∧ s.state ≠ .timerRecovery := by
  constructor <;> (intro here; rw [here] at off; cases off)

private theorem frameReject_unassigned (error : FormatError) (off : s.state.assigned = false) :
    (frameReject s error).state = s.state ∧ (frameReject s error).out = s.out := by
  have same : (mdlPrimitive s (.errorIndication
        [if error = .length then MdlError.O else .N])).state = s.state ∧
      (mdlPrimitive s (.errorIndication
        [if error = .length then MdlError.O else .N])).out = s.out := by
    have harmless : verifiesTei [if error = .length then MdlError.O else .N] = false := by
      cases error <;> rfl
    simp only [mdlPrimitive, mdlPrimitiveWith, mdlRecv, mdlErrorIndication, harmless]
    split <;> exact ⟨rfl, rfl⟩
  unfold frameReject
  generalize mdlPrimitive s _ = indicated at same ⊢
  dsimp only
  rw [if_neg (by rw [same.1]; exact not_or.mpr (not_connected off))]
  exact same

/-- A frame handled in states 1 to 3 changes neither the state nor sends
anything, unless it is a FRMR. -/
theorem frame_unassigned (skb : RxSkb) (off : s.state.assigned = false)
    (other : ∀ pF, skb.frame.control = .uframe .frmr pF → skb.len ≠ 5) :
    (dlcRecv s (.frame skb)).state = s.state ∧ (dlcRecv s (.frame skb)).out = s.out := by
  have no7 := (not_connected off).1
  have no8 := (not_connected off).2
  unfold dlcRecv
  dsimp only
  split
  · unfold handleIframe
    split
    · exact frameReject_unassigned .n201 off
    · have still : clearOwnReceiverBusy s = s := by
        unfold clearOwnReceiverBusy
        split <;> first | rfl | (rename_i here; exact absurd here (by assumption))
      have still' : setOwnReceiverBusy s = s := by
        unfold setOwnReceiverBusy
        split <;> first | rfl | (rename_i here; exact absurd here (by assumption))
      rw [still, ite_self]
      dsimp only
      rw [still']
      split
      · exact ⟨rfl, rfl⟩
      · split
        · rename_i here
          exact absurd here no7
        · rename_i here
          exact absurd here no8
        · exact ⟨rfl, rfl⟩
  · unfold handleSframe
    split
    · exact frameReject_unassigned .length off
    · split
      · unfold handleSframeRr
        split <;> first | exact ⟨rfl, rfl⟩ | (rename_i here; rw [here] at off; cases off)
      · unfold handleSframeRnr
        split <;> first | exact ⟨rfl, rfl⟩ | (rename_i here; rw [here] at off; cases off)
      · unfold handleSframeRej
        split <;> first | exact ⟨rfl, rfl⟩ | (rename_i here; rw [here] at off; cases off)
      · exact ⟨rfl, rfl⟩
  · rename_i function pF control
    unfold handleUframe
    split
    · exact frameReject_unassigned .length off
    · rename_i length
      cases function with
      | sabme =>
        dsimp only
        unfold handleUframeSabme
        split <;> first | exact ⟨rfl, rfl⟩ | (rename_i here; rw [here] at off; cases off)
      | dm =>
        dsimp only
        unfold handleUframeDm
        split <;> first | exact ⟨rfl, rfl⟩ | (rename_i here; rw [here] at off; cases off)
      | ui => exact ⟨rfl, rfl⟩
      | disc =>
        dsimp only
        unfold handleUframeDisc
        split <;> first | exact ⟨rfl, rfl⟩ | (rename_i here; rw [here] at off; cases off)
      | ua =>
        dsimp only
        unfold handleUframeUa
        split <;> first | exact ⟨rfl, rfl⟩ | (rename_i here; rw [here] at off; cases off)
      | frmr => exact absurd (fun wrong => length ⟨by simp, wrong⟩) (not_not.mpr (other pF control))
      | xid => exact ⟨rfl, rfl⟩
      | invalid => exact frameReject_unassigned .undefinedCommand off

/-! ## Every event -/

/-- No FRMR is handled outside states 4 to 8. -/
def TeiClean (s : Sock) (e : Event) : Prop :=
  s.state.assigned = false → (handledUframe s e).map Prod.fst ≠ some .frmr

instance (s : Sock) (e : Event) : Decidable (TeiClean s e) := inferInstanceAs (Decidable (_ → _))

private theorem clean_frame {e : Event} {skb : RxSkb} (clean : TeiClean s e)
    (got : handled s e = some (.frame skb)) (off : s.state.assigned = false) (pF : Bool)
    (control : skb.frame.control = .uframe .frmr pF) : skb.len ≠ 5 := by
  intro length
  refine clean off ?_
  simp [handledUframe, got, control, length]

private theorem inv_frame (held : TeiInv s) (skb : RxSkb)
    (other : s.state.assigned = false → ∀ pF, skb.frame.control = .uframe .frmr pF → skb.len ≠ 5) :
    TeiInv (dlcRecv s (.frame skb)) := by
  have works := frame_works s skb
  cases on : s.state.assigned with
  | true =>
    obtain kept | removed := works
    · exact inv_keeps held (held.state on) kept
    · exact inv_removed held removed
  | false =>
    obtain ⟨state, out⟩ := frame_unassigned skb on (other on)
    refine inv_quiet held (by rw [state]; exact on) out ?_
    obtain kept | removed := works
    · exact kept.uQueue
    · exact removed.uQueue

private theorem inv_assign (held : TeiInv s) (tei : Nat) : TeiInv (mdlAssignRequest s tei) := by
  unfold mdlAssignRequest
  dsimp only
  split
  · exact ⟨⟨fun _ => rfl, held.sent⟩, held.queued⟩
  · exact ⟨⟨fun _ => rfl, held.sent⟩, held.queued⟩
  · -- the TEI is there before the SABME is sent
    refine ⟨⟨fun _ => rfl, fun frame flag member needs => ?_⟩, held.queued⟩
    change _ ∈ s.out ++ [Output.phDataRequest _ true] at member
    obtain early | late := List.mem_append.mp member
    · exact held.sent frame flag early needs
    · simp only [List.mem_singleton, Output.phDataRequest.injEq] at late
      exact late.2
  · exact ⟨⟨fun _ => rfl, held.sent⟩, held.queued⟩

private theorem inv_primitive (held : TeiInv s) (type : DlPrimitive) : TeiInv (dlPrimitive s type) := by
  unfold dlPrimitive
  split
  · exact ⟨⟨held.state, held.sent⟩, held.queued⟩
  · exact ⟨⟨held.state, held.sent⟩, held.queued⟩

private theorem inv_release (held : TeiInv s) :
    TeiInv (changeState (discardUiQueue s) .teiUnassigned) :=
  inv_quiet held rfl rfl (List.nil_subset _)

private theorem inv_errorIndication (held : TeiInv s) (errors : List MdlError) :
    TeiInv (mdlErrorIndication s errors) := by
  unfold mdlErrorIndication
  split
  · split
    · split
      · refine ⟨⟨held.state, fun frame flag member => held.sent frame flag ?_⟩, held.queued⟩
        simpa using member
      · exact held
    · split
      · unfold utmeTeiRemove mdlPrimitiveWith
        split
        · exact ⟨⟨held.state, held.sent⟩, held.queued⟩
        · exact inv_removed held (mdlRemoveRequest_removed s)
      · exact held
  · exact held

private theorem inv_mdl (held : TeiInv s) (pri : MdlPrimitive) : TeiInv (mdlRecv s pri) := by
  cases pri with
  | assignRequest tei => exact inv_assign held tei
  | removeRequest => exact inv_removed held (mdlRemoveRequest_removed s)
  | errorResponse =>
    unfold mdlRecv mdlErrorResponse
    dsimp only
    split
    · exact inv_release held
    · exact inv_primitive (inv_release held) _
    · exact held
  | errorIndication errors => exact inv_errorIndication held errors
  | persistentDeactivation =>
    cases on : s.state.assigned with
    | true => exact inv_keeps held (held.state on) (persistentDeactivation_keeps s)
    | false =>
      unfold mdlRecv persistentDeactivation
      dsimp only
      split <;> first
        | exact inv_release held
        | exact inv_primitive (inv_release held) _
        | exact held
        | (rename_i here; rw [here] at on; cases on)

private theorem inv_item (held : TeiInv s) (item : Item)
    (other : s.state.assigned = false → ∀ skb pF, item = .frame skb →
      skb.frame.control = .uframe .frmr pF → skb.len ≠ 5) : TeiInv (dlcRecv s item) := by
  cases item with
  | mdl pri => exact inv_mdl held pri
  | frame skb => exact inv_frame held skb fun off pF control => other off skb pF rfl control

/-- Whatever waits in the U queue may be sent without a TEI. -/
private theorem inv_foldl (frames : List Frame) (held : TeiInv s)
    (free : ∀ frame ∈ frames, frame.needsTei = false) : TeiInv (frames.foldl phDataRequest s) := by
  induction frames generalizing s with
  | nil => exact held
  | cons first frames ih =>
    refine ih ⟨⟨held.state, fun frame flag member needs => ?_⟩, held.queued⟩
      fun frame member => free frame (List.mem_cons_of_mem first member)
    obtain early | late := List.mem_append.mp member
    · exact held.sent frame flag early needs
    · simp only [List.mem_singleton, Output.phDataRequest.injEq] at late
      rw [late.1, free first List.mem_cons_self] at needs
      cases needs

private theorem inv_unitData (held : TeiInv s) (frame : Frame) (free : frame.needsTei = false) :
    TeiInv (dlUnitDataRequest s frame) := by
  have queued : TeiInv { s with uQueue := s.uQueue ++ [frame] } := by
    refine ⟨⟨held.state, held.sent⟩, fun other member => ?_⟩
    obtain early | late := List.mem_append.mp member
    · exact held.queued other early
    · rw [List.mem_singleton.mp late]
      exact free
  unfold dlUnitDataRequest
  generalize { s with uQueue := s.uQueue ++ [frame] } = pending at queued ⊢
  dsimp only
  split
  · refine ⟨⟨fun on => (by cases on), fun other flag member => queued.sent other flag ?_⟩,
      queued.queued⟩
    simpa [changeState] using member
  · exact queued
  · exact queued
  · have sent := inv_foldl pending.uQueue queued queued.queued
    exact ⟨⟨sent.state, sent.sent⟩, fun other member => by cases member⟩

theorem inv_perform (held : TeiInv s) {e : Event} (clean : TeiClean s e) :
    TeiInv (perform s e) := by
  have keeps {t : Sock} (kept : Keeps s t) (elsewhere : s.state.assigned = false → TeiInv t) :
      TeiInv t := by
    cases on : s.state.assigned with
    | true => exact inv_keeps held (held.state on) kept
    | false => exact elsewhere on
  cases e with
  | lockSock => exact ⟨⟨held.state, held.sent⟩, held.queued⟩
  | releaseSock => exact ⟨⟨held.state, held.sent⟩, held.queued⟩
  | backlogRcv =>
    unfold perform backlogRcv
    cases pending : s.backlog with
    | nil => exact held
    | cons item rest =>
      have same : TeiInv { s with backlog := rest } := ⟨⟨held.state, held.sent⟩, held.queued⟩
      refine inv_item same item fun off skb pF frame => ?_
      exact clean_frame clean (by simp [handled, pending, frame]) off pF
  | establishRequest =>
    refine keeps (dlEstablishRequest_keeps s) fun off => ?_
    unfold perform dlEstablishRequest
    dsimp only
    split
    · refine ⟨⟨fun on => (by cases on), fun frame flag member => held.sent frame flag ?_⟩, held.queued⟩
      simpa [changeState] using member
    · exact inv_quiet held rfl rfl (List.Subset.refl _)
    all_goals first | exact held | (rename_i here; rw [here] at off; cases off)
  | releaseRequest =>
    refine keeps (dlReleaseRequest_keeps s) fun off => ?_
    unfold perform dlReleaseRequest
    dsimp only
    split <;> first | exact held | (rename_i here; rw [here] at off; cases off)
  | dataRequest data nS nR =>
    refine keeps (dlDataRequest_keeps s _) fun off => ?_
    unfold perform dlDataRequest
    dsimp only
    split <;> first | exact held | (rename_i here; rw [here] at off; cases off)
  | unitDataRequest data => exact inv_unitData held _ rfl
  | frame skb =>
    unfold perform passFrame
    dsimp only
    split
    · rename_i delivered
      split
      · exact ⟨⟨held.state, held.sent⟩, held.queued⟩
      · rename_i free
        refine inv_frame held skb fun off pF => ?_
        exact clean_frame clean (by simp [handled, delivered, free]) off pF
    · exact held
  | mdl pri =>
    unfold perform mdlPrimitive mdlPrimitiveWith
    dsimp only
    split
    · exact ⟨⟨held.state, held.sent⟩, held.queued⟩
    · exact inv_mdl held pri
  | timerT200 =>
    cases on : s.state.assigned with
    | true =>
      obtain kept | removed := timerT200_works s
      · exact inv_keeps held (held.state on) kept
      · exact inv_removed held removed
    | false =>
      unfold perform timerT200
      dsimp only
      split
      · exact ⟨⟨held.state, held.sent⟩, held.queued⟩
      · split
        case h_5 => exact ⟨⟨held.state, held.sent⟩, held.queued⟩
        all_goals
          rename_i here
          change s.state = _ at here
          rw [here] at on
          cases on
  | timerT203 =>
    refine keeps (timerT203_keeps s) fun off => ?_
    unfold perform timerT203
    dsimp only
    split
    · exact ⟨⟨held.state, held.sent⟩, held.queued⟩
    · split
      · rename_i here
        exact absurd here (not_connected off).1
      · exact ⟨⟨held.state, held.sent⟩, held.queued⟩
  | recvmsg =>
    unfold perform recvmsg
    dsimp only
    split
    · exact held
    · exact ⟨⟨held.state, held.sent⟩, held.queued⟩

end Changes

/-! ## Runs -/

section Runs
variable {s t : Sock} {es : List Event}

theorem tei_inv_step {e : Event} (held : TeiInv s) (clean : TeiClean s e)
    (took : step s e = some t) : TeiInv t := by
  obtain ⟨_, rfl, _⟩ := step_performs took
  have cleared : TeiInv { s with out := [] } :=
    ⟨⟨held.state, fun _ _ member => (by cases member)⟩, held.queued⟩
  exact inv_perform cleared clean

theorem DynamicTe.teiInv (bound : DynamicTe s) : TeiInv s := by
  refine ⟨⟨fun on => ?_, fun frame flag member => ?_⟩, fun frame member => ?_⟩
  · rw [bound.state] at on
    cases on
  · rw [bound.fresh.unassigned.2] at member
    cases member
  · rw [bound.fresh.queues.1] at member
    cases member

/-- In every run in which no FRMR is handled in states 1 to 3, the socket is in
states 4 to 8 only with a TEI, sends what needs one only with one, and a frame
received in states 1 to 3 does not change the state. -/
theorem no_link_without_a_tei (bound : DynamicTe s) (run : Run step TeiClean s es t) :
    TeiGuarded t ∧
    ∀ e u skb, TeiClean t e → handled t e = some (.frame skb) → t.state.assigned = false →
      step t e = some u → u.state = t.state := by
  refine ⟨(run.invariant TeiInv tei_inv_step bound.teiInv).toTeiGuarded, ?_⟩
  intro e u skb clean got off took
  obtain ⟨_, rfl, _⟩ := step_performs took
  obtain ⟨backlog, result⟩ := handled_perform (s := { t with out := [] }) (e := e) got
  rw [result]
  exact (frame_unassigned (s := { t with out := [], backlog := backlog }) skb off
    (clean_frame clean got off)).1

/-- A TE socket bound to a dynamic TEI. -/
def terminalSock : Sock where
  state := .teiUnassigned
  dev := { role := .te, mtu := 266, netTme := false }
  sap := { k := 7, N200 := 3 }
  skState := .normalDlc
  usrTme := true
  rcvbuf := 2000

theorem terminalSock_dynamic : DynamicTe terminalSock where
  fresh := ⟨rfl, .inr (.inr (.inl rfl)), ⟨rfl, rfl, rfl, rfl, rfl⟩, ⟨rfl, rfl, rfl, rfl⟩,
    ⟨by decide, by decide⟩, ⟨rfl, rfl⟩⟩
  role := rfl
  managed := rfl
  kind := rfl
  state := rfl

/-- A TEI is assigned and a link set up over it. -/
theorem assigned_terminal_is_guarded :
    ∃ t, Run step TeiClean terminalSock
      [.establishRequest, .mdl (.assignRequest 64), .timerT200] t ∧ TeiGuarded t := by
  have run := follow_run step TeiClean terminalSock
    [.establishRequest, .mdl (.assignRequest 64), .timerT200] rfl
  exact ⟨_, run, (no_link_without_a_tei terminalSock_dynamic run).1⟩

/-- A FRMR for TEI 0, which is what the address of a socket without a TEI holds
at first. -/
def strayFrmr : Event :=
  .frame {
    frame := { sapi := 0, cr := makeCr .nt .response, tei := 0, control := .uframe .frmr false }
    len := 5
    truesize := 200 }

/-- It makes the socket send SABME and wait for a link in state 5. -/
theorem frmr_starts_a_link :
    ¬ ∀ s es t, DynamicTe s → Run step Any s es t → TeiGuarded t := by
  intro claim
  have run := follow_run step Any terminalSock [strayFrmr] rfl
  exact absurd ((claim _ _ _ terminalSock_dynamic run).state rfl) (by decide)

end Runs

end Vstuff.Lapd
