import Vstuff.Lapd.Course
import Vstuff.Lapd.Queue

/-! `setsockopt` on the parameters of a SAP, which all sockets of a device share:
any process may change `k` and `N200` between two events of a socket. Both are
compared for equality with what is counted, so both limits hold only as long as
nobody sets the parameter below the count. -/
namespace Vstuff.Lapd
open Transition Window
set_option linter.all false

/-! ## Events -/

/-- An event of the socket, or a call of `setsockopt` on any socket of the device
with the option's value. -/
inductive SapEvent where
  | sock (e : Event)
  | setK (intoptval : Int)
  | setN200 (intoptval : Int)
  deriving DecidableEq, Repr

/-- `LAPD_K` and `LAPD_N200` of `lapd_setsockopt`. -/
def setsockopt (s : Sock) (intoptval : Int) (set : Sap → Nat → Sap) : Sock :=
  if intoptval ≤ 0 ∨ intoptval > 30 then s else { s with sap := set s.sap intoptval.toNat }

def sapStep (s : Sock) : SapEvent → Option Sock
  | .sock e => step s e
  | .setK intoptval => some (setsockopt { s with out := [] } intoptval fun sap k => { sap with k := k })
  | .setN200 intoptval =>
    some (setsockopt { s with out := [] } intoptval fun sap N200 => { sap with N200 := N200 })

/-! ## The window -/

/-- What the event under way has sent was inside the window: an I frame carries
V(S) as it was, and V(A) has not moved since. -/
structure WithinWindow (s : Sock) : Prop where
  each : ∀ frame ∈ s.iSent, ∃ nS nR p, frame.control = .iframe nS nR p ∧ dist s.vA nS < s.sap.k
  all : s.iSent.length ≤ s.sap.k

def SapEvent.isDataRequest : SapEvent → Bool
  | .sock (.dataRequest _ _ _) => true
  | _ => false

/-- Data is sent although more than `k` frames are outstanding. -/
def overruns (s : Sock) (e : SapEvent) : Prop :=
  e.isDataRequest ∧ s.state = .linkConnectionEstablished ∧ s.peerReceiverBusy = false ∧
    s.sap.k < dist s.vA s.vS

instance (s : Sock) (e : SapEvent) : Decidable (overruns s e) :=
  inferInstanceAs (Decidable (_ ∧ _ ∧ _ ∧ _))

section Window
variable {s t u v : Sock} {e : SapEvent} {es : List SapEvent}

theorem WithinWindow.none (sent : s.iSent = []) : WithinWindow s := by
  constructor
  · rw [sent]
    exact nofun
  · rw [sent]
    exact Nat.zero_le _

private theorem sending_iSent (s : Sock) (pre now later : List Skb) :
    (s.sending pre now later).iSent = s.iSent ++ (renumbered s.vS s.vR now).map (iframeOf s) := by
  unfold Sock.iSent Sock.sending
  rw [List.filterMap_append, List.filterMap_map]
  congr 1
  rw [← List.filterMap_eq_map]
  rfl

/-- With no more than `k` frames outstanding the loop stops in time. -/
theorem runIQueue_within (clean : s.iSent = []) (small : s.sap.k < 127) (room : dist s.vA s.vS ≤ s.sap.k) :
    (∀ frame ∈ (runIQueue s).iSent, ∃ nS nR p, frame.control = .iframe nS nR p ∧
      dist (runIQueue s).vA nS < s.sap.k) ∧ (runIQueue s).iSent.length ≤ s.sap.k := by
  have idle {t : Sock} (same : t.iSent = s.iSent) :
      (∀ frame ∈ t.iSent, ∃ nS nR p, frame.control = .iframe nS nR p ∧ dist t.vA nS < s.sap.k) ∧
        t.iSent.length ≤ s.sap.k := by
    rw [same, clean]
    exact ⟨nofun, Nat.zero_le _⟩
  unfold runIQueue
  split
  · exact idle rfl
  · split
    · exact idle rfl
    · split
      · exact idle rfl
      · split
        · exact idle rfl
        · obtain ⟨now, later, _, result, fits, _⟩ := sendLoop_sending s.preceding s.waiting small room
          rw [result, sending_iSent, clean, List.nil_append]
          constructor
          · intro frame member
            obtain ⟨skb, sent, rfl⟩ := List.mem_map.mp member
            refine ⟨skb.nS, skb.nR, false, rfl, ?_⟩
            have numbered : skb.nS ∈ numbers s.vS now.length := by
              rw [← renumbered_nS s.vS s.vR now]
              exact List.mem_map_of_mem sent
            have inside : dist s.vA skb.nS < dist s.vA s.vS + now.length :=
              dist_lt_of_mem_numbers (by omega) numbered
            exact Nat.lt_of_lt_of_le inside fits
          · rw [List.length_map, renumbered_length]
            omega

theorem transmitIframe_sends (s : Sock) (skb : Skb) :
    (transmitIframe s skb).vA = s.vA ∧ (transmitIframe s skb).iSent = s.iSent ++ [iframeOf s skb] := by
  unfold transmitIframe Sock.iSent
  dsimp only
  split
  · exact ⟨rfl, List.filterMap_append⟩
  · exact ⟨rfl, List.filterMap_append⟩

/-- Whatever the loop still sends, V(A) and what it has sent stay. -/
theorem sendLoop_extends (sent rest : List Skb) :
    (sendLoop s sent rest).vA = s.vA ∧ s.iSent <+: (sendLoop s sent rest).iSent := by
  induction rest generalizing s sent with
  | nil => exact ⟨rfl, List.prefix_refl _⟩
  | cons skb rest ih =>
    unfold sendLoop
    split
    · exact ⟨rfl, List.prefix_refl _⟩
    · dsimp only
      generalize ({ skb with nS := s.vS, nR := s.vR, transmitted := true } : Skb) = next
      obtain ⟨vA, extended⟩ := ih (s := transmitIframe s next) (sent ++ [next])
      obtain ⟨same, added⟩ := transmitIframe_sends s next
      refine ⟨vA.trans same, List.IsPrefix.trans ?_ extended⟩
      rw [added]
      exact List.prefix_append _ _

/-- With more than `k` frames outstanding the loop does not see the end of the
window: if it is entered at all, it sends the first frame it finds. -/
theorem runIQueue_overruns (here : s.state = .linkConnectionEstablished) (ready : s.peerReceiverBusy = false)
    (small : s.sap.k < 127) (full : s.sap.k < dist s.vA s.vS) (head : s.sendHead ≠ none)
    (sound : (runIQueue s).fault = false) :
    (runIQueue s).vA = s.vA ∧ ∃ frame ∈ (runIQueue s).iSent, ∃ nR p, frame.control = .iframe s.vS nR p := by
  have open_ : ¬ windowFull s := by
    rw [windowFull_iff small]
    omega
  unfold runIQueue at sound ⊢
  rw [if_neg (by simp [here]), if_neg (by simp [ready]), if_neg (by simp [head, open_])] at sound ⊢
  cases waiting : s.waiting with
  | nil =>
    rw [if_pos waiting] at sound
    cases sound
  | cons skb rest =>
    rw [if_neg (by simp)]
    unfold sendLoop
    rw [if_neg open_]
    dsimp only
    generalize made : ({ skb with nS := s.vS, nR := s.vR, transmitted := true } : Skb) = next
    obtain ⟨vA, extended⟩ := sendLoop_extends (s := transmitIframe s next) (s.preceding ++ [next]) rest
    obtain ⟨same, added⟩ := transmitIframe_sends s next
    rw [added] at extended
    refine ⟨vA.trans same, iframeOf s next, extended.subset ?_, next.nR, false, ?_⟩
    · exact List.mem_append_right _ List.mem_cons_self
    · rw [← made]
      rfl

/-- What holds in every run, whatever is set. -/
structure SapInv (s : Sock) : Prop where
  window : 1 ≤ s.sap.k ∧ s.sap.k ≤ 30
  ui : UiOnly s

theorem Init.sapInv (fresh : Init s) : SapInv s where
  window := fresh.window
  ui := by
    intro frame member
    rw [fresh.queues.1] at member
    cases member

theorem sapInv_step (held : SapInv s) (took : sapStep s e = some t) : SapInv t := by
  cases e with
  | sock e =>
    have sap := step_sap took
    obtain ⟨_, rfl, _⟩ := step_performs took
    exact ⟨by rw [sap]; exact held.window, perform_uiOnly (s := { s with out := [] }) e held.ui⟩
  | setK intoptval =>
    cases took
    unfold setsockopt
    split
    · exact ⟨held.window, held.ui⟩
    · rename_i valid
      exact ⟨⟨by dsimp only; omega, by dsimp only; omega⟩, held.ui⟩
  | setN200 intoptval =>
    cases took
    unfold setsockopt
    split
    · exact ⟨held.window, held.ui⟩
    · exact ⟨held.window, held.ui⟩

theorem setsockopt_iSent (s : Sock) (intoptval : Int) (set : Sap → Nat → Sap) :
    (setsockopt s intoptval set).iSent = s.iSent := by
  unfold setsockopt
  split
  · rfl
  · rfl

/-- A data request in state 7 sends inside the window unless it finds the window
overrun. -/
theorem dataRequest_within_iff (small : s.sap.k < 127) (clean : s.iSent = []) (skb : Skb)
    (here : s.state = .linkConnectionEstablished) (sound : (dlDataRequest s skb).fault = false)
    (sap : (dlDataRequest s skb).sap = s.sap) :
    WithinWindow (dlDataRequest s skb) ↔ ¬ (s.peerReceiverBusy = false ∧ s.sap.k < dist s.vA s.vS) := by
  have runs : dlDataRequest s skb = runIQueue (sockQueueIframe s skb) := by
    unfold dlDataRequest
    simp only [here]
  constructor
  · rintro within ⟨ready, full⟩
    rw [runs] at sound sap within
    have head : (sockQueueIframe s skb).sendHead ≠ none := by
      unfold sockQueueIframe
      cases s.sendHead <;> simp
    obtain ⟨vA, frame, sent, nR, p, control⟩ := runIQueue_overruns (s := sockQueueIframe s skb) here ready small
      full head sound
    obtain ⟨nS, _, _, same, inside⟩ := within.each frame sent
    rw [control] at same
    cases same
    rw [vA, sap] at inside
    exact absurd inside (Nat.lt_asymm full)
  · intro fits
    by_cases busy : s.peerReceiverBusy = true
    · apply WithinWindow.none
      rw [runs, runIQueue_busy (s := sockQueueIframe s skb) busy]
      exact clean
    · have room : dist s.vA s.vS ≤ s.sap.k := by
        by_contra over_
        exact fits ⟨by simpa using busy, by omega⟩
      obtain ⟨each, all⟩ := runIQueue_within (s := sockQueueIframe s skb) clean small room
      rw [runs] at sap ⊢
      exact ⟨by rw [sap]; exact each, by rw [sap]; exact all⟩

/-- In every run, whatever values `k` is given on the way, `lapd_run_i_queue` sends
outside the window exactly when data is sent with more than `k` frames
outstanding. -/
theorem window_kept_iff (fresh : Init s) (run : Run sapStep Any s es u) (took : sapStep u e = some v) :
    WithinWindow v ↔ ¬ overruns u e := by
  have held : SapInv u := run.invariant SapInv (fun held _ took => sapInv_step held took) fresh.sapInv
  have small : u.sap.k < 127 := by
    have := held.window
    omega
  have within (quiet : ¬ overruns u e) (sent : WithinWindow v) : WithinWindow v ↔ ¬ overruns u e :=
    ⟨fun _ => quiet, fun _ => sent⟩
  cases e with
  | setK intoptval =>
    cases took
    exact within (fun overrun => by cases overrun.1) (.none (setsockopt_iSent _ _ _))
  | setN200 intoptval =>
    cases took
    exact within (fun overrun => by cases overrun.1) (.none (setsockopt_iSent _ _ _))
  | sock e =>
    have sap := step_sap took
    obtain ⟨_, rfl, sound⟩ := step_performs took
    by_cases data : (∃ octets nS nR, e = .dataRequest octets nS nR) ∧ u.state = .linkConnectionEstablished
    · obtain ⟨⟨octets, nS, nR, rfl⟩, here⟩ := data
      refine (dataRequest_within_iff (s := { u with out := [] }) small rfl _ here sound sap).trans ?_
      exact not_congr ⟨fun both => ⟨rfl, here, both⟩, fun all => all.2.2⟩
    · have quiet : ¬ overruns u (.sock e) := by
        cases e with
        | dataRequest octets nS nR => exact fun overrun => data ⟨⟨octets, nS, nR, rfl⟩, overrun.2.1⟩
        | _ => exact fun overrun => by cases overrun.1
      refine within quiet ?_
      have draws : Draws { u with out := [] } (perform { u with out := [] } e) :=
        perform_draws e held.ui fun octets nS nR same here => data ⟨⟨octets, nS, nR, same⟩, here⟩
      cases draws with
      | none i => exact .none i
      | run before i same rewound drawn vA =>
        have room : dist before.vA before.vS ≤ before.sap.k := by
          rw [rewound, dist_self]
          exact Nat.zero_le _
        obtain ⟨each, all⟩ := runIQueue_within i (by rw [same]; exact small) room
        rw [same] at each all
        constructor
        · rw [drawn, vA, sap]
          exact each
        · rw [drawn, sap]
          exact all

end Window

/-- The terminal sets up the link and two frames are sent; then `k` is set to 1. -/
def shrunkWindow : List SapEvent :=
  [.sock (fromTerminal .command (.uframe .sabme true) []), .sock (.dataRequest [1] 0 0),
    .sock (.dataRequest [2] 0 0), .setK 1]

/-- `k` is raised again, and the next frame is inside the window. -/
theorem window_within_after_raise :
    ∃ u v, Run sapStep Any (networkSock 7) (shrunkWindow ++ [.setK 3]) u ∧
      sapStep u (.sock (.dataRequest [3] 0 0)) = some v ∧ WithinWindow v := by
  have runs : (follow sapStep Any (networkSock 7) (shrunkWindow ++ [.setK 3])).any (fun u =>
      (¬ overruns u (.sock (.dataRequest [3] 0 0))) ∧ (sapStep u (.sock (.dataRequest [3] 0 0))).isSome) := by
    decide
  obtain ⟨u, followed, more⟩ := Option.any_eq_true _ _ |>.mp runs
  obtain ⟨fits, some⟩ := of_decide_eq_true more
  obtain ⟨v, took⟩ := Option.isSome_iff_exists.mp some
  have run := follow_run sapStep Any (networkSock 7) _ followed
  exact ⟨u, v, run, took,
    (window_kept_iff (networkSock_init (by decide) (by decide)) run took).mpr fits⟩

/-- A third frame is sent with two outstanding. -/
theorem shrunk_window_is_overrun :
    ¬ ∀ s es u e v, Init s → Run sapStep Any s es u → sapStep u e = some v → WithinWindow v := by
  intro claim
  have runs : (follow sapStep Any (networkSock 7) shrunkWindow).any (fun u =>
      (sapStep u (.sock (.dataRequest [3] 0 0))).any fun v =>
        v.iSent.map (·.control) = [.iframe 2 0 false] ∧ v.vA = 0 ∧ v.sap.k = 1) := by
    decide
  obtain ⟨u, followed, more⟩ := Option.any_eq_true _ _ |>.mp runs
  obtain ⟨v, took, facts⟩ := Option.any_eq_true _ _ |>.mp more
  obtain ⟨sent, vA, k⟩ := of_decide_eq_true facts
  have run := follow_run sapStep Any (networkSock 7) _ followed
  have within := claim _ _ u _ v (networkSock_init (by decide) (by decide)) run took
  have member : .iframe 2 0 false ∈ v.iSent.map (·.control) := by
    rw [sent]
    exact List.mem_cons_self
  obtain ⟨frame, inside, control⟩ := List.mem_map.mp member
  obtain ⟨nS, nR, p, same, limit⟩ := within.each frame inside
  rw [control] at same
  cases same
  rw [vA, k] at limit
  exact absurd limit (by decide)

/-! ## Retransmissions -/

/-- No option value below the count of a link that is counting. -/
def CountKept (s : Sock) : SapEvent → Prop
  | .setN200 intoptval => 0 < intoptval → s.state.retries = true → (s.retransCnt : Int) ≤ intoptval
  | _ => True

/-- Events that neither bring a frame nor a primitive nor a request to change the
link. -/
def SapEvent.undisturbed : SapEvent → Bool
  | .sock .lockSock | .sock .releaseSock | .sock (.dataRequest _ _ _) | .sock (.unitDataRequest _)
  | .sock .timerT200 | .sock .timerT203 | .sock .recvmsg | .setK _ => true
  | _ => false

def Undisturbed (_ : Sock) (e : SapEvent) : Prop := e.undisturbed = true

/-- How often T200 expires on a socket that no process owns. -/
def expiries : Sock → List SapEvent → Nat
  | _, [] => 0
  | s, e :: es =>
    (if e = .sock .timerT200 ∧ s.owned = false then 1 else 0) + ((sapStep s e).elim 0 fun t => expiries t es)

/-- State 8 is left for state 5, states 5 and 6 for state 4 with a release
primitive; the indication may take the TEI of a terminal as well. -/
inductive Leaves (s t : Sock) : Prop where
  | reestablishes (here : s.state = .timerRecovery) (there : t.state = .awaitingEstablish)
  | releases (type : DlPrimitive)
      (here : s.state = .awaitingEstablish ∧ type = .releaseIndication ∨
        s.state = .awaitingRelease ∧ type = .releaseConfirm)
      (there : t.state = .teiAssigned ∨ removesTei s = true ∧ t.state = .teiUnassigned) (told : t.notified type)

section Retries
variable {s t u v w : Sock} {e : SapEvent} {es rest : List SapEvent}

theorem Undisturbed.kept (quiet : Undisturbed s e) : CountKept s e := by
  cases e with
  | sock => trivial
  | setK => trivial
  | setN200 => cases quiet

end Retries

instance (s : Sock) (e : SapEvent) : Decidable (Undisturbed s e) := inferInstanceAs (Decidable (_ = _))

instance (s : Sock) (e : SapEvent) : Decidable (CountKept s e) :=
  match e with
  | .setN200 intoptval => inferInstanceAs (Decidable (0 < intoptval → _ → _))
  | .sock _ | .setK _ => inferInstanceAs (Decidable True)

/-- A link is set up from the network side; nobody answers. -/
def unanswered : List SapEvent := [.setN200 2, .sock .establishRequest, .sock .timerT200, .setN200 1]

end Vstuff.Lapd
