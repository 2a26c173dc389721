import Vstuff.Lapd.Course
import Vstuff.Lapd.TeiGuard

/-! UI frames accepted before the socket has a TEI. Their address is written when
they are queued, and the assignment of a TEI does not run the U queue; so they are
sent late and with the wrong address unless there are none. -/
namespace Vstuff.Lapd
open Transition
set_option linter.all false

/-- The frame with this TEI in its address. -/
def readdressed (tei : Nat) (frame : Frame) : Frame := { frame with tei := tei % 128 }

/-- The UI frames are sent in time: those that wait when a TEI is assigned are sent
with it, none waits while the socket has a TEI, and each carries the address of its
moment. -/
structure Prompt (u : Sock) (e : Event) (v : Sock) : Prop where
  handed : ∀ tei, handled u e = some (.mdl (.assignRequest tei)) → u.state.waits = true →
    v.uiSent = u.uQueue.map (readdressed tei)
  empty : v.state.assigned = true → v.uQueue = []
  addressed : ∀ frame ∈ v.uiSent, frame.tei = (prepareUframe v .ui false).tei

/-- Every outcome of the event is so. -/
def SendsInTime (u : Sock) (e : Event) : Prop := ∀ v, step u e = some v → Prompt u e v

/-- No frame waits when the socket gets a TEI, or a FRMR that acts as if it had one. -/
def NoneWaiting (u : Sock) (e : Event) : Prop := (handled u e).any (rouses u) = true → u.uQueue = []

instance (u : Sock) (e : Event) : Decidable (NoneWaiting u e) := inferInstanceAs (Decidable (_ → _))

section Runs
variable {s t u v : Sock} {e : Event} {es : List Event}

/-- The queue holds UI frames, and only until there is a TEI. -/
structure UiInv (s : Sock) : Prop where
  ui : UiOnly s
  waits : s.state.waits = false → s.uQueue = []

theorem Init.uiInv (fresh : Init s) : UiInv s where
  ui := by
    intro frame member
    rw [fresh.queues.1] at member
    cases member
  waits := fun _ => fresh.queues.1

theorem waits_of_assigned {state : DatalinkState} (assigned : state.assigned = true) : state.waits = false := by
  revert assigned
  cases state <;> simp [DatalinkState.assigned, DatalinkState.waits]

/-- Work that leaves the U queue alone is in time, if no TEI comes of it. -/
theorem Quiet.prompt (inv : UiInv u) (quiet : Quiet { u with out := [] } v)
    (assigns : ∀ tei, handled u e = some (.mdl (.assignRequest tei)) → u.state.waits = true → u.uQueue = []) :
    Prompt u e v ∧ (v.state.waits = false → v.uQueue = []) := by
  have none : v.uiSent = [] := quiet.ui
  have settled : v.state.waits = false → v.uQueue = [] := by
    intro awake
    obtain same | empty := quiet.uQueue
    · rw [same]
      exact inv.waits (quiet.rises awake)
    · exact empty
  refine ⟨⟨?_, fun assigned => settled (waits_of_assigned assigned), ?_⟩, settled⟩
  · intro tei got waits
    rw [none, assigns tei got waits]
    rfl
  · rw [none]
    exact nofun

theorem prompt_step (inv : UiInv u) (none : NoneWaiting u e) (took : step u e = some v) :
    Prompt u e v ∧ UiInv v := by
  obtain ⟨_, rfl, _⟩ := step_performs took
  have clean : UiInv { u with out := [] } := ⟨inv.ui, inv.waits⟩
  have ui := perform_uiOnly (s := { u with out := [] }) e clean.ui
  suffices Prompt u e (perform { u with out := [] } e) ∧
      ((perform { u with out := [] } e).state.waits = false → (perform { u with out := [] } e).uQueue = []) from
    ⟨this.1, ui, this.2⟩
  have same : handled { u with out := [] } e = handled u e := by cases e <;> rfl
  cases got : handled { u with out := [] } e with
  | some item =>
    rw [got] at same
    obtain ⟨roused, steady⟩ := perform_item got
    cases wakes : rouses { u with out := [] } item with
    | true =>
      have empty : u.uQueue = [] := none (by rw [← same]; exact wakes)
      have after := roused wakes
      have sent : (perform { u with out := [] } e).uiSent = [] := after.ui
      have queue : (perform { u with out := [] } e).uQueue = [] := after.uQueue.trans empty
      refine ⟨⟨?_, fun _ => queue, ?_⟩, fun _ => queue⟩
      · intro tei _ _
        rw [sent, empty]
        rfl
      · rw [sent]
        exact fun _ none => (List.not_mem_nil none).elim
    | false =>
      refine (steady wakes).1.toQuiet.prompt inv ?_
      intro tei assigns waits
      rw [← same] at assigns
      cases assigns
      exfalso
      revert wakes waits
      cases here : u.state <;> simp [rouses, DatalinkState.waits, here]
  | none =>
    rw [got] at same
    have noItem : ∀ tei, handled u e = some (.mdl (.assignRequest tei)) → u.state.waits = true → u.uQueue = [] := by
      intro tei assigns
      rw [← same] at assigns
      cases assigns
    by_cases timer : e = .timerT200
    · subst timer
      exact (timerT200_quiet { u with out := [] }).1.prompt inv noItem
    · by_cases request : ∃ octets, e = .unitDataRequest octets
      · obtain ⟨octets, rfl⟩ := request
        obtain ⟨_, tei, _, ⟨sent, _, waits, _⟩ | ⟨sent, empty, state, awake⟩⟩ :=
          dlUnitDataRequest_cases { prepareUframe { u with out := [] } .ui false with data := octets } clean.ui
            ⟨false, rfl⟩
        · have sent : (perform { u with out := [] } (.unitDataRequest octets)).uiSent = [] := sent
          have settled (settled : (perform { u with out := [] } (.unitDataRequest octets)).state.waits = false) :
              (perform { u with out := [] } (.unitDataRequest octets)).uQueue = [] :=
            absurd (settled.symm.trans waits) Bool.false_ne_true
          constructor
          · constructor
            · exact fun _ assigns => by cases assigns
            · exact fun assigned => settled (waits_of_assigned assigned)
            · rw [sent]
              exact fun _ none => (List.not_mem_nil none).elim
          · exact settled
        · refine ⟨⟨(fun _ assigns => by cases assigns), fun _ => empty, ?_⟩, fun _ => empty⟩
          intro frame member
          have queue : u.uQueue = [] := inv.waits awake
          have sent : (perform { u with out := [] } (.unitDataRequest octets)).uiSent =
              [] ++ (u.uQueue ++ [{ prepareUframe { u with out := [] } .ui false with data := octets }]) := sent
          rw [sent, queue] at member
          rw [List.mem_singleton.mp member]
          change (if u.state = .listening then broadcastTei else u.tei % 128) =
            if (dlUnitDataRequest _ _).state = .listening then broadcastTei else (dlUnitDataRequest _ _).tei % 128
          rw [state, tei]
      · exact (perform_steady e got timer fun octets same => request ⟨octets, same⟩).toQuiet.prompt inv noItem

theorem prompt_noneWaiting (took : step u e = some v) (prompt : Prompt u e v) : NoneWaiting u e := by
  intro wakes
  obtain ⟨item, got, rouse⟩ := Option.any_eq_true _ _ |>.mp wakes
  obtain ⟨_, rfl, _⟩ := step_performs took
  have same : handled { u with out := [] } e = handled u e := by cases e <;> rfl
  have after : Roused { u with out := [] } (perform { u with out := [] } e) :=
    (perform_item (same.trans got)).1 rouse
  exact after.uQueue.symm.trans (prompt.empty after.state)

end Runs

/-- In every run UI frames are sent in time exactly when none waits for a TEI at the
moment there is one. -/
theorem ui_frames_in_time_iff {s t : Sock} {es : List Event} (fresh : Init s) :
    Run step SendsInTime s es t ↔ Run step NoneWaiting s es t := by
  constructor
  · intro inTime
    clear fresh
    induction inTime with
    | nil => exact .nil _
    | cons met took _ ih => exact .cons (prompt_noneWaiting took (met _ took)) took ih
  · intro none
    have held := fresh.uiInv
    clear fresh
    induction none with
    | nil => exact .nil _
    | cons met took _ ih =>
      refine .cons ?_ took (ih ?_)
      · intro v reached
        exact (prompt_step held met reached).1
      · exact (prompt_step held met took).2

theorem sent_after_assignment_in_time :
    ∃ t, Run step SendsInTime terminalSock [.mdl (.assignRequest 64), .unitDataRequest [1]] t := by
  have runs : (follow step NoneWaiting terminalSock
      [.mdl (.assignRequest 64), .unitDataRequest [1]]).isSome = true := by
    decide
  obtain ⟨t, followed⟩ := Option.isSome_iff_exists.mp runs
  exact ⟨t, (ui_frames_in_time_iff terminalSock_dynamic.fresh).mpr (follow_run step NoneWaiting _ _ followed)⟩

/-- A frame accepted before the TEI request is still queued once there is a TEI. -/
theorem ui_frame_outwaits_assignment :
    ¬ ∀ s es u e v, Init s → s.dev.role = .te → Run step Any s es u → step u e = some v → Prompt u e v := by
  intro claim
  have runs : (follow step Any terminalSock [.unitDataRequest [1]]).any (fun u =>
      (step u (.mdl (.assignRequest 64))).any fun v => v.state.assigned && !v.uQueue.isEmpty) = true := by
    decide
  obtain ⟨u, followed, more⟩ := Option.any_eq_true _ _ |>.mp runs
  obtain ⟨v, took, waits⟩ := Option.any_eq_true _ _ |>.mp more
  have prompt := claim _ _ u _ v terminalSock_dynamic.fresh rfl (follow_run step Any _ _ followed) took
  simp only [Bool.and_eq_true] at waits
  rw [prompt.empty waits.1] at waits
  exact absurd waits.2 (by decide)

end Vstuff.Lapd
