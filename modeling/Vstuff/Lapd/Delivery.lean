import Vstuff.Lapd.Sync

/-! Two sockets joined by two channels that keep the order of frames but may
lose them: what one side delivers is what the other submitted, in order, and no
frame is unlinked before it was delivered. -/
namespace Vstuff.Lapd
open Transition Relation
set_option linter.all false

/-! ## The system -/

/-- A socket with what layer 3 has submitted to it and got from it, and what it
has unlinked from its queue, in order. -/
structure Endpoint where
  sock : Sock
  submitted : List Octets
  delivered : List Octets := []
  unlinked : List Octets := []
  deriving DecidableEq

/-- The frames on their way from `a` to `b` and from `b` to `a`, oldest first. -/
structure Net where
  a : Endpoint
  b : Endpoint
  ab : List Frame
  ba : List Frame
  deriving DecidableEq

def Net.swap (n : Net) : Net := { a := n.b, b := n.a, ab := n.ba, ba := n.ab }

inductive Side where
  | a | b
  deriving DecidableEq, Repr

inductive NetEvent where
  /-- An event of the socket other than the arrival of a frame. -/
  | act (e : Event)
  /-- The oldest frame on its way to the socket arrives, in a buffer of some
  size. -/
  | deliver (len truesize : Nat)
  /-- A frame on its way to the socket is lost. -/
  | lose (index : Nat)
  deriving DecidableEq, Repr

def isArrival : Event → Bool
  | .frame _ => true
  | _ => false

/-- The data given to `lapd_dl_data_request`. -/
def given : Event → List Octets
  | .dataRequest data _ _ => [data]
  | _ => []

def Output.frame : Output → Option Frame
  | .phDataRequest frame _ => some frame
  | _ => none

/-- The endpoint after an event of its socket. -/
def Endpoint.after (x : Endpoint) (t : Sock) (more : List Octets) : Endpoint where
  sock := t
  submitted := x.submitted ++ more
  delivered := x.delivered ++ t.out.filterMap Output.delivery
  unlinked := x.unlinked ++ t.out.filterMap Output.release

/-- An event at the side `a`. -/
def stepA (n : Net) : NetEvent → Option Net
  | .act e =>
    if isArrival e then none
    else (step n.a.sock e).map fun t =>
      { n with a := n.a.after t (given e), ab := n.ab ++ t.out.filterMap Output.frame }
  | .deliver len truesize =>
    match n.ba with
    | [] => none
    | frame :: rest =>
      (step n.a.sock (.frame { frame := frame, len := len, truesize := truesize })).map fun t =>
        { n with a := n.a.after t [], ab := n.ab ++ t.out.filterMap Output.frame, ba := rest }
  | .lose index => some { n with ba := n.ba.eraseIdx index }

/-- The system seen from one of its sides. -/
def Net.facing (n : Net) : Side → Net
  | .a => n
  | .b => n.swap

def netStep (n : Net) (e : Side × NetEvent) : Option Net :=
  (stepA (n.facing e.1) e.2).map fun m => m.facing e.1

/-- The event of the socket at `a`, if it is one. -/
def sockEvent (n : Net) : NetEvent → Option Event
  | .act e => some e
  | .deliver len truesize =>
    n.ba.head?.map fun frame => .frame { frame := frame, len := len, truesize := truesize }
  | .lose _ => none

/-- The event makes the socket at `a` handle a U frame. -/
def handlesUframe (n : Net) (e : NetEvent) : Bool :=
  match (sockEvent n e).bind (handled n.a.sock) with
  | some (.frame skb) => !skb.frame.isTraffic
  | _ => false

def Net.connected (n : Net) : Bool := n.a.sock.state.connected && n.b.sock.state.connected

/-- The event leaves both sockets in states 7 and 8 and neither handles a U
frame. -/
def Stays (n : Net) (e : Side × NetEvent) : Prop :=
  (netStep n e).all Net.connected = true ∧ handlesUframe (n.facing e.1) e.2 = false

instance (n : Net) (e : Side × NetEvent) : Decidable (Stays n e) :=
  inferInstanceAs (Decidable (_ ∧ _))

/-! ## Elementary operations -/

/-- Both directions of the connection while the socket `c` handles an event:
`inc` is on its way to it, `outc` was on its way from it before, and `y` is the
other side. -/
structure Pair (c : Core) (y : Endpoint) (inc outc : List Frame)
    (submitted delivered unlinked : List Octets) : Prop where
  tx : Sync c.sap.k c.link y.sock.vR (outc ++ c.sent) inc submitted y.delivered
    (unlinked ++ c.unlinked)
  rx : Sync y.sock.sap.k y.sock.toLink c.vR inc (outc ++ c.sent) y.submitted
    (delivered ++ c.delivered) y.unlinked

/-- The window sizes `setsockopt` allows. -/
def Sap.Valid (sap : Sap) : Prop := 1 ≤ sap.k ∧ sap.k ≤ 30

section Operations
variable {f : Option Frame} {c d : Core} {y : Endpoint} {inc outc : List Frame}
  {submitted delivered unlinked : List Octets}

/-- What no elementary operation touches. -/
def Core.fixed (c : Core) : Sap × Bool × List Frame × List Frame :=
  (c.sap, c.owned, c.pending, c.stray)

theorem Pair.work (work : Work f c d) (front : ∀ frame, f = some frame → ∃ rest, inc = frame :: rest)
    (own : c.sap.Valid) (peer : y.sock.sap.Valid)
    (held : Pair c y inc outc submitted delivered unlinked) :
    Pair d y inc outc submitted delivered unlinked ∧ d.fixed = c.fixed := by
  cases work with
  | supervise _ frame control =>
    have plain : frame.payload = none := by simp [Frame.payload, control]
    have carries : frame.nR = some c.vR := by simp [Frame.nR, control]
    refine ⟨⟨?_, ?_⟩, rfl⟩
    · have sent := held.tx.forward_nothing plain
      rwa [List.append_assoc] at sent
    · have sent := held.rx.acknowledge [frame] (by simpa using carries)
      rwa [List.append_assoc] at sent
  | run s =>
    have tx : Sync s.sap.k s.toLink y.sock.vR (outc ++ s.core.sent) inc submitted y.delivered
        (unlinked ++ s.core.unlinked) := held.tx.of_bare rfl
    obtain ⟨frames, result, carry, sent⟩ := tx.run own.2
    rw [result]
    refine ⟨⟨?_, ?_⟩, rfl⟩
    · have sent := sent.of_bare (m := (runIQueue s).toLink.bare) rfl
      rwa [List.append_assoc] at sent
    · have sent := held.rx.acknowledge frames carry
      rwa [List.append_assoc] at sent
  | goBack => exact ⟨⟨held.tx.goBack, held.rx⟩, rfl⟩
  | accept _ frame here control =>
    obtain ⟨rest, first⟩ := front frame here
    subst first
    refine ⟨⟨held.tx, ?_⟩, rfl⟩
    have accepted := held.rx.accept peer.1 peer.2 control
    rwa [List.append_assoc] at accepted
  | ack _ frame here carries valid =>
    obtain ⟨rest, first⟩ := front frame here
    subst first
    refine ⟨⟨?_, held.rx⟩, rfl⟩
    have acked := held.tx.acked own.2 carries valid
    rwa [List.append_assoc] at acked

theorem Pair.works {s t : Sock} (works : Works f s t)
    (front : ∀ frame, f = some frame → ∃ rest, inc = frame :: rest) (own : s.sap.Valid)
    (peer : y.sock.sap.Valid) (held : Pair s.core y inc outc submitted delivered unlinked) :
    Pair t.core y inc outc submitted delivered unlinked ∧ t.core.fixed = s.core.fixed := by
  unfold Works at works
  generalize t.core = last at works ⊢
  induction works with
  | refl => exact ⟨held, rfl⟩
  | @tail middle _ _ work ih =>
    obtain ⟨before, fixed⟩ := ih
    have sap : middle.sap = s.sap := congrArg Prod.fst fixed
    obtain ⟨after, same⟩ := before.work work front (by rw [sap]; exact own) peer
    exact ⟨after, same.trans fixed⟩

end Operations

/-! ## The invariant -/

/-- A socket in states 7 or 8 whose backlog holds frames only while a process
owns it, and whose U queue holds U frames only. -/
structure Connected (s : Sock) : Prop where
  state : s.state.connected = true
  sap : s.sap.Valid
  stray : s.core.stray = []
  backlog : s.owned = false → s.core.pending = []

/-- What is on its way to a socket: the frames in its backlog come first. -/
def Endpoint.path (x : Endpoint) (channel : List Frame) : List Frame := x.sock.core.pending ++ channel

structure NetInv (n : Net) : Prop where
  a : Connected n.a.sock
  b : Connected n.b.sock
  forward : Sync n.a.sock.sap.k n.a.sock.toLink n.b.sock.vR (n.b.path n.ab) (n.a.path n.ba)
    n.a.submitted n.b.delivered n.a.unlinked
  backward : Sync n.b.sock.sap.k n.b.sock.toLink n.a.sock.vR (n.a.path n.ba) (n.b.path n.ab)
    n.b.submitted n.a.delivered n.b.unlinked

theorem NetInv.swap {n : Net} (held : NetInv n) : NetInv n.swap :=
  ⟨held.b, held.a, held.backward, held.forward⟩

theorem NetInv.facing {n : Net} (held : NetInv n) (side : Side) : NetInv (n.facing side) := by
  cases side with
  | a => exact held
  | b => exact held.swap

/-- The U frames sent along with the traffic do not matter. -/
private theorem sent_frames (out : List Output) :
    (out.filterMap Output.frame).filterMap Frame.payload =
      (out.filterMap Output.traffic).filterMap Frame.payload ∧
    (out.filterMap Output.frame).filterMap Frame.nR =
      (out.filterMap Output.traffic).filterMap Frame.nR := by
  have each (output : Output) : (Output.frame output).bind Frame.payload =
        (Output.traffic output).bind Frame.payload ∧
      (Output.frame output).bind Frame.nR = (Output.traffic output).bind Frame.nR := by
    cases output with
    | phDataRequest frame flag =>
      cases control : frame.control <;>
        simp [Output.frame, Output.traffic, Frame.isTraffic, Frame.payload, Frame.nR, control]
    | _ => exact ⟨rfl, rfl⟩
  simp only [List.filterMap_filterMap]
  exact ⟨congrArg (fun g => out.filterMap g) (funext fun output => (each output).1),
    congrArg (fun g => out.filterMap g) (funext fun output => (each output).2)⟩

section Steps
variable {n : Net} {s t : Sock}

/-- The invariant once an event of the socket at `a` is over. -/
theorem NetInv.conclude (held : NetInv n) {inc : List Frame} {more : List Octets} {ba : List Frame}
    (after : Connected t)
    (pair : Pair t.core n.b inc (n.b.path n.ab) (n.a.submitted ++ more) n.a.delivered n.a.unlinked)
    (left : (t.core.pending ++ ba).Sublist inc) :
    NetInv { n with
      a := n.a.after t more, ab := n.ab ++ t.out.filterMap Output.frame, ba := ba } := by
  obtain ⟨payloads, numbers⟩ := sent_frames t.out
  have samePayloads : (n.b.path (n.ab ++ t.out.filterMap Output.frame)).filterMap Frame.payload =
      (n.b.path n.ab ++ t.core.sent).filterMap Frame.payload := by
    simp only [Endpoint.path, List.filterMap_append, payloads, Sock.core, List.append_assoc]
  have sameNumbers : (n.b.path (n.ab ++ t.out.filterMap Output.frame)).filterMap Frame.nR =
      (n.b.path n.ab ++ t.core.sent).filterMap Frame.nR := by
    simp only [Endpoint.path, List.filterMap_append, numbers, Sock.core, List.append_assoc]
  have tx : Sync t.sap.k t.toLink n.b.sock.vR (n.b.path n.ab ++ t.core.sent) inc
      (n.a.submitted ++ more) n.b.delivered (n.a.unlinked ++ t.core.unlinked) :=
    pair.tx.of_bare rfl
  exact {
    a := after
    b := held.b
    forward := (tx.lose (.refl _) left).of_frames samePayloads rfl
    backward := (pair.rx.lose left (.refl _)).of_frames rfl sameNumbers }

/-- The invariant when an event of the socket at `a` starts. -/
theorem NetInv.begin (held : NetInv n) :
    Pair ({ n.a.sock with out := [] } : Sock).core n.b (n.a.path n.ba) (n.b.path n.ab) n.a.submitted
      n.a.delivered n.a.unlinked where
  tx := by
    have forward := held.forward.of_bare (m := n.a.sock.toLink.bare) rfl
    simpa [Sock.core] using forward
  rx := by simpa [Sock.core] using held.backward

theorem NetInv.begin_nothing (held : NetInv n) :
    Pair ({ n.a.sock with out := [] } : Sock).core n.b (n.a.path n.ba) (n.b.path n.ab)
      (n.a.submitted ++ []) n.a.delivered n.a.unlinked := by
  rw [List.append_nil]
  exact held.begin

/-- A socket stays connected when its U queue gets no traffic, and its backlog
none while no process owns it. -/
private theorem connected_after (held : Connected s) {e : Event} (took : step s e = some t)
    (stays : t.state.connected = true) (stray : t.core.stray = s.core.stray)
    (backlog : t.owned = false → t.core.pending = []) : Connected t where
  state := stays
  sap := by rw [step_sap took]; exact held.sap
  stray := stray.trans held.stray
  backlog := backlog

/-- An event in which the socket handles `f`, or nothing. -/
theorem NetInv.handles (held : NetInv n) {e : Event} (took : step n.a.sock e = some t)
    (stays : t.state.connected = true) {f : Option Frame} {ba : List Frame} {more : List Octets}
    (pair : Pair s.core n.b (n.a.path n.ba) (n.b.path n.ab) (n.a.submitted ++ more) n.a.delivered
      n.a.unlinked)
    (same : (s.sap, s.owned, s.core.stray) = (n.a.sock.sap, n.a.sock.owned, n.a.sock.core.stray))
    (path : n.a.path n.ba = f.toList ++ (s.core.pending ++ ba)) (works : Works f s t)
    (free : s.owned = false → s.core.pending = []) :
    NetInv { n with
      a := n.a.after t more, ab := n.ab ++ t.out.filterMap Output.frame, ba := ba } := by
  simp only [Prod.mk.injEq] at same
  obtain ⟨sap, owned, stray⟩ := same
  have front (frame : Frame) (here : f = some frame) : ∃ rest, n.a.path n.ba = frame :: rest := by
    subst here
    exact ⟨_, path⟩
  obtain ⟨pair, fixed⟩ := pair.works works front (by rw [sap]; exact held.a.sap) held.b.sap
  simp only [Core.fixed, Prod.mk.injEq] at fixed
  obtain ⟨_, sameOwned, samePending, sameStray⟩ := fixed
  refine held.conclude (connected_after held.a took stays (sameStray.trans stray) ?_) pair ?_
  · intro released
    rw [samePending]
    exact free (sameOwned.symm.trans released)
  · rw [path, samePending]
    exact List.sublist_append_right _ _

/-- An event other than the arrival of a frame. -/
theorem NetInv.act (held : NetInv n) {e : Event} (took : step n.a.sock e = some t)
    (noArrival : isArrival e = false)
    (noUframe : ∀ skb, handled n.a.sock e = some (.frame skb) → skb.frame.isTraffic = true)
    (stays : t.state.connected = true) :
    NetInv { n with
      a := n.a.after t (given e), ab := n.ab ++ t.out.filterMap Output.frame } := by
  obtain ⟨allowed, result, _⟩ := step_performs took
  have start := held.begin
  have unchanged := held.begin_nothing
  have connected : ({ n.a.sock with out := [] } : Sock).state.connected = true := held.a.state
  -- Most events start from the socket as it is and take nothing from the backlog.
  have plain (nothing : given e = []) (works : Works none { n.a.sock with out := [] } t) :
      NetInv { n with
        a := n.a.after t (given e), ab := n.ab ++ t.out.filterMap Output.frame } :=
    held.handles (s := { n.a.sock with out := [] }) took stays
      (by rw [nothing]; exact unchanged) rfl rfl works held.a.backlog
  cases e with
  | lockSock =>
    subst result
    refine held.conclude (connected_after held.a took stays rfl nofun) ?_ (.refl _)
    exact ⟨unchanged.tx, unchanged.rx⟩
  | releaseSock =>
    subst result
    have empty : n.a.sock.backlog = [] := by
      simp only [enabled, Bool.and_eq_true, List.isEmpty_iff] at allowed
      exact allowed.2
    refine held.conclude (connected_after held.a took stays rfl fun _ => ?_) ?_ (.refl _)
    · simp [Sock.core, perform, empty]
    · exact ⟨unchanged.tx, unchanged.rx⟩
  | backlogRcv =>
    cases waiting : n.a.sock.backlog with
    | nil => simp [enabled, waiting] at allowed
    | cons item rest =>
      have owned : n.a.sock.owned = true := by
        simp only [enabled, Bool.and_eq_true] at allowed
        exact allowed.1
      simp only [perform, backlogRcv, waiting] at result
      have works : Works item.traffic { n.a.sock with out := [], backlog := rest } t := by
        rw [result] at stays ⊢
        exact item_works item held.a.state
          (fun skb here => noUframe skb (by simp [handled, waiting, here])) stays
      refine held.handles took stays (s := { n.a.sock with out := [], backlog := rest }) ?_ rfl ?_
        works ?_
      · exact ⟨unchanged.tx, unchanged.rx⟩
      · cases kind : item.traffic <;>
          simp [Endpoint.path, Sock.core, waiting, kind]
      · exact fun free => absurd (owned.symm.trans free) (by simp)
  | establishRequest =>
    rw [result] at stays
    exact absurd ((dlEstablishRequest_leaves connected).symm.trans stays) (by simp)
  | releaseRequest =>
    rw [result] at stays
    exact absurd ((dlReleaseRequest_leaves connected).symm.trans stays) (by simp)
  | dataRequest data nS nR =>
    let queued := sockQueueIframe { n.a.sock with out := [] }
      (prepareIframe { n.a.sock with out := [] } data nS nR)
    have pair : Pair queued.core n.b (n.a.path n.ba) (n.b.path n.ab) (n.a.submitted ++ [data])
        n.a.delivered n.a.unlinked := by
      refine ⟨?_, start.rx⟩
      exact (start.tx.submit (prepareIframe { n.a.sock with out := [] } data nS nR) rfl).of_bare rfl
    have works : Works none queued t := by
      rw [result]
      exact dlDataRequest_works _ connected
    exact held.handles took stays (s := queued) pair rfl rfl works held.a.backlog
  | unitDataRequest data =>
    refine plain rfl (.quiet ?_)
    rw [result]
    exact dlUnitDataRequest_core _ rfl connected held.a.stray
  | frame skb => cases noArrival
  | mdl pri =>
    refine plain rfl ?_
    rw [result] at stays ⊢
    unfold perform mdlPrimitive mdlPrimitiveWith at stays ⊢
    dsimp only at stays ⊢
    split
    · exact .quiet (by simp [Sock.core, Item.traffic])
    · rename_i free
      rw [if_neg free] at stays
      exact mdlRecv_works pri connected stays
  | timerT200 =>
    rw [result] at stays
    exact plain rfl (by rw [result]; exact timerT200_sends connected stays)
  | timerT203 => exact plain rfl (by rw [result]; exact timerT203_sends)
  | recvmsg =>
    refine plain rfl ?_
    rw [result]
    unfold perform recvmsg
    dsimp only
    split <;> exact .quiet rfl

/-- The oldest frame on its way arrives: it is ignored, waits in the backlog or
is handled at once. -/
theorem NetInv.arrive (held : NetInv n) {skb : RxSkb} {rest : List Frame}
    (oldest : n.ba = skb.frame :: rest) (took : step n.a.sock (.frame skb) = some t)
    (noUframe : handled n.a.sock (.frame skb) = some (.frame skb) → skb.frame.isTraffic = true)
    (stays : t.state.connected = true) :
    NetInv { n with
      a := n.a.after t [], ab := n.ab ++ t.out.filterMap Output.frame, ba := rest } := by
  obtain ⟨_, result, _⟩ := step_performs took
  have unchanged := held.begin_nothing
  by_cases passed : delivers n.a.sock skb
  · cases owned : n.a.sock.owned with
    | true =>
      have waits : t = { n.a.sock with out := [], backlog := n.a.sock.backlog ++ [.frame skb] } := by
        rw [result]
        unfold perform passFrame
        dsimp only
        rw [if_pos (show delivers { n.a.sock with out := [] } skb from passed), if_pos owned]
      subst waits
      refine held.conclude (connected_after held.a took stays rfl ?_) ⟨unchanged.tx, unchanged.rx⟩ ?_
      · exact fun free => absurd (owned.symm.trans free) (by simp)
      · cases kind : skb.frame.isTraffic <;>
          simp [Endpoint.path, Sock.core, Item.traffic, kind, oldest]
    | false =>
      have traffic := noUframe (by simp [handled, passed, owned])
      have handles : t = dlcRecv { n.a.sock with out := [] } (.frame skb) := by
        rw [result]
        unfold perform passFrame
        dsimp only
        rw [if_pos (show delivers { n.a.sock with out := [] } skb from passed), if_neg (by simp [owned])]
      have works : Works (some skb.frame) { n.a.sock with out := [] } t := by
        rw [handles] at stays ⊢
        have here : (Item.frame skb).traffic = some skb.frame := by simp [Item.traffic, traffic]
        rw [← here]
        refine item_works (.frame skb) held.a.state ?_ stays
        rintro _ ⟨⟩
        exact traffic
      have nothing := held.a.backlog owned
      refine held.handles took stays unchanged rfl ?_ works held.a.backlog
      change n.a.sock.core.pending ++ n.ba = skb.frame :: (n.a.sock.core.pending ++ rest)
      rw [nothing, oldest]
      rfl
  · have ignored : t = { n.a.sock with out := [] } := by
      rw [result]
      exact if_neg passed
    subst ignored
    refine held.conclude (connected_after held.a took stays rfl held.a.backlog) unchanged ?_
    rw [Endpoint.path, oldest]
    exact (List.sublist_cons_self _ _).append_left _

theorem NetInv.lose (held : NetInv n) (index : Nat) :
    NetInv { n with ba := n.ba.eraseIdx index } := by
  have fewer : (n.a.path (n.ba.eraseIdx index)).Sublist (n.a.path n.ba) :=
    (List.eraseIdx_sublist _ _).append_left _
  exact {
    a := held.a
    b := held.b
    forward := held.forward.lose (.refl _) fewer
    backward := held.backward.lose fewer (.refl _) }

/-- One event at the side `a` preserves the invariant. -/
theorem NetInv.stepA {m : Net} {e : NetEvent} (held : NetInv n) (took : stepA n e = some m)
    (stays : m.connected = true) (noUframe : handlesUframe n e = false) : NetInv m := by
  have connected : m.a.sock.state.connected = true := by
    unfold Net.connected at stays
    exact (Bool.and_eq_true_iff.mp stays).1
  have traffic {event : Event} (this : sockEvent n e = some event) (skb : RxSkb)
      (handles : handled n.a.sock event = some (.frame skb)) : skb.frame.isTraffic = true := by
    simpa [handlesUframe, this, handles] using noUframe
  cases e with
  | act event =>
    unfold Lapd.stepA at took
    dsimp only at took
    split at took
    · cases took
    · rename_i noArrival
      obtain ⟨t, performed, rfl⟩ := Option.map_eq_some_iff.mp took
      exact held.act performed (by simpa using noArrival) (traffic rfl) connected
  | deliver len truesize =>
    unfold Lapd.stepA at took
    dsimp only at took
    split at took
    · cases took
    · rename_i frame rest oldest
      obtain ⟨t, performed, rfl⟩ := Option.map_eq_some_iff.mp took
      exact held.arrive oldest performed (traffic (by rw [sockEvent, oldest]; rfl) _) connected
  | lose index =>
    cases took
    exact held.lose index

end Steps

theorem netInv_step {n m : Net} {e : Side × NetEvent} (held : NetInv n) (stays : Stays n e)
    (took : netStep n e = some m) : NetInv m := by
  obtain ⟨staysConnected, noUframe⟩ := stays
  rw [took] at staysConnected
  unfold netStep at took
  obtain ⟨after, moved, rfl⟩ := Option.map_eq_some_iff.mp took
  have connected : after.connected = true := by
    cases side : e.1 with
    | a => simpa [side, Net.facing] using staysConnected
    | b =>
      have swapped : after.swap.connected = true := by simpa [side, Net.facing] using staysConnected
      unfold Net.connected at swapped ⊢
      rw [Bool.and_comm]
      exact swapped
  exact ((held.facing e.1).stepA moved connected noUframe).facing e.1

/-! ## Whole runs -/

/-- An endpoint at the start: in state 7 with all numbers 0 and the cursor at
the first buffer queued, nothing sent yet. -/
structure Endpoint.Fresh (x : Endpoint) : Prop where
  state : x.sock.state = .linkConnectionEstablished
  numbers : x.sock.vS = 0 ∧ x.sock.vR = 0 ∧ x.sock.vA = 0
  cursor : Cursor x.sock.toLink [] x.sock.writeQueue
  window : x.sock.sap.Valid
  backlog : ∀ skb, .frame skb ∈ x.sock.backlog → skb.frame.isTraffic = false
  uQueue : ∀ frame ∈ x.sock.uQueue, frame.isTraffic = false
  submitted : x.submitted = x.sock.writeQueue.map Skb.data
  nothing : x.delivered = [] ∧ x.unlinked = []

/-- Both endpoints are fresh and no I or S frame is on its way. -/
structure Start (n : Net) : Prop where
  a : n.a.Fresh
  b : n.b.Fresh
  ab : ∀ frame ∈ n.ab, frame.isTraffic = false
  ba : ∀ frame ∈ n.ba, frame.isTraffic = false

theorem Endpoint.Fresh.pending {x : Endpoint} (fresh : x.Fresh) : x.sock.core.pending = [] := by
  refine List.filterMap_eq_nil_iff.mpr fun item member => ?_
  cases item with
  | mdl pri => rfl
  | frame skb => simp [Item.traffic, fresh.backlog skb member]

theorem Endpoint.Fresh.connected {x : Endpoint} (fresh : x.Fresh) : Connected x.sock where
  state := by rw [fresh.state]; rfl
  sap := fresh.window
  stray := by
    refine List.filter_eq_nil_iff.mpr fun frame member => ?_
    simp [fresh.uQueue frame member]
  backlog := fun _ => fresh.pending

private theorem quiet_channel {channel : List Frame}
    (quiet : ∀ frame ∈ channel, frame.isTraffic = false) :
    channel.filterMap Frame.payload = [] ∧ channel.filterMap Frame.nR = [] := by
  have each (frame : Frame) (member : frame ∈ channel) : frame.payload = none ∧ frame.nR = none := by
    have plain := quiet frame member
    unfold Frame.isTraffic at plain
    unfold Frame.payload Frame.nR
    cases control : frame.control <;> simp_all
  exact ⟨List.filterMap_eq_nil_iff.mpr fun frame member => (each frame member).1,
    List.filterMap_eq_nil_iff.mpr fun frame member => (each frame member).2⟩

private theorem fresh_sync {x y : Endpoint} {fwd bwd : List Frame} (sender : x.Fresh)
    (receiver : y.Fresh) (forward : ∀ frame ∈ fwd, frame.isTraffic = false)
    (backward : ∀ frame ∈ bwd, frame.isTraffic = false) :
    Sync x.sock.sap.k x.sock.toLink y.sock.vR (y.path fwd) (x.path bwd) x.submitted y.delivered
      x.unlinked := by
  refine ⟨{}, [], x.sock.writeQueue, ?_⟩
  exact {
    inv := .initial _ _
    cursor := sender.cursor
    numbered := rfl
    acked := sender.numbers.2.2
    sent := sender.numbers.1
    received := receiver.numbers.2.1
    queue := sender.submitted.symm
    delivered := receiver.nothing.1
    unlinked := sender.nothing.2
    data := by
      rw [Endpoint.path, receiver.pending, List.nil_append, (quiet_channel forward).1]
      rfl
    acks := by
      rw [Endpoint.path, sender.pending, List.nil_append, (quiet_channel backward).2]
      rfl }

theorem Start.inv {n : Net} (start : Start n) : NetInv n where
  a := start.a.connected
  b := start.b.connected
  forward := fresh_sync start.a start.b start.ab start.ba
  backward := fresh_sync start.b start.a start.ba start.ab

/-- What is delivered is a prefix of what was submitted, and what is unlinked a
prefix of what was delivered. -/
theorem Sync.in_order {k : Nat} {l : Link} {vR : Seq} {fwd bwd : List Frame}
    {submitted delivered unlinked : List Octets}
    (held : Sync k l vR fwd bwd submitted delivered unlinked) :
    delivered <+: submitted ∧ unlinked <+: delivered := by
  obtain ⟨g, pre, rest, held⟩ := held
  rw [held.delivered, held.unlinked]
  exact ⟨List.take_prefix _ _, List.take_prefix_take_left held.inv.acked_le_received⟩

/-- From a fresh start, for every order of requests, arrivals, losses, timer
expiries and receiver-busy conditions at both ends, as long as neither socket
leaves states 7 and 8 or handles a U frame: each side delivers a prefix of what
the other submitted, and unlinks only what the other has delivered. -/
theorem data_is_delivered_in_order {n m : Net} {es : List (Side × NetEvent)} (start : Start n)
    (run : Run netStep Stays n es m) :
    (m.b.delivered <+: m.a.submitted ∧ m.a.unlinked <+: m.b.delivered) ∧
      (m.a.delivered <+: m.b.submitted ∧ m.b.unlinked <+: m.a.delivered) := by
  have held : NetInv m := run.invariant NetInv netInv_step start.inv
  exact ⟨held.forward.in_order, held.backward.in_order⟩

/-- A network-side socket and a terminal's, just connected. -/
def connectedNet : Net where
  a := { sock := { networkSock 7 with state := .linkConnectionEstablished }, submitted := [] }
  b := {
    sock := { networkSock 7 with
      state := .linkConnectionEstablished
      dev := { role := .te, mtu := 266, netTme := false } }
    submitted := [] }
  ab := []
  ba := []

theorem connectedNet_start : Start connectedNet := by
  have fresh (x : Endpoint) (sock : x.sock.toLink = { state := .linkConnectionEstablished })
      (vR : x.sock.vR = 0) (sap : x.sock.sap.k = 7)
      (empty : x.sock.backlog = [] ∧ x.sock.uQueue = [] ∧ x.submitted = [])
      (nothing : x.delivered = [] ∧ x.unlinked = []) : x.Fresh := by
    obtain ⟨backlog, uQueue, submitted⟩ := empty
    refine {
      state := congrArg Link.state sock
      numbers := ⟨congrArg Link.vS sock, vR, congrArg Link.vA sock⟩
      cursor := ?_
      window := by rw [Sap.Valid, sap]; decide
      backlog := by rw [backlog]; exact nofun
      uQueue := by rw [uQueue]; exact nofun
      submitted := by rw [submitted, sock]; rfl
      nothing := nothing }
    rw [sock]
    exact ⟨rfl, rfl, .nil, nofun⟩
  exact ⟨fresh _ rfl rfl rfl ⟨rfl, rfl, rfl⟩ ⟨rfl, rfl⟩, fresh _ rfl rfl rfl ⟨rfl, rfl, rfl⟩ ⟨rfl, rfl⟩,
    nofun, nofun⟩

/-- The first of two frames is lost, the second rejected, and both are sent
again. -/
theorem lost_frame_is_delivered_in_order :
    ∃ m, Run netStep Stays connectedNet
      [(.a, .act (.dataRequest [1] 0 0)), (.a, .act (.dataRequest [2] 0 0)), (.b, .lose 0),
        (.b, .deliver 7 200), (.a, .deliver 6 200), (.b, .deliver 7 200), (.b, .deliver 7 200),
        (.a, .deliver 6 200)] m ∧
      m.b.delivered = [[1], [2]] ∧ m.a.unlinked = [[1]] ∧
      (m.b.delivered <+: m.a.submitted ∧ m.a.unlinked <+: m.b.delivered) := by
  have run := follow_run netStep Stays connectedNet
    [(.a, .act (.dataRequest [1] 0 0)), (.a, .act (.dataRequest [2] 0 0)), (.b, .lose 0),
      (.b, .deliver 7 200), (.a, .deliver 6 200), (.b, .deliver 7 200), (.b, .deliver 7 200),
      (.a, .deliver 6 200)] rfl
  exact ⟨_, run, rfl, rfl, (data_is_delivered_in_order connectedNet_start run).1⟩

end Vstuff.Lapd
