import Mathlib.Data.List.Nodup
import Vstuff.Lapd.Events

/-! A received buffer and the sockets of a device: two loops may hand it to several of them, and
`lapd_rcv` frees it if their answer is that nobody has kept it (`input.c`). Copying a buffer
is taken to succeed. -/
namespace Vstuff.Lapd.Dispatch
set_option linter.all false

/-- What the loops look at of a socket in the hash. `dlcRecv` is what `lapd_dlc_recv` answers when
the socket is handed the buffer: it has kept it. -/
structure HashedSock where
  dev : Nat
  skState : SkState
  sapi : Nat
  tei : Nat
  ownedByUser : Bool
  dlcRecv : Bool
  deriving DecidableEq, Repr

/-- The received buffer, or one that `skb_clone` made of it. -/
inductive Buffer where
  | original
  | clone (serial : Nat)
  deriving DecidableEq, Repr

/-- A socket was handed a buffer: `newSkb`, whose `sk` is the socket, need not be the one. -/
structure Delivery where
  sock : HashedSock
  newSkb : Buffer
  handed : Buffer
  kept : Bool
  deriving DecidableEq, Repr

/-- The sockets served, and the answer to the caller. -/
structure Dispatched where
  deliveries : List Delivery
  queued : Bool
  deriving DecidableEq, Repr

/-- The loop of both functions from a value of `queued` on, when copies have been made before. The
answer of each socket becomes `queued` for the next one. -/
def dispatch (isFor : HashedSock → Bool) (handed : Buffer → Buffer) (pass : HashedSock → Bool) :
    List HashedSock → Bool → Nat → Dispatched
  | [], queued, _ => ⟨[], queued⟩
  | sock :: rest, queued, clones =>
    if isFor sock then
      let newSkb : Buffer := if !queued then .original else .clone clones
      let further := dispatch isFor handed pass rest (pass sock) (if !queued then clones else clones + 1)
      ⟨⟨sock, newSkb, handed newSkb, pass sock⟩ :: further.deliveries, further.queued⟩
    else dispatch isFor handed pass rest queued clones

/-- `skb->len` and the header of a frame. -/
structure RxHeader where
  len : Nat
  ea1 : Bool
  ea2 : Bool
  sapi : Nat
  tei : Nat
  deriving DecidableEq, Repr

/-- `lapd_pass_frame_to_socket`. -/
def passFrameToSocket (sock : HashedSock) : Bool := if !sock.ownedByUser then sock.dlcRecv else true

/-- `lapd_mgmt_queue_primitive` queues the buffer whatever the socket. -/
def mgmtQueuePrimitive (_ : HashedSock) : Bool := true

/-- The sockets of a TE a frame is for. -/
def takesFrame (dev : Nat) (hdr : RxHeader) (sock : HashedSock) : Bool :=
  sock.dev == dev && (sock.skState == .normalDlc || sock.skState == .broadcastDlc) &&
    sock.sapi == hdr.sapi && sock.tei == hdr.tei

/-- The sockets an MPH primitive is for. -/
def takesMph (dev : Nat) (sock : HashedSock) : Bool := sock.dev == dev && sock.skState == .mgmt

/-- `lapd_pass_frame_to_socket_te`. -/
def passFrameToSocketTe (dev : Nat) (hash : List HashedSock) (hdr : RxHeader) : Dispatched :=
  dispatch (takesFrame dev hdr) id passFrameToSocket hash false 0

/-- `lapd_dispatch_mph_primitive`. It is `skb` that is queued, not `new_skb`. -/
def dispatchMphPrimitive (dev : Nat) (hash : List HashedSock) : Dispatched :=
  dispatch (takesMph dev) (fun _ => .original)
    (fun sock => if !sock.ownedByUser then mgmtQueuePrimitive sock else true) hash false 0

/-- Nobody is handed the buffer. -/
def unqueued : Dispatched := ⟨[], false⟩

/-- `lapd_pass_frame_to_socket_nt`: the socket of the frame, or else, if one listens, the socket made
for it. -/
def passFrameToSocketNt (dev : Nat) (newSock : HashedSock) (hash : List HashedSock) (hdr : RxHeader) :
    Dispatched :=
  match hash.find? fun sock =>
      sock.dev == dev && sock.skState != .listen && sock.sapi == hdr.sapi && sock.tei == hdr.tei with
  | some sock => ⟨[⟨sock, .original, .original, passFrameToSocket sock⟩], passFrameToSocket sock⟩
  | none =>
    if hash.any fun sock => sock.dev == dev && sock.skState == .listen then
      ⟨[⟨newSock, .original, .original, passFrameToSocket newSock⟩], passFrameToSocket newSock⟩
    else unqueued

/-- `lapd_ph_data_indication`. A frame of TEI management is handled without a socket. -/
def phDataIndication (dev : Nat) (role : IntfRole) (newSock : HashedSock) (hash : List HashedSock)
    (hdr : RxHeader) : Dispatched :=
  if hdr.len < 5 then unqueued
  else if hdr.ea1 || !hdr.ea2 then unqueued
  else if hdr.sapi = sapiTeiMgmt then unqueued
  else match role with
    | .nt => passFrameToSocketNt dev newSock hash hdr
    | .te => passFrameToSocketTe dev hash hdr

/-- The primitives `lapd_rcv` tells apart. -/
inductive PrimitiveType where
  | phDataIndication
  | phActivateIndication
  | phDeactivateIndication
  | mphErrorIndication
  | mphActivateIndication
  | mphDeactivateIndication
  | mphInformationIndication
  | unexpected
  deriving DecidableEq, Repr

/-- The sockets served, and whether the buffer was freed then. -/
structure Received where
  deliveries : List Delivery
  freed : Bool
  deriving DecidableEq, Repr

/-- `lapd_rcv` behind its checks of the header. -/
def lapdRcv (dev : Nat) (role : IntfRole) (newSock : HashedSock) (hash : List HashedSock)
    (primitive : PrimitiveType) (hdr : RxHeader) : Received :=
  let done := match primitive with
    | .phDataIndication => phDataIndication dev role newSock hash hdr
    | .mphErrorIndication | .mphActivateIndication | .mphDeactivateIndication
    | .mphInformationIndication => dispatchMphPrimitive dev hash
    | .phActivateIndication | .phDeactivateIndication | .unexpected => unqueued
  ⟨done.deliveries, !done.queued⟩

/-- Some socket has kept the original buffer. -/
def Retained (deliveries : List Delivery) : Prop :=
  ∃ delivery ∈ deliveries, delivery.handed = .original ∧ delivery.kept = true

/-- Each socket the buffer is for has one of its own, and the answer is about the original. -/
structure Owned (sockets : List HashedSock) (done : Dispatched) : Prop where
  received : done.deliveries.map Delivery.sock = sockets
  once : (done.deliveries.map Delivery.handed).Nodup
  flag : done.queued = true ↔ Retained done.deliveries

/-- Both loops hand out buffers as they should, and `lapd_rcv` frees what nobody has kept. -/
def BuffersOwned (dev : Nat) (role : IntfRole) (newSock : HashedSock) (hash : List HashedSock)
    (hdr : RxHeader) : Prop :=
  Owned (hash.filter (takesFrame dev hdr)) (passFrameToSocketTe dev hash hdr) ∧
    Owned (hash.filter (takesMph dev)) (dispatchMphPrimitive dev hash) ∧
    ∀ primitive, (lapdRcv dev role newSock hash primitive hdr).freed = true ↔
      ¬Retained (lapdRcv dev role newSock hash primitive hdr).deliveries

section Loop
variable {isFor : HashedSock → Bool} {handed : Buffer → Buffer} {pass : HashedSock → Bool}

@[simp] theorem dispatch_nil (queued : Bool) (clones : Nat) : dispatch isFor handed pass [] queued clones = ⟨[], queued⟩ :=
  rfl

theorem dispatch_cons (sock : HashedSock) (rest : List HashedSock) (queued : Bool) (clones : Nat) :
    dispatch isFor handed pass (sock :: rest) queued clones =
      if isFor sock then
        let newSkb : Buffer := if !queued then .original else .clone clones
        let further := dispatch isFor handed pass rest (pass sock) (if !queued then clones else clones + 1)
        ⟨⟨sock, newSkb, handed newSkb, pass sock⟩ :: further.deliveries, further.queued⟩
      else dispatch isFor handed pass rest queued clones := rfl

/-- A socket the buffer is for. -/
@[simp] theorem dispatch_served (sock : HashedSock) (rest : List HashedSock) (queued : Bool) (clones : Nat) :
    dispatch (fun _ => true) handed pass (sock :: rest) queued clones =
      ⟨⟨sock, if !queued then .original else .clone clones, handed (if !queued then .original else .clone clones),
          pass sock⟩ ::
        (dispatch (fun _ => true) handed pass rest (pass sock) (if !queued then clones else clones + 1)).deliveries,
      (dispatch (fun _ => true) handed pass rest (pass sock) (if !queued then clones else clones + 1)).queued⟩ := rfl

/-- The loop passes over the sockets the buffer is not for. -/
theorem dispatch_filter (hash : List HashedSock) (queued : Bool) (clones : Nat) :
    dispatch isFor handed pass hash queued clones =
      dispatch (fun _ => true) handed pass (hash.filter isFor) queued clones := by
  induction hash generalizing queued clones with
  | nil => rfl
  | cons sock rest ih =>
    by_cases here : isFor sock = true
    · rw [List.filter_cons_of_pos here, dispatch_cons, dispatch_cons, if_pos here, if_pos rfl, ih]
    · rw [List.filter_cons_of_neg here, dispatch_cons, if_neg here, ih]

theorem dispatch_received (sockets : List HashedSock) (queued : Bool) (clones : Nat) :
    (dispatch (fun _ => true) handed pass sockets queued clones).deliveries.map Delivery.sock = sockets := by
  induction sockets generalizing queued clones with
  | nil => rfl
  | cons sock rest ih => simp [ih]

/-- As long as every socket keeps its buffer, each further one gets a copy of its own. -/
theorem dispatch_copies (sockets : List HashedSock) (kept : ∀ sock ∈ sockets, pass sock = true) (clones : Nat) :
    (dispatch (fun _ => true) id pass sockets true clones).queued = true ∧
      (dispatch (fun _ => true) id pass sockets true clones).deliveries.map Delivery.handed =
        (List.range' clones sockets.length).map Buffer.clone := by
  induction sockets generalizing clones with
  | nil => exact ⟨rfl, rfl⟩
  | cons sock rest ih =>
    obtain ⟨here, later⟩ := List.forall_mem_cons.mp kept
    obtain ⟨queued, copies⟩ := ih later (clones + 1)
    simp only [dispatch_served, here]
    exact ⟨queued, by simpa [List.range'_succ] using copies⟩

/-- Behind a socket that has not kept its buffer, the next one is handed the original. -/
theorem original_handed {sockets : List HashedSock} (some : sockets ≠ []) (clones : Nat) :
    Buffer.original ∈ (dispatch (fun _ => true) id pass sockets false clones).deliveries.map Delivery.handed := by
  cases sockets with
  | nil => exact absurd rfl some
  | cons sock rest => simp

/-- If the original is not handed on and the answer is that it was kept, all have kept theirs. -/
theorem all_kept (sockets : List HashedSock) (clones : Nat)
    (elsewhere : Buffer.original ∉
      (dispatch (fun _ => true) id pass sockets true clones).deliveries.map Delivery.handed)
    (queued : (dispatch (fun _ => true) id pass sockets true clones).queued = true) :
    ∀ sock ∈ sockets, pass sock = true := by
  induction sockets generalizing clones with
  | nil => simp
  | cons sock rest ih =>
    simp only [dispatch_served, List.map_cons, List.mem_cons, not_or] at elsewhere queued
    have here : pass sock = true := by
      by_contra dropped
      rw [Bool.not_eq_true] at dropped
      rw [dropped] at elsewhere queued
      cases rest with
      | nil => cases queued
      | cons next further => exact elsewhere.2 (original_handed (by simp) _)
    rw [here] at elsewhere queued
    exact List.forall_mem_cons.mpr ⟨here, ih _ elsewhere.2 queued⟩

/-- The first socket is handed the original. -/
theorem dispatch_first (sock : HashedSock) (rest : List HashedSock) :
    dispatch (fun _ => true) handed pass (sock :: rest) false 0 =
      ⟨⟨sock, .original, handed .original, pass sock⟩ ::
          (dispatch (fun _ => true) handed pass rest (pass sock) 0).deliveries,
        (dispatch (fun _ => true) handed pass rest (pass sock) 0).queued⟩ := rfl

/-- With each socket handed the buffer meant for it, all is well with one socket, and with more of
them exactly if they all keep what they are handed. -/
theorem owned_iff (sockets : List HashedSock) :
    Owned sockets (dispatch (fun _ => true) id pass sockets false 0) ↔
      sockets.length ≤ 1 ∨ ∀ sock ∈ sockets, pass sock = true := by
  cases sockets with
  | nil => exact ⟨fun _ => .inl (Nat.zero_le _), fun _ => ⟨rfl, List.nodup_nil, by simp [Retained]⟩⟩
  | cons first rest =>
    have received : (dispatch (fun _ => true) id pass (first :: rest) false 0).deliveries.map Delivery.sock = _ :=
      dispatch_received ..
    rw [dispatch_first] at received ⊢
    constructor
    · rintro ⟨-, once, flag⟩
      by_cases alone : rest = []
      · exact .inl (by rw [alone]; exact Nat.le_refl _)
      · right
        obtain ⟨elsewhere, -⟩ := List.nodup_cons.mp once
        have here : pass first = true := by
          by_contra dropped
          rw [Bool.not_eq_true] at dropped
          rw [dropped] at elsewhere
          exact elsewhere (original_handed alone 0)
        have queued := flag.mpr ⟨_, List.mem_cons_self, rfl, here⟩
        rw [here] at elsewhere queued
        exact List.forall_mem_cons.mpr ⟨here, all_kept rest 0 elsewhere queued⟩
    · rintro (single | kept)
      · obtain rfl : rest = [] := List.eq_nil_of_length_eq_zero (by simpa using single)
        refine ⟨received, List.nodup_singleton _, ?_⟩
        simp [Retained]
      · obtain ⟨here, later⟩ := List.forall_mem_cons.mp kept
        obtain ⟨queued, copies⟩ := dispatch_copies rest later 0
        rw [here] at received ⊢
        refine ⟨received, ?_, fun _ => ⟨_, List.mem_cons_self, rfl, rfl⟩, fun _ => queued⟩
        have distinct : ((List.range' 0 rest.length).map Buffer.clone).Nodup :=
          List.Nodup.map (fun _ _ => Buffer.clone.inj) (List.nodup_range' 1)
        rw [List.map_cons, copies]
        exact List.nodup_cons.mpr ⟨by simp, distinct⟩

/-- With the original handed to every socket, all is well with one socket at most. -/
theorem owned_original_iff (sockets : List HashedSock) :
    Owned sockets (dispatch (fun _ => true) (fun _ => .original) pass sockets false 0) ↔ sockets.length ≤ 1 := by
  match sockets with
  | [] => exact ⟨fun _ => Nat.zero_le _, fun _ => ⟨rfl, List.nodup_nil, by simp [Retained]⟩⟩
  | [sock] =>
    refine ⟨fun _ => Nat.le_refl _, fun _ => ⟨rfl, List.nodup_singleton _, ?_⟩⟩
    simp [Retained]
  | first :: next :: rest =>
    refine ⟨fun owned => ?_, fun single => absurd single (by simp)⟩
    obtain ⟨elsewhere, -⟩ := List.nodup_cons.mp owned.once
    exact absurd List.mem_cons_self elsewhere

end Loop

section Receive
variable {dev : Nat} {role : IntfRole} {newSock : HashedSock} {hash : List HashedSock} {hdr : RxHeader}

theorem te_owned_iff :
    Owned (hash.filter (takesFrame dev hdr)) (passFrameToSocketTe dev hash hdr) ↔
      (hash.filter (takesFrame dev hdr)).length ≤ 1 ∨
        ∀ sock ∈ hash.filter (takesFrame dev hdr), passFrameToSocket sock = true := by
  unfold passFrameToSocketTe
  rw [dispatch_filter]
  exact owned_iff _

theorem mph_owned_iff :
    Owned (hash.filter (takesMph dev)) (dispatchMphPrimitive dev hash) ↔
      (hash.filter (takesMph dev)).length ≤ 1 := by
  unfold dispatchMphPrimitive
  rw [dispatch_filter]
  exact owned_original_iff _

/-- A network hands the original to one socket at most, and returns its answer. -/
theorem nt_flag :
    (passFrameToSocketNt dev newSock hash hdr).queued = true ↔
      Retained (passFrameToSocketNt dev newSock hash hdr).deliveries := by
  unfold passFrameToSocketNt
  split
  · simp [Retained]
  · split <;> simp [Retained, unqueued]

/-- The buffer is freed on the answer of whoever handed it out. -/
theorem rcv_frees (te : (passFrameToSocketTe dev hash hdr).queued = true ↔
      Retained (passFrameToSocketTe dev hash hdr).deliveries)
    (mph : (dispatchMphPrimitive dev hash).queued = true ↔ Retained (dispatchMphPrimitive dev hash).deliveries)
    (primitive : PrimitiveType) :
    (lapdRcv dev role newSock hash primitive hdr).freed = true ↔
      ¬Retained (lapdRcv dev role newSock hash primitive hdr).deliveries := by
  have nobody : unqueued.queued = true ↔ Retained unqueued.deliveries := by simp [unqueued, Retained]
  have data : (phDataIndication dev role newSock hash hdr).queued = true ↔
      Retained (phDataIndication dev role newSock hash hdr).deliveries := by
    unfold phDataIndication
    split_ifs
    · exact nobody
    · exact nobody
    · exact nobody
    · cases role with
      | nt => exact nt_flag
      | te => exact te
  have frees : ∀ done : Dispatched, (done.queued = true ↔ Retained done.deliveries) →
      ((!done.queued) = true ↔ ¬Retained done.deliveries) := by
    intro done flag
    rw [← flag, Bool.not_eq_true', Bool.not_eq_true]
  cases primitive with
  | phDataIndication => exact frees _ data
  | mphErrorIndication | mphActivateIndication | mphDeactivateIndication | mphInformationIndication =>
    exact frees _ mph
  | phActivateIndication | phDeactivateIndication | unexpected => exact frees _ nobody

end Receive

/-- The buffers are handed out as they should be exactly if a frame is for one socket or kept by all
it is for, and there is one management socket at most. -/
theorem buffers_owned_iff (dev : Nat) (role : IntfRole) (newSock : HashedSock) (hash : List HashedSock)
    (hdr : RxHeader) :
    BuffersOwned dev role newSock hash hdr ↔
      ((hash.filter (takesFrame dev hdr)).length ≤ 1 ∨
        ∀ sock ∈ hash.filter (takesFrame dev hdr), passFrameToSocket sock = true) ∧
      (hash.filter (takesMph dev)).length ≤ 1 := by
  constructor
  · rintro ⟨frames, primitives, -⟩
    exact ⟨te_owned_iff.mp frames, mph_owned_iff.mp primitives⟩
  · rintro ⟨frames, primitives⟩
    have framesOwned := te_owned_iff.mpr frames
    have primitivesOwned := mph_owned_iff.mpr primitives
    exact ⟨framesOwned, primitivesOwned, rcv_frees framesOwned.flag primitivesOwned.flag⟩

/-- A socket of a TE bound to the broadcast TEI. -/
def broadcastListener (keeps : Bool) : HashedSock := ⟨1, .broadcastDlc, 0, 127, false, keeps⟩

/-- A frame to the broadcast TEI is freed while the first of two listeners keeps it. -/
theorem retained_buffer_freed :
    ¬BuffersOwned 1 .te (broadcastListener true) [broadcastListener true, broadcastListener false]
      ⟨8, false, true, 0, 127⟩ := by
  rintro ⟨-, -, frees⟩
  have kept := (frees .phDataIndication).mp (by decide)
  exact kept ⟨_, List.mem_cons_self, rfl, rfl⟩

end Vstuff.Lapd.Dispatch
