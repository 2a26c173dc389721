import Vstuff.Lib.Window

/-! Frames and enumerations of the LAPD module (`lapd.h`, `proto.h`). A frame
is described by its header fields; the two bit-field layouts of `proto.h` are
the same fields in another order. -/
namespace Vstuff.Lapd
set_option linter.all false

/-- A 7-bit sequence number: `n_s` and `n_r` of a header, and `v_s`, `v_a` and
`v_r` of a socket, whose every assignment is reduced modulo 128 or copies a
header field. -/
abbrev Seq := Fin 128

-- one instance for the numerals of `Seq`, whatever module they stand in
instance seqModulus : NeZero 128 := ⟨by decide⟩

abbrev Octets := List UInt8

/-- `enum lapd_intf_role`. -/
inductive IntfRole where
  | te | nt
  deriving DecidableEq, Repr

/-- The `LAPD_SK_STATE_*` values of `sk_state`. -/
inductive SkState where
  | null | listen | normalDlc | normalDlcClosing | broadcastDlc | mgmt | close
  deriving DecidableEq, Repr

/-- `enum lapd_datalink_state`, in the order of its numbers. -/
inductive DatalinkState where
  | null
  | teiUnassigned
  | awaitingTei
  | establishAwaitingTei
  | teiAssigned
  | awaitingEstablish
  | awaitingRelease
  | linkConnectionEstablished
  | timerRecovery
  | listening
  deriving DecidableEq, Repr

/-- `enum lapd_cr`. -/
inductive Cr where
  | command | response
  deriving DecidableEq, Repr

/-- `enum lapd_sframe_function`. -/
inductive SframeFunction where
  | rr | rnr | rej | invalid
  deriving DecidableEq, Repr

/-- `enum lapd_uframe_function`. -/
inductive UframeFunction where
  | sabme | dm | ui | disc | ua | frmr | xid | invalid
  deriving DecidableEq, Repr

/-- The control field, as `lapd_frame_type` and the two function decoders read
it. -/
inductive Control where
  | iframe (nS nR : Seq) (p : Bool)
  | sframe (function : SframeFunction) (nR : Seq) (pF : Bool)
  | uframe (function : UframeFunction) (pF : Bool)
  deriving DecidableEq, Repr

/-- `struct lapd_data_hdr` or `lapd_data_hdr_e` with the octets behind it. -/
structure Frame where
  sapi : Nat
  cr : Bool
  tei : Nat
  control : Control
  data : Octets := []
  deriving DecidableEq, Repr

/-- A received buffer: the frame, `skb->len` with the CRC, and the memory the
buffer is charged for. The length is kept apart from the data so that frames
of a wrong size can be received too. -/
structure RxSkb where
  frame : Frame
  len : Nat
  truesize : Nat
  deriving DecidableEq, Repr

/-- `lapd_rx_is_response`. -/
def rxIsResponse (role : IntfRole) (cr : Bool) : Bool := (role == .te) == !cr

/-- `lapd_make_cr`. -/
def makeCr (role : IntfRole) (cr : Cr) : Bool := (role == .te) == !(cr == .command)

/-- The command/response kind `lapd_prepare_uframe` gives each function. -/
def uframeCr : UframeFunction → Cr
  | .dm | .ua | .frmr => .response
  | .sabme | .ui | .disc | .xid | .invalid => .command

/-- `LAPD_BROADCAST_TEI`. -/
def broadcastTei : Nat := 127

/-- The letters of `enum lapd_mdl_error_indications`; an indication is a set
of them. -/
inductive MdlError where
  | A | B | C | D | E | F | G | H | I | J | K | L | M | N | O
  deriving DecidableEq, Repr

/-- `enum lapd_format_errors`. -/
inductive FormatError where
  | length | n201 | undefinedCommand | iFieldNotPermitted
  deriving DecidableEq, Repr

/-- `enum lapd_dl_primitive_type`. -/
inductive DlPrimitive where
  | releaseIndication | releaseConfirm | establishIndication | establishConfirm
  deriving DecidableEq, Repr

/-- `struct lapd_mdl_primitive`. -/
inductive MdlPrimitive where
  | assignRequest (tei : Nat)
  | removeRequest
  | errorResponse
  | errorIndication (errors : List MdlError)
  | persistentDeactivation
  deriving DecidableEq, Repr

/-- A frame one side makes as a response is read as one by a peer of the other
role. -/
theorem made_cr_is_read (role peer : IntfRole) (other : role ≠ peer) (cr : Cr) :
    rxIsResponse peer (makeCr role cr) = (cr == .response) := by
  cases role <;> cases peer <;> cases cr <;> simp_all [rxIsResponse, makeCr]

end Vstuff.Lapd
