import Vstuff.Lib.Peek
import Vstuff.Kstreamer.Registry

/-! The receive path of the netlink front end on the octets of a packet: the loop
over its messages, the dispatch, and the loops of the handlers over the
attributes of one message. What a handler looks at is counted from the start of
its message. -/
namespace Vstuff.Kstreamer
open Peek (cell block)
set_option linter.all false

/-- A little-endian __u16. -/
def u16 (i : Nat) : Peek UInt8 Nat := do
  let low ← cell i
  let high ← cell (i + 1)
  pure (low.toNat + 256 * high.toNat)

def u32 (i : Nat) : Peek UInt8 Nat := do
  let low ← u16 i
  let high ← u16 (i + 2)
  pure (low + 65536 * high)

/-- `KS_ATTR_ALIGN` and `NLMSG_ALIGN`. -/
def align (len : Nat) : Nat := (len + 3) / 4 * 4

theorem le_align (len : Nat) : len ≤ align len := by
  rw [align]
  omega

/-- The header of a struct ks_attr, and where it is. -/
structure Head where
  pos : Nat
  type : Nat
  len : Nat
  deriving Repr, DecidableEq

/-- KS_ATTR_DATA, read as a __u32. -/
def Head.word (head : Head) : Peek UInt8 Nat := u32 (head.pos + 4)

/-- The word, if the code takes it. -/
def Head.wordIf (needed : Bool) (head : Head) : Peek UInt8 Nat := if needed then head.word else pure 0

/-- A loop over attributes, of which `rest` octets are left. Its body goes on with a
new state or leaves the loop with a result; without turns left, there is no
result. -/
def walk {σ ρ : Type} (body : σ → Head → Peek UInt8 (Except ρ σ)) :
    Nat → Nat → Nat → σ → Peek UInt8 (Except (Option ρ) σ)
  | 0, _, _, _ => pure (.error none)
  | turns + 1, pos, rest, s =>
    if rest < 4 then pure (.ok s)
    else do
      let len ← u16 pos
      let type ← u16 (pos + 2)
      if len < 4 ∨ rest < len then pure (.ok s)
      else do
        match ← body s ⟨pos, type, len⟩ with
        | .error result => pure (.error (some result))
        | .ok s => walk body turns (pos + align len) (rest - align len) s

/-- All attributes of a message of the given length. -/
def walkAttrs {σ ρ : Type} (body : σ → Head → Peek UInt8 (Except ρ σ)) (len : Nat) (s : σ) :
    Peek UInt8 (Except (Option ρ) σ) :=
  walk body (len + 1) 16 (len - 16) s

/-- How a handler ends: it returns, fails an assertion, or never returns. -/
inductive Ending (α : Type) where
  | done (result : α)
  | bug
  | endless
  deriving Repr, DecidableEq

/-- One turn of the search for an ID attribute. -/
def searchAttr {α : Type} (get : Nat → Option α) (_ : Unit) (head : Head) : Peek UInt8 (Except (Option α) Unit) :=
  if head.type = 1 then do
    let id ← head.word
    pure (.error (get id))
  else pure (.ok ())

/-- `ks_pipeline_get_by_nlid` and `ks_chan_get_by_nlid`. -/
def getByNlid {α : Type} (get : Nat → Option α) (len : Nat) : Peek UInt8 (Ending (Option α)) := do
  match ← walkAttrs (searchAttr get) len () with
  | .ok () => pure (.done none)
  | .error (some found) => pure (.done found)
  | .error none => pure .endless

/-- `chan->ops->set_attr`: for a type and a length of the payload, how many octets
of it the driver looks at, and what it returns. -/
abbrev SetAttr := Nat → Nat → Nat × Int

/-- The descriptor of a feature, of `size` octets; some drivers look at it before
they check the length. -/
def setDescr (size : Nat) (early : Bool) (len : Nat) : Nat × Int :=
  if len < size then (if early then 1 else 0, -EINVAL) else (1, 0)

/-- `vgsm_me_rx_chan_set_attr`, for the id of `vgsm_amu_compander_class`. -/
def vgsmMeRxChanSetAttr (amu_compander : Nat) : SetAttr := fun type len =>
  if type = amu_compander then setDescr 8 false len else (0, -ENOENT)

/-- `vgsm_me_tx_chan_set_attr`, for the id of `vgsm_amu_decompander_class`. -/
def vgsmMeTxChanSetAttr (amu_decompander : Nat) : SetAttr := fun type len =>
  if type = amu_decompander then setDescr 8 false len else (0, -ENOENT)

/-- `hfc_sys_chan_rx_chan_set_attr`: a message to the log shows the octet reverser
as it was received. -/
def hfcSysChanRxChanSetAttr (hdlc_deframer octet_reverser : Nat) : SetAttr := fun type len =>
  if type = hdlc_deframer then setDescr 4 false len
  else if type = octet_reverser then setDescr 4 true len
  else (0, -ENOENT)

/-- hfc_sys_chan_tx_chan_set_attr -/
def hfcSysChanTxChanSetAttr (hdlc_framer octet_reverser : Nat) : SetAttr := fun type len =>
  if type = hdlc_framer then setDescr 4 false len
  else if type = octet_reverser then setDescr 4 false len
  else (0, -ENOENT)

/-- What a message finds when it is looked at, and what the allocator and the
drivers answer to it. Between two messages the lock is free for others, so that
each finds a state of its own. -/
structure World where
  netlink : NetlinkState := {}
  kernel : Kernel := {}
  /-- The set_attr of each channel. -/
  setAttr : Nat → Option SetAttr := fun _ => none
  packet : Nat := 0
  alloc : Bool := true
  answers : Answers := fun _ _ => 0
  added : Int := 0
  fits : Bool := true
  writes : List Write := []
  /-- Nobody holds the lock at a depth. -/
  clear : netlink.lock_owner = 0 → netlink.lock_depth = 0

namespace World

/-- The body of the loop of `ks_pipeline_create_from_nlmsg`: a status or a channel
id is taken from the payload. -/
def createAttr (s : (Kernel × Pipe) × Nat) (head : Head) :
    Peek UInt8 (Except ((Kernel × Pipe) × Int) ((Kernel × Pipe) × Nat)) := do
  let attr : Attr := ⟨head.type, 0⟩
  let value ← head.wordIf (attr.isStatus || attr.isChanId && s.1.2.body.status = .null)
  pure ((s.1.1.parseAttr s.1.2 s.2 ⟨head.type, value⟩).mapError fun err => (s.1, err))

/-- What a request answers, or what becomes of it otherwise. -/
def answered (otherwise : Ending (Kernel × Int)) : Option Kernel.Answered → Ending (Kernel × Int)
  | some r => .done (r.kernel, r.err)
  | none => otherwise

/-- What follows the loop; looking for an id may not come to an end. -/
def registered (w : World) : Except (Option ((Kernel × Pipe) × Int)) ((Kernel × Pipe) × Nat) → Ending (Kernel × Int)
  | .error none => .endless
  | .error (some (s, err)) => answered .endless (Kernel.register w.answers w.added (Kernel.created w.answers (s, .error err)))
  | .ok (s, status) => answered .endless (Kernel.register w.answers w.added (Kernel.created w.answers (s, .ok status)))

/-- The pipeline and the state that `ks_pipeline_create_from_nlmsg` begins with. -/
def start (w : World) : (Kernel × Pipe) × Nat := (({ w.kernel with next := w.kernel.next + 1 }, { ptr := w.kernel.next }), 0)

/-- ks_pipeline_cmd_new -/
def pipelineCmdNew (w : World) (len : Nat) : Peek UInt8 (Ending (Kernel × Int)) :=
  if ¬ w.alloc then pure (.done (w.kernel, -ENOMEM))
  else do
    let parsed ← walkAttrs createAttr len w.start
    pure (w.registered parsed)

/-- ks_pipeline_cmd_del -/
def pipelineCmdDel (w : World) (len : Nat) : Peek UInt8 (Ending (Kernel × Int)) := do
  match ← getByNlid w.kernel.pipeline len with
  | .done found =>
    let r := w.kernel.delete w.answers found
    pure (.done (r.kernel, r.err))
  | .bug => pure .bug
  | .endless => pure .endless

/-- The body of the loop of `ks_pipeline_update_from_nlsmsg`. -/
def updateAttr (pipe : Pipe) (status : Nat) (head : Head) : Peek UInt8 (Except Kernel.Halt Nat) := do
  let attr : Attr := ⟨head.type, 0⟩
  let value ← head.wordIf (attr.isId || attr.isStatus)
  pure (Kernel.updateAttr pipe status ⟨head.type, value⟩)

/-- What follows the loop; its `BUG_ON` has no answer. -/
def updated (w : World) (pipe : Pipe) : Except (Option Kernel.Halt) Nat → Ending (Kernel × Int)
  | .error none => .endless
  | .error (some halt) => answered .bug (w.kernel.update w.answers pipe (.error halt))
  | .ok status => answered .bug (w.kernel.update w.answers pipe (.ok status))

/-- ks_pipeline_cmd_set -/
def pipelineCmdSet (w : World) (len : Nat) : Peek UInt8 (Ending (Kernel × Int)) := do
  match ← getByNlid w.kernel.pipeline len with
  | .done none => pure (.done (w.kernel, -ENOENT))
  | .done (some pipe) => do
    let parsed ← walkAttrs (updateAttr pipe) len 0
    pure (w.updated pipe parsed)
  | .bug => pure .bug
  | .endless => pure .endless

/-- The body of the loop of `ks_chan_update_from_nlmsg`, past the attributes that
are not looked at. -/
def chanAttr (set_attr : Option SetAttr) (_ : Unit) (head : Head) : Peek UInt8 (Except Int Unit) :=
  if 1 ≤ head.type ∧ head.type ≤ 4 then pure (.ok ())
  else
    match set_attr with
    | none => pure (.ok ())
    | some set_attr => do
      let set := set_attr head.type (head.len - 4)
      let _ ← block (head.pos + 4) set.1
      if set.2 < 0 then pure (.error set.2) else pure (.ok ())

/-- What follows the loop. -/
def setDone (w : World) : Except (Option Int) Unit → Ending (Kernel × Int)
  | .error none => .endless
  | .error (some err) => .done (w.kernel, err)
  | .ok () => .done (w.kernel, 0)

/-- ks_chan_cmd_set -/
def chanCmdSet (w : World) (len : Nat) : Peek UInt8 (Ending (Kernel × Int)) := do
  match ← getByNlid w.kernel.chan len with
  | .done none => pure (.done (w.kernel, -ENOENT))
  | .done (some chan) => do
    let parsed ← walkAttrs (chanAttr (w.setAttr chan.id)) len ()
    pure (w.setDone parsed)
  | .bug => pure .bug
  | .endless => pure .endless

/-- The handlers of the object requests. Those that list objects look at the
header only. -/
def objectCmd (w : World) (type len : Nat) : Peek UInt8 (Ending (Kernel × Int)) :=
  if type = KS_NETLINK_CHAN_SET then w.chanCmdSet len
  else if type = KS_NETLINK_PIPELINE_NEW then w.pipelineCmdNew len
  else if type = KS_NETLINK_PIPELINE_DEL then w.pipelineCmdDel len
  else if type = KS_NETLINK_PIPELINE_SET then w.pipelineCmdSet len
  else pure (.done (w.kernel, 0))

/-- The sender may not have the lock that somebody else has. -/
def barred (w : World) (nlh : Nlmsghdr) : Prop := w.netlink.lock_owner ≠ 0 ∧ w.netlink.lock_owner ≠ nlh.nlmsg_pid

instance (w : World) (nlh : Nlmsghdr) : Decidable (w.barred nlh) := inferInstanceAs (Decidable (_ ∧ _))

/-- struct nlmsghdr, behind its length. -/
def header (w : World) : Peek UInt8 Nlmsghdr := do
  let type ← u16 4
  let flags ← u16 6
  let seq ← u32 8
  let pid ← u32 12
  pure {
    nlmsg_pid := pid
    nlmsg_seq := seq
    nlmsg_type := type
    request := flags % 2 = 1
    fits := w.fits
    writes := w.writes }

/-- What the front end makes of a message whose handler returns `err`. -/
def answer (w : World) (nlh : Nlmsghdr) (err : Int) : Ending Int :=
  match w.netlink.rcvMsg w.packet { nlh with err := err } with
  | none => .bug
  | some (_, err) => .done err

/-- The handler of the message, and what follows it. -/
def handle (w : World) (len : Nat) (nlh : Nlmsghdr) : Peek UInt8 (Ending Int) :=
  if nlh.served ∧ ¬ w.barred nlh ∧ nlh.command = some .object then do
    match ← w.objectCmd nlh.nlmsg_type len with
    | .done (_, err) => pure (w.answer nlh err)
    | .bug => pure .bug
    | .endless => pure .endless
  else pure (w.answer nlh 0)

/-- ks_netlink_rcv_msg -/
def rcvMsg (w : World) : Peek UInt8 (Ending Int) := do
  let len ← u32 0
  let nlh ← w.header
  w.handle len nlh

end World

/-- A message of a packet that was looked at: the state it found, where it is, how
long it is, and how far its handler looked. -/
structure Visit where
  turn : Nat
  pos : Nat
  len : Nat
  reach : Nat
  ending : Ending Int
  deriving Repr, DecidableEq

/-- The memory from the given octet on. -/
def «from» (m : Nat → UInt8) (pos : Nat) : Nat → UInt8 := fun i => m (pos + i)

end Vstuff.Kstreamer
