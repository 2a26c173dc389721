import Vstuff.Kstreamer.Handlers

/-! The answers to the requests that list objects: an acknowledgement, a message for
each object of the registry and the end, in as many packets as it takes. -/
namespace Vstuff.Kstreamer
set_option linter.all false

/-- A __u16 in memory. -/
def le16 (n : Nat) : List UInt8 := [UInt8.ofNat n, UInt8.ofNat (n / 2 ^ 8)]

def le32 (n : Nat) : List UInt8 := le16 n ++ le16 (n / 2 ^ 16)

/-- An attribute that is put into a message; the octets up to its alignment are what
the buffer held before. -/
structure PutAttr where
  type : Nat
  data : List UInt8
  stale : Nat → UInt8 := fun _ => 0

namespace PutAttr

/-- KS_ATTR_LENGTH -/
def len (attr : PutAttr) : Nat := 4 + attr.data.length

/-- ks_netlink_put_attr -/
def octets (attr : PutAttr) : List UInt8 :=
  le16 attr.len ++ le16 attr.type ++ attr.data ++ (List.range (align attr.len - attr.len)).map attr.stale

/-- An attribute of a word. -/
def word (type value : Nat) : PutAttr where
  type := type
  data := le32 value

/-- `ks_kobj_make_path`, for the names of an object and of those above it. -/
def makePath (kobj : List (List UInt8)) : List UInt8 := kobj.foldl (fun path name => 47 :: name ++ path) []

/-- `ks_netlink_put_attr_path`; all three kinds of objects give it this type. -/
def path (kobj : List (List UInt8)) (stale : Nat → UInt8) : PutAttr where
  type := 2
  data := makePath kobj
  stale := stale

end PutAttr

/-- A message that `NLMSG_PUT` begins. -/
structure PutMessage where
  nlmsg_type : Nat
  nlmsg_flags : Nat
  nlmsg_seq : Nat
  nlmsg_pid : Nat
  attrs : List PutAttr := []

def NLM_F_MULTI : Nat := 2
def NLM_F_ACK : Nat := 4

namespace PutMessage

def payload (m : PutMessage) : List UInt8 := m.attrs.flatMap PutAttr.octets

/-- nlmsg_len -/
def len (m : PutMessage) : Nat := 16 + m.payload.length

def octets (m : PutMessage) : List UInt8 :=
  le32 m.len ++ le16 m.nlmsg_type ++ le16 m.nlmsg_flags ++ le32 m.nlmsg_seq ++ le32 m.nlmsg_pid ++ m.payload

/-- What the front end keeps of it. -/
def reply (m : PutMessage) : Reply := { pid := m.nlmsg_pid, seq := m.nlmsg_seq, kind := m.nlmsg_type }

end PutMessage

/-- An object of a registry, with what its messages tell. -/
inductive Listed where
  | node (id : Nat) (kobj : List (List UInt8)) (stale : Nat → UInt8)
  | chan (id : Nat) (kobj : List (List UInt8)) (stale : Nat → UInt8) («from» «to» : Nat) (driver : List PutAttr)
  | pipeline (id status : Nat) (kobj : List (List UInt8)) (stale : Nat → UInt8) (entries : List Nat)

namespace Listed

/-- The type of the messages that announce an object of its kind. -/
def new : Listed → Nat
  | .node .. => KS_NETLINK_NODE_NEW
  | .chan .. => KS_NETLINK_CHAN_NEW
  | .pipeline .. => KS_NETLINK_PIPELINE_NEW

/-- The attributes that `ks_node_write_to_nlmsg` and its siblings put into such a
message; the last ones of a channel are its driver's. -/
def attrs : Listed → List PutAttr
  | .node id kobj stale => [.word 1 id, .path kobj stale]
  | .chan id kobj stale «from» «to» driver => [.word 1 id, .path kobj stale, .word 3 «from», .word 4 «to»] ++ driver
  | .pipeline id status kobj stale entries =>
    [.word 1 id, .word 3 status, .path kobj stale] ++ entries.map (.word 4)

def message (object : Listed) (seq pid : Nat) : PutMessage where
  nlmsg_type := object.new
  nlmsg_flags := NLM_F_MULTI
  nlmsg_seq := seq
  nlmsg_pid := pid
  attrs := object.attrs

end Listed

/-- The buffer for replies, of a fixed size, and the packets sent before; an empty one
is not sent. -/
structure Out where
  room : Nat
  /-- alloc_skb takes an unsigned int. -/
  small : room < 2 ^ 32
  skb : List PutMessage := []
  sent : List (List PutMessage) := []

namespace Out

/-- `NLMSG_GOODSIZE`, for pages of 4096 octets. -/
theorem goodsize_small : 3776 < 2 ^ 32 := by decide

/-- All that was written. -/
def written (out : Out) : List PutMessage := out.sent.flatten ++ out.skb

/-- ks_netlink_flush -/
def flush (out : Out) : Out :=
  match out.skb with
  | [] => out
  | skb => { out with skb := [], sent := out.sent ++ [skb] }

/-- The octets of the buffer leave room for the message. -/
def fits (out : Out) (m : PutMessage) : Bool := (out.skb.flatMap PutMessage.octets).length + m.len ≤ out.room

/-- Writing a message, with the retry; if an empty buffer has no room for it, there is
no end to them. -/
def put (out : Out) (m : PutMessage) : Option Out :=
  let out := if out.fits m then out else out.flush
  if out.fits m then some { out with skb := out.skb ++ [m] } else none

/-- The loop of `ks_node_cmd_get`, `ks_chan_cmd_get` and `ks_pipeline_cmd_get`. -/
def putObjects (nlh : Nlmsghdr) : Nat → List Listed → Out → Option (Nat × Out)
  | cnt, [], out => some (cnt, out)
  | cnt, object :: objects, out => do
    let out ← out.put (object.message ((nlh.nlmsg_seq + cnt) % 2 ^ 32) nlh.nlmsg_pid)
    out.putObjects nlh (cnt + 1) objects

end Out

/-- `ks_netlink_send_ack` with NLM_F_MULTI. -/
def ackMessage (nlh : Nlmsghdr) : PutMessage where
  nlmsg_type := nlh.nlmsg_type
  nlmsg_flags := NLM_F_MULTI + NLM_F_ACK
  nlmsg_seq := nlh.nlmsg_seq
  nlmsg_pid := nlh.nlmsg_pid

/-- ks_netlink_send_done -/
def doneMessage (nlh : Nlmsghdr) (seq : Nat) : PutMessage where
  nlmsg_type := NLMSG_DONE
  nlmsg_flags := NLM_F_MULTI
  nlmsg_seq := (nlh.nlmsg_seq + seq % 2 ^ 16) % 2 ^ 32
  nlmsg_pid := nlh.nlmsg_pid

/-- `ks_node_cmd_get`, `ks_chan_cmd_get` and `ks_pipeline_cmd_get`, each on the objects
of its registry. -/
def Out.cmdGet (out : Out) (nlh : Nlmsghdr) (objects : List Listed) : Option Out := do
  let out ← out.put (ackMessage nlh)
  let (cnt, out) ← out.putObjects nlh 1 objects
  out.put (doneMessage nlh cnt)

/-- The parts of the answer from the given number on. -/
def parts (nlh : Nlmsghdr) : Nat → List Listed → List PutMessage
  | cnt, [] => [doneMessage nlh cnt]
  | cnt, object :: objects =>
    object.message ((nlh.nlmsg_seq + cnt) % 2 ^ 32) nlh.nlmsg_pid :: parts nlh (cnt + 1) objects

/-- The whole answer. -/
def getAnswer (nlh : Nlmsghdr) (objects : List Listed) : List PutMessage := ackMessage nlh :: parts nlh 1 objects

/-! ## Sizes -/

theorem PutAttr.octets_length (attr : PutAttr) : attr.octets.length = align attr.len := by
  have below := le_align attr.len
  have len : attr.len = 4 + attr.data.length := rfl
  simp only [octets, le16, List.length_append, List.length_cons, List.length_nil, List.length_map, List.length_range]
  omega

theorem PutMessage.payload_aligned (m : PutMessage) : m.payload.length % 4 = 0 := by
  unfold payload
  induction m.attrs with
  | nil => rfl
  | cons attr attrs ih =>
    rw [List.flatMap_cons, List.length_append, PutAttr.octets_length]
    unfold align
    omega

theorem PutMessage.align_len (m : PutMessage) : align m.len = m.len := by
  have aligned := m.payload_aligned
  unfold align len
  omega

theorem PutMessage.octets_length (m : PutMessage) : m.octets.length = m.len := by
  simp only [octets, le32, le16, len, List.length_append, List.length_cons, List.length_nil]

/-! ## What is written -/

namespace Out

variable {out later : Out} {nlh : Nlmsghdr} {m : PutMessage}

theorem flush_written : out.flush.written = out.written := by
  unfold flush
  split
  · rfl
  · simp [written]

theorem flush_skb : out.flush.skb = [] := by
  unfold flush
  split
  · assumption
  · rfl

theorem flush_room : out.flush.room = out.room := by
  unfold flush
  split <;> rfl

/-- A message that fits an empty buffer is written. -/
theorem put_written (small : m.len ≤ out.room) :
    ∃ later, out.put m = some later ∧ later.written = out.written ++ [m] ∧ later.room = out.room := by
  unfold put
  by_cases fits : out.fits m
  · refine ⟨{ out with skb := out.skb ++ [m] }, ?_, ?_, rfl⟩
    · simp [fits]
    · simp [written]
  · have empty : out.flush.fits m = true := by
      unfold Out.fits
      rw [flush_skb, flush_room]
      simpa using small
    refine ⟨{ out.flush with skb := out.flush.skb ++ [m] }, ?_, ?_, flush_room⟩
    · simp [fits, empty]
    · have same : out.flush.written = out.written := flush_written
      unfold written at same ⊢
      dsimp only
      rw [← List.append_assoc, same]

/-- Messages that fit an empty buffer are written one after the other. -/
theorem puts_written {ms : List PutMessage} (small : ∀ m ∈ ms, m.len ≤ out.room) :
    ∃ later, ms.foldlM put out = some later ∧ later.written = out.written ++ ms := by
  induction ms generalizing out with
  | nil => exact ⟨out, rfl, (List.append_nil _).symm⟩
  | cons m ms ih =>
    obtain ⟨first, rest⟩ := List.forall_mem_cons.mp small
    obtain ⟨mid, put, written, room⟩ := put_written first
    obtain ⟨later, puts, all⟩ : ∃ later, ms.foldlM Out.put mid = some later ∧ later.written = mid.written ++ ms :=
      ih (room.symm ▸ rest)
    refine ⟨later, ?_, ?_⟩
    · rw [List.foldlM_cons, put]
      exact puts
    · rw [all, written, List.append_assoc]
      rfl

/-- `ks_node_cmd_get` and its siblings write their answers message by message. -/
theorem cmdGet_eq (objects : List Listed) : out.cmdGet nlh objects = (getAnswer nlh objects).foldlM Out.put out := by
  have listed (cnt : Nat) (objects : List Listed) (out : Out) :
      ((out.putObjects nlh cnt objects).bind fun (last, out) => out.put (doneMessage nlh last)) =
        (parts nlh cnt objects).foldlM Out.put out := by
    induction objects generalizing cnt out with
    | nil =>
      simp only [putObjects, parts, List.foldlM_cons, List.foldlM_nil, Option.bind_some]
      exact (Option.bind_fun_some _).symm
    | cons object objects ih =>
      simp only [putObjects, parts, List.foldlM_cons, Option.bind_eq_bind, Option.bind_assoc]
      exact congrArg (Option.bind _) (funext fun out => ih (cnt + 1) out)
  unfold cmdGet getAnswer
  rw [List.foldlM_cons]
  exact congrArg (Option.bind _) (funext fun out => listed 1 objects out)

/-- If every message fits an empty buffer, the request is answered, and whatever the
packets are, they hold the answer behind what was written before. -/
theorem cmdGet_written {objects : List Listed} (small : ∀ m ∈ getAnswer nlh objects, m.len ≤ out.room) :
    ∃ later, out.cmdGet nlh objects = some later ∧ later.flush.sent.flatten = out.written ++ getAnswer nlh objects := by
  obtain ⟨later, puts, all⟩ := puts_written small
  refine ⟨later, (cmdGet_eq objects).trans puts, ?_⟩
  have flushed : later.flush.written = later.written := flush_written
  unfold Out.written at flushed
  rw [flush_skb, List.append_nil] at flushed
  rw [flushed]
  exact all

/-! ## The front end -/

/-- The state of the front end has the same packets. -/
structure Mirrors (state : NetlinkState) (out : Out) : Prop where
  skb : state.out_skb.getD [] = out.skb.map PutMessage.reply
  sent : state.unicasts.map (·.2) = out.sent.map (·.map PutMessage.reply)

theorem Mirrors.needSkb {state : NetlinkState} (mirrors : Mirrors state out) :
    Mirrors state.needSkb out ∧ state.needSkb.out_skb = some (out.skb.map PutMessage.reply) := by
  obtain ⟨skb, sent⟩ := mirrors
  unfold NetlinkState.needSkb
  cases held : state.out_skb with
  | none =>
    rw [held] at skb
    exact ⟨⟨skb, sent⟩, congrArg some skb⟩
  | some replies =>
    rw [held] at skb
    refine ⟨⟨?_, sent⟩, ?_⟩
    · change state.out_skb.getD [] = _
      rw [held]
      exact skb
    · exact held.trans (congrArg some skb)

theorem Mirrors.flush {state : NetlinkState} (mirrors : Mirrors state out) : Mirrors state.flush out.flush := by
  obtain ⟨skb, sent⟩ := mirrors
  unfold NetlinkState.flush Out.flush
  cases held : state.out_skb with
  | none =>
    rw [held] at skb
    have empty : out.skb = [] := List.map_eq_nil_iff.mp skb.symm
    rw [empty]
    refine ⟨?_, sent⟩
    rw [held, empty]
    rfl
  | some replies =>
    rw [held] at skb
    cases here : out.skb with
    | nil =>
      rw [here] at skb
      cases skb
      refine ⟨?_, sent⟩
      rw [here]
      rfl
    | cons m rest =>
      rw [here] at skb
      cases skb
      refine ⟨rfl, ?_⟩
      dsimp only
      rw [List.map_append, List.map_append, sent]
      rfl

/-- Writing a message is what the front end does, which only knows whether there was
room. -/
theorem Mirrors.put {state : NetlinkState} (mirrors : Mirrors state out) (put : out.put m = some later) :
    Mirrors (state.put nlh m.reply (out.fits m)) later := by
  have append {r : NetlinkState} {o : Out} (mirrors : Mirrors r o) (held : r.out_skb = some (o.skb.map PutMessage.reply)) :
      Mirrors
        { r with
          out_skb := r.out_skb.map (· ++ [m.reply])
          written := r.written ++ [(nlh.nlmsg_pid, m.reply)] }
        { o with skb := o.skb ++ [m] } := by
    refine ⟨?_, mirrors.sent⟩
    rw [held]
    simp
  unfold Out.put at put
  cases fits : out.fits m with
  | true =>
    simp only [fits, if_true, Option.some.injEq] at put
    subst put
    obtain ⟨needed, held⟩ := mirrors.needSkb
    exact append needed held
  | false =>
    simp only [fits, Bool.false_eq_true, if_false] at put
    split at put
    · cases put
      obtain ⟨flushed, held⟩ := mirrors.needSkb.1.flush.needSkb
      exact append flushed held
    · cases put

/-- The messages as the front end has them, each with whether there was room. -/
def responses (ms : List PutMessage) (fits : List Bool) : List Write :=
  (ms.zip fits).map fun (m, fits) => .response m.nlmsg_type m.nlmsg_seq fits

/-- A listing request of the front end, whose handler writes the answer. -/
theorem Mirrors.writes {state : NetlinkState} (mirrors : Mirrors state out) {ms : List PutMessage}
    (own : ∀ m ∈ ms, m.nlmsg_pid = nlh.nlmsg_pid) (puts : ms.foldlM Out.put out = some later) :
    ∃ fits, Mirrors ((responses ms fits).foldl (NetlinkState.write nlh) state) later := by
  induction ms generalizing state out with
  | nil =>
    cases puts
    exact ⟨[], mirrors⟩
  | cons m ms ih =>
    obtain ⟨here, rest⟩ := List.forall_mem_cons.mp own
    rw [List.foldlM_cons] at puts
    obtain ⟨mid, put, puts⟩ := Option.bind_eq_some_iff.mp puts
    obtain ⟨fits, mirrored⟩ := ih (mirrors.put put) rest puts
    refine ⟨out.fits m :: fits, ?_⟩
    have reply : m.reply = { pid := nlh.nlmsg_pid, seq := m.nlmsg_seq, kind := m.nlmsg_type } := by
      unfold PutMessage.reply
      rw [here]
    rw [reply] at mirrored
    exact mirrored

theorem parts_pid {objects : List Listed} {cnt : Nat} : ∀ m ∈ parts nlh cnt objects, m.nlmsg_pid = nlh.nlmsg_pid := by
  induction objects generalizing cnt with
  | nil =>
    intro m there
    rw [List.mem_singleton.mp there]
    rfl
  | cons object objects ih =>
    intro m there
    obtain rfl | there := List.mem_cons.mp there
    · rfl
    · exact ih m there

/-- The handler of such a request, as the front end knows it. -/
theorem cmdGet_mirrors {state : NetlinkState} {objects : List Listed} (mirrors : Mirrors state out)
    (gets : out.cmdGet nlh objects = some later) :
    ∃ fits after, state.handler { nlh with writes := responses (getAnswer nlh objects) fits, err := 0 } .object =
      some (after, 0) ∧ Mirrors after later := by
  have own : ∀ m ∈ getAnswer nlh objects, m.nlmsg_pid = nlh.nlmsg_pid := by
    intro m there
    obtain rfl | there := List.mem_cons.mp there
    · rfl
    · exact parts_pid m there
  obtain ⟨fits, mirrored⟩ := mirrors.writes own ((cmdGet_eq objects).symm.trans gets)
  refine ⟨fits, _, rfl, ?_⟩
  have same (writes : List Write) : NetlinkState.write { nlh with writes := writes, err := 0 } = NetlinkState.write nlh := by
    funext state write
    cases write <;> rfl
  rw [same]
  exact mirrored

end Out
end Vstuff.Kstreamer
