import Vstuff.Kstreamer.Answer

/-! The loops that begin anew with another buffer where the message of an object has found no room
(`pipeline.c` and `channel.c`). Buffers can always be allocated. -/
namespace Vstuff.Kstreamer
set_option linter.all false

/-! ## Loops that begin anew -/

section
variable {σ ι : Type} {another : σ → σ}

/-- Writes, with another buffer each time it fails, at most so many times. -/
def retry (write : σ → Option σ) (another : σ → σ) : Nat → σ → Option σ
  | 0, _ => none
  | fuel + 1, s =>
    match write s with
    | some t => some t
    | none => retry write another fuel (another s)

/-- Of the states that the loop can come to, another buffer has room for what is written, or no buffer
has. -/
structure Decided (inv : σ → Prop) (write : σ → Option σ) (another : σ → σ) (can : Prop) : Prop where
  wrote : ∀ s t, inv s → write s = some t → inv t
  renew : ∀ s, inv s → inv (another s)
  renewed : can → ∀ s, inv s → ∃ t, write (another s) = some t
  never : ¬can → ∀ s, inv s → write s = none

namespace Decided
variable {inv : σ → Prop} {write : σ → Option σ} {can : Prop} {s : σ}

theorem retry_some (decided : Decided inv write another can) (possible : can) (fuel : Nat) (held : inv s) :
    ∃ t, retry write another (fuel + 2) s = some t ∧ inv t := by
  rw [retry]
  cases first : write s with
  | some t => exact ⟨t, rfl, decided.wrote s t held first⟩
  | none =>
    have held' := decided.renew s held
    obtain ⟨t, second⟩ := decided.renewed possible s held
    refine ⟨t, ?_, decided.wrote _ t held' second⟩
    dsimp only
    rw [retry, second]

theorem retry_none (decided : Decided inv write another can) (impossible : ¬can) (fuel : Nat) (held : inv s) :
    retry write another fuel s = none := by
  induction fuel generalizing s with
  | zero => rfl
  | succ fuel ih =>
    rw [retry, decided.never impossible s held]
    exact ih (decided.renew s held)

/-- The loop ends, with the first other buffer if not before, or never. -/
theorem ends_iff (decided : Decided inv write another can) (held : inv s) : (∃ fuel t, retry write another fuel s = some t) ↔ can := by
  constructor
  · rintro ⟨fuel, t, ended⟩
    refine Classical.not_not.mp fun impossible => ?_
    rw [decided.retry_none impossible fuel held] at ended
    cases ended
  · intro possible
    obtain ⟨t, ended, -⟩ := decided.retry_some possible 0 held
    exact ⟨2, t, ended⟩

end Decided

/-- Where it ends, what each attempt keeps is kept. -/
theorem retry_keeps {inv : σ → Prop} {write : σ → Option σ} (wrote : ∀ s t, inv s → write s = some t → inv t)
    (renewed : ∀ s, inv s → write s = none → inv (another s)) {fuel : Nat} :
    ∀ {s t}, inv s → retry write another fuel s = some t → inv t := by
  induction fuel with
  | zero => exact fun _ ended => by cases ended
  | succ fuel ih =>
    intro s t held ended
    rw [retry] at ended
    cases first : write s with
    | some u =>
      rw [first] at ended
      cases ended
      exact wrote s t held first
    | none =>
      rw [first] at ended
      exact ih (renewed s held first) ended

/-- Such loops, one after the other. -/
def retryEach (write : ι → σ → Option σ) (another : σ → σ) (fuel : Nat) (l : List ι) (s : σ) : Option σ :=
  l.foldlM (fun s i => retry (write i) another fuel s) s

theorem retryEach_ends_iff {inv : σ → Prop} {write : ι → σ → Option σ} {can : ι → Prop}
    (decided : ∀ i, Decided inv (write i) another (can i)) (l : List ι) :
    ∀ {s}, inv s → ((∃ fuel t, retryEach write another fuel l s = some t) ↔ ∀ i ∈ l, can i) := by
  have enough (possible : ∀ i ∈ l, can i) : ∀ {s}, inv s → ∃ t, retryEach write another 2 l s = some t := by
    induction l with
    | nil => exact fun {s} _ => ⟨s, rfl⟩
    | cons i l ih =>
      intro s held
      obtain ⟨first, rest⟩ := List.forall_mem_cons.mp possible
      obtain ⟨mid, ended, held'⟩ := (decided i).retry_some first 0 held
      obtain ⟨t, others⟩ := ih rest held'
      refine ⟨t, ?_⟩
      rw [retryEach, List.foldlM_cons, ended]
      exact others
  refine fun {s} held => ⟨?_, fun possible => ⟨2, enough possible held⟩⟩
  rintro ⟨fuel, t, ended⟩
  clear enough
  induction l generalizing s with
  | nil => exact fun i member => nomatch member
  | cons i l ih =>
    rw [retryEach, List.foldlM_cons] at ended
    obtain ⟨mid, first, rest⟩ := Option.bind_eq_some_iff.mp ended
    have held' : inv mid := retry_keeps (decided i).wrote (fun s held _ => (decided i).renew s held) held first
    exact List.forall_mem_cons.mpr ⟨((decided i).ends_iff held).mp ⟨fuel, mid, first⟩, ih held' rest⟩

/-- Where they end, what is kept of the elements so far is kept of all. -/
theorem retryEach_keeps {write : ι → σ → Option σ} {ok : ι → Prop} {inv : List ι → σ → Prop} {fuel : Nat}
    (wrote : ∀ i, ok i → ∀ before s t, inv before s → write i s = some t → inv (before ++ [i]) t)
    (renewed : ∀ i, ok i → ∀ before s, inv before s → write i s = none → inv before (another s)) {l : List ι} (all_ok : ∀ i ∈ l, ok i) :
    ∀ {before s t}, inv before s → retryEach write another fuel l s = some t → inv (before ++ l) t := by
  induction l with
  | nil =>
    intro before s t held ended
    cases ended
    exact (List.append_nil before).symm ▸ held
  | cons i l ih =>
    intro before s t held ended
    obtain ⟨first_ok, rest_ok⟩ := List.forall_mem_cons.mp all_ok
    rw [retryEach, List.foldlM_cons] at ended
    obtain ⟨mid, first, rest⟩ := Option.bind_eq_some_iff.mp ended
    have held' : inv (before ++ [i]) mid := by
      -- as long as the element is not written, the same elements have been
      have either : ∀ fuel s, inv before s → retry (write i) another fuel s = some mid → inv (before ++ [i]) mid := by
        intro fuel
        induction fuel with
        | zero => exact fun _ _ none => by cases none
        | succ fuel again =>
          intro s held ended
          rw [retry] at ended
          cases once : write i s with
          | some u =>
            rw [once] at ended
            cases ended
            exact wrote i first_ok before s mid held once
          | none =>
            rw [once] at ended
            exact again _ (renewed i first_ok before s held once) ended
      exact either fuel s held first
    have later := ih rest_ok held' rest
    rwa [List.append_assoc] at later

end

/-! ## The module -/

/-- What is told of an object. For an attribute of its driver, `get_attr` may answer with an error. -/
inductive Reported where
  | pipeline (id status : Nat) (kobj : List (List UInt8)) (stale : Nat → UInt8) (entries : List Nat)
  | chan (id : Nat) (kobj : List (List UInt8)) (stale : Nat → UInt8) («from» «to» : Nat) (driver : List (Option PutAttr))

/-- The attributes that `ks_pipeline_write_to_nlmsg` and `ks_chan_write_to_nlmsg` put, one after the
other; that an object is deleted is told with its number alone. -/
def Reported.attrs (message_type : Nat) : Reported → List (Option PutAttr)
  | .pipeline id status kobj stale entries =>
    some (.word 1 id) :: if message_type = KS_NETLINK_PIPELINE_DEL then []
      else [some (.word 3 status), some (.path kobj stale)] ++ entries.map (some <| .word 4 ·)
  | .chan id kobj stale «from» «to» driver =>
    some (.word 1 id) :: if message_type = KS_NETLINK_CHAN_DEL then []
      else [some (.path kobj stale), some (.word 3 «from»), some (.word 4 «to»)] ++ driver

/-- Puts attributes behind so many octets, as long as there is room. -/
def putAttrs (room : Nat) : Nat → List (Option PutAttr) → Option (List PutAttr)
  | _, [] => some []
  | _, none :: _ => none
  | used, some attr :: rest =>
    if room - used < align attr.len then none else (putAttrs room (used + align attr.len) rest).map (attr :: ·)

/-- The octets of the messages in a buffer. -/
def usedBy (skb : List PutMessage) : Nat := (skb.flatMap PutMessage.octets).length

/-- `ks_pipeline_write_to_nlmsg` and `ks_chan_write_to_nlmsg`; where there is no room the buffer is
trimmed to what it was. -/
def writeToNlmsg (room : Nat) (skb : List PutMessage) (nlh : PutMessage) (attrs : List (Option PutAttr)) : Option (List PutMessage) :=
  if room - usedBy skb < 16 then none
  else (putAttrs room (usedBy skb + 16) attrs).map fun attrs => skb ++ [{ nlh with attrs }]

/-- The buffer for notices, those that are full, and the number of the next one. -/
structure Mcast where
  mcast_skb : List PutMessage
  mcast_queue : List (List PutMessage)
  mcast_seqnum : Nat

/-- A notice; either attempt takes a number. -/
def Mcast.write (room type : Nat) (attrs : List (Option PutAttr)) (state : Mcast) : Option Mcast :=
  (writeToNlmsg room state.mcast_skb { nlmsg_type := type, nlmsg_flags := 0, nlmsg_seq := state.mcast_seqnum, nlmsg_pid := 0 } attrs).map
    fun mcast_skb => { state with mcast_skb, mcast_seqnum := state.mcast_seqnum + 1 }

/-- `ks_netlink_mcast_need_another_skb` -/
def Mcast.needAnotherSkb (state : Mcast) : Mcast where
  mcast_skb := []
  mcast_queue := state.mcast_queue ++ [state.mcast_skb]
  mcast_seqnum := state.mcast_seqnum + 1

/-- `ks_pipeline_mcast_send` and `ks_chan_mcast_send` -/
def mcastSend (room : Nat) (object : Reported) (message_type fuel : Nat) (state : Mcast) : Option Mcast :=
  retry (Mcast.write room message_type (object.attrs message_type)) Mcast.needAnotherSkb fuel state

/-- A message of an answer. -/
def Out.write (nlh : PutMessage) (attrs : List (Option PutAttr)) (out : Out) : Option Out :=
  (writeToNlmsg out.room out.skb nlh attrs).map fun skb => { out with skb }

/-- `ks_pipeline_netlink_respond` and `ks_chan_netlink_respond` -/
def netlinkRespond (object : Reported) (req_nlh : Nlmsghdr) (message_type fuel : Nat) (out : Out) : Option Out :=
  retry (Out.write { nlmsg_type := message_type, nlmsg_flags := NLM_F_ACK, nlmsg_seq := req_nlh.nlmsg_seq, nlmsg_pid := req_nlh.nlmsg_pid }
    (object.attrs message_type)) Out.flush fuel out

/-- The header of the message for the pipeline with a number. -/
def pipelineHeader (nlh : Nlmsghdr) (cnt : Nat) : PutMessage where
  nlmsg_type := KS_NETLINK_PIPELINE_NEW
  nlmsg_flags := NLM_F_MULTI
  nlmsg_seq := (nlh.nlmsg_seq + cnt) % 2 ^ 32
  nlmsg_pid := nlh.nlmsg_pid

/-- `ks_pipeline_cmd_get`, between the acknowledgement and the end. -/
def pipelineCmdGet (pipelines : List Reported) (nlh : Nlmsghdr) (fuel : Nat) (out : Out) : Option Out :=
  retryEach (fun p => Out.write (pipelineHeader nlh p.2) (p.1.attrs KS_NETLINK_PIPELINE_NEW)) Out.flush fuel (pipelines.zipIdx 1) out

/-- How many octets the attributes take. -/
def attrsSpace (attrs : List (Option PutAttr)) : Nat := (attrs.map fun attr => attr.elim 0 fun attr => align attr.len).sum

/-- No driver has answered with an error, and the message is no longer than a buffer. -/
def Writable (room : Nat) (attrs : List (Option PutAttr)) : Prop := (∀ attr ∈ attrs, attr.isSome) ∧ 16 + attrsSpace attrs ≤ room

instance (room : Nat) (attrs : List (Option PutAttr)) : Decidable (Writable room attrs) := inferInstanceAs (Decidable (_ ∧ _))

/-! ## Room for a message -/

variable {room used : Nat} {attrs : List (Option PutAttr)}

theorem putAttrs_isSome_iff (within : used ≤ room) (attrs : List (Option PutAttr)) :
    (putAttrs room used attrs).isSome ↔ (∀ attr ∈ attrs, attr.isSome) ∧ used + attrsSpace attrs ≤ room := by
  induction attrs generalizing used with
  | nil => simpa [putAttrs, attrsSpace] using within
  | cons attr rest ih =>
    cases attr with
    | none => simp [putAttrs]
    | some attr =>
      have space : attrsSpace (some attr :: rest) = align attr.len + attrsSpace rest := by simp [attrsSpace]
      rw [putAttrs, space]
      by_cases full : room - used < align attr.len
      · rw [if_pos full]
        refine iff_of_false (by simp) fun fits => ?_
        omega
      · rw [if_neg full, Option.isSome_map, ih (by omega)]
        simp only [List.forall_mem_cons, Option.isSome_some, true_and, Nat.add_assoc]

/-- A message is written if it has room behind the others. -/
theorem writeToNlmsg_isSome_iff (skb : List PutMessage) (nlh : PutMessage) (attrs : List (Option PutAttr)) :
    (writeToNlmsg room skb nlh attrs).isSome ↔ (∀ attr ∈ attrs, attr.isSome) ∧ usedBy skb + (16 + attrsSpace attrs) ≤ room := by
  unfold writeToNlmsg
  by_cases full : room - usedBy skb < 16
  · rw [if_pos full]
    refine iff_of_false (by simp) fun fits => ?_
    omega
  · rw [if_neg full, Option.isSome_map, putAttrs_isSome_iff (by omega), Nat.add_assoc]

/-- It is the message of the object, behind the others. -/
theorem writeToNlmsg_eq {skb after : List PutMessage} {nlh : PutMessage} (wrote : writeToNlmsg room skb nlh attrs = some after) :
    after = skb ++ [{ nlh with attrs := attrs.filterMap id }] := by
  have put_eq : ∀ (attrs : List (Option PutAttr)) (used : Nat) (put : List PutAttr), putAttrs room used attrs = some put → put = attrs.filterMap id := by
    intro attrs
    induction attrs with
    | nil => exact fun _ _ is => (Option.some.inj is).symm
    | cons attr rest ih =>
      intro used put is
      cases attr with
      | none => cases is
      | some attr =>
        rw [putAttrs] at is
        split at is
        · cases is
        · obtain ⟨others, rest_is, rfl⟩ := Option.map_eq_some_iff.mp is
          rw [ih _ _ rest_is]
          rfl
  unfold writeToNlmsg at wrote
  split at wrote
  · cases wrote
  · obtain ⟨put, is, rfl⟩ := Option.map_eq_some_iff.mp wrote
    rw [put_eq _ _ _ is]

theorem mcast_decided (room type : Nat) (attrs : List (Option PutAttr)) :
    Decided (fun _ => True) (Mcast.write room type attrs) Mcast.needAnotherSkb (Writable room attrs) where
  wrote _ _ _ _ := trivial
  renew _ _ := trivial
  renewed writable s _ := by
    refine Option.isSome_iff_exists.mp ?_
    rw [Mcast.write, Option.isSome_map, writeToNlmsg_isSome_iff]
    exact ⟨writable.1, by rw [show usedBy s.needAnotherSkb.mcast_skb = 0 from rfl, Nat.zero_add]; exact writable.2⟩
  never too_long s _ := by
    refine Option.not_isSome_iff_eq_none.mp fun wrote => too_long ?_
    rw [Mcast.write, Option.isSome_map, writeToNlmsg_isSome_iff] at wrote
    exact ⟨wrote.1, by omega⟩

theorem out_decided (room : Nat) (nlh : PutMessage) (attrs : List (Option PutAttr)) :
    Decided (fun out => out.room = room) (Out.write nlh attrs) Out.flush (Writable room attrs) where
  wrote s t same wrote := by
    obtain ⟨skb, -, rfl⟩ := Option.map_eq_some_iff.mp wrote
    exact same
  renew s same := Out.flush_room.trans same
  renewed writable s same := by
    refine Option.isSome_iff_exists.mp ?_
    rw [Out.write, Option.isSome_map, writeToNlmsg_isSome_iff, Out.flush_room, Out.flush_skb, same]
    exact ⟨writable.1, by rw [show usedBy [] = 0 from rfl, Nat.zero_add]; exact writable.2⟩
  never too_long s same := by
    refine Option.not_isSome_iff_eq_none.mp fun wrote => too_long ?_
    rw [Out.write, Option.isSome_map, writeToNlmsg_isSome_iff, same] at wrote
    exact ⟨wrote.1, by omega⟩

theorem attrsSpace_some (attrs : List PutAttr) : attrsSpace (attrs.map some) = (attrs.flatMap PutAttr.octets).length := by
  induction attrs with
  | nil => rfl
  | cons attr rest ih =>
    rw [List.flatMap_cons, List.length_append, ← ih, PutAttr.octets_length]
    simp [attrsSpace]

theorem Out.write_eq (nlh : PutMessage) (attrs : List PutAttr) (out : Out) : Out.write nlh (attrs.map some) out =
    if out.fits { nlh with attrs } then some { out with skb := out.skb ++ [{ nlh with attrs }] } else none := by
  have all_some : ∀ attr ∈ attrs.map some, attr.isSome := by simp
  have room_iff : (writeToNlmsg out.room out.skb nlh (attrs.map some)).isSome ↔ out.fits { nlh with attrs } := by
    rw [writeToNlmsg_isSome_iff, attrsSpace_some, and_iff_right all_some, Out.fits, decide_eq_true_iff]
    rfl
  unfold Out.write
  split
  · next fits =>
    obtain ⟨skb, wrote⟩ := Option.isSome_iff_exists.mp (room_iff.mpr fits)
    rw [wrote, writeToNlmsg_eq wrote, List.filterMap_map, Function.comp_def]
    simp
  · next full => rw [Option.not_isSome_iff_eq_none.mp (mt room_iff.mp full), Option.map_none]

/-- What the answers are made of elsewhere is what such a loop comes to. -/
theorem retry_write_eq (nlh : PutMessage) (attrs : List PutAttr) (fuel : Nat) (out : Out) (writable : Writable out.room (attrs.map some)) :
    retry (Out.write nlh (attrs.map some)) Out.flush (fuel + 2) out = out.put { nlh with attrs } := by
  obtain ⟨t, second⟩ := (out_decided out.room nlh (attrs.map some)).renewed writable out rfl
  rw [retry, retry, second, Out.write_eq, Out.put]
  rw [Out.write_eq] at second
  by_cases fits : out.fits { nlh with attrs } = true
  · simp [fits]
  · simp only [fits, Bool.false_eq_true, if_false]
    exact second.symm

theorem mcastSend_ends_iff (room : Nat) (object : Reported) (message_type : Nat) (state : Mcast) :
    (∃ fuel later, mcastSend room object message_type fuel state = some later) ↔ Writable room (object.attrs message_type) :=
  (mcast_decided room message_type (object.attrs message_type)).ends_iff trivial

theorem netlinkRespond_ends_iff (object : Reported) (req_nlh : Nlmsghdr) (message_type : Nat) (out : Out) :
    (∃ fuel later, netlinkRespond object req_nlh message_type fuel out = some later) ↔ Writable out.room (object.attrs message_type) :=
  (out_decided out.room _ (object.attrs message_type)).ends_iff rfl

theorem pipelineCmdGet_ends_iff (pipelines : List Reported) (nlh : Nlmsghdr) (out : Out) :
    (∃ fuel later, pipelineCmdGet pipelines nlh fuel out = some later) ↔
      ∀ pipeline ∈ pipelines, Writable out.room (pipeline.attrs KS_NETLINK_PIPELINE_NEW) := by
  have each := retryEach_ends_iff (fun p => out_decided out.room (pipelineHeader nlh p.2) (p.1.attrs KS_NETLINK_PIPELINE_NEW))
    (pipelines.zipIdx 1) (s := out) rfl
  have all := List.zipIdx_map_fst 1 pipelines
  refine each.trans ⟨fun writable pipeline member => ?_, fun writable p member => writable p.1 (all ▸ List.mem_map_of_mem member)⟩
  rw [← all] at member
  obtain ⟨p, there, rfl⟩ := List.mem_map.mp member
  exact writable p there

end Vstuff.Kstreamer
