import Vstuff.Lapd.TeiRequest

/-! The frames of TEI management on their way from one side to the other. What the
other side reads in a frame is what it was made of, and a check of TEIs is answered
with those the device has. -/
namespace Vstuff.Lapd.Utme
open Transition
open Ntme (Tei Ri MessageType octet messageType tmSendMultiai aiOctets aiValues aiValue aiExt listed allTeis)
set_option linter.all false

/-- What `lapd_ph_data_request` gives to the device: two octets are left for the CRC. -/
def phData (skb : Octets) : Octets := skb ++ [0, 0]

section Frames
variable (role : IntfRole) (type : MessageType) (ri : Ri) {ais : List Tei} {tei : Tei}

theorem aiValue_ofNat (tei : Tei) (ext : Nat) (bit : ext < 2) : aiValue (UInt8.ofNat (2 * tei.val + ext)) = tei := by
  have := tei.isLt
  unfold aiValue
  apply Fin.ext
  rw [UInt8.toNat_ofNat']
  simp only [Fin.ofNat]
  omega

theorem aiExt_ofNat (tei : Tei) (ext : Nat) (bit : ext < 2) : aiExt (UInt8.ofNat (2 * tei.val + ext)) = (ext == 1) := by
  have := tei.isLt
  have parity : (UInt8.ofNat (2 * tei.val + ext)).toNat % 2 = ext := by
    rw [UInt8.toNat_ofNat']
    omega
  rw [aiExt, parity]

/-- The Ai octets say themselves where they end. -/
theorem aiValues_aiOctets (ais : List Tei) (some : ais ≠ []) (rest : Octets) : aiValues (aiOctets ais ++ rest) = ais := by
  induction ais with
  | nil => exact absurd rfl some
  | cons tei more ih =>
    cases more with
    | nil =>
      have value := aiValue_ofNat tei 1 (by decide)
      have last := aiExt_ofNat tei 1 (by decide)
      simp only [aiOctets, List.cons_append, aiValues, value, last]
      rfl
    | cons next more =>
      have value := aiValue_ofNat tei 0 (by decide)
      have goesOn := aiExt_ofNat tei 0 (by decide)
      rw [Nat.add_zero] at value goesOn
      have later := ih (List.cons_ne_nil next more)
      simp only [aiOctets, List.cons_append, aiValues, value, goesOn]
      rw [later]
      rfl

theorem accepts_phData (some : ais ≠ []) : accepts (phData (tmSendMultiai role type ri ais)) := by
  have octets : 1 ≤ (aiOctets ais).length := by
    match ais, some with
    | [_], _ | _ :: _ :: _, _ => simp [aiOctets]
  have length : Ntme.frameSize + 2 ≤ (phData (tmSendMultiai role type ri ais)).length := by
    simp only [phData, tmSendMultiai, Ntme.frameSize, List.length_append, List.length_cons, List.length_nil]
    omega
  have tei : octet (phData (tmSendMultiai role type ri ais)) 1 = 0xff := rfl
  have control : octet (phData (tmSendMultiai role type ri ais)) 2 = 0x03 := rfl
  have sapi : (octet (phData (tmSendMultiai role type ri ais)) 0).toNat % 2 = 0 ∧
      (octet (phData (tmSendMultiai role type ri ais)) 0).toNat / 4 = 0x3f := by
    have first : octet (phData (tmSendMultiai role type ri ais)) 0 = if makeCr role .command then 0xfe else 0xfc := rfl
    rw [first]
    cases role <;> decide
  exact ⟨⟨sapi.1, by rw [tei]; rfl, sapi.2, by omega, by rw [control]; rfl, by rw [control]; rfl, rfl⟩, length⟩

theorem messageType_phData : messageType (phData (tmSendMultiai role type ri ais)) = some type := by
  cases type <;> rfl

theorem ri_phData : Ntme.ri (phData (tmSendMultiai role type ri ais)) = ri := rfl

theorem listed_phData (some : ais ≠ []) : listed (phData (tmSendMultiai role type ri ais)) = ais := by
  exact aiValues_aiOctets ais some [0, 0]

theorem ai_phData : Ntme.ai (phData (tmSendMultiai role type ri [tei])) = tei :=
  aiValue_ofNat tei 1 (by decide)

end Frames

/-! ## Checks -/

/-- The TEIs of the device, as the entities hold them. -/
def held (dev : Nat) (hash : List Entity) : List Nat := (hash.filter (holds dev)).map (·.tei)

/-- A frame the network accepts as the response with these TEIs. -/
structure Response (skb : Octets) (teis : List Nat) : Prop where
  accepted : Ntme.accepts skb
  type : messageType skb = some .chkRes
  listed : (listed skb).map (·.val) = teis

theorem response_phData (ri : Ri) (teis : List Nat) (some : teis ≠ []) (range : ∀ tei ∈ teis, tei < 128) :
    Response (phData (tmSendMultiai .te .chkRes ri (teis.map aiOf))) teis := by
  have nonempty : teis.map aiOf ≠ [] := by simpa using some
  refine ⟨(accepts_phData .te .chkRes ri nonempty).1, messageType_phData .te .chkRes ri, ?_⟩
  rw [listed_phData .te .chkRes ri nonempty, List.map_map]
  calc teis.map ((·.val) ∘ aiOf) = teis.map id := List.map_congr_left fun tei member => Nat.mod_eq_of_lt (range tei member)
    _ = teis := List.map_id teis

section Checks
variable {s : Users} {dev : Nat} {skb : Octets}

theorem holds_assigned {tme : Entity} (has : holds dev tme = true) : tme.hashed = true ∧ tme.state = .assigned := by
  simp only [holds, Bool.and_eq_true, bne_iff_ne] at has
  refine ⟨has.1.1, ?_⟩
  cases state : tme.state with
  | unassigned => exact absurd state has.2
  | assigned => rfl

theorem held_range (all : AllKept s) : ∀ tei ∈ held dev s.hash, tei < 128 := by
  intro tei member
  obtain ⟨tme, there, rfl⟩ := List.mem_map.mp member
  obtain ⟨there, has⟩ := List.mem_filter.mp there
  obtain ⟨hashed, assigned⟩ := holds_assigned has
  exact ((all tme there).told hashed assigned).2

/-- A check of all TEIs is answered with one frame that carries those of the device in
order, and with none if it has none; with more than 128 the array is overrun. A check of
one TEI is answered once for each entity that has it. -/
theorem check_is_answered_in_full (dev : Nat) (random : Nat → Ri) {es : List Event} (run : Run step Any {} es s) (accepted : accepts skb)
    (type : messageType skb = some .chkReq) :
    (Ntme.ai skb = allTeis →
      ((∃ t, step s (.frame dev skb random) = some t) ↔ (held dev s.hash).length ≤ maxTeis) ∧
      ∀ t, step s (.frame dev skb random) = some t → t.hash = s.hash ∧
        (held dev s.hash = [] ∧ t.out = [] ∨ ∃ frame, t.out = [frame] ∧ Response (phData frame) (held dev s.hash))) ∧
    (Ntme.ai skb ≠ allTeis →
      ∃ t, step s (.frame dev skb random) = some t ∧ t.hash = s.hash ∧
        t.out.length = (held dev s.hash).count (Ntme.ai skb).val ∧
        ∀ frame ∈ t.out, Response (phData frame) [(Ntme.ai skb).val]) := by
  have all : AllKept s := run.invariant AllKept (fun held _ took => allKept_step held took) fun tme member => by cases member
  have reply : step s (.frame dev skb random) =
      (handleTeiCheckRequest dev skb random s.hash).map fun out => { s with out := out } := by
    simp only [step, handleFrame, if_pos accepted, type]
  rw [reply]
  constructor
  · intro every
    have same : ((s.hash.filter (holds dev)).map fun tme => aiOf tme.tei) = (held dev s.hash).map aiOf := by
      simp [held]
    unfold handleTeiCheckRequest
    rw [if_pos every, same]
    simp only [List.length_map]
    split
    · rename_i fits
      refine ⟨⟨fun _ => fits, fun _ => ⟨_, rfl⟩⟩, ?_⟩
      intro t took
      cases took
      refine ⟨rfl, ?_⟩
      by_cases none : held dev s.hash = []
      · exact .inl ⟨none, by simp [none]⟩
      · exact .inr ⟨_, by simp [none], response_phData (random 0) _ none (held_range all)⟩
    · rename_i large
      refine ⟨⟨fun took => ?_, fun fits => absurd fits large⟩, fun t took => (by cases took)⟩
      obtain ⟨t, took⟩ := took
      cases took
  · intro one
    unfold handleTeiCheckRequest
    rw [if_neg one]
    refine ⟨_, rfl, rfl, ?_, ?_⟩
    · have same : (s.hash.filter fun tme => holds dev tme && (Ntme.ai skb).val == tme.tei) =
          (s.hash.filter (holds dev)).filter fun tme => tme.tei == (Ntme.ai skb).val := by
        rw [List.filter_filter]
        apply List.filter_congr
        intro tme _
        rw [Bool.and_comm, Bool.beq_comm]
      simp only [List.length_map, List.length_zipIdx, same, held, List.count_eq_length_filter, List.filter_map]
      rfl
    · intro frame member
      obtain ⟨⟨value, i⟩, there, rfl⟩ := List.mem_map.mp member
      obtain ⟨tme, holder, rfl⟩ := List.mem_map.mp (List.fst_mem_of_mem_zipIdx there)
      obtain ⟨-, has⟩ := List.mem_filter.mp holder
      simp only [Bool.and_eq_true, beq_iff_eq] at has
      rw [← has.2]
      refine response_phData (random i) [(Ntme.ai skb).val] (List.cons_ne_nil _ _) ?_
      intro tei only
      rw [List.mem_singleton.mp only]
      exact (Ntme.ai skb).isLt

end Checks

/-- Two sockets with TEIs of their own, one of them on another device; both devices are
asked for all TEIs. -/
theorem static_teis_are_listed :
    ∃ s t, Run step Any {} [.bind 0 5, .bind 1 7] s ∧
      step s (.frame 0 (phData (tmSendMultiai .nt .chkReq (0, 0) [allTeis])) fun _ => (9, 9)) = some t ∧
      ∃ frame, t.out = [frame] ∧ Response (phData frame) [5] := by
  have run := follow_run step Any {} [.bind 0 5, .bind 1 7] rfl
  obtain ⟨answered, exact⟩ := (check_is_answered_in_full 0 (fun _ => (9, 9)) run
    (accepts_phData .nt .chkReq (0, 0) (List.cons_ne_nil allTeis [])) rfl).1 rfl
  obtain ⟨t, took⟩ := answered.mpr (by decide)
  obtain ⟨-, ⟨none, -⟩ | single⟩ := exact t took
  · exact absurd none (by decide)
  · exact ⟨_, t, run, took, single⟩

end Vstuff.Lapd.Utme
