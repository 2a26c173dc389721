import Vstuff.Lapd.TeiUnique

/-! The Ai octets of a check response, from the frame the terminal builds to the
array `lapd_ntme_handle_tei_check_response` fills. The loop asks neither for the
end of the frame nor for the size of the array; what ends it is the control field
of the header, which it reads as an Ai octet. -/
namespace Vstuff.Lapd.Ntme
set_option linter.all false

/-- `ARRAY_SIZE(teis)`. -/
def maxTeis : Nat := 128

/-- The loop of `lapd_ntme_handle_tei_check_response`, on what is left of the frame
when so many values are stored: nothing if it reads behind the frame or stores
behind the array. -/
def extractFrom : Octets → Nat → Option (List Tei)
  | [], _ => none
  | o :: rest, nteis =>
    if nteis < maxTeis then
      if aiExt o then some [aiValue o] else (extractFrom rest (nteis + 1)).map (aiValue o :: ·)
    else none

/-- The loop starts at `skb->data`. -/
def extract (skb : Octets) : Option (List Tei) := extractFrom skb 0

/-- The checks of `lapd_ntme_handle_frame`, without those made before it. -/
def passes (skb : Octets) : Prop :=
  frameSize ≤ skb.length ∧ (octet skb 2).toNat % 4 = 3 ∧ (octet skb 2) &&& 0xEC = 0 ∧ octet skb 3 = 0x0f

section Extraction
variable {skb : Octets}

/-- The control field of an unnumbered frame ends the loop. -/
theorem extract_passes (passed : passes skb) :
    extract skb = some (aiValues skb) ∧ (aiValues skb).length ≤ 3 := by
  obtain ⟨size, frameType, _⟩ := passed
  match skb, size with
  | first :: second :: control :: rest, _ =>
    have last : aiExt control = true := by
      simp only [octet, List.getD_cons_zero, List.getD_cons_succ] at frameType
      unfold aiExt
      rw [beq_iff_eq]
      omega
    simp only [extract, extractFrom, aiValues, last, maxTeis]
    by_cases atFirst : aiExt first = true
    · simp [atFirst]
    · by_cases atSecond : aiExt second = true
      · simp [atFirst, atSecond]
      · simp [atFirst, atSecond]

/-- What `handleTeiCheckResponse` credits for a frame it is given is what the loop
stores. -/
theorem extract_accepts (accepted : accepts skb) : extract skb = some (aiValues skb) := by
  obtain ⟨_, _, _, size, frameType, function, entity⟩ := accepted
  exact (extract_passes ⟨size, frameType, function, entity⟩).1

end Extraction

/-- The address of a frame built in this role, read as Ai octets. -/
def addressValues (role : IntfRole) : List Tei := [if makeCr role .command then 127 else 126, 127]

/-- A frame that is built is one that passes, if it has an Ai octet at all. -/
theorem tmSendMultiai_passes (role : IntfRole) (type : MessageType) (ri : Ri) (ais : List Tei) (some : ais ≠ []) :
    passes (tmSendMultiai role type ri ais) := by
  have octets : 1 ≤ (aiOctets ais).length := by
    match ais with
    | [_] | _ :: _ :: _ => simp [aiOctets]
  have control : octet (tmSendMultiai role type ri ais) 2 = 0x03 := rfl
  refine ⟨?_, rfl, by rw [control]; decide, rfl⟩
  simp only [tmSendMultiai, frameSize, List.length_append, List.length_cons, List.length_nil]
  omega

theorem aiValues_tmSendMultiai (role : IntfRole) (type : MessageType) (ri : Ri) (ais : List Tei) :
    aiValues (tmSendMultiai role type ri ais) = addressValues role := by
  cases role <;> rfl

/-- A check response is read back when its Ai values happen to be those of its own
address; and no frame that passes leads the loop out of the frame or the array. -/
theorem check_response_read_back_iff (role : IntfRole) (ri : Ri) :
    (∀ ais, ais ≠ [] → (extract (tmSendMultiai role .chkRes ri ais) = some ais ↔ ais = addressValues role)) ∧
    ∀ skb, passes skb → ∃ teis, extract skb = some teis ∧ teis.length ≤ maxTeis := by
  constructor
  · intro ais nonempty
    rw [(extract_passes (tmSendMultiai_passes role .chkRes ri ais nonempty)).1, aiValues_tmSendMultiai]
    constructor
    · intro same
      exact (Option.some.inj same).symm
    · intro same
      rw [same]
  · intro skb passed
    obtain ⟨same, bound⟩ := extract_passes passed
    exact ⟨aiValues skb, same, bound.trans (by decide)⟩

/-- The terminal with TEI 64 answers. -/
theorem check_response_not_read_back :
    ¬ ∀ role ri ais, ais ≠ [] → extract (tmSendMultiai role .chkRes ri ais) = some ais := by
  intro claim
  exact absurd (claim .te (0, 1) [64] (by decide)) (by decide)

end Vstuff.Lapd.Ntme
