import Vstuff.Q931.Bounds

/-! What becomes of a message on a call after its elements are decoded:
`q931_call_decode_ies`. Missing, invalid and unknown elements are reported, and
the message is handed to the call's handler or not. -/
namespace Vstuff.Q931
open Lapd (Octets IntfRole)
set_option linter.all false

/-- The causes with which elements are reported. -/
def mandatoryInformationElementIsMissing : Nat := 96

def invalidInformationElementContents : Nat := 100

def accessInformationDiscarded : Nat := 43

def informationElementNonExistent : Nat := 99

/-- The size of `diagnostics` in a cause. -/
def diagnosticsSize : Nat := 27

/-- `q931_ieid_fill_diagnostic_from_list`. An identifier of another codeset comes
behind a non-locking shift. -/
def fillDiagnostic : List IeidEntry → Octets → Octets
  | [], diagnostics => diagnostics
  | entry :: entries, diagnostics =>
    if diagnostics.length ≥ diagnosticsSize then diagnostics
    else
      let shifted :=
        if entry.codeset ≠ 0 then diagnostics ++ [IeId.shift.code ||| 0x08 ||| entry.codeset]
        else diagnostics
      if shifted.length ≥ diagnosticsSize then shifted
      else fillDiagnostic entries (shifted ++ [entry.id])

/-- A message sent because of elements that are at fault. -/
structure Report where
  type : MessageType
  cause : Cause
  deriving DecidableEq, Repr

/-- The report of a list of elements; the location is what
`q931_ie_cause_location_call` gives. -/
def report (location : Nat) (type : MessageType) (value : Nat) (entries : List IeidEntry) : Report where
  type := type
  cause := {
    codingStandard := 0
    location := location
    value := value
    diagnostics := fillDiagnostic entries [] }

/-- What is done about elements that keep a message from being processed: SETUP
and RELEASE are refused, DISCONNECT and RELEASE COMPLETE pass, and any other
message is dropped. -/
def refusal (messageType : UInt8) : Option MessageType :=
  if messageType = MessageType.setup.code ∨ messageType = MessageType.release.code then
    some .releaseComplete
  else if messageType = MessageType.disconnect.code ∨ messageType = MessageType.releaseComplete.code then
    none
  else some .status

/-- The message is handed to the handler of the call, which is `return 0`, or
not, with the reports sent. -/
structure Judgement where
  handled : Bool
  sent : List Report
  deriving DecidableEq, Repr

section
variable {γ : Type}

/-- `q931_call_decode_ies` behind `q931_decode_ies`: the lists are reported one
after the other, until one keeps the message from being processed. -/
def callJudge (location : Nat) (messageType : UInt8) (ds : DecoderStatus γ) : Judgement :=
  let fatal (value : Nat) (entries : List IeidEntry) : Option Report :=
    if entries = [] then none
    else (refusal messageType).map fun type => report location type value entries
  let harmless (value : Nat) (entries : List IeidEntry) : List Report :=
    if entries = [] then [] else [report location .status value entries]
  match fatal mandatoryInformationElementIsMissing ds.mandatoryIes with
  | some sent => { handled := false, sent := [sent] }
  | none =>
    match fatal invalidInformationElementContents ds.invalidMandIes with
    | some sent => { handled := false, sent := [sent] }
    | none =>
      let reports := harmless accessInformationDiscarded ds.invalidAccessIes ++
        harmless invalidInformationElementContents ds.invalidOptIes
      match fatal informationElementNonExistent ds.unrecognizedIes with
      | some sent => { handled := false, sent := reports ++ [sent] }
      | none => { handled := true, sent := reports }

/-- `q931_call_decode_ies`: nothing if an assertion fails on the way. -/
def callDecodeIes (codecs : Codecs γ) (role : IntfRole) (location : Nat) (messageType : UInt8)
    (rawiesLen : Nat) (m : Nat → UInt8) : Option (DecoderStatus γ × Judgement) :=
  ((decodeIes codecs messageType role rawiesLen).value m).bind fun ds =>
    if ds.aborted then none else some (ds, callJudge location messageType ds)

end

/-! ## The contract -/

/-- A message that is handled has all its mandatory elements, unless it only
clears the call, and one that is not has been answered. -/
def Answered (role : IntfRole) (messageType : UInt8) (ds : DecoderStatus Content) (judgement : Judgement) :
    Prop :=
  (judgement.handled = true → messageType ≠ MessageType.disconnect.code →
    messageType ≠ MessageType.releaseComplete.code →
    ∀ entry ∈ mandatoryIes messageType role, ∃ d ∈ ds.ies, d.ie.cls.entry = entry) ∧
  (judgement.handled = false →
    if messageType = MessageType.setup.code ∨ messageType = MessageType.release.code then
      judgement.sent.countP (fun r => r.type == .releaseComplete) = 1
    else ∃ r ∈ judgement.sent, r.type = .status ∧ r.cause.value ∈
      [mandatoryInformationElementIsMissing, invalidInformationElementContents,
        informationElementNonExistent])

/-- The message types with a mandatory element that is neither missed when it is
not decoded nor reported as a mandatory one: it has no decoder, or
`q931_get_ie_usage` finds it optional in another message. -/
def unguarded (messageType : UInt8) (role : IntfRole) : Prop :=
  messageType ∈ [MessageType.congestionControl.code, MessageType.progress.code,
    MessageType.resumeAcknowledge.code, MessageType.userInformation.code] ∨
  messageType = MessageType.setup.code ∧ role = .te

instance (messageType : UInt8) (role : IntfRole) : Decidable (unguarded messageType role) :=
  inferInstanceAs (Decidable (_ ∨ _))

/-! ## Refused messages are answered -/

theorem refusal_setup {messageType : UInt8}
    (clears : messageType = MessageType.setup.code ∨ messageType = MessageType.release.code) :
    refusal messageType = some .releaseComplete :=
  if_pos clears

theorem refusal_other {messageType : UInt8} {type : MessageType}
    (other : ¬(messageType = MessageType.setup.code ∨ messageType = MessageType.release.code))
    (refused : refusal messageType = some type) : type = .status := by
  unfold refusal at refused
  rw [if_neg other] at refused
  split_ifs at refused
  exact (Option.some.inj refused).symm

/-- A refusal behind reports that are STATUS messages. -/
theorem refusal_answers {location : Nat} {messageType : UInt8} {type : MessageType} {value : Nat}
    (reports : List Report) (refuses : refusal messageType = some type)
    (quiet : reports.countP (fun r => r.type == .releaseComplete) = 0)
    (named : value ∈ [mandatoryInformationElementIsMissing, invalidInformationElementContents,
      informationElementNonExistent]) (entries : List IeidEntry) :
    if messageType = MessageType.setup.code ∨ messageType = MessageType.release.code then
      (reports ++ [report location type value entries]).countP (fun r => r.type == .releaseComplete) = 1
    else ∃ r ∈ reports ++ [report location type value entries], r.type = .status ∧ r.cause.value ∈
      [mandatoryInformationElementIsMissing, invalidInformationElementContents,
        informationElementNonExistent] := by
  split
  · next clears =>
    rw [refusal_setup clears, Option.some.injEq] at refuses
    subst refuses
    rw [List.countP_append, quiet]
    rfl
  · next other =>
    rw [refusal_other other refuses]
    exact ⟨_, List.mem_append_right _ (List.mem_singleton_self _), rfl, named⟩

/-- The second half of the contract: it holds for every status. -/
theorem refused_is_answered (location : Nat) (messageType : UInt8) (ds : DecoderStatus Content)
    (refused : (callJudge location messageType ds).handled = false) :
    if messageType = MessageType.setup.code ∨ messageType = MessageType.release.code then
      (callJudge location messageType ds).sent.countP (fun r => r.type == .releaseComplete) = 1
    else ∃ r ∈ (callJudge location messageType ds).sent, r.type = .status ∧ r.cause.value ∈
      [mandatoryInformationElementIsMissing, invalidInformationElementContents,
        informationElementNonExistent] := by
  have earlier : ∀ value entries, (if entries = [] then []
      else [report location .status value entries]).countP (fun r => r.type == .releaseComplete) = 0 := by
    intro value entries
    split <;> rfl
  unfold callJudge at refused ⊢
  cases type : refusal messageType with
  | none => simp [type] at refused
  | some type' =>
    simp only [type, Option.map_some] at refused ⊢
    by_cases missing : ds.mandatoryIes = []
    · by_cases invalid : ds.invalidMandIes = []
      · by_cases unknown : ds.unrecognizedIes = []
        · simp [missing, invalid, unknown] at refused
        · simp only [missing, invalid, unknown, if_true, if_false]
          refine refusal_answers _ type ?_ (by simp) _
          rw [List.countP_append, earlier, earlier]
      · simp only [missing, invalid, if_true, if_false]
        exact refusal_answers [] type rfl (by simp) _
    · simp only [missing, if_false]
      exact refusal_answers [] type rfl (by simp) _

/-- A message that is handled had nothing reported that keeps it from being. -/
theorem handled_is_complete {location : Nat} {messageType : UInt8} {ds : DecoderStatus Content}
    (handled : (callJudge location messageType ds).handled = true)
    (judged : (refusal messageType).isSome) :
    ds.mandatoryIes = [] ∧ ds.invalidMandIes = [] ∧ ds.unrecognizedIes = [] := by
  obtain ⟨type, refuses⟩ := Option.isSome_iff_exists.mp judged
  unfold callJudge at handled
  simp only [refuses, Option.map_some] at handled
  by_cases missing : ds.mandatoryIes = []
  · by_cases invalid : ds.invalidMandIes = []
    · by_cases unknown : ds.unrecognizedIes = []
      · exact ⟨missing, invalid, unknown⟩
      · simp [missing, invalid, unknown] at handled
    · simp [missing, invalid] at handled
  · simp [missing] at handled

/-! ## Mandatory elements are accounted for -/

/-- An entry whose element is decoded, reported as a mandatory one, or reported
as unknown. -/
def guarded (entry : IeidEntry) : Bool :=
  match getIeClass entry.codeset entry.id, getIeUsage 0 entry.codeset entry.id with
  | some cls, some usage =>
    !isSoIe entry.id && cls.entry == entry &&
      if cls.coded then
        cls.id ∉ accessIes ∧ (ieComprehensionRequired cls.id.code ∨ usage.presence = .mandatory)
      else ieComprehensionRequired entry.id && cls.maxOccur == intMax
  | _, _ => false

/-- A mandatory element has its row in the table; on the side of the terminal SETUP has one more. -/
theorem mem_mandatoryIes {messageType : UInt8} {role : IntfRole} {entry : IeidEntry}
    (member : entry ∈ mandatoryIes messageType role) :
    (∃ u ∈ ieUsages, u.messageType.code = messageType ∧ u.presence = .mandatory ∧ entry = ⟨u.codeset, u.ieId.code⟩) ∨
      messageType = MessageType.setup.code ∧ role = .te := by
  rcases List.mem_append.mp member with table | channel
  · obtain ⟨u, row, rfl⟩ := List.mem_map.mp table
    obtain ⟨row, same⟩ := List.mem_filter.mp row
    rw [Bool.and_eq_true, beq_iff_eq, beq_iff_eq] at same
    exact .inl ⟨u, row, same.1, same.2, rfl⟩
  · split_ifs at channel with setup
    · exact .inr setup
    · cases channel

/-- The entries of the messages that are not unguarded; in a FACILITY message one
of the two is. -/
theorem mandatory_guarded (messageType : UInt8) (role : IntfRole) (safe : ¬unguarded messageType role) :
    (∀ entry ∈ mandatoryIes messageType role, guarded entry = true) ∨
      messageType = MessageType.facility.code := by
  have rows : ∀ u ∈ ieUsages, u.presence = .mandatory → unguarded u.messageType.code .nt ∨
      guarded ⟨u.codeset, u.ieId.code⟩ = true ∨ u.messageType.code = MessageType.facility.code := by
    decide +kernel
  by_cases facility : messageType = MessageType.facility.code
  · exact .inr facility
  refine .inl fun entry member => ?_
  rcases mem_mandatoryIes member with ⟨u, row, rfl, mandatory, rfl⟩ | setup
  · rcases rows u row mandatory with weak | guard | other
    · exact absurd (weak.imp_right fun setup => absurd setup.2 (by decide)) safe
    · exact guard
    · exact absurd other facility
  · exact absurd (.inr setup) safe

/-- What decoding does not take back. -/
structure Grows {γ : Type} (ds after : DecoderStatus γ) : Prop where
  mandatory : after.mandatoryIes = ds.mandatoryIes
  ies : ds.ies ⊆ after.ies
  invalidMand : ds.invalidMandIes ⊆ after.invalidMandIes
  unrecognized : ds.unrecognizedIes ⊆ after.unrecognizedIes

section Grows
variable {γ : Type} {codecs : Codecs γ} {ds : DecoderStatus γ}

theorem Grows.refl (ds : DecoderStatus γ) : Grows ds ds :=
  ⟨rfl, fun _ => id, fun _ => id, fun _ => id⟩

theorem grows_unrecognized (ieId : UInt8) (entry : IeidEntry) : Grows ds (unrecognized ds ieId entry) := by
  unfold unrecognized
  split
  · exact ⟨rfl, fun _ => id, fun _ => id, List.subset_append_left _ _⟩
  · exact .refl ds

theorem grows_contentErrors (cls : IeClass) (usage : IeUsage) : Grows ds (ieHasContentErrors ds cls usage) := by
  unfold ieHasContentErrors
  split
  · exact ⟨rfl, fun _ => id, List.subset_append_left _ _, fun _ => id⟩
  · exact ⟨rfl, fun _ => id, fun _ => id, fun _ => id⟩

theorem grows_judged {cls : IeClass} {usage : IeUsage} {start admitted len : Nat} (verdict : Verdict γ) :
    Grows ds (judged ds cls usage start admitted len verdict) := by
  cases verdict with
  | reject => exact grows_contentErrors cls usage
  | abort => exact ⟨rfl, fun _ => id, fun _ => id, fun _ => id⟩
  | accept content =>
    simp only [judged, iesAddPut]
    split
    · exact ⟨rfl, List.subset_append_left _ _, fun _ => id, fun _ => id⟩
    · exact ⟨rfl, fun _ => id, fun _ => id, fun _ => id⟩

theorem grows_admit {messageType codeset ieId : UInt8} {len : Nat} {after : DecoderStatus γ}
    (kept : admitIe ds messageType codeset ieId len = .error after) : Grows ds after := by
  unfold admitIe at kept
  split at kept
  · cases kept
    exact grows_unrecognized _ _
  · split at kept
    · cases kept
      exact grows_unrecognized _ _
    · split_ifs at kept
      · cases kept
        exact .refl ds
      · cases kept
        exact grows_unrecognized _ _
      · cases kept
        exact ⟨rfl, fun _ => id, fun _ => id, fun _ => id⟩
      · cases kept
        exact grows_contentErrors _ _

theorem decodeIe_grows {messageType codeset ieId : UInt8} {start len : Nat} {m : Nat → UInt8} :
    Grows ds ((decodeIe codecs ds messageType codeset ieId start len).value m) := by
  unfold decodeIe
  cases admitted : admitIe ds messageType codeset ieId len with
  | error after => exact grows_admit admitted
  | ok taken =>
    obtain ⟨cls, usage, length⟩ := taken
    dsimp only
    rw [readIe_value]
    exact grows_judged _

end Grows

/-- An entry is still missing, or there is an element of it, or something was
reported that keeps the message from being handled. -/
def Accounted {γ : Type} (entry : IeidEntry) (ds : DecoderStatus γ) : Prop :=
  entry ∈ ds.mandatoryIes ∨
    ((getIeClass entry.codeset entry.id).any (·.coded) ∧ ∃ d ∈ ds.ies, d.ie.cls.entry = entry) ∨
    ds.invalidMandIes ≠ [] ∨ ds.unrecognizedIes ≠ []

section Accounts
variable {γ : Type} {codecs : Codecs γ} {ds : DecoderStatus γ} {entry : IeidEntry}

/-- What a guarded entry is. -/
theorem guarded_cases (guard : guarded entry = true) : ∃ cls usage,
    getIeClass entry.codeset entry.id = some cls ∧
    (∀ messageType, getIeUsage messageType entry.codeset entry.id = some usage) ∧
    isSoIe entry.id = false ∧ cls.entry = entry ∧
    (cls.coded = true ∧ cls.id ∉ accessIes ∧
        (ieComprehensionRequired cls.id.code = true ∨ usage.presence = .mandatory) ∨
      cls.coded = false ∧ ieComprehensionRequired entry.id = true ∧ cls.maxOccur = intMax) := by
  unfold guarded at guard
  split at guard
  · next cls usage found used =>
    refine ⟨cls, usage, found, fun _ => used, ?_⟩
    cases coded : cls.coded <;> simp_all
  · cases guard

/-- Content errors of a guarded element are those of a mandatory one. -/
theorem contentErrors_mandatory {cls : IeClass} {usage : IeUsage}
    (required : ieComprehensionRequired cls.id.code = true ∨ usage.presence = .mandatory) :
    (ieHasContentErrors ds cls usage).invalidMandIes ≠ [] := by
  rw [ieHasContentErrors, if_pos required]
  simp

/-- Decoding an element of a guarded entry leaves a trace of it. -/
theorem decodeIe_accounts {messageType : UInt8} {start len : Nat} {m : Nat → UInt8}
    (guard : guarded entry = true)
    (running : ((decodeIe codecs ds messageType entry.codeset entry.id start len).value m).aborted = false) :
    let after := (decodeIe codecs ds messageType entry.codeset entry.id start len).value m
    ((getIeClass entry.codeset entry.id).any (·.coded) ∧ ∃ d ∈ after.ies, d.ie.cls.entry = entry) ∨
      after.invalidMandIes ≠ [] ∨ after.unrecognizedIes ≠ [] := by
  obtain ⟨cls, usage, found, used, -, self, kind⟩ := guarded_cases guard
  rw [found, Option.any_some]
  have entryOf : ∀ d : Decoded γ, d.ie.cls.id = cls.id → d.ie.cls.codeset = cls.codeset →
      d.ie.cls.entry = entry := by
    intro d ids codesets
    rw [← self, IeClass.entry, IeClass.entry, ids, codesets]
  unfold decodeIe admitIe at running ⊢
  rw [found, used messageType] at running ⊢
  dsimp only at running ⊢
  by_cases again : repeated ds cls
  · simp only [if_pos again] at running ⊢
    rcases kind with ⟨coded, -⟩ | ⟨-, -, unlimited⟩
    · obtain ⟨d, member, same⟩ := List.countP_pos_iff.mp (Nat.lt_trans again.1 again.2.2)
      simp only [Bool.and_eq_true, beq_iff_eq] at same
      exact .inl ⟨coded, d, member, entryOf d same.1 same.2⟩
    · exact absurd unlimited again.2.1
  simp only [if_neg again] at running ⊢
  rcases kind with ⟨coded, access, required⟩ | ⟨uncoded, required, -⟩
  · simp only [coded, Bool.not_true, Bool.false_eq_true, if_false, if_neg access] at running ⊢
    -- The decoder is called unless the element is too big.
    have decoded : ∀ admitted, ((readIe codecs ds cls usage start admitted len).value m).aborted = false →
        (True ∧ ∃ d ∈ ((readIe codecs ds cls usage start admitted len).value m).ies,
          d.ie.cls.entry = entry) ∨
        ((readIe codecs ds cls usage start admitted len).value m).invalidMandIes ≠ [] ∨
        ((readIe codecs ds cls usage start admitted len).value m).unrecognizedIes ≠ [] := by
      intro admitted running
      rw [readIe_value] at running ⊢
      generalize ((codecs.read cls.id admitted).shifted start).value m = verdict at running ⊢
      cases verdict with
      | reject => exact .inr (.inl (contentErrors_mandatory required))
      | abort => cases running
      | accept content =>
        simp only [judged, iesAddPut] at running ⊢
        split_ifs at running ⊢
        exact .inl ⟨trivial, _, List.mem_append_right _ (List.mem_singleton_self _), entryOf _ rfl rfl⟩
    split_ifs at running ⊢
    · simpa using decoded _ running
    · exact .inr (.inl (contentErrors_mandatory required))
    · simpa using decoded _ running
  · simp only [uncoded, Bool.not_false, if_true] at running ⊢
    refine .inr (.inr ?_)
    simp [unrecognized, required]

/-- Entries stay accounted for while elements are decoded. -/
theorem Accounted.grows {after : DecoderStatus γ} (accounted : Accounted entry ds) (grows : Grows ds after) :
    Accounted entry after := by
  rcases accounted with missing | ⟨coded, d, member, same⟩ | invalid | unknown
  · exact .inl (grows.mandatory ▸ missing)
  · exact .inr (.inl ⟨coded, d, grows.ies member, same⟩)
  · exact .inr (.inr (.inl fun none => invalid (List.subset_nil.mp (none ▸ grows.invalidMand))))
  · exact .inr (.inr (.inr fun none => unknown (List.subset_nil.mp (none ▸ grows.unrecognized))))

/-- Another entry is removed from the missing ones. -/
theorem Accounted.present {codeset ieId : UInt8} (accounted : Accounted entry ds)
    (other : entry ≠ ⟨codeset, ieId⟩) : Accounted entry (present ds codeset ieId) := by
  rcases accounted with missing | rest
  · exact .inl ((List.mem_erase_of_ne other).mpr missing)
  · exact .inr rest

/-- The loop keeps a guarded entry accounted for. -/
theorem decodeLoop_accounts (guard : guarded entry = true) {messageType : UInt8} {rawiesLen : Nat}
    {m : Nat → UInt8} (turns : Nat) :
    ∀ pos codeset (ds after : DecoderStatus γ), Accounted entry ds →
      (decodeLoop codecs messageType rawiesLen turns pos codeset ds).value m = some after →
      after.aborted = false → Accounted entry after := by
  obtain ⟨-, -, -, -, container, -⟩ := guarded_cases guard
  induction turns with
  | zero =>
    intro pos codeset ds after accounted result running
    simp only [decodeLoop, Peek.value_pure] at result
    split_ifs at result
    cases result
    exact accounted
  | succ turns further =>
    intro pos codeset ds after accounted result running
    have decoded : ∀ id start len, Accounted entry
        ((decodeIe codecs ds messageType codeset id start len).value m) :=
      fun id start len => accounted.grows decodeIe_grows
    unfold decodeLoop at result
    split at result
    · rw [Peek.value_cell_bind] at result
      split at result
      · next single =>
        split at result
        · refine further _ (decodeShiftIe ds (m pos)).1 (decodeShiftIe ds (m pos)).2 _ ?_ result running
          unfold decodeShiftIe
          dsimp only
          split <;> exact accounted
        · rw [Peek.value_bind] at result
          split at result
          · cases result
            exact decoded _ _ _
          · refine further _ _ _ _ ((decoded _ _ _).present ?_) result running
            rintro rfl
            simp [container] at single
      · rw [Peek.value_cell_bind, Peek.value_bind] at result
        split at result
        · cases result
          exact decoded _ _ _
        · next intact =>
          split at result
          · cases result
            exact decoded _ _ _
          · refine further _ _ _ _ ?_ result running
            by_cases this : entry = ⟨codeset, m pos⟩
            · subst this
              exact .inr (decodeIe_accounts guard (by simpa using intact))
            · exact (decoded _ _ _).present this
    · cases result
      exact accounted

end Accounts

/-! ## Elements have the content of their class -/

section Kinds
variable {codecs : Codecs Content} {ds : DecoderStatus Content} {p : IeId → Content → Prop}

/-- Every decoded element has a content its decoder gives. -/
def Kinds (p : IeId → Content → Prop) (ds : DecoderStatus Content) : Prop :=
  ∀ d ∈ ds.ies, p d.ie.cls.id d.ie.content

theorem decodeIe_kinds (reads : ∀ id len m content, (codecs.read id len).value m = .accept content → p id content)
    {messageType codeset ieId : UInt8} {start len : Nat} {m : Nat → UInt8} (before : Kinds p ds) :
    Kinds p ((decodeIe codecs ds messageType codeset ieId start len).value m) := by
  unfold decodeIe
  rcases admitIe_handed ds messageType codeset ieId len with
    ⟨after, kept, same, none⟩ | ⟨cls, usage, admitted, taken, given⟩
  · rw [kept, Peek.value_pure]
    intro d member
    rw [same.ies] at member
    exact before d member
  · rw [taken]
    dsimp only
    rw [readIe_value, Peek.value_shifted]
    cases read : (codecs.read cls.id admitted).value fun i => m (start + i) with
    | reject =>
      intro d member
      rw [judged, (unchanged_contentErrors cls usage).ies] at member
      exact before d member
    | abort => exact before
    | accept content =>
      intro d member
      simp only [judged, iesAddPut] at member
      split at member
      · rcases List.mem_append.mp member with old | new
        · exact before d old
        · obtain rfl := List.mem_singleton.mp new
          exact reads _ _ _ _ read
      · exact before d member

theorem decodeLoop_kinds (reads : ∀ id len m content, (codecs.read id len).value m = .accept content → p id content)
    {messageType : UInt8} {rawiesLen : Nat} {m : Nat → UInt8} (turns : Nat) :
    ∀ pos codeset (ds after : DecoderStatus Content), Kinds p ds →
      (decodeLoop codecs messageType rawiesLen turns pos codeset ds).value m = some after → Kinds p after := by
  induction turns with
  | zero =>
    intro pos codeset ds after before result
    simp only [decodeLoop, Peek.value_pure] at result
    split_ifs at result
    cases result
    exact before
  | succ turns further =>
    intro pos codeset ds after before result
    have decoded : ∀ id start len, Kinds p ((decodeIe codecs ds messageType codeset id start len).value m) :=
      fun id start len => decodeIe_kinds reads before
    unfold decodeLoop at result
    split at result
    · rw [Peek.value_cell_bind] at result
      split at result
      · split at result
        · refine further _ (decodeShiftIe ds (m pos)).1 (decodeShiftIe ds (m pos)).2 _ ?_ result
          intro d member
          rw [decodeShiftIe_ies] at member
          exact before d member
        · rw [Peek.value_bind] at result
          split at result
          · cases result
            exact decoded _ _ _
          · refine further _ _ _ _ ?_ result
            exact decoded _ _ _
      · rw [Peek.value_cell_bind, Peek.value_bind] at result
        split at result
        · cases result
          exact decoded _ _ _
        · split at result
          · cases result
            exact decoded _ _ _
          · refine further _ _ _ _ ?_ result
            exact decoded _ _ _
    · cases result
      exact before

/-- An element of the class has a call state. -/
def isCallState (id : IeId) (content : Content) : Prop := id = .callState → ∃ ie, content = .callState ie

theorem readFromBuf_callState {libc : Libc} {intf : Intf} (id : IeId) (len : Nat) (m : Nat → UInt8)
    (content : Content) (accepted : (readFromBuf libc intf id len).value m = .accept content) :
    isCallState id content := by
  rintro rfl
  simp only [readFromBuf, readAs, Peek.value_bind, Peek.value_pure] at accepted
  cases read : (readCallState len).value m with
  | accept ie =>
    rw [read] at accepted
    cases accepted
    exact ⟨ie, rfl⟩
  | reject =>
    rw [read] at accepted
    cases accepted
  | abort =>
    rw [read] at accepted
    cases accepted

end Kinds

/-! ## The contract is kept -/

/-- Messages that are not unguarded keep the contract. -/
theorem guarded_is_answered {libc : Libc} {intf : Intf} {role : IntfRole} {location : Nat}
    {messageType : UInt8} {rawiesLen : Nat} {m : Nat → UInt8} {ds : DecoderStatus Content}
    {judgement : Judgement} (safe : ¬unguarded messageType role)
    (result : callDecodeIes (codecs libc intf) role location messageType rawiesLen m = some (ds, judgement)) :
    Answered role messageType ds judgement := by
  obtain ⟨status, decoded, judged⟩ := Option.bind_eq_some_iff.mp result
  split_ifs at judged with aborted
  simp only [Option.some.injEq, Prod.mk.injEq] at judged
  obtain ⟨rfl, rfl⟩ := judged
  refine ⟨fun handled notDisconnect notComplete entry member => ?_, refused_is_answered location messageType status⟩
  have refuses : (refusal messageType).isSome := by
    simp only [refusal, notDisconnect, notComplete, or_self, if_false]
    split <;> rfl
  obtain ⟨missing, invalid, unknown⟩ := handled_is_complete handled refuses
  have accounted : ∀ entry ∈ mandatoryIes messageType role, guarded entry = true →
      Accounted entry status := fun entry member guard =>
    decodeLoop_accounts guard rawiesLen 0 0 _ status (.inl member) decoded (by simpa using aborted)
  have found : ∀ entry ∈ mandatoryIes messageType role, guarded entry = true →
      (getIeClass entry.codeset entry.id).any (·.coded) ∧ ∃ d ∈ status.ies, d.ie.cls.entry = entry := by
    intro entry member guard
    rcases accounted entry member guard with left | present | faulty | other
    · simp [missing] at left
    · exact present
    · exact absurd invalid faulty
    · exact absurd unknown other
  rcases mandatory_guarded messageType role safe with guard | facility
  · exact (found entry member (guard entry member)).2
  · -- An extended facility is never decoded, so the message is not handled.
    have member : ⟨0, IeId.extendedFacility.code⟩ ∈ mandatoryIes messageType role := by
      rw [facility]
      cases role <;> decide +kernel
    have coded := (found _ member (by decide +kernel)).1
    exact absurd coded (by decide +kernel)

/-- A STATUS that is handled has a call state. -/
theorem status_has_callState {libc : Libc} {intf : Intf} {role : IntfRole} {location rawiesLen : Nat}
    {m : Nat → UInt8} {ds : DecoderStatus Content} {judgement : Judgement}
    (result : callDecodeIes (codecs libc intf) role location MessageType.status.code rawiesLen m = some (ds, judgement))
    (handled : judgement.handled) : ∃ d ∈ ds.ies, ∃ ie, d.ie.content = .callState ie := by
  have safe : ¬unguarded MessageType.status.code role := by cases role <;> decide
  have mandatory : ⟨0, IeId.callState.code⟩ ∈ mandatoryIes MessageType.status.code role := by
    cases role <;> decide +kernel
  obtain ⟨d, member, entry⟩ := (guarded_is_answered safe result).1 handled (by decide) (by decide) _ mandatory
  obtain ⟨status, decoded, judged⟩ := Option.bind_eq_some_iff.mp result
  split_ifs at judged
  cases judged
  have kinds : Kinds isCallState ds :=
    decodeLoop_kinds readFromBuf_callState rawiesLen 0 0 _ _ (fun _ member => absurd member List.not_mem_nil) decoded
  refine ⟨d, member, kinds d member ?_⟩
  have code : d.ie.cls.id.code = IeId.callState.code := congrArg IeidEntry.id entry
  revert code
  cases d.ie.cls.id <;> decide

end Vstuff.Q931
