import Vstuff.Libkstreamer.PdDescription

/-! What `ks_pd_parse` returns for a description: the channels and the parameters stand the other way
round, since each is put in front of those before. -/
namespace Vstuff.Libkstreamer.Pd
open Lapd (Octets)
set_option linter.all false

/-- The kind of a name. -/
def Name.kind : Name → Word
  | .string _ => .string
  | .identifier _ => .identifier
  | .integer _ => .integer
  | .hexint _ => .hexint

theorem Name.read_id (name : Name) : name.read.id = .word name.kind := by
  cases name <;> rfl

/-! ## What is wanted and what is read -/

/-- A parameter with the full text of its tokens. -/
def Parameter.faithful (parameter : Parameter) : PdParameter where
  name := (Name.identifier parameter.name).token
  value := parameter.value.name.token

/-- A parameter as it is read. -/
def Parameter.read (parameter : Parameter) : PdParameter where
  name := (Name.identifier parameter.name).read
  value := parameter.value.name.read

/-- A channel with its parameters in their order, and none if it is written without them. -/
def Channel.faithful (channel : Channel) : PdChannel where
  name := channel.name.token
  parameters := if channel.parameters = [] then .null else .list (channel.parameters.map Parameter.faithful)

/-- A channel with its parameters the other way round. -/
def Channel.mirrored (channel : Channel) : PdChannel where
  name := channel.name.token
  parameters := if channel.parameters = [] then .null else .list (channel.parameters.map Parameter.faithful).reverse

/-- A channel as it is read, with the memory it gets. -/
def Channel.read (zeroed : Bool) (channel : Channel) : PdChannel where
  name := channel.name.read
  parameters := if channel.parameters = [] then unwritten zeroed else .list (channel.parameters.map Parameter.read).reverse

/-- Channels as they are read, the first of them in the memory with a number. -/
def readChannels (zeroed : Nat → Bool) : Nat → List Channel → List PdChannel
  | _, [] => []
  | k, channel :: channels => channel.read (zeroed k) :: readChannels zeroed (k + 1) channels

theorem length_readChannels (zeroed : Nat → Bool) : ∀ (k : Nat) (channels : List Channel),
    (readChannels zeroed k channels).length = channels.length := by
  intro k channels
  induction channels generalizing k with
  | nil => rfl
  | cons channel channels ih => exact congrArg Nat.succ (ih (k + 1))

theorem getElem?_readChannels (zeroed : Nat → Bool) : ∀ (k : Nat) (channels : List Channel) (j : Nat),
    (readChannels zeroed k channels)[j]? = channels[j]?.map (Channel.read (zeroed (k + j))) := by
  intro k channels
  induction channels generalizing k with
  | nil => exact fun j => rfl
  | cons channel channels ih =>
    intro j
    cases j with
    | zero => rfl
    | succ j =>
      have place : k + (j + 1) = k + 1 + j := by omega
      rw [place]
      exact ih (k + 1) j

/-! ## The run through a description -/

section Run
variable {zeroed : Nat → Bool} {ep1 id : PdToken} {ch : Option (List PdChannel)} {behind : List Lexeme}

/-- The configuration after lexemes. -/
def afterLexemes (zeroed : Nat → Bool) (c : Config) (lexemes : List Lexeme) : Config :=
  (simulation zeroed).after c (lexemes.map Lexeme.read)

theorem afterLexemes_cons (c : Config) (lexeme : Lexeme) :
    afterLexemes zeroed c (lexeme :: behind) = afterLexemes zeroed (c.next zeroed lexeme.read) behind :=
  rfl

/-- A parameter, from where its name is expected. -/
theorem after_parameter {c : Config} {pars : Option (List PdParameter)} (parameter : Parameter) (behind : List Lexeme)
    (expected : ∀ t : PdToken, t.id = .word .identifier → c.next zeroed t = .name ep1 ch id pars t) :
    ∃ isString, afterLexemes zeroed c (parameter.lexemes behind) =
      afterLexemes zeroed (.value ep1 ch id pars parameter.read.name isString parameter.read.value) behind := by
  obtain ⟨name, value⟩ := parameter
  rw [Parameter.lexemes, afterLexemes_cons, expected _ rfl]
  cases value with
  | string quoted => exact ⟨true, rfl⟩
  | integer decimal => exact ⟨false, rfl⟩

/-- Further parameters, from the value of one to the parenthesis. -/
theorem after_moreParameters (parameters : List Parameter) : ∀ {pars : Option (List PdParameter)} {key text : PdToken}
    {isString : Bool},
    afterLexemes zeroed (.value ep1 ch id pars key isString text) (moreParameters parameters (.rparen :: behind)) =
      afterLexemes zeroed (.rparen ep1 ch id ((parameters.map Parameter.read).reverse ++ ({ name := key, value := text } ::
        pars.getD []))) behind := by
  induction parameters with
  | nil => exact rfl
  | cons parameter parameters ih =>
    intro pars key text isString
    rw [moreParameters, afterLexemes_cons]
    have expected (t : PdToken) (is : t.id = .word .identifier) :
        (Config.comma ep1 ch id ({ name := key, value := text } :: pars.getD [])).next zeroed t =
          .name ep1 ch id (some ({ name := key, value := text } :: pars.getD [])) t := by
      unfold Config.next Config.settled Config.shift
      simp only [is]
    obtain ⟨isString', run⟩ := after_parameter parameter (moreParameters parameters (.rparen :: behind)) expected
    refine run.trans (ih.trans ?_)
    rw [List.map_cons, List.reverse_cons, List.append_assoc]
    rfl

/-- A channel, from the `>` in front of it to the one behind. -/
theorem after_channel (channel : Channel) :
    afterLexemes zeroed (.gt ep1 ch) (.name channel.name :: parameterLexemes channel.parameters (.gt :: behind)) =
      afterLexemes zeroed (.gt ep1 (some (channel.read (zeroed (ch.getD []).length) :: ch.getD []))) behind := by
  obtain ⟨name, parameters⟩ := channel
  have named : (Config.gt ep1 ch).next zeroed name.read = .word ep1 ch name.kind name.read := by
    unfold Config.next Config.settled Config.shift
    simp only [name.read_id]
  rw [afterLexemes_cons, Lexeme.read, named]
  cases parameters with
  | nil => rfl
  | cons parameter parameters =>
    rw [parameterLexemes, afterLexemes_cons]
    have opened : (Config.word ep1 ch name.kind name.read).next zeroed Lexeme.lparen.read = .lparen ep1 ch name.read := rfl
    have expected (t : PdToken) (is : t.id = .word .identifier) :
        (Config.lparen ep1 ch name.read).next zeroed t = .name ep1 ch name.read none t := by
      unfold Config.next Config.settled Config.shift
      simp only [is]
    rw [opened]
    obtain ⟨isString, run⟩ := after_parameter parameter (moreParameters parameters (.rparen :: .gt :: behind)) expected
    rw [run, after_moreParameters]
    have read : Channel.read (zeroed (ch.getD []).length) ⟨name, parameter :: parameters⟩ =
        { name := name.read, parameters := .list ((parameters.map Parameter.read).reverse ++ [parameter.read]) } := by
      rw [Channel.read, if_neg (List.cons_ne_nil _ _), List.map_cons, List.reverse_cons]
    rw [read]
    rfl

/-- Channels behind others. -/
theorem after_channels (channels : List Channel) : ∀ {b : List PdChannel},
    afterLexemes zeroed (.gt ep1 (some b)) (channelLexemes channels behind) =
      afterLexemes zeroed (.gt ep1 (some ((readChannels zeroed b.length channels).reverse ++ b))) behind := by
  induction channels with
  | nil => exact rfl
  | cons channel channels ih =>
    intro b
    refine (after_channel channel).trans (ih.trans ?_)
    have joined : (readChannels zeroed (b.length + 1) channels).reverse ++ (channel.read (zeroed b.length) :: b) =
        (readChannels zeroed b.length (channel :: channels)).reverse ++ b := by
      rw [readChannels, List.reverse_cons, List.append_assoc]
      rfl
    rw [← joined]
    rfl

/-- The whole description. -/
theorem after_description (d : Description) : afterLexemes zeroed .start d.lexemes =
    .word d.ep1.read (some (readChannels zeroed 0 d.channels).reverse) d.ep2.kind d.ep2.read := by
  obtain ⟨ep1, channels, ep2, nonempty⟩ := d
  obtain ⟨channel, channels, rfl⟩ := List.exists_cons_of_ne_nil nonempty
  have begun : Config.start.next zeroed ep1.read = .nodeWord ep1.kind ep1.read := by
    unfold Config.next Config.settled Config.shift
    simp only [ep1.read_id]
  have ended (b : List PdChannel) : (Config.gt ep1.read (some b)).next zeroed ep2.read =
      .word ep1.read (some b) ep2.kind ep2.read := by
    unfold Config.next Config.settled Config.shift
    simp only [ep2.read_id]
  rw [Description.lexemes, afterLexemes_cons, Lexeme.read, begun]
  refine (after_channel channel).trans ((after_channels channels).trans ((ended _).trans ?_))
  rw [readChannels, List.reverse_cons]
  rfl

end Run

/-! ## Where a description is cut off -/

/-- The channels that have been read to their end. -/
def Config.complete : Config → Nat
  | .gt _ ch | .word _ ch _ _ => (ch.getD []).length
  | .chanlist _ ch => ch.length
  | .lparen _ ch _ | .name _ ch _ _ _ | .eq _ ch _ _ _ | .value _ ch _ _ _ _ _
  | .parameters _ ch _ _ | .comma _ ch _ _ | .rparen _ ch _ _ => (ch.getD []).length + 1
  | _ => 0

section Complete
variable {zeroed : Nat → Bool}

theorem complete_settled (c : Config) : c.complete ≤ (c.settled zeroed).complete := by
  cases c with
  | word ep1 ch kind id => exact Nat.le_succ _
  | _ => exact Nat.le_refl _

theorem complete_shift (c : Config) (t : PdToken) : (c.shift t).complete = c.complete := by
  unfold Config.shift
  split <;> rfl

theorem complete_next (c : Config) (t : PdToken) : c.complete ≤ (c.next zeroed t).complete := by
  unfold Config.next
  split
  · exact Nat.le_succ _
  · rw [complete_shift]
    exact complete_settled _

/-- A token behind a channel completes it. -/
theorem complete_word (ep1 id : PdToken) (ch : List PdChannel) (kind : Word) (t : PdToken) :
    ch.length < ((Config.word ep1 (some ch) kind id).next zeroed t).complete := by
  unfold Config.next
  split
  · next same _ =>
    cases same
    exact Nat.lt_succ_self _
  · rw [complete_shift]
    exact Nat.lt_succ_self _

theorem complete_after (c : Config) (lexemes : List Lexeme) : c.complete ≤ (afterLexemes zeroed c lexemes).complete := by
  induction lexemes generalizing c with
  | nil => exact Nat.le_refl _
  | cons lexeme lexemes ih => exact Nat.le_trans (complete_next c _) (ih _)

end Complete

/-- The beginning of a description is not read as a description with as many channels. -/
theorem cut_short {zeroed : Nat → Bool} {d : Description} {begun : List Lexeme} (begins : begun <+: d.lexemes)
    (cut : begun ≠ d.lexemes) {pipeline : PdPipeline} (read : (afterLexemes zeroed .start begun).finish.pipeline = some pipeline) :
    pipeline.channels.length < d.channels.length := by
  obtain ⟨rest, joined⟩ := begins
  have whole : afterLexemes zeroed (afterLexemes zeroed .start begun) rest =
      .word d.ep1.read (some (readChannels zeroed 0 d.channels).reverse) d.ep2.kind d.ep2.read := by
    rw [← after_description, ← joined]
    unfold afterLexemes
    rw [List.map_append, (simulation zeroed).after_append]
  generalize afterLexemes zeroed .start begun = c at read whole
  unfold Config.finish at read
  split at read
  · next ep1 ch kind id =>
    cases read
    cases rest with
    | nil =>
      rw [List.append_nil] at joined
      exact absurd joined cut
    | cons lexeme rest =>
      have one : ch.length < ((Config.word ep1 (some ch) kind id).next zeroed lexeme.read).complete :=
        complete_word ep1 id ch kind lexeme.read
      have further : _ ≤ (afterLexemes zeroed (.word ep1 (some ch) kind id) (lexeme :: rest)).complete := complete_after _ rest
      have more := Nat.lt_of_lt_of_le one further
      rw [whole] at more
      have length : (readChannels zeroed 0 d.channels).reverse.length = d.channels.length := by
        rw [List.length_reverse, length_readChannels]
      exact length ▸ more
  · cases read

/-! ## Descriptions that are read faithfully -/

/-- `ks_pd_parse` returns this. -/
def Returns (zeroed : Nat → Bool) (str : Octets) (pd : KsPd) : Prop :=
  ∃ enough, ∀ fuel, enough ≤ fuel → ksPdParse zeroed fuel str = some pd

/-- It returns what the tokens make, and nothing else. -/
theorem returns_iff {zeroed : Nat → Bool} {str : Octets} {pd : KsPd} :
    Returns zeroed str pd ↔ pd = (configAfter zeroed (lexed str).tokens).finish := by
  constructor
  · rintro ⟨enough, returns⟩
    have parsed : ksPdParse zeroed (max (str.length + 4) enough) str = _ := ksPdParse_eq (Nat.le_max_left _ _)
    exact Option.some.inj ((returns _ (Nat.le_max_right _ _)).symm.trans parsed)
  · rintro rfl
    exact ⟨str.length + 4, fun fuel enough => ksPdParse_eq enough⟩

/-- What a run returns is what is returned. -/
theorem returns_unique {zeroed : Nat → Bool} {str : Octets} {pd pd' : KsPd} {fuel : Nat} (enough : str.length + 4 ≤ fuel)
    (parsed : ksPdParse zeroed fuel str = some pd') (returns : Returns zeroed str pd) : pd = pd' := by
  rw [ksPdParse_eq enough] at parsed
  exact (returns_iff.mp returns).trans (Option.some.inj parsed)

/-- The result of a faithful parser. -/
def Description.faithful (d : Description) : KsPd where
  pipeline := some { ep1 := d.ep1.token, ep2 := d.ep2.token, channels := d.channels.map Channel.faithful }

/-- The description has no integer of two digits, its channels read the same from behind with their
parameters turned round, the memory of a channel without parameters is zero, and no white space in
front of a token begins with a vertical tab. -/
structure Readable (zeroed : Nat → Bool) (d : Description) (gap : Nat → Space) : Prop where
  digits : ∀ lexeme ∈ d.lexemes, lexeme.OneDigit
  mirrored : (d.channels.map Channel.mirrored).reverse = d.channels.map Channel.faithful
  zeroed : ∀ k channel, d.channels[k]? = some channel → channel.parameters = [] → zeroed k
  gaps : ∀ k < d.lexemes.length, (gap k).text.head? ≠ some verticalTab

section Faithful
variable {zeroed : Nat → Bool}

theorem parameter_read {parameter : Parameter} (digits : parameter.value.name.OneDigit) : parameter.read = parameter.faithful := by
  rw [Parameter.read, Parameter.faithful, (Name.read_eq_token_iff _).mpr digits]
  rfl

/-- A channel with integers of one digit in memory that is zero is only turned round. -/
theorem channel_read {channel : Channel} (digits : channel.name.OneDigit)
    (values : ∀ parameter ∈ channel.parameters, parameter.value.name.OneDigit) {zero : Bool}
    (empty : channel.parameters = [] → zero) : channel.read zero = channel.mirrored := by
  have same : channel.parameters.map Parameter.read = channel.parameters.map Parameter.faithful :=
    List.map_congr_left fun parameter member => parameter_read (values parameter member)
  rw [Channel.read, Channel.mirrored, (Name.read_eq_token_iff _).mpr digits, same]
  split
  · next none => rw [unwritten, if_pos (empty none)]
  · rfl

theorem oneDigit_moreParameters {parameters : List Parameter} {behind : List Lexeme} :
    (∀ lexeme ∈ moreParameters parameters behind, lexeme.OneDigit) ↔
      (∀ parameter ∈ parameters, parameter.value.name.OneDigit) ∧ ∀ lexeme ∈ behind, lexeme.OneDigit := by
  induction parameters with
  | nil => simp [moreParameters]
  | cons parameter parameters ih =>
    rw [moreParameters, Parameter.lexemes, List.forall_mem_cons, List.forall_mem_cons, List.forall_mem_cons,
      List.forall_mem_cons, List.forall_mem_cons, ih, and_assoc]
    exact ⟨fun ⟨_, _, _, value, more⟩ => ⟨value, more⟩, fun ⟨value, more⟩ => ⟨trivial, trivial, trivial, value, more⟩⟩

theorem oneDigit_parameterLexemes {parameters : List Parameter} {behind : List Lexeme} :
    (∀ lexeme ∈ parameterLexemes parameters behind, lexeme.OneDigit) ↔
      (∀ parameter ∈ parameters, parameter.value.name.OneDigit) ∧ ∀ lexeme ∈ behind, lexeme.OneDigit := by
  cases parameters with
  | nil => simp [parameterLexemes]
  | cons parameter parameters =>
    rw [parameterLexemes, Parameter.lexemes, List.forall_mem_cons, List.forall_mem_cons, List.forall_mem_cons,
      List.forall_mem_cons, List.forall_mem_cons, oneDigit_moreParameters, List.forall_mem_cons, and_assoc]
    exact ⟨fun ⟨_, _, _, value, more, _, behind⟩ => ⟨value, more, behind⟩,
      fun ⟨value, more, behind⟩ => ⟨trivial, trivial, trivial, value, more, trivial, behind⟩⟩

theorem oneDigit_channelLexemes {channels : List Channel} {behind : List Lexeme} :
    (∀ lexeme ∈ channelLexemes channels behind, lexeme.OneDigit) ↔
      (∀ channel ∈ channels, channel.name.OneDigit ∧ ∀ parameter ∈ channel.parameters, parameter.value.name.OneDigit) ∧
        ∀ lexeme ∈ behind, lexeme.OneDigit := by
  induction channels with
  | nil => simp [channelLexemes]
  | cons channel channels ih =>
    rw [channelLexemes, List.forall_mem_cons, List.forall_mem_cons, oneDigit_parameterLexemes, List.forall_mem_cons, ih]
    exact ⟨fun ⟨name, values, _, more, behind⟩ => ⟨⟨⟨name, values⟩, more⟩, behind⟩,
      fun ⟨⟨⟨name, values⟩, more⟩, behind⟩ => ⟨name, values, trivial, more, behind⟩⟩

/-- The integers of a description. -/
theorem oneDigit_lexemes {d : Description} : (∀ lexeme ∈ d.lexemes, lexeme.OneDigit) ↔
    d.ep1.OneDigit ∧
      (∀ channel ∈ d.channels, channel.name.OneDigit ∧ ∀ parameter ∈ channel.parameters, parameter.value.name.OneDigit) ∧
      d.ep2.OneDigit := by
  rw [Description.lexemes, List.forall_mem_cons, List.forall_mem_cons, oneDigit_channelLexemes, List.forall_mem_singleton]
  exact ⟨fun ⟨ep1, _, channels, ep2⟩ => ⟨ep1, channels, ep2⟩, fun ⟨ep1, channels, ep2⟩ => ⟨ep1, trivial, channels, ep2⟩⟩

/-- A token that is the one of some name as it is read has no integer of two digits. -/
theorem oneDigit_of_read {name name' : Name} (same : name.token = name'.read) : name.OneDigit := by
  cases name with
  | integer decimal =>
    cases name' with
    | integer decimal' => exact (List.cons.inj (congrArg PdToken.text same)).2
    | _ => cases congrArg PdToken.id same
  | _ => trivial

end Faithful

/-- What has been read of the channels is what is wanted exactly if they are mirrored, of one digit and in
memory that is zero. -/
theorem readChannels_reverse_iff {zeroed : Nat → Bool} {channels : List Channel} :
    channels.map Channel.faithful = (readChannels zeroed 0 channels).reverse ↔
      (∀ channel ∈ channels, channel.name.OneDigit ∧ ∀ parameter ∈ channel.parameters, parameter.value.name.OneDigit) ∧
      (∀ k channel, channels[k]? = some channel → channel.parameters = [] → zeroed k) ∧
      (channels.map Channel.mirrored).reverse = channels.map Channel.faithful := by
  have same_iff (digits : ∀ channel ∈ channels, channel.name.OneDigit ∧
        ∀ parameter ∈ channel.parameters, parameter.value.name.OneDigit)
      (empty : ∀ k channel, channels[k]? = some channel → channel.parameters = [] → zeroed k) :
      readChannels zeroed 0 channels = channels.map Channel.mirrored := by
    apply List.ext_getElem?
    intro j
    rw [getElem?_readChannels, List.getElem?_map, Nat.zero_add]
    cases found : channels[j]? with
    | none => rfl
    | some channel =>
      obtain ⟨name, values⟩ := digits channel (List.mem_of_getElem? found)
      exact congrArg some (channel_read name values (empty j channel found))
  constructor
  · intro same
    -- each channel that is wanted is one that has been read, and the other way round
    have wanted (channel : Channel) (member : channel ∈ channels) : ∃ (k : Nat) (read : Channel),
        channels[k]? = some read ∧ channel.faithful = read.read (zeroed k) := by
      have there : channel.faithful ∈ (readChannels zeroed 0 channels).reverse := same ▸ List.mem_map_of_mem member
      obtain ⟨k, found⟩ := List.mem_iff_getElem?.mp (List.mem_reverse.mp there)
      rw [getElem?_readChannels, Nat.zero_add] at found
      obtain ⟨read, found, is⟩ := Option.map_eq_some_iff.mp found
      exact ⟨k, read, found, is.symm⟩
    have digits (channel : Channel) (member : channel ∈ channels) : channel.name.OneDigit ∧
        ∀ parameter ∈ channel.parameters, parameter.value.name.OneDigit := by
      obtain ⟨k, read, -, is⟩ := wanted channel member
      refine ⟨oneDigit_of_read (congrArg PdChannel.name is), fun parameter here => ?_⟩
      have pars := congrArg PdChannel.parameters is
      rw [Channel.faithful, Channel.read, if_neg (List.ne_nil_of_mem here)] at pars
      dsimp only at pars
      split at pars
      · rw [unwritten] at pars
        split at pars <;> cases pars
      · have there : parameter.faithful ∈ (read.parameters.map Parameter.read).reverse :=
          PdParameters.list.inj pars ▸ List.mem_map_of_mem here
        obtain ⟨parameter', -, is'⟩ := List.mem_map.mp (List.mem_reverse.mp there)
        exact oneDigit_of_read (congrArg PdParameter.value is').symm
    have empty (k : Nat) (channel : Channel) (found : channels[k]? = some channel) (none : channel.parameters = []) :
        zeroed k := by
      have there : channel.read (zeroed k) ∈ channels.map Channel.faithful := by
        rw [same]
        apply List.mem_reverse.mpr
        apply List.mem_of_getElem? (i := k)
        rw [getElem?_readChannels, found, Nat.zero_add]
        rfl
      obtain ⟨wanted, -, is⟩ := List.mem_map.mp there
      have pars := congrArg PdChannel.parameters is
      rw [Channel.faithful, Channel.read, if_pos none, unwritten] at pars
      dsimp only at pars
      by_contra garbage
      rw [if_neg garbage] at pars
      split at pars <;> cases pars
    refine ⟨digits, empty, ?_⟩
    rw [same, same_iff digits empty]
  · rintro ⟨digits, empty, mirrored⟩
    rw [same_iff digits empty]
    exact mirrored.symm

/-- A description is read faithfully exactly if it is readable: for all others the result has another
token, order, or pointer, or ends early. -/
theorem read_faithfully_iff (zeroed : Nat → Bool) (d : Description) (gap : Nat → Space) :
    Returns zeroed (d.written gap) d.faithful ↔ Readable zeroed d gap := by
  have tokens := lexed_spelled gap 0 d.lexemes_separable
  have all_iff := reachable_eq_iff gap 0 d.lexemes
  simp only [Nat.zero_add] at all_iff
  rw [returns_iff, Description.written, tokens]
  change d.faithful = (afterLexemes zeroed .start (reachable gap 0 d.lexemes)).finish ↔ _
  by_cases all : reachable gap 0 d.lexemes = d.lexemes
  · rw [all, after_description]
    have parts_iff : d.faithful = (Config.word d.ep1.read (some (readChannels zeroed 0 d.channels).reverse) d.ep2.kind
        d.ep2.read).finish ↔ d.ep1.token = d.ep1.read ∧ d.ep2.token = d.ep2.read ∧
          d.channels.map Channel.faithful = (readChannels zeroed 0 d.channels).reverse := by
      simp [Description.faithful, Config.finish]
    rw [parts_iff, eq_comm, Name.read_eq_token_iff, eq_comm, Name.read_eq_token_iff, readChannels_reverse_iff]
    constructor
    · rintro ⟨ep1, ep2, digits, empty, mirrored⟩
      exact ⟨oneDigit_lexemes.mpr ⟨ep1, digits, ep2⟩, mirrored, empty, all_iff.mp all⟩
    · rintro ⟨digits, mirrored, empty, -⟩
      obtain ⟨ep1, digits, ep2⟩ := oneDigit_lexemes.mp digits
      exact ⟨ep1, ep2, digits, empty, mirrored⟩
  · refine iff_of_false (fun read => ?_) fun readable => all (all_iff.mpr readable.gaps)
    have short := cut_short (reachable_begins gap 0 d.lexemes) all (congrArg KsPd.pipeline read.symm)
    exact absurd (List.length_map _) (Nat.ne_of_lt short)

/-- `12>a>b`. -/
def twelve : Description where
  ep1 := .integer ⟨49, [50], by decide +kernel, by decide +kernel⟩
  channels := [⟨.identifier ⟨97, [], by decide +kernel, by decide +kernel⟩, []⟩]
  ep2 := .identifier ⟨98, [], by decide +kernel, by decide +kernel⟩
  nonempty := List.cons_ne_nil _ _

/-- What is returned for it. -/
def cutTwelve : KsPd where
  pipeline := some
    { ep1 := ⟨.word .integer, [49]⟩, ep2 := ⟨.word .identifier, [98]⟩, channels := [⟨⟨.word .identifier, [97]⟩, .null⟩] }

/-- Its first endpoint is read as `1`. -/
theorem twelve_is_cut : ¬Returns (fun _ => true) (twelve.written fun _ => ⟨[], nofun⟩) twelve.faithful := by
  have parsed : ksPdParse (fun _ => true) 10 (twelve.written fun _ => ⟨[], nofun⟩) = some cutTwelve := by
    decide +kernel
  intro returns
  exact absurd (returns_unique (by decide) parsed returns) (by decide)

end Vstuff.Libkstreamer.Pd
