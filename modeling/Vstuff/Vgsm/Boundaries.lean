import Vstuff.Vgsm.Matching

/-! A serial line cuts what the module sends into pieces as it likes. What the engine
makes of it does not depend on the pieces, as long as no decision looks behind the NUL of
the buffer. -/
namespace Vstuff.Vgsm
open Comm Chunks Transition
open Lapd (Octets)
set_option linter.all false

variable {c d : Comm} {k n nread : Nat}

/-! ## The loop on what was read -/

/-- The engine reads from the module, and nothing else happens. -/
def Comm.Reading (_ : Comm) (e : Event) : Prop := e = .scan ∨ ∃ chunk, e = .read chunk ∧ chunk ≠ []

def Event.received : Event → Octets
  | .read chunk => chunk
  | _ => []

/-- The buffer holds a string, and what is thrown away is gone. -/
structure Comm.Readable (c : Comm) : Prop where
  sound : Sound c
  size : c.buf.length = bufSize
  ends : (0 : UInt8) ∈ c.buf
  dropped : ¬ c.reads → c.text.length = c.scanning.getD 0

theorem stored_eq (buf chunk : Octets) :
    stored buf chunk = (cString buf ++ chunk) ++ 0 :: buf.drop ((cString buf).length + chunk.length + 1) := by
  have front : buf.take (cString buf).length = cString buf := (List.prefix_iff_eq_take.mp (List.takeWhile_prefix _)).symm
  simp [stored, front]

theorem Comm.Readable.receive (readable : Readable c) {chunk : Octets} (clean : (0 : UInt8) ∉ chunk)
    (fits : chunk.length + c.text.length < bufSize) (resting : c.scanning = none) :
    Readable (c.receive chunk) ∧ (c.receive chunk).text = c.text ++ chunk := by
  have text : (c.receive chunk).text = c.text ++ chunk := by
    rw [Comm.text, receive_buf, stored_eq]
    refine cString_append (fun member => ?_) _
    rcases List.mem_append.mp member with before | arrived
    · exact zero_not_mem_cString c.buf before
    · exact clean arrived
  refine ⟨⟨readable.sound.frame, ?_, ?_, fun drops => ?_⟩, text⟩
  · have size := readable.size
    change chunk.length + (cString c.buf).length < bufSize at fits
    rw [receive_buf, stored_eq]
    simp only [List.length_append, List.length_cons, List.length_drop]
    omega
  · rw [receive_buf, stored_eq]
    simp
  · have empty := readable.dropped drops
    rw [resting] at empty
    rw [text, List.length_append, empty]
    simp

theorem matchBuffer_reads (reads : c.reads) (took : c.matchBuffer nread = some (d, n)) : d.reads := by
  have urc (took : c.matchUrc = some (d, n)) : d.reads := by
    obtain ⟨buf, rfl⟩ | ⟨buf, urc, rfl⟩ := matchUrc_cases took
    · exact reads
    · unfold beginUrc
      simp only
      split
      · split
        · exact ⟨nofun, nofun⟩
        · exact reads
      · split
        · exact ⟨nofun, nofun⟩
        · exact ⟨nofun, nofun⟩
  have cont (took : c.matchUrcCont = some (d, n)) : d.reads := by
    obtain rfl | ⟨urc, buf, line, -, rfl | rfl⟩ := matchUrcCont_cases took
    · exact reads
    · exact reads
    · unfold endUrc
      simp only
      split
      · exact ⟨nofun, nofun⟩
      · exact ⟨nofun, nofun⟩
  unfold matchBuffer at took
  split at took
  · cases took; exact reads
  · cases took; exact reads
  · cases took; exact reads
  · cases took; exact reads
  · exact urc took
  · obtain ⟨req, -, took⟩ := Option.bind_eq_some_iff.mp took
    simp only at took
    split at took
    · cases took; exact ⟨nofun, nofun⟩
    split at took
    · exact urc took
    · cases took; exact reads
  · exact cont took
  · exact cont took
  · obtain ⟨pdu, -, took⟩ := Option.bind_eq_some_iff.mp took
    simp only at took
    split at took
    · cases took; exact ⟨nofun, nofun⟩
    · cases took; exact reads
  · simp only at took
    split at took
    · obtain ⟨req, -, took⟩ := Option.bind_eq_some_iff.mp took
      cases took
      exact ⟨nofun, nofun⟩
    · cases took; exact reads
  · obtain ⟨req, -, rfl | ⟨-, rfl⟩ | ⟨pdu, -, rfl⟩ | ⟨buf, line, rfl | ⟨err, rfl⟩⟩⟩ := matchResponse_cases took
    · exact reads
    · exact reads
    · exact ⟨nofun, nofun⟩
    · exact reads
    · exact ⟨nofun, nofun⟩

/-- What is behind the octets done with moves to the front. -/
theorem pulled (ends : (0 : UInt8) ∈ c.buf) (within : n ≤ c.text.length) {buf : Octets} (rest : buf.drop n = c.buf.drop n) :
    cString (pull n buf) = c.text.drop n ∧ (pull n buf).length = c.buf.length ∧ (0 : UInt8) ∈ pull n buf := by
  obtain ⟨string, -⟩ := cString_drop ends within
  have shape : pull n buf = c.text.drop n ++ 0 :: buf.drop ((c.text.drop n).length + 1) := by
    simp only [pull, rest, string, List.append_assoc, List.cons_append, List.nil_append]
    simp [Comm.text]
  have clean : (0 : UInt8) ∉ c.text.drop n := fun member =>
    zero_not_mem_cString c.buf (List.mem_of_mem_drop member)
  obtain ⟨behind, same⟩ := exists_behind ends
  have size : c.buf.length = c.text.length + 1 + behind.length := by
    conv_lhs => rw [same]
    simp only [List.length_append, List.length_cons, Comm.text]
    omega
  have lengths := congrArg List.length rest
  simp only [List.length_drop] at lengths
  rw [shape]
  refine ⟨cString_append clean _, ?_, by simp⟩
  simp only [List.length_append, List.length_cons, List.length_drop]
  omega

/-- What is thrown away makes no difference. -/
theorem Settles.dropped {u : Comm} {s more v : Octets} (drops : ¬ c.reads) (rest : Settles tell c more u v) :
    Settles tell c (s ++ more) u v := by
  induction s with
  | nil => exact rest
  | cons x s ih =>
    refine .more (n := 1) ?_ ih
    rw [Comm.tell, if_neg drops]
    rfl

/-- What one iteration of the loop makes of an engine, by what can be told of its string. -/
inductive Told (c d : Comm) : Prop where
  | waits (place : d.scanning = none) (told : c.bare.tell c.text = none) (same : d.bare = c.bare) (text : d.text = c.text)
  | acts (place : d.scanning = some 0) (n : Nat) (told : c.bare.tell c.text = some (d.bare, n)) (reads : c.reads)
      (text : d.text = c.text.drop n)
  | drops (place : d.scanning = some 0) (reads : ¬ c.reads) (some : c.text ≠ []) (same : d.bare = c.bare) (text : d.text = [])

theorem tell_dropped (drops : ¬ c.reads) : c.bare.tell c.text = if c.text = [] then none else some (c.bare, 1) := by
  have drops' : ¬ c.bare.reads := drops
  rw [Comm.tell, if_neg drops']

/-- Nothing more can be told, or what is told is done. -/
theorem Comm.Readable.scan (readable : Readable c) (place : c.scanning = some nread) (sees : ¬ LooksBehind c)
    (took : c.scan nread = some d) : Readable d ∧ Told c d := by
  have sound : Sound d := readable.sound.scan took
  obtain ⟨⟨matched, npull⟩, looks, rest⟩ := Option.bind_eq_some_iff.mp took
  simp only at rest
  by_cases reads : c.reads
  · have told := matchBuffer_tells readable.ends reads sees looks
    split at rest
    · rename_i waits
      cases rest
      subst waits
      rw [matchBuffer_waits looks] at sound ⊢
      rw [if_pos rfl] at told
      exact ⟨⟨sound, readable.size, readable.ends, fun drops => absurd reads drops⟩, .waits rfl told rfl rfl⟩
    · rename_i acts
      cases rest
      have agrees := matchBuffer_agrees readable.ends reads sees looks (Nat.pos_of_ne_zero acts)
      obtain ⟨same, took', -, behind⟩ := agrees.same c.scanning readable.ends (List.append_nil _).symm
      change c.matchBuffer nread = _ at took'
      rw [looks] at took'
      cases took'
      obtain ⟨string, size, ends⟩ := pulled readable.ends agrees.within behind
      have kept := matchBuffer_reads reads looks
      rw [if_neg acts] at told
      exact ⟨⟨sound, size.trans readable.size, ends, fun drops => absurd kept drops⟩, .acts rfl npull told reads string⟩
  · have thrown : c.matchBuffer nread = some (c, nread) := by
      rcases not_and_or.mp reads with failed | recovering
      · rw [matchBuffer, not_not.mp failed]
      · rw [matchBuffer, not_not.mp recovering]
    have length := readable.dropped reads
    rw [place, Option.getD_some] at length
    rw [thrown] at looks
    cases looks
    split at rest
    · rename_i none
      cases rest
      have empty : c.text = [] := List.length_eq_zero_iff.mp (length.trans none)
      refine ⟨⟨sound, readable.size, readable.ends, fun _ => length.trans none⟩, .waits rfl ?_ rfl rfl⟩
      rw [tell_dropped reads, if_pos empty]
    · rename_i some
      cases rest
      obtain ⟨string, size, ends⟩ := pulled readable.ends length.ge rfl
      rw [List.drop_eq_nil_of_le length.le] at string
      refine ⟨⟨sound, size.trans readable.size, ends, fun _ => ?_⟩, .drops rfl reads ?_ rfl string⟩
      · change (cString (pull nread c.buf)).length = 0
        rw [string]
        rfl
      · exact fun empty => some (length.symm.trans (congrArg List.length empty))

/-- Each iteration that does something shortens the string. -/
theorem Told.shorter (told : Told c d) : d.scanning = none ∨ d.text.length < c.text.length := by
  cases told with
  | waits place => exact .inl place
  | acts place n told reads text =>
    have pos := tell_stable.progress told
    have within := tell_stable.inside told
    rw [text, List.length_drop]
    omega
  | drops place reads some same text =>
    rw [text]
    exact .inr (List.length_pos_iff.mpr some)

/-- The loop goes on, or nothing more can be told. -/
theorem Told.rests_or (told : Told c d) :
    c.bare.tell c.text = none ∧ d.bare = c.bare ∧ d.text = c.text ∨ d.scanning ≠ none := by
  cases told with
  | waits place told same text => exact .inl ⟨told, same, text⟩
  | acts place => exact .inr (by rw [place]; exact nofun)
  | drops place => exact .inr (by rw [place]; exact nofun)

/-- The loop goes on with what the engine tells. -/
theorem Told.settles (told : Told c d) {u : Comm} {more v : Octets} (on : d.scanning ≠ none)
    (rest : Settles tell d.bare (d.text ++ more) u v) : Settles tell c.bare (c.text ++ more) u v := by
  cases told with
  | waits place => exact absurd place on
  | acts place n told reads text => exact Settles.act_append tell_stable told (text ▸ rest)
  | drops place reads some same text =>
    rw [same, text] at rest
    exact Settles.dropped reads rest

/-- What an iteration does is told by the string alone. -/
theorem Told.unique {c' d' : Comm} (told : Told c d) (other : Told c' d') (bare : c'.bare = c.bare) (text : c'.text = c.text) :
    d'.bare = d.bare ∧ d'.text = d.text ∧ d'.scanning = d.scanning := by
  have reads : c'.reads ↔ c.reads := by
    have state : c'.bare.state = c.bare.state := by rw [bare]
    change c'.state = c.state at state
    rw [Comm.reads, Comm.reads, state]
  have thrown (drops : ¬ c.reads) (some : c.text ≠ []) : c.bare.tell c.text ≠ none := by
    rw [tell_dropped drops, if_neg some]
    exact nofun
  cases told with
  | waits place told same string =>
    cases other with
    | waits place' told' same' string' =>
      exact ⟨same'.trans (bare.trans same.symm), string'.trans (text.trans string.symm), place'.trans place.symm⟩
    | acts place' n told' =>
      rw [bare, text, told] at told'
      cases told'
    | drops place' drops some => exact absurd told (thrown (reads.not.mp drops) (text ▸ some))
  | acts place n told reading string =>
    cases other with
    | waits place' told' =>
      rw [bare, text, told] at told'
      cases told'
    | acts place' n' told' reading' string' =>
      rw [bare, text, told] at told'
      obtain ⟨same, rfl⟩ := Prod.mk.injEq .. ▸ Option.some.inj told'
      exact ⟨same.symm, by rw [string', string, text], place'.trans place.symm⟩
    | drops place' drops => exact absurd (reads.mpr reading) drops
  | drops place drops some same string =>
    cases other with
    | waits place' told' =>
      rw [bare, text] at told'
      exact absurd told' (thrown drops some)
    | acts place' n told' reading => exact absurd (reads.mp reading) drops
    | drops place' drops' some' same' string' =>
      exact ⟨same'.trans (bare.trans same.symm), string'.trans string.symm, place'.trans place.symm⟩

/-! ## Reading a stream -/

/-- No decision on a part of the stream, however it is cut, looks behind the NUL. -/
def Comm.SeesEnd (c : Comm) (stream : Octets) : Prop :=
  ∀ es r, Run step Reading c es r → es.flatMap Event.received <+: stream → r.scanning.isSome → ¬ LooksBehind r

theorem Comm.SeesEnd.next {e : Event} {stream : Octets} (sees : c.SeesEnd (e.received ++ stream)) (reading : Reading c e)
    (took : c.step e = some d) : d.SeesEnd stream := by
  intro es r run part
  refine sees (e :: es) r (.cons reading took run) ?_
  rw [List.flatMap_cons]
  exact (List.prefix_append_right_inj _).mpr part

/-- One event of a reading. -/
theorem Comm.Readable.step {e : Event} {stream : Octets} (readable : Readable c) (reading : Reading c e)
    (clean : (0 : UInt8) ∉ e.received ++ stream) (sees : c.SeesEnd (e.received ++ stream)) (took : c.step e = some d) :
    Readable d ∧ (e = .scan ∧ e.received = [] ∧ Told c d ∨
      c.scanning = none ∧ d.scanning ≠ none ∧ d.bare = c.bare ∧ d.text = c.text ++ e.received) := by
  obtain ⟨enabled, took⟩ := handle_of_step took
  obtain rfl | ⟨chunk, rfl, -⟩ := reading
  · obtain ⟨nread, place, took⟩ := Option.bind_eq_some_iff.mp took
    have sound := sees [] c (.nil c) (List.nil_prefix) (Option.isSome_of_mem place)
    obtain ⟨readable', told⟩ := readable.scan place sound took
    exact ⟨readable', .inl ⟨rfl, rfl, told⟩⟩
  · cases took
    simp only [Comm.enabled, Bool.and_eq_true, decide_eq_true_eq, Option.isNone_iff_eq_none] at enabled
    have within : (0 : UInt8) ∉ chunk := fun member => clean (List.mem_append_left _ member)
    obtain ⟨readable', text⟩ := readable.receive within enabled.2 enabled.1.2
    exact ⟨readable', .inr ⟨enabled.1.2, nofun, rfl, text⟩⟩

/-- What was made of a stream is what the engine tells of it. -/
theorem run_settles {es : List Event} {more : Octets} (run : Run step Reading c es d) (readable : Readable c)
    (clean : (0 : UInt8) ∉ es.flatMap Event.received ++ more) (sees : c.SeesEnd (es.flatMap Event.received ++ more)) :
    Readable d ∧ d.SeesEnd more ∧ (d.scanning = none → (c.scanning = none → c.bare.tell c.text = none) →
      Settles tell c.bare (c.text ++ es.flatMap Event.received) d.bare d.text) := by
  induction run with
  | nil =>
    refine ⟨readable, sees, fun rests settled => ?_⟩
    rw [List.flatMap_nil, List.append_nil]
    exact .done (settled rests)
  | cons reading took _ ih =>
    rw [List.flatMap_cons, List.append_assoc] at clean sees
    obtain ⟨readable', one⟩ := readable.step reading clean sees took
    obtain ⟨readable'', sees'', settles⟩ :=
      ih readable' (fun member => clean (List.mem_append_right _ member)) (sees.next reading took)
    refine ⟨readable'', sees'', fun rests settled => ?_⟩
    rw [List.flatMap_cons]
    rcases one with ⟨rfl, none, told⟩ | ⟨place, place', bare, text⟩
    · rw [none, List.nil_append]
      rcases told.rests_or with ⟨waits, same, text⟩ | on
      · rw [same, text] at settles
        exact settles rests fun _ => waits
      · exact told.settles on (settles rests fun off => absurd off on)
    · rw [bare, text, List.append_assoc] at settles
      exact settles rests fun off => absurd off place'

/-- The loop ends. -/
theorem loop_ends {stream : Octets} (readable : Readable c) (clean : (0 : UInt8) ∉ stream)
    (sees : c.SeesEnd stream) : ∃ n d, Run step Reading c (List.replicate n .scan) d ∧ d.scanning = none := by
  induction length : c.text.length using Nat.strongRecOn generalizing c with
  | ind length ih =>
    subst length
    cases place : c.scanning with
    | none => exact ⟨0, c, .nil c, place⟩
    | some nread =>
      have enabled : c.enabled .scan := by rw [Comm.enabled, place]; rfl
      obtain ⟨d, took⟩ := Option.isSome_iff_exists.mp (readable.sound.handle_isSome enabled)
      have took' : c.step .scan = some d := by rw [step, if_pos enabled, took]
      have reading : Reading c .scan := .inl rfl
      obtain ⟨readable', ⟨-, -, told⟩ | ⟨off, -⟩⟩ := readable.step reading clean sees took'
      · rcases told.shorter with rests | shorter
        · exact ⟨1, d, .cons reading took' (.nil d), rests⟩
        · obtain ⟨n, last, run, rests⟩ := ih _ shorter readable' (sees.next reading took') rfl
          exact ⟨n + 1, last, .cons reading took' run, rests⟩
      · rw [place] at off
        cases off

/-! ## What cannot be seen -/

/-- What can be seen of an engine: not what is behind the NUL of its buffer. -/
def Comm.seen (c : Comm) : Comm × Octets × Option Nat := (c.bare, c.text, c.scanning)

/-- What the engine makes of a stream does not depend on how it is cut: each reading ends,
all end in the same, outputs included, and no decision depends on what is behind the NUL. -/
structure Insensitive (c : Comm) (stream : Octets) : Prop where
  ends : ∀ {es r}, Run step Reading c es r → es.flatMap Event.received <+: stream →
    ∃ n d, Run step Reading r (List.replicate n .scan) d ∧ d.scanning = none
  same : ∀ {es es' d d'}, Run step Reading c es d → Run step Reading c es' d' → es.flatMap Event.received = stream →
    es'.flatMap Event.received = stream → d.scanning = none → d'.scanning = none → d'.seen = d.seen
  blind : ∀ {es r buf}, Run step Reading c es r → es.flatMap Event.received <+: stream → cString buf = r.text →
    buf.length = bufSize → (0 : UInt8) ∈ buf →
    ((r.holding buf r.scanning).step .scan).map seen = (r.step .scan).map seen

/-- A reading of something begins with a read. -/
theorem settles_of_reading {es : List Event} {stream : Octets} (readable : Readable c) (resting : c.scanning = none)
    (clean : (0 : UInt8) ∉ stream) (sees : c.SeesEnd stream) (run : Run step Reading c es d)
    (whole : es.flatMap Event.received = stream) (rests : d.scanning = none) :
    stream = [] ∧ d = c ∨ stream ≠ [] ∧ Settles tell c.bare (c.text ++ stream) d.bare d.text := by
  subst whole
  cases run with
  | nil => exact .inl ⟨rfl, rfl⟩
  | @cons _ next _ e es reading took rest =>
    rw [List.flatMap_cons] at clean sees ⊢
    have begins : e.received ≠ [] := by
      obtain rfl | ⟨chunk, rfl, some⟩ := reading
      · have enabled := (handle_of_step took).1
        rw [Comm.enabled, resting] at enabled
        cases enabled
      · exact some
    obtain ⟨readable', ⟨-, none, -⟩ | ⟨-, on, bare, text⟩⟩ := readable.step reading clean sees took
    · exact absurd none begins
    refine .inr ⟨fun empty => begins (List.append_eq_nil_iff.mp empty).1, ?_⟩
    have clean' : (0 : UInt8) ∉ es.flatMap Event.received ++ [] := by
      rw [List.append_nil]
      exact fun member => clean (List.mem_append_right _ member)
    have sees' : next.SeesEnd (es.flatMap Event.received ++ []) := by
      rw [List.append_nil]
      exact sees.next reading took
    have settles := (run_settles rest readable' clean' sees').2.2 rests fun off => absurd off on
    rw [bare, text, List.append_assoc] at settles
    exact settles

/-- With other octets behind the NUL, the engine does the same. -/
theorem blind_of_sees {buf : Octets} (readable : Readable c) (sees : c.scanning.isSome → ¬ LooksBehind c)
    (same : cString buf = c.text) (size : buf.length = bufSize) (ends : (0 : UInt8) ∈ buf) :
    ((c.holding buf c.scanning).step .scan).map seen = (c.step .scan).map seen := by
  cases place : c.scanning with
  | none =>
    have off : c.enabled .scan = false := by rw [Comm.enabled, place]; rfl
    have off' : (c.holding buf none).enabled .scan = false := rfl
    rw [step, step, off, off']
    rfl
  | some nread =>
    rw [place] at sees
    have on : c.enabled .scan := by rw [Comm.enabled, place]; rfl
    have on' : (c.holding buf (some nread)).enabled .scan := rfl
    have readable' : Readable (c.holding buf (some nread)) := by
      refine ⟨readable.sound.frame, size, ends, fun drops => ?_⟩
      have length := readable.dropped drops
      rw [place] at length
      change (cString buf).length = _
      rw [same]
      exact length
    obtain ⟨d, took⟩ := Option.isSome_iff_exists.mp (readable.sound.handle_isSome on)
    obtain ⟨d', took'⟩ := Option.isSome_iff_exists.mp (readable'.sound.handle_isSome on')
    rw [step_of_enabled on, took, step_of_enabled on', took']
    rw [handle, place, Option.bind_some] at took
    have told := (readable.scan place (sees rfl) took).2
    have told' := (readable'.scan rfl ((looksBehind_holding _ same).not.mpr (sees rfl)) took').2
    obtain ⟨bare, text, scanning⟩ := told.unique told' rfl same
    rw [Option.map_some, Option.map_some, seen, seen, bare, text, scanning]

theorem cString_pull (n : Nat) (buf : Octets) : cString (pull n buf) = cString (buf.drop n) := by
  simp only [pull, List.append_assoc, List.cons_append, List.nil_append]
  exact cString_append (zero_not_mem_cString _) _

/-- Of one octet, what is behind the NUL tells whether it is a line. -/
theorem matchResponse_single {req : Req} (current : c.currentReq = some req) {x : UInt8} (string : c.text = [x])
    (plain : x ≠ 13) :
    (findCrlf (cString (c.buf.drop 2)) = none → c.matchResponse = some (c, 0)) ∧
    ∀ offset, findCrlf (cString (c.buf.drop 2)) = some offset → ∃ m, c.matchResponse = some (m, offset + 4) := by
  obtain ⟨k, told⟩ : ∃ k, responseBegin [x] = some k := by
    by_cases lf : x = 10
    · exact ⟨1, by simp [responseBegin, lf]⟩
    · exact ⟨0, by simp [responseBegin, plain, lf]⟩
  have short : ¬ ascii "> " <+: [x].drop k := by
    intro prompt
    have two : 2 ≤ ([x].drop k).length := prompt.length_le
    rw [List.length_drop, List.length_singleton] at two
    omega
  rw [matchResponse, current, Option.bind_some, string, told]
  simp only [if_neg short]
  constructor
  · intro none
    rw [none]
  · intro offset found
    rw [found]
    simp only
    split
    · exact ⟨_, rfl⟩
    · exact ⟨_, rfl⟩

/-- A prompt is four octets, however many there are. -/
theorem matchResponse_prompt {req : Req} (current : c.currentReq = some req)
    (prompt : (responseBegin c.text).any fun skipped => (ascii "> ").isPrefixOf (c.text.drop skipped)) :
    ∃ m, c.matchResponse = some (m, 4) ∧ m.buf = c.buf := by
  rw [matchResponse, current, Option.bind_some]
  cases told : responseBegin c.text with
  | none => rw [told] at prompt; cases prompt
  | some k =>
    rw [told] at prompt
    have there : ascii "> " <+: c.text.drop k := by simpa using prompt
    simp only [if_pos there]
    split
    · exact ⟨_, rfl, rfl⟩
    · exact ⟨_, rfl, rfl⟩

/-- A line or a prompt for a decision to find behind the NUL, or none. -/
theorem looks_differs (reading : c.state = .readingResponse) {req : Req} (current : c.currentReq = some req)
    (looks : LooksBehind c) (clean : (0 : UInt8) ∉ c.text) :
    ∃ rest rest' : Octets, rest.length + c.text.length + 1 = bufSize ∧ rest'.length + c.text.length + 1 = bufSize ∧
      ∀ nread d d', (c.holding (c.text ++ 0 :: rest) (some nread)).scan nread = some d →
        (c.holding (c.text ++ 0 :: rest') (some nread)).scan nread = some d' → d.seen ≠ d'.seen := by
  have held (behind : Octets) (nread : Nat) {m : Comm} {n : Nat}
      (looks : (c.holding (c.text ++ 0 :: behind) (some nread)).matchResponse = some (m, n)) :
      (c.holding (c.text ++ 0 :: behind) (some nread)).scan nread =
        if n = 0 then some { m with scanning := none } else some { m with buf := pull n m.buf, scanning := some 0 } := by
    rw [Comm.scan, matchBuffer, holding_state, reading]
    simp only
    rw [looks, Option.bind_some]
  obtain ⟨one, plain⟩ | ⟨prompt, short⟩ := looks.2
  · obtain ⟨x, string⟩ := List.length_eq_one_iff.mp one
    have other : x ≠ 13 := by
      rintro rfl
      exact plain string
    have size : (List.replicate 2046 (0 : UInt8)).length + c.text.length + 1 = bufSize := by
      rw [List.length_replicate, one]
      rfl
    have size' : (13 :: 10 :: List.replicate 2044 (0 : UInt8)).length + c.text.length + 1 = bufSize := by
      rw [List.length_cons, List.length_cons, List.length_replicate, one]
      rfl
    refine ⟨_, _, size, size', fun nread d d' scans scans' same => ?_⟩
    have text (behind : Octets) : (c.holding (c.text ++ 0 :: behind) (some nread)).text = [x] :=
      (cString_append clean behind).trans string
    have drop (behind : Octets) : (c.holding (c.text ++ 0 :: behind) (some nread)).buf.drop 2 = behind := by
      rw [holding_buf, string]
      rfl
    have current' (behind : Octets) : (c.holding (c.text ++ 0 :: behind) (some nread)).currentReq = some req := current
    have none := (matchResponse_single (current' (List.replicate 2046 0)) (text _) other).1 (by rw [drop]; rfl)
    obtain ⟨m, found⟩ := (matchResponse_single (current' (13 :: 10 :: List.replicate 2044 0)) (text _) other).2 0
      (by rw [drop]; rfl)
    rw [held _ _ none, if_pos rfl] at scans
    rw [held _ _ found, if_neg (Nat.succ_ne_zero _)] at scans'
    cases scans
    cases scans'
    cases congrArg (fun seen => seen.2.2) same
  · have size : (List.replicate (bufSize - 1 - c.text.length) (0 : UInt8)).length + c.text.length + 1 = bufSize := by
      rw [List.length_replicate]
      simp only [bufSize]
      omega
    have size' : (List.replicate (bufSize - 2 - c.text.length) (65 : UInt8) ++ [0]).length + c.text.length + 1 = bufSize := by
      rw [List.length_append, List.length_replicate, List.length_singleton]
      simp only [bufSize]
      omega
    refine ⟨_, _, size, size', fun nread d d' scans scans' same => ?_⟩
    have taken (behind : Octets) (last : Comm) (scans : (c.holding (c.text ++ 0 :: behind) (some nread)).scan nread = some last) :
        last.text = cString (behind.drop (3 - c.text.length)) := by
      have text : (c.holding (c.text ++ 0 :: behind) (some nread)).text = c.text := cString_append clean behind
      obtain ⟨m, four, buf⟩ := matchResponse_prompt (c := c.holding (c.text ++ 0 :: behind) (some nread)) current
        (by rw [text]; exact prompt)
      rw [held _ _ four, if_neg (Nat.succ_ne_zero _)] at scans
      cases scans
      change cString (pull 4 m.buf) = _
      have skip : 4 = c.text.length + ((3 - c.text.length) + 1) := by omega
      rw [cString_pull, buf, holding_buf, skip, List.drop_length_add_append, List.drop_succ_cons]
    have empty := taken _ d scans
    have full := taken _ d' scans'
    have texts : d.text = d'.text := congrArg (fun seen => seen.2.1) same
    have begun : List.replicate (bufSize - 2 - c.text.length) (65 : UInt8) =
        List.replicate (3 - c.text.length) 65 ++ List.replicate (bufSize - 5) 65 := by
      rw [List.replicate_append_replicate]
      congr 1
      simp only [bufSize]
      omega
    have skipped : (List.replicate (3 - c.text.length) (65 : UInt8)).length = 3 - c.text.length := List.length_replicate
    rw [List.drop_replicate, cString, List.takeWhile_replicate, if_neg (by decide)] at empty
    rw [begun, List.append_assoc, List.drop_left' skipped] at full
    rw [empty, full] at texts
    cases texts

/-- Where a decision looks behind the NUL, what is there makes a difference. -/
theorem not_blind_of_looks (sound : Sound c) (on : c.scanning.isSome) (looks : LooksBehind c) :
    ∃ buf, cString buf = c.text ∧ buf.length = bufSize ∧ (0 : UInt8) ∈ buf ∧
      ((c.holding buf c.scanning).step .scan).map seen ≠ (c.step .scan).map seen := by
  obtain ⟨req, current⟩ := Option.isSome_iff_exists.mp (sound.asked (by rw [looks.1]; rfl))
  obtain ⟨nread, place⟩ := Option.isSome_iff_exists.mp on
  have clean := zero_not_mem_cString c.buf
  obtain ⟨rest, rest', size, size', differs⟩ := looks_differs looks.1 current looks clean
  have held (behind : Octets) : ∃ d, (c.holding (c.text ++ 0 :: behind) (some nread)).step .scan = some d ∧
      (c.holding (c.text ++ 0 :: behind) (some nread)).scan nread = some d := by
    have sound' : Sound (c.holding (c.text ++ 0 :: behind) (some nread)) := sound.frame
    have enabled : (c.holding (c.text ++ 0 :: behind) (some nread)).enabled .scan := rfl
    obtain ⟨d, took⟩ := Option.isSome_iff_exists.mp (sound'.handle_isSome enabled)
    exact ⟨d, by rw [step_of_enabled enabled, took], took⟩
  obtain ⟨d, took, scans⟩ := held rest
  obtain ⟨d', took', scans'⟩ := held rest'
  rw [place]
  by_contra all
  have same (behind : Octets) (size : behind.length + c.text.length + 1 = bufSize) :
      ((c.holding (c.text ++ 0 :: behind) (some nread)).step .scan).map seen = (c.step .scan).map seen := by
    by_contra other
    refine all ⟨c.text ++ 0 :: behind, cString_append clean behind, ?_, by simp, other⟩
    rw [List.length_append, List.length_cons]
    omega
  have equal := (same rest size).trans (same rest' size').symm
  rw [took, took'] at equal
  exact differs nread d d' scans scans' (Option.some.inj equal)

/-! ## Every buffer is terminated -/

/-- The last cell of the buffer stays 0, and what is thrown away is gone. -/
structure Comm.Terminated (c : Comm) : Prop where
  last : c.buf.drop (bufSize - 1) = [0]
  place : ∀ nread, c.scanning = some nread → nread < bufSize
  dropped : ¬ c.reads → cString (c.buf.drop (c.scanning.getD 0)) = []

theorem length_of_last {buf : Octets} (last : buf.drop (bufSize - 1) = [0]) : buf.length = bufSize := by
  have length := congrArg List.length last
  rw [List.length_drop, List.length_singleton] at length
  simp only [bufSize] at length ⊢
  omega

theorem Comm.Terminated.size (terminated : Terminated c) : c.buf.length = bufSize := length_of_last terminated.last

theorem Comm.Terminated.ends (terminated : Terminated c) (within : n < bufSize) : (0 : UInt8) ∈ c.buf.drop n := by
  refine List.mem_of_mem_drop (i := bufSize - 1 - n) ?_
  rw [List.drop_drop, show n + (bufSize - 1 - n) = bufSize - 1 by omega, terminated.last]
  exact List.mem_singleton_self 0

/-- A string of a terminated buffer leaves room for its NUL. -/
theorem length_cString_lt {cells : Octets} (ends : (0 : UInt8) ∈ cells) : (cString cells).length < cells.length := by
  obtain ⟨behind, same⟩ := exists_behind ends
  conv_rhs => rw [same]
  rw [List.length_append, List.length_cons]
  omega

/-- Octets and a NUL at the front leave the last cell as it is. -/
theorem drop_front {front buf : Octets} (last : buf.drop (bufSize - 1) = [0]) (fits : front.length < bufSize) :
    (front ++ 0 :: buf.drop (front.length + 1)).drop (bufSize - 1) = [0] := by
  have size := length_of_last last
  rw [show bufSize - 1 = front.length + (bufSize - 1 - front.length) by omega, List.drop_length_add_append]
  by_cases full : front.length + 1 = bufSize
  · rw [show bufSize - 1 - front.length = 0 by omega, List.drop_zero, List.drop_eq_nil_of_le (by omega)]
  · rw [show bufSize - 1 - front.length = (bufSize - 2 - front.length) + 1 by omega, List.drop_succ_cons, List.drop_drop,
      show front.length + 1 + (bufSize - 2 - front.length) = bufSize - 1 by omega, last]

theorem matchResponse_behind (terminated : Terminated c) (took : c.matchResponse = some (d, n)) :
    n < bufSize ∧ d.buf.drop n = c.buf.drop n := by
  obtain ⟨req, -, took⟩ := Option.bind_eq_some_iff.mp took
  have small : 4 < bufSize := by decide
  split at took
  · cases took; exact ⟨by decide, rfl⟩
  split at took
  · split at took <;> cases took <;> exact ⟨small, rfl⟩
  split at took
  · cases took; exact ⟨by decide, rfl⟩
  · rename_i offset found
    have room := findCrlf_within found
    have length := length_cString_lt (terminated.ends (show 2 < bufSize by decide))
    rw [List.length_drop, terminated.size] at length
    have rest : (c.buf.set (offset + 2) 0).drop (offset + 2 + 2) = c.buf.drop (offset + 2 + 2) :=
      List.drop_set_of_lt (by omega)
    simp only at took
    split at took <;> cases took <;> exact ⟨by omega, rest⟩

/-- What is done with is inside the buffer, and what follows is left as it is. -/
theorem matchBuffer_behind (terminated : Terminated c) (reads : c.reads) (took : c.matchBuffer nread = some (d, n)) :
    n < bufSize ∧ d.buf.drop n = c.buf.drop n := by
  have ends := terminated.ends (show 0 < bufSize by decide)
  rw [List.drop_zero] at ends
  by_cases reading : c.state = .readingResponse
  · rw [matchBuffer, reading] at took
    exact matchResponse_behind terminated took
  by_cases acts : 0 < n
  · have sees : ¬ LooksBehind c := fun looks => reading looks.1
    have agrees := matchBuffer_agrees ends reads sees took acts
    obtain ⟨same, took', -, behind⟩ := agrees.same c.scanning ends (List.append_nil _).symm
    change c.matchBuffer nread = _ at took'
    rw [took] at took'
    cases took'
    have room := length_cString_lt ends
    have within := agrees.within
    rw [terminated.size] at room
    exact ⟨lt_of_le_of_lt within room, behind⟩
  · have none : n = 0 := Nat.eq_zero_of_not_pos acts
    subst none
    rw [matchBuffer_waits took]
    exact ⟨by decide, rfl⟩

theorem reads_of_state (state : CommState) (same : c.state = state) (on : state ≠ .failed ∧ state ≠ .recovering) : c.reads := by
  rw [Comm.reads, same]
  exact on

theorem Comm.Terminated.of_same (terminated : Terminated c) (buf : d.buf = c.buf) (place : d.scanning = c.scanning)
    (state : d.reads ∨ d.state = c.state) : Terminated d where
  last := by rw [buf]; exact terminated.last
  place := by rw [place]; exact terminated.place
  dropped drops := by
    have same : d.state = c.state := state.resolve_left drops
    rw [buf, place]
    refine terminated.dropped ?_
    rw [Comm.reads, same] at drops
    exact drops

theorem Comm.Terminated.scan (terminated : Terminated c) (place : c.scanning = some nread) (took : c.scan nread = some d) :
    Terminated d := by
  obtain ⟨⟨matched, npull⟩, looks, rest⟩ := Option.bind_eq_some_iff.mp took
  have behind : npull < bufSize ∧ matched.buf.drop npull = c.buf.drop npull ∧
      (¬ matched.reads → cString (c.buf.drop npull) = []) := by
    by_cases reads : c.reads
    · obtain ⟨within, same⟩ := matchBuffer_behind terminated reads looks
      exact ⟨within, same, fun drops => absurd (matchBuffer_reads reads looks) drops⟩
    · have thrown : c.matchBuffer nread = some (c, nread) := by
        rcases not_and_or.mp reads with failed | recovering
        · rw [matchBuffer, not_not.mp failed]
        · rw [matchBuffer, not_not.mp recovering]
      rw [thrown] at looks
      cases looks
      have gone := terminated.dropped reads
      rw [place] at gone
      exact ⟨terminated.place nread place, rfl, fun _ => gone⟩
  obtain ⟨within, same, gone⟩ := behind
  simp only at rest
  split at rest
  · rename_i none
    cases rest
    subst none
    rw [List.drop_zero, List.drop_zero] at same
    exact ⟨by rw [same]; exact terminated.last, (fun _ none => by cases none), fun drops => by rw [same]; exact gone drops⟩
  · cases rest
    have ends := terminated.ends within
    have room := length_cString_lt ends
    rw [List.length_drop, terminated.size] at room
    have shape : pull npull matched.buf = cString (c.buf.drop npull) ++
        0 :: matched.buf.drop ((cString (c.buf.drop npull)).length + 1) := by
      simp [pull, same]
    refine ⟨?_, fun _ zero => ?_, fun drops => ?_⟩
    · change (pull npull matched.buf).drop _ = _
      have last : matched.buf.drop (bufSize - 1) = [0] := by
        rw [show bufSize - 1 = npull + (bufSize - 1 - npull) by omega, ← List.drop_drop, same, List.drop_drop,
          show npull + (bufSize - 1 - npull) = bufSize - 1 by omega]
        exact terminated.last
      rw [shape]
      exact drop_front last (by omega)
    · cases zero
      decide
    · change cString ((pull npull matched.buf).drop 0) = []
      rw [List.drop_zero, cString_pull, same]
      exact gone drops

theorem Comm.Terminated.receive (terminated : Terminated c) {chunk : Octets} (resting : c.scanning = none)
    (fits : chunk.length + c.text.length < bufSize) : Terminated (c.receive chunk) where
  last := by
    change (stored c.buf chunk).drop _ = _
    have shape : stored c.buf chunk = (cString c.buf ++ chunk) ++ 0 :: c.buf.drop ((cString c.buf ++ chunk).length + 1) := by
      rw [stored_eq, List.length_append]
    rw [shape]
    refine drop_front terminated.last ?_
    rw [List.length_append]
    change chunk.length + (cString c.buf).length < bufSize at fits
    omega
  place nread arrived := by
    cases arrived
    omega
  dropped drops := by
    have empty := terminated.dropped drops
    rw [resting] at empty
    change cString c.buf = [] at empty
    change cString ((stored c.buf chunk).drop chunk.length) = []
    rw [stored_eq, empty, List.nil_append, List.drop_left]
    rfl

theorem flushRequests_same (c : Comm) :
    c.flushRequests.buf = c.buf ∧ c.flushRequests.scanning = c.scanning ∧ c.flushRequests.state = c.state := by
  have flushed : ∀ (queue : List Req) (c : Comm), let d := queue.foldl (fun c req => c.complete req respFailed) c
      d.buf = c.buf ∧ d.scanning = c.scanning ∧ d.state = c.state := by
    intro queue
    induction queue with
    | nil => exact fun c => ⟨rfl, rfl, rfl⟩
    | cons req rest ih => exact fun c => ih (c.complete req respFailed)
  exact flushed c.requestsQueue { c with requestsQueue := [] }

theorem timerFired_terminated (terminated : Terminated c) (resting : c.scanning = none)
    (took : { c with pending := false }.timerFired = some d) : Terminated d := by
  unfold timerFired at took
  split at took
  · split at took
    · cases took
      exact terminated.of_same rfl rfl (.inl (reads_of_state .idle rfl (by decide)))
    · rename_i state _ req current
      simp only at took
      split at took
      · cases took
        refine ⟨terminated.last, terminated.place, fun _ => terminated.dropped fun reads => ?_⟩
        exact reads.2 state
      split at took
      · cases took
        exact terminated.of_same rfl rfl (.inl (reads_of_state .awaitingEcho rfl (by decide)))
      · cases took
  iterate 6
    · cases took
      refine ⟨?_, terminated.place, fun _ => ?_⟩
      · change (c.buf.set 0 0).drop _ = _
        rw [List.drop_set_of_lt (by decide)]
        exact terminated.last
      · change cString ((c.buf.set 0 0).drop (c.scanning.getD 0)) = []
        rw [resting]
        cases c.buf with
        | nil => rfl
        | cons x rest => rfl
  all_goals
    cases took
    exact terminated.of_same rfl rfl (.inr rfl)

theorem step_terminated {e : Event} (terminated : Terminated c) (took : c.step e = some d) : Terminated d := by
  obtain ⟨enabled, took⟩ := handle_of_step took
  cases e with
  | make timeout smsPdu printed =>
    cases took
    unfold reqMake
    split
    · exact terminated
    · exact terminated.of_same rfl rfl (.inr rfl)
  | «open» => cases took; exact terminated.of_same rfl rfl (.inl (reads_of_state .idle rfl (by decide)))
  | timer =>
    simp only [Comm.enabled, Bool.and_eq_true, Option.isNone_iff_eq_none] at enabled
    exact timerFired_terminated terminated enabled.1.2 took
  | requests =>
    simp only [handle] at took
    split at took
    · unfold processNextRequest at took
      split at took
      · cases took
      split at took
      · cases took; exact terminated
      · cases took; exact terminated.of_same rfl rfl (.inl (reads_of_state .awaitingEcho rfl (by decide)))
    split at took
    · cases took
      obtain ⟨buf, place, state⟩ := flushRequests_same c
      exact terminated.of_same buf place (.inr state)
    · cases took; exact terminated
  | message message =>
    cases message with
    | close => cases took; exact terminated.of_same rfl rfl (.inl (reads_of_state .closing rfl (by decide)))
    | refresh => cases took; exact terminated
    | init => cases took; exact terminated
  | read chunk =>
    cases took
    simp only [Comm.enabled, Bool.and_eq_true, decide_eq_true_eq, Option.isNone_iff_eq_none] at enabled
    exact terminated.receive enabled.1.2 enabled.2
  | scan =>
    obtain ⟨nread, place, took⟩ := Option.bind_eq_some_iff.mp took
    exact terminated.scan place took
  | exit => cases took; exact terminated.of_same rfl rfl (.inl (reads_of_state .closed rfl (by decide)))

/-- Between two reads, a reached engine holds a string. -/
theorem readable_of_run {urcClasses : List UrcClass} {es : List Event}
    (run : Run step ClosesClean (opened urcClasses) es c) (resting : c.scanning = none) : Readable c := by
  have last : (opened urcClasses).buf.drop (bufSize - 1) = [0] := by
    change (List.replicate bufSize 0).drop _ = _
    rw [List.drop_replicate]
    rfl
  have start : Terminated (opened urcClasses) := ⟨last, nofun, fun drops => absurd ⟨nofun, nofun⟩ drops⟩
  have terminated : Terminated c := run.invariant Terminated (fun held _ => step_terminated held) start
  have ends := terminated.ends (show 0 < bufSize by decide)
  rw [List.drop_zero] at ends
  refine ⟨run.invariant Sound step_sound (opened_sound urcClasses), terminated.size, ends, fun drops => ?_⟩
  have empty := terminated.dropped drops
  rw [resting] at empty ⊢
  exact congrArg List.length empty

/-! ## However the stream is cut -/

theorem reading_sound {es : List Event} (run : Run step Reading c es d) (sound : Sound c) : Sound d := by
  refine run.invariant Sound (fun {s t e} sound reading took => step_sound sound ?_ took) sound
  obtain rfl | ⟨chunk, rfl, -⟩ := reading
  · trivial
  · trivial

/-- What the engine makes of a stream does not depend on how it is cut exactly if no
decision on a part of it looks behind the NUL. -/
theorem insensitive_iff {stream : Octets} (readable : Readable c) (resting : c.scanning = none)
    (clean : (0 : UInt8) ∉ stream) : Insensitive c stream ↔ c.SeesEnd stream := by
  constructor
  · intro insensitive es r run part on looks
    obtain ⟨buf, same, size, ends, differs⟩ := not_blind_of_looks (reading_sound run readable.sound) on looks
    exact differs (insensitive.blind run part same size ends)
  · intro sees
    have reached {es r} (run : Run step Reading c es r) (part : es.flatMap Event.received <+: stream) :
        Readable r ∧ ∃ more, (0 : UInt8) ∉ more ∧ r.SeesEnd more := by
      obtain ⟨more, whole⟩ := part
      rw [← whole] at clean sees
      obtain ⟨readable', sees', -⟩ := run_settles run readable clean sees
      exact ⟨readable', more, fun member => clean (List.mem_append_right _ member), sees'⟩
    constructor
    · intro es r run part
      obtain ⟨readable', more, clean', sees'⟩ := reached run part
      exact loop_ends readable' clean' sees'
    · intro es es' d d' run run' whole whole' rests rests'
      rcases settles_of_reading readable resting clean sees run whole rests with ⟨none, rfl⟩ | ⟨some, settles⟩
      · rcases settles_of_reading readable resting clean sees run' whole' rests' with ⟨-, rfl⟩ | ⟨some, -⟩
        · rfl
        · exact absurd none some
      · rcases settles_of_reading readable resting clean sees run' whole' rests' with ⟨none, -⟩ | ⟨-, settles'⟩
        · exact absurd none some
        · obtain ⟨bare, text⟩ := settles'.unique settles
          rw [seen, seen, bare, text, rests, rests']
    · intro es r buf run part same size ends
      obtain ⟨readable', -⟩ := reached run part
      exact blind_of_sees readable' (sees es r run part) same size ends

instance (c : Comm) (e : Event) : Decidable (Reading c e) :=
  match e with
  | .read chunk => decidable_of_iff (chunk ≠ []) (by simp [Reading])
  | .scan => isTrue (.inl rfl)
  | .make .. | .open | .timer | .requests | .message _ | .exit => isFalse (by rintro (same | ⟨chunk, same, -⟩) <;> cases same)

/-- A prompt without its line end, for a request that has no text: what follows is taken
with it if it has arrived, and stays behind the NUL to be taken for a line. -/
theorem prompt_shows_the_cut :
    ∃ c, follow step ClosesClean (opened [])
        [.make 0 [] (ascii "AT"), .requests, .read (ascii "AT\r"), .scan, .scan] = some c ∧
      c.state = .readingResponse ∧ c.scanning = none ∧
      (∃ d d', follow step Reading c [.read (ascii "> \r\nOK\r\n"), .scan, .scan, .scan] = some d ∧
        follow step Reading c [.read (ascii "> \r\nO"), .scan, .scan, .scan, .read (ascii "K\r\n"), .scan, .scan] = some d' ∧
        d.scanning = none ∧ d'.scanning = none ∧ d.outputs ≠ d'.outputs) ∧
      ¬ Insensitive c (ascii "> \r\nOK\r\n") := by
  have readings : ∃ c, follow step ClosesClean (opened [])
        [.make 0 [] (ascii "AT"), .requests, .read (ascii "AT\r"), .scan, .scan] = some c ∧
      c.state = .readingResponse ∧ c.scanning = none ∧
      ∃ d d', follow step Reading c [.read (ascii "> \r\nOK\r\n"), .scan, .scan, .scan] = some d ∧
        follow step Reading c [.read (ascii "> \r\nO"), .scan, .scan, .scan, .read (ascii "K\r\n"), .scan, .scan] = some d' ∧
        d.scanning = none ∧ d'.scanning = none ∧ d.outputs ≠ d'.outputs :=
    ⟨_, rfl, rfl, rfl, _, _, rfl, rfl, rfl, rfl, by decide⟩
  obtain ⟨c, run, state, resting, d, d', whole, cut, rests, rests', differ⟩ := readings
  refine ⟨c, run, state, resting, ⟨d, d', whole, cut, rests, rests', differ⟩, fun claim => ?_⟩
  have same := claim.same (follow_run step Reading c _ whole) (follow_run step Reading c _ cut) rfl rfl rests rests'
  exact differ (congrArg (fun seen => seen.1.outputs) same).symm

/-- Without a request, none comes from reading. -/
theorem scan_unasked (sound : Sound c) (free : c.currentReq = none) (took : c.scan nread = some d) : d.currentReq = none := by
  obtain ⟨⟨matched, npull⟩, looks, rest⟩ := Option.bind_eq_some_iff.mp took
  have urc {last : Comm} {n : Nat} (took : c.matchUrc = some (last, n)) : last.currentReq = none := by
    obtain ⟨buf, rfl⟩ | ⟨buf, urc, rfl⟩ := matchUrc_cases took
    · exact free
    · unfold beginUrc
      simp only
      split
      · split
        · exact free
        · exact free
      · split
        · exact free
        · exact free
  have cont {last : Comm} {n : Nat} (took : c.matchUrcCont = some (last, n)) : last.currentReq = none := by
    obtain rfl | ⟨urc, buf, line, -, rfl | rfl⟩ := matchUrcCont_cases took
    · exact free
    · exact free
    · unfold endUrc
      simp only
      split
      · exact free
      · exact free
  have none : matched.currentReq = none := by
    unfold matchBuffer at looks
    rw [free] at looks
    split at looks
    · cases looks; exact free
    · cases looks; exact free
    · cases looks; exact free
    · cases looks; exact free
    · exact urc looks
    · cases looks
    · exact cont looks
    · exact cont looks
    · cases looks
    · simp only at looks
      split at looks
      · cases looks
      · cases looks; exact free
    · rw [matchResponse, free] at looks
      cases looks
  simp only at rest
  split at rest
  · cases rest; exact none
  · cases rest; exact none

theorem sees_unasked {stream : Octets} (sound : Sound c) (free : c.currentReq = none) : c.SeesEnd stream := by
  intro es r run part on looks
  have held : Sound r ∧ r.currentReq = none := by
    refine run.invariant (fun c => Sound c ∧ c.currentReq = none) (fun {s t e} held reading took => ?_) ⟨sound, free⟩
    have took' := (handle_of_step took).2
    obtain rfl | ⟨chunk, rfl, -⟩ := reading
    · obtain ⟨nread, -, scans⟩ := Option.bind_eq_some_iff.mp took'
      exact ⟨held.1.scan scans, scan_unasked held.1 held.2 scans⟩
    · cases took'
      exact ⟨held.1.frame, held.2⟩
  have busy := held.1.asked (by rw [looks.1]; rfl)
  rw [held.2] at busy
  cases busy

/-- A message of two lines, however it is cut. -/
theorem message_is_read_however_it_is_cut :
    Insensitive (opened [cmt]) (ascii "\r\n+CMT: ,23\r\n0791\r\n") ∧
    ∃ d, follow step Reading (opened [cmt])
        [.read (ascii "\r\n+CMT: ,23\r\n07"), .scan, .scan, .read (ascii "91\r\n"), .scan, .scan] = some d ∧
      d.urcQueue.map Urc.lines = [[ascii "+CMT: ,23", ascii "0791"]] := by
  refine ⟨(insensitive_iff (readable_of_run (.nil _) rfl) rfl (by decide)).mpr ?_, _, rfl, rfl⟩
  exact sees_unasked (opened_sound _) rfl

end Vstuff.Vgsm
