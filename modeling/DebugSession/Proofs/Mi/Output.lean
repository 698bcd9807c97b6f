/-
What the machine interface writes.  Every text is a record: one or two lines, each ended by one LF.
Strings from outside stand in quotes, where no line ends, so the stream of all records falls into
their lines again whatever the strings are.  The record of output that the program wrote gives its
channel and its text back, and no other event has such a record.
-/
import DebugSession.Proofs.Mi.Conversation

namespace DebugSession
namespace Mi

open DebugSession.Action (texts)
open Scene (Grows Manner Stretch)
open Text.Decimal (isDigit render)

/-! ## Texts without ends of lines -/

/-- No line ends in the text. -/
def Unbroken (s : String) : Prop := '\n' ∉ s.toList ∧ '\r' ∉ s.toList

instance (s : String) : Decidable (Unbroken s) := inferInstanceAs (Decidable (_ ∧ _))

theorem Unbroken.append {s t : String} (hs : Unbroken s) (ht : Unbroken t) : Unbroken (s ++ t) := by
  constructor
  · rw [String.toList_append, List.mem_append]
    exact not_or.2 ⟨hs.1, ht.1⟩
  · rw [String.toList_append, List.mem_append]
    exact not_or.2 ⟨hs.2, ht.2⟩

theorem unbroken_of_digits {s : String} (h : ∀ c ∈ s.toList, isDigit c = true) : Unbroken s :=
  ⟨fun hc => absurd (h _ hc) (by decide), fun hc => absurd (h _ hc) (by decide)⟩

theorem unbroken_quote (s : String) : Unbroken (Quoted.quote s) := by
  have hescape : Unbroken (Quoted.escape s) := by
    constructor
    all_goals
      rw [Quoted.escape, String.toList_ofList, List.mem_flatMap]
      rintro ⟨c, -, hc⟩
    · exact (Quoted.not_mem_escapeChar c).1 hc
    · exact (Quoted.not_mem_escapeChar c).2 hc
  have hmark : Unbroken "\"" := by decide
  exact (hmark.append hescape).append hmark

/-! ## Values -/

/-- Fields with names and values in which no line ends. -/
def Clean (fields : Fields) : Prop := ∀ f ∈ fields, Unbroken f.1 ∧ Unbroken f.2.toText

namespace Clean

theorem nil : Clean [] := fun _ hf => absurd hf List.not_mem_nil

theorem cons {name : String} {v : Value} {fields : Fields} (hname : Unbroken name)
    (hv : Unbroken v.toText) (h : Clean fields) : Clean ((name, v) :: fields) :=
  List.forall_mem_cons.2 ⟨⟨hname, hv⟩, h⟩

/-- A string may be any: it stands in quotes. -/
theorem text {name : String} {fields : Fields} (hname : Unbroken name) (s : String)
    (h : Clean fields) : Clean ((name, .text s) :: fields) :=
  h.cons hname (unbroken_quote s)

theorem number {name : String} {fields : Fields} (hname : Unbroken name) (n : UInt32)
    (h : Clean fields) : Clean ((name, .number n) :: fields) :=
  h.text hname (render n.toNat)

theorem append {fields more : Fields} (h : Clean fields) (h' : Clean more) :
    Clean (fields ++ more) :=
  List.forall_mem_append.2 ⟨h, h'⟩

theorem unbroken_join {fields : Fields} (h : Clean fields) : Unbroken (Value.join fields) := by
  induction fields with
  | nil =>
    show Unbroken ""
    decide
  | cons f rest ih =>
    obtain ⟨⟨hname, hvalue⟩, hrest⟩ := List.forall_mem_cons.1 h
    have hfield : Unbroken (f.1 ++ "=" ++ f.2.toText) := (hname.append (by decide)).append hvalue
    cases rest with
    | nil => exact hfield
    | cons g rest => exact (hfield.append (by decide)).append (ih hrest)

theorem unbroken_tuple {fields : Fields} (h : Clean fields) :
    Unbroken (Value.tuple fields).toText :=
  (Unbroken.append (by decide) h.unbroken_join).append (by decide)

theorem unbroken_list {fields : Fields} (h : Clean fields) : Unbroken (Value.list fields).toText :=
  (Unbroken.append (by decide) h.unbroken_join).append (by decide)

theorem unbroken_record {head : String} {fields : Fields} (hhead : Unbroken head)
    (h : Clean fields) : Unbroken (record head fields) := by
  rw [record]
  split
  · exact hhead
  · exact (hhead.append (by decide)).append h.unbroken_join

end Clean

theorem unbroken_values {vs : List Value} (h : ∀ v ∈ vs, Unbroken v.toText) :
    Unbroken (Value.values vs).toText := by
  have hjoin : Unbroken (Value.joinValues vs) := by
    induction vs with
    | nil =>
      show Unbroken ""
      decide
    | cons v rest ih =>
      obtain ⟨hv, hrest⟩ := List.forall_mem_cons.1 h
      cases rest with
      | nil => exact hv
      | cons w rest => exact (hv.append (by decide)).append (ih hrest)
  exact (Unbroken.append (by decide) hjoin).append (by decide)

theorem unbroken_breakpointValue (bp : Breakpoint) : Unbroken (breakpointValue bp).toText := by
  apply Clean.unbroken_tuple
  apply Clean.append
  · exact .number (by decide) _ <| .text (by decide) _ <| .text (by decide) _ <|
      .text (by decide) _ <| .text (by decide) _ <| .number (by decide) _ <|
      .text (by decide) _ .nil
  · cases bp.message with
    | none => exact .nil
    | some m => exact .text (by decide) m .nil

theorem unbroken_threadValue (t : ThreadInfo) : Unbroken (threadValue t).toText :=
  Clean.unbroken_tuple <| .text (by decide) _ <| .text (by decide) _ <| .text (by decide) _ .nil

theorem Finding.clean_fields (found : Finding) : Clean found.fields := by
  cases found with
  | nothing => exact .nil
  | breakpoint bp => exact .cons (by decide) (unbroken_breakpointValue bp) .nil
  | table book =>
    have hbody : Clean (book.entries.map fun bp => ("bkpt", breakpointValue bp)) := by
      intro f hf
      obtain ⟨bp, -, rfl⟩ := List.mem_map.1 hf
      exact ⟨(by decide : Unbroken "bkpt"), unbroken_breakpointValue bp⟩
    refine .cons (by decide) (Clean.unbroken_tuple ?_) .nil
    exact .text (by decide) _ <| .cons (by decide) hbody.unbroken_list .nil
  | threads ts =>
    refine .cons (by decide) (unbroken_values fun v hv => ?_) .nil
    obtain ⟨t, -, rfl⟩ := List.mem_map.1 hv
    exact unbroken_threadValue t

/-! ## Events -/

theorem clean_stoppedFields (reason : StopReason) {thread : Fields} (h : Clean thread) :
    Clean (stoppedFields reason thread) := by
  cases reason with
  | entry => exact h.text (by decide) _
  | breakpoint id => exact (h.text (by decide) _).append (.number (by decide) id .nil)
  | step => exact h.text (by decide) _
  | pause => exact (h.text (by decide) _).text (by decide) _
  | signal name => exact (h.text (by decide) name).text (by decide) _
  | exception text => exact (h.text (by decide) text).text (by decide) _

theorem unbroken_eventRecord (e : Event) : Unbroken (eventRecord e) := by
  cases e with
  | processStarted pid name =>
    exact Clean.unbroken_record (by decide) (.text (by decide) _ (.number (by decide) pid .nil))
  | stopped reason thread =>
    have hthread : Clean (thread.toList.map fun id => ("thread-id", .number id)) := by
      cases thread with
      | none => exact .nil
      | some id => exact .number (by decide) id .nil
    exact Clean.unbroken_record (by decide) (clean_stoppedFields reason hthread)
  | continued thread =>
    cases thread with
    | none => exact Clean.unbroken_record (by decide) (.text (by decide) _ .nil)
    | some id => exact Clean.unbroken_record (by decide) (.number (by decide) id .nil)
  | breakpointChanged bp =>
    exact Clean.unbroken_record (by decide)
      (.cons (by decide) (unbroken_breakpointValue bp) .nil)
  | output channel text =>
    apply Clean.unbroken_record (by decide)
    apply Clean.append
    · exact .text (by decide) text <| .text (by decide) _ .nil
    · cases channel with
      | stdout => exact .nil
      | stderr => exact .text (by decide) _ .nil
  | exited code =>
    exact Clean.unbroken_record (by decide) (.text (by decide) _ (.text (by decide) _ .nil))
  | terminated => exact Clean.unbroken_record (by decide) (.text (by decide) _ .nil)

/-! ## Records -/

/-- What stands in front of an answer: the digits of a token, or nothing. -/
abbrev Mark := { s : String // ∀ c ∈ s.toList, isDigit c = true }

/-- A text that the machine interface writes. -/
inductive OutputRecord where
  | prompt
  | event (e : Event)
  | done (mark : Mark) (found : Finding)
  | running (mark : Mark)
  | failed (mark : Mark) (message : String)
  | exit (mark : Mark)

namespace OutputRecord

def text : OutputRecord → String
  | prompt => Mi.prompt
  | event e => eventRecord e ++ "\n"
  | done mark found => Reply.toText mark (.done found.fields)
  | running mark => Reply.toText mark .running
  | failed mark message => errorText mark message
  | exit mark => Reply.toText mark .exit

/-- The lines of the text, without their ends. -/
def lines : OutputRecord → List String
  | prompt => ["(gdb)"]
  | event e => [eventRecord e]
  | done mark found => [mark ++ record "^done" found.fields, "(gdb)"]
  | running mark => [mark ++ "^running", "(gdb)"]
  | failed mark message => [mark ++ record "^error" [("msg", .text message)], "(gdb)"]
  | exit mark => [mark ++ "^exit"]

theorem toList_text (rec : OutputRecord) :
    rec.text.toList = rec.lines.flatMap fun line => line.toList ++ ['\n'] := by
  cases rec <;> simp [text, lines, Reply.toText, errorText, Mi.prompt]

theorem unbroken_lines (rec : OutputRecord) : ∀ line ∈ rec.lines, Unbroken line := by
  have hprompt : ∀ line ∈ ["(gdb)"], Unbroken line := by decide
  cases rec with
  | prompt => exact hprompt
  | event e => exact List.forall_mem_singleton.2 (unbroken_eventRecord e)
  | done mark found =>
    refine List.forall_mem_cons.2 ⟨(unbroken_of_digits mark.2).append ?_, hprompt⟩
    exact Clean.unbroken_record (by decide) found.clean_fields
  | running mark =>
    exact List.forall_mem_cons.2 ⟨(unbroken_of_digits mark.2).append (by decide), hprompt⟩
  | failed mark message =>
    refine List.forall_mem_cons.2 ⟨(unbroken_of_digits mark.2).append ?_, hprompt⟩
    exact Clean.unbroken_record (by decide) (.text (by decide) message .nil)
  | exit mark =>
    exact List.forall_mem_singleton.2 ((unbroken_of_digits mark.2).append (by decide))

theorem splitOn_lines {lines : List String} (h : ∀ line ∈ lines, Unbroken line) :
    (lines.flatMap fun line => line.toList ++ ['\n']).splitOn '\n' =
      lines.map String.toList ++ [[]] := by
  induction lines with
  | nil => exact List.splitOn_nil _
  | cons line lines ih =>
    obtain ⟨hline, hlines⟩ := List.forall_mem_cons.1 h
    rw [List.flatMap_cons, List.append_assoc, List.singleton_append,
      List.splitOn_append_cons_self_of_not_mem hline.1, ih hlines]
    rfl

/-- Whatever the strings in the records are, their texts fall into their lines. -/
theorem splitOn_texts (recs : List OutputRecord) :
    (String.join (recs.map text)).toList.splitOn '\n' =
      (recs.flatMap lines).map String.toList ++ [[]] := by
  have htexts : (String.join (recs.map text)).toList =
      (recs.flatMap lines).flatMap fun line => line.toList ++ ['\n'] := by
    rw [String.toList_join, List.flatMap_map, List.flatMap_assoc]
    exact congrArg recs.flatMap (funext toList_text)
  rw [htexts]
  apply splitOn_lines
  intro line hline
  obtain ⟨rec, -, hrec⟩ := List.mem_flatMap.1 hline
  exact rec.unbroken_lines line hrec

end OutputRecord

/-! ## Output of the program -/

namespace Quoted

/-- Reads characters up to the quote that ends a string, and undoes the escapes. -/
def unescape : List Char → Option (List Char × List Char)
  | [] => none
  | '"' :: rest => some ([], rest)
  | '\\' :: e :: rest =>
    match unescapeChar e with
    | some c => (unescape rest).map (Prod.map (c :: ·) id)
    | none => none
  | ['\\'] => none
  | c :: rest => (unescape rest).map (Prod.map (c :: ·) id)

theorem unescape_cons {c : Char} (hquote : c ≠ '"') (hslash : c ≠ '\\') (rest : List Char) :
    unescape (c :: rest) = (unescape rest).map (Prod.map (c :: ·) id) := by
  rw [unescape]
  · exact hquote
  · exact fun _ _ h _ => hslash h
  · exact fun h _ => hslash h

theorem unescape_escaped {e c : Char} (h : unescapeChar e = some c) (rest : List Char) :
    unescape ('\\' :: e :: rest) = (unescape rest).map (Prod.map (c :: ·) id) := by
  rw [unescape, h]

/-- Escapes are undone, up to the quote and no further. -/
theorem unescape_escape (cs rest : List Char) :
    unescape (cs.flatMap escapeChar ++ '"' :: rest) = some (cs, rest) := by
  induction cs with
  | nil => rfl
  | cons c cs ih =>
    have hmap : (some (cs, rest)).map (Prod.map (c :: ·) id) = some (c :: cs, rest) := rfl
    rw [List.flatMap_cons, List.append_assoc, ← hmap, ← ih]
    rcases escapeChar_cases c with ⟨hc, hquote, hslash⟩ | ⟨e, hc, he⟩
    · rw [hc]
      exact unescape_cons hquote hslash _
    · rw [hc]
      exact unescape_escaped he _

end Quoted

/-- What a record of output has before the text. -/
def outputHead : String := "=message,text=\""

def outputTail : Channel → String
  | .stdout => ",send-to=\"output-window\""
  | .stderr => ",send-to=\"output-window\",source=\"target-stderr\""

/-- The channel and the text of a record of output. -/
def outputOf? (line : String) : Option (Channel × String) :=
  if outputHead.toList.isPrefixOf line.toList then
    match Quoted.unescape (line.toList.drop outputHead.toList.length) with
    | some (text, rest) =>
      if rest = (outputTail .stdout).toList then some (.stdout, String.ofList text)
      else if rest = (outputTail .stderr).toList then some (.stderr, String.ofList text)
      else none
    | none => none
  else none

theorem toList_output (channel : Channel) (text : String) :
    (eventRecord (.output channel text)).toList =
      outputHead.toList ++
        (text.toList.flatMap Quoted.escapeChar ++ '"' :: (outputTail channel).toList) := by
  have hwindow : Quoted.quote "output-window" = "\"output-window\"" := by decide
  have hsource : Quoted.quote "target-stderr" = "\"target-stderr\"" := by decide
  cases channel with
  | stdout =>
    simp only [eventRecord, record, List.append_nil, Value.join, Value.toText, hwindow]
    simp [Quoted.quote, Quoted.escape, outputHead, outputTail]
  | stderr =>
    simp only [eventRecord, record, List.cons_append, List.nil_append, Value.join, Value.toText,
      hwindow, hsource]
    simp [Quoted.quote, Quoted.escape, outputHead, outputTail]

theorem outputOf?_output (channel : Channel) (text : String) :
    outputOf? (eventRecord (.output channel text)) = some (channel, text) := by
  have hprefix :
      outputHead.toList.isPrefixOf (eventRecord (.output channel text)).toList = true := by
    rw [toList_output, List.isPrefixOf_iff_prefix]
    exact List.prefix_append _ _
  rw [outputOf?, if_pos hprefix, toList_output, List.drop_left, Quoted.unescape_escape]
  cases channel with
  | stdout =>
    show (if _ then some (Channel.stdout, String.ofList text.toList) else _) = _
    rw [if_pos rfl, String.ofList_toList]
  | stderr =>
    have hne : (outputTail .stderr).toList ≠ (outputTail .stdout).toList := by decide
    show (if _ then _ else if _ then some (Channel.stderr, String.ofList text.toList) else _) = _
    rw [if_neg hne, if_pos rfl, String.ofList_toList]

theorem outputOf?_record_ne {head : String} (h : head.toList.take 2 ≠ ['=', 'm'])
    (hlength : 2 ≤ head.toList.length) {fields : Fields} {output : Channel × String} :
    outputOf? (record head fields) ≠ some output := by
  obtain ⟨rest, hrest⟩ : ∃ rest, (record head fields).toList = head.toList ++ rest := by
    rw [record]
    split
    · exact ⟨[], (List.append_nil _).symm⟩
    · rw [String.append_assoc, String.toList_append]
      exact ⟨_, rfl⟩
  have hprefix : ¬ outputHead.toList.isPrefixOf (record head fields).toList = true := by
    rw [List.isPrefixOf_iff_prefix, hrest]
    intro hp
    have htake := (List.prefix_iff_eq_take.1 ((List.take_prefix 2 _).trans hp))
    rw [List.take_append_of_le_length] at htake
    · exact h htake.symm
    · exact hlength
  rw [outputOf?, if_neg hprefix]
  exact (Option.some_ne_none output).symm

/-- Only output has a record of output. -/
theorem eq_output_of_outputOf? {e : Event} {channel : Channel} {text : String}
    (h : outputOf? (eventRecord e) = some (channel, text)) : e = .output channel text := by
  cases e with
  | output channel' text' =>
    rw [outputOf?_output] at h
    obtain ⟨rfl, rfl⟩ := Prod.mk.inj (Option.some.inj h)
    rfl
  | processStarted pid name => exact absurd h (outputOf?_record_ne (by decide) (by decide))
  | stopped reason thread => exact absurd h (outputOf?_record_ne (by decide) (by decide))
  | continued thread =>
    cases thread with
    | none => exact absurd h (outputOf?_record_ne (by decide) (by decide))
    | some id => exact absurd h (outputOf?_record_ne (by decide) (by decide))
  | breakpointChanged bp => exact absurd h (outputOf?_record_ne (by decide) (by decide))
  | exited code => exact absurd h (outputOf?_record_ne (by decide) (by decide))
  | terminated => exact absurd h (outputOf?_record_ne (by decide) (by decide))

theorem eventRecord_eq_output_iff {e : Event} {channel : Channel} {text : String} :
    eventRecord e = eventRecord (.output channel text) ↔ e = .output channel text := by
  constructor
  · intro h
    exact eq_output_of_outputOf? ((congrArg outputOf? h).trans (outputOf?_output channel text))
  · rintro rfl
    rfl

/-! ## Sessions -/

variable {σ : Type}

/-- Actions of a scene that write nothing but records. -/
def WritesRecords (s : Scene) (acts : List Action) (_ : Scene) : Prop :=
  s.mode = .mi → (∀ r, s.switch.recipient r ≠ some .console) →
    ∃ recs : List OutputRecord, texts acts = recs.map OutputRecord.text

theorem exists_records {a : Action} {origin : Origin} (rec : OutputRecord)
    (ha : a = .wrote origin rec.text ∨ ∃ e, a = .lost origin rec.text e) :
    ∃ recs : List OutputRecord, texts [a] = recs.map OutputRecord.text := by
  rcases ha with rfl | ⟨e, rfl⟩
  · exact ⟨[rec], rfl⟩
  · exact ⟨[], rfl⟩

theorem manner_writesRecords : Manner WritesRecords where
  nil _ _ _ := ⟨[], rfl⟩
  append hgrows hfirst hsecond hmode hroute := by
    obtain ⟨recs, hrecs⟩ := hfirst hmode hroute
    obtain ⟨more, hmore⟩ := hsecond (hgrows.mode.trans hmode) (hgrows.switch ▸ hroute)
    refine ⟨recs ++ more, ?_⟩
    rw [Action.texts_append, hrecs, hmore, List.map_append]
  silent {a} _ ha _ _ _ := ⟨[], by
    show [a].filterMap Action.text? = []
    rw [List.filterMap_cons_none ha]
    rfl⟩
  reported e {s acts} hgrows hmode _ := by
    obtain ⟨a, ha, hwrite⟩ := Scene.grows_write .event (OutputRecord.text (.event e)) s
    rw [Scene.report_eq, hmode] at hgrows
    rw [hgrows.eq hwrite]
    exact exists_records (.event e) ha
  logged r {s acts} hgrows _ hroute := by
    rw [Scene.log_eq] at hgrows
    cases hr : s.switch.recipient r with
    | none =>
      rw [hr] at hgrows
      rw [hgrows.eq (.refl s)]
      exact ⟨[], rfl⟩
    | some sink =>
      rw [hr] at hgrows
      cases sink with
      | main =>
        rw [hgrows.eq (Scene.grows_add _ s)]
        exact ⟨[], rfl⟩
      | file =>
        rw [hgrows.eq (Scene.grows_add _ s)]
        exact ⟨[], rfl⟩
      | console => exact absurd hr (hroute r)
  captured _ _ _ _ := ⟨[], rfl⟩

theorem isDigit_of_mem_leadingDigits (line : String) :
    ∀ c ∈ (Command.leadingDigits line).toList, isDigit c = true := by
  intro c hc
  rw [Command.leadingDigits, String.toList_ofList] at hc
  exact List.mem_takeWhile_imp hc

theorem isDigit_of_mem_tokenText (cmd : Command) :
    ∀ c ∈ cmd.tokenText.toList, isDigit c = true := by
  rw [Command.tokenText]
  cases cmd.token with
  | none => exact fun c hc => absurd hc List.not_mem_nil
  | some t =>
    show ∀ c ∈ (String.ofList _).toList, _
    rw [String.toList_ofList]
    exact Text.Decimal.isDigit_of_mem_digits

/-- The answer to a command is a record. -/
theorem exists_answerText {E : Engine σ} {cmd : Command} {before : Desk × σ}
    {outcome : Except Complaint Reply} {desk : Desk} {talk : Talk σ}
    (hcarried : cmd.carriedOut E before = ((outcome, desk), talk)) :
    ∃ rec : OutputRecord, rec.text = answerText cmd.tokenText outcome := by
  let mark : Mark := ⟨cmd.tokenText, isDigit_of_mem_tokenText cmd⟩
  cases outcome with
  | error c => exact ⟨.failed mark c.message, rfl⟩
  | ok reply =>
    obtain ⟨op, -, hyields⟩ := Desk.yields_handle (congrArg (fun x => x.1.1) hcarried)
    cases hyields with
    | left => exact ⟨.exit mark, rfl⟩
    | runs => exact ⟨.running mark, rfl⟩
    | finds found => exact ⟨.done mark found, rfl⟩

/-- From `r` on nothing but records was written. -/
def Since (r r' : Run σ Desk) : Prop :=
  ∃ acts, r.scene.Grows acts r'.scene ∧ WritesRecords r.scene acts r'.scene

namespace Since

variable {r r' : Run σ Desk}

theorem refl (r : Run σ Desk) : Since r r := ⟨[], .refl _, manner_writesRecords.nil _⟩

theorem stretch (h : Since r r') {s : Scene} {taken : List Arrival} {called : List Call}
    (hs : ∃ acts, Stretch WritesRecords taken called [] r'.scene acts s) {desk : Desk}
    {engine : σ} : Since r { desk, scene := s, engine } := by
  obtain ⟨acts, hgrows, hrecords⟩ := h
  obtain ⟨more, hmore⟩ := hs
  exact ⟨acts ++ more, hgrows.trans hmore.grows,
    manner_writesRecords.append hgrows hrecords hmore.manner⟩

theorem wrote (h : Since r r') (rec : OutputRecord) : Since r (wrote rec.text r') := by
  obtain ⟨acts, hgrows, hrecords⟩ := h
  obtain ⟨a, ha, hwrite⟩ := Scene.grows_write .reply rec.text r'.scene
  exact ⟨acts ++ [a], hgrows.trans hwrite,
    manner_writesRecords.append hgrows hrecords fun _ _ => exists_records rec ha⟩

theorem refused (h : Since r r') (line text : String) :
    Since r (reply (errorText (Command.leadingDigits line) text) r').2 :=
  h.wrote (.failed ⟨_, isDigit_of_mem_leadingDigits line⟩ text)

theorem obeyed (E : Engine σ) (h : Since r r') (cmd : Command) : Since r (obey E cmd r').2 := by
  rcases hcarried : cmd.carriedOut E (r'.desk, r'.engine) with ⟨⟨outcome, desk⟩, talk⟩
  have hconversed : Since r (conversed desk talk r') :=
    h.stretch (manner_writesRecords.stretch_exchanges talk.exchanges r'.scene)
  obtain ⟨rec, hrec⟩ := exists_answerText hcarried
  rw [obey_run E hcarried, ← hrec]
  exact hconversed.wrote rec

theorem answered (E : Engine σ) (h : Since r r') (heard : Heard) :
    Since r (answer E heard r').2 := by
  cases heard with
  | error u => exact h.refused (Text.Utf8.lossy u.bytes) u.message
  | ok line =>
    by_cases hblank : Text.allBlank line.toList = true
    · rw [answer_of_isBlank E hblank]
      exact h.wrote .prompt
    · have hnoted : Since r (noted line r') := h.stretch (manner_writesRecords.stretch_log _ _)
      rw [answer_of_not_isBlank E hblank]
      cases Command.parse line with
      | none => exact hnoted.refused line malformedLine
      | some cmd => exact hnoted.obeyed E cmd

end Since

/-- A session of the machine interface writes records only, also to a client that may go away. -/
theorem exists_records_loop (E : Engine σ) (input : List Arrival) (r : Run σ Desk) :
    Since r (loop E input r).2 := by
  have hprompt : Since r (wrote prompt r) := (Since.refl r).wrote .prompt
  have hserve := FrontEnd.serve_keeps (F := frontEnd E) (Since r) (fun _ h => h)
    (fun as _ h => h.stretch (manner_writesRecords.stretch_takeAll as _))
    (fun heard _ h => h.answered E heard) (Line.framing.readings input) hprompt
  -- If the first prompt is lost, the loop ends with it.
  rcases hwrite : write prompt r with ⟨_ | _, r'⟩
  · have hr' : wrote prompt r = r' := congrArg Prod.snd hwrite
    rw [loop, bind_of_eq hwrite, ← hr']
    exact hprompt
  · have hr' : wrote prompt r = r' := congrArg Prod.snd hwrite
    rw [loop, bind_of_eq hwrite, ← hr']
    exact hserve

/-- Nothing that comes from outside forges output of the machine interface.  In its records no line
ends but their own, so that a stream of records falls into their lines; a session whose log does not
go to the client writes such a stream.  From a record of output its channel and its text are read
back, and no other event has that record. -/
theorem output_unforged :
    (∀ rec : OutputRecord,
      rec.text.toList = (rec.lines.flatMap fun line => line.toList ++ ['\n']) ∧
        ∀ line ∈ rec.lines, '\n' ∉ line.toList ∧ '\r' ∉ line.toList) ∧
    (∀ recs : List OutputRecord, (String.join (recs.map OutputRecord.text)).toList.splitOn '\n' =
      (recs.flatMap OutputRecord.lines).map String.toList ++ [[]]) ∧
    (∀ (σ : Type) (E : Engine σ) (input : List Arrival) (r : Run σ Desk), r.scene.mode = .mi →
      (∀ rec, r.scene.switch.recipient rec ≠ some .console) →
        ∃ (acts : List Action) (recs : List OutputRecord),
          (loop E input r).2.scene.trace = r.scene.trace ++ acts ∧
            texts acts = recs.map OutputRecord.text) ∧
    (∀ channel text, outputOf? (eventRecord (.output channel text)) = some (channel, text)) ∧
    ∀ e channel text,
      eventRecord e = eventRecord (.output channel text) ↔ e = .output channel text := by
  refine ⟨fun rec => ⟨rec.toList_text, rec.unbroken_lines⟩, OutputRecord.splitOn_texts, ?_,
    outputOf?_output, fun _ _ _ => eventRecord_eq_output_iff⟩
  intro σ E input r hmode hroute
  obtain ⟨acts, hgrows, hrecords⟩ := exists_records_loop E input r
  obtain ⟨recs, hrecs⟩ := hrecords hmode hroute
  exact ⟨acts, recs, hgrows.trace, hrecs⟩

example : eventRecord (.output .stdout "a\n^done\n") =
    "=message,text=\"a\\n^done\\n\",send-to=\"output-window\"" := by decide

/-- A session in which the client sends an unknown command and leaves. -/
theorem output_unforged_exit :
    ∃ recs : List OutputRecord,
      texts (loop lettingGo exitInput freshRun).2.scene.trace = recs.map OutputRecord.text ∧
      (recs.flatMap OutputRecord.lines).map String.toList ++ [[]] =
        ["(gdb)", "07^error,msg=\"<syntax error>\"", "(gdb)", "12^exit", ""].map String.toList := by
  have hroute : ∀ rec, freshRun.scene.switch.recipient rec ≠ some .console := by
    intro rec
    rw [Log.Switch.recipient]
    split
    · show some Sink.main ≠ some Sink.console
      decide
    · exact (Option.some_ne_none _).symm
  have htexts : texts (loop lettingGo exitInput freshRun).2.scene.trace =
      ["(gdb)\n", "07^error,msg=\"<syntax error>\"\n(gdb)\n", "12^exit\n"] := by decide +kernel
  obtain ⟨-, hsplit, hsession, -⟩ := output_unforged
  obtain ⟨acts, recs, htrace, hrecs⟩ := hsession Unit lettingGo exitInput freshRun rfl hroute
  rw [htrace] at htexts ⊢
  refine ⟨recs, hrecs, ?_⟩
  have hacts : texts acts =
      ["(gdb)\n", "07^error,msg=\"<syntax error>\"\n(gdb)\n", "12^exit\n"] := htexts
  rw [← hsplit recs, ← hrecs, hacts]
  decide

end Mi
end DebugSession
