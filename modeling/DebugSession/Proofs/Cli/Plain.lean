/-
The plain text of a command is read as the command.  Together with what is known of white space and
of the short words this covers every way to write a command that sets no breakpoint.
-/
import DebugSession.Proofs.Cli.Spelling

namespace DebugSession
namespace Text
namespace Identifier
namespace Alphabet

/-- A character that starts an identifier and characters that continue it. -/
def IsIdentifier (X : Alphabet) (cs : List Char) : Prop :=
  ∃ c rest, cs = c :: rest ∧ X.isStart c = true ∧ ∀ d ∈ rest, X.isContinue d = true

variable {X : Alphabet} {cs : List Char}

theorem scan_of_isIdentifier (h : X.IsIdentifier cs) : X.scan cs = some (cs, []) := by
  obtain ⟨c, rest, rfl, hc, hrest⟩ := h
  have htake : (rest ++ []).takeWhile X.isContinue = rest ++ [].takeWhile X.isContinue :=
    List.takeWhile_append_of_pos hrest
  have hdrop : (rest ++ []).dropWhile X.isContinue = [].dropWhile X.isContinue :=
    List.dropWhile_append_of_pos hrest
  rw [List.append_nil] at htake hdrop
  rw [scan, if_pos hc, htake, hdrop, List.takeWhile_nil, List.append_nil, List.dropWhile_nil]

theorem skipBlank_of_isIdentifier (h : X.IsIdentifier cs) : skipBlank cs = cs := by
  obtain ⟨c, rest, rfl, hc, -⟩ := h
  refine skipBlank_of_head fun d hd => ?_
  obtain rfl : c = d := Option.some.inj hd
  refine Bool.eq_false_iff.2 fun hblank => ?_
  rw [X.not_isStart c hblank] at hc
  exact nomatch hc

end Alphabet
end Identifier
end Text

namespace Cli

open Text (allBlank isBlank skipBlank)
open Text.Decimal (digits render)
open Text.Identifier (Alphabet)

namespace Command

def text : Command → String
  | .file program args => " ".intercalate ("file" :: program :: args)
  | .run => "run"
  | .attach pid => "attach " ++ render pid.toNat
  | .resume => "continue"
  | .next => "next"
  | .step => "step"
  | .finish => "finish"
  | .interrupt => "interrupt"
  | .breakAdd name line => "break " ++ name ++ ":" ++ render line.toNat
  | .breakRemove id => "break remove " ++ render id.toNat
  | .breakInfo => "break info"
  | .threadInfo => "thread info"
  | .help none => "help"
  | .help (some topic) => "help " ++ topic
  | .quit => "quit"

/-- The commands that set no breakpoint, made of words and identifiers. -/
def Plain (X : Alphabet) : Command → Prop
  | .file program args => ∀ w ∈ program :: args, Form.IsWord w
  | .breakAdd _ _ => False
  | .help (some topic) => X.IsIdentifier topic.toList
  | _ => True

end Command

namespace Form

theorem words_append_word {w : List Char} (hw : ∀ c ∈ w, isBlank c = false)
    (held rest : List Char) : words held (w ++ rest) = words (w.reverse ++ held) rest := by
  induction w generalizing held with
  | nil => rfl
  | cons c w ih =>
    rw [List.cons_append, words, hw c List.mem_cons_self, if_neg Bool.false_ne_true,
      ih (fun d hd => hw d (List.mem_cons_of_mem c hd)), List.reverse_cons, List.append_assoc]
    rfl

/-- A word ends at the white space behind it or with the text. -/
theorem words_word {w : String} (hw : IsWord w) {rest : List Char}
    (hrest : ∀ c ∈ rest.head?, isBlank c = true) :
    words [] (w.toList ++ rest) = w :: words [] rest.tail := by
  have hheld : w.toList.reverse.isEmpty = false := by
    rw [List.isEmpty_reverse]
    exact List.isEmpty_eq_false_iff.2 hw.ne_nil
  have hword : String.ofList w.toList.reverse.reverse = w := by
    rw [List.reverse_reverse, String.ofList_toList]
  rw [words_append_word hw.not_isBlank, List.append_nil]
  cases rest with
  | nil => simp only [words, hheld, hword, List.tail_nil, Bool.false_eq_true, if_false,
      List.isEmpty_nil, if_true]
  | cons c rest => simp only [words, hrest c rfl, hheld, hword, List.tail_cons, Bool.false_eq_true,
      if_false, if_true]

theorem words_intercalate {ws : List String} (hws : ∀ w ∈ ws, IsWord w) :
    words [] (" ".intercalate ws).toList = ws := by
  induction ws with
  | nil => rfl
  | cons w ws ih =>
    have hw := hws w List.mem_cons_self
    have hrest := ih fun v hv => hws v (List.mem_cons_of_mem w hv)
    cases ws with
    | nil =>
      have hone : words [] (w.toList ++ []) = w :: words [] [] := words_word hw fun c hc => nomatch hc
      rwa [List.append_nil] at hone
    | cons v ws =>
      have hblank : ∀ c ∈ (' ' :: (" ".intercalate (v :: ws)).toList).head?, isBlank c = true := by
        intro c hc
        obtain rfl : ' ' = c := Option.some.inj hc
        decide
      rw [String.intercalate_cons_cons, String.toList_append, String.toList_append,
        List.append_assoc]
      exact (words_word hw hblank).trans (congrArg (w :: ·) hrest)

theorem word?_blank {w : String} (hw : IsWord w) (cs : List Char) :
    word? w (w.toList ++ ' ' :: cs) = some (skipBlank cs) := by
  have hskip : skipBlank (' ' :: cs) = skipBlank cs := List.dropWhile_cons_of_pos (by decide)
  rw [word?_of_eq (hw.skipBlank_append _), hskip]

theorem file_intercalate {program : String} {args : List String}
    (hwords : ∀ w ∈ program :: args, IsWord w) :
    file ("file".toList ++ ' ' :: (" ".intercalate (program :: args)).toList) =
      .matched (.file program args) [] := by
  have hskip : skipBlank (" ".intercalate (program :: args)).toList =
      (" ".intercalate (program :: args)).toList := by
    have hprogram := hwords program List.mem_cons_self
    cases args with
    | nil =>
      have hone := hprogram.skipBlank_append []
      rwa [List.append_nil] at hone
    | cons w args =>
      rw [String.intercalate_cons_cons, String.toList_append, String.toList_append,
        List.append_assoc]
      exact hprogram.skipBlank_append _
  rw [file, word?_blank (by decide), hskip]
  simp only [words_intercalate hwords]

theorem attach_digits (pid : UInt32) :
    attach ("attach".toList ++ ' ' :: digits pid.toNat) = .matched (.attach pid) [] := by
  rw [attach, word?_blank (by decide)]
  simp only [number_skipBlank, number_digits]
  rfl

theorem breakpoint_remove (id : UInt32) :
    breakpoint ("break".toList ++ ' ' :: ("remove".toList ++ ' ' :: digits id.toNat)) =
      .matched (.breakRemove id) [] := by
  have hremove : breakRemove ("remove".toList ++ ' ' :: digits id.toNat) =
      .matched (.breakRemove id) [] := by
    rw [breakRemove, word?_blank (by decide)]
    simp only [number_skipBlank, number_digits]
    rfl
  have hskip : skipBlank ("remove".toList ++ ' ' :: digits id.toNat) =
      "remove".toList ++ ' ' :: digits id.toNat :=
    IsWord.skipBlank_append (by decide) _
  rw [breakpoint, spelled?, word?_blank (by decide), hskip]
  show (breakRemove _).orElse _ = _
  rw [hremove]
  rfl

theorem help_identifier {X : Alphabet} {topic : String} (htopic : X.IsIdentifier topic.toList) :
    help X ("help".toList ++ ' ' :: topic.toList) = .matched (.help (some topic)) [] := by
  have hspelled : spelled? "help" "h" ("help".toList ++ ' ' :: topic.toList) =
      some topic.toList := by
    rw [spelled?, word?_blank (by decide), Alphabet.skipBlank_of_isIdentifier htopic]
    rfl
  rw [help, hspelled]
  simp only [Alphabet.scan_of_isIdentifier htopic, String.ofList_toList]
  rfl

/-- A text that a form uses up is read by it if no form before it has words with its letter. -/
theorem parse_of_formsFor {X : Alphabet} {line : String} {cs : List Char} {c : Char}
    {command : Command} {form : List Char → Attempt Command}
    {forms : List (List Char → Attempt Command)} (hline : line.toList = cs)
    (hc : (skipBlank cs).head? = some c) (hforms : formsFor X c = form :: forms)
    (hform : form cs = .matched command []) : Command.parseOver X line = .ok command := by
  subst hline
  rw [Command.parseOver, firstMatch_forms X hc, hforms, firstMatch, hform]
  rfl

end Form

theorem parse_text (X : Alphabet) {c : Command} (hc : c.Plain X) :
    Command.parseOver X c.text = .ok c := by
  cases c with
  | file program args =>
    have htext : (Command.file program args).text.toList =
        "file".toList ++ ' ' :: (" ".intercalate (program :: args)).toList := by
      rw [Command.text, String.intercalate_cons_cons, String.toList_append, String.toList_append,
        List.append_assoc]
      rfl
    exact Form.parse_of_formsFor htext rfl rfl (Form.file_intercalate hc)
  | attach pid =>
    have htext : (Command.attach pid).text.toList = "attach".toList ++ ' ' :: digits pid.toNat := by
      simp [Command.text, render]
    exact Form.parse_of_formsFor htext rfl rfl (Form.attach_digits pid)
  | breakAdd file line => exact hc.elim
  | breakRemove id =>
    have htext : (Command.breakRemove id).text.toList =
        "break".toList ++ ' ' :: ("remove".toList ++ ' ' :: digits id.toNat) := by
      simp [Command.text, render]
    exact Form.parse_of_formsFor htext rfl rfl (Form.breakpoint_remove id)
  | help topic =>
    cases topic with
    | none => rfl
    | some topic =>
      have htext : (Command.help (some topic)).text.toList =
          "help".toList ++ ' ' :: topic.toList := by
        simp [Command.text]
      exact Form.parse_of_formsFor htext rfl rfl (Form.help_identifier hc)
  | run | resume | next | step | finish | interrupt | breakInfo | threadInfo | quit => rfl

/-- Whatever stands for an identifier, a command that sets no breakpoint is read from its plain
text; white space around a line that is not blank makes no difference to it, and neither does the
choice between the long and the short spelling of its first word. -/
theorem parse_every_spelling (X : Alphabet) :
    (∀ c : Command, c.Plain X → Command.parseOver X c.text = .ok c) ∧
      (∀ u s v : String, allBlank u.toList = true → allBlank v.toList = true →
        allBlank s.toList = false →
          ∀ c, Command.parseOver X (u ++ s ++ v) = .ok c ↔ Command.parseOver X s = .ok c) ∧
      ∀ p ∈ spellings, ∀ t : String, (∀ c ∈ t.toList.head?, isBlank c = true) →
        ∀ c, Command.parseOver X (p.1 ++ t) = .ok c ↔ Command.parseOver X (p.2 ++ t) = .ok c := by
  refine ⟨fun c hc => parse_text X hc, ?_, ?_⟩
  · intro u s v hu hv hs c
    rw [parse_padded X hu hv hs]
  · intro p hp t ht c
    rw [parse_spellings X hp ht]

/-- The plain text, written with the short word and with white space of several kinds around it. -/
theorem parse_remove_spaced : Command.parse "\u2003b remove 2\n" = .ok (.breakRemove 2) := by
  obtain ⟨hplain, hspace, hshort⟩ := parse_every_spelling .unicode
  have htext : (Command.breakRemove 2).text = "break" ++ " remove 2" := by decide +kernel
  have hlong : Command.parseOver .unicode ("break" ++ " remove 2") = .ok (.breakRemove 2) :=
    htext ▸ hplain (.breakRemove 2) trivial
  have hblank : ∀ c ∈ " remove 2".toList.head?, isBlank c = true := by
    intro c hc
    obtain rfl : ' ' = c := Option.some.inj hc
    decide
  have hb : Command.parseOver .unicode ("b" ++ " remove 2") = .ok (.breakRemove 2) :=
    (hshort ("break", "b") (by decide) " remove 2" hblank _).1 hlong
  exact (hspace "\u2003" "b remove 2" "\n" (by decide) (by decide) (by decide) _).2 hb

end Cli
end DebugSession
