/-
Breakpoints by file and line on the command line.  The place of a breakpoint stands where the words
`info` and `remove` may stand, too, and a form that matches a beginning is kept; so a file whose name
begins like one of these forms cannot be named, and every other file can.
-/
import DebugSession.Proofs.Cli.Form

namespace DebugSession
namespace Cli

open Text (allBlank isBlank skipBlank trimBlank)
open Text.Decimal (digits render)

namespace Form

def placeText (file : List Char) (line : UInt32) : List Char := file ++ ':' :: digits line.toNat

/-- A text that begins like another form of the breakpoint command: with `info`, or with `remove`
and a number. -/
def Shadowed (cs : List Char) : Prop :=
  "info".toList <+: cs ∨
    "remove".toList <+: cs ∧ StartsNumber (cs.drop "remove".length)

instance (cs : List Char) : Decidable (Shadowed cs) := inferInstanceAs (Decidable (_ ∨ _))

section Place

variable {file : List Char} (line : UInt32)

theorem skipBlank_placeText (hhead : ∀ c ∈ file.head?, isBlank c = false) :
    skipBlank (placeText file line) = placeText file line := by
  refine Text.skipBlank_of_head fun c hc => ?_
  cases file with
  | nil =>
    obtain rfl : ':' = c := Option.some.inj hc
    decide
  | cons d file => exact hhead c hc

theorem startsNumber_append_cons {c : Char} (hblank : isBlank c = false)
    (hdigit : Text.Decimal.isDigit c = false) (s v : List Char) :
    StartsNumber (s ++ c :: v) ↔ StartsNumber s := by
  rw [StartsNumber, Text.skipBlank_append_cons hblank, Text.Decimal.numeral_append_cons hdigit]
  rfl

/-- The place is read as such where it is looked for. -/
theorem location_placeText (hne : file ≠ []) (hcolon : ':' ∉ file)
    (hhead : ∀ c ∈ file.head?, isBlank c = false)
    (hlast : ∀ c ∈ file.getLast?, isBlank c = false) :
    location (placeText file line) = .matched (.breakAdd (String.ofList file) line) [] := by
  have hcut : (placeText file line).takeWhile (· ≠ ':') = file ∧
      (placeText file line).dropWhile (· ≠ ':') = ':' :: digits line.toNat :=
    cut_at_colon hcolon (digits line.toNat)
  obtain ⟨htake, hdrop⟩ := hcut
  have hdigit : (digits line.toNat).head?.any isBlank = false := by
    cases hd : (digits line.toNat).head? with
    | none => rfl
    | some c =>
      exact Text.Decimal.not_isBlank_of_isDigit
        (Text.Decimal.isDigit_of_mem_digits c (List.mem_of_mem_head? hd))
  obtain ⟨c, more, rfl⟩ := List.exists_cons_of_ne_nil hne
  rw [location]
  simp only [skipBlank_placeText line hhead, htake, hdrop, hdigit, number_digits,
    Text.trimBlank_eq_self hhead hlast]
  rfl

/-- The name of a file begins with a word exactly if the place does. -/
theorem word?_placeText {w : String} (hw : ':' ∉ w.toList)
    (hhead : ∀ c ∈ file.head?, isBlank c = false) :
    word? w (placeText file line) =
      if w.toList <+: file then some (skipBlank (placeText (file.drop w.length) line)) else none := by
  have hskip := skipBlank_placeText line hhead
  split
  · next hpre =>
    obtain ⟨more, rfl⟩ := hpre
    rw [← String.length_toList, List.drop_left]
    exact word?_of_eq (by rw [hskip, placeText, List.append_assoc]; rfl)
  · next hpre =>
    refine word?_eq_none ?_
    rw [hskip]
    exact mt (prefix_of_prefix_append_cons hw) hpre

theorem skipBlank_placeText_ne_nil : skipBlank (placeText file line) ≠ [] := by
  rw [placeText, Text.skipBlank_append_cons (by decide)]
  exact List.append_ne_nil_of_right_ne_nil _ (List.cons_ne_nil _ _)

theorem atEnd_matched_of_ne_nil {α : Type} {a : α} {rest : List Char} (h : rest ≠ []) :
    (Attempt.matched a rest).atEnd = .failed := by
  cases rest with
  | nil => exact absurd rfl h
  | cons c rest => rfl

/-- With `remove` and a number the other form is tried on the name, and the colon is left over. -/
theorem breakRemove_placeText (hhead : ∀ c ∈ file.head?, isBlank c = false)
    (hremove : "remove".toList <+: file) (hnumber : StartsNumber (file.drop "remove".length)) :
    ∃ id rest, rest ≠ [] ∧
      breakRemove (placeText file line) = .matched (.breakRemove id) rest := by
  have hword := word?_placeText (w := "remove") line (by decide) hhead
  rw [if_pos hremove] at hword
  have hstarts : StartsNumber (placeText (file.drop "remove".length) line) :=
    (startsNumber_append_cons (by decide) (by decide) _ _).2 hnumber
  rw [breakRemove, hword]
  simp only [number_skipBlank, number_of_startsNumber hstarts]
  refine ⟨_, _, ?_, rfl⟩
  rw [placeText, Text.skipBlank_append_cons (by decide), Text.Decimal.numeral_append_cons (by decide)]
  exact skipBlank_placeText_ne_nil line

/-- Without a number the word `remove` is part of a name. -/
theorem breakRemove_placeText_of_not (hhead : ∀ c ∈ file.head?, isBlank c = false)
    (h : ¬ ("remove".toList <+: file ∧ StartsNumber (file.drop "remove".length))) :
    breakRemove (placeText file line) = .failed := by
  rw [breakRemove, word?_placeText line (by decide) hhead]
  by_cases hremove : "remove".toList <+: file
  · have hnot : ¬ StartsNumber (placeText (file.drop "remove".length) line) := fun hstarts =>
      h ⟨hremove, (startsNumber_append_cons (by decide) (by decide) _ _).1 hstarts⟩
    rw [if_pos hremove]
    simp only [number_skipBlank, lenient_number_of_not hnot]
    rfl
  · rw [if_neg hremove]

/-- What the forms of a breakpoint command make of a place. -/
theorem atEnd_forms_placeText (hne : file ≠ []) (hcolon : ':' ∉ file)
    (hhead : ∀ c ∈ file.head?, isBlank c = false)
    (hlast : ∀ c ∈ file.getLast?, isBlank c = false) :
    ((breakRemove (placeText file line)).orElse fun _ =>
        (constant .breakInfo (word? "info" (placeText file line))).orElse fun _ =>
          location (placeText file line)).atEnd =
      if Shadowed file then .failed else .matched (.breakAdd (String.ofList file) line) [] := by
  by_cases hremove : "remove".toList <+: file ∧ StartsNumber (file.drop "remove".length)
  · obtain ⟨id, rest, hrest, hmatched⟩ :=
      breakRemove_placeText line hhead hremove.1 hremove.2
    rw [if_pos (.inr hremove), hmatched]
    exact atEnd_matched_of_ne_nil hrest
  · rw [breakRemove_placeText_of_not line hhead hremove, word?_placeText line (by decide) hhead]
    by_cases hinfo : "info".toList <+: file
    · rw [if_pos hinfo, if_pos (.inl hinfo)]
      exact atEnd_matched_of_ne_nil (skipBlank_placeText_ne_nil line)
    · have hnot : ¬ Shadowed file := not_or.2 ⟨hinfo, hremove⟩
      rw [if_neg hinfo, if_neg hnot]
      show (location (placeText file line)).atEnd = _
      rw [location_placeText line hne hcolon hhead hlast]
      rfl

end Place

theorem spelled?_breakpoint {w : String} (hw : w = "break" ∨ w = "b") {cs : List Char}
    (hhead : ∀ c ∈ cs.head?, isBlank c = false) :
    spelled? "break" "b" (w.toList ++ ' ' :: cs) = some cs := by
  have hskip : skipBlank (' ' :: cs) = cs :=
    (List.dropWhile_cons_of_pos (by decide)).trans (Text.skipBlank_of_head hhead)
  have hblank : ∀ c ∈ (' ' :: cs).head?, isBlank c = true := fun c hc => by
    obtain rfl : ' ' = c := Option.some.inj hc
    decide
  have hread : IsWord "break" ∧ IsWord "b" ∧ ¬ "break".toList <+: "b".toList := by decide
  obtain ⟨hlong, hshort⟩ := spelled?_either hread.1 hread.2.1 hread.2.2 hblank
  rw [hskip] at hlong hshort
  rcases hw with rfl | rfl
  · exact hlong
  · exact hshort

end Form

/-- A breakpoint command with a file and a line is read as such, in both spellings, unless the name
of the file begins like another form of the command; then the line is refused. -/
theorem parse_location {w file : String} (hw : w = "break" ∨ w = "b") (hne : file ≠ "")
    (hcolon : ':' ∉ file.toList) (hhead : ∀ c ∈ file.toList.head?, isBlank c = false)
    (hlast : ∀ c ∈ file.toList.getLast?, isBlank c = false) (line : UInt32) :
    Command.parse (w ++ " " ++ file ++ ":" ++ render line.toNat) =
      if Form.Shadowed file.toList then .error .malformed else .ok (.breakAdd file line) := by
  have hchars : (w ++ " " ++ file ++ ":" ++ render line.toNat).toList =
      w.toList ++ ' ' :: Form.placeText file.toList line := by
    simp [Form.placeText, render]
  have hhead' : ∀ c ∈ (Form.placeText file.toList line).head?, isBlank c = false := by
    rw [← Form.skipBlank_placeText line hhead]
    exact fun c hc => Text.not_isBlank_of_mem_head? hc
  have hb : (skipBlank (w.toList ++ ' ' :: Form.placeText file.toList line)).head? = some 'b' := by
    rcases hw with rfl | rfl <;> rfl
  have hmatch : Form.firstMatch (w.toList ++ ' ' :: Form.placeText file.toList line)
      (Form.forms .unicode) =
        if Form.Shadowed file.toList then .failed else .matched (.breakAdd file line) [] := by
    rw [Form.firstMatch_forms .unicode hb]
    show Form.firstMatch _ [Form.breakpoint] = _
    rw [Form.firstMatch_singleton, Form.breakpoint, Form.spelled?_breakpoint hw hhead']
    have hforms := Form.atEnd_forms_placeText line (mt String.toList_eq_nil_iff.1 hne) hcolon hhead
      hlast
    rw [String.ofList_toList] at hforms
    exact hforms
  have hline : (w ++ " " ++ file ++ ":" ++ render line.toNat).isEmpty = false := by
    rw [← Bool.not_eq_true, String.isEmpty_iff, ← String.toList_eq_nil_iff, hchars]
    exact List.append_ne_nil_of_right_ne_nil _ (List.cons_ne_nil _ _)
  rw [Command.parse, Command.parseOver, hchars, hmatch, hline]
  by_cases hshadowed : Form.Shadowed file.toList
  · rw [if_pos hshadowed, if_pos hshadowed]
    rfl
  · rw [if_neg hshadowed, if_neg hshadowed]

/-- A file named like the word `remove` can be meant if no number follows. -/
theorem parse_location_remove :
    Command.parse "b remove me.rs:12" = .ok (.breakAdd "remove me.rs" 12) := by
  have htext : "b" ++ " " ++ "remove me.rs" ++ ":" ++ render (12 : UInt32).toNat =
      "b remove me.rs:12" := by decide +kernel
  have hhead : ∀ c ∈ "remove me.rs".toList.head?, isBlank c = false := fun c hc => by
    obtain rfl : 'r' = c := Option.some.inj hc
    decide
  have hlast : ∀ c ∈ "remove me.rs".toList.getLast?, isBlank c = false := fun c hc => by
    obtain rfl : 's' = c := Option.some.inj hc
    decide
  have hparse : Command.parse ("b" ++ " " ++ "remove me.rs" ++ ":" ++ render (12 : UInt32).toNat) =
      if Form.Shadowed "remove me.rs".toList then .error .malformed
      else .ok (.breakAdd "remove me.rs" 12) :=
    parse_location (.inr rfl) (by decide) (by decide) hhead hlast 12
  rw [htext, if_neg (by decide)] at hparse
  exact hparse

/-- Files in which the command line cannot set a breakpoint. -/
theorem parse_shadowed_names :
    Command.parse "break info.rs:12" ≠ .ok (.breakAdd "info.rs" 12) ∧
      Command.parse "b remove2.rs:12" ≠ .ok (.breakAdd "remove2.rs" 12) := by
  have hinfo : Command.parse "break info.rs:12" = .error .malformed := rfl
  have hremove : Command.parse "b remove2.rs:12" = .error .malformed := rfl
  rw [hinfo, hremove]
  exact ⟨nofun, nofun⟩

end Cli
end DebugSession
