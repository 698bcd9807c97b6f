/-
All ways to write a command on the command line: its plain text, white space around it, and the
short words.  White space counts nowhere but between words, and a form reads the same in front of it.
-/
import DebugSession.Proofs.Cli.Form

namespace DebugSession
namespace Cli

open Text (allBlank isBlank skipBlank trimBlank)
open Text.Decimal (digits render)
open Text.Identifier (Alphabet)

/-! ## White space behind a text -/

namespace Form

/-- What is left over of a text once white space `v` stands behind it, if `rest` was left over
before.  A form that used up its text uses up the white space, too. -/
def behind (v rest : List Char) : List Char := if rest.isEmpty then [] else rest ++ v

theorem behind_nil (v : List Char) : behind v [] = [] := rfl

theorem behind_cons (v : List Char) (c : Char) (rest : List Char) :
    behind v (c :: rest) = c :: rest ++ v := rfl

variable {v : List Char}

theorem skipBlank_append (hv : allBlank v = true) (cs : List Char) :
    skipBlank (cs ++ v) = behind v (skipBlank cs) := by
  have hskip := Text.skipBlank_of_allBlank hv
  rw [skipBlank] at hskip
  rw [skipBlank, List.dropWhile_append, hskip]
  rfl

theorem takeWhile_append {p : Char → Bool} (hp : ∀ c, isBlank c = true → p c = false)
    (hv : allBlank v = true) (s : List Char) :
    (s ++ v).takeWhile p = s.takeWhile p ∧ (s ++ v).dropWhile p = s.dropWhile p ++ v := by
  cases v with
  | nil => simp
  | cons c v => exact Text.takeWhile_append_cons (hp c (List.all_eq_true.1 hv c List.mem_cons_self)) s v

theorem prefix_of_prefix_append {w : List Char} (hw : ∀ c ∈ w, isBlank c = false)
    (hv : allBlank v = true) {s : List Char} (h : w <+: s ++ v) : w <+: s := by
  cases v with
  | nil => rwa [List.append_nil] at h
  | cons c v =>
    refine prefix_of_prefix_append_cons (fun hc => ?_) h
    have hblank := List.all_eq_true.1 hv c List.mem_cons_self
    rw [hw c hc] at hblank
    exact nomatch hblank

end Form

namespace Attempt

variable {α β : Type}

/-- The same attempt with something else left over. -/
def onRest (f : List Char → List Char) : Attempt α → Attempt α
  | matched a rest => matched a (f rest)
  | failed => failed
  | tooLarge digits => tooLarge digits

theorem map_onRest (f : List Char → List Char) (g : α → β) (a : Attempt α) :
    (a.onRest f).map g = (a.map g).onRest f := by
  cases a <;> rfl

theorem lenient_onRest (f : List Char → List Char) (a : Attempt α) :
    (a.onRest f).lenient = a.lenient.onRest f := by
  cases a <;> rfl

theorem orElse_onRest (f : List Char → List Char) (a b : Attempt α) :
    ((a.onRest f).orElse fun _ => b.onRest f) = (a.orElse fun _ => b).onRest f := by
  cases a <;> rfl

theorem atEnd_onRest (v : List Char) (a : Attempt α) :
    (a.onRest (Form.behind v)).atEnd = a.atEnd := by
  cases a with
  | matched a rest => cases rest <;> rfl
  | failed => rfl
  | tooLarge digits => rfl

end Attempt

/-! ## Forms and white space -/

namespace Form

/-- White space at either end of a text makes no difference to a form. -/
structure Padded {α : Type} (form : List Char → Attempt α) : Prop where
  skip : ∀ cs, form (skipBlank cs) = form cs
  append : ∀ cs v, allBlank v = true → form (cs ++ v) = (form cs).onRest (behind v)

namespace Padded

variable {α β : Type} {form : List Char → Attempt α}

theorem behind (h : Padded form) {v : List Char} (hv : allBlank v = true) (rest : List Char) :
    form (Form.behind v rest) = (form rest).onRest (Form.behind v) := by
  cases rest with
  | nil => rw [behind_nil, ← h.append [] v hv, List.nil_append, ← h.skip v,
      Text.skipBlank_of_allBlank hv]
  | cons c rest => exact h.append (c :: rest) v hv

theorem map (h : Padded form) (g : α → β) : Padded fun cs => (form cs).map g where
  skip cs := by rw [h.skip]
  append cs v hv := by rw [h.append cs v hv, Attempt.map_onRest]

theorem lenient (h : Padded form) : Padded fun cs => (form cs).lenient where
  skip cs := by rw [h.skip]
  append cs v hv := by rw [h.append cs v hv, Attempt.lenient_onRest]

theorem orElse (h : Padded form) {other : List Char → Attempt α} (h' : Padded other) :
    Padded fun cs => (form cs).orElse fun _ => other cs where
  skip cs := by rw [h.skip, h'.skip]
  append cs v hv := by rw [h.append cs v hv, h'.append cs v hv, Attempt.orElse_onRest]

end Padded

theorem word?_skipBlank (w : String) (cs : List Char) : word? w (skipBlank cs) = word? w cs := by
  rw [word?, word?, Text.skipBlank_skipBlank]

theorem word?_append {w : String} (hw : IsWord w) {v : List Char} (hv : allBlank v = true)
    (cs : List Char) : word? w (cs ++ v) = (word? w cs).map (behind v) := by
  have hskip := skipBlank_append hv cs
  by_cases h : w.toList <+: skipBlank cs
  · obtain ⟨rest, hrest⟩ := h
    rw [word?_of_eq hrest.symm, Option.map_some, ← skipBlank_append hv]
    refine word?_of_eq ?_
    rw [hskip, ← hrest, ← List.append_assoc]
    cases hcons : w.toList ++ rest with
    | nil => exact absurd (List.append_eq_nil_iff.1 hcons).1 hw.ne_nil
    | cons c cs => rfl
  · rw [word?_eq_none h, Option.map_none]
    refine word?_eq_none fun hpre => h ?_
    rw [hskip] at hpre
    cases hcs : skipBlank cs with
    | nil =>
      rw [hcs, behind_nil] at hpre
      exact absurd (List.prefix_nil.1 hpre) hw.ne_nil
    | cons c rest =>
      rw [hcs, behind_cons] at hpre
      exact prefix_of_prefix_append hw.not_isBlank hv hpre

theorem spelled?_skipBlank (long short : String) (cs : List Char) :
    spelled? long short (skipBlank cs) = spelled? long short cs := by
  rw [spelled?, spelled?, word?_skipBlank, word?_skipBlank]

theorem spelled?_append {long short : String} (hlong : IsWord long) (hshort : IsWord short)
    {v : List Char} (hv : allBlank v = true) (cs : List Char) :
    spelled? long short (cs ++ v) = (spelled? long short cs).map (behind v) := by
  rw [spelled?, spelled?, word?_append hlong hv, word?_append hshort hv]
  cases word? long cs <;> rfl

theorem padded_word {w : String} (hw : IsWord w) {α : Type} {next : List Char → Attempt α}
    (hnext : ∀ v, allBlank v = true → ∀ rest,
      next (behind v rest) = (next rest).onRest (behind v)) :
    Padded fun cs => match word? w cs with
      | none => .failed
      | some rest => next rest where
  skip cs := by rw [word?_skipBlank]
  append cs v hv := by
    rw [word?_append hw hv]
    cases word? w cs with
    | none => rfl
    | some rest => exact hnext v hv rest

theorem padded_spelled (long short : String) (hlong : IsWord long) (hshort : IsWord short)
    {α : Type} {next : List Char → Attempt α}
    (hnext : ∀ v, allBlank v = true → ∀ rest,
      next (behind v rest) = (next rest).onRest (behind v)) :
    Padded fun cs => match spelled? long short cs with
      | none => .failed
      | some rest => next rest where
  skip cs := by rw [spelled?_skipBlank]
  append cs v hv := by
    rw [spelled?_append hlong hshort hv]
    cases spelled? long short cs with
    | none => rfl
    | some rest => exact hnext v hv rest

theorem padded_number : Padded number where
  skip := number_skipBlank
  append cs v hv := by
    have hread : ∀ s : List Char, Text.Decimal.numeral (s ++ v) =
        ((Text.Decimal.numeral s).1, (Text.Decimal.numeral s).2 ++ v) := by
      intro s
      cases v with
      | nil => rw [List.append_nil, List.append_nil]
      | cons c v =>
        have hblank := List.all_eq_true.1 hv c List.mem_cons_self
        refine Text.Decimal.numeral_append_cons (Bool.eq_false_iff.2 fun hdigit => ?_) s v
        rw [Text.Decimal.not_isBlank_of_isDigit hdigit] at hblank
        exact nomatch hblank
    have hnumeral : Text.Decimal.numeral (skipBlank (cs ++ v)) =
        ((Text.Decimal.numeral (skipBlank cs)).1,
          if skipBlank cs = [] then [] else (Text.Decimal.numeral (skipBlank cs)).2 ++ v) := by
      rw [skipBlank_append hv]
      cases h : skipBlank cs with
      | nil => rfl
      | cons c rest => exact hread (c :: rest)
    rw [number, number, hnumeral]
    rcases hds : Text.Decimal.numeral (skipBlank cs) with ⟨_ | ⟨d, ds⟩, rest⟩
    · rfl
    · have hne : skipBlank cs ≠ [] := by
        intro hnil
        rw [hnil] at hds
        exact List.cons_ne_nil d ds (congrArg Prod.fst hds).symm
      simp only [if_neg hne, skipBlank_append hv]
      split <;> rfl

theorem words_append {v : List Char} (hv : allBlank v = true) (cs held : List Char) :
    words held (cs ++ v) = words held cs := by
  induction cs generalizing held with
  | nil =>
    induction v generalizing held with
    | nil => rfl
    | cons c v ih =>
      rw [allBlank, List.all_cons, Bool.and_eq_true] at hv
      have hrest := ih hv.2 []
      simp only [List.nil_append] at hrest ⊢
      simp only [words, hv.1, if_true, hrest, List.isEmpty_nil]
  | cons c cs ih => simp only [List.cons_append, words, ih]

theorem padded_file : Padded file := by
  refine padded_word (w := "file") (by decide) fun v hv rest => ?_
  have hwords : words [] (behind v rest) = words [] rest := by
    cases rest with
    | nil => rfl
    | cons c rest => exact words_append hv (c :: rest) []
  rw [hwords]
  cases words [] rest <;> rfl

/-- Behind the colon a digit has to stand; white space there is no better than nothing. -/
theorem line_append {α : Type} (g : UInt32 → α) {v : List Char} (hv : allBlank v = true)
    (rest : List Char) :
    (if (rest ++ v).head?.any isBlank then .failed else (number (rest ++ v)).map g) =
      (if rest.head?.any isBlank then .failed else (number rest).map g).onRest (behind v) := by
  rw [padded_number.append rest v hv, Attempt.map_onRest]
  cases rest with
  | nil => cases ([] ++ v).head?.any isBlank <;> rfl
  | cons c rest =>
    have hhead : (c :: rest ++ v).head?.any isBlank = (c :: rest).head?.any isBlank := rfl
    rw [hhead]
    cases (c :: rest).head?.any isBlank <;> rfl

theorem padded_location : Padded location where
  skip cs := by rw [location, location, Text.skipBlank_skipBlank]
  append cs v hv := by
    rw [location, location, skipBlank_append hv]
    by_cases hmem : ':' ∈ skipBlank cs
    · -- a text with a colon is never used up before it, so all the white space comes behind it
      obtain ⟨file, rest, htext, hfile⟩ := List.eq_append_cons_of_mem hmem
      have hbehind : behind v (skipBlank cs) = file ++ ':' :: (rest ++ v) := by
        rw [htext]
        cases file <;> simp [behind]
      rw [hbehind, htext]
      obtain ⟨htake, hdrop⟩ := cut_at_colon hfile rest
      obtain ⟨htake', hdrop'⟩ := cut_at_colon hfile (rest ++ v)
      simp only [htake, hdrop, htake', hdrop']
      cases file with
      | nil => rfl
      | cons c file => exact line_append _ hv rest
    · have hnone : ∀ text : List Char, ':' ∉ text → text.dropWhile (· ≠ ':') = [] := by
        intro text htext
        induction text with
        | nil => rfl
        | cons c text ih =>
          have hc : decide (c ≠ ':') = true := decide_eq_true fun h => htext (h ▸ List.mem_cons_self)
          rw [List.dropWhile_cons_of_pos (p := fun c => decide (c ≠ ':')) hc]
          exact ih fun h => htext (List.mem_cons_of_mem c h)
      have hboth : ':' ∉ behind v (skipBlank cs) := by
        cases h : skipBlank cs with
        | nil => exact List.not_mem_nil
        | cons c text =>
          rw [behind_cons, ← h]
          refine fun hin => (List.mem_append.1 hin).elim hmem fun hin => ?_
          exact absurd (List.all_eq_true.1 hv ':' hin) (by decide)
      simp only [hnone _ hmem, hnone _ hboth]
      cases (behind v (skipBlank cs)).takeWhile (· ≠ ':') <;>
        cases (skipBlank cs).takeWhile (· ≠ ':') <;> rfl

theorem padded_breakRemove : Padded breakRemove :=
  padded_word (w := "remove") (by decide) fun _ hv rest =>
    (padded_number.lenient.map Command.breakRemove).behind hv rest

theorem padded_constant (c : Command) {w : String} (hw : IsWord w) :
    Padded fun cs => constant c (word? w cs) where
  skip cs := by rw [word?_skipBlank]
  append cs v hv := by
    rw [word?_append hw hv]
    cases word? w cs <;> rfl

theorem padded_constant_spelled (c : Command) {long short : String} (hlong : IsWord long)
    (hshort : IsWord short) : Padded fun cs => constant c (spelled? long short cs) where
  skip cs := by rw [spelled?_skipBlank]
  append cs v hv := by
    rw [spelled?_append hlong hshort hv]
    cases spelled? long short cs <;> rfl

theorem padded_breakpoint : Padded breakpoint := by
  refine padded_spelled "break" "b" (by decide) (by decide) fun v hv rest => ?_
  have hinfo := padded_constant .breakInfo (w := "info") (by decide)
  exact (padded_breakRemove.orElse (hinfo.orElse padded_location)).behind hv rest

theorem padded_threadInfo : Padded threadInfo := by
  have hinfo := padded_constant .threadInfo (w := "info") (by decide)
  have hform : threadInfo = fun cs => match word? "thread" cs with
      | none => .failed
      | some rest => constant .threadInfo (word? "info" rest) := by
    funext cs
    rw [threadInfo]
    cases word? "thread" cs <;> rfl
  rw [hform]
  exact padded_word (by decide) fun v hv rest => hinfo.behind hv rest

theorem scan_append (X : Alphabet) {v : List Char} (hv : allBlank v = true) (c : Char)
    (rest : List Char) :
    X.scan (c :: rest ++ v) = (X.scan (c :: rest)).map fun found => (found.1, found.2 ++ v) := by
  obtain ⟨htake, hdrop⟩ := takeWhile_append X.not_isContinue hv rest
  rw [List.cons_append, Alphabet.scan, Alphabet.scan, htake, hdrop]
  split <;> rfl

theorem padded_help (X : Alphabet) : Padded (help X) := by
  refine padded_spelled "help" "h" (by decide) (by decide) fun v hv rest => ?_
  cases rest with
  | nil => rfl
  | cons c rest =>
    rw [behind_cons, scan_append X hv]
    cases X.scan (c :: rest) with
    | none =>
      show Attempt.matched _ (skipBlank (c :: rest ++ v)) = _
      rw [skipBlank_append hv]
      rfl
    | some found =>
      show Attempt.matched _ (skipBlank (found.2 ++ v)) = _
      rw [skipBlank_append hv]
      rfl

theorem padded_of_mem_forms (X : Alphabet) {form : List Char → Attempt Command}
    (h : form ∈ forms X) : Padded form := by
  revert form
  simp only [forms, List.forall_mem_cons, List.not_mem_nil, false_imp_iff, implies_true, and_true]
  refine ⟨?_, ?_, ?_, ?_, ?_, ?_, ?_, ?_, ?_, ?_, ?_, ?_⟩
  · exact padded_file
  · exact padded_constant_spelled .run (by decide) (by decide)
  · exact padded_word (w := "attach") (by decide) fun v hv rest =>
      (padded_number.map Command.attach).behind hv rest
  · exact padded_constant_spelled .resume (by decide) (by decide)
  · exact padded_constant_spelled .next (by decide) (by decide)
  · exact padded_constant_spelled .step (by decide) (by decide)
  · exact padded_constant .finish (by decide)
  · exact padded_constant_spelled .interrupt (by decide) (by decide)
  · exact padded_breakpoint
  · exact padded_threadInfo
  · exact padded_help X
  · exact padded_constant_spelled .quit (by decide) (by decide)

theorem firstMatch_append {v : List Char} (hv : allBlank v = true) (cs : List Char)
    {forms : List (List Char → Attempt Command)} (hforms : ∀ form ∈ forms, Padded form) :
    firstMatch (cs ++ v) forms = firstMatch cs forms := by
  induction forms with
  | nil => rfl
  | cons form forms ih =>
    have hrest := ih fun f hf => hforms f (List.mem_cons_of_mem _ hf)
    rw [firstMatch, firstMatch, (hforms form List.mem_cons_self).append cs v hv,
      Attempt.atEnd_onRest, hrest]

theorem firstMatch_skipBlank (cs : List Char) {forms : List (List Char → Attempt Command)}
    (hforms : ∀ form ∈ forms, Padded form) :
    firstMatch (skipBlank cs) forms = firstMatch cs forms := by
  induction forms with
  | nil => rfl
  | cons form forms ih =>
    have hrest := ih fun f hf => hforms f (List.mem_cons_of_mem _ hf)
    rw [firstMatch, firstMatch, (hforms form List.mem_cons_self).skip, hrest]

end Form

/-- White space around a line that holds something else does not count. -/
theorem parse_padded (X : Alphabet) {u s v : String} (hu : allBlank u.toList = true)
    (hv : allBlank v.toList = true) (hs : allBlank s.toList = false) :
    Command.parseOver X (u ++ s ++ v) = Command.parseOver X s := by
  have hforms := fun form => @Form.padded_of_mem_forms X form
  have hmatch : Form.firstMatch (u ++ s ++ v).toList (Form.forms X) =
      Form.firstMatch s.toList (Form.forms X) := by
    rw [String.toList_append, String.toList_append, Form.firstMatch_append hv _ hforms,
      ← Form.firstMatch_skipBlank _ hforms, Text.skipBlank_append hu,
      Form.firstMatch_skipBlank _ hforms]
  have hline : ∀ line : String, allBlank line.toList = false → line.isEmpty = false := by
    intro line h
    rw [← Bool.not_eq_true, String.isEmpty_iff]
    rintro rfl
    exact nomatch h
  have hboth : allBlank (u ++ s ++ v).toList = false := by
    rw [String.toList_append, String.toList_append, allBlank, List.all_append, List.all_append]
    simp only [show s.toList.all isBlank = false from hs, Bool.and_false, Bool.false_and]
  rw [Command.parseOver, Command.parseOver, hmatch, hline _ hboth, hline _ hs]

/-! ## Long and short words -/

/-- The words that can be written in two ways. -/
def spellings : List (String × String) :=
  [("run", "r"), ("continue", "c"), ("next", "n"), ("step", "s"), ("break", "b"), ("help", "h"),
    ("quit", "q"), ("interrupt", "pause")]

namespace Form

theorem isWord_of_mem_spellings : ∀ p ∈ spellings,
    IsWord p.1 ∧ IsWord p.2 ∧ ¬ p.1.toList <+: p.2.toList := by
  decide

/-- The one form that has words with the first letters of `long` and `short` looks at nothing but
what is behind them. -/
def ReadsBoth (X : Alphabet) (long short : String) : Prop :=
  ∃ form : List Char → Attempt Command,
    (∀ w ∈ [long, short], ∃ c, w.toList.head? = some c ∧ formsFor X c = [form]) ∧
      ∀ cs cs', spelled? long short cs = spelled? long short cs' → form cs = form cs'

theorem readsBoth (X : Alphabet) {p : String × String} (hp : p ∈ spellings) :
    ReadsBoth X p.1 p.2 := by
  have hconstant : ∀ {long short : String} (cmd : Command) (cs cs' : List Char),
      spelled? long short cs = spelled? long short cs' →
        constant cmd (spelled? long short cs) = constant cmd (spelled? long short cs') := by
    intro long short cmd cs cs' h
    rw [h]
  -- the first `rfl` below finds the letter of a word, the second the one form that has it
  have hletter : ∀ {w : String} {c : Char} {form : List Char → Attempt Command},
      w.toList.head? = some c → formsFor X c = [form] →
        ∃ c, w.toList.head? = some c ∧ formsFor X c = [form] := fun hc hform => ⟨_, hc, hform⟩
  revert p
  simp only [spellings, ReadsBoth, List.forall_mem_cons, List.not_mem_nil, false_imp_iff,
    implies_true, and_true]
  refine ⟨?_, ?_, ?_, ?_, ?_, ?_, ?_, ?_⟩
  · exact ⟨_, ⟨hletter rfl rfl, hletter rfl rfl⟩, hconstant .run⟩
  · exact ⟨_, ⟨hletter rfl rfl, hletter rfl rfl⟩, hconstant .resume⟩
  · exact ⟨_, ⟨hletter rfl rfl, hletter rfl rfl⟩, hconstant .next⟩
  · exact ⟨_, ⟨hletter rfl rfl, hletter rfl rfl⟩, hconstant .step⟩
  · exact ⟨breakpoint, ⟨hletter rfl rfl, hletter rfl rfl⟩, fun cs cs' h => by
      rw [breakpoint, breakpoint, h]⟩
  · exact ⟨help X, ⟨hletter rfl rfl, hletter rfl rfl⟩, fun cs cs' h => by rw [help, help, h]⟩
  · exact ⟨_, ⟨hletter rfl rfl, hletter rfl rfl⟩, hconstant .quit⟩
  · exact ⟨_, ⟨hletter rfl rfl, hletter rfl rfl⟩, hconstant .interrupt⟩

theorem firstMatch_spellings (X : Alphabet) {p : String × String} (hp : p ∈ spellings)
    {t : List Char} (ht : ∀ c ∈ t.head?, isBlank c = true) :
    firstMatch (p.1.toList ++ t) (forms X) = firstMatch (p.2.toList ++ t) (forms X) := by
  obtain ⟨hlong, hshort, hnot⟩ := isWord_of_mem_spellings p hp
  obtain ⟨form, hletters, hform⟩ := readsBoth X hp
  have hmatch : ∀ w ∈ [p.1, p.2], IsWord w →
      firstMatch (w.toList ++ t) (forms X) = (form (w.toList ++ t)).atEnd := by
    intro w hw hword
    obtain ⟨c, hc, hforms⟩ := hletters w hw
    have hhead : (skipBlank (w.toList ++ t)).head? = some c := by
      rw [hword.skipBlank_append, List.head?_append, hc]
      rfl
    rw [firstMatch_forms X hhead, hforms, firstMatch_singleton]
  obtain ⟨hread, hread'⟩ := spelled?_either hlong hshort hnot ht
  rw [hmatch p.1 (by simp) hlong, hmatch p.2 (by simp) hshort,
    hform _ _ (hread.trans hread'.symm)]

end Form

theorem parse_spellings (X : Alphabet) {p : String × String} (hp : p ∈ spellings) {t : String}
    (ht : ∀ c ∈ t.toList.head?, isBlank c = true) :
    Command.parseOver X (p.1 ++ t) = Command.parseOver X (p.2 ++ t) := by
  obtain ⟨hlong, hshort, -⟩ := Form.isWord_of_mem_spellings p hp
  have hline : ∀ {w : String}, Form.IsWord w → (w ++ t).isEmpty = false := by
    intro w hw
    rw [← Bool.not_eq_true, String.isEmpty_iff, ← String.toList_eq_nil_iff, String.toList_append]
    exact List.append_ne_nil_of_left_ne_nil hw.ne_nil _
  rw [Command.parseOver, Command.parseOver, String.toList_append, String.toList_append,
    Form.firstMatch_spellings X hp ht, hline hlong, hline hshort]

end Cli
end DebugSession
