/-
Commands of the machine interface, written in any of the ways that are allowed: white space of any
kind around the line and before each argument, and each argument quoted or, if nothing in it calls
for quotes, bare.  Such a line is read as the command that it spells (`parse_spelling`), and so is
what the line reader makes of its bytes.
-/
import Mathlib
import DebugSession.Mi.Command
import DebugSession.Proofs.Framing.Line

namespace DebugSession
namespace Mi
namespace Command

open Text (Bytes isBlank allBlank trimBlank dropLastWhile)
open Text.Decimal (isDigit digits)

/-! ## Spellings -/

/-- An argument as it may be written. -/
structure Field where
  blanks : List Char
  arg : String
  bare : Bool
  blanks_ne_nil : blanks ≠ []
  blanks_blank : ∀ c ∈ blanks, isBlank c = true
  plain : bare = true → arg ≠ "" ∧ ∀ c ∈ arg.toList, isBlank c = false ∧ c ≠ '"'

def Field.chars (f : Field) : List Char :=
  f.blanks ++ if f.bare then f.arg.toList else (Quoted.quote f.arg).toList

/-- A command as it may be written. -/
structure Spelling where
  before : List Char
  token : Option UInt64
  operation : String
  fields : List Field
  after : List Char
  before_blank : ∀ c ∈ before, isBlank c = true
  after_blank : ∀ c ∈ after, isBlank c = true
  operation_ne : operation ≠ ""
  operation_chars : ∀ c ∈ operation.toList, isOperationChar c = true

namespace Spelling

def tokenChars (s : Spelling) : List Char :=
  match s.token with
  | some n => digits n.toNat
  | none => []

/-- The line without the white space around it. -/
def core (s : Spelling) : List Char :=
  s.tokenChars ++ '-' :: (s.operation.toList ++ s.fields.flatMap Field.chars)

def line (s : Spelling) : String := String.ofList (s.before ++ s.core ++ s.after)

def command (s : Spelling) : Command where
  token := s.token
  operation := s.operation
  args := s.fields.map Field.arg

/-- All white space in the line. -/
def blanks (s : Spelling) : List Char :=
  s.before ++ s.fields.flatMap Field.blanks ++ s.after

end Spelling

/-! ## Arguments -/

theorem readArgs_blanks {blanks : List Char} (h : ∀ c ∈ blanks, isBlank c = true)
    (rest : List Char) : readArgs .between (blanks ++ rest) = readArgs .between rest := by
  induction blanks with
  | nil => rfl
  | cons c blanks ih =>
    rw [List.cons_append, readArgs, if_pos (h c List.mem_cons_self)]
    exact ih fun x hx => h x (List.mem_cons_of_mem c hx)

theorem readArgs_quoted_of_ne {c : Char} (hq : c ≠ '"') (hb : c ≠ '\\') (held rest : List Char) :
    readArgs (.quoted held) (c :: rest) = readArgs (.quoted (c :: held)) rest := by
  rw [readArgs]
  · exact hq
  · exact fun _ _ h _ => hb h
  · exact fun h _ => hb h

theorem readArgs_escaped {e c : Char} (h : Quoted.unescapeChar e = some c)
    (held rest : List Char) :
    readArgs (.quoted held) ('\\' :: e :: rest) = readArgs (.quoted (c :: held)) rest := by
  rw [readArgs, h]

/-- What stands between two quotes, and what it says. -/
inductive Inside : List Char → List Char → Prop where
  | nil : Inside [] []
  | plain {c : Char} {text said : List Char} (hq : c ≠ '"') (hb : c ≠ '\\')
      (h : Inside text said) : Inside (c :: text) (c :: said)
  | escaped {e c : Char} {text said : List Char} (he : Quoted.unescapeChar e = some c)
      (h : Inside text said) : Inside ('\\' :: e :: text) (c :: said)

/-- Characters with a backslash before those that need one say what they were. -/
theorem inside_escape (cs : List Char) : Inside (cs.flatMap Quoted.escapeChar) cs := by
  induction cs with
  | nil => exact .nil
  | cons c cs ih =>
    rw [List.flatMap_cons]
    rcases Quoted.escapeChar_cases c with ⟨hc, hq, hb⟩ | ⟨e, hc, he⟩
    · rw [hc]
      exact .plain hq hb ih
    · rw [hc]
      exact .escaped he ih

/-- A quoted argument is read up to the quote that ends it. -/
theorem readArgs_inside {text said : List Char} (h : Inside text said) (held rest : List Char) :
    readArgs (.quoted held) (text ++ '"' :: rest) =
      ((held.reverse ++ said) :: ·) <$> readArgs .between rest := by
  have hheld : ∀ (c : Char) (held said : List Char),
      held.reverse ++ c :: said = (c :: held).reverse ++ said := by simp
  induction h generalizing held with
  | nil =>
    rw [List.append_nil]
    rfl
  | plain hq hb _ ih =>
    rw [List.cons_append, readArgs_quoted_of_ne hq hb, ih, hheld]
  | escaped he _ ih =>
    rw [List.cons_append, List.cons_append, readArgs_escaped he, ih, hheld]

/-- What a bare argument may hold. -/
def isPlain (c : Char) : Bool := !isBlank c && c != '"'

theorem isPlain_iff {c : Char} : isPlain c = true ↔ isBlank c = false ∧ c ≠ '"' := by
  simp [isPlain]

theorem not_isPlain_of_isBlank {c : Char} (h : isBlank c = true) : isPlain c = false := by
  simp [isPlain, h]

/-- A bare argument ends where the next character cannot belong to it. -/
theorem readArgs_bare_eq (held cs : List Char) :
    readArgs (.bare held) cs = ((held.reverse ++ cs.takeWhile isPlain) :: ·) <$>
      readArgs .between (cs.dropWhile isPlain) := by
  induction cs generalizing held with
  | nil => simp [readArgs]
  | cons c cs ih =>
    by_cases hc : isPlain c = true
    · obtain ⟨hblank, hquote⟩ := isPlain_iff.1 hc
      rw [readArgs, if_neg (by rw [hblank]; exact Bool.false_ne_true), if_neg hquote, ih,
        List.takeWhile_cons_of_pos hc, List.dropWhile_cons_of_pos hc, List.reverse_cons,
        List.append_assoc, List.singleton_append]
    · rw [List.takeWhile_cons_of_neg hc, List.dropWhile_cons_of_neg hc, List.append_nil,
        readArgs, readArgs]
      by_cases hblank : isBlank c = true
      · rw [if_pos hblank, if_pos hblank]
      · have hquote : c = '"' := by
          by_contra hquote
          exact hc (isPlain_iff.2 ⟨Bool.eq_false_of_not_eq_true hblank, hquote⟩)
        rw [if_neg hblank, if_neg hblank, if_pos hquote, if_pos hquote]

/-- Plain characters are all of the run at the front, if no other one follows. -/
theorem takeWhile_append_of_head {p : Char → Bool} {cs rest : List Char}
    (h : ∀ c ∈ cs, p c = true) (hrest : ∀ c ∈ rest.head?, p c = false) :
    (cs ++ rest).takeWhile p = cs ∧ (cs ++ rest).dropWhile p = rest := by
  rw [List.takeWhile_append_of_pos h, List.dropWhile_append_of_pos h]
  cases rest with
  | nil => exact ⟨List.append_nil cs, rfl⟩
  | cons c rest =>
    have hc : ¬ p c = true := by simp [hrest c rfl]
    rw [List.takeWhile_cons_of_neg hc, List.dropWhile_cons_of_neg hc, List.append_nil]
    exact ⟨rfl, rfl⟩

/-- A bare argument is read up to a character that is not plain. -/
theorem readArgs_bare {cs : List Char} (h : ∀ c ∈ cs, isPlain c = true) (held : List Char)
    {rest : List Char} (hrest : ∀ c ∈ rest.head?, isPlain c = false) :
    readArgs (.bare held) (cs ++ rest) =
      ((held.reverse ++ cs) :: ·) <$> readArgs .between rest := by
  obtain ⟨htake, hdrop⟩ := takeWhile_append_of_head h hrest
  rw [readArgs_bare_eq, htake, hdrop]

/-- A text that ends, and not with white space. -/
def EndsPlain (cs : List Char) : Prop := ∃ front last, cs = front ++ [last] ∧ isBlank last = false

theorem EndsPlain.append_left {cs : List Char} (h : EndsPlain cs) (xs : List Char) :
    EndsPlain (xs ++ cs) := by
  obtain ⟨front, last, rfl, hlast⟩ := h
  exact ⟨xs ++ front, last, (List.append_assoc ..).symm, hlast⟩

theorem endsPlain_of_forall {cs : List Char} (hne : cs ≠ [])
    (h : ∀ c ∈ cs, isBlank c = false) : EndsPlain cs := by
  rcases List.eq_nil_or_concat' cs with hnil | ⟨front, last, hcs⟩
  · exact absurd hnil hne
  · exact ⟨front, last, hcs, h last (by rw [hcs]; exact List.mem_append_right _ List.mem_cons_self)⟩

theorem toList_quote (arg : String) : (Quoted.quote arg).toList =
    '"' :: (arg.toList.flatMap Quoted.escapeChar ++ ['"']) := by
  simp only [Quoted.quote, Quoted.escape, String.toList_append, String.toList_ofList]
  rfl

theorem Field.endsPlain_chars (f : Field) : EndsPlain f.chars := by
  refine .append_left ?_ _
  cases hbare : f.bare with
  | true =>
    obtain ⟨hne, hplain⟩ := f.plain hbare
    exact endsPlain_of_forall (fun h => hne (String.toList_eq_nil_iff.1 h))
      fun c hc => (hplain c hc).1
  | false =>
    rw [if_neg Bool.false_ne_true, toList_quote]
    exact ⟨'"' :: f.arg.toList.flatMap Quoted.escapeChar, '"', rfl, by decide⟩

theorem Field.lf_not_mem_arg (f : Field) :
    '\n' ∉ if f.bare then f.arg.toList else (Quoted.quote f.arg).toList := by
  cases hbare : f.bare with
  | true =>
    intro hmem
    exact absurd ((f.plain hbare).2 _ hmem).1 (by decide)
  | false =>
    rw [if_neg Bool.false_ne_true, toList_quote, List.mem_cons, List.mem_append,
      List.mem_flatMap, List.mem_singleton]
    rintro (hmem | ⟨c, -, hmem⟩ | hmem)
    · exact absurd hmem (by decide)
    · exact (Quoted.not_mem_escapeChar c).1 hmem
    · exact absurd hmem (by decide)

theorem Field.head?_chars (f : Field) (rest : List Char) :
    ∀ c ∈ (f.chars ++ rest).head?, isBlank c = true := by
  obtain ⟨b, blanks, hblanks⟩ := List.exists_cons_of_ne_nil f.blanks_ne_nil
  intro c hc
  rw [Field.chars, hblanks] at hc
  have hcb : b = c := Option.some.inj hc
  rw [← hcb]
  exact f.blanks_blank b (by rw [hblanks]; exact List.mem_cons_self)

theorem head?_fields (fs : List Field) :
    ∀ c ∈ (fs.flatMap Field.chars).head?, isBlank c = true := by
  cases fs with
  | nil => exact fun c hc => absurd hc (Option.not_mem_none c)
  | cons f fs => exact f.head?_chars (fs.flatMap Field.chars)

/-- The fields of a line are read as their arguments. -/
theorem readArgs_fields (fs : List Field) :
    readArgs .between (fs.flatMap Field.chars) = some (fs.map fun f => f.arg.toList) := by
  induction fs with
  | nil => rfl
  | cons f fs ih =>
    rw [List.flatMap_cons, Field.chars, List.append_assoc, readArgs_blanks f.blanks_blank]
    cases hbare : f.bare with
    | true =>
      obtain ⟨hne, hplain⟩ := f.plain hbare
      rw [if_pos rfl]
      cases hchars : f.arg.toList with
      | nil => exact absurd (String.toList_eq_nil_iff.1 hchars) hne
      | cons c cs =>
        rw [hchars] at hplain
        obtain ⟨hblank, hquote⟩ := hplain c List.mem_cons_self
        have hread := readArgs_bare
          (fun x hx => isPlain_iff.2 (hplain x (List.mem_cons_of_mem c hx))) [c]
          fun x hx => not_isPlain_of_isBlank (head?_fields fs x hx)
        rw [List.cons_append, readArgs, if_neg (by rw [hblank]; exact Bool.false_ne_true),
          if_neg hquote, hread, ih, List.map_cons, hchars]
        rfl
    | false =>
      rw [if_neg Bool.false_ne_true, toList_quote, List.cons_append, List.append_assoc, readArgs,
        if_neg (by decide), if_pos rfl, List.singleton_append, readArgs_inside (inside_escape _), ih, List.map_cons]
      rfl

/-! ## Operations and tokens -/

theorem not_isBlank_of_isOperationChar {c : Char} (h : isOperationChar c = true) :
    isBlank c = false := by
  have hc : 0x20 < c.toNat ∧ c.toNat < 0x80 := by
    simp only [isOperationChar, Char.isAlphanum, Char.isAlpha, Char.isUpper, Char.isLower,
      Char.isDigit, Bool.or_eq_true, Bool.and_eq_true, decide_eq_true_eq, beq_iff_eq,
      UInt32.le_iff_toNat_le, ge_iff_le] at h
    rcases h with (((h | h) | h) | rfl) | rfl
    · exact ⟨Nat.lt_of_lt_of_le (by decide) h.1, Nat.lt_of_le_of_lt h.2 (by decide)⟩
    · exact ⟨Nat.lt_of_lt_of_le (by decide) h.1, Nat.lt_of_le_of_lt h.2 (by decide)⟩
    · exact ⟨Nat.lt_of_lt_of_le (by decide) h.1, Nat.lt_of_le_of_lt h.2 (by decide)⟩
    · decide
    · decide
  exact Text.not_isBlank_of_visible hc.1 hc.2

/-- The name of an operation is read up to a character that cannot belong to it. -/
theorem readOperation_append {name rest : List Char} (hne : name ≠ [])
    (hname : ∀ c ∈ name, isOperationChar c = true)
    (hrest : ∀ c ∈ rest.head?, isOperationChar c = false) :
    readOperation ('-' :: (name ++ rest)) = some (name, rest) := by
  obtain ⟨htake, hdrop⟩ := takeWhile_append_of_head hname hrest
  rw [readOperation, htake, hdrop]
  cases name with
  | nil => exact absurd rfl hne
  | cons c name => rfl

theorem not_isOperationChar_of_isBlank {c : Char} (h : isBlank c = true) :
    isOperationChar c = false := by
  by_contra hc
  have hblank := not_isBlank_of_isOperationChar (Bool.eq_true_of_not_eq_false hc)
  rw [h] at hblank
  exact Bool.false_ne_true hblank.symm

/-- The digits of a token are read back before a minus sign. -/
theorem readToken_digits (token : Option UInt64) (rest : List Char) :
    readToken ((token.map fun t => digits t.toNat).getD [] ++ '-' :: rest) =
      some (token, '-' :: rest) := by
  cases token with
  | none => rfl
  | some n =>
    have hnumeral : Text.Decimal.numeral (digits n.toNat ++ '-' :: rest) =
        (digits n.toNat, '-' :: rest) :=
      Text.Decimal.numeral_digits_append n.toNat (by rintro c ⟨⟩; decide)
    show readToken (digits n.toNat ++ '-' :: rest) = _
    rw [readToken, hnumeral]
    cases hdigits : digits n.toNat with
    | nil => exact absurd hdigits (Text.Decimal.digits_ne_nil _)
    | cons d ds =>
      have hvalue : Text.Decimal.value (d :: ds) = n.toNat := by
        rw [← hdigits, Text.Decimal.value_digits]
      simp only [hvalue]
      rw [if_pos (show n.toNat < UInt64.size from n.toNat_lt), UInt64.ofNat_toNat]

theorem Spelling.tokenChars_eq (s : Spelling) :
    s.tokenChars = (s.token.map fun t => digits t.toNat).getD [] := by
  rw [Spelling.tokenChars]
  cases s.token <;> rfl

/-! ## Lines -/

namespace Spelling

theorem readToken_core (s : Spelling) :
    readToken s.core =
      some (s.token, '-' :: (s.operation.toList ++ s.fields.flatMap Field.chars)) := by
  rw [core, s.tokenChars_eq]
  exact readToken_digits s.token _

theorem readOperation_core (s : Spelling) :
    readOperation ('-' :: (s.operation.toList ++ s.fields.flatMap Field.chars)) =
      some (s.operation.toList, s.fields.flatMap Field.chars) :=
  readOperation_append (fun h => s.operation_ne (String.toList_eq_nil_iff.1 h))
    s.operation_chars fun c hc => not_isOperationChar_of_isBlank (head?_fields s.fields c hc)

theorem parse_of_trimBlank (s : Spelling) {line : String} (h : trimBlank line.toList = s.core) :
    parse line = some s.command := by
  rw [parse, h, s.readToken_core]
  show (readOperation _ >>= _) = _
  rw [s.readOperation_core]
  show (readArgs _ _ >>= _) = _
  rw [readArgs_fields]
  show some (Command.mk s.token (String.ofList s.operation.toList)
    ((s.fields.map fun f => f.arg.toList).map String.ofList)) = _
  rw [String.ofList_toList, List.map_map, command]
  congr 3
  funext f
  exact String.ofList_toList

theorem head?_core (s : Spelling) : ∀ c ∈ s.core.head?, isBlank c = false := by
  intro c hc
  rw [core, tokenChars] at hc
  cases htoken : s.token with
  | none =>
    rw [htoken] at hc
    have hdash : '-' = c := Option.some.inj hc
    rw [← hdash]
    decide
  | some n =>
    rw [htoken] at hc
    obtain ⟨d, ds, hdigits⟩ := List.exists_cons_of_ne_nil (Text.Decimal.digits_ne_nil n.toNat)
    have hd : isDigit d = true :=
      Text.Decimal.isDigit_of_mem_digits d (by rw [hdigits]; exact List.mem_cons_self)
    simp only [hdigits] at hc
    have hdc : d = c := Option.some.inj hc
    rw [← hdc]
    exact Text.Decimal.not_isBlank_of_isDigit hd

theorem endsPlain_core (s : Spelling) : EndsPlain s.core := by
  have hassoc : s.core = s.tokenChars ++ ['-'] ++ (s.operation.toList ++
      s.fields.flatMap Field.chars) := by
    rw [core, List.append_assoc]
    rfl
  rw [hassoc]
  refine .append_left ?_ _
  rcases List.eq_nil_or_concat' s.fields with hnil | ⟨fs, f, hfs⟩
  · rw [hnil, List.flatMap_nil, List.append_nil]
    exact endsPlain_of_forall (fun h => s.operation_ne (String.toList_eq_nil_iff.1 h))
      fun c hc => not_isBlank_of_isOperationChar (s.operation_chars c hc)
  · rw [hfs, List.flatMap_append, List.flatMap_singleton]
    exact .append_left (.append_left f.endsPlain_chars _) _

/-- The line without the white space around it is what it says. -/
theorem trimBlank_line (s : Spelling) {before after : List Char}
    (hbefore : ∀ c ∈ before, isBlank c = true) (hafter : ∀ c ∈ after, isBlank c = true) :
    trimBlank (before ++ s.core ++ after) = s.core := by
  obtain ⟨front, last, hcore, hlast⟩ := s.endsPlain_core
  refine Text.trimBlank_append_of_ends (List.all_eq_true.2 hbefore) (List.all_eq_true.2 hafter)
    ?_ s.head?_core ?_
  · rw [hcore]
    exact List.append_ne_nil_of_right_ne_nil _ (List.cons_ne_nil _ _)
  · intro c hc
    rw [hcore, List.getLast?_concat] at hc
    rw [← Option.some.inj hc]
    exact hlast

/-! ## Lines of bytes -/

theorem lf_not_mem_core (s : Spelling) (h : '\n' ∉ s.blanks) : '\n' ∉ s.core := by
  have hfields : '\n' ∉ s.fields.flatMap Field.chars := by
    intro hmem
    obtain ⟨f, hf, hmem⟩ := List.mem_flatMap.1 hmem
    rcases List.mem_append.1 hmem with hblank | harg
    · exact h (List.mem_append_left _ (List.mem_append_right _ (List.mem_flatMap.2 ⟨f, hf, hblank⟩)))
    · exact f.lf_not_mem_arg harg
  have htoken : '\n' ∉ s.tokenChars := by
    rw [tokenChars]
    cases s.token with
    | none => exact List.not_mem_nil
    | some n => exact fun hmem => absurd (Text.Decimal.isDigit_of_mem_digits _ hmem) (by decide)
  rw [core, List.mem_append, List.mem_cons, List.mem_append]
  rintro (hmem | hmem | hmem | hmem)
  · exact htoken hmem
  · exact absurd hmem (by decide)
  · exact absurd (s.operation_chars _ hmem) (by decide)
  · exact hfields hmem

/-- What the line reader makes of the line. -/
def readLine (s : Spelling) : String :=
  String.ofList (s.before ++ s.core ++ dropLastWhile Line.isEnd s.after)

theorem decode_line (s : Spelling) :
    Line.decode (Text.Utf8.encode s.line) = .ok s.readLine := by
  obtain ⟨front, last, hcore, hlast⟩ := s.endsPlain_core
  have hend := Line.not_isEnd_of_not_isBlank hlast
  have hbody : Line.body (Text.Utf8.encode s.line) = Text.Utf8.encode s.readLine := by
    have hdrop := Text.dropLastWhile_append_of_neg hend (s.before ++ front) s.after
    simp only [List.append_assoc] at hdrop
    rw [line, readLine, Text.Utf8.encode_ofList, Text.Utf8.encode_ofList,
      Line.body_flatMap_utf8EncodeChar, hcore]
    simp only [List.append_assoc, List.singleton_append, hdrop]
  rw [Line.decode, hbody, Text.Utf8.decode_encode]
  rfl

theorem exact_line (s : Spelling) (h : '\n' ∉ s.blanks) :
    Line.framing.Exact (Text.Utf8.encode s.line ++ [Line.lf]) (.ok s.readLine) := by
  rw [← decode_line]
  apply Line.exact_line
  rw [line, Text.Utf8.encode_ofList, Text.Utf8.mem_flatMap_utf8EncodeChar (by decide)]
  show '\n' ∉ _
  rw [List.mem_append, List.mem_append]
  rintro ((hmem | hmem) | hmem)
  · exact h (List.mem_append_left _ (List.mem_append_left _ hmem))
  · exact s.lf_not_mem_core h hmem
  · exact h (List.mem_append_right _ hmem)

end Spelling

/-- A line is read as the command that it spells.  If no LF is among its white space, one read of
the line reader takes its bytes with the LF behind them and no more, and the text that it brings is
read as the same command. -/
theorem parse_spelling (s : Spelling) :
    parse s.line = some s.command ∧
    ('\n' ∉ s.blanks → ∃ text, parse text = some s.command ∧
      ∀ (taken : List Arrival) (items : List Framing.Item),
        Line.framing.read Line.framing.start taken
            ((Text.Utf8.encode s.line ++ [Line.lf]).map .byte ++ items) =
          ⟨taken.reverse, .ok (some (.ok text))⟩ ::
            Line.framing.read Line.framing.start [] items) := by
  constructor
  · apply s.parse_of_trimBlank
    rw [Spelling.line, String.toList_ofList]
    exact s.trimBlank_line s.before_blank s.after_blank
  · intro hlf
    refine ⟨s.readLine, ?_, (s.exact_line hlf).read_append⟩
    apply s.parse_of_trimBlank
    rw [Spelling.readLine, String.toList_ofList]
    exact s.trimBlank_line s.before_blank fun c hc =>
      s.after_blank c ((Text.dropLastWhile_prefix _ _).subset hc)

/-- A line with a bare argument, one that needs quotes, and one without characters. -/
theorem parse_spelling_insert :
    parse " 70-break-insert -t\t\"a \\\"b\\\":3\" \"\"\r" =
        some ⟨some 70, "break-insert", ["-t", "a \"b\":3", ""]⟩ ∧
    ∃ text, parse text = some ⟨some 70, "break-insert", ["-t", "a \"b\":3", ""]⟩ ∧
      ∀ (taken : List Arrival) (items : List Framing.Item),
        Line.framing.read Line.framing.start taken ((Text.Utf8.encode
            " 70-break-insert -t\t\"a \\\"b\\\":3\" \"\"\r" ++ [Line.lf]).map .byte ++ items) =
          ⟨taken.reverse, .ok (some (.ok text))⟩ ::
            Line.framing.read Line.framing.start [] items := by
  let s : Spelling :=
    { before := [' ']
      token := some 70
      operation := "break-insert"
      fields :=
        [⟨[' '], "-t", true, by decide, List.all_eq_true.1 rfl,
            fun _ => ⟨by decide, by simp [isBlank]⟩⟩,
          ⟨['\t'], "a \"b\":3", false, by decide, List.all_eq_true.1 rfl, by simp⟩,
          ⟨[' '], "", false, by decide, List.all_eq_true.1 rfl, by simp⟩]
      after := ['\r']
      before_blank := List.all_eq_true.1 rfl
      after_blank := List.all_eq_true.1 rfl
      operation_ne := by decide
      operation_chars := List.all_eq_true.1 rfl }
  have hline : s.line = " 70-break-insert -t\t\"a \\\"b\\\":3\" \"\"\r" := by cbv
  have hread := parse_spelling s
  rw [hline] at hread
  exact ⟨hread.1, hread.2 (by decide)⟩

end Command
end Mi
end DebugSession
