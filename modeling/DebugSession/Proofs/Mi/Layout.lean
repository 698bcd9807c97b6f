/-
Where the parts of a command line of the machine interface stand.  The documented form
`[token]-operation [arg ...]` has white space before every argument.  A line is read just if it is
laid out so that no part runs into the next one (`parse_eq_some_iff`), which needs white space only
between a word and a word and between the operation and a word that begins like one.  So lines
without the documented form are read as well, as a shorter operation or as more arguments.
-/
import DebugSession.Proofs.Mi.Desk
import DebugSession.Proofs.Mi.Spelling
import DebugSession.Proofs.Mi.Token

namespace DebugSession
namespace Mi
namespace Command

open Text (isBlank trimBlank)
open Text.Decimal (digits)

/-! ## Layouts -/

/-- How an argument may be written: as a word, or between quotes. -/
inductive Written : List Char → List Char → Prop where
  | bare {text : List Char} (hne : text ≠ []) (h : ∀ c ∈ text, isPlain c = true) :
      Written text text
  | quoted {text said : List Char} (h : Inside text said) : Written ('"' :: (text ++ ['"'])) said

/-- An argument where it stands in a line, behind white space or directly behind the part before. -/
structure Piece where
  blanks : List Char
  text : List Char
  arg : List Char
  blank : ∀ c ∈ blanks, isBlank c = true
  written : Written text arg

namespace Piece

def chars (p : Piece) : List Char := p.blanks ++ p.text

def Separated (p : Piece) : Prop := p.blanks ≠ []

def IsQuoted (p : Piece) : Prop := p.text.head? = some '"'

/-- Two arguments that do not run together: words need white space between them. -/
def Apart (p q : Piece) : Prop := p.IsQuoted ∨ q.Separated ∨ q.IsQuoted

end Piece

/-- A line without the white space around it, part by part. -/
structure Layout where
  token : Option UInt64
  operation : List Char
  pieces : List Piece
  operation_ne : operation ≠ []
  operation_chars : ∀ c ∈ operation, isOperationChar c = true

namespace Layout

/-- The line from the operation on. -/
def rest (l : Layout) : List Char := l.operation ++ l.pieces.flatMap Piece.chars

def core (l : Layout) : List Char :=
  (l.token.map fun t => digits t.toNat).getD [] ++ '-' :: l.rest

def command (l : Layout) : Command where
  token := l.token
  operation := String.ofList l.operation
  args := l.pieces.map fun p => String.ofList p.arg

/-- What stands behind the minus sign up to the first white space. -/
def field (l : Layout) : List Char := l.rest.takeWhile (!isBlank ·)

/-- The documented form: white space before every argument. -/
def Documented (l : Layout) : Prop := ∀ p ∈ l.pieces, p.Separated

/-- No part runs into the next one. -/
structure Readable (l : Layout) : Prop where
  first : ∀ p ∈ l.pieces.head?, p.Separated ∨ ∀ c ∈ p.text.head?, isOperationChar c = false
  next : l.pieces.IsChain Piece.Apart

end Layout

/-! ## Arguments -/

theorem Written.exists_cons {text arg : List Char} (h : Written text arg) :
    ∃ c cs, text = c :: cs ∧ isBlank c = false := by
  cases h with
  | bare hne hplain =>
    obtain ⟨c, cs, rfl⟩ := List.exists_cons_of_ne_nil hne
    exact ⟨c, cs, rfl, (isPlain_iff.1 (hplain c List.mem_cons_self)).1⟩
  | quoted _ => exact ⟨'"', _, rfl, by decide⟩

theorem Piece.isQuoted_of_bare {p : Piece} (h : ∀ c ∈ p.text, isPlain c = true) :
    ¬ p.IsQuoted := by
  intro hq
  exact absurd (h '"' (List.mem_of_mem_head? hq)) (by decide)

/-- What stands in front of the next argument ends a word before it. -/
theorem Piece.not_isPlain_of_apart {p : Piece} {ps : List Piece} (h : (p :: ps).IsChain Apart)
    (hp : ¬ p.IsQuoted) : ∀ c ∈ (ps.flatMap chars).head?, isPlain c = false := by
  intro c hc
  cases ps with
  | nil => exact nomatch hc
  | cons q ps =>
    rw [List.flatMap_cons, chars] at hc
    cases hblanks : q.blanks with
    | cons b blanks =>
      rw [hblanks] at hc
      obtain rfl : b = c := Option.some.inj hc
      exact not_isPlain_of_isBlank (q.blank b (by rw [hblanks]; exact List.mem_cons_self))
    | nil =>
      have hq : q.IsQuoted :=
        ((List.isChain_cons_cons.1 h).1.resolve_left hp).resolve_left (absurd hblanks)
      rw [hblanks, List.nil_append, List.head?_append, hq] at hc
      obtain rfl : '"' = c := Option.some.inj hc
      decide

/-- Behind the end of a word an argument has white space before it or is quoted. -/
theorem Piece.separated_or_isQuoted {p : Piece} (more : List Char)
    (h : ∀ c ∈ (p.chars ++ more).head?, isPlain c = false) : p.Separated ∨ p.IsQuoted := by
  obtain ⟨blanks, text, arg, hblank, hwritten⟩ := p
  cases blanks with
  | cons b blanks => exact .inl (List.cons_ne_nil b blanks)
  | nil =>
    cases hwritten with
    | quoted _ => exact .inr rfl
    | bare hne hbare =>
      obtain ⟨c, cs, rfl⟩ := List.exists_cons_of_ne_nil hne
      have hc : isPlain c = false := h c rfl
      rw [hbare c List.mem_cons_self] at hc
      exact nomatch hc

/-- Arguments that do not run together are read one by one. -/
theorem readArgs_pieces {ps : List Piece} (h : ps.IsChain Piece.Apart) :
    readArgs .between (ps.flatMap Piece.chars) = some (ps.map Piece.arg) := by
  induction ps with
  | nil => rfl
  | cons p ps ih =>
    have hrest := ih h.tail
    have hplain := Piece.not_isPlain_of_apart h
    obtain ⟨blanks, text, arg, hblank, hwritten⟩ := p
    rw [List.flatMap_cons, Piece.chars, List.append_assoc, readArgs_blanks hblank, List.map_cons]
    cases hwritten with
    | bare hne hbare =>
      obtain ⟨c, cs, rfl⟩ := List.exists_cons_of_ne_nil hne
      obtain ⟨hc, hquote⟩ := isPlain_iff.1 (hbare c List.mem_cons_self)
      rw [List.cons_append, readArgs, if_neg (by rw [hc]; exact Bool.false_ne_true),
        if_neg hquote, readArgs_bare (fun x hx => hbare x (List.mem_cons_of_mem c hx)) [c]
          (hplain (Piece.isQuoted_of_bare hbare)), hrest]
      rfl
    | quoted hinside =>
      rw [List.cons_append, List.append_assoc, List.singleton_append, readArgs,
        if_neg (by decide), if_pos rfl, readArgs_inside hinside, hrest]
      rfl

/-- What is read after a quote starts with something said and the quote that ends it. -/
theorem exists_inside {held cs : List Char} {args : List (List Char)}
    (h : readArgs (.quoted held) cs = some args) :
    ∃ text said rest, Inside text said ∧ cs = text ++ '"' :: rest ∧
      ((held.reverse ++ said) :: ·) <$> readArgs .between rest = some args := by
  have step : ∀ {c : Char} {held cs : List Char}, c ≠ '"' → c ≠ '\\' →
      (∃ text said rest, Inside text said ∧ cs = text ++ '"' :: rest ∧
        (((c :: held).reverse ++ said) :: ·) <$> readArgs .between rest = some args) →
      ∃ text said rest, Inside text said ∧ c :: cs = text ++ '"' :: rest ∧
        ((held.reverse ++ said) :: ·) <$> readArgs .between rest = some args := by
    rintro c held cs hq hb ⟨text, said, rest, hinside, rfl, hrest⟩
    refine ⟨c :: text, c :: said, rest, .plain hq hb hinside, rfl, ?_⟩
    simpa using hrest
  induction cs using List.twoStepInduction generalizing held with
  | nil => exact nomatch h
  | singleton c =>
    by_cases hq : c = '"'
    · subst hq
      exact ⟨[], [], [], .nil, rfl, by simpa [readArgs] using h⟩
    by_cases hb : c = '\\'
    · subst hb
      cases h
    · rw [readArgs_quoted_of_ne hq hb] at h
      cases h
  | cons_cons c e cs ih ih' =>
    by_cases hq : c = '"'
    · subst hq
      exact ⟨[], [], e :: cs, .nil, rfl, by simpa [readArgs] using h⟩
    by_cases hb : c = '\\'
    · subst hb
      cases he : Quoted.unescapeChar e with
      | none =>
        rw [readArgs, he] at h
        cases h
      | some d =>
        rw [readArgs_escaped he] at h
        obtain ⟨text, said, rest, hinside, rfl, hrest⟩ := ih h
        refine ⟨'\\' :: e :: text, d :: said, rest, .escaped he hinside, rfl, ?_⟩
        simpa using hrest
    · rw [readArgs_quoted_of_ne hq hb] at h
      exact step hq hb (ih' e h)

/-- What is read as arguments is arguments that do not run together, and white space. -/
theorem exists_pieces {cs : List Char} {args : List (List Char)}
    (h : readArgs .between cs = some args) :
    ∃ (ps : List Piece) (after : List Char), cs = ps.flatMap Piece.chars ++ after ∧
      (∀ c ∈ after, isBlank c = true) ∧ ps.IsChain Piece.Apart ∧ ps.map Piece.arg = args := by
  induction hlen : cs.length using Nat.strongRecOn generalizing cs args with
  | ind n ih =>
    have hblank : ∀ c ∈ cs.takeWhile isBlank, isBlank c = true := fun c hc =>
      List.mem_takeWhile_imp hc
    have hhead := List.head?_dropWhile_not isBlank cs
    have hsplit := List.takeWhile_append_dropWhile (p := isBlank) (l := cs)
    generalize cs.takeWhile isBlank = blanks at hsplit hblank
    generalize cs.dropWhile isBlank = body at hsplit hhead
    subst hsplit
    rw [readArgs_blanks hblank] at h
    cases body with
    | nil =>
      obtain rfl : [] = args := Option.some.inj h
      exact ⟨[], blanks, (List.append_nil blanks), hblank, .nil, rfl⟩
    | cons c body =>
      have hc : isBlank c = false := hhead
      rw [readArgs, if_neg (by rw [hc]; exact Bool.false_ne_true)] at h
      by_cases hq : c = '"'
      · subst hq
        rw [if_pos rfl] at h
        obtain ⟨text, said, rest, hinside, rfl, hrest⟩ := exists_inside h
        obtain ⟨more, hmore, rfl⟩ := Option.map_eq_some_iff.1 hrest
        obtain ⟨ps, after, rfl, hafter, hps, rfl⟩ := ih _ (by simp at hlen ⊢; omega) hmore rfl
        refine ⟨⟨blanks, _, said, hblank, .quoted hinside⟩ :: ps, after, ?_, hafter, ?_, rfl⟩
        · simp [Piece.chars]
        · exact List.isChain_cons.2 ⟨fun q _ => .inl rfl, hps⟩
      · rw [if_neg hq, readArgs_bare_eq] at h
        obtain ⟨more, hmore, rfl⟩ := Option.map_eq_some_iff.1 h
        obtain ⟨ps, after, hrest, hafter, hps, rfl⟩ := ih _ (by
          have := (List.dropWhile_suffix isPlain (l := body)).length_le
          simp at hlen ⊢; omega) hmore rfl
        have hword : ∀ x ∈ c :: body.takeWhile isPlain, isPlain x = true := by
          intro x hx
          rcases List.mem_cons.1 hx with rfl | hx
          · exact isPlain_iff.2 ⟨hc, hq⟩
          · exact List.mem_takeWhile_imp hx
        refine ⟨⟨blanks, _, _, hblank, .bare (List.cons_ne_nil _ _) hword⟩ :: ps, after, ?_,
          hafter, ?_, rfl⟩
        · rw [List.flatMap_cons, Piece.chars, List.append_assoc, List.append_assoc,
            ← hrest, List.cons_append, List.takeWhile_append_dropWhile]
        · refine List.isChain_cons.2 ⟨fun q hq => .inr ?_, hps⟩
          obtain ⟨qs, rfl⟩ := List.head?_eq_some_iff.1 hq
          refine Piece.separated_or_isQuoted (qs.flatMap Piece.chars ++ after) fun d hd => ?_
          have hd' := List.head?_dropWhile_not isPlain body
          rw [hrest, List.flatMap_cons, List.append_assoc, hd] at hd'
          exact hd'

/-! ## One layout -/

theorem Inside.eq_of_append {text said text' said' rest rest' : List Char} (h : Inside text said)
    (h' : Inside text' said') (heq : text ++ '"' :: rest = text' ++ '"' :: rest') :
    text = text' ∧ said = said' ∧ rest = rest' := by
  induction h generalizing text' said' with
  | nil =>
    cases h' with
    | nil => exact ⟨rfl, rfl, (List.cons.inj heq).2⟩
    | plain hq _ _ => exact absurd (List.cons.inj heq).1.symm hq
    | escaped _ _ => exact absurd (List.cons.inj heq).1 (by decide)
  | plain hq hb _ ih =>
    cases h' with
    | nil => exact absurd (List.cons.inj heq).1 hq
    | plain _ _ h' =>
      obtain ⟨rfl, hrest⟩ := List.cons.inj heq
      obtain ⟨rfl, rfl, rfl⟩ := ih h' hrest
      exact ⟨rfl, rfl, rfl⟩
    | escaped _ _ => exact absurd (List.cons.inj heq).1 hb
  | escaped he _ ih =>
    cases h' with
    | nil => exact absurd (List.cons.inj heq).1 (by decide)
    | plain _ hb _ => exact absurd (List.cons.inj heq).1.symm hb
    | escaped he' h' =>
      obtain ⟨-, htail⟩ := List.cons.inj heq
      obtain ⟨rfl, hrest⟩ := List.cons.inj htail
      obtain rfl := Option.some.inj (he.symm.trans he')
      obtain ⟨rfl, rfl, rfl⟩ := ih h' hrest
      exact ⟨rfl, rfl, rfl⟩

/-- Two runs of characters with `p`, each before a character without it, are the same run. -/
theorem eq_of_append_of_head {p : Char → Bool} {cs cs' rest rest' : List Char}
    (h : ∀ c ∈ cs, p c = true) (h' : ∀ c ∈ cs', p c = true)
    (hrest : ∀ c ∈ rest.head?, p c = false) (hrest' : ∀ c ∈ rest'.head?, p c = false)
    (heq : cs ++ rest = cs' ++ rest') : cs = cs' ∧ rest = rest' := by
  obtain ⟨htake, hdrop⟩ := takeWhile_append_of_head h hrest
  obtain ⟨htake', hdrop'⟩ := takeWhile_append_of_head h' hrest'
  rw [heq] at htake hdrop
  exact ⟨htake.symm.trans htake', hdrop.symm.trans hdrop'⟩

theorem Piece.head?_text (p : Piece) (rest : List Char) :
    ∀ c ∈ (p.text ++ rest).head?, isBlank c = false := by
  obtain ⟨c, cs, htext, hc⟩ := p.written.exists_cons
  intro d hd
  rw [htext] at hd
  obtain rfl : c = d := Option.some.inj hd
  exact hc

/-- A line has the arguments that stand in it, and in one way only. -/
theorem Piece.eq_of_flatMap_chars {ps qs : List Piece} (hps : ps.IsChain Apart)
    (hqs : qs.IsChain Apart) (h : ps.flatMap chars = qs.flatMap chars) : ps = qs := by
  have hnil : ∀ (p : Piece) (ps : List Piece), (p :: ps).flatMap chars ≠ [] := by
    intro p ps hempty
    obtain ⟨c, cs, htext, -⟩ := p.written.exists_cons
    simp [chars, htext] at hempty
  induction ps generalizing qs with
  | nil =>
    cases qs with
    | nil => rfl
    | cons q qs => exact absurd h.symm (hnil q qs)
  | cons p ps ih =>
    cases qs with
    | nil => exact absurd h (hnil p ps)
    | cons q qs =>
      rw [List.flatMap_cons, List.flatMap_cons, chars, chars, List.append_assoc,
        List.append_assoc] at h
      obtain ⟨hblanks, htext⟩ := eq_of_append_of_head p.blank q.blank (p.head?_text _)
        (q.head?_text _) h
      have hp := not_isPlain_of_apart hps
      have hq := not_isPlain_of_apart hqs
      obtain ⟨blanks, text, arg, hblank, hwritten⟩ := p
      obtain ⟨blanks', text', arg', hblank', hwritten'⟩ := q
      obtain rfl : blanks = blanks' := hblanks
      suffices hsame : text = text' ∧ arg = arg' ∧ ps.flatMap chars = qs.flatMap chars by
        obtain ⟨rfl, rfl, hrest⟩ := hsame
        exact congrArg _ (ih hps.tail hqs.tail hrest)
      cases hwritten with
      | bare hne hbare =>
        cases hwritten' with
        | bare hne' hbareToo =>
          obtain ⟨rfl, hrest⟩ := eq_of_append_of_head hbare hbareToo
            (hp (isQuoted_of_bare hbare)) (hq (isQuoted_of_bare hbareToo)) htext
          exact ⟨rfl, rfl, hrest⟩
        | quoted _ =>
          obtain ⟨c, cs, rfl⟩ := List.exists_cons_of_ne_nil hne
          obtain rfl : c = '"' := (List.cons.inj htext).1
          exact absurd (hbare '"' List.mem_cons_self) (by decide)
      | quoted hinside =>
        cases hwritten' with
        | bare hne' hbareToo =>
          obtain ⟨c, cs, rfl⟩ := List.exists_cons_of_ne_nil hne'
          obtain rfl : '"' = c := (List.cons.inj htext).1
          exact absurd (hbareToo '"' List.mem_cons_self) (by decide)
        | quoted hinside' =>
          simp only [List.cons_append, List.append_assoc] at htext
          obtain ⟨rfl, rfl, hrest⟩ := hinside.eq_of_append hinside' (List.cons.inj htext).2
          exact ⟨rfl, rfl, hrest⟩

namespace Layout

theorem readToken_core (l : Layout) : readToken l.core = some (l.token, '-' :: l.rest) :=
  readToken_digits l.token l.rest

theorem Readable.head?_pieces {l : Layout} (h : l.Readable) :
    ∀ c ∈ (l.pieces.flatMap Piece.chars).head?, isOperationChar c = false := by
  intro c hc
  cases hpieces : l.pieces with
  | nil =>
    rw [hpieces] at hc
    exact nomatch hc
  | cons p ps =>
    rw [hpieces, List.flatMap_cons, Piece.chars] at hc
    cases hblanks : p.blanks with
    | cons b blanks =>
      rw [hblanks] at hc
      obtain rfl : b = c := Option.some.inj hc
      exact not_isOperationChar_of_isBlank (p.blank b (by rw [hblanks]; exact List.mem_cons_self))
    | nil =>
      obtain ⟨d, ds, htext, -⟩ := p.written.exists_cons
      rw [hblanks, htext] at hc
      obtain rfl : d = c := Option.some.inj hc
      exact (h.first p (by rw [hpieces]; rfl)).resolve_left (absurd hblanks) d (by rw [htext]; rfl)

theorem Readable.readOperation_rest {l : Layout} (h : l.Readable) :
    readOperation ('-' :: l.rest) = some (l.operation, l.pieces.flatMap Piece.chars) :=
  readOperation_append l.operation_ne l.operation_chars h.head?_pieces

/-- Two readable layouts of one text are the same. -/
theorem Readable.eq_of_core {l l' : Layout} (h : l.Readable) (h' : l'.Readable)
    (hcore : l.core = l'.core) : l = l' := by
  have htoken := l.readToken_core
  rw [hcore, l'.readToken_core] at htoken
  obtain ⟨htoken, hrest⟩ := Prod.mk.inj (Option.some.inj htoken)
  have hoperation := h.readOperation_rest
  rw [← hrest, h'.readOperation_rest] at hoperation
  obtain ⟨hoperation, hpieces⟩ := Prod.mk.inj (Option.some.inj hoperation)
  have hsame := Piece.eq_of_flatMap_chars h.next h'.next hpieces.symm
  obtain ⟨token, operation, pieces, _, _⟩ := l
  obtain ⟨token', operation', pieces', _, _⟩ := l'
  obtain rfl : token' = token := htoken
  obtain rfl : operation' = operation := hoperation
  obtain rfl : pieces = pieces' := hsame
  rfl

theorem Documented.readable {l : Layout} (h : l.Documented) : l.Readable where
  first p hp := .inl (h p (List.mem_of_mem_head? hp))
  next := (List.pairwise_of_forall_mem_list fun _ _ q hq => .inr (.inl (h q hq))).isChain

/-- The operation is the whole field just if white space or nothing follows it. -/
theorem operation_eq_field_iff (l : Layout) :
    l.operation = l.field ↔ ∀ p ∈ l.pieces.head?, p.Separated := by
  have hoperation : ∀ c ∈ l.operation, (!isBlank c) = true := fun c hc => by
    rw [not_isBlank_of_isOperationChar (l.operation_chars c hc)]
    rfl
  rw [field, rest, List.takeWhile_append_of_pos hoperation]
  cases l.pieces with
  | nil => simp
  | cons p ps =>
    obtain ⟨c, cs, htext, hc⟩ := p.written.exists_cons
    rw [List.flatMap_cons, Piece.chars, htext]
    cases hblanks : p.blanks with
    | nil => simp [hc, Piece.Separated, hblanks]
    | cons b blanks =>
      have hb : isBlank b = true := p.blank b (by rw [hblanks]; exact List.mem_cons_self)
      simp [hb, Piece.Separated, hblanks]

theorem Readable.parse {l : Layout} (h : l.Readable) {line : String}
    (hcore : l.core = trimBlank line.toList) : parse line = some l.command := by
  rw [Command.parse, ← hcore, l.readToken_core]
  show (readOperation _ >>= _) = _
  rw [h.readOperation_rest]
  show (readArgs _ _ >>= _) = _
  rw [readArgs_pieces h.next]
  show some (Command.mk l.token (String.ofList l.operation)
    ((l.pieces.map Piece.arg).map String.ofList)) = _
  rw [List.map_map]
  rfl

end Layout

/-- An operation that is read is all characters up to one that cannot belong to it. -/
theorem readOperation_eq_some {cs name rest : List Char}
    (h : readOperation cs = some (name, rest)) :
    cs = '-' :: (name ++ rest) ∧ name ≠ [] ∧ (∀ c ∈ name, isOperationChar c = true) ∧
      ∀ c ∈ rest.head?, isOperationChar c = false := by
  cases cs with
  | nil => exact nomatch h
  | cons d cs =>
    obtain rfl : '-' = d := (Option.some.inj (head?_of_readOperation h)).symm
    have hname : ∀ c ∈ cs.takeWhile isOperationChar, isOperationChar c = true := fun c hc =>
      List.mem_takeWhile_imp hc
    rw [readOperation] at h
    split at h
    · cases h
    · next hne =>
      obtain ⟨rfl, rfl⟩ := Prod.mk.inj (Option.some.inj h)
      refine ⟨by rw [List.takeWhile_append_dropWhile], hne, hname, fun c hc => ?_⟩
      have hhead := List.head?_dropWhile_not isOperationChar cs
      rw [hc] at hhead
      exact hhead

/-- A line is read just if it is laid out so that no part runs into the next one. -/
theorem parse_eq_some_iff {line : String} {cmd : Command} :
    parse line = some cmd ↔
      ∃ l : Layout, l.Readable ∧ l.core = trimBlank line.toList ∧ l.command = cmd := by
  constructor
  · intro h
    obtain ⟨⟨token, rest⟩, htoken, h⟩ := Option.bind_eq_some_iff.1 h
    obtain ⟨⟨name, more⟩, hname, h⟩ := Option.bind_eq_some_iff.1 h
    obtain ⟨args, hargs, h⟩ := Option.bind_eq_some_iff.1 h
    obtain rfl := Option.some.inj h
    obtain ⟨hsplit, hdigits⟩ := readToken_eq_some htoken (head?_of_readOperation hname)
    obtain ⟨rfl, hne, hchars, hhead⟩ := readOperation_eq_some hname
    obtain ⟨ps, after, rfl, hafter, hps, rfl⟩ := exists_pieces hargs
    rw [hdigits] at hsplit
    -- What is left between white space does not end with any.
    obtain rfl : after = [] := by
      rcases List.eq_nil_or_concat' after with hnil | ⟨front, c, rfl⟩
      · exact hnil
      · rw [← List.append_assoc, ← List.append_assoc, ← List.cons_append, ← List.append_assoc]
          at hsplit
        have hlast : c ∈ (trimBlank line.toList).getLast? := by
          rw [hsplit]
          exact List.getLast?_concat
        have hc := Text.not_isBlank_of_mem_getLast?_trimBlank hlast
        rw [hafter c (List.mem_append_right _ List.mem_cons_self)] at hc
        exact nomatch hc
    rw [List.append_nil] at hsplit hhead
    refine ⟨⟨token, name, ps, hne, hchars⟩, ⟨fun p hp => ?_, hps⟩, hsplit.symm, ?_⟩
    · obtain ⟨qs, rfl⟩ := List.head?_eq_some_iff.1 hp
      by_cases hblanks : p.blanks = []
      · refine .inr fun c hc => hhead c ?_
        rw [List.flatMap_cons, Piece.chars, hblanks, List.nil_append, List.head?_append, hc]
        rfl
      · exact .inl hblanks
    · show Command.mk _ _ _ = Command.mk _ _ _
      rw [List.map_map]
      rfl
  · rintro ⟨l, hl, hcore, rfl⟩
    exact hl.parse hcore

/-- A line is a command just if it is laid out so that no part runs into the next one.  Such a line
has the documented form just if white space stands before every argument in it, and what is read as
its operation is all that stands there just if white space follows. -/
theorem parse_boundaries (line : String) (cmd : Command) :
    (parse line = some cmd ↔
      ∃ l : Layout, l.Readable ∧ l.core = trimBlank line.toList ∧ l.command = cmd) ∧
    ∀ l : Layout, l.Readable → l.core = trimBlank line.toList →
      (∀ l' : Layout, l'.Readable → l'.core = trimBlank line.toList → l' = l) ∧
      ((∃ d : Layout, d.Documented ∧ d.core = trimBlank line.toList) ↔
        ∀ p ∈ l.pieces, p.blanks ≠ []) ∧
      ∀ op, Operation.ofName? l.command.operation = some op →
        (String.ofList l.field = op.name ↔ ∀ p ∈ l.pieces.head?, p.blanks ≠ []) := by
  refine ⟨parse_eq_some_iff, fun l hl hcore => ⟨fun l' hl' hcore' => ?_, ?_, fun op hop => ?_⟩⟩
  · exact hl'.eq_of_core hl (hcore'.trans hcore.symm)
  · constructor
    · rintro ⟨d, hd, hdcore⟩
      obtain rfl := hd.readable.eq_of_core hl (hdcore.trans hcore.symm)
      exact hd
    · exact fun hl' => ⟨l, hl', hcore⟩
  · have hname : op.name = String.ofList l.operation := Operation.name_of_ofName? hop
    rw [hname, String.ofList_inj, eq_comm]
    exact l.operation_eq_field_iff

/-- A line that names no operation starts the program, with the end of the name as an argument. -/
theorem parse_cut_name :
    parse "-exec-run.sh" = some ⟨none, "exec-run", [".sh"]⟩ ∧
      Operation.ofName? "exec-run" = some .run ∧ Operation.ofName? "exec-run.sh" = none ∧
      ¬ ∃ l : Layout, l.Documented ∧ l.core = trimBlank "-exec-run.sh".toList := by
  have hparse : parse "-exec-run.sh" = some ⟨none, "exec-run", [".sh"]⟩ := by cbv
  refine ⟨hparse, by decide, by decide, ?_⟩
  rintro ⟨l, hl, hcore⟩
  have hargs : l.command.args = [".sh"] := by
    have hcommand := hl.readable.parse hcore
    rw [hparse] at hcommand
    exact (congrArg args (Option.some.inj hcommand)).symm
  -- There is an argument, but no white space that could stand before it.
  cases hpieces : l.pieces with
  | nil =>
    rw [Layout.command, hpieces] at hargs
    cases hargs
  | cons p ps =>
    obtain ⟨b, blanks, hblanks⟩ :=
      List.exists_cons_of_ne_nil (hl p (by rw [hpieces]; exact List.mem_cons_self))
    have hb : b ∈ l.core := by
      simp [Layout.core, Layout.rest, hpieces, Piece.chars, hblanks]
    have hnone : (trimBlank "-exec-run.sh".toList).all (!isBlank ·) = true := by cbv
    have hb' := List.all_eq_true.1 hnone b (hcore ▸ hb)
    rw [p.blank b (by rw [hblanks]; exact List.mem_cons_self)] at hb'
    cases hb'

end Command
end Mi
end DebugSession
