/-
Reads one at a time.  A read takes from the front of the input what it needs and leaves the rest,
and the reads of an input come one after the other, each from what the one before left.  A read that
brings a message takes at least one byte (`length_bytesOf_next_lt`), so a front end reads no more
messages than its input has bytes.
-/
import DebugSession.Framing.Message
import DebugSession.Proofs.Framing.Cut

namespace DebugSession
namespace Framing

open Text (Bytes)

variable {S α β : Type}

/-- The bytes among the items. -/
def bytesOf (items : List Item) : Bytes :=
  items.filterMap fun
    | .byte b => some b
    | .take _ => none

/-- One read from a state on, when `taken` entries, the last one first, belong to it: what it
brings, and the items that it leaves. -/
def next (F : Framing S α) (s : S) (taken : List Arrival) : List Item → Reading α × List Item
  | [] =>
    match F.finish s with
    | (some m, _) => (⟨taken.reverse, .ok (some m)⟩, [])
    | (none, ending) => (⟨taken.reverse, ending.map fun _ => none⟩, [])
  | .take (.failure text) :: items => (⟨(.failure text :: taken).reverse, .error text⟩, items)
  | .take a :: items => F.next s (a :: taken) items
  | .byte b :: items =>
    match F.push s b with
    | (some m, _) => (⟨taken.reverse, .ok (some m)⟩, items)
    | (none, t) => F.next t taken items

/-- Behind a message the framing stands at its start, where nothing is left to say. -/
structure Restarts (F : Framing S α) : Prop where
  push : ∀ {s t : S} {b : UInt8} {m : α}, F.push s b = (some m, t) → t = F.start
  finish : ∀ {s : S} {m : α} {ending : Except String Unit},
    F.finish s = (some m, ending) → ending = .ok ()
  start : F.finish F.start = (none, .ok ())

theorem Restarts.map {F : Framing S α} (h : F.Restarts) (f : α → β) : (F.map f).Restarts where
  push := by
    intro s t b m hpush
    rw [push_map] at hpush
    obtain ⟨hm, rfl⟩ := Prod.mk.inj hpush
    obtain ⟨m, hm, -⟩ := Option.map_eq_some_iff.1 hm
    exact h.push (Prod.ext hm rfl)
  finish := by
    intro s m ending hfinish
    obtain ⟨hm, rfl⟩ := Prod.mk.inj
      (show ((F.finish s).1.map f, (F.finish s).2) = (some m, ending) from hfinish)
    obtain ⟨m, hm, -⟩ := Option.map_eq_some_iff.1 hm
    exact h.finish (Prod.ext hm rfl)
  start := by
    show ((F.finish F.start).1.map f, (F.finish F.start).2) = (none, .ok ())
    rw [h.start]
    rfl

/-! ## One read after the other -/

/-- The reads of an input are its first read and, behind a message, the reads of what that left. -/
theorem read_eq_next {F : Framing S α} (h : F.Restarts) (s : S) (taken : List Arrival)
    (items : List Item) :
    F.read s taken items = (F.next s taken items).1 ::
      match (F.next s taken items).1.outcome with
      | .ok (some _) => F.read F.start [] (F.next s taken items).2
      | _ => [] := by
  induction items generalizing s taken with
  | nil =>
    rw [read, next]
    rcases hfinish : F.finish s with ⟨_ | m, ending⟩
    · cases ending <;> rfl
    · rw [h.finish hfinish, read, h.start]
      rfl
  | cons item items ih =>
    cases item with
    | take a =>
      cases a with
      | failure text => rfl
      | bytes bs => exact ih s (.bytes bs :: taken)
      | event e => exact ih s (.event e :: taken)
      | record r => exact ih s (.record r :: taken)
      | flush => exact ih s (.flush :: taken)
    | byte b =>
      rw [read, next]
      rcases hpush : F.push s b with ⟨_ | m, t⟩
      · exact ih t taken
      · rw [h.push hpush]

/-! ## What a read takes -/

theorem next_suffix (F : Framing S α) (s : S) (taken : List Arrival) (items : List Item) :
    (F.next s taken items).2 <:+ items := by
  fun_induction F.next s taken items with
  | case1 => exact List.suffix_rfl
  | case2 => exact List.suffix_rfl
  | case3 => exact List.suffix_cons _ _
  | case4 s taken a items _ ih => exact ih.trans (List.suffix_cons _ _)
  | case5 => exact List.suffix_cons _ _
  | case6 s taken b items t _ ih => exact ih.trans (List.suffix_cons _ _)

theorem length_bytesOf_next_le (F : Framing S α) (s : S) (taken : List Arrival)
    (items : List Item) :
    (bytesOf (F.next s taken items).2).length ≤ (bytesOf items).length :=
  ((F.next_suffix s taken items).filterMap _).length_le

/-- A read that takes no byte brings what the end of the stream makes of the state. -/
theorem next_of_no_byte (F : Framing S α) (s : S) (taken : List Arrival) {items : List Item}
    {m : α} (hm : (F.next s taken items).1.outcome = .ok (some m))
    (hle : (bytesOf items).length ≤ (bytesOf (F.next s taken items).2).length) :
    (F.finish s).1 = some m := by
  induction items generalizing s taken with
  | nil =>
    rw [next] at hm
    rcases hfinish : F.finish s with ⟨_ | m', ending⟩
    · rw [hfinish] at hm
      cases ending <;> exact nomatch hm
    · rw [hfinish] at hm
      exact Except.ok.inj hm
  | cons item items ih =>
    cases item with
    | take a =>
      cases a with
      | failure text => exact nomatch hm
      | bytes bs => exact ih s (.bytes bs :: taken) hm hle
      | event e => exact ih s (.event e :: taken) hm hle
      | record r => exact ih s (.record r :: taken) hm hle
      | flush => exact ih s (.flush :: taken) hm hle
    | byte b =>
      -- the byte is not among those that are left
      have hbyte : (bytesOf (.byte b :: items)).length = (bytesOf items).length + 1 := rfl
      rw [next] at hle
      split at hle
      · exact absurd (hbyte ▸ hle) (Nat.not_succ_le_self _)
      · next t _ =>
        have hleft := F.length_bytesOf_next_le t taken items
        exact absurd hle (by omega)

/-- A read that brings a message takes a byte. -/
theorem length_bytesOf_next_lt {F : Framing S α} (h : F.Restarts) (taken : List Arrival)
    {items : List Item} {m : α}
    (hm : (F.next F.start taken items).1.outcome = .ok (some m)) :
    (bytesOf (F.next F.start taken items).2).length < (bytesOf items).length := by
  refine Nat.lt_of_not_le fun hle => ?_
  have hfinish := F.next_of_no_byte F.start taken hm hle
  rw [h.start] at hfinish
  exact nomatch hfinish

theorem bytesOf_map_byte (bytes : Bytes) : bytesOf (bytes.map .byte) = bytes := by
  rw [bytesOf, List.filterMap_map]
  exact List.filterMap_some

/-- The bytes that a front end meets are those of its input. -/
theorem bytesOf_flatMap_ofArrival (input : List Arrival) :
    bytesOf (input.flatMap Item.ofArrival) = stream input := by
  induction input with
  | nil => rfl
  | cons a input ih =>
    rw [List.flatMap_cons, bytesOf, List.filterMap_append, ← bytesOf, ← bytesOf, ih]
    cases a with
    | bytes bs => exact congrArg (· ++ stream input) (bytesOf_map_byte bs)
    | _ => rfl

/-- Bytes that complete nothing are taken by the read that goes on. -/
theorem next_append_of_none {F : Framing S α} {s t : S} {a : Bytes} (h : F.run s a = ([], t))
    (taken : List Arrival) (items : List Item) :
    F.next s taken (a.map .byte ++ items) = F.next t taken items := by
  induction a generalizing s with
  | nil =>
    cases h
    rfl
  | cons x a ih =>
    rw [List.map_cons, List.cons_append, next]
    rcases hpush : F.push s x with ⟨_ | m, u⟩
    · rw [run_of_push_none hpush] at h
      exact ih h
    · rw [run_of_push_some hpush] at h
      exact absurd (congrArg Prod.fst h) (List.cons_ne_nil _ _)

end Framing

/-! ## Lines and messages -/

theorem Line.restarts : Line.framing.Restarts where
  push := by
    intro s t b m hpush
    by_cases hb : b = lf
    · rw [hb, push_lf] at hpush
      exact (Prod.mk.inj hpush).2.symm
    · rw [push_of_ne hb] at hpush
      exact nomatch hpush
  finish hfinish := (Prod.mk.inj hfinish).2.symm
  start := rfl

namespace Message

/-- The states that a line of a header leads to. -/
inductive Entered : State → Prop where
  | header (seen : Bool) (length : Option (Except String Nat)) : Entered (.header { seen, length })
  | skip (n : Nat) (hlong : greatestLength < n) : Entered (.skip n n)
  | body (n : Nat) (hpos : 0 < n) (hle : n ≤ greatestLength) : Entered (.body n [])

theorem afterHeader_cases (length : Option (Except String Nat)) :
    (∃ frame, afterHeader length = (some frame, start)) ∨
      ∃ s, afterHeader length = (none, s) ∧ Entered s := by
  rcases length with _ | (text | n)
  · exact .inl ⟨.missingLength, rfl⟩
  · exact .inl ⟨.badLength text, rfl⟩
  · rw [afterHeader]
    by_cases hlong : greatestLength < n
    · rw [if_pos hlong]
      exact .inr ⟨_, rfl, .skip n hlong⟩
    · rw [if_neg hlong]
      by_cases hzero : n = 0
      · rw [if_pos hzero]
        exact .inl ⟨.body [], rfl⟩
      · rw [if_neg hzero]
        exact .inr ⟨_, rfl, .body n (Nat.pos_of_ne_zero hzero) (Nat.le_of_not_lt hlong)⟩

/-- A line completes a message, behind which the framing stands at its start, or nothing. -/
theorem endLine_cases (hd : Header) :
    (∃ frame, endLine hd = (some frame, start)) ∨ ∃ s, endLine hd = (none, s) ∧ Entered s := by
  rw [endLine]
  split
  · split
    · exact afterHeader_cases hd.length
    · exact .inr ⟨start, rfl, .header false none⟩
  · exact .inr ⟨_, rfl, .header true _⟩

theorem endLine_restarts {hd : Header} {m : Frame} {s : State} (h : endLine hd = (some m, s)) :
    s = start := by
  rcases endLine_cases hd with ⟨frame, hend⟩ | ⟨t, hend, -⟩
  · exact (Prod.mk.inj (h.symm.trans hend)).2
  · exact nomatch h.symm.trans hend

/-- Where a line completes nothing, nothing is held of the next one. -/
theorem finish_of_entered {s : State} (h : Entered s) : framing.finish s = close s := by
  cases h <;> rfl

theorem close_restarts {s : State} {m : Frame} {ending : Except String Unit}
    (h : close s = (some m, ending)) : ending = .ok () := by
  cases s with
  | skip length left => exact (Prod.mk.inj h).2.symm
  | _ => exact nomatch h

theorem restarts : framing.Restarts where
  push := by
    intro s t b m hpush
    change push s b = (some m, t) at hpush
    cases s with
    | header hd =>
      rw [push] at hpush
      split at hpush
      · exact endLine_restarts hpush
      · cases hpush
    | _ =>
      rw [push] at hpush
      split at hpush
      · exact (Prod.mk.inj hpush).2.symm
      · cases hpush
  finish := by
    intro s m ending hfinish
    change finish s = (some m, ending) at hfinish
    cases s with
    | header hd =>
      rw [finish] at hfinish
      split at hfinish
      · exact close_restarts hfinish
      · split at hfinish
        · exact (Prod.mk.inj hfinish).2.symm
        · exact close_restarts hfinish
    | body left held => exact close_restarts (s := .body left held) hfinish
    | skip length left => exact close_restarts (s := .skip length left) hfinish
  start := rfl

end Message
end DebugSession
