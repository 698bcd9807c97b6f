/-
Streams that are put together from messages.  Bytes are exactly a message if it is complete with
the last of them, not before, and the framing stands at its start then; so they are what one read
takes, whatever follows, and a stream of such bytes falls into its messages.
-/
import DebugSession.Framing

namespace DebugSession
namespace Framing

open Text (Bytes)

variable {S α β : Type}

theorem run_of_push_none {F : Framing S α} {s t : S} {b : UInt8} (h : F.push s b = (none, t))
    (bytes : Bytes) : F.run s (b :: bytes) = F.run t bytes := by
  rw [run, h]

theorem run_of_push_some {F : Framing S α} {s t : S} {b : UInt8} {m : α}
    (h : F.push s b = (some m, t)) (bytes : Bytes) :
    F.run s (b :: bytes) = (m :: (F.run t bytes).1, (F.run t bytes).2) := by
  rw [run, h]

/-- Bytes that complete no message only move the state. -/
theorem run_append_of_none {F : Framing S α} {s t : S} {a : Bytes} (h : F.run s a = ([], t))
    (b : Bytes) : F.run s (a ++ b) = F.run t b := by
  rw [run_append, h, List.nil_append]

theorem push_map (f : α → β) (F : Framing S α) (s : S) (b : UInt8) :
    (F.map f).push s b = ((F.push s b).1.map f, (F.push s b).2) := rfl

theorem run_map (f : α → β) (F : Framing S α) (s : S) (bytes : Bytes) :
    (F.map f).run s bytes = ((F.run s bytes).1.map f, (F.run s bytes).2) := by
  induction bytes generalizing s with
  | nil => rfl
  | cons b bytes ih =>
    have hpush := push_map f F s b
    cases h : F.push s b with
    | mk m t =>
      rw [h] at hpush
      cases m with
      | none => rw [run_of_push_none h, run_of_push_none hpush, ih]
      | some m => rw [run_of_push_some h, run_of_push_some hpush, ih, List.map_cons]

/-- Bytes that complete no message are taken by the read that goes on. -/
theorem read_append_of_none {F : Framing S α} {s t : S} {a : Bytes} (h : F.run s a = ([], t))
    (taken : List Arrival) (items : List Item) :
    F.read s taken (a.map .byte ++ items) = F.read t taken items := by
  induction a generalizing s with
  | nil =>
    cases h
    rfl
  | cons x a ih =>
    cases hpush : F.push s x with
    | mk m u =>
      cases m with
      | none =>
        rw [run_of_push_none hpush] at h
        rw [List.map_cons, List.cons_append, read, hpush]
        exact ih h
      | some m =>
        rw [run_of_push_some hpush] at h
        exact absurd (congrArg Prod.fst h) (by simp)

/-- The bytes are a message, which is complete with their last byte, and nothing more. -/
structure Exact (F : Framing S α) (bytes : Bytes) (m : α) : Prop where
  split : ∃ front last s, bytes = front ++ [last] ∧ F.run F.start front = ([], s) ∧
    F.push s last = (some m, F.start)

theorem Exact.run_eq {F : Framing S α} {bytes : Bytes} {m : α} (h : F.Exact bytes m) :
    F.run F.start bytes = ([m], F.start) := by
  obtain ⟨front, last, s, rfl, hfront, hlast⟩ := h.split
  rw [run_append_of_none hfront, run_of_push_some hlast]
  rfl

/-- One read takes exactly the bytes of the message. -/
theorem Exact.read_append {F : Framing S α} {bytes : Bytes} {m : α} (h : F.Exact bytes m)
    (taken : List Arrival) (items : List Item) :
    F.read F.start taken (bytes.map .byte ++ items) =
      ⟨taken.reverse, .ok (some m)⟩ :: F.read F.start [] items := by
  obtain ⟨front, last, s, rfl, hfront, hlast⟩ := h.split
  rw [List.map_append, List.append_assoc, read_append_of_none hfront, List.map_singleton,
    List.singleton_append, read, hlast]

theorem Exact.map {F : Framing S α} {bytes : Bytes} {m : α} (h : F.Exact bytes m) (f : α → β) :
    (F.map f).Exact bytes (f m) := by
  obtain ⟨front, last, s, rfl, hfront, hlast⟩ := h.split
  refine ⟨front, last, s, rfl, ?_, ?_⟩
  · exact (run_map f F F.start front).trans (by rw [hfront]; rfl)
  · rw [push_map, hlast]
    rfl

theorem Exact.messages_append {F : Framing S α} {bytes : Bytes} {m : α} (h : F.Exact bytes m)
    (rest : Bytes) :
    F.messages (bytes ++ rest) = (m :: (F.messages rest).1, (F.messages rest).2) := by
  rw [messages, run_append, h.run_eq]
  rfl

theorem messages_of_none {F : Framing S α} {bytes : Bytes} {s : S}
    (h : F.run F.start bytes = ([], s)) :
    F.messages bytes = ((F.finish s).1.toList, (F.finish s).2) := by
  rw [messages, h]
  rfl

theorem messages_append_of_none {F : Framing S α} {a : Bytes} (h : F.run F.start a = ([], F.start))
    (rest : Bytes) : F.messages (a ++ rest) = F.messages rest := by
  rw [messages, run_append_of_none h, messages]

theorem messages_map (f : α → β) (F : Framing S α) (bytes : Bytes) :
    (F.map f).messages bytes = ((F.messages bytes).1.map f, (F.messages bytes).2) := by
  have hfinish : ∀ s, ((F.map f).finish s).1.toList = (F.finish s).1.toList.map f ∧
      ((F.map f).finish s).2 = (F.finish s).2 := by
    intro s
    refine ⟨?_, rfl⟩
    show ((F.finish s).1.map f).toList = _
    cases (F.finish s).1 <;> rfl
  have hrun : (F.map f).run (F.map f).start bytes = _ := run_map f F F.start bytes
  rw [messages, hrun]
  simp only [messages, List.map_append]
  rw [(hfinish _).1, (hfinish _).2]

/-- A stream of exact messages is run through message by message. -/
theorem run_flatMap {ι : Type} {F : Framing S α} {bytes : ι → Bytes} {message : ι → α}
    {is : List ι} (h : ∀ i ∈ is, F.Exact (bytes i) (message i)) :
    F.run F.start (is.flatMap bytes) = (is.map message, F.start) := by
  induction is with
  | nil => rfl
  | cons i is ih =>
    have hi := (h i List.mem_cons_self).run_eq
    rw [List.flatMap_cons, run_append, hi, ih fun j hj => h j (List.mem_cons_of_mem i hj)]
    rfl

/-- A stream of exact messages has these messages, and ends as if it were empty. -/
theorem messages_flatMap {ι : Type} {F : Framing S α} {bytes : ι → Bytes} {message : ι → α}
    {is : List ι} (h : ∀ i ∈ is, F.Exact (bytes i) (message i)) :
    F.messages (is.flatMap bytes) =
      (is.map message ++ (F.finish F.start).1.toList, (F.finish F.start).2) := by
  rw [messages, run_flatMap h]

/-! ## Reads -/

theorem outcomes_read_bytes (F : Framing S α) (s : S) (taken : List Arrival) (bytes : Bytes)
    (items : List Item) :
    ∃ taken', (F.read s taken (bytes.map .byte ++ items)).map Reading.outcome =
      (F.run s bytes).1.map (fun m => .ok (some m)) ++
        (F.read (F.run s bytes).2 taken' items).map Reading.outcome := by
  induction bytes generalizing s taken with
  | nil => exact ⟨taken, rfl⟩
  | cons b bytes ih =>
    cases hpush : F.push s b with
    | mk m t =>
      cases m with
      | none =>
        obtain ⟨taken', h⟩ := ih t taken
        refine ⟨taken', ?_⟩
        rw [run_of_push_none hpush, ← h, List.map_cons, List.cons_append, read, hpush]
      | some m =>
        obtain ⟨taken', h⟩ := ih t []
        refine ⟨taken', ?_⟩
        rw [run_of_push_some hpush, List.map_cons, List.cons_append, read, hpush, List.map_cons, h]
        rfl

theorem outcomes_read_nil (F : Framing S α) (s : S) (taken : List Arrival) :
    (F.read s taken []).map Reading.outcome =
      (F.finish s).1.toList.map (fun m => .ok (some m)) ++
        [(F.finish s).2.map fun _ => none] := by
  rw [read]
  rcases F.finish s with ⟨_ | m, ending⟩
  · rfl
  · rfl

/-- The messages that an input brings from a state on, up to the entry with which reading fails, and
how it ends. -/
def heardFrom (F : Framing S α) (s : S) : List Arrival → List α × Except String Unit
  | [] => ((F.finish s).1.toList, (F.finish s).2)
  | .bytes bs :: later =>
    let (messages, ending) := F.heardFrom (F.run s bs).2 later
    ((F.run s bs).1 ++ messages, ending)
  | .failure text :: _ => ([], .error text)
  | _ :: later => F.heardFrom s later

/-- The messages of an input, and how it ends. -/
def heard (F : Framing S α) (input : List Arrival) : List α × Except String Unit :=
  F.heardFrom F.start input

theorem outcomes_read (F : Framing S α) (s : S) (taken : List Arrival) (input : List Arrival) :
    (F.read s taken (input.flatMap Item.ofArrival)).map Reading.outcome =
      (F.heardFrom s input).1.map (fun m => .ok (some m)) ++
        [(F.heardFrom s input).2.map fun _ => none] := by
  induction input generalizing s taken with
  | nil => exact outcomes_read_nil F s taken
  | cons a later ih =>
    rw [List.flatMap_cons]
    cases a with
    | bytes bs =>
      obtain ⟨taken', h⟩ := outcomes_read_bytes F s (.bytes bs :: taken) bs
        (later.flatMap Item.ofArrival)
      rw [ih, ← List.append_assoc, ← List.map_append] at h
      exact h
    | event e => exact ih s (.event e :: taken)
    | record r => exact ih s (.record r :: taken)
    | flush => exact ih s (.flush :: taken)
    | failure text => rfl

/-- However entries of the input and bytes are mixed, the reads bring the messages one by one, and
the last read brings how the input ends. -/
theorem outcomes_readings (F : Framing S α) (input : List Arrival) :
    (F.readings input).map Reading.outcome =
      (F.heard input).1.map (fun m => .ok (some m)) ++ [(F.heard input).2.map fun _ => none] :=
  outcomes_read F F.start [] input

theorem heardFrom_bytes (F : Framing S α) (s : S) (chunks : List Bytes) :
    F.heardFrom s (chunks.map .bytes) =
      ((F.run s chunks.flatten).1 ++ (F.finish (F.run s chunks.flatten).2).1.toList,
        (F.finish (F.run s chunks.flatten).2).2) := by
  induction chunks generalizing s with
  | nil => rfl
  | cons bs chunks ih =>
    rw [List.map_cons, List.flatten_cons, run_append, heardFrom, ih, List.append_assoc]

/-- In whatever chunks a stream arrives, what is heard are its messages. -/
theorem heard_bytes (F : Framing S α) (chunks : List Bytes) :
    F.heard (chunks.map .bytes) = F.messages chunks.flatten :=
  heardFrom_bytes F F.start chunks

theorem outcomes_bytes (F : Framing S α) {chunks : List Bytes} {bytes : Bytes}
    (h : chunks.flatten = bytes) :
    (F.readings (chunks.map .bytes)).map Reading.outcome =
      (F.messages bytes).1.map (fun m => .ok (some m)) ++
        [(F.messages bytes).2.map fun _ => none] := by
  rw [outcomes_readings, heard_bytes, h]

/-- If nothing is left to say at the end, a stream of exact messages is read message by message. -/
theorem outcomes_of_exact {ι : Type} {F : Framing S α} {bytes : ι → Bytes} {message : ι → α}
    {is : List ι} (hend : F.finish F.start = (none, .ok ()))
    (h : ∀ i ∈ is, F.Exact (bytes i) (message i))
    {chunks : List Bytes} (hchunks : chunks.flatten = is.flatMap bytes) :
    (F.readings (chunks.map .bytes)).map Reading.outcome =
      is.map (fun i => .ok (some (message i))) ++ [.ok none] := by
  rw [outcomes_bytes F hchunks, messages_flatMap h, hend]
  show ((is.map message ++ []).map _) ++ [Except.ok none] = _
  rw [List.append_nil, List.map_map]
  rfl

end Framing
end DebugSession
