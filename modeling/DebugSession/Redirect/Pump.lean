/-
Copying a stream: reads of at most a buffer, until one brings nothing or fails.
-/
import DebugSession.Text.Utf8.Decoder

namespace DebugSession
namespace Redirect

open Text (Bytes)

/-- The number of bytes that one read brings at most. -/
def bufferSize : Nat := 4096

/-- What a read brings. -/
inductive Read where
  | data (bytes : Bytes)
  /-- The read was interrupted and may be repeated. -/
  | interrupted
  | failed (text : String)
deriving Repr, DecidableEq, Inhabited

/-- Bytes in pieces of at most a buffer each.  No bytes make no piece. -/
def pieces (bytes : Bytes) : List Bytes :=
  if bytes.length ≤ bufferSize then if bytes.isEmpty then [] else [bytes]
  else bytes.take bufferSize :: pieces (bytes.drop bufferSize)
termination_by bytes.length
decreasing_by simp only [List.length_drop, bufferSize] at *; omega

theorem flatten_pieces (bytes : Bytes) : (pieces bytes).flatten = bytes := by
  fun_induction pieces bytes with
  | case1 bytes _ h => simpa using h.symm
  | case2 => simp
  | case3 bytes _ ih => simp [ih]

theorem length_le_of_mem_pieces {bytes chunk : Bytes} (h : chunk ∈ pieces bytes) :
    0 < chunk.length ∧ chunk.length ≤ bufferSize := by
  fun_induction pieces bytes with
  | case1 => simp at h
  | case2 bytes hle hne =>
    rw [List.mem_singleton.1 h]
    exact ⟨List.length_pos_iff.2 (by simpa using hne), hle⟩
  | case3 bytes hlt ih =>
    rcases List.mem_cons.1 h with rfl | h
    · simp only [List.length_take, bufferSize] at *
      omega
    · exact ih h

/-- The reads in which a source hands out what it has. -/
def Read.split : Read → List Read
  | .data bytes => if bytes.isEmpty then [.data []] else (pieces bytes).map .data
  | r => [r]

/-- The chunks that come before the end of the stream. -/
def chunks : List Read → List Bytes
  | [] => []
  | .data [] :: _ => []
  | .data bytes :: reads => bytes :: chunks reads
  | .interrupted :: reads => chunks reads
  | .failed _ :: _ => []

/-- Whether a read is the last one of its stream. -/
def Read.ends : Read → Bool
  | .data bytes => bytes.isEmpty
  | .interrupted => false
  | .failed _ => true

theorem chunks_append (a b : List Read) :
    chunks (a ++ b) = if a.any Read.ends then chunks a else chunks a ++ chunks b := by
  induction a with
  | nil => rfl
  | cons r a ih =>
    cases r with
    | data bytes =>
      cases bytes with
      | nil => rfl
      | cons b bytes =>
        simp only [List.cons_append, chunks, ih, List.any_cons, Read.ends, List.isEmpty_cons,
          Bool.false_or]
        split <;> rfl
    | interrupted => exact ih
    | failed text => rfl

theorem chunks_append_data {a : List Bytes} (ha : [] ∉ a) (reads : List Read) :
    chunks (a.map .data ++ reads) = a ++ chunks reads := by
  induction a with
  | nil => rfl
  | cons x a ih =>
    cases x with
    | nil => simp at ha
    | cons b x => simp [chunks, ih (fun h => ha (List.mem_cons_of_mem _ h))]

end Redirect
end DebugSession
