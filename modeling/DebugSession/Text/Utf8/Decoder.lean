/-
Decoding a byte stream that arrives in chunks.  The decoder takes one byte at a time and holds back
only the beginning of a character, so that where the stream is cut does not show in the text.
-/
import DebugSession.Text.Utf8

namespace DebugSession
namespace Text
namespace Utf8

/-- The bytes held back: none, or one to three bytes that begin a character. -/
structure Decoder where
  pending : Bytes := []
deriving Repr, DecidableEq, Inhabited

namespace Decoder

/-- What a byte means when nothing is held back. -/
def start (b : UInt8) : List Char × Decoder :=
  if isAscii b then ([Char.ofNat b.toNat], ⟨[]⟩)
  else if isLead2 b || isLead3 b || isLead4 b then ([], ⟨[b]⟩)
  else ([replacement], ⟨[]⟩)

/-- The held bytes cannot go on with `b`: they become one U+FFFD and `b` starts afresh. -/
def restart (b : UInt8) : List Char × Decoder :=
  let (text, next) := start b
  (replacement :: text, next)

/-- Takes one byte: the text it completes, and what is held back then. -/
def push (d : Decoder) (b : UInt8) : List Char × Decoder :=
  match d.pending with
  | [] => start b
  | [a] =>
    if isLead2 a && isContinuation b then ([charOf2 a b], ⟨[]⟩)
    else if isLead3 a && isSecondOf3 a b || isLead4 a && isSecondOf4 a b then ([], ⟨[a, b]⟩)
    else restart b
  | [a, a₂] =>
    if isContinuation b then
      if isLead3 a then ([charOf3 a a₂ b], ⟨[]⟩) else ([], ⟨[a, a₂, b]⟩)
    else restart b
  | [a, a₂, a₃] =>
    if isContinuation b then ([charOf4 a a₂ a₃ b], ⟨[]⟩) else restart b
  | _ => restart b

/-- Takes bytes one after the other. -/
def run : Decoder → Bytes → List Char × Decoder
  | d, [] => ([], d)
  | d, b :: bytes =>
    let (text, next) := d.push b
    let (later, final) := next.run bytes
    (text ++ later, final)

theorem run_append (d : Decoder) (a b : Bytes) :
    d.run (a ++ b) = ((d.run a).1 ++ ((d.run a).2.run b).1, ((d.run a).2.run b).2) := by
  induction a generalizing d with
  | nil => simp [run]
  | cons x a ih => simp [run, ih, List.append_assoc]

/-- The text a chunk completes. -/
def decode (d : Decoder) (chunk : Bytes) : String × Decoder :=
  let (text, next) := d.run chunk
  (String.ofList text, next)

/-- Ends the stream: held bytes are a character cut short. -/
def finish (d : Decoder) : Option String × Decoder :=
  if d.pending.isEmpty then (none, d) else (some (String.singleton replacement), ⟨[]⟩)

end Decoder
end Utf8
end Text
end DebugSession
