/-
Messages with a header.  Header lines up to a blank one name the length of the body in bytes; blank
lines before a header are skipped.
-/
import DebugSession.Framing.Line
import DebugSession.Text.Decimal

namespace DebugSession
namespace Message

open Text (Bytes)
open Text.Decimal (render)

/-- Longer bodies are skipped. -/
def greatestLength : Nat := 16 * 1024 * 1024

/-- What a header and its body come to. -/
inductive Frame where
  | body (bytes : Bytes)
  | missingLength
  /-- The length is no number that fits a word. -/
  | badLength (text : String)
  | tooLong (length : Nat)
deriving Repr, DecidableEq, Inhabited

structure Header where
  /-- The bytes of the line that is being read, the last one first. -/
  line : Bytes := []
  /-- Whether a line that is not blank was read. -/
  seen : Bool := false
  /-- What the last line with a length says. -/
  length : Option (Except String Nat) := none
deriving Inhabited

inductive State where
  | header (h : Header)
  /-- So many bytes of the body are missing; `held` are the others, the last one first. -/
  | body (left : Nat) (held : Bytes)
  | skip (length left : Nat)
deriving Inhabited

def start : State := .header {}

def lengthName : String := "Content-Length:"

/-- The length that a header line names, if it names one. -/
def lengthOf? (line : Bytes) : Option (Except String Nat) :=
  let cs := (Text.Utf8.lossy line).toList
  let name := lengthName.toList
  if name.isPrefixOf cs then
    let number := Text.trimBlank (cs.drop name.length)
    some ((Text.Decimal.parse UInt64.size number).mapError fun _ => String.ofList number)
  else none

/-- What follows the blank line of a header. -/
def afterHeader : Option (Except String Nat) → Option Frame × State
  | none => (some .missingLength, start)
  | some (.error text) => (some (.badLength text), start)
  | some (.ok n) =>
    if greatestLength < n then (none, .skip n n)
    else if n = 0 then (some (.body []), start)
    else (none, .body n [])

/-- Takes the line that the header holds. -/
def endLine (h : Header) : Option Frame × State :=
  let line := Line.body h.line.reverse
  if line.isEmpty then
    if h.seen then afterHeader h.length else (none, start)
  else (none, .header { seen := true, length := lengthOf? line <|> h.length })

def push : State → UInt8 → Option Frame × State
  | .header h, b =>
    if b = Line.lf then endLine h else (none, .header { h with line := b :: h.line })
  | .body left held, b =>
    if left ≤ 1 then (some (.body (b :: held).reverse), start)
    else (none, .body (left - 1) (b :: held))
  | .skip length left, _ =>
    if left ≤ 1 then (some (.tooLong length), start) else (none, .skip length (left - 1))

def cutInHeader : String := "unexpected end of file"
def cutInBody : String := "failed to fill whole buffer"

/-- The end of the stream in a state that a line leads to. -/
def close : State → Option Frame × Except String Unit
  | .header h => (none, if h.seen then .error cutInHeader else .ok ())
  | .body _ _ => (none, .error cutInBody)
  | .skip length _ => (some (.tooLong length), .ok ())

/-- The end of the stream.  A line that it cuts off still counts as a line. -/
def finish : State → Option Frame × Except String Unit
  | .header h =>
    if h.line.isEmpty then close (.header h)
    else
      match endLine h with
      | (some frame, _) => (some frame, .ok ())
      | (none, s) => close s
  | s => close s

def framing : Framing State Frame := { start, push, finish }

def encode (payload : String) : String :=
  lengthName ++ " " ++ render payload.utf8ByteSize ++ "\r\n\r\n" ++ payload

/-- Why a message cannot be read; the next one can. -/
inductive Fault (ε : Type) where
  | missingLength
  | badLength (text : String)
  | tooLong (length : Nat)
  | malformed (e : ε)
deriving Repr, DecidableEq, Inhabited

namespace Fault

variable {ε : Type}

/-- The wording, where `describe` words the refusal of a body. -/
def message (describe : ε → String) : Fault ε → String
  | missingLength => "missing Content-Length header"
  | badLength text => "invalid Content-Length header: " ++ text
  | tooLong length =>
    "invalid Content-Length header: " ++ render length ++ " exceeds limit of " ++
      render greatestLength ++ " bytes"
  | malformed e => "malformed message: " ++ describe e

end Fault

/-- What a frame carries, when `read` reads bodies. -/
def open? {ε α : Type} (read : Bytes → Except ε α) : Frame → Except (Fault ε) α
  | .body bytes => (read bytes).mapError .malformed
  | .missingLength => .error .missingLength
  | .badLength text => .error (.badLength text)
  | .tooLong length => .error (.tooLong length)

end Message
end DebugSession
