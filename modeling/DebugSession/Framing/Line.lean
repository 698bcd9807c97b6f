/-
Lines.  A line ends with LF or with the stream; the CRs and LFs at its end are no part of its text.
-/
import DebugSession.Framing
import DebugSession.Text.Blank

namespace DebugSession
namespace Line

open Text (Bytes)

def lf : UInt8 := 0x0A
def cr : UInt8 := 0x0D

def isSeparator (b : UInt8) : Bool := b == lf || b == cr

/-- A line without the CRs and LFs at its end. -/
def body (raw : Bytes) : Bytes := Text.dropLastWhile isSeparator raw

structure Undecodable where
  bytes : Bytes
  fault : Text.Utf8.Fault
deriving Repr, DecidableEq, Inhabited

namespace Undecodable

def message (u : Undecodable) : String := "invalid input: " ++ u.fault.message

end Undecodable

def decode (raw : Bytes) : Except Undecodable String :=
  (Text.Utf8.decode (body raw)).mapError fun fault => ⟨body raw, fault⟩

/-- Lines of a stream; the state holds the bytes of the line so far, the last one first. -/
def framing : Framing Bytes (Except Undecodable String) where
  start := []
  push held b := if b = lf then (some (decode held.reverse), []) else (none, b :: held)
  finish held := (if held.isEmpty then none else some (decode held.reverse), .ok ())

end Line
end DebugSession
