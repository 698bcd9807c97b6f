/-
What a program does when nobody interferes: what it writes, and how it ends.
-/
import DebugSession.Text.Utf8

namespace DebugSession
namespace Host

open Text (Bytes)

inductive Ending where
  | code (n : Nat)
  | signal (n : Nat)
  /-- It does not end by itself for a long time. -/
  | never
deriving Repr, DecidableEq, Inhabited

structure Plan where
  stdout : Bytes := []
  stderr : Bytes := []
  ending : Ending := .code 0
  /-- What it left in the background keeps the streams open for a while after its end. -/
  lingers : Bool := false
deriving Repr, DecidableEq, Inhabited

end Host
end DebugSession
