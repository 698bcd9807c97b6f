/-
Integer expressions of the shell.  A sum is read as terms and a term as factors, from left to
right.
-/
import DebugSession.Text.Blank
import DebugSession.Text.Decimal

namespace DebugSession
namespace Host
namespace Shell
namespace Arithmetic

inductive Symbol where
  | number (n : Int)
  | mark (c : Char)
deriving Repr, DecidableEq, Inhabited

/-- The symbols of an expression, where `lookup` gives the values of names; `held` are the letters
and digits at work, the last one first. -/
def symbols (lookup : String → Int) (held : List Char) : List Char → List Symbol
  | [] => finish held
  | c :: cs =>
    if c.isAlphanum || c = '_' then symbols lookup (c :: held) cs
    else if Text.isBlank c || c = '$' then finish held ++ symbols lookup [] cs
    else finish held ++ .mark c :: symbols lookup [] cs
where
  finish : List Char → List Symbol
    | [] => []
    | held =>
      let word := held.reverse
      if word.all Text.Decimal.isDigit then [.number (Text.Decimal.value word)]
      else [.number (lookup (String.ofList word))]

/-- What an operator between two numbers gives; nothing is divided by zero. -/
def combine? (op : Char) (a b : Int) : Option Int :=
  match op with
  | '+' => some (a + b)
  | '-' => some (a - b)
  | '*' => some (a * b)
  | '/' => if b = 0 then none else some (a.tdiv b)
  | '%' => if b = 0 then none else some (a.tmod b)
  | _ => none

def isSumOperator (c : Char) : Bool := c == '+' || c == '-'
def isTermOperator (c : Char) : Bool := c == '*' || c == '/' || c == '%'

mutual

def sum : Nat → List Symbol → Option (Int × List Symbol)
  | 0, _ => none
  | fuel + 1, ss => do
    let (a, ss) ← term fuel ss
    sumAfter fuel a ss

def sumAfter : Nat → Int → List Symbol → Option (Int × List Symbol)
  | 0, _, _ => none
  | fuel + 1, a, ss =>
    match ss with
    | .mark c :: rest =>
      if isSumOperator c then do
        let (b, rest) ← term fuel rest
        sumAfter fuel (← combine? c a b) rest
      else some (a, ss)
    | ss => some (a, ss)

def term : Nat → List Symbol → Option (Int × List Symbol)
  | 0, _ => none
  | fuel + 1, ss => do
    let (a, ss) ← factor fuel ss
    termAfter fuel a ss

def termAfter : Nat → Int → List Symbol → Option (Int × List Symbol)
  | 0, _, _ => none
  | fuel + 1, a, ss =>
    match ss with
    | .mark c :: rest =>
      if isTermOperator c then do
        let (b, rest) ← factor fuel rest
        termAfter fuel (← combine? c a b) rest
      else some (a, ss)
    | ss => some (a, ss)

def factor : Nat → List Symbol → Option (Int × List Symbol)
  | 0, _ => none
  | fuel + 1, ss =>
    match ss with
    | .number n :: rest => some (n, rest)
    | .mark '-' :: rest => do
      let (a, rest) ← factor fuel rest
      return (-a, rest)
    | .mark '(' :: rest => do
      match ← sum fuel rest with
      | (a, .mark ')' :: rest) => return (a, rest)
      | _ => none
    | _ => none

end

/-- The value of an expression, none if it has none. -/
def eval (lookup : String → Int) (expression : List Char) : Option Int :=
  let ss := symbols lookup [] expression
  match sum (4 * ss.length + 4) ss with
  | some (a, []) => some a
  | _ => none

end Arithmetic
end Shell
end Host
end DebugSession
