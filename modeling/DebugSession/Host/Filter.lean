/-
Programs that turn their arguments and their input into output.
-/
import DebugSession.Host.Printf

namespace DebugSession
namespace Host

open Text (Bytes)
open Text.Decimal (render renderInt)

/-- How much of an endless stream is produced before its reader is expected to be done. -/
def endlessLength : Nat := 0x40000

def zeros : Bytes := List.replicate endlessLength 0

def lineBytes (s : String) : Bytes := Text.Utf8.encode s ++ [0x0A]

/-- A line again and again. -/
def yes (args : List String) : Bytes :=
  let line := lineBytes (if args.isEmpty then "y" else " ".intercalate args)
  (List.replicate (endlessLength / line.length + 1) line).flatten

/-- A natural number, perhaps counted in a larger unit. -/
def size? (s : String) : Option Nat :=
  let cs := s.toList
  let digits := cs.takeWhile Text.Decimal.isDigit
  let n := Text.Decimal.value digits
  if digits.isEmpty then none
  else
    match cs.drop digits.length with
    | [] => some n
    | ['k'] => some (1024 * n)
    | ['K'] => some (1024 * n)
    | ['M'] => some (1024 * 1024 * n)
    | _ => none

def takeLines (n : Nat) : Bytes → Bytes
  | [] => []
  | b :: bytes =>
    match n with
    | 0 => []
    | n + 1 => b :: takeLines (if b = 0x0A then n else n + 1) bytes

/-- The number after an option, which may stand next to it. -/
def optionValue? (option : String) : List String → Option (Nat × List String)
  | first :: rest =>
    if first = option then
      match rest with
      | value :: rest => (size? value).map fun n => (n, rest)
      | [] => none
    else if option.toList.isPrefixOf first.toList then
      (size? (String.ofList (first.toList.drop option.length))).map fun n => (n, rest)
    else none
  | [] => none

/-- The files whose contents do not depend on anything. -/
def contents? : String → Option Bytes
  | "/dev/zero" => some zeros
  | "/dev/null" => some []
  | _ => none

/-- What files hold, or the input if there is none. -/
def inputOf (files : List String) (input : Bytes) : Bytes :=
  if files.isEmpty then input
  else files.flatMap fun f => if f = "-" then input else (contents? f).getD []

def head (args : List String) (input : Bytes) : Bytes :=
  match optionValue? "-c" args, optionValue? "-n" args, optionValue? "-" args with
  | some (n, files), _, _ => (inputOf files input).take n
  | _, some (n, files), _ => takeLines n (inputOf files input)
  | _, _, some (n, files) => takeLines n (inputOf files input)
  | none, none, none => takeLines 10 (inputOf args input)

/-- Numbers from the first to the last argument, each on its line. -/
def seq (args : List String) : Bytes :=
  let number := fun (s : String) => (size? s).getD 0
  let lines := fun (first last : Nat) =>
    (List.range (last + 1 - first)).flatMap fun k => lineBytes (render (first + k))
  match args with
  | [last] => lines 1 (number last)
  | [first, last] => lines (number first) (number last)
  | _ => []

/-- The bytes of a set given by characters, escapes and ranges; `skip` characters belong to what
was read before. -/
def byteSet (skip : Nat) : List Char → Bytes
  | [] => []
  | c :: cs =>
    match skip with
    | skip + 1 => byteSet skip cs
    | 0 =>
      if c = '\\' then
        let (bs, n) := escape cs
        bs ++ byteSet n cs
      else
        match cs with
        | '-' :: last :: _ =>
          (List.range (last.toNat + 1 - c.toNat)).map (fun k => UInt8.ofNat (c.toNat + k)) ++
            byteSet 2 cs
        | _ => String.utf8EncodeChar c ++ byteSet 0 cs

/-- The byte that takes the place of another: the one at the same place of the second set, or its
last one. -/
def replaceByte (source target : Bytes) (b : UInt8) : UInt8 :=
  match source.idxOf? b with
  | some n => (target[n]?).getD (target.getLast?.getD b)
  | none => b

def tr (args : List String) (input : Bytes) : Bytes :=
  match args with
  | ["-d", set] =>
    let removed := byteSet 0 set.toList
    input.filter fun b => !removed.contains b
  | [source, target] =>
    let source := byteSet 0 source.toList
    let target := byteSet 0 target.toList
    input.map (replaceByte source target)
  | _ => []

/-- The value of an operand such as `bs=512`. -/
def operand? (name : String) (args : List String) : Option String :=
  args.findSome? fun arg =>
    let start := (name ++ "=").toList
    if start.isPrefixOf arg.toList then some (String.ofList (arg.toList.drop start.length))
    else none

/-- Copies blocks of the input or of a file. -/
def dd (args : List String) (input : Bytes) : Bytes :=
  let source := inputOf (operand? "if" args).toList input
  let block := ((operand? "bs" args).bind size?).getD 512
  match (operand? "count" args).bind size? with
  | some n => source.take (block * n)
  | none => source

/-- The number of bytes or of lines of the input. -/
def wc (args : List String) (input : Bytes) : Bytes :=
  match args with
  | ["-c"] => lineBytes (render input.length)
  | ["-l"] => lineBytes (render (input.count 0x0A))
  | _ => []

/-- The output of a program with this name, none if there is no such program. -/
def filter? (name : String) (args : List String) (input : Bytes) : Option Bytes :=
  match name with
  | "printf" => some (printf args)
  | "cat" => some (inputOf args input)
  | "head" => some (head args input)
  | "seq" => some (seq args)
  | "tr" => some (tr args input)
  | "yes" => some (yes args)
  | "dd" => some (dd args input)
  | "wc" => some (wc args input)
  | _ => none

end Host
end DebugSession
