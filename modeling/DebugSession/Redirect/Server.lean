/-
The redirect server: it owns a capture, hands its write ends out once, and listens for clients
until it is stopped.
-/
import DebugSession.Redirect.Capture
import DebugSession.Redirect.Error

namespace DebugSession
namespace Redirect

open Text (Bytes)

/-- Where the write ends of the capture are. -/
inductive Streams where
  /-- With the server. -/
  | kept
  /-- With whoever took them. -/
  | taken
  | closed
deriving Repr, DecidableEq, Inhabited

structure Server where
  streams : Streams := .kept
  capture : Capture := {}
  listening : Bool := true
deriving Repr, DecidableEq, Inhabited

namespace Server

/-- Hands the write ends out, unless they are gone. -/
def takeStreams (s : Server) : Bool × Server :=
  if s.streams = .kept then (true, { s with streams := .taken }) else (false, s)

/-- Writes a chunk with the write ends in hand and waits until it is delivered. -/
def write (s : Server) (channel : Channel) (bytes : Bytes) : Option Bool × List Event × Server :=
  if s.streams = .taken then
    let (events, capture) := s.capture.publish channel bytes
    (some capture.isDelivered, events, { s with capture })
  else (none, [], s)

def close (s : Server) : List Event × Server :=
  let (events, capture) := s.capture.close
  (events, { s with streams := .closed, capture })

/-- Lets go of the write ends in hand; the answer is whether the forwarders came to their end. -/
def dropStreams (s : Server) : Bool × List Event × Server :=
  match s.streams with
  | .kept => (false, [], s)
  | .taken => let (events, s) := s.close; (true, events, s)
  | .closed => (true, [], s)

/-- Stops the server, whose listener may have failed before.  The failure is reported once. -/
def stop (s : Server) (failure : Option String) : Except Error Unit × List Event × Server :=
  if !s.listening then (.ok (), [], s)
  else
    let (events, s) := if s.streams = .kept then s.close else ([], s)
    let result := match failure with
      | some cause => .error (.accept cause)
      | none => .ok ()
    (result, events, { s with listening := false })

def inUse : String := "Address already in use (os error 98)"

def startAgain (s : Server) (port : UInt16) : Except Error Server :=
  if s.listening then .error (.bind port inUse) else .ok {}

end Server
end Redirect
end DebugSession
