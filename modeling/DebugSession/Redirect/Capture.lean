/-
The capture of a program's output: a pipe for each standard stream, with a forwarder at its end.
Bytes are counted when they are written and when they are delivered, so that a writer can wait until
everything it wrote is published.
-/
import DebugSession.Redirect.Forwarder

namespace DebugSession
namespace Redirect

open Text (Bytes)

structure Pipe where
  held : Bytes := []
  /-- The number of bytes of the writes that are complete. -/
  written : Nat := 0
  forwarder : Forwarder
deriving Repr, DecidableEq, Inhabited

namespace Pipe

def new (channel : Channel) : Pipe := { forwarder := { channel } }

/-- A part of a write enters the pipe. -/
def accept (p : Pipe) (bytes : Bytes) : Pipe := { p with held := p.held ++ bytes }

/-- A write of so many bytes is complete. -/
def count (p : Pipe) (n : Nat) : Pipe := { p with written := p.written + n }

/-- The forwarder takes bytes out of the pipe, at most `n` and at most a buffer. -/
def forward (p : Pipe) (n : Nat) : List Event × Pipe :=
  let size := min n bufferSize
  let (events, forwarder) := p.forwarder.forward (p.held.take size)
  (events, { p with held := p.held.drop size, forwarder })

/-- Whether everything written is delivered. -/
def isDelivered (p : Pipe) : Bool := p.written ≤ p.forwarder.delivered

/-- The forwarder takes everything out of the pipe. -/
def drain (p : Pipe) : List Event × Pipe :=
  let (events, forwarder) := p.forwarder.forwardAll (pieces p.held)
  (events, { p with held := [], forwarder })

/-- The forwarder finds the end of the pipe. -/
def finish (p : Pipe) : List Event × Pipe :=
  let (events, forwarder) := p.forwarder.finish
  (events, { p with forwarder })

def close (p : Pipe) : List Event × Pipe :=
  let (events, p) := p.drain
  let (last, p) := p.finish
  (events ++ last, p)

end Pipe

structure Capture where
  stdout : Pipe := .new .stdout
  stderr : Pipe := .new .stderr
deriving Repr, DecidableEq, Inhabited

namespace Capture

def pipe (c : Capture) : Channel → Pipe
  | .stdout => c.stdout
  | .stderr => c.stderr

def setPipe (c : Capture) (p : Pipe) : Channel → Capture
  | .stdout => { c with stdout := p }
  | .stderr => { c with stderr := p }

/-- Whether a writer that waits for delivery goes on. -/
def isDelivered (c : Capture) : Bool := c.stdout.isDelivered && c.stderr.isDelivered

/-- Writes a chunk and waits until it is delivered. -/
def publish (c : Capture) (channel : Channel) (bytes : Bytes) : List Event × Capture :=
  let (events, p) := (((c.pipe channel).accept bytes).count bytes.length).drain
  (events, c.setPipe p channel)

def close (c : Capture) : List Event × Capture :=
  let (out, stdout) := c.stdout.close
  let (err, stderr) := c.stderr.close
  (out ++ err, { stdout, stderr })

end Capture
end Redirect
end DebugSession
