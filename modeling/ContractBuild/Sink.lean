import ContractBuild.Console
import ContractBuild.Failure.Basic

/-!
# Sinks

Where lines can be written: text streams, buffers in memory, and the channels of a console
(`StreamChannel`, `BufferChannel` and `ConsoleChannel` of the program, which share the protocol
`OutputChannel`). A sink takes one line after another; only a stream that was closed takes none.

A build does not write to sinks. It collects its lines (`Run.lines`), and whoever runs it hands
them to a sink in their order.
-/

namespace ContractBuild

/-- What takes one line after another. -/
class Sink (σ : Type) where
  writeLine : σ → String → Except Misuse σ

/-- A text stream. Nothing can be written to it once it is closed. -/
structure TextStream where
  text : String := ""
  closed : Bool := false
  deriving DecidableEq, Repr

/-- The lines written so far. -/
structure LineBuffer where
  lines : List String := []
  deriving DecidableEq, Repr

/-- The output or the error channel of a console. -/
structure ConsoleSink where
  console : Console := {}
  channel : Channel := .out
  deriving DecidableEq, Repr

namespace TextStream

/-- Ends the line with a newline. -/
def writeLine (s : TextStream) (line : String) : Except Misuse TextStream :=
  if s.closed then .error .closedStream else .ok { s with text := s.text ++ line ++ "\n" }

def close (s : TextStream) : TextStream := { s with closed := true }

instance : Sink TextStream := ⟨writeLine⟩

end TextStream

namespace LineBuffer

def writeLine (b : LineBuffer) (line : String) : LineBuffer := ⟨b.lines ++ [line]⟩

/-- The lines with newlines between them. -/
def text (b : LineBuffer) : String := "\n".intercalate b.lines

instance : Sink LineBuffer := ⟨fun b line => .ok (b.writeLine line)⟩

end LineBuffer

namespace ConsoleSink

def writeLine (s : ConsoleSink) (line : String) : ConsoleSink :=
  { s with console := s.console.print (.plain ⟨s.channel, line⟩) }

instance : Sink ConsoleSink := ⟨fun s line => .ok (s.writeLine line)⟩

end ConsoleSink

namespace Sink

/-- Writes lines one after another. -/
def writeLines {σ : Type} [Sink σ] (s : σ) : List String → Except Misuse σ
  | [] => .ok s
  | line :: lines => do writeLines (← writeLine s line) lines

end Sink

end ContractBuild
