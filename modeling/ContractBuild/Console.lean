import ContractBuild.Run
import ContractBuild.Text.Markup
import ContractBuild.Text.Tabs

/-!
# The console

What a terminal shows of the lines for the user: `success`, `error`, `warning` and `info` of the
program, and its `ConsoleChannel`. Plain lines are written as they are, messages stand behind a
mark that tells success, errors and warnings apart. Characters that would move the cursor or ring
the bell are left out, and tabs become spaces.

A message with a mark goes the way of markup: it is escaped, put behind the mark, and rendered
(`Message.shown`). A plain line does not. Both go through `display`, which is all that the console
does to a text that is not markup.

Colours are switched on and off (`setNoColor`) but never written, so what is shown does not depend
on them. Lines are not wrapped, and short codes for pictographs are left as they stand.
-/

namespace ContractBuild

/-- What a message reports. -/
inductive Mark where
  | success
  | error
  | warning
  deriving DecidableEq, Repr

/-- A mark in its colour, as markup. -/
def Mark.markup : Mark → String
  | success => "[green]✓[/green]"
  | error => "[red]✗[/red]"
  | warning => "[yellow]⚠[/yellow]"

/-- Errors go to the error channel. -/
def Mark.channel : Mark → Channel
  | error => .err
  | success | warning => .out

/-- What is written to the console. -/
inductive Message where
  | plain (line : Line)
  | marked (mark : Mark) (text : String)
  deriving DecidableEq, Repr

/-- Both channels of a terminal, with the text written so far. -/
structure Console where
  /-- Whether colours are switched off. -/
  noColor : Bool := false
  out : String := ""
  err : String := ""
  deriving DecidableEq, Repr

namespace Console

/-- The characters that a console does not show: bell, backspace, vertical tab, form feed and
carriage return. -/
def hidden : List Char := ['\x07', '\x08', '\x0b', '\x0c', '\r']

/-- What is shown of a text. -/
def display (cs : List Char) : List Char :=
  Text.expandTabs (cs.filter fun c => !hidden.contains c)

end Console

namespace Message

def channel : Message → Channel
  | plain line => line.channel
  | marked mark _ => mark.channel

/-- What a message shows. -/
def shown : Message → List Char
  | plain line => Console.display line.text.toList
  | marked mark text =>
    Console.display (Text.Markup.render
      (mark.markup.toList ++ ' ' :: Text.Markup.escape text.toList))

/-- The text that a message adds to its channel. -/
def written (m : Message) : String := String.ofList (m.shown ++ ['\n'])

end Message

namespace Console

/-- Adds text to a channel. -/
def write (c : Console) (text : String) : Channel → Console
  | .out => { c with out := c.out ++ text }
  | .err => { c with err := c.err ++ text }

/-- Prints a message. -/
def print (c : Console) (m : Message) : Console := c.write m.written m.channel

/-- Prints messages one after another. -/
def printAll (c : Console) (ms : List Message) : Console := ms.foldl print c

/-- Switches colours off or on, on both channels. -/
def setNoColor (c : Console) (noColor : Bool) : Console := { c with noColor }

end Console

end ContractBuild
