import Scratchpad.Host.Request
import Scratchpad.Text.Blank
import Scratchpad.Text.Utf8

/-!
# Lines of input

The host reads its input record by record, where a record ends with its line feed. A record that
is no text ends the input; one that is a text is blank, a request, or not understood.
-/

set_option autoImplicit false

namespace Scratchpad.Host

open Text.Utf8 (Malformed)

/-- What a line of input says. -/
inductive Line where
  | blank
  | request (envelope : Envelope)
  /-- The line is no request, for the reason given. -/
  | garbled (report : String)
  deriving DecidableEq, Repr

namespace Line

/-- The line of a text. Blanks around it do not count. -/
def ofText (text : List Char) : Line :=
  match Text.trimChars text with
  | [] => .blank
  | content =>
    match Envelope.ofText (String.ofList content) with
    | .ok envelope => .request envelope
    | .error fault => .garbled (fault.message content)

def ofRecord (record : List UInt8) : Except Malformed Line :=
  (Text.Utf8.decode record).map ofText

end Line

end Scratchpad.Host
