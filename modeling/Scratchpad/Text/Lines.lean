/-!
# Lines

Two ways to cut a text at line feeds. `lines` gives the text of each line without
its terminator (a line feed, or a carriage return and a line feed). `records` keeps
the terminator with each record, which is what a stream reader sees.
-/

set_option autoImplicit false

namespace Scratchpad.Text

/-- Cut after each occurrence of a separator. The separator stays at the end of its
record, and no empty record follows the last one. -/
def records {α : Type} [BEq α] (separator : α) : List α → List (List α)
  | [] => []
  | a :: rest =>
    if a == separator then [a] :: records separator rest
    else match records separator rest with
      | [] => [[a]]
      | record :: others => (a :: record) :: others

def dropFinal {α : Type} [BEq α] (final : α) (record : List α) : List α :=
  if record.getLast? == some final then record.dropLast else record

/-- The text of a record: a final line feed goes, and with it one carriage return
before it. A record without a line feed is left alone. -/
def lineText (record : List Char) : List Char :=
  if record.getLast? == some '\n' then dropFinal '\r' record.dropLast else record

def lines (text : List Char) : List (List Char) :=
  (records '\n' text).map lineText

end Scratchpad.Text
