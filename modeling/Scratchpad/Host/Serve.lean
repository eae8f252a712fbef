import Scratchpad.Host.Basic
import Scratchpad.Text.Lines

/-!
# Serving

How a host gets through its input when nothing else happens meanwhile: the start is over before
the first record, and every request is answered before the next one is read.
-/

set_option autoImplicit false

namespace Scratchpad.Host

open Controller (Surroundings)

variable {μ : Type}

def settle (surroundings : Surroundings μ) (host : Host μ) : Host μ :=
  { host with controller := host.controller.settle surroundings }

def startUp (surroundings : Surroundings μ) (host : Host μ) : Host μ :=
  (host.beginStart.settle surroundings).report

def complete (surroundings : Surroundings μ) (host : Host μ) : Host μ :=
  (host.settle surroundings).announce.respond

/-- Take a record of input and see it through, if the host takes input. -/
def handle (surroundings : Surroundings μ) (host : Host μ) (record : List UInt8) : Host μ :=
  if host.isReading then (host.takeRecord record).complete surroundings else host

def serveRecords (surroundings : Surroundings μ) (host : Host μ) (records : List (List UInt8)) :
    Host μ :=
  let last := records.foldl (handle surroundings) host
  if last.isReading then last.close else last

def recordEnd : UInt8 := 0x0A

def serve (surroundings : Surroundings μ) (host : Host μ) (input : List UInt8) : Host μ :=
  host.serveRecords surroundings (Text.records recordEnd input)

end Scratchpad.Host
