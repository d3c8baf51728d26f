import RegisterMachine.Trace.Console
import RegisterMachine.Trace.Entry

/-!
# Sinks

Where the events of a running machine go.  A sink only listens: it keeps what it needs of the
events, in order, and gives nothing back to the machine.
-/

namespace RegisterMachine.Trace

inductive Sink where
  /-- Keeps nothing. -/
  | silent
  /-- Keeps the lines for the two streams of a terminal. -/
  | console (output errors : Array String)
  /-- Keeps the entries of a trace: for all events if it is verbose, else for the essential ones. -/
  | trace (verbose : Bool) (entries : Array Entry)
  /-- Keeps the events themselves. -/
  | record (events : Array Event)
  deriving DecidableEq

namespace Sink

def receive (sink : Sink) (event : Event) : Sink :=
  match sink with
  | silent => silent
  | console output errors =>
    console (output ++ (outputLine? event).toArray) (errors ++ (errorLine? event).toArray)
  | trace verbose entries =>
    trace verbose
      (if verbose || event.isEssential then entries.push (Entry.ofEvent event) else entries)
  | record events => record (events.push event)

def receiveAll (sink : Sink) (events : List Event) : Sink :=
  events.foldl receive sink

/-- A sink of the same kind that has kept nothing yet. -/
def empty : Sink → Sink
  | silent => silent
  | console .. => console #[] #[]
  | trace verbose _ => trace verbose #[]
  | record _ => record #[]

/-- The entries of a trace.  A sink of another kind has none. -/
def entries : Sink → List Entry
  | trace _ kept => kept.toList
  | _ => []

end Sink

end RegisterMachine.Trace
