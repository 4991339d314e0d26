import Grok.Filter
import Grok.Timeout.Session
/-!
Engines: a filter and the session in which its attempts are made.
-/
namespace Grok

/-- Attempts are made in a session, each in front of its deadline. -/
def Timeout.Session.runner : Runner Timeout.Session where
  deadline := Timeout.Session.deadline
  run := Timeout.Session.run

structure Engine where
  filter : Filter
  session : Timeout.Session

namespace Engine

def enforcerOf (o : Options) : Timeout.Enforcer :=
  match o.timeout with
  | some d => (Timeout.Enforcer.new d).withInterval o.interval
  | none => .disabled

def ofOptions (tree : FileTree) (o : Options) : Except Error Engine × Log :=
  match Filter.ofOptions tree o with
  | (.error e, log) => (.error e, log)
  | (.ok f, log) =>
    let (s, log') := (Timeout.Session.new (enforcerOf o)).start
    (.ok ⟨f, s⟩, log ++ log')

/-- Filters a record: the outcome, the record with captures and tags, the log, and the engine
afterwards. -/
def run (e : Engine) (event : Event) : FilterOutcome × Event × Log × Engine :=
  let (outcome, p) := e.filter.apply Timeout.Session.runner ⟨event, e.session, []⟩
  (outcome, p.event, p.log, { e with session := p.state })

def runAll (e : Engine) : List Event → List (FilterOutcome × Event) × Engine
  | [] => ([], e)
  | event :: events =>
    let (outcome, event, _, e) := e.run event
    let (rest, e) := e.runAll events
    ((outcome, event) :: rest, e)

def startMonitor (e : Engine) : Engine × Log :=
  let (s, log) := e.session.start
  ({ e with session := s }, log)

def stopMonitor (e : Engine) : Engine × Log :=
  let (s, log) := e.session.stop
  ({ e with session := s }, log)

end Engine

end Grok
