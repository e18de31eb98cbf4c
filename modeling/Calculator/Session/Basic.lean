import Calculator.Session.Command
import Calculator.Session.Event
import Calculator.Session.Response

/-!
# Sessions

A session executes lines one after the other with the same variables. Each
line gets a response and leaves events in the log.
-/

namespace Calculator

structure Session where
  evaluator : Evaluator Float

/-- What a line results in. -/
structure Reply where
  response : Response
  events : List Event

namespace Session

def start : Session := ⟨Evaluator.ofStore Store.seeded⟩

def store (s : Session) : Store Float := s.evaluator.store

/-- Evaluates a text: the session afterwards, and the reply. -/
def evaluate (s : Session) (source : String) : Session × Reply :=
  match Token.scan source with
  | .error fault => (s, ⟨.invalid, [.scanFailed (.malformed fault)]⟩)
  | .ok tokens =>
    let (evaluator, traced) := s.evaluator.evaluate .binary64 tokens
    (⟨evaluator⟩,
      ⟨.ofOutcome traced.outcome, .scanned source tokens.length :: Event.ofTraced traced⟩)

/-- Executes a line: the session afterwards, and the reply. -/
def execute (s : Session) (line : String) : Session × Reply :=
  match Command.ofLine line with
  | .help => (s, ⟨.help, []⟩)
  | .quit => (s, ⟨.quit, []⟩)
  | .list => (s, ⟨.listing s.store.bindings, []⟩)
  | .evaluate expression => s.evaluate expression

def executeAll (s : Session) : List String → Session × List Reply
  | [] => (s, [])
  | line :: lines =>
    let (next, reply) := s.execute line
    let (last, replies) := next.executeAll lines
    (last, reply :: replies)

/-- Executes lines in order, up to the first one that quits: the replies to
the lines before it. -/
def repliesUntilQuit (s : Session) : List String → List Reply
  | [] => []
  | line :: lines =>
    let (next, reply) := s.execute line
    if reply.response.isQuit then []
    else reply :: next.repliesUntilQuit lines

end Session

end Calculator
