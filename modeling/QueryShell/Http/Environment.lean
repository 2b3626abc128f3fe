import QueryShell.Http.Driver
import QueryShell.Program.Environment

/-
Drivers over a web: an environment that answers what is asked of drivers by sending requests, and
leaves everything else to another environment.
-/
namespace QueryShell.Http

/-- Answers requests on a world of type `ω`. An exchange is one request that is handed to the client,
together with the answer that the client gives in the end. What the client does in between is part of
the web: redirects that it follows, and connections that it opens again. That is all that is assumed of
it. -/
abbrev Web (ω : Type) := Request → ω → Started ω Answer

variable {ω : Type}

/-- Answers a call to a driver. -/
def answerCall (web : Web ω) (c : Driver.Call) : State × ω → Started (State × ω) c.Reply
  | (st, w) =>
    match st.begin c with
    | .replied reply st => { world := (st, w), finish := fun world => (reply, world) }
    | .exchange request conclude =>
      let sent := web request w
      { world := (st, sent.world)
        interrupts := sent.interrupts
        finish := fun (st, w) =>
          let (answer, w) := sent.finish w
          let (reply, st) := conclude answer st
          (reply, (st, w)) }

/-- Answers all calls. -/
def environment (web : Web ω) (rest : Environment ω) : Environment (State × ω)
  | .driver c, world => answerCall web c world
  | call, (st, w) =>
    let started := rest call w
    { world := (st, started.world)
      interrupts := started.interrupts
      finish := fun (st, w) =>
        let (reply, w) := started.finish w
        (reply, (st, w)) }

end QueryShell.Http
