import StoreGate.Cli.Call
import StoreGate.Cli.Report

/-!
# The program at the terminal

* `Stop.printout` — what is printed instead of an answer.
* `Invocation.run` — asks the server at an address and prints its answer.
-/

namespace StoreGate

namespace Cli

/-! ## Without an answer -/

/-- How the program is called. -/
def usage : String := "Usage: ds [--json] <command>

Commands:
  health                          state of the server
  query <sql> [--database <name>]
  search <keywords> --table <name>... --field <name>...
         [--precision] [--page <n>] [--page-size <n>]
  load <database> <table> --file <file> [--format json|csv] [--strip-outer-array]
       [--column-separator <text>] [--label <label>] [--txn-id <id>]
  ingest --file <file>
  txn begin <database> <table> [<label>] [--timeout <seconds>]
  txn commit <database> <id>
  txn abort <database> <id>
  txn list [--open]
  schema <database> <table>
  help [<command>]
"

/-- Help and version are asked for and go to the output; a misuse is a failure of its own. -/
def Stop.printout : Stop → Printout
  | .help => .success usage
  | .version => .success ("ds " ++ StoreGate.version ++ "\n")
  | .misuse => ⟨2, "", usage⟩

/-! ## Answers -/

/-- What an action comes to with the given files, at a server at the given address. -/
def Action.ask (files : Files) (base : String) (a : Action) : Exchange (Except String Json) :=
  match a.call files with
  | .error message => .done (.error message)
  | .ok call => call.send base

/-- What is printed for the outcome of an invocation. -/
def Invocation.report (i : Invocation) : Except String Json → Printout
  | .error message => .failure message
  | .ok data => .ofAnswer i data

/-- Carries out an invocation. -/
def Invocation.run (files : Files) (base : String) (i : Invocation) : Exchange Printout := do
  return i.report (← i.action.ask files base)

end Cli

end StoreGate
