import RealmDesk.Answer.Error

/-!
# Logging out

A logout deletes the session and then leaves the desk. Clicks while one is running are ignored, and
a failure is shown until the next attempt.
-/

namespace RealmDesk

/-- The state of the logout control. -/
inductive Logout where
  /-- Nothing was tried, or the last attempt succeeded. -/
  | idle
  /-- An attempt is running. -/
  | pending
  /-- The last attempt failed. -/
  | failed
deriving DecidableEq, Inhabited

/-- What an attempt comes to. -/
inductive Logout.Outcome where
  /-- The browser goes elsewhere. -/
  | redirect (target : String)
  /-- The session could not be deleted. -/
  | failed (error : ApiError)
deriving DecidableEq, Inhabited

namespace Logout

/-- Where the browser goes once the session is gone. -/
def afterwards : String := "/"

/-- Starts an attempt; tells whether it did, which it does not while one is running. -/
def start : Logout → Bool × Logout
  | .pending => (false, .pending)
  | _ => (true, .pending)

/-- Ends an attempt. -/
def finish : ApiResult Unit → Outcome × Logout
  | .ok () => (.redirect afterwards, .idle)
  | .error error => (.failed error, .failed)

/-- The session is gone, but the browser would not leave the page. -/
def redirectFailed : Logout := .failed

end Logout

end RealmDesk
