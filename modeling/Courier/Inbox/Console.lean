import Courier.Inbox.Receive

/-!
# Notifications on the console

A notification is written as its title in brackets and its text, on a line. Notifications can be
turned off as a whole; then nothing is written.
-/

namespace Courier.Inbox.Console

open Log (Event)

/-- An event about a notification. -/
def event (level : Log.Level) (text chatId : String) (details : List (String × Log.Detail)) :
    Event where
  level
  origin := "portmsg::infra::notifier"
  message := text
  details := ("chat_id", .text chatId) :: details

/-- The line of a notification. -/
def line (notice : Notice) : String :=
  "[" ++ notice.title ++ "] " ++ notice.body ++ "\n"

/-- Shows a notification with `write`, which tells what went wrong if it fails. -/
def display {σ : Type} (enabled : Bool) (write : String → StateM σ (Option String))
    (record : Event → StateM σ Unit) (notice : Notice) : StateM σ Unit := do
  if enabled then
    record (event .info "displaying notification" notice.chatId
      [("code", .text "NOTIFICATION_DISPLAYED"), ("should_alert", .flag notice.alert)])
    match ← write (line notice) with
    | none => pure ()
    | some failure =>
      record (event .warn "failed to write notification" notice.chatId [("error", .text failure)])
  else
    record (event .debug "notifications disabled in config" notice.chatId
      [("code", .text "NOTIFICATION_SUPPRESSED")])

end Courier.Inbox.Console
