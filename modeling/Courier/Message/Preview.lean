import Courier.Message.Payload
import Courier.Text.Blank
import Courier.Text.Numeral

/-!
# Previews

The short text that stands for a message in the chat list and in a notification.
-/

namespace Courier

open Text

/-- A caption without the white space around it, if anything is left. -/
def Media.shownCaption (media : Media) : Option String :=
  media.caption.bind fun caption =>
    if isBlankText caption then none else some (trim caption)

/-- An icon followed by the caption, or by a replacement where there is none to show. -/
def Media.preview (icon : String) (replacement : String) (media : Media) : String :=
  icon ++ " " ++ media.shownCaption.getD replacement

/-- Minutes and seconds of a recording. The seconds have two digits and a part of a second does not
count. -/
def Recording.length (recording : Recording) : String :=
  let seconds := recording.durationMs.toNat / 1000
  String.ofList (digits (seconds / 60) ++ ':' :: paddedDigits 2 (seconds % 60))

namespace Payload

/-- The text of a payload in the chat list. -/
def preview : Payload → String
  | .text body => body
  | .link body url => if isBlankText body then url else body
  | image media => media.preview "📷" "image"
  | video media => media.preview "🎥" "video"
  | file media => media.preview "📎" media.fileName
  | audioRecording recording => "🔊 audio (" ++ recording.length ++ ")"
  | contactBundle contact => "👤 shared contact of " ++ contact.name

/-- The text of a payload in a notification. Only contacts differ from the chat list. -/
def notice : Payload → String
  | contactBundle contact => "contact of " ++ contact.name ++ " has been shared with you"
  | payload => payload.preview

end Payload

end Courier
