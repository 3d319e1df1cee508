/-!
# Payloads

What a message carries. The constructor fixes the kind of content, so a payload never disagrees with
the kind it is sent under.
-/

namespace Courier

/-- The kinds of content a message can have. -/
inductive ContentKind
  | text
  | link
  | image
  | video
  | file
  | audioRecording
  | contactBundle
  deriving DecidableEq

namespace ContentKind

/-- The word for a kind in stored data and in events. -/
def word : ContentKind → String
  | text => "text"
  | link => "link"
  | image => "image"
  | video => "video"
  | file => "file"
  | audioRecording => "audio_recording"
  | contactBundle => "contact_bundle"

/-- The kind a word stands for. -/
def ofWord? : String → Option ContentKind
  | "text" => some text
  | "link" => some link
  | "image" => some image
  | "video" => some video
  | "file" => some file
  | "audio_recording" => some audioRecording
  | "contact_bundle" => some contactBundle
  | _ => none

theorem ofWord?_word (kind : ContentKind) : ofWord? kind.word = some kind := by
  cases kind <;> rfl

end ContentKind

/-- A file that is shared: its name, where it lies, its type and a caption. -/
structure Media where
  fileName : String
  fileUri : String
  mimeType : String
  caption : Option String := none
  deriving DecidableEq

/-- A recording: where it lies and how long it is, in milliseconds. -/
structure Recording where
  fileUri : String
  durationMs : UInt64
  deriving DecidableEq

/-- A contact that is shared: its name and the identifier of its keys. -/
structure Contact where
  name : String
  bundleId : String
  deriving DecidableEq

/-- The content of a message. -/
inductive Payload
  | text (text : String)
  | link (text url : String)
  | image (media : Media)
  | video (media : Media)
  | file (media : Media)
  | audioRecording (recording : Recording)
  | contactBundle (contact : Contact)
  deriving DecidableEq

/-- The kind of content a payload holds. -/
def Payload.kind : Payload → ContentKind
  | text _ => .text
  | link _ _ => .link
  | image _ => .image
  | video _ => .video
  | file _ => .file
  | audioRecording _ => .audioRecording
  | contactBundle _ => .contactBundle

end Courier
