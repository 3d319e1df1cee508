import Courier.Command.Arguments
import Courier.Message.Payload
import Courier.Text.Blank

/-!
# Composing payloads

The payload of a message to be sent, made from the arguments of the command. Files that are shared
are named by the last name of their path and typed by its extension.
-/

namespace Courier

/-- Why there is no payload. -/
inductive ComposeError
  | emptyText
  | noFileName (p : Path)
  | missingDuration
  | noContent
  deriving DecidableEq

/-- The words for a missing payload. -/
def ComposeError.message : ComposeError → String
  | emptyText => "message text is empty"
  | noFileName p => p.text ++ " has no file name"
  | missingDuration => "--voice requires --duration-ms"
  | noContent => "no message content given"

/-- The type of a file by its extension in small letters. -/
def mimeTypeOfExtension : String → String
  | "jpg" | "jpeg" => "image/jpeg"
  | "png" => "image/png"
  | "gif" => "image/gif"
  | "webp" => "image/webp"
  | "mp4" => "video/mp4"
  | "mov" => "video/quicktime"
  | "m4a" => "audio/mp4"
  | "mp3" => "audio/mpeg"
  | "pdf" => "application/pdf"
  | "txt" => "text/plain"
  | _ => "application/octet-stream"

namespace Path

/-- The type of the file at a path. -/
def mimeType (p : Path) : String :=
  mimeTypeOfExtension (String.ofList ((p.extension?.getD "").toList.map Char.toLower))

/-- The address of a path seen from a folder. -/
def uri (p folder : Path) : String :=
  "file://" ++ (folder.join p).text

end Path

/-- A shared file with its caption. -/
def Media.ofPath (folder p : Path) (caption : Option String) : Except ComposeError Media :=
  match p.fileName? with
  | none => .error (.noFileName p)
  | some fileName =>
    .ok { fileName, fileUri := p.uri folder, mimeType := p.mimeType, caption }

/-- The payload that the arguments ask for. `folder` is where relative paths start, and `bundleId`
names a contact that is shared. -/
def SendArguments.payload (arguments : SendArguments) (folder : Path) (bundleId : String) :
    Except ComposeError Payload :=
  match arguments with
  | { text := some text, .. } =>
    if Text.isBlankText text then .error .emptyText else .ok (.text (Text.trim text))
  | { link := some url, .. } => .ok (.link (arguments.caption.getD "") url)
  | { image := some p, .. } => (Media.ofPath folder p arguments.caption).map .image
  | { video := some p, .. } => (Media.ofPath folder p arguments.caption).map .video
  | { file := some p, .. } => (Media.ofPath folder p arguments.caption).map .file
  | { voice := some p, .. } =>
    match arguments.durationMs with
    | some durationMs => .ok (.audioRecording { fileUri := p.uri folder, durationMs })
    | none => .error .missingDuration
  | { contact := some name, .. } => .ok (.contactBundle { name, bundleId })
  | _ => .error .noContent

end Courier
