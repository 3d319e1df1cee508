import Courier.Config.Basic
import Courier.Proofs.Stored.Message
import Courier.Proofs.Stored.Shape
import Courier.Stored.Chat
import Mathlib.Logic.Relation

/-!
# The order of keys and unknown keys

Whatever is stored or configured is read alike in whatever order the keys of its tables come, and
whatever keys its records have that are not known.
-/

namespace Courier.Stored

open Toml (Value Table)
open Shape (Changes FieldChange KeepsFields NoListForRecord)

variable {α : Type} {t u : Table} {reading : Reading} {kind : ContentKind}

/-! ## Documents -/

/-- Whether a document is read alike after changes that are not seen, if no list stands in the place
of a record. -/
def IsReadAlike (fieldsOf : Table → List (String × Shape)) (read? : Table → Option α) : Prop :=
  ∀ {t u}, t.IsProper → NoListForRecord (.record (fieldsOf t)) (.table .header t) →
    Relation.ReflTransGen (Changes (.record (fieldsOf t))) (.table .header t) (.table .header u) →
      read? u = read? t

theorem isReadAlike_of_keepsFields {fieldsOf : Table → List (String × Shape)}
    {read? : Table → Option α}
    (hkeeps : ∀ {t u}, KeepsFields (fieldsOf t) t u →
      NoListForRecord (.record (fieldsOf t)) (.table .header t) →
      NoListForRecord (.record (fieldsOf t)) (.table .header u) →
        fieldsOf u = fieldsOf t ∧ read? u = read? t) :
    IsReadAlike fieldsOf read? := by
  intro t u ht hlist hchanges
  -- What is read is the same after each change, and so is what the fields are.
  have hreached : ∀ w, Relation.ReflTransGen (Changes (.record (fieldsOf t))) (.table .header t) w →
      w.IsProper ∧ NoListForRecord (.record (fieldsOf t)) w ∧
        ∃ u, w = .table .header u ∧ fieldsOf u = fieldsOf t ∧ read? u = read? t := by
    intro w hw
    induction hw with
    | refl => exact ⟨Value.isProper_table_iff.mpr ht, hlist, t, rfl, rfl, rfl⟩
    | tail _ hchange ih =>
        obtain ⟨hproper, hlist, u, rfl, hfieldsOf, hread⟩ := ih
        have hproper' := hchange.isProper hproper
        have hlist' := hchange.noListForRecord hproper hlist
        obtain ⟨u', rfl, hfields⟩ :=
          hchange.keepsFields (Value.isProper_table_iff.mp hproper) hlist
        obtain ⟨hsame, hread'⟩ := hkeeps (hfieldsOf ▸ hfields) (hfieldsOf ▸ hlist)
          (hfieldsOf ▸ hlist')
        exact ⟨hproper', hlist', u', rfl, hsame.trans hfieldsOf, hread'.trans hread⟩
  obtain ⟨-, -, u', heq, -, hread⟩ := hreached _ hchanges
  cases heq
  exact hread

/-! ## Chats -/

/-- Fields whose values hold no records. -/
def plainFields (names : List String) : List (String × Shape) :=
  names.map fun name => (name, .plain)

/-- The fields of permissions. -/
def permissionsShapes : List (String × Shape) :=
  plainFields ["notifications", "autodownload", "display_picture"]

theorem permissionsOfTable?_of_keepsFields (h : KeepsFields permissionsShapes t u) :
    permissionsOfTable? u = permissionsOfTable? t := by
  rw [permissionsOfTable?, permissionsOfTable?,
    required_eq (h "notifications" .plain rfl) (flag?_overlooks _),
    withDefault_eq _ (h "autodownload" .plain rfl) (flag?_overlooks _),
    withDefault_eq _ (h "display_picture" .plain rfl) (flag?_overlooks _)]

theorem permissions?_overlooks : Overlooks (.record permissionsShapes) permissions? := by
  intro v w hv hlist h
  obtain ⟨t, u, ht, hu, hfields⟩ := recordTable?_of_changes .direct
    ["notifications", "autodownload", "display_picture"] hv hlist h
  rw [permissions?, permissions?, ht, hu]
  exact permissionsOfTable?_of_keepsFields hfields

/-- The fields of a summary. -/
def summaryShapes : List (String × Shape) :=
  plainFields summaryFields

theorem summaryOfTable?_of_keepsFields (h : KeepsFields summaryShapes t u) :
    summaryOfTable? reading u = summaryOfTable? reading t := by
  rw [summaryOfTable?, summaryOfTable?,
    withDefault_eq _ (h "text" .plain rfl) (text?_overlooks _),
    optional_eq (h "recent_message_type" _ rfl) (word?_overlooks _ _),
    optional_eq (h "latest_message_id" _ rfl) (text?_overlooks _),
    withDefault_eq _ (h "read_status" _ rfl) (word?_overlooks _ _),
    optional_eq (h "timestamp" _ rfl) (instant?_overlooks _),
    withDefault_eq _ (h "unread_count" _ rfl) (word32?_overlooks _)]

theorem summary?_overlooks (reading : Reading) :
    Overlooks (.record summaryShapes) (summary? reading) := by
  intro v w hv hlist h
  obtain ⟨t, u, ht, hu, hfields⟩ := recordTable?_of_changes reading summaryFields hv hlist h
  rw [summary?, summary?, ht, hu]
  exact summaryOfTable?_of_keepsFields hfields

/-- The fields of a chat. -/
def connectionShapes : List (String × Shape) :=
  plainFields ["chat_id", "name", "chat_type", "disconnected"] ++
    [("summary", .record summaryShapes)]

theorem connection?_of_keepsFields (h : KeepsFields connectionShapes t u) :
    connection? reading u = connection? reading t := by
  rw [connection?, connection?,
    required_eq (h "chat_id" _ rfl) (text?_overlooks _),
    required_eq (h "name" _ rfl) (text?_overlooks _),
    withDefault_eq _ (h "chat_type" _ rfl) (word?_overlooks _ _),
    withDefault_eq _ (h "disconnected" _ rfl) (flag?_overlooks _),
    withDefault_eq _ (h "summary" _ rfl) (summary?_overlooks _)]

/-- The fields of an entry of the registry. -/
def registrationShapes : List (String × Shape) :=
  connectionShapes ++ [("permissions", .record permissionsShapes)]

theorem keepsFields_left {fields more : List (String × Shape)}
    (h : KeepsFields (fields ++ more) t u) : KeepsFields fields t u := by
  intro key shape hfield
  apply h key shape
  rw [List.lookup_append, hfield, Option.some_or]

theorem registration?_overlooks : Overlooks (.record registrationShapes) registration? := by
  intro v w hv hlist h
  cases v with
  | table origin t =>
      obtain ⟨u, rfl, hfields⟩ := h.keepsFields (Value.isProper_table_iff.mp hv) hlist
      rw [registration?, registration?, connection?_of_keepsFields (keepsFields_left hfields),
        withDefault_eq _ (hfields "permissions" _ rfl) permissions?_overlooks]
  | array ofHeaders items =>
      cases hlist with
      | record hlist => exact absurd rfl (hlist _ _)
  | _ => cases h

/-- The fields of the registry. -/
def registryShapes : List (String × Shape) :=
  [("connection", .list (.record registrationShapes))]

theorem mapM_middle {β : Type} {read? : β → Option α} {v w : β} (h : read? w = read? v)
    (front back : List β) :
    (front ++ w :: back).mapM read? = (front ++ v :: back).mapM read? := by
  rw [List.mapM_append, List.mapM_append, List.mapM_cons, List.mapM_cons, h]

theorem registry?_of_keepsFields (h : KeepsFields registryShapes t u) :
    registry? u = registry? t := by
  have hfield := h "connection" _ rfl
  unfold registry?
  revert hfield
  generalize t.get? "connection" = found
  generalize u.get? "connection" = changed
  intro hfield
  cases hfield with
  | same => rfl
  | changed hv hlist h =>
      cases h with
      | permute hperm => rfl
      | entry hunder => rfl
      | @item _ _ front back v w hitem =>
          cases hlist with
          | list hitems =>
              have hmem : v ∈ front ++ v :: back := List.mem_append_right _ List.mem_cons_self
              exact mapM_middle (registration?_overlooks (Value.isProper_array_iff.mp hv _ hmem)
                (hitems _ _ rfl _ hmem) hitem) _ _

/-! ## Payloads -/

/-- The fields of a shared file. -/
def mediaShapes : List (String × Shape) :=
  plainFields ["file_name", "file_uri", "mime_type", "caption"]

/-- The shape of the content of a payload. If the kind is not known it is not read. -/
def dataShape : Option ContentKind → Shape
  | none => .plain
  | some .text => .record (plainFields ["text"])
  | some .link => .record (plainFields ["text", "url"])
  | some .image | some .video | some .file => .record mediaShapes
  | some .audioRecording => .record (plainFields ["file_uri", "duration_ms"])
  | some .contactBundle => .record [("bundle", .record (plainFields ["name", "bundle_id"]))]

theorem media?_overlooks (reading : Reading) :
    Overlooks (.record mediaShapes) (media? reading) := by
  intro v w hv hlist h
  obtain ⟨t, u, ht, hu, hfields⟩ := recordTable?_of_changes reading
    ["file_name", "file_uri", "mime_type", "caption"] hv hlist h
  simp only [media?, ht, hu, Option.bind_eq_bind, Option.bind_some,
    required_eq (hfields "file_name" _ rfl) (text?_overlooks _),
    required_eq (hfields "file_uri" _ rfl) (text?_overlooks _),
    required_eq (hfields "mime_type" _ rfl) (text?_overlooks _),
    optional_eq (hfields "caption" _ rfl) (text?_overlooks _)]

theorem recording?_overlooks (reading : Reading) :
    Overlooks (.record (plainFields ["file_uri", "duration_ms"])) (recording? reading) := by
  intro v w hv hlist h
  obtain ⟨t, u, ht, hu, hfields⟩ := recordTable?_of_changes reading
    ["file_uri", "duration_ms"] hv hlist h
  simp only [recording?, ht, hu, Option.bind_eq_bind, Option.bind_some,
    required_eq (hfields "file_uri" _ rfl) (text?_overlooks _),
    required_eq (hfields "duration_ms" _ rfl) (word64?_overlooks _)]

theorem contact?_overlooks (reading : Reading) :
    Overlooks (.record (plainFields ["name", "bundle_id"])) (contact? reading) := by
  intro v w hv hlist h
  obtain ⟨t, u, ht, hu, hfields⟩ := recordTable?_of_changes reading ["name", "bundle_id"] hv hlist h
  simp only [contact?, ht, hu, Option.bind_eq_bind, Option.bind_some,
    required_eq (hfields "name" _ rfl) (text?_overlooks _),
    required_eq (hfields "bundle_id" _ rfl) (text?_overlooks _)]

theorem payloadOfKind?_overlooks (reading : Reading) (kind : ContentKind) :
    Overlooks (dataShape (some kind)) (payloadOfKind? reading · kind) := by
  intro v w hv hlist h
  cases kind with
  | text =>
      obtain ⟨t, u, ht, hu, hfields⟩ := recordTable?_of_changes reading ["text"] hv hlist h
      simp only [payloadOfKind?, ht, hu, Option.bind_eq_bind, Option.bind_some,
        required_eq (hfields "text" _ rfl) (text?_overlooks _)]
  | link =>
      obtain ⟨t, u, ht, hu, hfields⟩ := recordTable?_of_changes reading ["text", "url"] hv hlist h
      simp only [payloadOfKind?, ht, hu, Option.bind_eq_bind, Option.bind_some,
        withDefault_eq _ (hfields "text" _ rfl) (text?_overlooks _),
        required_eq (hfields "url" _ rfl) (text?_overlooks _)]
  | image => exact congrArg (Option.map Payload.image) (media?_overlooks reading hv hlist h)
  | video => exact congrArg (Option.map Payload.video) (media?_overlooks reading hv hlist h)
  | file => exact congrArg (Option.map Payload.file) (media?_overlooks reading hv hlist h)
  | audioRecording =>
      exact congrArg (Option.map Payload.audioRecording) (recording?_overlooks reading hv hlist h)
  | contactBundle =>
      obtain ⟨t, u, ht, hu, hfields⟩ := recordTable?_of_changes reading ["bundle"] hv hlist h
      simp only [payloadOfKind?, ht, hu, Option.bind_eq_bind, Option.bind_some,
        required_eq (hfields "bundle" _ rfl) (contact?_overlooks reading)]

theorem recordTable?_reading (reading : Reading) (names : List String)
    {fields : List (String × Shape)} {v : Value} (hlist : NoListForRecord (.record fields) v) :
    recordTable? reading names v = recordTable? .direct names v := by
  cases v with
  | array ofHeaders items =>
      cases hlist with
      | record hlist => exact absurd rfl (hlist _ _)
  | _ => rfl

theorem contact?_reading (reading : Reading) {fields : List (String × Shape)} {v : Value}
    (hlist : NoListForRecord (.record fields) v) : contact? reading v = contact? .direct v := by
  rw [contact?, contact?, recordTable?_reading reading _ hlist]

/-- Where no list stands in the place of a record, it does not matter whether the content was set
aside. -/
theorem payloadOfKind?_reading (reading : Reading) {v : Value}
    (hlist : NoListForRecord (dataShape (some kind)) v) :
    payloadOfKind? reading v kind = payloadOfKind? .direct v kind := by
  cases kind with
  | text | link =>
      rw [payloadOfKind?, payloadOfKind?, recordTable?_reading reading _ hlist]
  | image | video | file =>
      rw [payloadOfKind?, payloadOfKind?, media?, media?, recordTable?_reading reading _ hlist]
  | audioRecording =>
      rw [payloadOfKind?, payloadOfKind?, recording?, recording?,
        recordTable?_reading reading _ hlist]
  | contactBundle =>
      rw [payloadOfKind?, payloadOfKind?, recordTable?_reading reading _ hlist]
      cases v with
      | table origin t =>
          simp only [recordTable?, Option.bind_eq_bind, Option.bind_some]
          cases hget : Table.get? t "bundle" with
          | none => rfl
          | some w =>
              have hbundle := contact?_reading reading (hlist.of_field rfl hget)
              simp only [required, Option.bind_some, hbundle]
      | array ofHeaders items =>
          cases hlist with
          | record hlist => exact absurd rfl (hlist _ _)
      | _ => rfl

/-- The kind of a payload. -/
def kindOf? (reading : Reading) (t : Table) : Option ContentKind :=
  required (word? reading ContentKind.ofWord?) (t.get? "content_type")

/-- The fields of a payload of this kind. -/
def payloadShapes (kind : Option ContentKind) : List (String × Shape) :=
  [("content_type", .plain), ("data", dataShape kind)]

/-- A payload from its two entries. -/
def payloadOf? (reading : Reading) (t : Table) : Option Payload :=
  (kindOf? reading t).bind fun kind => required (payloadOfKind? .direct · kind) (t.get? "data")

theorem payloadOf?_eq (reading : Reading)
    (hkind : FieldChange .plain (t.get? "content_type") (u.get? "content_type"))
    (hdata : FieldChange (dataShape (kindOf? reading t)) (t.get? "data") (u.get? "data")) :
    kindOf? reading u = kindOf? reading t ∧ payloadOf? reading u = payloadOf? reading t := by
  have hsame : kindOf? reading u = kindOf? reading t := required_eq hkind (word?_overlooks _ _)
  refine ⟨hsame, ?_⟩
  rw [payloadOf?, payloadOf?, hsame]
  cases hkindOf : kindOf? reading t with
  | none => rfl
  | some kind =>
      rw [hkindOf] at hdata
      exact required_eq hdata (payloadOfKind?_overlooks .direct kind)

/-- Whether no list stands in the place of the content of a payload, or within it. -/
def NoListForData (reading : Reading) (t : Table) : Prop :=
  ∀ v, t.get? "data" = some v → NoListForRecord (dataShape (kindOf? reading t)) v

/-- How the content is read does not matter, so a payload is read from its two entries. -/
theorem payloadOf?_reading (h : NoListForData reading t) (other : Reading) :
    ((kindOf? reading t).bind fun kind => (t.get? "data").bind (payloadOfKind? other · kind)) =
      payloadOf? reading t := by
  rw [payloadOf?]
  cases hkind : kindOf? reading t with
  | none => rfl
  | some kind =>
      cases hdata : t.get? "data" with
      | none => rfl
      | some v =>
          have hlist := h v hdata
          rw [hkind] at hlist
          exact payloadOfKind?_reading other hlist

theorem payload?_eq_payloadOf? (h : NoListForData .direct t) :
    payload? t = payloadOf? .direct t :=
  payloadOf?_reading h (if dataComesFirst t then .setAside else .direct)

theorem enclosedPayload?_eq_payloadOf? (h : NoListForData .setAside t) :
    enclosedPayload? t = payloadOf? .setAside t :=
  payloadOf?_reading h .setAside

/-- A payload that is a document of its own. -/
theorem payload?_isReadAlike :
    IsReadAlike (fun t => payloadShapes (kindOf? .direct t)) payload? := by
  apply isReadAlike_of_keepsFields
  intro t u h hlist hlist'
  obtain ⟨hkind, hpayload⟩ := payloadOf?_eq .direct (h "content_type" _ rfl) (h "data" _ rfl)
  refine ⟨congrArg payloadShapes hkind, ?_⟩
  rw [payload?_eq_payloadOf? fun v hget => hlist.of_field rfl hget,
    payload?_eq_payloadOf? fun v hget => hkind ▸ hlist'.of_field rfl hget, hpayload]

/-! ## Envelopes -/

/-- The fields of a message to be sent, with a payload of this kind. -/
def outgoingShapes (kind : Option ContentKind) : List (String × Shape) :=
  plainFields ["chat_id", "message_id", "reply_id", "single_recipient"] ++
    payloadShapes kind

/-- The fields of a received message, with a payload of this kind. -/
def inboundShapes (kind : Option ContentKind) : List (String × Shape) :=
  plainFields ["chat_id", "message_id", "reply_id", "received_at"] ++ payloadShapes kind

theorem outgoing?_of_keepsFields (h : KeepsFields (outgoingShapes (kindOf? .setAside t)) t u)
    (hlist : NoListForData .setAside t) (hlist' : NoListForData .setAside u) :
    outgoing? u = outgoing? t := by
  obtain ⟨-, hpayload⟩ := payloadOf?_eq .setAside (h "content_type" _ rfl) (h "data" _ rfl)
  rw [outgoing?, outgoing?, enclosedPayload?_eq_payloadOf? hlist,
    enclosedPayload?_eq_payloadOf? hlist', hpayload,
    required_eq (h "chat_id" _ rfl) (text?_overlooks _),
    required_eq (h "message_id" _ rfl) (text?_overlooks _),
    optional_eq (h "reply_id" _ rfl) (text?_overlooks _),
    optional_eq (h "single_recipient" _ rfl) (text?_overlooks _)]

theorem outgoing?_isReadAlike :
    IsReadAlike (fun t => outgoingShapes (kindOf? .setAside t)) outgoing? := by
  apply isReadAlike_of_keepsFields
  intro t u h hlist hlist'
  have hkind : kindOf? .setAside u = kindOf? .setAside t :=
    required_eq (h "content_type" _ rfl) (word?_overlooks _ _)
  exact ⟨congrArg outgoingShapes hkind,
    outgoing?_of_keepsFields h (fun v hget => hlist.of_field rfl hget)
      fun v hget => hkind ▸ hlist'.of_field rfl hget⟩

theorem inbound?_isReadAlike (now : Instant) :
    IsReadAlike (fun t => inboundShapes (kindOf? .setAside t)) (inbound? now) := by
  apply isReadAlike_of_keepsFields
  intro t u h hlist hlist'
  obtain ⟨hkind, hpayload⟩ := payloadOf?_eq .setAside (h "content_type" _ rfl) (h "data" _ rfl)
  refine ⟨congrArg inboundShapes hkind, ?_⟩
  rw [inbound?, inbound?,
    enclosedPayload?_eq_payloadOf? fun v hget => hlist.of_field rfl hget,
    enclosedPayload?_eq_payloadOf? fun v hget => hkind ▸ hlist'.of_field rfl hget, hpayload,
    required_eq (h "chat_id" _ rfl) (text?_overlooks _),
    required_eq (h "message_id" _ rfl) (text?_overlooks _),
    optional_eq (h "reply_id" _ rfl) (text?_overlooks _),
    withDefault_eq _ (h "received_at" _ rfl) (instant?_overlooks _)]

/-- The kind of the payload of a message within a record. -/
def messageKind? (v : Value) : Option ContentKind :=
  (recordTable? .direct [] v).bind (kindOf? .setAside)

/-- The fields of a message in an outbox, with a payload of this kind. -/
def spooledShapes (kind : Option ContentKind) : List (String × Shape) :=
  plainFields ["attempts", "spooled_at"] ++ [("message", .record (outgoingShapes kind))]

theorem noListForData_of_outgoing {kind : Option ContentKind} {origin : Toml.Origin}
    (h : NoListForRecord (.record (outgoingShapes kind)) (.table origin t))
    (hkind : kindOf? .setAside t = kind) : NoListForData .setAside t := by
  intro v hget
  rw [hkind]
  exact h.of_field rfl hget

/-- A message within a record is read alike, too. -/
theorem outgoing?_of_changes {v w : Value} (hv : v.IsProper)
    (hlist : NoListForRecord (.record (outgoingShapes (messageKind? v))) v)
    (h : Changes (.record (outgoingShapes (messageKind? v))) v w) :
    ∃ origin t u, v = .table origin t ∧ w = .table origin u ∧
      kindOf? .setAside u = kindOf? .setAside t ∧ outgoing? u = outgoing? t := by
  cases v with
  | table origin t =>
      have hlist' := h.noListForRecord hv hlist
      obtain ⟨u, rfl, hfields⟩ := h.keepsFields (Value.isProper_table_iff.mp hv) hlist
      have hkind : kindOf? .setAside u = kindOf? .setAside t :=
        required_eq (hfields "content_type" _ rfl) (word?_overlooks _ _)
      exact ⟨origin, t, u, rfl, rfl, hkind, outgoing?_of_keepsFields hfields
        (noListForData_of_outgoing hlist rfl) (noListForData_of_outgoing hlist' hkind)⟩
  | array ofHeaders items =>
      cases hlist with
      | record hlist => exact absurd rfl (hlist _ _)
  | _ => cases h

theorem spooled?_isReadAlike :
    IsReadAlike (fun t => spooledShapes (required messageKind? (t.get? "message"))) spooled? := by
  apply isReadAlike_of_keepsFields
  intro t u h hlist hlist'
  have hmessage := h "message" _ rfl
  rw [spooled?, spooled?, required_eq (h "attempts" _ rfl) (word32?_overlooks _),
    required_eq (h "spooled_at" _ rfl) (instant?_overlooks _)]
  generalize t.get? "message" = found at hmessage
  generalize u.get? "message" = changed at hmessage
  cases hmessage with
  | same => exact ⟨rfl, rfl⟩
  | changed hv hlist hchange =>
      obtain ⟨origin, m, m', rfl, rfl, hkind, hread⟩ := outgoing?_of_changes hv hlist hchange
      refine ⟨congrArg spooledShapes hkind, ?_⟩
      simp only [Option.bind_eq_bind, Option.bind_some, hread]

/-! ## Configuration -/

/-- The fields of the configuration. -/
def configShapes : List (String × Shape) :=
  [("logging", .record (plainFields ["level", "file"])),
    ("storage", .record (plainFields ["data_dir"])),
    ("notifications", .record (plainFields ["enabled"]))]

theorem settings?_cases {fields : List (String × Shape)} {found changed : Option Value}
    (h : FieldChange (.record fields) found changed) (names : List String) :
    Config.settings? names found = none ∧ Config.settings? names changed = none ∨
      ∃ t u, Config.settings? names found = some t ∧ Config.settings? names changed = some u ∧
        KeepsFields fields t u := by
  cases h with
  | same =>
      cases hsettings : Config.settings? names found with
      | none => exact .inl ⟨rfl, rfl⟩
      | some t => exact .inr ⟨t, t, rfl, rfl, fun key shape _ => .same _⟩
  | @changed v w hv hlist h =>
      right
      cases v with
      | table origin t =>
          obtain ⟨u, rfl, hfields⟩ := h.keepsFields (Value.isProper_table_iff.mp hv) hlist
          exact ⟨t, u, rfl, rfl, hfields⟩
      | array ofHeaders items =>
          cases hlist with
          | record hlist => exact absurd rfl (hlist _ _)
      | _ => cases h

theorem config_of_keepsFields (h : KeepsFields configShapes t u) :
    Config.ofTable? u = Config.ofTable? t := by
  rw [Config.ofTable?, Config.ofTable?]
  rcases settings?_cases (h "logging" _ rfl) ["level", "file"] with
    ⟨hl, hl'⟩ | ⟨logging, logging', hl, hl', hlogging⟩
  · rw [hl, hl']
    rfl
  rcases settings?_cases (h "storage" _ rfl) ["data_dir"] with
    ⟨hs, hs'⟩ | ⟨storage, storage', hs, hs', hstorage⟩
  · rw [hl, hl', hs, hs']
    rfl
  rcases settings?_cases (h "notifications" _ rfl) ["enabled"] with
    ⟨hn, hn'⟩ | ⟨notifications, notifications', hn, hn', hnotifications⟩
  · rw [hl, hl', hs, hs', hn, hn']
    rfl
  rw [hl, hl', hs, hs', hn, hn']
  simp only [Option.bind_eq_bind, Option.bind_some,
    optional_eq (hlogging "level" _ rfl) (text?_overlooks _),
    optional_eq (hlogging "file" _ rfl) (text?_overlooks _),
    optional_eq (hstorage "data_dir" _ rfl) (text?_overlooks _),
    optional_eq (hnotifications "enabled" _ rfl) (flag?_overlooks _)]

/-! ## All of them -/

theorem isReadAlike_of_fields {fields : List (String × Shape)} {read? : Table → Option α}
    (hread : ∀ {t u}, KeepsFields fields t u → read? u = read? t) :
    IsReadAlike (fun _ => fields) read? :=
  isReadAlike_of_keepsFields fun h _ _ => ⟨rfl, hread h⟩

/-- Everything that is stored or configured is read alike in any order of keys, and with any keys
that are not known. A received message whose time is given is read alike at any time. -/
theorem stored_isReadAlike :
    ((∀ now, IsReadAlike (fun t => inboundShapes (kindOf? .setAside t)) (inbound? now)) ∧
      ∀ t, Table.get? t "received_at" ≠ none → ∀ now later, inbound? later t = inbound? now t) ∧
    IsReadAlike (fun t => outgoingShapes (kindOf? .setAside t)) outgoing? ∧
    IsReadAlike (fun t => payloadShapes (kindOf? .direct t)) payload? ∧
    IsReadAlike (fun t => spooledShapes (required messageKind? (t.get? "message"))) spooled? ∧
    IsReadAlike (fun _ => connectionShapes) (connection? .direct) ∧
    IsReadAlike (fun _ => summaryShapes) (summaryOfTable? .direct) ∧
    IsReadAlike (fun _ => permissionsShapes) permissionsOfTable? ∧
    IsReadAlike (fun _ => registryShapes) registry? ∧
    IsReadAlike (fun _ => configShapes) Config.ofTable? := by
  exact ⟨⟨inbound?_isReadAlike, fun _ => inbound?_of_receivedAt⟩, outgoing?_isReadAlike,
    payload?_isReadAlike, spooled?_isReadAlike, isReadAlike_of_fields connection?_of_keepsFields,
    isReadAlike_of_fields summaryOfTable?_of_keepsFields,
    isReadAlike_of_fields permissionsOfTable?_of_keepsFields,
    isReadAlike_of_fields registry?_of_keepsFields, isReadAlike_of_fields config_of_keepsFields⟩

/-- A payload whose content comes before its kind. -/
def contentFirst : Table :=
  [("data", .table .header [("text", .string "hi")]), ("content_type", .string "text")]

/-- The same payload with its kind first, and a key in its content that is not known. -/
def kindFirst : Table :=
  [("content_type", .string "text"),
    ("data", .table .header [("text", .string "hi"), ("lang", .string "en")])]

theorem changes_contentFirst : Relation.ReflTransGen
    (Changes (.record (payloadShapes (kindOf? .direct contentFirst))))
    (.table .header contentFirst) (.table .header kindFirst) := by
  have hperm : contentFirst.Perm
      [("content_type", .string "text"), ("data", .table .header [("text", .string "hi")])] :=
    .swap _ _ _
  have hinsert : Changes (.record (plainFields ["text"])) (.table .header [("text", .string "hi")])
      (.table .header [("text", .string "hi"), ("lang", .string "en")]) :=
    @Changes.insert _ _ [("text", .string "hi")] [] "lang" _ (.string "en") (by decide) rfl
  refine .tail (.single (.permute hperm)) ?_
  exact @Changes.entry _ _ [("content_type", .string "text")] [] "data" _ _ hinsert

theorem stored_isReadAlike_contentFirst :
    payload? kindFirst = payload? contentFirst ∧ payload? contentFirst = some (.text "hi") := by
  have hproper : contentFirst.IsProper := by
    refine ⟨by decide, ?_⟩
    rintro entry (_ | ⟨_, _ | ⟨_, ⟨⟩⟩⟩)
    · refine .table (by decide) ?_
      rintro entry (_ | ⟨_, ⟨⟩⟩)
      exact .string "hi"
    · exact .string "text"
  have hlist : NoListForRecord (.record (payloadShapes (kindOf? .direct contentFirst)))
      (.table .header contentFirst) := by
    apply Shape.noListForRecord_table
    intro key shape w hfield hget
    rcases Table.mem_of_get? hget with _ | ⟨_, _ | ⟨_, ⟨⟩⟩⟩
    · obtain rfl : dataShape (some .text) = shape := Option.some.inj hfield
      apply Shape.noListForRecord_table
      intro key shape w hfield hget
      rcases Table.mem_of_get? hget with _ | ⟨_, ⟨⟩⟩
      obtain rfl : Shape.plain = shape := Option.some.inj hfield
      exact .plain _
    · obtain rfl : Shape.plain = shape := Option.some.inj hfield
      exact .plain _
  exact ⟨stored_isReadAlike.2.2.1 hproper hlist changes_contentFirst, by decide⟩

end Courier.Stored
