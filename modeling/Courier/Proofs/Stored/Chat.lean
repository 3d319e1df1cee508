import Courier.Proofs.Stored.Field
import Courier.Stored.Chat

/-!
# Reading chats back

Summaries, permissions, chats and the registry are read back from their text, the chats of the
registry with the stricter reading of values that were set aside.
-/

namespace Courier.Stored

open Toml (Value Table isLeaf_string isLeaf_boolean isLeaf_integer isReadBack_leaves
  isReadBack_of_fields)

/-! ## Summaries -/

theorem isReadBack_summaryTable (summary : Summary) : (summaryTable summary).IsReadBack 1 := by
  have hcount := isLeaf_integer (toNat_le_maxInteger summary.unreadCount)
  refine isReadBack_leaves summaryFields ?_ ?_ (by decide)
  · simp only [summaryTable, List.forall_mem_append]
    refine ⟨⟨⟨⟨⟨?_, ?_⟩, ?_⟩, ?_⟩, ?_⟩, ?_⟩
    · simp [isLeaf_string]
    · exact forall_mem_optional fun kind => isLeaf_string kind.word
    · exact forall_mem_optional isLeaf_string
    · simp [isLeaf_string]
    · exact forall_mem_optional fun t => isLeaf_string (Timestamp.write t)
    · simp [hcount]
  · simp only [summaryTable, Table.keys_append, List.append_assoc]
    exact (List.Sublist.refl _).append ((keys_optional_sublist _ _ _).append
      ((keys_optional_sublist _ _ _).append ((List.Sublist.refl _).append
        ((keys_optional_sublist _ _ _).append (List.Sublist.refl _)))))

theorem summaryOfTable?_eq {summary : Summary} {reading : Reading} {count : Value} {t : Table}
    (htext : t.get? "text" = some (.string summary.text))
    (hkind : t.get? "recent_message_type" =
      summary.recentKind.map (Value.reread ∘ fun kind => .string kind.word))
    (hlatest : t.get? "latest_message_id" = summary.latestMessageId.map (Value.reread ∘ .string))
    (hstatus : t.get? "read_status" = some (.string summary.readStatus.word))
    (htime : t.get? "timestamp" = summary.timestamp.map (Value.reread ∘ ofInstant))
    (hcount : t.get? "unread_count" = some count)
    (hword : word32? count = some summary.unreadCount) :
    summaryOfTable? reading t = some summary := by
  have hkind' : ∀ kind : ContentKind,
      word? reading ContentKind.ofWord? (Value.string kind.word).reread = some kind :=
    ContentKind.ofWord?_word
  have hstatus' : word? reading MessageStatus.ofWord? (Value.string summary.readStatus.word) =
      some summary.readStatus := MessageStatus.ofWord?_word summary.readStatus
  rw [summaryOfTable?, htext, hkind, hlatest, hstatus, htime, hcount, optional_map hkind',
    optional_map text?_reread, optional_map instant?_reread, withDefault, withDefault, withDefault,
    hstatus', hword]
  rfl

theorem summaryOfTable?_reread (summary : Summary) (reading : Reading) :
    summaryOfTable? reading (Toml.rereadEntries (summaryTable summary)) = some summary := by
  refine summaryOfTable?_eq ?_ ?_ ?_ ?_ ?_ ?_ (word32?_reread summary.unreadCount)
  · simp [summaryTable, Value.reread]
  · simp [summaryTable]
  · simp [summaryTable]
  · simp [summaryTable, Value.reread]
  · simp [summaryTable]
  · simp [summaryTable]

/-! ## Permissions -/

theorem isReadBack_permissionsTable (permissions : Permissions) :
    (permissionsTable permissions).IsReadBack 1 :=
  isReadBack_leaves ["notifications", "autodownload", "display_picture"]
    (by simp [permissionsTable, isLeaf_boolean]) (List.Sublist.refl _) (by decide)

theorem permissionsOfTable?_reread (permissions : Permissions) :
    permissionsOfTable? (Toml.rereadEntries (permissionsTable permissions)) = some permissions :=
  rfl

/-! ## Chats -/

/-- The plain entries of a chat. -/
def connectionFields (connection : Connection) : Table :=
  [("chat_id", .string connection.chatId), ("name", .string connection.name),
    ("chat_type", .string connection.kind.word), ("disconnected", .boolean connection.disconnected)]

theorem connectionTable_eq (connection : Connection) :
    connectionTable connection =
      connectionFields connection ++ [("summary", ofTable (summaryTable connection.summary))] :=
  rfl

theorem isLeaf_connectionFields (connection : Connection) :
    ∀ entry ∈ connectionFields connection, entry.2.IsLeaf := by
  simp [connectionFields, isLeaf_string, isLeaf_boolean]

theorem isBranch_summary (summary : Summary) :
    (ofTable (summaryTable summary)).IsBranch (Table.IsReadBack 1) :=
  .table (List.cons_ne_nil _ _) (isReadBack_summaryTable summary)

theorem isReadBack_connectionTable (connection : Connection) :
    (connectionTable connection).IsReadBack 2 :=
  isReadBack_of_fields ["chat_id", "name", "chat_type", "disconnected", "summary"]
    (isLeaf_connectionFields connection)
    (List.forall_mem_singleton.mpr (isBranch_summary connection.summary)) (List.Sublist.refl _)
    (by decide)

/-- A chat is told by its own entries, whatever comes after them. -/
theorem connection?_reread (connection : Connection) (reading : Reading) (more : Table) :
    connection? reading (Toml.rereadEntries (connectionTable connection ++ more)) =
      some connection := by
  have hkind : word? reading ChatKind.ofWord? (Value.string connection.kind.word).reread =
      some connection.kind := ChatKind.ofWord?_word connection.kind
  have hsummary : summary? reading (ofTable (summaryTable connection.summary)).reread =
      some connection.summary := summaryOfTable?_reread connection.summary reading
  have hflag : flag? (Value.boolean connection.disconnected).reread =
      some connection.disconnected := rfl
  simp [connection?, connectionTable, required, withDefault, text?_reread, hkind, hsummary, hflag]

/-! ## The registry -/

theorem isReadBack_registrationTable (entry : Registration) :
    (registrationTable entry).IsReadBack 2 := by
  have hpermissions : (ofTable (permissionsTable entry.permissions)).IsBranch
      (Table.IsReadBack 1) :=
    .table (List.cons_ne_nil _ _) (isReadBack_permissionsTable entry.permissions)
  rw [registrationTable, connectionTable_eq, List.append_assoc]
  refine isReadBack_of_fields
    ["chat_id", "name", "chat_type", "disconnected", "summary", "permissions"]
    (isLeaf_connectionFields entry.connection) ?_ (List.Sublist.refl _) (by decide)
  simp [isBranch_summary, hpermissions]

theorem registration?_reread (entry : Registration) (origin : Toml.Origin) :
    registration? (.table origin (Toml.rereadEntries (registrationTable entry))) = some entry := by
  have hconnection := connection?_reread entry.connection .setAside
    [("permissions", ofTable (permissionsTable entry.permissions))]
  have hpermissions : Table.get? (Toml.rereadEntries (registrationTable entry)) "permissions" =
      some (ofTable (permissionsTable entry.permissions)).reread := by
    simp [registrationTable, connectionTable]
  have hread : permissions? (ofTable (permissionsTable entry.permissions)).reread =
      some entry.permissions := permissionsOfTable?_reread entry.permissions
  rw [registration?, hpermissions, withDefault, hread, registrationTable, hconnection]
  rfl

theorem rereadItems_registrations (registry : Registry) :
    Toml.rereadItems (registry.map fun entry => ofTable (registrationTable entry)) =
      registry.map fun entry => .table .header (Toml.rereadEntries (registrationTable entry)) := by
  induction registry with
  | nil => rfl
  | cons entry registry ih =>
      rw [List.map_cons, List.map_cons, ← ih]
      rfl

theorem mapM_registration?_reread (registry : Registry) :
    (registry.map fun entry =>
      Value.table .header (Toml.rereadEntries (registrationTable entry))).mapM registration? =
        some registry := by
  induction registry with
  | nil => rfl
  | cons entry registry ih =>
      rw [List.map_cons, List.mapM_cons, registration?_reread, ih]
      rfl

theorem isReadBack_registryTable (registry : Registry) : (registryTable registry).IsReadBack 3 := by
  cases registry with
  | nil =>
      have hleaf : Value.IsLeaf (.array true []) := ⟨rfl, .emptyList⟩
      exact isReadBack_leaves ["connection"] (List.forall_mem_singleton.mpr hleaf)
        (List.Sublist.refl _) (by decide)
  | cons entry registry =>
      refine isReadBack_of_fields ["connection"] (List.forall_mem_nil _)
        (List.forall_mem_singleton.mpr (.list (List.cons_ne_nil _ _) ?_)) (List.Sublist.refl _)
        (by decide)
      intro v hv
      obtain ⟨e, -, rfl⟩ := List.mem_map.mp hv
      exact ⟨.header, _, rfl, isReadBack_registrationTable e⟩

theorem registry?_reread (registry : Registry) :
    registry? (Toml.rereadEntries (registryTable registry)) = some registry := by
  cases registry with
  | nil => rfl
  | cons entry registry =>
      have hitems := rereadItems_registrations (entry :: registry)
      have hget : Table.get? (Toml.rereadEntries (registryTable (entry :: registry)))
          "connection" = some (.array true (Toml.rereadItems
            ((entry :: registry).map fun entry => ofTable (registrationTable entry)))) := rfl
      rw [ registry?, hget, hitems]
      exact mapM_registration?_reread (entry :: registry)

end Courier.Stored
