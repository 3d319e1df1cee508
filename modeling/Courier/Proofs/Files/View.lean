import Courier.Files.Tree

/-!
# What stands where

A tree seen place by place: at each place stands nothing, a file with its bytes, or a folder. Every
change of a tree that succeeds changes this view at a single place.
-/

namespace Courier

/-- What stands at a place, without what is in it. -/
inductive Node
  | file (content : ByteArray)
  | folder

/-- What stands at each place. -/
abbrev View := List String → Option Node

/-- A view changed at one place. -/
def View.set (view : View) (place : List String) (node : Option Node) : View := fun q =>
  if q = place then node else view q

/-- A change of one place, where nothing stands below it before and after. -/
theorem View.eq_set {view changed : View} {place : List String} {node : Option Node}
    (hbelow : ∀ step more, view (place ++ step :: more) = none)
    (hplace : changed place = node)
    (hinside : ∀ step more, changed (place ++ step :: more) = none)
    (hother : ∀ q, ¬ place <+: q → changed q = view q) : changed = view.set place node := by
  funext q
  by_cases hprefix : place <+: q
  · obtain ⟨more, rfl⟩ := hprefix
    cases more with
    | nil => rw [List.append_nil, set, if_pos rfl, hplace]
    | cons step more => rw [set, if_neg (by simp), hbelow, hinside]
  · rw [set, if_neg, hother q hprefix]
    rintro rfl
    exact hprefix (List.prefix_refl _)

@[simp]
theorem View.set_self (view : View) (place : List String) (node : Option Node) :
    view.set place node place = node :=
  if_pos rfl

theorem View.set_of_ne (view : View) {place q : List String} (hne : q ≠ place)
    (node : Option Node) : view.set place node q = view q :=
  if_neg hne

theorem View.set_eq_self {view : View} {place : List String} {node : Option Node}
    (hplace : view place = node) : view.set place node = view := by
  funext q
  by_cases hq : q = place
  · rw [hq, set_self, hplace]
  · rw [set_of_ne view hq]

theorem View.set_comm (view : View) {place other : List String} (hne : other ≠ place)
    (node node' : Option Node) :
    (view.set place node).set other node' = (view.set other node').set place node := by
  funext q
  by_cases hq : q = place
  · rw [hq, set_self, set_of_ne _ hne.symm, set_self]
  · simp only [set, if_neg hq]

theorem View.set_set (view : View) (place : List String) (node other : Option Node) :
    (view.set place node).set place other = view.set place other := by
  funext q
  rw [set, set, set]
  split <;> rfl

namespace FileTree

/-- The entry itself as it is seen from outside. -/
def node : FileTree → Node
  | file content => .file content
  | folder _ => .folder

/-- The view of a tree. -/
def look (tree : FileTree) : View := fun place =>
  (tree.at? place).map node

theorem look_cons (tree : FileTree) (name : String) (place : List String) :
    tree.look (name :: place) = (tree.child? name).bind fun sub => sub.look place := by
  rw [look, at?]
  cases tree.child? name <;> rfl

theorem look_file_cons (content : ByteArray) (name : String) (place : List String) :
    (file content).look (name :: place) = none :=
  rfl

/-- Only folders have something in them. -/
theorem look_eq_folder_of_append {tree : FileTree} {place more : List String} (hmore : more ≠ [])
    (hlook : tree.look (place ++ more) ≠ none) : tree.look place = some .folder := by
  induction place generalizing tree with
  | nil =>
      cases tree with
      | file content =>
          cases more with
          | nil => exact absurd rfl hmore
          | cons name more => exact absurd (look_file_cons content name more) hlook
      | folder entries => rfl
  | cons name place ih =>
      rw [List.cons_append, look_cons] at hlook
      rw [look_cons]
      cases hchild : tree.child? name with
      | none =>
          rw [hchild] at hlook
          exact absurd rfl hlook
      | some sub =>
          rw [hchild] at hlook
          exact ih hlook

theorem look_append_cons {tree : FileTree} {place : List String}
    (hplace : tree.look place ≠ some .folder) (step : String) (more : List String) :
    tree.look (place ++ step :: more) = none := by
  cases hlook : tree.look (place ++ step :: more) with
  | none => rfl
  | some node =>
      have hne : tree.look (place ++ step :: more) ≠ none := by simp [hlook]
      exact absurd (look_eq_folder_of_append (List.cons_ne_nil step more) hne) hplace

/-- A folder is entered by its name. -/
theorem look_cons_eq_folder {tree : FileTree} {name : String} {place : List String}
    (hlook : tree.look (name :: place) = some .folder) :
    ∃ entries sub, tree = folder entries ∧ entries.lookup name = some sub ∧
      sub.look place = some .folder := by
  cases tree with
  | file content => cases hlook
  | folder entries =>
      rw [look_cons, child?] at hlook
      cases hsub : entries.lookup name with
      | none =>
          rw [hsub] at hlook
          cases hlook
      | some sub =>
          rw [hsub] at hlook
          exact ⟨entries, sub, rfl, hsub, hlook⟩

/-! ## Entries -/

theorem lookup_setEntry (name : String) (new : FileTree) (entries : List (String × FileTree))
    (key : String) :
    (setEntry name new entries).lookup key =
      if key = name then some new else entries.lookup key := by
  induction entries with
  | nil =>
      rw [setEntry, List.lookup_cons]
      by_cases hkey : key = name
      · rw [hkey, beq_self_eq_true, if_pos rfl]
      · rw [beq_false_of_ne hkey, if_neg hkey]
  | cons entry entries ih =>
      rw [setEntry]
      by_cases hentry : entry.1 = name
      · rw [if_pos hentry, List.lookup_cons, List.lookup_cons, hentry]
        by_cases hkey : key = name
        · rw [hkey, beq_self_eq_true, if_pos rfl]
        · rw [beq_false_of_ne hkey, if_neg hkey]
      · rw [if_neg hentry, List.lookup_cons, List.lookup_cons, ih]
        by_cases hkey : key = name
        · have hne : (key == entry.1) = false := beq_false_of_ne fun h => hentry (h ▸ hkey)
          rw [hne, if_pos hkey]
        · rw [if_neg hkey, if_neg hkey]

theorem lookup_removeEntry (name : String) (entries : List (String × FileTree)) (key : String) :
    (entries.filter fun entry => entry.1 ≠ name).lookup key =
      if key = name then none else entries.lookup key := by
  induction entries with
  | nil => exact (ite_self none).symm
  | cons entry entries ih =>
      rw [List.filter_cons]
      by_cases hentry : entry.1 = name
      · rw [if_neg (by simp [hentry]), ih, List.lookup_cons, hentry]
        by_cases hkey : key = name
        · rw [if_pos hkey, if_pos hkey]
        · rw [if_neg hkey, if_neg hkey, beq_false_of_ne hkey]
      · rw [if_pos (by simp [hentry]), List.lookup_cons, List.lookup_cons, ih]
        by_cases hkey : key = name
        · have hne : (key == entry.1) = false := beq_false_of_ne fun h => hentry (h ▸ hkey)
          rw [hne, if_pos hkey]
        · rw [if_neg hkey, if_neg hkey]

theorem look_setEntry_self (name : String) (new : FileTree) (entries : List (String × FileTree))
    (place : List String) :
    (folder (setEntry name new entries)).look (name :: place) = new.look place := by
  rw [look_cons, child?, lookup_setEntry, if_pos rfl, Option.bind_some]

theorem look_setEntry_of_ne {name key : String} (hne : key ≠ name) (new : FileTree)
    (entries : List (String × FileTree)) (place : List String) :
    (folder (setEntry name new entries)).look (key :: place) =
      (folder entries).look (key :: place) := by
  rw [look_cons, look_cons, child?, child?, lookup_setEntry, if_neg hne]

/-! ## Putting and removing -/

/-- Below the place stands what was put there, and elsewhere what stood there before. -/
theorem look_put {tree : FileTree} {parent : List String}
    (hparent : tree.look parent = some .folder) (name : String) (new : FileTree) (q : List String) :
    (tree.put (parent ++ [name]) new).look q =
      if parent ++ [name] <+: q then new.look (q.drop (parent.length + 1)) else tree.look q := by
  induction parent generalizing tree q with
  | nil =>
      cases tree with
      | file content => cases hparent
      | folder entries =>
          rw [List.nil_append, put]
          cases q with
          | nil => rfl
          | cons key q =>
              by_cases hkey : key = name
              · have hprefix : [name] <+: name :: q := ⟨q, rfl⟩
                rw [hkey, look_setEntry_self, if_pos hprefix]
                rfl
              · rw [look_setEntry_of_ne hkey, if_neg]
                exact fun hprefix => hkey (List.cons_prefix_cons.mp hprefix).1.symm
  | cons step parent ih =>
      obtain ⟨entries, sub, rfl, hsub, hfolder⟩ := look_cons_eq_folder hparent
      have hput : (folder entries).put (step :: (parent ++ [name])) new =
          folder (setEntry step (sub.put (parent ++ [name]) new) entries) := by
        rw [put.eq_def]
        split <;> simp_all
      rw [List.cons_append, hput]
      cases q with
      | nil => rfl
      | cons key q =>
          by_cases hkey : key = step
          · subst hkey
            rw [look_setEntry_self, ih hfolder, look_cons, child?, hsub, Option.bind_some]
            simp only [List.cons_prefix_cons, true_and, List.length_cons, List.drop_succ_cons]
          · rw [look_setEntry_of_ne hkey, if_neg]
            exact fun hprefix => hkey (List.cons_prefix_cons.mp hprefix).1.symm

theorem look_put_below {tree : FileTree} {parent : List String}
    (hparent : tree.look parent = some .folder) (name : String) (new : FileTree)
    (more : List String) :
    (tree.put (parent ++ [name]) new).look (parent ++ [name] ++ more) = new.look more := by
  have hdrop : (parent ++ [name] ++ more).drop (parent.length + 1) = more := by simp
  rw [look_put hparent, if_pos (List.prefix_append _ _), hdrop]

/-- What is put somewhere changes the view there only, if it holds nothing, and if there was nothing
to be covered. -/
theorem look_put_eq_set {tree : FileTree} {parent : List String}
    (hparent : tree.look parent = some .folder) {name : String}
    (hplace : tree.look (parent ++ [name]) ≠ some .folder) {new : FileTree}
    (hnew : ∀ step more, new.look (step :: more) = none) :
    (tree.put (parent ++ [name]) new).look = tree.look.set (parent ++ [name]) (some new.node) := by
  refine View.eq_set (look_append_cons hplace) ?_ ?_ ?_
  · have hself := look_put_below hparent name new []
    rwa [List.append_nil] at hself
  · intro step more
    rw [look_put_below hparent, hnew]
  · intro q hq
    rw [look_put hparent, if_neg hq]

theorem look_putFile {tree : FileTree} {parent : List String}
    (hparent : tree.look parent = some .folder) {name : String}
    (hplace : tree.look (parent ++ [name]) ≠ some .folder) (content : ByteArray) :
    (tree.put (parent ++ [name]) (file content)).look =
      tree.look.set (parent ++ [name]) (some (.file content)) :=
  look_put_eq_set hparent hplace (look_file_cons content)

theorem look_putFolder {tree : FileTree} {parent : List String}
    (hparent : tree.look parent = some .folder) {name : String}
    (hplace : tree.look (parent ++ [name]) = none) :
    (tree.put (parent ++ [name]) empty).look = tree.look.set (parent ++ [name]) (some .folder) :=
  look_put_eq_set hparent (by simp [hplace]) fun _ _ => rfl

theorem remove_folder {place : List String} (hplace : place ≠ [])
    (entries : List (String × FileTree)) (step : String) :
    (folder entries).remove (step :: place) = match entries.lookup step with
      | some sub => folder (setEntry step (sub.remove place) entries)
      | none => folder entries := by
  cases place with
  | nil => exact absurd rfl hplace
  | cons name place => rfl

/-- Removing leaves nothing at the place and below it. -/
theorem look_remove (tree : FileTree) (parent : List String) (name : String) (q : List String) :
    (tree.remove (parent ++ [name])).look q =
      if parent ++ [name] <+: q then none else tree.look q := by
  -- Where the way ends early nothing is removed, and nothing was there.
  induction parent generalizing tree q with
  | nil =>
      cases tree with
      | file content =>
          cases q with
          | nil => rfl
          | cons key q => exact (ite_self none).symm
      | folder entries =>
          rw [List.nil_append, remove]
          cases q with
          | nil => rfl
          | cons key q =>
              rw [look_cons, look_cons, child?, child?, lookup_removeEntry]
              by_cases hkey : key = name
              · have hprefix : [name] <+: key :: q := ⟨q, by rw [hkey]; rfl⟩
                rw [if_pos hkey, if_pos hprefix]
                rfl
              · rw [if_neg hkey, if_neg]
                exact fun hprefix => hkey (List.cons_prefix_cons.mp hprefix).1.symm
  | cons step parent ih =>
      cases tree with
      | file content =>
          cases q with
          | nil => rfl
          | cons key q => exact (ite_self none).symm
      | folder entries =>
          cases hsub : entries.lookup step with
          | none =>
              rw [List.cons_append, remove_folder (by simp), hsub]
              dsimp only
              split
              next hprefix =>
                obtain ⟨more, rfl⟩ := hprefix
                rw [List.cons_append, look_cons, child?, hsub]
                rfl
              next => rfl
          | some sub =>
              rw [List.cons_append, remove_folder (by simp), hsub]
              cases q with
              | nil => rfl
              | cons key q =>
                  by_cases hkey : key = step
                  · subst hkey
                    rw [look_setEntry_self, ih, look_cons, child?, hsub, Option.bind_some]
                    simp only [List.cons_prefix_cons, true_and]
                  · rw [look_setEntry_of_ne hkey, if_neg]
                    exact fun hprefix => hkey (List.cons_prefix_cons.mp hprefix).1.symm

/-- Removing something that is no folder changes the view there only. -/
theorem look_remove_eq_set {tree : FileTree} {parent : List String} {name : String}
    (hplace : tree.look (parent ++ [name]) ≠ some .folder) :
    (tree.remove (parent ++ [name])).look = tree.look.set (parent ++ [name]) none := by
  refine View.eq_set (look_append_cons hplace) ?_ ?_ ?_
  · rw [look_remove, if_pos (List.prefix_refl _)]
  · intro step more
    rw [look_remove, if_pos (List.prefix_append _ _)]
  · intro q hq
    rw [look_remove, if_neg hq]

end FileTree

end Courier
