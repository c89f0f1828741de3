import Mathlib.Tactic.ByContra
import TypedId.Files.Store

/-!
# What changes in a store

A change to a store is described by the entries at its locations. Putting an entry somewhere changes nothing elsewhere
(`entry?_put`), and as long as directories stay (`Keeps`) a walk that leads somewhere leads to the same place
(`Keeps.walk`). Making a directory with those above it adds directories at places that the path and those above it
lead to, and nothing else (`makeDirectories_spec`); writing a file changes the one entry that its path leads to
(`write_spec`).
-/

set_option autoImplicit false

namespace TypedId.Files.Store

variable {store made : Store} {place other : Location} {entry : Entry}

/-! ## Entries -/

/-- A location without names is a directory. -/
theorem entry?_of_names_nil (h : place.names = []) : store.entry? place = some .directory := by
  unfold entry?
  rw [h]
  rfl

/-- A location that is not a directory has names. -/
theorem names_ne_nil (h : store.entry? place ≠ some .directory) : place.names ≠ [] :=
  fun hnil => h (entry?_of_names_nil hnil)

/-- Locations in the same directory differ if their names do. -/
theorem child_inj {above : Location} {name other : String} (h : above.child name = above.child other) : name = other := by
  have hnames := congrArg Location.names h
  have hlast := congrArg List.getLast? hnames
  simpa [Location.child] using hlast

/-- Items with the entry at a location replaced. -/
def replaced (items : List (Location × Entry)) (place : Location) (entry : Entry) : List (Location × Entry) :=
  items.map fun item => if item.1 == place then (place, entry) else item

/-- Replacing an entry changes nothing at other locations. -/
theorem find?_replaced_of_ne {items : List (Location × Entry)} (h : other ≠ place) :
    (replaced items place entry).find? (fun item => item.1 == other) = items.find? fun item => item.1 == other := by
  induction items with
  | nil => rfl
  | cons item rest ih =>
    rw [replaced, List.map_cons, List.find?_cons, List.find?_cons]
    rw [replaced] at ih
    by_cases hplace : item.1 = place
    · have hitem : (item.1 == other) = false := by
        rw [hplace]
        exact beq_eq_false_iff_ne.2 h.symm
      rw [hitem, if_pos (by simpa using hplace), beq_eq_false_iff_ne.2 h.symm]
      exact ih
    · rw [if_neg (by simpa using hplace)]
      cases item.1 == other with
      | true => rfl
      | false => exact ih

/-- An entry that replaces another is found in its place. -/
theorem find?_replaced_self {items : List (Location × Entry)} (h : items.any fun item => item.1 == place) :
    (replaced items place entry).find? (fun item => item.1 == place) = some (place, entry) := by
  induction items with
  | nil => exact absurd h (by simp)
  | cons item rest ih =>
    rw [replaced, List.map_cons, List.find?_cons]
    rw [List.any_cons, Bool.or_eq_true] at h
    by_cases hplace : (item.1 == place) = true
    · rw [if_pos hplace, beq_self_eq_true]
    · rw [if_neg hplace, Bool.eq_false_iff.2 hplace]
      exact ih (h.resolve_left hplace)

/-- An entry is found where it was put, and the others are left. -/
theorem entry?_put (h : place.names ≠ []) :
    entry? (store.put place entry) other = if other = place then some entry else store.entry? other := by
  by_cases hnames : other.names = []
  · have hne : other ≠ place := fun heq => h (heq ▸ hnames)
    rw [if_neg hne, entry?_of_names_nil hnames, entry?_of_names_nil hnames]
  · have hlookup (items : Store) :
        items.entry? other = (items.entries.find? fun item => item.1 == other).map Prod.snd := by
      unfold entry?
      rw [if_neg (by simpa using hnames)]
    rw [hlookup, hlookup, put]
    split
    · rename_i hany
      change Option.map Prod.snd ((replaced store.entries place entry).find? fun item => item.1 == other) = _
      by_cases hother : other = place
      · rw [if_pos hother, hother, find?_replaced_self hany]
        rfl
      · rw [if_neg hother, find?_replaced_of_ne hother]
    · rename_i hany
      rw [List.find?_append]
      by_cases hother : other = place
      · have hnone : (store.entries.find? fun item => item.1 == place) = none := by
          rw [List.find?_eq_none]
          intro item hitem hplace
          exact hany (List.any_eq_true.2 ⟨item, hitem, hplace⟩)
        rw [if_pos hother, hother, hnone]
        simp
      · have hsingle : ([(place, entry)].find? fun item => item.1 == other) = none := by
          simpa using fun heq => hother heq.symm
        rw [if_neg hother, hsingle, Option.or_none]

/-! ## Walks -/

/-- Every directory of the first store is one of the second. -/
def Keeps (store made : Store) : Prop :=
  ∀ place, store.entry? place = some .directory → made.entry? place = some .directory

/-- A store keeps its own directories. -/
theorem Keeps.refl (store : Store) : store.Keeps store :=
  fun _ h => h

/-- Directories that are kept twice are kept. -/
theorem Keeps.trans {last : Store} (hfirst : store.Keeps made) (hsecond : made.Keeps last) : store.Keeps last :=
  fun place h => hsecond place (hfirst place h)

/-- Directories stay when an entry is put where none of them is. -/
theorem keeps_put (h : store.entry? place ≠ some .directory) : store.Keeps (store.put place entry) := by
  intro other hother
  rw [entry?_put (names_ne_nil h)]
  split
  · rename_i heq
    exact absurd (heq ▸ hother) h
  · exact hother

/-- A step leads on from a directory only. -/
theorem directory_of_step {name : String} {next : Location} (h : store.step place name = .ok next) :
    store.entry? place = some .directory := by
  rw [step] at h
  split at h
  · exact absurd h (by simp)
  · exact absurd h (by simp)
  · assumption

/-- In a directory a step stays, goes up, or goes down to a name. -/
theorem step_of_directory {name : String} (h : store.entry? place = some .directory) :
    store.step place name =
      if name = "" || name = "." then .ok place else if name = ".." then .ok place.parent else .ok (place.child name) := by
  rw [step, h]

/-- A step that can be taken can still be taken where directories are kept. -/
theorem Keeps.step {name : String} {next : Location} (hkeeps : store.Keeps made)
    (h : store.step place name = .ok next) : made.step place name = .ok next := by
  have hdirectory := directory_of_step h
  rw [step_of_directory (hkeeps place hdirectory), ← step_of_directory hdirectory, h]

/-- A walk takes the first step and goes on from there. -/
theorem walk_cons {name : String} {names : List String} {last : Location} :
    store.walk place (name :: names) = .ok last ↔
      ∃ next, store.step place name = .ok next ∧ store.walk next names = .ok last := by
  rw [walk]
  cases store.step place name with
  | error fault => simp [Except.bind]
  | ok next => simp [Except.bind]

/-- A walk by steps and then by more goes through a location between them. -/
theorem walk_append {names more : List String} {last : Location} :
    store.walk place (names ++ more) = .ok last ↔
      ∃ middle, store.walk place names = .ok middle ∧ store.walk middle more = .ok last := by
  induction names generalizing place with
  | nil => simp [walk]
  | cons name names ih =>
    rw [List.cons_append, walk_cons]
    constructor
    · rintro ⟨next, hnext, hrest⟩
      obtain ⟨middle, hmiddle, hlast⟩ := ih.1 hrest
      exact ⟨middle, walk_cons.2 ⟨next, hnext, hmiddle⟩, hlast⟩
    · rintro ⟨middle, hmiddle, hlast⟩
      obtain ⟨next, hnext, hrest⟩ := walk_cons.1 hmiddle
      exact ⟨next, hnext, ih.2 ⟨middle, hrest, hlast⟩⟩

/-- A walk that leads somewhere leads there as long as directories stay. -/
theorem Keeps.walk {names : List String} {last : Location} (hkeeps : store.Keeps made)
    (h : store.walk place names = .ok last) : made.walk place names = .ok last := by
  induction names generalizing place with
  | nil => exact h
  | cons name names ih =>
    obtain ⟨next, hnext, hrest⟩ := walk_cons.1 h
    exact walk_cons.2 ⟨next, hkeeps.step hnext, ih hrest⟩

/-- A text leads to the same location where directories are kept. -/
theorem Keeps.locate {text : String} (hkeeps : store.Keeps made) (h : store.locate text = .ok place) :
    made.locate text = .ok place := by
  rw [Store.locate] at h ⊢
  split at h
  · exact absurd h (by simp)
  · rename_i hnull
    rw [if_neg hnull]
    split at h
    · exact absurd h (by simp)
    · rename_i hempty
      rw [if_neg hempty]
      exact hkeeps.walk h

/-- What is known of a place from its entry. -/
def statusOf : Option Entry → Status
  | none => .missing
  | some .directory => .directory
  | some (.file bytes) => .file bytes

/-- What is known of a text is told by the entry at the location that it leads to. -/
theorem status_of_locate {text : String} (hlocate : store.locate text = .ok place) :
    store.status text = statusOf (store.entry? place) := by
  unfold status
  simp only [hlocate]
  cases store.entry? place with
  | none => rfl
  | some entry => cases entry <;> rfl

/-- What a text leads to is a directory if it leads to a location where there is one. -/
theorem status_eq_directory_iff {text : String} :
    store.status text = .directory ↔ ∃ place, store.locate text = .ok place ∧ store.entry? place = some .directory := by
  cases hlocate : store.locate text with
  | error fault => cases fault <;> simp [status, hlocate]
  | ok place =>
    rw [status_of_locate hlocate]
    cases hentry : store.entry? place with
    | none => simp [statusOf, hentry]
    | some entry => cases entry <;> simp [statusOf, hentry]

/-- What a text leads to is a file if it leads to a location where there is one. -/
theorem status_eq_file_iff {text : String} {bytes : List Nat} :
    store.status text = .file bytes ↔
      ∃ place, store.locate text = .ok place ∧ store.entry? place = some (.file bytes) := by
  cases hlocate : store.locate text with
  | error fault => cases fault <;> simp [status, hlocate]
  | ok place =>
    rw [status_of_locate hlocate]
    cases hentry : store.entry? place with
    | none => simp [statusOf, hentry]
    | some entry => cases entry <;> simp [statusOf, hentry]

/-! ## Making directories -/

/-- The second store has more directories than the first, at places that some of the paths lead to, and is otherwise
the same. -/
def Grows (store made : Store) (paths : List String) : Prop :=
  ∀ place, made.entry? place = store.entry? place ∨
    store.entry? place = none ∧ made.entry? place = some .directory ∧
      ∃ path ∈ paths, made.locate path = .ok place

/-- A store grows from itself with no new directory. -/
theorem Grows.refl (store : Store) (paths : List String) : store.Grows store paths :=
  fun _ => Or.inl rfl

/-- A store that grows keeps its directories. -/
theorem Grows.keeps {paths : List String} (h : store.Grows made paths) : store.Keeps made := by
  intro place hplace
  rcases h place with hsame | ⟨hnone, -⟩
  · rw [hsame, hplace]
  · rw [hnone] at hplace
    exact absurd hplace (by simp)

/-- A store that grows twice at places of some paths grows at places of these paths. -/
theorem Grows.trans {last : Store} {paths : List String} (hfirst : store.Grows made paths)
    (hsecond : made.Grows last paths) : store.Grows last paths := by
  intro place
  rcases hsecond place with hsame | ⟨hnone, hlast⟩
  · rcases hfirst place with hfirst | ⟨hnone, hmade, path, hpath, hlocate⟩
    · exact Or.inl (hsame.trans hfirst)
    · exact Or.inr ⟨hnone, hsame.trans hmade, path, hpath, hsecond.keeps.locate hlocate⟩
  · rcases hfirst place with hfirst | ⟨-, hmade, -⟩
    · exact Or.inr ⟨hfirst ▸ hnone, hlast⟩
    · rw [hnone] at hmade
      exact absurd hmade (by simp)

/-- A store that grows at places of some paths grows at places of more paths. -/
theorem Grows.mono {paths more : List String} (h : store.Grows made paths) (hsubset : paths ⊆ more) :
    store.Grows made more := by
  intro place
  rcases h place with hsame | ⟨hnone, hmade, path, hpath, hlocate⟩
  · exact Or.inl hsame
  · exact Or.inr ⟨hnone, hmade, path, hsubset hpath, hlocate⟩

/-- A directory is made at the location that a text leads to, if nothing is there. -/
theorem makeDirectory_eq_ok_iff {text : String} :
    store.makeDirectory text = .ok made ↔
      ∃ place, store.locate text = .ok place ∧ store.entry? place = none ∧ made = store.put place .directory := by
  rw [makeDirectory]
  cases store.locate text with
  | error fault => simp [Except.bind]
  | ok place =>
    cases hentry : store.entry? place with
    | none => simp [Except.bind, hentry, eq_comm]
    | some entry => simp [Except.bind, hentry]

/-- A directory that is made is a directory afterwards, and nothing else changes. -/
theorem makeDirectory_spec {text : String} (h : store.makeDirectory text = .ok made) :
    store.Grows made [text] ∧ made.status text = .directory := by
  obtain ⟨place, hlocate, hnone, rfl⟩ := makeDirectory_eq_ok_iff.1 h
  have hkeeps : store.Keeps (store.put place .directory) := keeps_put (by simp [hnone])
  have hnames : place.names ≠ [] := names_ne_nil (show store.entry? place ≠ some .directory by simp [hnone])
  have hput (other : Location) : entry? (store.put place .directory) other
      = if other = place then some .directory else store.entry? other :=
    entry?_put hnames
  have hmade := hkeeps.locate hlocate
  have hentry : entry? (store.put place .directory) place = some .directory := by rw [hput, if_pos rfl]
  refine ⟨fun other => ?_, status_eq_directory_iff.2 ⟨place, hmade, hentry⟩⟩
  by_cases hother : other = place
  · subst hother
    exact Or.inr ⟨hnone, hentry, text, List.mem_singleton_self _, hmade⟩
  · left
    rw [hput, if_neg hother]

/-- Whether a directory can be made or not, nothing else changes. -/
theorem grows_ensureDirectory (store : Store) (text : String) : store.Grows (store.ensureDirectory text).1 [text] := by
  rw [ensureDirectory]
  split
  · rename_i made hmade
    exact (makeDirectory_spec hmade).1
  · exact .refl _ _

/-- A directory that is made or there already is a directory afterwards. -/
theorem status_of_ensureDirectory {text : String} (h : store.ensureDirectory text = (made, none)) :
    made.status text = .directory := by
  rw [ensureDirectory] at h
  split at h
  · rename_i new hnew
    obtain rfl : new = made := congrArg Prod.fst h
    exact (makeDirectory_spec hnew).2
  · obtain ⟨rfl, hfault⟩ := Prod.mk.inj h
    by_contra hstatus
    rw [if_neg hstatus] at hfault
    exact absurd hfault (by simp)

/-- The texts of the paths with a root and names, given last name first, and of those above them. -/
def pathsAbove (root : String) : List String → List String
  | [] => [(Path.mk root []).text]
  | name :: above => (Path.mk root (name :: above).reverse).text :: pathsAbove root above

/-- A path is one of those that are made for it. -/
theorem text_mem_pathsAbove (root : String) (names : List String) :
    (Path.mk root names.reverse).text ∈ pathsAbove root names := by
  cases names <;> simp [pathsAbove]

/-- What is new are directories at places that the path or a path above it leads to, also when one of them could not be
made. -/
theorem grows_ensureAll (store : Store) (root : String) (names : List String) :
    store.Grows (store.ensureAll root names).1 (pathsAbove root names) := by
  have hself (store : Store) (names : List String) :
      store.Grows (store.ensureDirectory (Path.mk root names.reverse).text).1 (pathsAbove root names) :=
    (grows_ensureDirectory store _).mono (by simpa using text_mem_pathsAbove root names)
  induction names with
  | nil => exact hself store []
  | cons name above ih =>
    have habove := ih.mono (List.subset_cons_self (Path.mk root (name :: above).reverse).text _)
    rw [ensureAll]
    split
    · -- the directories above are made first
      split
      · rename_i middle hmiddle
        rw [hmiddle] at habove
        exact habove.trans (hself middle (name :: above))
      · exact habove
    · exact hself store (name :: above)

/-- A directory that was made with those above it is there. -/
theorem status_of_ensureAll {root : String} {names : List String} (h : store.ensureAll root names = (made, none)) :
    made.status (Path.mk root names.reverse).text = .directory := by
  cases names with
  | nil => exact status_of_ensureDirectory h
  | cons name above =>
    rw [ensureAll] at h
    split at h
    · split at h
      · exact status_of_ensureDirectory h
      · rename_i hfailed
        exact absurd h (hfailed made)
    · exact status_of_ensureDirectory h

/-- Making directories adds directories at the path and above it only. -/
theorem grows_makeDirectories (store : Store) (path : Path) :
    store.Grows (store.makeDirectories path).1 (pathsAbove path.root path.names.reverse) :=
  grows_ensureAll store path.root path.names.reverse

/-- A directory that could be made is there afterwards, and what is new are directories at places that its path or a
path above it leads to. -/
theorem makeDirectories_spec {path : Path} (h : store.makeDirectories path = (made, none)) :
    store.Grows made (pathsAbove path.root path.names.reverse) ∧ made.status path.text = .directory := by
  have hgrows := grows_makeDirectories store path
  have hstatus := status_of_ensureAll h
  rw [h] at hgrows
  rw [List.reverse_reverse] at hstatus
  exact ⟨hgrows, hstatus⟩

/-- A directory that is there is not made again. -/
theorem makeDirectories_of_directory {path : Path} (h : store.status path.text = .directory) :
    store.makeDirectories path = (store, none) := by
  obtain ⟨place, hlocate, hentry⟩ := status_eq_directory_iff.1 h
  have hexists : store.makeDirectory path.text = .error .alreadyExists := by
    rw [makeDirectory, hlocate]
    simp [Except.bind, hentry]
  have hensure : store.ensureDirectory path.text = (store, none) := by
    rw [ensureDirectory, hexists]
    simp [h]
  obtain ⟨root, names⟩ := path
  rw [makeDirectories]
  simp only []
  cases hnames : names.reverse with
  | nil =>
    rw [List.reverse_eq_nil_iff.1 hnames] at hensure
    exact hensure
  | cons name above =>
    have hpath : (name :: above).reverse = names := by rw [← hnames, List.reverse_reverse]
    rw [ensureAll, hpath, hexists]
    exact hensure

/-! ## Writing files -/

/-- A file is written at the location that the text leads to, if no directory is there. -/
theorem write_spec {text : String} {bytes : List Nat} :
    store.write text bytes = (made, none) ↔
      ∃ place, store.fileLocation text = .ok place ∧ store.entry? place ≠ some .directory ∧
        made = store.put place (.file bytes) := by
  rw [write]
  cases store.fileLocation text with
  | error fault => simp
  | ok place =>
    cases hentry : store.entry? place with
    | none => simp [hentry, eq_comm]
    | some entry => cases entry <;> simp [hentry, eq_comm]

/-- What cannot be written changes nothing. -/
theorem write_of_fault {text : String} {bytes : List Nat} {error : FileError}
    (h : store.write text bytes = (made, some error)) : made = store := by
  rw [write] at h
  split at h
  · exact (congrArg Prod.fst h).symm
  · split at h
    · exact (congrArg Prod.fst h).symm
    · exact absurd h (by simp)

end TypedId.Files.Store
