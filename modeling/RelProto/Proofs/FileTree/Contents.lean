import Mathlib.Data.List.Infix
import Mathlib.Logic.Function.Basic
import RelProto.FileTree

/-! Places and what is at them. A path leads to its place by its text alone; what is on the way only
decides whether it can be used. -/
namespace RelProto

namespace Path

/-- The place that a name leads to. Two dots at the root lead nowhere else. -/
def next (place : Place) (name : String) : Place :=
  if name = "." then place else if name = ".." then place.dropLast else place ++ [name]

/-- The place that names lead to, one after another, whether or not something is there. -/
def follow (place : Place) (names : List String) : Place := names.foldl next place

/-- The place that a path leads to, seen from a working directory. -/
def place (here : Place) (path : String) : Place := follow (origin here path) (names path)

/-- The places on the way along the names, the first and the last one included. -/
def way (place : Place) : List String → List Place
  | [] => [place]
  | name :: rest => place :: way (next place name) rest

@[simp] theorem follow_nil (place : Place) : follow place [] = place := rfl

@[simp] theorem follow_cons (place : Place) (name : String) (rest : List String) :
    follow place (name :: rest) = follow (next place name) rest := rfl

theorem follow_append (place : Place) (names more : List String) :
    follow place (names ++ more) = follow (follow place names) more := by
  rw [follow, follow, follow, List.foldl_append]

/-- With one more name the way has one more place at its end. -/
theorem way_concat (place : Place) (names : List String) (name : String) :
    way place (names ++ [name]) = way place names ++ [follow place (names ++ [name])] := by
  induction names generalizing place with
  | nil => rfl
  | cons first rest ih => rw [List.cons_append, way, ih, way, follow_cons, List.cons_append]

theorem way_subset_of_prefix {place : Place} {names more : List String} (h : names <+: more) :
    way place names ⊆ way place more := by
  obtain ⟨rest, rfl⟩ := h
  induction rest using List.reverseRecOn with
  | nil => rw [List.append_nil]; exact List.Subset.refl _
  | append_singleton rest name ih =>
    rw [← List.append_assoc, way_concat]
    exact List.Subset.trans ih (List.subset_append_left _ _)

lemma dropDots_prefix_self (names : List String) : dropDots names <+: names := by
  rw [dropDots, ← List.reverse_suffix, List.reverse_reverse]
  exact List.dropWhile_suffix _

lemma dropLast_prefix_dropLast {names more : List String} (h : names <+: more) :
    names.dropLast <+: more.dropLast := by
  obtain ⟨rest, rfl⟩ := h
  by_cases hrest : rest = []
  · rw [hrest, List.append_nil]
  · rw [List.dropLast_append_of_ne_nil hrest]
    exact (List.dropLast_prefix names).trans (List.prefix_append names _)

/-- The enclosing directory is named by the first names of the path, without the last one. -/
lemma parent_prefix_dropLast (names : List String) : parent names <+: names.dropLast :=
  (dropDots_prefix_self _).trans (dropLast_prefix_dropLast (dropDots_prefix_self names))

end Path

/-- What is at each place. -/
abbrev Contents : Type := Place → Option FileEntry

/-- The contents with directories at those of the places where nothing was. -/
def Contents.withDirectories (contents : Contents) (places : List Place) : Contents := fun place =>
  if place ∈ places then contents place <|> some .directory else contents place

namespace Contents

variable {contents : Contents} {place : Place} {places more : List Place}

lemma withDirectories_of_eq_some {entry : FileEntry} (h : contents place = some entry)
    (places : List Place) : contents.withDirectories places place = some entry := by
  rw [withDirectories, h]
  exact ite_self _

lemma withDirectories_of_notMem (h : place ∉ places) :
    contents.withDirectories places place = contents place := if_neg h

/-- Directories that are there need not be made. -/
lemma withDirectories_eq_self (h : ∀ place ∈ places, contents place = some .directory) :
    contents.withDirectories places = contents := by
  funext place
  rw [withDirectories]
  split_ifs with hplace
  · rw [h place hplace]
    rfl
  · rfl

/-- Directories made twice are made once. -/
lemma withDirectories_withDirectories (h : places ⊆ more) :
    (contents.withDirectories places).withDirectories more = contents.withDirectories more := by
  funext place
  by_cases hmore : place ∈ more
  · by_cases hplace : place ∈ places
    · simp only [withDirectories, hmore, hplace, if_true]
      cases contents place <;> rfl
    · simp only [withDirectories, hmore, hplace, if_true, if_false]
  · have hplace : place ∉ places := fun hplace => hmore (h hplace)
    rw [withDirectories_of_notMem hmore, withDirectories_of_notMem hplace,
      withDirectories_of_notMem hmore]

end Contents

/-- The entry with what is in it left out. -/
def FileEntry.emptied : FileEntry → FileEntry
  | .directory => .directory
  | .socket => .socket
  | .file _ => .file .empty

/-- What was somewhere is there still, a file perhaps with another content. -/
def Contents.Keeps (contents later : Contents) : Prop := ∀ place entry,
  contents place = some entry → (later place).map FileEntry.emptied = some entry.emptied

namespace Contents.Keeps

variable {contents later last : Contents} {place : Place}

lemma refl (contents : Contents) : contents.Keeps contents := by
  intro place entry hentry
  rw [hentry]
  rfl

lemma trans (h : contents.Keeps later) (hlast : later.Keeps last) : contents.Keeps last := by
  intro place entry hentry
  obtain ⟨middle, hmiddle, hsame⟩ := Option.map_eq_some_iff.mp (h place entry hentry)
  rw [hlast place middle hmiddle, hsame]

lemma directory (h : contents.Keeps later) (hentry : contents place = some .directory) :
    later place = some .directory := by
  obtain ⟨entry, hlater, hsame⟩ := Option.map_eq_some_iff.mp (h place _ hentry)
  cases entry with
  | directory => exact hlater
  | socket => cases hsame
  | file content => cases hsame

lemma file {content : ByteArray} (h : contents.Keeps later)
    (hentry : contents place = some (.file content)) : ∃ other, later place = some (.file other) := by
  obtain ⟨entry, hlater, hsame⟩ := Option.map_eq_some_iff.mp (h place _ hentry)
  cases entry with
  | directory => cases hsame
  | socket => cases hsame
  | file other => exact ⟨other, hlater⟩

lemma withDirectories (contents : Contents) (places : List Place) :
    contents.Keeps (contents.withDirectories places) := by
  intro place entry hentry
  rw [Contents.withDirectories_of_eq_some hentry]
  rfl

/-- An entry may be put where nothing was, or one of its kind. -/
lemma update {entry : FileEntry}
    (h : ∀ other, contents place = some other → entry.emptied = other.emptied) :
    contents.Keeps (Function.update contents place (some entry)) := by
  intro other present hentry
  by_cases hother : other = place
  · subst hother
    rw [Function.update_self, Option.map_some, h present hentry]
  · rw [Function.update_of_ne hother, hentry]
    rfl

end Contents.Keeps

end RelProto
