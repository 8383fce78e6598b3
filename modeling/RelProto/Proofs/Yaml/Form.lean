import Mathlib.Logic.Relation
import RelProto.Proofs.Yaml.Decode

/-! Values as documents write them, and the changes of a document that leave the value alone: keys
trade places, unknown ones come in, keys with the default value are left out, and names have other
spellings. A run of changes of a record comes to runs of changes of its values, so that what it
leads to is read like what was written first. -/
namespace RelProto.Yaml

open Decode (Gives)

/-- How a value is written, and which changes do not matter. -/
structure Form where
  node : Node
  Edit : Node → Node → Prop

/-- A key of a record with its value. -/
structure Entry where
  key : String
  mayBeLeftOut : Prop
  form : Form

namespace Entry

def required (key : String) (form : Form) : Entry := ⟨key, False, form⟩

/-- The key may be left out if it has the default value. -/
def withDefault {α : Type} (key : String) (value fallback : α) (form : Form) : Entry :=
  ⟨key, value = fallback, form⟩

end Entry

namespace Form

/-- What is written can be changed into this. -/
def Reaches (form : Form) (node : Node) : Prop := Relation.ReflTransGen form.Edit form.node node

end Form

/-- The entry is among these fields, with a value that it can be changed into, or is left out. -/
def Entry.FoundIn (entry : Entry) (fields : List (String × Node)) : Prop :=
  (∃ node, fields.lookup entry.key = some node ∧ entry.form.Reaches node) ∨
    entry.mayBeLeftOut ∧ fields.lookup entry.key = none

namespace Form

/-- A number, a flag or null. -/
def plain (s : String) : Form := ⟨Decode.plain s, fun _ _ => False⟩

/-- A text, in any style. -/
def text (s : String) : Form where
  node := .scalar none ⟨none, .doubleQuoted, s⟩
  Edit _ node := ∃ style, node = .scalar none ⟨none, style, s⟩

/-- A name, for which an alias may be written. -/
def name (s : String) (aliases : List String) : Form where
  node := Decode.plain s
  Edit _ node := ∃ other ∈ aliases, node = Decode.plain other

def option {α : Type} (form : α → Form) : Option α → Form
  | none => plain "null"
  | some a => form a

inductive ItemEdit (items : List Form) : Node → Node → Prop
  | item {nodes : List Node} {i : Nat} {form : Form} {node node' : Node}
    (hform : items[i]? = some form) (hnode : nodes[i]? = some node) (hedit : form.Edit node node') :
    ItemEdit items (.sequence none nodes) (.sequence none (nodes.set i node'))

def list (items : List Form) : Form := ⟨.sequence none (items.map node), ItemEdit items⟩

inductive RecordEdit (entries : List Entry) : Node → Node → Prop
  | reorder {pairs pairs' : List (Node × Node)} (h : pairs.Perm pairs') :
    RecordEdit entries (.mapping none pairs) (.mapping none pairs')
  | addUnknown {before after : List (Node × Node)} (key value : Node) {s : String}
    (hkey : key.text? = some s) (hunknown : ∀ entry ∈ entries, entry.key ≠ s) :
    RecordEdit entries (.mapping none (before ++ after))
      (.mapping none (before ++ (key, value) :: after))
  | leaveOut {before after : List (Node × Node)} {key value : Node} {entry : Entry}
    (hentry : entry ∈ entries) (hkey : key.text? = some entry.key) (h : entry.mayBeLeftOut) :
    RecordEdit entries (.mapping none (before ++ (key, value) :: after))
      (.mapping none (before ++ after))
  | change {before after : List (Node × Node)} {key value value' : Node} {entry : Entry}
    (hentry : entry ∈ entries) (hkey : key.text? = some entry.key)
    (hedit : entry.form.Edit value value') :
    RecordEdit entries (.mapping none (before ++ (key, value) :: after))
      (.mapping none (before ++ (key, value') :: after))

def record (entries : List Entry) : Form where
  node := .mapping none (entries.map fun entry => (Decode.plain entry.key, entry.form.node))
  Edit := RecordEdit entries

section Record

variable {entries : List Entry} {before after pairs : List (Node × Node)} {key value : Node}

lemma valuesOf_cons_of_eq {s : String} (h : key.text? = some s) :
    valuesOf s (before ++ (key, value) :: after) =
      valuesOf s before ++ value :: valuesOf s after := by
  simp [valuesOf, h]

lemma valuesOf_cons_of_ne {s : String} (h : key.text? ≠ some s) :
    valuesOf s (before ++ (key, value) :: after) = valuesOf s (before ++ after) := by
  simp [valuesOf, h]

lemma valuesOf_append (s : String) :
    valuesOf s (before ++ after) = valuesOf s before ++ valuesOf s after := by
  simp [valuesOf]

/-- The pairs write the entries: apart from those that may be left out, each is there once, with a
value that it can be changed into. -/
structure Spells (entries : List Entry) (pairs : List (Node × Node)) : Prop where
  scalars : ∀ pair ∈ pairs, pair.1.text?.isSome
  values : ∀ entry ∈ entries,
    (∃ value, valuesOf entry.key pairs = [value] ∧ entry.form.Reaches value) ∨
      entry.mayBeLeftOut ∧ valuesOf entry.key pairs = []

/-- The value that a key of an entry has is its only one. -/
lemma Spells.of_key (h : Spells entries (before ++ (key, value) :: after)) {entry : Entry}
    (hentry : entry ∈ entries) (hkey : key.text? = some entry.key) :
    entry.form.Reaches value ∧ valuesOf entry.key before = [] ∧ valuesOf entry.key after = [] := by
  have hvalues := h.values entry hentry
  rw [valuesOf_cons_of_eq hkey] at hvalues
  obtain ⟨only, honly, hreaches⟩ | ⟨_, hnone⟩ := hvalues
  · obtain ⟨hbefore, hvalue⟩ | ⟨_, hvalue⟩ := List.append_eq_singleton_iff.mp honly
    · obtain ⟨rfl, hafter⟩ := List.cons.inj hvalue
      exact ⟨hreaches, hbefore, hafter⟩
    · cases hvalue
  · simp at hnone

/-- The entries as they are written first. -/
lemma spells_written (hkeys : (entries.map (·.key)).Nodup) :
    Spells entries (entries.map fun entry => (Decode.plain entry.key, entry.form.node)) where
  scalars := by
    rw [List.forall_mem_map]
    exact fun _ _ => rfl
  values := by
    intro entry hentry
    refine .inl ⟨entry.form.node, ?_, .refl⟩
    obtain ⟨first, last, rfl⟩ := List.append_of_mem hentry
    have hothers : ∀ others : List Entry, entry.key ∉ others.map (·.key) →
        valuesOf entry.key
          (others.map fun entry => (Decode.plain entry.key, entry.form.node)) = [] := by
      intro others hkey
      rw [valuesOf, List.map_eq_nil_iff, List.filter_eq_nil_iff, List.forall_mem_map]
      intro other hother
      have hne : other.key ≠ entry.key := fun hsame => hkey (hsame ▸ List.mem_map_of_mem hother)
      simpa [Decode.plain, Node.text?] using hne
    rw [List.map_append, List.map_cons, List.nodup_append] at hkeys
    obtain ⟨_, hlast, hapart⟩ := hkeys
    rw [List.map_append, List.map_cons, valuesOf_cons_of_eq rfl, hothers last, hothers first]
    · rfl
    · intro hkey
      exact hapart _ hkey _ List.mem_cons_self rfl
    · exact (List.nodup_cons.mp hlast).1

lemma Spells.perm {pairs' : List (Node × Node)} (h : Spells entries pairs)
    (hperm : pairs.Perm pairs') : Spells entries pairs' where
  scalars := fun pair hpair => h.scalars pair (hperm.mem_iff.mpr hpair)
  values := by
    intro entry hentry
    have hvalues : (valuesOf entry.key pairs).Perm (valuesOf entry.key pairs') :=
      (hperm.filter _).map _
    obtain ⟨value, hvalue, hreaches⟩ | ⟨hdefault, hnone⟩ := h.values entry hentry
    · rw [hvalue] at hvalues
      exact .inl ⟨value, (List.singleton_perm.mp hvalues).symm, hreaches⟩
    · rw [hnone] at hvalues
      exact .inr ⟨hdefault, List.nil_perm.mp hvalues⟩

lemma Spells.add_unknown {s : String} (h : Spells entries (before ++ after))
    (hkey : key.text? = some s) (hunknown : ∀ entry ∈ entries, entry.key ≠ s) :
    Spells entries (before ++ (key, value) :: after) where
  scalars := by
    have hscalars := List.forall_mem_append.mp h.scalars
    refine List.forall_mem_append.mpr ⟨hscalars.1, List.forall_mem_cons.mpr ⟨?_, hscalars.2⟩⟩
    rw [hkey]
    rfl
  values := by
    intro entry hentry
    have hne : key.text? ≠ some entry.key := by
      rw [hkey]
      exact fun h => hunknown entry hentry (Option.some.inj h).symm
    rw [valuesOf_cons_of_ne hne]
    exact h.values entry hentry

lemma Spells.leave_out (h : Spells entries (before ++ (key, value) :: after))
    (hkeys : (entries.map (·.key)).Nodup) {omitted : Entry} (homitted : omitted ∈ entries)
    (hkey : key.text? = some omitted.key) (hdefault : omitted.mayBeLeftOut) :
    Spells entries (before ++ after) where
  scalars := by
    have hscalars := List.forall_mem_append.mp h.scalars
    exact List.forall_mem_append.mpr ⟨hscalars.1, (List.forall_mem_cons.mp hscalars.2).2⟩
  values := by
    intro entry hentry
    by_cases hsame : key.text? = some entry.key
    · obtain rfl := List.inj_on_of_nodup_map hkeys homitted hentry
        (Option.some.inj (hkey.symm.trans hsame))
      obtain ⟨_, hbefore, hafter⟩ := h.of_key hentry hkey
      refine .inr ⟨hdefault, ?_⟩
      rw [valuesOf_append, hbefore, hafter]
      rfl
    · rw [← valuesOf_cons_of_ne hsame]
      exact h.values entry hentry

lemma Spells.change {value' : Node} (h : Spells entries (before ++ (key, value) :: after))
    (hkeys : (entries.map (·.key)).Nodup) {changed : Entry} (hchanged : changed ∈ entries)
    (hkey : key.text? = some changed.key) (hedit : changed.form.Edit value value') :
    Spells entries (before ++ (key, value') :: after) where
  scalars := by
    have hscalars := List.forall_mem_append.mp h.scalars
    obtain ⟨hfirst, hlast⟩ := List.forall_mem_cons.mp hscalars.2
    exact List.forall_mem_append.mpr ⟨hscalars.1, List.forall_mem_cons.mpr ⟨hfirst, hlast⟩⟩
  values := by
    intro entry hentry
    by_cases hsame : key.text? = some entry.key
    · obtain rfl := List.inj_on_of_nodup_map hkeys hchanged hentry
        (Option.some.inj (hkey.symm.trans hsame))
      obtain ⟨hreaches, hbefore, hafter⟩ := h.of_key hentry hkey
      refine .inl ⟨value', ?_, hreaches.tail hedit⟩
      rw [valuesOf_cons_of_eq hkey, hbefore, hafter]
      rfl
    · have hvalues := h.values entry hentry
      rwa [valuesOf_cons_of_ne hsame] at hvalues ⊢

/-- A change of a record that writes the entries leaves one that does. -/
theorem spells_of_edit (hkeys : (entries.map (·.key)).Nodup) (hspells : Spells entries pairs)
    {node : Node} (h : RecordEdit entries (.mapping none pairs) node) :
    ∃ pairs', node = .mapping none pairs' ∧ Spells entries pairs' := by
  cases h with
  | reorder hperm => exact ⟨_, rfl, hspells.perm hperm⟩
  | addUnknown key value hkey hunknown => exact ⟨_, rfl, hspells.add_unknown hkey hunknown⟩
  | leaveOut hentry hkey hdefault => exact ⟨_, rfl, hspells.leave_out hkeys hentry hkey hdefault⟩
  | change hentry hkey hedit => exact ⟨_, rfl, hspells.change hkeys hentry hkey hedit⟩

/-- After any run of changes a record still writes its entries. -/
theorem spells_of_reaches (hkeys : (entries.map (·.key)).Nodup) {node : Node}
    (h : (record entries).Reaches node) :
    ∃ pairs, node = .mapping none pairs ∧ Spells entries pairs := by
  induction h with
  | refl => exact ⟨_, rfl, spells_written hkeys⟩
  | tail _ hedit ih =>
    obtain ⟨pairs, rfl, hspells⟩ := ih
    exact spells_of_edit hkeys hspells hedit

end Record

section List

variable {items : List Form}

lemma forall₂_of_edit {nodes : List Node} (hitems : List.Forall₂ Reaches items nodes) {i : Nat}
    {form : Form} {node node' : Node} (hform : items[i]? = some form)
    (hnode : nodes[i]? = some node) (hedit : form.Edit node node') :
    List.Forall₂ Reaches items (nodes.set i node') := by
  induction hitems generalizing i with
  | nil => cases hform
  | cons hfirst hrest ih =>
    cases i with
    | zero =>
      cases hform
      cases hnode
      exact .cons (hfirst.tail hedit) hrest
    | succ i => exact .cons hfirst (ih hform hnode)

/-- After any run of changes a list still has its items, each with a value that it can be changed
into. -/
theorem forall₂_of_reaches {node : Node} (h : (list items).Reaches node) :
    ∃ nodes, node = .sequence none nodes ∧ List.Forall₂ Reaches items nodes := by
  induction h with
  | refl =>
    refine ⟨_, rfl, ?_⟩
    rw [List.forall₂_map_right_iff, List.forall₂_same]
    exact fun _ _ => .refl
  | tail _ hedit ih =>
    obtain ⟨nodes, rfl, hitems⟩ := ih
    obtain ⟨hform, hnode, hedit⟩ := hedit
    exact ⟨_, rfl, forall₂_of_edit hitems hform hnode hedit⟩

end List

section Reads

variable {α : Type} {a : α}

/-- Whatever the value is changed into is read as `a`. -/
def Reads (form : Form) (decode : Node → Decode α) (a : α) : Prop :=
  ∀ node, form.Reaches node → Gives (decode node) a

lemma reaches_plain {s : String} {node : Node} (h : (plain s).Reaches node) :
    node = Decode.plain s := by
  cases h with
  | refl => rfl
  | tail _ hedit => exact hedit.elim

lemma reaches_name {s : String} {aliases : List String} {node : Node}
    (h : (name s aliases).Reaches node) : ∃ other ∈ s :: aliases, node = Decode.plain other := by
  cases h with
  | refl => exact ⟨s, List.mem_cons_self, rfl⟩
  | tail _ hedit =>
    obtain ⟨other, hother, rfl⟩ := hedit
    exact ⟨other, List.mem_cons_of_mem _ hother, rfl⟩

lemma reads_plain {s : String} {decode : Node → Decode α} (h : Gives (decode (Decode.plain s)) a) :
    (plain s).Reads decode a := by
  intro node hnode
  rwa [reaches_plain hnode]

lemma reads_text (s : String) : (text s).Reads Decode.text s := by
  intro node hnode
  apply Decode.gives_text
  cases hnode with
  | refl => rfl
  | tail _ hedit =>
    obtain ⟨style, rfl⟩ := hedit
    rfl

lemma reads_name {s : String} {aliases : List String} {ofName? : String → Option α}
    (h : ∀ other ∈ s :: aliases, ofName? other = some a) :
    (name s aliases).Reads (Decode.named ofName?) a := by
  intro node hnode
  obtain ⟨other, hother, rfl⟩ := reaches_name hnode
  exact Decode.gives_named (h other hother)

/-- A value that may be missing is read if it cannot be mistaken for null. -/
lemma reads_option {form : α → Form} {decode : Node → Decode α}
    (h : ∀ a node, (form a).Reaches node → ∃ s, node = Decode.plain s ∧ s ≠ "" ∧
      Decode.isNull s = false ∧ Gives (decode node) a) (value : Option α) :
    (option form value).Reads (Decode.optional decode) value := by
  intro node hnode
  rcases value with _ | a
  · rw [reaches_plain hnode]
    exact Decode.gives_optional_none decode
  · obtain ⟨s, rfl, hne, hnull, hgives⟩ := h a node hnode
    exact Decode.gives_optional_some hne hnull hgives

lemma reads_list {item : α → Form} {decode : Node → Decode α} {as : List α}
    (h : ∀ a ∈ as, (item a).Reads decode a) :
    (list (as.map item)).Reads (Decode.list decode) as := by
  intro node hnode
  obtain ⟨nodes, rfl, hnodes⟩ := forall₂_of_reaches hnode
  apply Decode.gives_list
  rw [List.forall₂_map_left_iff] at hnodes
  apply ((List.forall₂_and_left _ _).mpr ⟨h, hnodes⟩).flip.imp
  rintro node a ⟨hreads, hreaches⟩
  exact hreads node hreaches

/-- A record is read if it is read from any fields among which its entries are. -/
theorem reads_record {entries : List Entry} {keys : List String} {decode : Node → Decode α}
    {next : List (String × Node) → Decode α}
    (hdecode : ∀ node, decode node = Decode.fields keys node >>= next)
    (hkeys : keys = entries.map (·.key)) (hnodup : keys.Nodup)
    (h : ∀ fields, (∀ entry ∈ entries, entry.FoundIn fields) → Gives (next fields) a) :
    (record entries).Reads decode a := by
  intro node hnode
  subst hkeys
  obtain ⟨pairs, rfl, hspells⟩ := spells_of_reaches hnodup hnode
  have honce : ∀ key ∈ entries.map (·.key), (valuesOf key pairs).length ≤ 1 := by
    rw [List.forall_mem_map]
    intro entry hentry
    obtain ⟨value, hvalue, _⟩ | ⟨_, hnone⟩ := hspells.values entry hentry
    · rw [hvalue]
      rfl
    · rw [hnone]
      exact Nat.zero_le 1
  obtain ⟨fields, hfields, hlookup⟩ := Decode.exists_gives_fields hspells.scalars honce
  rw [hdecode]
  refine hfields.bind (h fields ?_)
  intro entry hentry
  rw [Entry.FoundIn, hlookup entry.key (List.mem_map_of_mem hentry)]
  obtain ⟨value, hvalue, hreaches⟩ | ⟨hdefault, hnone⟩ := hspells.values entry hentry
  · rw [hvalue]
    exact .inl ⟨value, rfl, hreaches⟩
  · rw [hnone]
    exact .inr ⟨hdefault, rfl⟩

lemma gives_field {fields : List (String × Node)} {key : String} {value fallback : α} {form : Form}
    {decode : Node → Decode α} (h : (Entry.withDefault key value fallback form).FoundIn fields)
    (hreads : form.Reads decode value) : Gives (Decode.field fields key fallback decode) value := by
  obtain ⟨node, hlookup, hreaches⟩ | ⟨hdefault, hnone⟩ := h
  · exact Decode.gives_field_of_lookup hlookup (hreads node hreaches)
  · obtain rfl : value = fallback := hdefault
    exact Decode.gives_field_of_none hnone

lemma gives_required {fields : List (String × Node)} {key : String} {value : α} {form : Form}
    {decode : Node → Decode α} (h : (Entry.required key form).FoundIn fields)
    (hreads : form.Reads decode value) : Gives (Decode.required fields key decode) value := by
  obtain ⟨node, hlookup, hreaches⟩ | ⟨hmissing, _⟩ := h
  · exact Decode.gives_required hlookup (hreads node hreaches)
  · exact hmissing.elim

end Reads

end Form

end RelProto.Yaml
