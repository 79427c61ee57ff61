import GatewayAgent.Config.Document
import GatewayAgent.Proofs.Yaml.Number

/-!
# Reading and writing sections

A section is read entry by entry, each of which sets one field. So a mapping of some of its fields,
in any order, sets these and leaves the others. What comes out can be told field by field, and
`Picks` ties the two together (`Picks.readEntries`). Every kind of field reads back what it writes,
so that a table of fields needs one line for each.

An entry that cannot be read spoils all of them (`readEntries_eq_none`), be it for its key
(`read_of_foreignKey`) or for its value.
-/

namespace GatewayAgent

open Yaml (Document Node)

/-! ### What nodes say -/

/-- The text that a node says. -/
def Yaml.Document.text? (d : Document) (n : Node) : Option String := (d.resolve n).bind Node.asText

/-- The entries that a node lists. -/
def Yaml.Document.entries? (d : Document) (n : Node) : Option (List (Node × Node)) :=
  (d.resolve n).bind Node.asEntries

/-- The node is a mapping with a key that is none of the names. -/
def Yaml.Document.HasForeignKey (d : Document) (n : Node) (names : List String) : Prop :=
  ∃ entries, d.entries? n = some entries ∧
    ∃ k v, (k, v) ∈ entries ∧ ∀ name ∈ names, d.text? k ≠ some name

/-- A choice of names, in some order. -/
structure FieldChoice (all : List String) where
  names : List String
  nodup : names.Nodup
  known : ∀ name ∈ names, name ∈ all

namespace ConfigSection

variable {α : Type} {t : ConfigSection α} {d : Document} {seen names : List String} {a : α}
  {entries : List (Node × Node)} {k v n : Node} {name : String} {f : ConfigField α}

/-- A field that is found is one of the section, and has the name. -/
theorem mem_of_field? (h : t.field? name = some f) : f ∈ t ∧ f.name = name := by
  have hname := List.find?_some h
  exact ⟨List.mem_of_find?_eq_some h, by simpa using hname⟩

theorem exists_field? (h : name ∈ t.map (·.name)) : ∃ f, t.field? name = some f := by
  obtain ⟨f, hf, rfl⟩ := List.mem_map.mp h
  exact Option.isSome_iff_exists.mp (List.find?_isSome.mpr ⟨f, hf, by simp⟩)

/-! ### Entries -/

/-- Entries are read in order; none may be foreign or come twice. -/
theorem readEntries_cons :
    t.readEntries d seen a ((k, v) :: entries) =
      (d.text? k).bind fun name => (t.field? name).bind fun f =>
        if seen.contains name then none
        else (f.read d v a).bind fun a => t.readEntries d (name :: seen) a entries := by
  rw [readEntries, Document.text?]
  cases d.resolve k <;> rfl

/-- An entry that cannot be read spoils all of them. -/
theorem readEntries_eq_none (hmem : (k, v) ∈ entries)
    (h : ∀ name f a, d.text? k = some name → t.field? name = some f → f.read d v a = none) :
    t.readEntries d seen a entries = none := by
  induction entries generalizing seen a with
  | nil => simp at hmem
  | cons e entries ih =>
    obtain ⟨k', v'⟩ := e
    rw [readEntries_cons]
    refine Option.bind_eq_none_iff.mpr fun name hname => ?_
    refine Option.bind_eq_none_iff.mpr fun f hf => ?_
    split_ifs
    · rfl
    refine Option.bind_eq_none_iff.mpr fun a' ha' => ?_
    rcases List.mem_cons.mp hmem with heq | hrest
    · -- This is the entry, so its value was not read after all.
      obtain ⟨rfl, rfl⟩ := Prod.mk.inj heq
      exact absurd ha' (by simp [h name f a hname hf])
    · exact ih hrest

/-- A section is read from its entries. -/
theorem read_of_entries? (h : d.entries? n = some entries) (a : α) :
    t.read d n a = t.readEntries d [] a entries := by
  rw [Document.entries?] at h
  obtain ⟨m, hresolve, hentries⟩ := Option.bind_eq_some_iff.mp h
  simp [read, hresolve, hentries]

/-- A section with a key that is none of its fields is refused. -/
theorem read_of_foreignKey (h : d.HasForeignKey n (t.map (·.name))) (a : α) :
    t.read d n a = none := by
  obtain ⟨entries, hentries, k, v, hmem, hforeign⟩ := h
  rw [read_of_entries? hentries]
  refine readEntries_eq_none hmem fun name f _ hname hf => ?_
  obtain ⟨hmem, rfl⟩ := mem_of_field? hf
  exact absurd hname (hforeign _ (List.mem_map_of_mem hmem))

/-! ### Some of the fields -/

/-- A mapping of the fields with some names, each with its own node. -/
def listing (t : ConfigSection α) (value : ConfigField α → Node) (names : List String) : Node :=
  .mapping (names.filterMap fun name => (t.field? name).map fun f => (.plain name, value f)) none

/-- Reading the nodes of fields is picking them: with the node of a field read, it need no longer
be picked. -/
structure Picks (t : ConfigSection α) (value : ConfigField α → Node)
    (pick : List String → α → α) : Prop where
  nil : ∀ a, pick [] a = a
  cons : ∀ f ∈ t, ∀ names d a, ∃ a', f.read d (value f) a = some a' ∧
    pick names a' = pick (f.name :: names) a

variable {value : ConfigField α → Node} {pick : List String → α → α}

/-- Entries of different fields that were not set before are all read. -/
theorem Picks.readEntries (h : t.Picks value pick) (hnodup : names.Nodup)
    (hknown : ∀ name ∈ names, name ∈ t.map (·.name)) (hfresh : ∀ name ∈ names, name ∉ seen) :
    t.readEntries d seen a
        (names.filterMap fun name => (t.field? name).map fun f => (.plain name, value f)) =
      some (pick names a) := by
  induction names generalizing seen a with
  | nil => rw [h.nil]; rfl
  | cons name names ih =>
    obtain ⟨f, hf⟩ := exists_field? (hknown name List.mem_cons_self)
    obtain ⟨hmem, rfl⟩ := mem_of_field? hf
    obtain ⟨hnew, hnodup⟩ := List.nodup_cons.mp hnodup
    obtain ⟨-, hknown⟩ := List.forall_mem_cons.mp hknown
    obtain ⟨hunseen, hfresh⟩ := List.forall_mem_cons.mp hfresh
    obtain ⟨a', hread, hpick⟩ := h.cons f hmem names d a
    have hkey : d.text? (.plain f.name) = some f.name := rfl
    have hrest : ∀ name ∈ names, name ∉ f.name :: seen := fun name hname hseen =>
      (List.mem_cons.mp hseen).elim (fun heq => hnew (heq ▸ hname)) (hfresh name hname)
    -- The entry is read first, and what it sets is what picking need not set any more.
    rw [List.filterMap_cons_some (by rw [hf]; rfl), readEntries_cons, hkey, Option.bind_some, hf,
      Option.bind_some, if_neg (by simpa using hunseen), hread, Option.bind_some,
      ih hnodup hknown hrest, hpick]

/-- A mapping of chosen fields is read to what picks them. -/
theorem Picks.read_listing (h : t.Picks value pick) (s : FieldChoice (t.map (·.name)))
    (d : Document) (a : α) :
    t.read d (t.listing value s.names) a = some (pick s.names a) := by
  rw [read_of_entries? rfl]
  exact h.readEntries s.nodup s.known (by simp)

end ConfigSection

/-! ### What single fields read back -/

namespace ConfigField

variable {α : Type} {name : String} (d : Document) (a b : α)

theorem read_write_text (get : α → String) (set : String → α → α) :
    (text name get set).read d ((text name get set).write a) b = some (set (get a) b) := rfl

theorem read_write_optionalText (get : α → Option String) (set : Option String → α → α) :
    (optionalText name get set).read d ((optionalText name get set).write a) b =
      some (set (get a) b) := by
  cases h : get a <;> simp [optionalText, h] <;> rfl

theorem read_write_flag (get : α → Bool) (set : Bool → α → α) :
    (flag name get set).read d ((flag name get set).write a) b = some (set (get a) b) := by
  cases h : get a <;> simp [flag, h] <;> rfl

theorem read_write_number (get : α → UInt64) (set : UInt64 → α → α) :
    (number name get set).read d ((number name get set).write a) b = some (set (get a) b) := by
  change ((Node.plain (toString (get a).toNat)).asNumber.bind fun v => some (set v b)) = _
  rw [Node.asNumber_plain_toString, Option.bind_some]

theorem read_write_texts (get : α → List String) (set : List String → α → α) :
    (texts name get set).read d ((texts name get set).write a) b = some (set (get a) b) := by
  have hitems : ((get a).map Node.quoted).mapM d.text? = some (get a) := by
    have hquoted : d.text? ∘ Node.quoted = fun s => pure s := rfl
    rw [List.mapM_map, hquoted, List.mapM_pure, List.map_id']
    rfl
  change (((get a).map Node.quoted).mapM d.text?).bind (fun v => some (set v b)) = _
  rw [hitems, Option.bind_some]

theorem read_write_version (get : α → TlsVersion) (set : TlsVersion → α → α) :
    (version name get set).read d ((version name get set).write a) b = some (set (get a) b) := by
  cases h : get a <;> simp [version, h] <;> rfl

/-! ### Sections as fields -/

variable {a} {β : Type} {t : ConfigSection β} {unset v : β} {get : α → β} {set : β → α → α}
  {n : Node}

theorem read_nested (h : t.read d n unset = some v) :
    (nested name t unset get set).read d n a = some (set v a) := by
  change (t.read d n unset).bind (fun v => some (set v a)) = _
  rw [h, Option.bind_some]

/-- A nested section with a foreign key is refused. -/
theorem read_nested_of_foreignKey (h : d.HasForeignKey n (t.map (·.name))) :
    (nested name t unset get set).read d n a = none := by
  change (t.read d n unset).bind (fun v => some (set v a)) = _
  rw [t.read_of_foreignKey h, Option.bind_none]

end ConfigField

end GatewayAgent
