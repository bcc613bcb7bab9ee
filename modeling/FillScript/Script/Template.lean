import FillScript.Files.Path

/-!
# Templates

A template is a script that has been read: which document to fill, where to save it, how columns are
addressed, and the lines for each sheet.
-/

namespace FillScript

/-- The lines for one sheet. -/
structure Section where
  name : String
  lines : List String
deriving DecidableEq

/-- Sections with names of their own, in the order in which the names came up. -/
structure Sections where
  list : List Section
  distinct : (list.map (·.name)).Nodup
deriving DecidableEq

namespace Sections

/-- No sections. -/
def empty : Sections :=
  ⟨[], .nil⟩

instance : Inhabited Sections := ⟨empty⟩

/-- The names of the sections. -/
def names (sections : Sections) : List String :=
  sections.list.map (·.name)

/-- The lines for a sheet. -/
def lines? (sections : Sections) (name : String) : Option (List String) :=
  (sections.list.find? (·.name == name)).map (·.lines)

/-- A list with `new` in the place of the section of the same name, or at the end. -/
def store (new : Section) : List Section → List Section
  | [] => [new]
  | old :: rest => if old.name = new.name then new :: rest else old :: store new rest

theorem mem_names_store {new : Section} {list : List Section} {name : String} :
    name ∈ (store new list).map (·.name) ↔ name = new.name ∨ name ∈ list.map (·.name) := by
  induction list with
  | nil => simp [store]
  | cons old rest ih =>
    simp only [store]
    split
    · next heq => simp [heq]
    · simp only [List.map_cons, List.mem_cons, ih]
      grind

theorem nodup_names_store (new : Section) {list : List Section}
    (hdistinct : (list.map (·.name)).Nodup) : ((store new list).map (·.name)).Nodup := by
  induction list with
  | nil => simp [store]
  | cons old rest ih =>
    simp only [List.map_cons, List.nodup_cons] at hdistinct
    simp only [store]
    split
    · next heq => simpa [← heq] using hdistinct
    · next hne =>
      simp only [List.map_cons, List.nodup_cons, mem_names_store, not_or]
      exact ⟨⟨hne, hdistinct.1⟩, ih hdistinct.2⟩

/-- The sections with the lines for a sheet: new lines replace those the name had before. -/
def commit (sections : Sections) (name : String) (lines : List String) : Sections :=
  ⟨store ⟨name, lines⟩ sections.list, nodup_names_store _ sections.distinct⟩

end Sections

/-- A script that has been read. -/
structure Template where
  /-- The document to fill; empty if the script names none. -/
  source : Path
  /-- Where the filled document is saved; empty if the script does not say. -/
  output : Path
  /-- Whether columns are addressed by title. -/
  useTitle : Bool
  /-- The flags of the script, in small letters. -/
  params : List String
  /-- The titles of columns that are filled and not searched. -/
  fillColumns : List String
  sections : Sections
deriving DecidableEq, Inhabited

namespace Template

/-- A template that asks for nothing. -/
def empty : Template :=
  ⟨.empty, .empty, false, [], [], .empty⟩

/-- Whether a column is filled and not searched. -/
def isFillable (template : Template) (title : String) : Bool :=
  template.fillColumns.contains title

end Template

end FillScript
