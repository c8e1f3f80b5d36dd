import IdentityBridge.Directory
import IdentityBridge.Provenance.Field

/-! Recording the groups created in one authentication. A batch loads each configured page once, adds
entries to the fields on its copy, and saves the changed pages once each at the end. -/

namespace IdentityBridge.Provenance

structure Batch where
  /-- Completes the references of pages and classes. -/
  mainWiki : String
  defaultSpace : String
  /-- The loaded pages by their configured names. -/
  pages : Table String Page := .empty
  /-- The names of the changed pages, in order of the first change. -/
  changed : List String := []

namespace Batch

def comment : String := "Add a new role/group from the trusted authenticator"

/-- The name under which a configured page is kept; the main wiki is put before a name without one. -/
def pageName (b : Batch) (page : String) : String :=
  if page.toList.contains ':' then page else b.mainWiki ++ ":" ++ page

/-- The copy of a page, loaded if this has not been done. -/
def load (b : Batch) (d : Directory) (name : String) : Except DirectoryError (Page × Batch) :=
  match b.pages.find? name with
  | some page => .ok (page, b)
  | none => do
    let page ← d.load (Reference.resolve name b.mainWiki b.defaultSpace)
    return (page, { b with pages := b.pages.insert name page })

/-- The object that holds a field: the first one with its property if no class is configured, the
first one of its class if no number is. -/
def object? (b : Batch) (page : Page) (values : FieldValues) : Option PageObject :=
  if values.className = "" then page.firstWith? values.propertyName
  else
    let className := (Reference.resolve values.className b.mainWiki b.defaultSpace).localForm
    match values.objectNumber with
    | none => page.firstOf? className
    | some number => page.object? className number

/-- A field text with an entry added. -/
def extend (f : Field) (text entry : String) : String :=
  if text = "" then entry else text ++ f.values.separator ++ entry

/-- Record a group and its role in a field, unless they are there. A page that cannot be loaded, or
that lacks the object, is passed over. -/
def add (b : Batch) (d : Directory) (f : Field) (group : Reference) (role : String) : Batch :=
  if f.values.page = "" then b
  else
    let name := b.pageName f.values.page
    match b.load d name with
    | .error _ => b
    | .ok (page, b) =>
      match b.object? page f.values with
      | none => b
      | some o =>
        let text := (o.fields.find? f.values.propertyName).getD ""
        if f.hasEntry group role text then b
        else
          let page := page.set o f.values.propertyName (extend f text (f.entry group role))
          { b with
            pages := b.pages.insert name page
            changed := if name ∈ b.changed then b.changed else b.changed ++ [name] }

/-- Save the changed pages; those that cannot be saved are given up. -/
def save (b : Batch) (d : Directory) : Directory :=
  b.changed.foldl (fun d name =>
    match b.pages.find? name with
    | none => d
    | some page => (d.save page comment).toOption.getD d) d

end Batch

end IdentityBridge.Provenance
