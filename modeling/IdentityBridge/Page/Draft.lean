import IdentityBridge.Page

/-! Pages in the making. A draft gives out a handle for each object that it creates; the handle stays
good after the object has been removed, and then speaks of the removed object alone. -/

namespace IdentityBridge.Page

/-- What a handle stands for. -/
inductive Handle where
  /-- An object in its slot on the page. -/
  | attached (className : String) (number : Nat)
  /-- An object that has been removed. -/
  | detached (object : PageObject)
deriving DecidableEq

structure Draft where
  page : Page
  handles : List Handle := []
deriving DecidableEq

namespace Draft

/-- Create an object; its handle is the last one. -/
def create (d : Draft) (className : String) : Draft where
  page := d.page.add className .empty
  handles := d.handles ++ [.attached className (d.page.nextNumber className)]

/-- The object of a handle. -/
def object? (d : Draft) (handle : Nat) : Option PageObject :=
  match d.handles[handle]? with
  | some (.attached className number) => d.page.object? className number
  | some (.detached object) => some object
  | none => none

/-- Set a property of the object of a handle. -/
def set (d : Draft) (handle : Nat) (property value : String) : Draft :=
  match d.handles[handle]? with
  | some (.attached className number) =>
    { d with page := d.page.modify className number (·.insert property value) }
  | some (.detached o) =>
    let o := { o with fields := o.fields.insert property value }
    { d with handles := d.handles.set handle (.detached o) }
  | none => d

/-- Remove the object of a handle, unless that has been done before. -/
def remove? (d : Draft) (handle : Nat) : Option Draft :=
  match d.handles[handle]? with
  | some (.attached className number) =>
    (d.page.object? className number).map fun o =>
      ⟨d.page.remove className number, d.handles.set handle (.detached o)⟩
  | _ => none

end Draft

end IdentityBridge.Page
