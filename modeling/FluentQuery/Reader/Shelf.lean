import FluentQuery.Reader.Basic

/-!
Shared readers. A shelf holds the readers, each behind a lock of its own; a handle names a place
on the shelf, and any number of plans may hold the same handle.
-/
namespace FluentQuery

/-- A place on the shelf, with the name of the reader there. Two handles are the same reader if
and only if they are equal. -/
structure Handle where
  id : Nat
  name : String
deriving DecidableEq, Repr, Inhabited

/-- A reader behind its lock. A lock is poisoned for good when a use of its reader broke off. -/
structure Slot where
  reader : Reader
  poisoned : Bool
deriving Repr

instance : Inhabited Slot := ⟨⟨.feed "" [] [], false⟩⟩

structure Shelf where
  slots : List Slot
deriving Repr, Inhabited

namespace Shelf

def empty : Shelf := ⟨[]⟩

def add (shelf : Shelf) (reader : Reader) : Handle × Shelf :=
  (⟨shelf.slots.length, reader.name⟩, ⟨shelf.slots ++ [⟨reader, false⟩]⟩)

def slot (shelf : Shelf) (handle : Handle) : Slot := shelf.slots.getD handle.id default

def setSlot (shelf : Shelf) (handle : Handle) (slot : Slot) : Shelf :=
  ⟨shelf.slots.set handle.id slot⟩

/-- Uses the reader of a handle under its lock. A use that breaks off poisons the lock. -/
def use {α : Type} (shelf : Shelf) (handle : Handle) (f : Reader → Option (α × Reader)) :
    Except Error α × Shelf :=
  let slot := shelf.slot handle
  if slot.poisoned then (.error (.poisoned handle.name), shelf)
  else match f slot.reader with
    | some (a, reader) => (.ok a, shelf.setSlot handle ⟨reader, false⟩)
    | none => (.error (.poisoned handle.name), shelf.setSlot handle ⟨slot.reader, true⟩)

def schema (shelf : Shelf) (handle : Handle) : Except Error Schema :=
  let slot := shelf.slot handle
  if slot.poisoned then .error (.poisoned handle.name) else .ok slot.reader.schema

def read (shelf : Shelf) (handle : Handle) (columns : List String) (count : Nat) :
    Except Error Page × Shelf :=
  shelf.use handle (Reader.read columns count)

def readAll (shelf : Shelf) (handle : Handle) (columns : List String) (batch : Nat) :
    Except Error (List (List Json)) × Shelf :=
  if batch = 0 then (.error .zeroBatch, shelf)
  else shelf.use handle (Reader.drain columns batch)

def poison (shelf : Shelf) (handle : Handle) : Shelf :=
  (shelf.use handle fun _ => (none : Option (Unit × Reader))).2

end Shelf

end FluentQuery
