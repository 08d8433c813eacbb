import FluentQuery.Assoc

/-!
The conditions of a join: a right key for each left key, in the order in which the left keys were
first given. A left key that is given again keeps its place and takes the new right key.
-/
namespace FluentQuery

structure JoinKeys where
  pairs : List (String × String)
deriving DecidableEq, Repr, Inhabited

namespace JoinKeys

def empty : JoinKeys := ⟨[]⟩

def insert (keys : JoinKeys) (left right : String) : JoinKeys :=
  ⟨Assoc.put left right keys.pairs⟩

def ofList (pairs : List (String × String)) : JoinKeys := ⟨Assoc.ofPairs pairs⟩

def size (keys : JoinKeys) : Nat := keys.pairs.length

def isEmpty (keys : JoinKeys) : Bool := keys.pairs.isEmpty

theorem ofList_eq_foldl (pairs : List (String × String)) :
    ofList pairs = pairs.foldl (fun keys pair => keys.insert pair.1 pair.2) empty := by
  suffices ∀ start : List (String × String),
      (⟨pairs.foldl (fun entries pair => Assoc.put pair.1 pair.2 entries) start⟩ : JoinKeys) =
        pairs.foldl (fun keys pair => keys.insert pair.1 pair.2) ⟨start⟩ from this []
  induction pairs with
  | nil => exact fun _ => rfl
  | cons pair pairs ih => exact fun start => ih _

end JoinKeys

end FluentQuery
