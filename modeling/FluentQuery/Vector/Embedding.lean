import FluentQuery.Error
import FluentQuery.Number.Binary

/-!
Embeddings of texts as vectors of numbers, and an embedder that needs no model: it folds the
bytes of a text into the components.
-/
namespace FluentQuery.Vector

/-- Turns a text into a vector of the given dimension. -/
abbrev Embedder := String → Nat → Except Error (List Single)

/-- A byte as a part of the whole range. -/
def byteShare (byte : UInt8) : Single := Binary.ofFraction .single false byte.toNat 255

/-- Adds each byte's share to a component, going round them. -/
def foldBytes (dim : Nat) (bytes : List UInt8) : List Single :=
  bytes.zipIdx.foldl
    (fun components entry => components.modify (entry.2 % dim) (·.add (byteShare entry.1)))
    (List.replicate dim (.finite (.zero .single false)))

def foldEmbedder : Embedder := fun text dim =>
  if dim = 0 then .error .zeroDimension else .ok (foldBytes dim text.toUTF8.toList)

/-- The embedding of a text, if it has the dimension that was asked for. -/
def embed (embedder : Embedder) (text : String) (dim : Nat) : Except Error (List Single) := do
  let vector ← embedder text dim
  if vector.length = dim then return vector
  else throw (.dimensionMismatch dim vector.length)

end FluentQuery.Vector
