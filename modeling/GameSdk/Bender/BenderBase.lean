import Mathlib.Data.List.Nodup
import Mathlib.Data.Nat.Pairing

/-!
# Polyhedra of the bender-base sample

`createPolyhedron` of `polyhedron.cc` picks the vertex and index tables of one of the five
Platonic solids by its number of faces, and gives `nullptr` for any other number. The vertex
floats are kept as their number only, eleven to a vertex; the `Mesh` built from the tables is
not under `src/`. The mesh check is a `Bool` function evaluated by `decide`, with the edges kept
as the bits of one number so that the kernel's arithmetic does the work.
-/

namespace Bender

end Bender
