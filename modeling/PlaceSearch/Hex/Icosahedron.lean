-- SUMMARY: The icosahedron under the cells: faces, their neighbors, and the home of every base cell.
import PlaceSearch.Hex.Lattice

/-!
# The icosahedron

Cells lie on the twenty faces of an icosahedron, each with a lattice of its own
around the face center. A lattice point beyond an edge belongs to the neighbor
face, whose lattice is turned and shifted against this one.
-/

namespace PlaceSearch.Hex

/-- A lattice point of a face. -/
structure FacePoint where
  face : Nat
  coord : Ijk
deriving DecidableEq, Repr

/-- The three edges of a face, named by the axes between which they lie. -/
inductive Edge where
  | ij
  | ki
  | jk
deriving DecidableEq, Repr

/-- The faces beyond the edges `ij`, `ki` and `jk` of each face. -/
def neighborFaces : List (Nat × Nat × Nat) := [
  (4, 1, 5), (0, 2, 6), (1, 3, 7), (2, 4, 8), (3, 0, 9), (10, 14, 0), (11, 10, 1), (12, 11, 2),
  (13, 12, 3), (14, 13, 4), (5, 6, 15), (6, 7, 16), (7, 8, 17), (8, 9, 18), (9, 5, 19),
  (16, 19, 10), (17, 15, 11), (18, 16, 12), (19, 17, 13), (15, 18, 14)]

/-- The face beyond an edge. -/
def neighborFace (face : Nat) (edge : Edge) : Nat :=
  let (ij, ki, jk) := neighborFaces.getD face (0, 0, 0)
  match edge with
  | .ij => ij
  | .ki => ki
  | .jk => jk

/-- The edge between a face and one of its neighbors. -/
def edgeTowards (face other : Nat) : Edge :=
  let (ij, _, jk) := neighborFaces.getD face (0, 0, 0)
  if other = ij then .ij else if other = jk then .jk else .ki

/-- How the lattice beyond an edge is turned (sixths of a turn counterclockwise)
    and shifted. The five faces around either pole meet their like at a turn of
    one sixth, all other faces meet at half a turn. -/
def neighborLattice (face : Nat) (edge : Edge) : Nat × Ijk :=
  let polar := face < 5 || 15 ≤ face
  match edge with
  | .jk => (3, ⟨0, 2, 2⟩)
  | .ij => if polar then (1, ⟨2, 0, 2⟩) else (3, ⟨2, 2, 0⟩)
  | .ki => if polar then (5, ⟨2, 2, 0⟩) else (3, ⟨2, 0, 2⟩)

/-- Where a face lies: latitude and longitude of its center and the azimuth of
    its first axis, in radians. -/
structure FacePlace where
  lat : Float
  lng : Float
  azimuth : Float

/-- The twenty faces. -/
def facePlaces : List FacePlace := [
  ⟨0.803582649718989942, 1.248397419617396099, 5.619958268523939882⟩,
  ⟨1.307747883455638156, 2.536945009877921159, 5.760339081714187279⟩,
  ⟨1.054751253523952054, -1.347517358900396623, 0.780213654393430055⟩,
  ⟨0.600191595538186799, -0.450603909469755746, 0.430469363979999913⟩,
  ⟨0.491715428198773866, 0.401988202911306943, 6.130269123335111400⟩,
  ⟨0.172745327415618701, 1.678146885280433686, 2.692877706530642877⟩,
  ⟨0.605929321571350690, 2.953923329812411617, 2.982963003477243874⟩,
  ⟨0.427370518328979641, -1.888876200336285401, 3.532912002790141181⟩,
  ⟨-0.079066118549212831, -0.733429513380867741, 3.494305004259568154⟩,
  ⟨-0.230961644455383637, 0.506495587332349035, 3.003214169499538391⟩,
  ⟨0.079066118549212831, 2.408163140208925497, 5.930472956509811562⟩,
  ⟨0.230961644455383637, -2.635097066257444203, 0.138378484090254847⟩,
  ⟨-0.172745327415618701, -1.463445768309359553, 0.448714947059150361⟩,
  ⟨-0.605929321571350690, -0.187669323777381622, 0.158629650112549365⟩,
  ⟨-0.427370518328979641, 1.252716453253507838, 5.891865957979238535⟩,
  ⟨-0.600191595538186799, 2.690988744120037492, 2.711123289609793325⟩,
  ⟨-0.491715428198773866, -2.739604450678486295, 3.294508837434268316⟩,
  ⟨-0.803582649718989942, -1.893195233972397139, 3.804819692245439833⟩,
  ⟨-1.307747883455638156, -0.604647643711872080, 3.664438879055192436⟩,
  ⟨-1.054751253523952054, 1.794075294689396615, 2.361378999196363184⟩]

/-- Where a face lies. -/
def facePlace (face : Nat) : FacePlace := facePlaces.getD face ⟨0, 0, 0⟩

/-- The face and the coarsest lattice point of each of the 122 base cells. -/
def baseCells : List FacePoint := [
  ⟨1, ⟨1, 0, 0⟩⟩, ⟨2, ⟨1, 1, 0⟩⟩, ⟨1, ⟨0, 0, 0⟩⟩, ⟨2, ⟨1, 0, 0⟩⟩, ⟨0, ⟨2, 0, 0⟩⟩, ⟨1, ⟨1, 1, 0⟩⟩,
  ⟨1, ⟨0, 0, 1⟩⟩, ⟨2, ⟨0, 0, 0⟩⟩, ⟨0, ⟨1, 0, 0⟩⟩, ⟨2, ⟨0, 1, 0⟩⟩, ⟨1, ⟨0, 1, 0⟩⟩, ⟨1, ⟨0, 1, 1⟩⟩,
  ⟨3, ⟨1, 0, 0⟩⟩, ⟨3, ⟨1, 1, 0⟩⟩, ⟨11, ⟨2, 0, 0⟩⟩, ⟨4, ⟨1, 0, 0⟩⟩, ⟨0, ⟨0, 0, 0⟩⟩,
  ⟨6, ⟨0, 1, 0⟩⟩, ⟨0, ⟨0, 0, 1⟩⟩, ⟨2, ⟨0, 1, 1⟩⟩, ⟨7, ⟨0, 0, 1⟩⟩, ⟨2, ⟨0, 0, 1⟩⟩, ⟨0, ⟨1, 1, 0⟩⟩,
  ⟨6, ⟨0, 0, 1⟩⟩, ⟨10, ⟨2, 0, 0⟩⟩, ⟨6, ⟨0, 0, 0⟩⟩, ⟨3, ⟨0, 0, 0⟩⟩, ⟨11, ⟨1, 0, 0⟩⟩,
  ⟨4, ⟨1, 1, 0⟩⟩, ⟨3, ⟨0, 1, 0⟩⟩, ⟨0, ⟨0, 1, 1⟩⟩, ⟨4, ⟨0, 0, 0⟩⟩, ⟨5, ⟨0, 1, 0⟩⟩, ⟨0, ⟨0, 1, 0⟩⟩,
  ⟨7, ⟨0, 1, 0⟩⟩, ⟨11, ⟨1, 1, 0⟩⟩, ⟨7, ⟨0, 0, 0⟩⟩, ⟨10, ⟨1, 0, 0⟩⟩, ⟨12, ⟨2, 0, 0⟩⟩,
  ⟨6, ⟨1, 0, 1⟩⟩, ⟨7, ⟨1, 0, 1⟩⟩, ⟨4, ⟨0, 0, 1⟩⟩, ⟨3, ⟨0, 0, 1⟩⟩, ⟨3, ⟨0, 1, 1⟩⟩, ⟨4, ⟨0, 1, 0⟩⟩,
  ⟨6, ⟨1, 0, 0⟩⟩, ⟨11, ⟨0, 0, 0⟩⟩, ⟨8, ⟨0, 0, 1⟩⟩, ⟨5, ⟨0, 0, 1⟩⟩, ⟨14, ⟨2, 0, 0⟩⟩,
  ⟨5, ⟨0, 0, 0⟩⟩, ⟨12, ⟨1, 0, 0⟩⟩, ⟨10, ⟨1, 1, 0⟩⟩, ⟨4, ⟨0, 1, 1⟩⟩, ⟨12, ⟨1, 1, 0⟩⟩,
  ⟨7, ⟨1, 0, 0⟩⟩, ⟨11, ⟨0, 1, 0⟩⟩, ⟨10, ⟨0, 0, 0⟩⟩, ⟨13, ⟨2, 0, 0⟩⟩, ⟨10, ⟨0, 0, 1⟩⟩,
  ⟨11, ⟨0, 0, 1⟩⟩, ⟨9, ⟨0, 1, 0⟩⟩, ⟨8, ⟨0, 1, 0⟩⟩, ⟨6, ⟨2, 0, 0⟩⟩, ⟨8, ⟨0, 0, 0⟩⟩,
  ⟨9, ⟨0, 0, 1⟩⟩, ⟨14, ⟨1, 0, 0⟩⟩, ⟨5, ⟨1, 0, 1⟩⟩, ⟨16, ⟨0, 1, 1⟩⟩, ⟨8, ⟨1, 0, 1⟩⟩,
  ⟨5, ⟨1, 0, 0⟩⟩, ⟨12, ⟨0, 0, 0⟩⟩, ⟨7, ⟨2, 0, 0⟩⟩, ⟨12, ⟨0, 1, 0⟩⟩, ⟨10, ⟨0, 1, 0⟩⟩,
  ⟨9, ⟨0, 0, 0⟩⟩, ⟨13, ⟨1, 0, 0⟩⟩, ⟨16, ⟨0, 0, 1⟩⟩, ⟨15, ⟨0, 1, 1⟩⟩, ⟨15, ⟨0, 1, 0⟩⟩,
  ⟨16, ⟨0, 1, 0⟩⟩, ⟨14, ⟨1, 1, 0⟩⟩, ⟨13, ⟨1, 1, 0⟩⟩, ⟨5, ⟨2, 0, 0⟩⟩, ⟨8, ⟨1, 0, 0⟩⟩,
  ⟨14, ⟨0, 0, 0⟩⟩, ⟨9, ⟨1, 0, 1⟩⟩, ⟨14, ⟨0, 0, 1⟩⟩, ⟨17, ⟨0, 0, 1⟩⟩, ⟨12, ⟨0, 0, 1⟩⟩,
  ⟨16, ⟨0, 0, 0⟩⟩, ⟨17, ⟨0, 1, 1⟩⟩, ⟨15, ⟨0, 0, 1⟩⟩, ⟨16, ⟨1, 0, 1⟩⟩, ⟨9, ⟨1, 0, 0⟩⟩,
  ⟨15, ⟨0, 0, 0⟩⟩, ⟨13, ⟨0, 0, 0⟩⟩, ⟨8, ⟨2, 0, 0⟩⟩, ⟨13, ⟨0, 1, 0⟩⟩, ⟨17, ⟨1, 0, 1⟩⟩,
  ⟨19, ⟨0, 1, 0⟩⟩, ⟨14, ⟨0, 1, 0⟩⟩, ⟨19, ⟨0, 1, 1⟩⟩, ⟨17, ⟨0, 1, 0⟩⟩, ⟨13, ⟨0, 0, 1⟩⟩,
  ⟨17, ⟨0, 0, 0⟩⟩, ⟨16, ⟨1, 0, 0⟩⟩, ⟨9, ⟨2, 0, 0⟩⟩, ⟨15, ⟨1, 0, 1⟩⟩, ⟨15, ⟨1, 0, 0⟩⟩,
  ⟨18, ⟨0, 1, 1⟩⟩, ⟨18, ⟨0, 0, 1⟩⟩, ⟨19, ⟨0, 0, 1⟩⟩, ⟨17, ⟨1, 0, 0⟩⟩, ⟨19, ⟨0, 0, 0⟩⟩,
  ⟨18, ⟨0, 1, 0⟩⟩, ⟨18, ⟨1, 0, 1⟩⟩, ⟨19, ⟨2, 0, 0⟩⟩, ⟨19, ⟨1, 0, 0⟩⟩, ⟨18, ⟨0, 0, 0⟩⟩,
  ⟨19, ⟨1, 0, 1⟩⟩, ⟨18, ⟨1, 0, 0⟩⟩]

/-- The home of a base cell. -/
def homeOf (base : Nat) : FacePoint := baseCells.getD base ⟨0, ⟨0, 0, 0⟩⟩

end PlaceSearch.Hex
