import SourceOutline.Yaml.Document
import SourceOutline.Yaml.Scalar
import SourceOutline.Yaml.TokenStream

/-!
What the nodes of a YAML document denote. Scalars are read where they are first met, and collections
wait in line until those that were met before them are done, so that of several faults the one that is
least deep counts.
-/
namespace SourceOutline.Yaml

/-- What a node denotes, its parts being named by their nodes. -/
inductive Shape where
  | atom (a : Atom)
  | list (items : List Nat)
  | map (entries : List (Atom × Nat))
  | set (members : List Atom)
  | pairs (entries : List (Nat × Nat))
deriving Inhabited

namespace Graph

/-- The fault of a node that has the wrong kind of content. -/
def unfit (g : Graph) (n : Nat) (wanted : String) : Fault :=
  .plain (g.place n) ("expected a " ++ wanted ++ " node, but found " ++ (g.content n).kindName)

/-- The text of a scalar. A mapping may stand for the scalar that it has under its value key. -/
def scalarText (g : Graph) : Nat → Nat → Except Fault (List Text.Symbol)
  | 0, _ => .error .endless
  | fuel + 1, n =>
    match g.content n with
    | .scalar text => .ok text
    | .sequence _ => .error (g.unfit n "scalar")
    | .mapping entries =>
      match entries.find? fun entry => g.tag entry.1 == .value with
      | some (_, v) => scalarText g fuel v
      | none => .error (g.unfit n "scalar")

/-- What entries are read in the course of. -/
def inMapping : String := "while constructing a mapping"

/--
The entries of a mapping, behind those that it takes over from other mappings; of several mappings in a
list, the last one comes first. A mapping that takes over itself takes over only what it has of its own.
-/
def entries (g : Graph) : Nat → List Nat → Nat → Except Fault (List (Nat × Nat))
  | 0, _, _ => .error .endless
  | fuel + 1, path, n =>
    let unfitFor (m : Nat) (wanted : String) : Fault :=
      .within inMapping (g.place n) (g.place m)
        ("expected a " ++ wanted ++ " for merging, but found " ++ (g.content m).kindName)
    match g.content n with
    | .mapping all => do
      let own := all.filter fun entry => g.tag entry.1 != .merge
      if path.contains n then pure own
      else
        let taken ← (all.filter fun entry => g.tag entry.1 == .merge).mapM fun entry =>
          match g.content entry.2 with
          | .mapping _ => entries g fuel (n :: path) entry.2
          | .sequence items => do
            let lists ← items.mapM fun item =>
              match g.content item with
              | .mapping _ => entries g fuel (n :: path) item
              | _ => .error (unfitFor item "mapping")
            pure lists.reverse.flatten
          | .scalar _ => .error (unfitFor entry.2 "mapping or list of mappings")
        pure (taken.flatten ++ own)
    | _ => .error (g.unfit n "mapping")

end Graph

/-- The nodes that have been met: their shapes, and the collections whose parts are still to be read. -/
structure Meaning where
  shapes : Array (Option Shape)
  waiting : List Nat := []

namespace Meaning

def shape? (m : Meaning) (n : Nat) : Option Shape := (m.shapes[n]?).join

def setShape (m : Meaning) (n : Nat) (shape : Shape) : Meaning :=
  { m with shapes := m.shapes.setIfInBounds n (some shape) }

/-- Meets a collection: it is empty at first and waits for its turn. -/
def postpone (m : Meaning) (n : Nat) (shape : Shape) : Shape × Meaning :=
  let m := m.setShape n shape
  (shape, { m with waiting := m.waiting ++ [n] })

/-- Meets a node, unless it has been met before. -/
def meet (m : Meaning) (g : Graph) (n : Nat) : Except Fault (Shape × Meaning) :=
  match m.shape? n with
  | some shape => .ok (shape, m)
  | none =>
    match g.tag n with
    | .sequence => .ok (m.postpone n (.list []))
    | .orderedMap | .pairs => .ok (m.postpone n (.pairs []))
    | .set => .ok (m.postpone n (.set []))
    | .mapping => .ok (m.postpone n (.map []))
    | .merge | .value | .unknown _ => .error (undefinedTag (g.place n) (g.tag n))
    | .timestamp => do
      let text ← g.scalarText (g.vertices.size + 1) n
      match g.content n with
      | .scalar _ =>
        let a ← scalarAtom (g.place n) .timestamp text
        pure (.atom a, m.setShape n (.atom a))
      | _ => .error .timeOfMap
    | tag => do
      let text ← g.scalarText (g.vertices.size + 1) n
      let a ← scalarAtom (g.place n) tag text
      pure (.atom a, m.setShape n (.atom a))

/-- Meets a key of a mapping at a place; it has to be an atom. A value key is a text where it stands as a
key. -/
def meetKey (m : Meaning) (g : Graph) (owner : Mark) (n : Nat) : Except Fault (Atom × Meaning) :=
  match g.tag n, g.content n with
  | .value, .scalar text => .ok (.text text, m.setShape n (.atom (.text text)))
  | _, _ => do
    let (shape, m) ← m.meet g n
    match shape with
    | .atom a => pure (a, m)
    | _ => .error (.within Graph.inMapping owner (g.place n) "found unhashable key")

def meetAll (m : Meaning) (g : Graph) : List Nat → Except Fault Meaning
  | [] => .ok m
  | n :: ns => do
    let (_, m) ← m.meet g n
    m.meetAll g ns

/-- Meets the keys and values of the entries of a mapping at a place. Of two entries with the same key the
first gives the place and the last the value. -/
def meetEntries (m : Meaning) (g : Graph) (owner : Mark) :
    List (Nat × Nat) → List (Atom × Nat) → Except Fault (List (Atom × Nat) × Meaning)
  | [], found => .ok (found, m)
  | (k, v) :: rest, found => do
    let (key, m) ← m.meetKey g owner k
    let (_, m) ← m.meet g v
    m.meetEntries g owner rest (putEntry found key v)

/-- Meets the items of a list of pairs, each a mapping of one entry. -/
def meetPairs (m : Meaning) (g : Graph) (fail : Nat → String → Fault) :
    List Nat → List (Nat × Nat) → Except Fault (List (Nat × Nat) × Meaning)
  | [], found => .ok (found.reverse, m)
  | n :: rest, found =>
    match g.content n with
    | .mapping [(k, v)] => do
      let (_, m) ← m.meet g k
      let (_, m) ← m.meet g v
      m.meetPairs g fail rest ((k, v) :: found)
    | .mapping entries =>
      .error (fail n ("a single mapping item, but found " ++ Nat.repr entries.length ++ " items"))
    | content => .error (fail n ("a mapping of length 1, but found " ++ content.kindName))

/-- Reads the parts of a collection. -/
def readParts (m : Meaning) (g : Graph) (n : Nat) : Except Fault Meaning :=
  match g.tag n with
  | .mapping => do
    let entries ← g.entries (g.vertices.size + 1) [] n
    let (found, m) ← m.meetEntries g (g.place n) entries []
    pure (m.setShape n (.map found))
  | .set => do
    let entries ← g.entries (g.vertices.size + 1) [] n
    let (found, m) ← m.meetEntries g (g.place n) entries []
    pure (m.setShape n (.set (found.map (·.1))))
  | .sequence =>
    match g.content n with
    | .sequence items => do
      let m ← m.meetAll g items
      pure (m.setShape n (.list items))
    | _ => .error (g.unfit n "sequence")
  | tag =>
    let context := if tag = .pairs then "while constructing pairs" else "while constructing an ordered map"
    let fail (item : Nat) (wanted : String) : Fault :=
      .within context (g.place n) (g.place item) ("expected " ++ wanted)
    match g.content n with
    | .sequence items => do
      let (found, m) ← m.meetPairs g fail items []
      pure (m.setShape n (.pairs found))
    | content => .error (fail n ("a sequence, but found " ++ content.kindName))

/-- Reads the parts of the collections in line, until none is left. -/
def run (g : Graph) : Nat → Meaning → Except Fault Meaning
  | 0, m => .ok m
  | fuel + 1, m =>
    match m.waiting with
    | [] => .ok m
    | n :: waiting => do
      let m ← { m with waiting }.readParts g n
      run g fuel m

/-- What all nodes of a document denote. -/
def ofGraph (g : Graph) (root : Nat) : Except Fault Meaning := do
  let (_, m) ← { shapes := Array.replicate g.vertices.size none : Meaning }.meet g root
  run g (g.vertices.size + 1) m

end Meaning

/-- A value, and whether it was cut because it stands inside itself. -/
structure Unfolded where
  value : Value
  wasCut : Bool
deriving Inhabited

/-- The values that have been put together already and hold no cut. -/
abbrev Values := Array (Option Value)

namespace Meaning

/-- Keeps the value of a node, unless it was cut. -/
def keep (values : Values) (n : Nat) (u : Unfolded) : Unfolded × Values :=
  (u, if u.wasCut then values else values.setIfInBounds n (some u.value))

/-- Puts values together one after the other. -/
def unfoldEach (unfold : Nat → Values → Unfolded × Values) :
    List Nat → Values → List Value × Bool × Values
  | [], values => ([], false, values)
  | n :: ns, values =>
    let (u, values) := unfold n values
    let (us, wasCut, values) := unfoldEach unfold ns values
    (u.value :: us, u.wasCut || wasCut, values)

/-- Puts the value of a node together. The nodes around it are given by `path`. -/
def unfold (m : Meaning) : Nat → List Nat → Nat → Values → Unfolded × Values
  | 0, _, _, values => (⟨.null, true⟩, values)
  | fuel + 1, path, n, values =>
    match (values[n]?).join with
    | some value => (⟨value, false⟩, values)
    | none =>
      match m.shape? n with
      | none => (⟨.null, false⟩, values)
      | some (.atom a) => keep values n ⟨.atom a, false⟩
      | some (.set members) => keep values n ⟨.set members, false⟩
      | some (.list items) =>
        if path.contains n then (⟨.listAgain, true⟩, values)
        else
          let (parts, wasCut, values) := unfoldEach (unfold m fuel (n :: path)) items values
          keep values n ⟨.list parts, wasCut⟩
      | some (.map entries) =>
        if path.contains n then (⟨.mapAgain, true⟩, values)
        else
          let (parts, wasCut, values) :=
            unfoldEach (unfold m fuel (n :: path)) (entries.map (·.2)) values
          keep values n ⟨.map ((entries.map (·.1)).zip parts), wasCut⟩
      | some (.pairs entries) =>
        if path.contains n then (⟨.listAgain, true⟩, values)
        else
          let (keys, keysCut, values) :=
            unfoldEach (unfold m fuel (n :: path)) (entries.map (·.1)) values
          let (parts, partsCut, values) :=
            unfoldEach (unfold m fuel (n :: path)) (entries.map (·.2)) values
          keep values n ⟨.pairs (keys.zip parts), keysCut || partsCut⟩

/-- The value of a node. So many maps deep each entry is put together on its own, and is cut only where
it stands inside itself. -/
def value (m : Meaning) : Nat → Nat → Value
  | 0, n => (m.unfold (m.shapes.size + 1) [] n (Array.replicate m.shapes.size none)).1.value
  | depth + 1, n =>
    match m.shape? n with
    | some (.map entries) => .map (entries.map fun (key, part) => (key, m.value depth part))
    | _ => m.value 0 n

end Meaning

/-- The value that a YAML text denotes; a text without any document denotes null. What is looked up in
it lies at most two maps deep. -/
def load (source : Source) : Except Fault Value := do
  match ← document (tokens source) with
  | none => pure .null
  | some (root, g) =>
    let m ← Meaning.ofGraph g root
    pure (m.value 2 root)

end SourceOutline.Yaml
