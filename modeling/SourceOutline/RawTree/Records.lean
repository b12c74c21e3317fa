import SourceOutline.Json.Basic
import SourceOutline.RawTree

/-!
Raw trees as JSON: an array of records, one for each node in pre-order. A record holds the kind of its
node, the octet range, the row and the column of both ends, the flags and the number of children.
-/
namespace SourceOutline.RawTree

/-- Reads a record. The flags are 1 for an error and 2 for a missing node, added up. -/
def record? : Json → Option (RawNode × Nat)
  | .arr [.str kind, .int startByte, .int stopByte, .int startRow, .int startColumn, .int stopRow,
      .int stopColumn, .int flags, .int arity] =>
    let label : RawNode := {
      kind
      startByte := startByte.toNat
      stopByte := stopByte.toNat
      span := ⟨⟨startRow.toNat, startColumn.toNat⟩, ⟨stopRow.toNat, stopColumn.toNat⟩⟩
      hasError := flags % 2 == 1
      isMissing := flags / 2 % 2 == 1 }
    some (label, arity.toNat)
  | _ => none

/-- Reads a tree. -/
def ofJson? : Json → Option RawTree
  | .arr items => items.mapM record? >>= ofPreorder?
  | _ => none

end SourceOutline.RawTree
