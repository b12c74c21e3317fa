import SourceOutline.Yaml.Graph
import SourceOutline.Yaml.Token

/-!
From the tokens of a YAML text to the one document that it holds. Each node is added as soon as its first
token has been met, a collection before what it holds, so that it can be referred to from within; tokens are
asked for one by one, so that of several faults the first one counts.
-/
namespace SourceOutline.Yaml

open Token (Kind)

/-- What handles stand for at the start of a tag. -/
abbrev Handles := List (List Char × List Char)

/-- The handles that need no directive. -/
def Handles.standard : Handles := [("!".toList, "!".toList), ("!!".toList, "tag:yaml.org,2002:".toList)]

/-- A document that is being put together, and the tokens that are left for it. -/
structure Draft where
  tokens : Tokens
  graph : Graph := {}

namespace Draft

/-- Goes past a token. -/
def advance (d : Draft) : Draft := { d with tokens := d.tokens.rest }

/-- Takes an anchor, if one stands next. -/
def anchor? (d : Draft) : Except Fault (Option (List Char × Mark) × Draft) := do
  let t ← d.tokens.peek
  match t.kind with
  | .anchor name => pure (some (name, t.place), d.advance)
  | _ => pure (none, d)

/-- Takes a tag with its handle, if one stands next. -/
def tag? (d : Draft) : Except Fault (Option (Option (List Char) × List Char × Mark) × Draft) := do
  let t ← d.tokens.peek
  match t.kind with
  | .tag handle rest => pure (some (handle, rest, t.place), d.advance)
  | _ => pure (none, d)

/-- Reads a tag in full. -/
def expand (handles : Handles) (start : Mark) :
    Option (List Char) × List Char × Mark → Except Fault (List Char)
  | (none, rest, _) => .ok rest
  | (some handle, rest, place) =>
    match handles.find? (·.1 == handle) with
    | some (_, text) => .ok (text ++ rest)
    | none =>
      .error (.within "while parsing a node" start place ("found undefined tag handle " ++ quoted handle))

/-- Reads an anchor and a tag, in either order. -/
def properties (handles : Handles) (d : Draft) : Except Fault (Properties × Draft) := do
  let (before, d) ← d.anchor?
  let (tag, d) ← d.tag?
  let (behind, d) ← if before.isNone && tag.isSome then d.anchor? else pure (none, d)
  let start := (before.map (·.2)).or (tag.map (·.2.2))
  let tag ← tag.mapM (expand handles (start.getD {}))
  pure ({ anchor := (before.or behind).map (·.1), tag, start }, d)

/-- Adds a node. -/
def add (d : Draft) (props : Properties) (v : Vertex) : Except Fault (Nat × Draft) := do
  let (n, graph) ← d.graph.add props.anchor v
  pure (n, { d with graph })

/-- Adds a node where nothing is written. -/
def addEmpty (d : Draft) (place : Mark) : Except Fault (Nat × Draft) :=
  d.add {} ⟨scalarTag {} [] true, .scalar [], place⟩

/-- Adds a sequence, and then what it holds. -/
def addSequence (d : Draft) (props : Properties) (place : Mark)
    (readItems : Draft → Except Fault (List Nat × Draft)) : Except Fault (Nat × Draft) := do
  let (n, d) ← d.add props ⟨collectionTag props .sequence, .sequence [], place⟩
  let (items, d) ← readItems d
  pure (n, { d with graph := d.graph.fill n (.sequence items) })

/-- Adds a mapping, and then what it holds. -/
def addMapping (d : Draft) (props : Properties) (place : Mark)
    (readEntries : Draft → Except Fault (List (Nat × Nat) × Draft)) : Except Fault (Nat × Draft) := do
  let (n, d) ← d.add props ⟨collectionTag props .mapping, .mapping [], place⟩
  let (entries, d) ← readEntries d
  pure (n, { d with graph := d.graph.fill n (.mapping entries) })

/-- The node that a name refers to. -/
def follow (d : Draft) (name : List Char) (place : Mark) : Except Fault (Nat × Draft) :=
  match d.graph.named? name with
  | some n => .ok (n, d)
  | none => .error (.plain place ("found undefined alias " ++ quoted name))

/-- What stands for a node without content: an empty scalar, if there is anything in front of it. -/
def addBare (d : Draft) (props : Properties) (block : Bool) (t : Token) : Except Fault (Nat × Draft) :=
  match props.start with
  | some place => d.add props ⟨scalarTag props [] true, .scalar [], place⟩
  | none =>
    .error (.within (if block then "while parsing a block node" else "while parsing a flow node")
      t.place t.place ("expected the node content, but found " ++ t.shown))

mutual

/--
Reads a node. Block collections are read only where they may stand, and a sequence that is indented no
further than the map around it only as a key or a value of that map.
-/
def read (handles : Handles) (block flush : Bool) : Nat → Draft → Except Fault (Nat × Draft)
  | 0, _ => .error default
  | fuel + 1, d => do
    let t ← d.tokens.peek
    match t.kind with
    | .reference name => d.advance.follow name t.place
    | _ => do
      let (props, d) ← properties handles d
      let t ← d.tokens.peek
      let place := props.start.getD t.place
      match t.kind, block, flush with
      | .scalar text plain, _, _ =>
        d.advance.add props ⟨scalarTag props text plain, .scalar text, place⟩
      | .flowSequenceStart, _, _ =>
        d.advance.addSequence props place (readFlowItems handles t.place true fuel)
      | .flowMappingStart, _, _ =>
        d.advance.addMapping props place (readFlowEntries handles t.place true fuel)
      | .blockEntry, _, true => d.addSequence props place (readFlushItems handles fuel)
      | .blockSequenceStart, true, _ =>
        d.advance.addSequence props place (readBlockItems handles t.place fuel)
      | .blockMappingStart, true, _ =>
        d.advance.addMapping props place (readBlockEntries handles t.place fuel)
      | _, _, _ => d.addBare props block t

/-- Reads a node, or nothing if one of the tokens that end an entry follows. -/
def readOptional (handles : Handles) (block flush : Bool) (ends : List Kind) (place : Mark) :
    Nat → Draft → Except Fault (Nat × Draft)
  | 0, _ => .error default
  | fuel + 1, d => do
    let t ← d.tokens.peek
    if ends.contains t.kind then d.addEmpty place else read handles block flush fuel d

/-- Reads the items of a block sequence up to its end. -/
def readBlockItems (handles : Handles) (start : Mark) : Nat → Draft → Except Fault (List Nat × Draft)
  | 0, _ => .error default
  | fuel + 1, d => do
    let t ← d.tokens.peek
    match t.kind with
    | .blockEntry => do
      let (item, d) ← readOptional handles true false [.blockEntry, .blockEnd] t.stop fuel d.advance
      let (items, d) ← readBlockItems handles start fuel d
      pure (item :: items, d)
    | .blockEnd => pure ([], d.advance)
    | _ =>
      .error (.within "while parsing a block collection" start t.place
        ("expected <block end>, but found " ++ t.shown))

/-- Reads the items of a sequence that is indented no further than the map around it. -/
def readFlushItems (handles : Handles) : Nat → Draft → Except Fault (List Nat × Draft)
  | 0, _ => .error default
  | fuel + 1, d => do
    let t ← d.tokens.peek
    match t.kind with
    | .blockEntry => do
      let (item, d) ←
        readOptional handles true false [.blockEntry, .key, .value, .blockEnd] t.stop fuel d.advance
      let (items, d) ← readFlushItems handles fuel d
      pure (item :: items, d)
    | _ => pure ([], d)

/-- Reads the entries of a block mapping up to its end. -/
def readBlockEntries (handles : Handles) (start : Mark) :
    Nat → Draft → Except Fault (List (Nat × Nat) × Draft)
  | 0, _ => .error default
  | fuel + 1, d => do
    let t ← d.tokens.peek
    match t.kind with
    | .key => do
      let (key, d) ← readOptional handles true true [.key, .value, .blockEnd] t.stop fuel d.advance
      let (value, d) ← readBlockValue handles fuel d
      let (entries, d) ← readBlockEntries handles start fuel d
      pure ((key, value) :: entries, d)
    | .blockEnd => pure ([], d.advance)
    | _ =>
      .error (.within "while parsing a block mapping" start t.place
        ("expected <block end>, but found " ++ t.shown))

/-- Reads the value of an entry of a block mapping. -/
def readBlockValue (handles : Handles) : Nat → Draft → Except Fault (Nat × Draft)
  | 0, _ => .error default
  | fuel + 1, d => do
    let t ← d.tokens.peek
    match t.kind with
    | .value => readOptional handles true true [.key, .value, .blockEnd] t.stop fuel d.advance
    | _ => d.addEmpty t.place

/-- Reads the value of an entry of a flow collection, which one of some tokens ends. -/
def readFlowValue (handles : Handles) (ends : List Kind) : Nat → Draft → Except Fault (Nat × Draft)
  | 0, _ => .error default
  | fuel + 1, d => do
    let t ← d.tokens.peek
    match t.kind with
    | .value => readOptional handles false false ends t.stop fuel d.advance
    | _ => d.addEmpty t.place

/-- Reads a key and its value in a flow collection, which one of some tokens ends. -/
def readFlowPair (handles : Handles) (ends : List Kind) (place : Mark) :
    Nat → Draft → Except Fault ((Nat × Nat) × Draft)
  | 0, _ => .error default
  | fuel + 1, d => do
    let (key, d) ← readOptional handles false false (.value :: ends) place fuel d
    let (value, d) ← readFlowValue handles ends fuel d
    pure ((key, value), d)

/-- Reads the items of a flow sequence up to its end. A key with a value is a mapping of one entry. -/
def readFlowItems (handles : Handles) (start : Mark) (first : Bool) :
    Nat → Draft → Except Fault (List Nat × Draft)
  | 0, _ => .error default
  | fuel + 1, d => do
    let t ← d.tokens.peek
    match t.kind, first with
    | .flowSequenceEnd, _ => pure ([], d.advance)
    | .flowEntry, false => readFlowItem handles start fuel d.advance
    | _, true => readFlowItem handles start fuel d
    | _, false =>
      .error (.within "while parsing a flow sequence" start t.place
        ("expected ',' or ']', but got " ++ t.shown))

/-- Reads an item of a flow sequence, unless the sequence ends, and the items behind it. -/
def readFlowItem (handles : Handles) (start : Mark) : Nat → Draft → Except Fault (List Nat × Draft)
  | 0, _ => .error default
  | fuel + 1, d => do
    let t ← d.tokens.peek
    match t.kind with
    | .flowSequenceEnd => pure ([], d.advance)
    | .key => do
      let (item, d) ← d.advance.addMapping {} t.place fun d => do
        let (entry, d) ← readFlowPair handles [.flowEntry, .flowSequenceEnd] t.stop fuel d
        pure ([entry], d)
      let (items, d) ← readFlowItems handles start false fuel d
      pure (item :: items, d)
    | _ => do
      let (item, d) ← read handles false false fuel d
      let (items, d) ← readFlowItems handles start false fuel d
      pure (item :: items, d)

/-- Reads the entries of a flow mapping up to its end. -/
def readFlowEntries (handles : Handles) (start : Mark) (first : Bool) :
    Nat → Draft → Except Fault (List (Nat × Nat) × Draft)
  | 0, _ => .error default
  | fuel + 1, d => do
    let t ← d.tokens.peek
    match t.kind, first with
    | .flowMappingEnd, _ => pure ([], d.advance)
    | .flowEntry, false => readFlowEntry handles start fuel d.advance
    | _, true => readFlowEntry handles start fuel d
    | _, false =>
      .error (.within "while parsing a flow mapping" start t.place
        ("expected ',' or '\x7d', but got " ++ t.shown))

/-- Reads an entry of a flow mapping, unless the mapping ends, and the entries behind it. -/
def readFlowEntry (handles : Handles) (start : Mark) :
    Nat → Draft → Except Fault (List (Nat × Nat) × Draft)
  | 0, _ => .error default
  | fuel + 1, d => do
    let t ← d.tokens.peek
    match t.kind with
    | .flowMappingEnd => pure ([], d.advance)
    | .key => do
      let (entry, d) ← readFlowPair handles [.flowEntry, .flowMappingEnd] t.stop fuel d.advance
      let (entries, d) ← readFlowEntries handles start false fuel d
      pure (entry :: entries, d)
    | _ => do
      let (key, d) ← read handles false false fuel d
      let t ← d.tokens.peek
      let (value, d) ← d.addEmpty t.place
      let (entries, d) ← readFlowEntries handles start false fuel d
      pure ((key, value) :: entries, d)

end

end Draft

/-- Reads the directives in front of a document: a version of YAML 1, and handles. -/
def readDirectives : Nat → Tokens → Bool → Handles → Except Fault (Handles × Tokens)
  | 0, ts, _, handles => .ok (handles, ts)
  | fuel + 1, ts, versionSeen, handles => do
    let t ← ts.peek
    match t.kind with
    | .version major =>
      if versionSeen then .error (.plain t.place "found duplicate YAML directive")
      else if major ≠ 1 then
        .error (.plain t.place "found incompatible YAML document (version 1.* is required)")
      else readDirectives fuel ts.rest true handles
    | .tagHandle handle text =>
      if handles.any (·.1 == handle) then
        .error (.plain t.place ("duplicate tag handle " ++ quoted handle))
      else readDirectives fuel ts.rest versionSeen (handles ++ [(handle, text)])
    | .reserved => readDirectives fuel ts.rest versionSeen handles
    | _ => pure (handles, ts)

/-- Reads the explicit start of a document, its directives before it. -/
def readStart (ts : Tokens) : Except Fault (Handles × Tokens) := do
  let (handles, ts) ← readDirectives (ts.list.length + 1) ts false []
  let t ← ts.peek
  match t.kind with
  | .documentStart => pure (handles ++ Handles.standard, ts.rest)
  | _ => .error (.plain t.place ("expected '<document start>', but found " ++ t.shown))

/-- Reads a document behind its explicit start. -/
def readExplicit (fuel : Nat) (ts : Tokens) : Except Fault (Nat × Draft) := do
  let (handles, tokens) ← readStart ts
  let t ← tokens.peek
  match t.kind with
  | .version _ | .tagHandle _ _ | .reserved | .documentStart | .documentEnd | .streamEnd =>
    Draft.addEmpty { tokens } t.place
  | _ => Draft.read handles true false fuel { tokens }

/-- The only document that some tokens hold, if they hold any, and the node that stands for all of it. -/
def document (tokens : Tokens) : Except Fault (Option (Nat × Graph)) := do
  let fuel := 3 * tokens.list.length + 8
  let t ← tokens.peek
  match t.kind with
  | .streamEnd => pure none
  | kind =>
    let (root, d) ←
      match kind with
      | .version _ | .tagHandle _ _ | .reserved | .documentStart => readExplicit fuel tokens
      | _ => Draft.read Handles.standard true false fuel { tokens }
    let behind := { d.tokens with list := d.tokens.list.dropWhile (·.kind == Kind.documentEnd) }
    let t ← behind.peek
    match t.kind with
    | .streamEnd => pure (some (root, d.graph))
    | _ => do
      let _ ← readStart behind
      .error (.within "expected a single document in the stream" (d.graph.place root) t.place
        "but found another document")

end SourceOutline.Yaml
