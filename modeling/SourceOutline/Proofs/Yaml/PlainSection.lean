import Mathlib.Data.List.Forall2
import SourceOutline.Proofs.Yaml.PlainLines
import SourceOutline.Yaml.Meaning

/-! What a section of plain lines denotes. Its words are read as scalars of their own form, so the section
is a map from its name to the map of its keys, in the order of the lines; a section without lines is null. -/
namespace SourceOutline.Yaml

/-- A section as a value: a map of its name to null or to the map of its keys. -/
def sectionValue (name : Atom) (atoms : List (Atom × Atom)) : Value :=
  .map [(name, if atoms.isEmpty then .null else .map (atoms.map fun a => (a.1, .atom a.2)))]

/-- What a word denotes as a plain scalar, wherever it stands. -/
def Means (w : List Char) (a : Atom) : Prop :=
  ∀ place, scalarAtom place (Tag.ofForm w) (w.map .char) = .ok a

/-- Words of keys and values mean the atoms of entries. -/
def MeanEntries (entries : List (List Char × List Char)) (atoms : List (Atom × Atom)) : Prop :=
  List.Forall₂ (fun e a => Means e.1 a.1 ∧ Means e.2 a.2) entries atoms

namespace Graph
variable {g g' g'' : Graph} {n m : ℕ} {a : Atom} {nodes : List (ℕ × ℕ)} {atoms : List (Atom × Atom)}

/-- A node of a document is a scalar that denotes an atom. -/
def Denotes (g : Graph) (n : ℕ) (a : Atom) : Prop :=
  ∃ tag text place, g.vertices[n]? = some ⟨tag, .scalar text, place⟩ ∧ scalarAtom place tag text = .ok a

/-- A node of a document is a mapping of certain nodes. -/
def IsMapping (g : Graph) (n : ℕ) (nodes : List (ℕ × ℕ)) : Prop :=
  ∃ place, g.vertices[n]? = some ⟨.mapping, .mapping nodes, place⟩

/-- Nodes of keys and values denote the atoms of entries. -/
def DenoteEntries (g : Graph) (nodes : List (ℕ × ℕ)) (atoms : List (Atom × Atom)) : Prop :=
  List.Forall₂ (fun n a => g.Denotes n.1 a.1 ∧ g.Denotes n.2 a.2) nodes atoms

/-- A node of a document is what a section holds: null, or the mapping of its keys. -/
def HoldsEntries (g : Graph) (v : ℕ) (atoms : List (Atom × Atom)) : Prop :=
  atoms = [] ∧ g.Denotes v .null ∨ atoms ≠ [] ∧ ∃ nodes, g.IsMapping v nodes ∧ g.DenoteEntries nodes atoms

/-- A section as it is in a document: a mapping of its name to what it holds. -/
def HoldsSection (g : Graph) (root : ℕ) (name : Atom) (atoms : List (Atom × Atom)) : Prop :=
  ∃ k v, g.IsMapping root [(k, v)] ∧ g.Denotes k name ∧ root ≠ v ∧ g.HoldsEntries v atoms

/-- What has been added to a document stays in it. -/
def Extends (g g' : Graph) : Prop :=
  ∀ (n : ℕ) (v : Vertex), g.vertices[n]? = some v → g'.vertices[n]? = some v

lemma Extends.refl (g : Graph) : g.Extends g := fun _ _ h => h

lemma Extends.trans (h : g.Extends g') (h' : g'.Extends g'') : g.Extends g'' :=
  fun n v hn => h' n v (h n v hn)

lemma Extends.denotes (h : g.Extends g') (ha : g.Denotes n a) : g'.Denotes n a := by
  obtain ⟨tag,text,place,hv,htext⟩ := ha
  exact ⟨tag,text,place,h n _ hv,htext⟩

lemma Denotes.unique {b : Atom} (ha : g.Denotes n a) (hb : g.Denotes n b) : a = b := by
  obtain ⟨tag,text,place,hv,htext⟩ := ha
  obtain ⟨tag',text',place',hv',htext'⟩ := hb
  cases hv.symm.trans hv'
  exact Except.ok.inj (htext.symm.trans htext')

/-- A mapping is no scalar. -/
lemma Denotes.ne_mapping (ha : g.Denotes m a) (hn : g.IsMapping n nodes) : m ≠ n := by
  rintro rfl
  obtain ⟨tag,text,place,hv,-⟩ := ha
  obtain ⟨place',hv'⟩ := hn
  cases hv.symm.trans hv'

lemma IsMapping.lt_size (h : g.IsMapping n nodes) : n < g.vertices.size := by
  obtain ⟨place,hv⟩ := h
  exact (Array.getElem?_eq_some_iff.mp hv).1

/-- A node without an anchor is added behind all others. -/
lemma add_none (g : Graph) (v : Vertex) :
    ∃ g', g.add none v = .ok (g.vertices.size, g') ∧ g.Extends g' ∧
      g'.vertices[g.vertices.size]? = some v := by
  refine ⟨_,rfl,?_,?_⟩
  · intro n u hn
    have hlt := (Array.getElem?_eq_some_iff.mp hn).1
    rwa [Array.getElem?_push, if_neg (Nat.ne_of_lt hlt)]
  · simp

/-- One document comes of another when what a mapping holds is set; nothing else changes. -/
structure Fills (g g' : Graph) (n : ℕ) (nodes : List (ℕ × ℕ)) : Prop where
  mapping : g'.IsMapping n nodes
  others : ∀ (k : ℕ) (v : Vertex), k ≠ n → g.vertices[k]? = some v → g'.vertices[k]? = some v
  denotes : ∀ (k : ℕ) (a : Atom), g.Denotes k a → g'.Denotes k a

lemma fills_fill (h : g.IsMapping n []) (nodes : List (ℕ × ℕ)) :
    g.Fills (g.fill n (.mapping nodes)) n nodes := by
  have hothers : ∀ (k : ℕ) (v : Vertex), k ≠ n → g.vertices[k]? = some v →
      (g.fill n (.mapping nodes)).vertices[k]? = some v := by
    intro k v hk hv
    rw [fill, Array.getElem?_modify, if_neg (Ne.symm hk), hv]
  constructor
  case mapping =>
    obtain ⟨place,hv⟩ := h
    refine ⟨place,?_⟩
    rw [fill, Array.getElem?_modify, if_pos rfl, hv]
    rfl
  case others => exact hothers
  case denotes =>
    intro k a ha
    have hk := ha.ne_mapping h
    obtain ⟨tag,text,place,hv,htext⟩ := ha
    exact ⟨tag,text,place,hothers k _ hk hv,htext⟩

lemma Fills.extends (h : g.Extends g') (hfills : g'.Fills g'' g.vertices.size nodes) : g.Extends g'' := by
  intro k v hv
  have hlt := (Array.getElem?_eq_some_iff.mp hv).1
  exact hfills.others k v (Nat.ne_of_lt hlt) (h k v hv)

lemma Fills.isMapping {nodes' : List (ℕ × ℕ)} (h : g.Fills g' n nodes) (hm : g.IsMapping m nodes')
    (hne : m ≠ n) : g'.IsMapping m nodes' := by
  obtain ⟨place,hv⟩ := hm
  exact ⟨place,h.others m _ hne hv⟩

lemma Fills.denoteEntries {nodes' : List (ℕ × ℕ)} (h : g.Fills g' n nodes)
    (hm : g.DenoteEntries nodes' atoms) : g'.DenoteEntries nodes' atoms :=
  hm.imp fun _ _ hna => ⟨h.denotes _ _ hna.1,h.denotes _ _ hna.2⟩

lemma Fills.holdsEntries (h : g.Fills g' n nodes) (hm : g.HoldsEntries m atoms) (hne : m ≠ n) :
    g'.HoldsEntries m atoms := by
  rcases hm with ⟨hatoms,hnull⟩ | ⟨hatoms,nodes',hmapping,hentries⟩
  · exact Or.inl ⟨hatoms,h.denotes _ _ hnull⟩
  · exact Or.inr ⟨hatoms,nodes',h.isMapping hmapping hne,h.denoteEntries hentries⟩

end Graph

lemma chars?_map_char (w : List Char) : Text.chars? (w.map .char) = some w := by
  have h := Text.chars?_symbols (String.ofList w)
  rwa [Text.symbols, String.toList_ofList] at h

lemma scalarTag_word (w : List Char) : scalarTag {} (w.map .char) true = Tag.ofForm w := by
  simp only [scalarTag, chars?_map_char]
  rfl

lemma exists_eq_cons_of_map_kind {ts : List Token} {kind : Token.Kind} {kinds : List Token.Kind}
    (h : ts.map Token.kind = kind :: kinds) :
    ∃ place width rest, ts = ⟨kind, place, width⟩ :: rest ∧ rest.map Token.kind = kinds := by
  obtain ⟨t,rest,rfl,rfl,hrest⟩ := List.map_eq_cons_iff.mp h
  exact ⟨t.place,t.width,rest,rfl,hrest⟩

namespace Draft
variable {handles : Handles} {fuel : ℕ} {ts : List Token} {ending : Except Fault Mark} {g g₁ : Graph}
  {start place : Mark} {w : List Char} {a : Atom}

/-- A word is read as a scalar that is added behind all other nodes. -/
lemma read_word (handles : Handles) (block flush : Bool) (fuel width : ℕ) (place : Mark) (ts : List Token)
    (ending : Except Fault Mark) (g : Graph) (h : Means w a) : ∃ g', g.Extends g' ∧
      read handles block flush (fuel + 1) ⟨⟨⟨.scalar (w.map .char) true, place, width⟩ :: ts, ending⟩, g⟩ =
        .ok (g.vertices.size, ⟨⟨ts, ending⟩, g'⟩) ∧
      g'.Denotes g.vertices.size a := by
  obtain ⟨g',hadd,hextends,hv⟩ := g.add_none ⟨Tag.ofForm w, .scalar (w.map .char), place⟩
  refine ⟨g',hextends,?_,_,_,_,hv,h place⟩
  have hread : read handles block flush (fuel + 1)
      ⟨⟨⟨.scalar (w.map .char) true, place, width⟩ :: ts, ending⟩, g⟩ =
        (⟨⟨ts, ending⟩, g⟩ : Draft).add {}
          ⟨scalarTag {} (w.map .char) true, .scalar (w.map .char), place⟩ := rfl
  rw [hread, scalarTag_word, add, hadd]
  rfl

/-- A mapping is added first, then all that it holds, and then it is filled. -/
lemma read_mapping (handles : Handles) (flush : Bool) (fuel width : ℕ) (place : Mark) (ts : List Token)
    (ending : Except Fault Mark) (g : Graph) :
    ∃ g₁, g.Extends g₁ ∧ g₁.IsMapping g.vertices.size [] ∧ ∀ nodes rest g₂, g₁.Extends g₂ →
      readBlockEntries handles place fuel ⟨⟨ts, ending⟩, g₁⟩ = .ok (nodes, ⟨⟨rest, ending⟩, g₂⟩) →
        ∃ g', read handles true flush (fuel + 1) ⟨⟨⟨.blockMappingStart, place, width⟩ :: ts, ending⟩, g⟩ =
            .ok (g.vertices.size, ⟨⟨rest, ending⟩, g'⟩) ∧
          g₂.Fills g' g.vertices.size nodes := by
  obtain ⟨g₁,hadd,hextends,hv⟩ := g.add_none ⟨.mapping, .mapping [], place⟩
  refine ⟨g₁,hextends,⟨place,hv⟩,?_⟩
  intro nodes rest g₂ hextends' hentries
  refine ⟨_,?_,Graph.fills_fill ⟨place,hextends' _ _ hv⟩ nodes⟩
  have hread : read handles true flush (fuel + 1)
      ⟨⟨⟨.blockMappingStart, place, width⟩ :: ts, ending⟩, g⟩ =
        (⟨⟨ts, ending⟩, g⟩ : Draft).addMapping {} place (readBlockEntries handles place fuel) := rfl
  have htag : collectionTag {} .mapping = .mapping := rfl
  simp only [hread, addMapping, htag, add, hadd, bind, Except.bind, pure, Except.pure, hentries]

/-- The key of an entry is read first, then its value, then the entries behind it. -/
lemma readBlockEntries_key {p q r : Mark} {i j k m n : ℕ} {nodes : List (ℕ × ℕ)} {d d' : Draft}
    (hkey : read handles true true (fuel + 1)
      ⟨⟨⟨.scalar (w.map .char) true, q, j⟩ :: ⟨.value, r, k⟩ :: ts, ending⟩, g⟩ =
        .ok (m, ⟨⟨⟨.value, r, k⟩ :: ts, ending⟩, g₁⟩))
    (hvalue : readOptional handles true true [.key, .value, .blockEnd] ⟨r.line, r.column + k⟩ (fuel + 1)
      ⟨⟨ts, ending⟩, g₁⟩ = .ok (n, d))
    (hentries : readBlockEntries handles start (fuel + 2) d = .ok (nodes, d')) :
    readBlockEntries handles start (fuel + 3)
      ⟨⟨⟨.key, p, i⟩ :: ⟨.scalar (w.map .char) true, q, j⟩ :: ⟨.value, r, k⟩ :: ts, ending⟩, g⟩ =
        .ok ((m, n) :: nodes, d') := by
  have hread : readBlockEntries handles start (fuel + 3)
      ⟨⟨⟨.key, p, i⟩ :: ⟨.scalar (w.map .char) true, q, j⟩ :: ⟨.value, r, k⟩ :: ts, ending⟩, g⟩ =
        (read handles true true (fuel + 1)
          ⟨⟨⟨.scalar (w.map .char) true, q, j⟩ :: ⟨.value, r, k⟩ :: ts, ending⟩, g⟩ >>= fun key =>
            readBlockValue handles (fuel + 2) key.2 >>= fun value =>
              readBlockEntries handles start (fuel + 2) value.2 >>= fun others =>
                pure ((key.1, value.1) :: others.1, others.2)) := rfl
  have hcolon : readBlockValue handles (fuel + 2) ⟨⟨⟨.value, r, k⟩ :: ts, ending⟩, g₁⟩ = .ok (n, d) := hvalue
  simp only [hread, hkey, hcolon, hentries, bind, Except.bind, pure, Except.pure]

/-- Words with a colon between them are read as entries that denote what the words do. -/
lemma readBlockEntries_words {entries : List (List Char × List Char)} {atoms : List (Atom × Atom)}
    {kinds : List Token.Kind} (h : MeanEntries entries atoms)
    (hts : ts.map Token.kind = entries.flatMap entryTokens ++ .blockEnd :: kinds)
    (hfuel : entries.length + 3 ≤ fuel) : ∃ nodes rest g', g.Extends g' ∧ rest.map Token.kind = kinds ∧
      readBlockEntries handles start fuel ⟨⟨ts, ending⟩, g⟩ = .ok (nodes, ⟨⟨rest, ending⟩, g'⟩) ∧
      g'.DenoteEntries nodes atoms := by
  induction h generalizing ts fuel g with
  | nil =>
    obtain ⟨fuel,rfl⟩ : ∃ n, fuel = n + 1 := ⟨fuel - 1,by omega⟩
    obtain ⟨place,width,rest,rfl,hrest⟩ := exists_eq_cons_of_map_kind hts
    exact ⟨[],rest,g,.refl g,hrest,rfl,.nil⟩
  | @cons e a entries atoms hea _ ih =>
    rw [List.length_cons] at hfuel
    obtain ⟨fuel,rfl⟩ : ∃ n, fuel = n + 4 := ⟨fuel - 4,by omega⟩
    obtain ⟨p,i,ts,rfl,hword⟩ := exists_eq_cons_of_map_kind hts
    obtain ⟨q,j,ts,rfl,hcolon⟩ := exists_eq_cons_of_map_kind hword
    obtain ⟨r,k,ts,rfl,hword'⟩ := exists_eq_cons_of_map_kind hcolon
    obtain ⟨s,l,ts,rfl,hothers⟩ := exists_eq_cons_of_map_kind hword'
    obtain ⟨gk,hextends,hkey,hk⟩ := read_word handles true true (fuel + 1) j q
      (⟨.value, r, k⟩ :: ⟨.scalar (e.2.map .char) true, s, l⟩ :: ts) ending g hea.1
    obtain ⟨gv,hextends',hvalue,hv⟩ := read_word handles true true fuel l s ts ending gk hea.2
    obtain ⟨nodes,rest,g',hextends'',hrest,hentries,hnodes⟩ := ih (g := gv) hothers
      (show entries.length + 3 ≤ fuel + 3 by omega)
    exact ⟨(g.vertices.size, gk.vertices.size) :: nodes,rest,g',(hextends.trans hextends').trans hextends'',
      hrest,readBlockEntries_key hkey hvalue hentries,
      .cons ⟨(hextends'.trans hextends'').denotes hk,hextends''.denotes hv⟩ hnodes⟩

/-- Where nothing is written, a scalar is added that denotes null. -/
lemma addEmpty_null (ts : Tokens) (g : Graph) (place : Mark) : ∃ g', g.Extends g' ∧
    (⟨ts, g⟩ : Draft).addEmpty place = .ok (g.vertices.size, ⟨ts, g'⟩) ∧ g'.Denotes g.vertices.size .null := by
  obtain ⟨g',hadd,hextends,hv⟩ := g.add_none ⟨.null, .scalar [], place⟩
  have htag : scalarTag {} [] true = .null := rfl
  refine ⟨g',hextends,?_,_,_,_,hv,rfl⟩
  simp only [addEmpty, add, htag, hadd, bind, Except.bind, pure, Except.pure]

/-- What a section holds is read as a node behind all others. -/
lemma readOptional_entries (g : Graph) {entries : List (List Char × List Char)} {atoms : List (Atom × Atom)}
    (h : MeanEntries entries atoms) (hts : ts.map Token.kind = valueTokens entries ++ [.blockEnd])
    (hfuel : entries.length + 3 ≤ fuel) :
    ∃ t g', t.kind = .blockEnd ∧ g.Extends g' ∧
      readOptional handles true true [.key, .value, .blockEnd] place (fuel + 2) ⟨⟨ts, ending⟩, g⟩ =
        .ok (g.vertices.size, ⟨⟨[t], ending⟩, g'⟩) ∧
      g'.HoldsEntries g.vertices.size atoms := by
  cases h with
  | nil =>
    obtain ⟨p,i,rest,rfl,hnil⟩ := exists_eq_cons_of_map_kind hts
    obtain rfl := List.map_eq_nil_iff.mp hnil
    obtain ⟨g',hextends,hadd,hnull⟩ := addEmpty_null ⟨[⟨.blockEnd, p, i⟩], ending⟩ g place
    exact ⟨⟨.blockEnd, p, i⟩,g',rfl,hextends,hadd,Or.inl ⟨rfl,hnull⟩⟩
  | @cons e a entries atoms hea hothers =>
    obtain ⟨p,i,ts,rfl,hentries⟩ := exists_eq_cons_of_map_kind hts
    obtain ⟨g₁,hextends,-,hfill⟩ := read_mapping handles true fuel i p ts ending g
    have hwords : ts.map Token.kind = (e :: entries).flatMap entryTokens ++ .blockEnd :: [.blockEnd] := by
      simpa using hentries
    obtain ⟨nodes,rest,g₂,hextends',hend,hread,hnodes⟩ :=
      readBlockEntries_words (.cons hea hothers) hwords hfuel
    obtain ⟨t,rest,rfl,hkind,hnil⟩ := List.map_eq_cons_iff.mp hend
    obtain rfl := List.map_eq_nil_iff.mp hnil
    obtain ⟨g',hvalue,hfills⟩ := hfill nodes [t] g₂ hextends' hread
    exact ⟨t,g',hkind,hfills.extends (hextends.trans hextends'),hvalue,
      Or.inr ⟨List.cons_ne_nil _ _,nodes,hfills.mapping,hfills.denoteEntries hnodes⟩⟩

end Draft

section Section
variable {name : List Char} {entries : List (List Char × List Char)} {a : Atom}
  {atoms : List (Atom × Atom)} {ts : List Token}

lemma length_le_sectionTokens (name : List Char) (entries : List (List Char × List Char)) :
    entries.length ≤ (sectionTokens name entries).length := by
  have hle : entries.length ≤ (entries.flatMap entryTokens).length := by
    induction entries with
    | nil => exact Nat.le_refl _
    | cons entry entries ih =>
      simp only [List.flatMap_cons, List.length_append, entryTokens, List.length_cons]
      omega
  cases entries with
  | nil => exact Nat.zero_le _
  | cons entry entries =>
    simp only [sectionTokens, valueTokens, List.length_append, if_neg (List.cons_ne_nil _ _),
      List.length_cons] at hle ⊢
    omega

/-- The tokens of a section are read as the section. -/
lemma read_sectionTokens {fuel : ℕ} (ending : Except Fault Mark) (hname : Means name a)
    (h : MeanEntries entries atoms) (hts : ts.map Token.kind = sectionTokens name entries)
    (hfuel : entries.length + 3 ≤ fuel) :
    ∃ root g, Draft.read Handles.standard true false (fuel + 5) { tokens := ⟨ts, ending⟩ } =
        .ok (root, ⟨⟨[], ending⟩, g⟩) ∧
      g.HoldsSection root a atoms := by
  obtain ⟨o,n,ts,rfl,hmapping⟩ := exists_eq_cons_of_map_kind hts
  obtain ⟨p,i,ts,rfl,hword⟩ := exists_eq_cons_of_map_kind hmapping
  obtain ⟨q,j,ts,rfl,hcolon⟩ := exists_eq_cons_of_map_kind hword
  obtain ⟨r,k,ts,rfl,hrest⟩ := exists_eq_cons_of_map_kind hcolon
  obtain ⟨g₁,-,hroot,hfill⟩ := Draft.read_mapping Handles.standard false (fuel + 4) n o
    (⟨.key, p, i⟩ :: ⟨.scalar (name.map .char) true, q, j⟩ :: ⟨.value, r, k⟩ :: ts) ending {}
  obtain ⟨g₂,hextends,hkey,hk⟩ := Draft.read_word Handles.standard true true (fuel + 1) j q
    (⟨.value, r, k⟩ :: ts) ending g₁ hname
  obtain ⟨⟨_,s,l⟩,g₃,rfl,hextends',hvalue,hentries⟩ := Draft.readOptional_entries g₂ h hrest hfuel
  obtain ⟨g,hread,hfills⟩ := hfill _ _ _ (hextends.trans hextends')
    (Draft.readBlockEntries_key hkey hvalue rfl)
  -- the root was added first, so it is not the node of what the section holds
  have hlt : (#[] : Array Vertex).size < g₂.vertices.size :=
    (Array.getElem?_eq_some_iff.mp (hextends _ _ hroot.choose_spec)).1
  exact ⟨_,g,hread,_,_,hfills.mapping,hfills.denotes _ _ (hextends'.denotes hk),Nat.ne_of_lt hlt,
    hfills.holdsEntries hentries (Nat.ne_of_gt hlt)⟩

/-- A section is the only document that its tokens hold. -/
lemma document_sectionTokens (hname : Means name a) (h : MeanEntries entries atoms) (place : Mark)
    (hts : ts.map Token.kind = sectionTokens name entries) :
    ∃ root g, document ⟨ts, .ok place⟩ = .ok (some (root, g)) ∧ g.HoldsSection root a atoms := by
  have hlength : ts.length = (sectionTokens name entries).length := by rw [← hts, List.length_map]
  have hle := length_le_sectionTokens name entries
  obtain ⟨fuel,hfuel,hle⟩ : ∃ fuel, 3 * ts.length + 8 = fuel + 5 ∧ entries.length + 3 ≤ fuel :=
    ⟨3 * ts.length + 3,rfl,by omega⟩
  obtain ⟨root,g,hread,hsection⟩ := read_sectionTokens (.ok place) hname h hts hle
  rw [← hfuel] at hread
  obtain ⟨p,i,ts,rfl,-⟩ := exists_eq_cons_of_map_kind hts
  refine ⟨root,g,?_,hsection⟩
  change (Draft.read Handles.standard true false (3 * (_ :: ts : List Token).length + 8) _ >>= _) = _
  rw [hread]
  rfl

end Section

namespace Graph
variable {g : Graph} {n : ℕ} {a : Atom}

lemma vertex_of_getElem? {v : Vertex} (h : g.vertices[n]? = some v) : g.vertex n = v := by
  rw [vertex, Array.getD_eq_getD_getElem?, h]
  rfl

lemma Denotes.scalar (h : g.Denotes n a) : n < g.vertices.size ∧
    ∃ text, g.content n = .scalar text ∧ scalarAtom (g.place n) (g.tag n) text = .ok a := by
  obtain ⟨tag,text,place,hv,htext⟩ := h
  rw [content, Graph.tag, Graph.place, vertex_of_getElem? hv]
  exact ⟨(Array.getElem?_eq_some_iff.mp hv).1,text,rfl,htext⟩

lemma IsMapping.tag_eq {nodes : List (ℕ × ℕ)} (h : g.IsMapping n nodes) : g.tag n = .mapping := by
  obtain ⟨place,hv⟩ := h
  rw [Graph.tag, vertex_of_getElem? hv]

lemma IsMapping.content_eq {nodes : List (ℕ × ℕ)} (h : g.IsMapping n nodes) :
    g.content n = .mapping nodes := by
  obtain ⟨place,hv⟩ := h
  rw [content, vertex_of_getElem? hv]

lemma Denotes.tag_ne_merge (h : g.Denotes n a) : g.tag n ≠ .merge := by
  obtain ⟨-,text,-,hatom⟩ := h.scalar
  intro htag
  rw [htag] at hatom
  cases hatom

lemma DenoteEntries.tag_ne_merge {nodes : List (ℕ × ℕ)} {atoms : List (Atom × Atom)}
    (h : g.DenoteEntries nodes atoms) : ∀ e ∈ nodes, g.tag e.1 ≠ .merge := by
  induction h with
  | nil => exact List.forall_mem_nil _
  | cons hna _ ih => exact List.forall_mem_cons.mpr ⟨hna.1.tag_ne_merge,ih⟩

end Graph

namespace Meaning
variable {g : Graph} {m m' m'' : Meaning} {n : ℕ} {a : Atom}

lemma shape?_setShape {shape : Shape} (hn : n < m.shapes.size) (k : ℕ) :
    (m.setShape n shape).shape? k = if k = n then some shape else m.shape? k := by
  rw [shape?, setShape, Array.getElem?_setIfInBounds]
  by_cases h : n = k
  · rw [if_pos h, if_pos hn, if_pos h.symm]
    rfl
  · rw [if_neg h, if_neg (Ne.symm h), shape?]

/-- The shapes that have been found fit a document: a scalar has no shape but the atom that it denotes. -/
structure Fits (m : Meaning) (g : Graph) : Prop where
  size_eq : m.shapes.size = g.vertices.size
  eq_atom : ∀ n a shape, g.Denotes n a → m.shape? n = some shape → shape = .atom a

/-- Nothing but shapes of scalars has been found since. -/
structure Reads (g : Graph) (m m' : Meaning) : Prop where
  waiting_eq : m'.waiting = m.waiting
  shape_or : ∀ n, m'.shape? n = m.shape? n ∨ ∃ a, g.Denotes n a ∧ m'.shape? n = some (.atom a)

lemma Reads.refl (g : Graph) (m : Meaning) : Reads g m m := ⟨rfl,fun _ => Or.inl rfl⟩

lemma Reads.trans (h : Reads g m m') (h' : Reads g m' m'') : Reads g m m'' := by
  refine ⟨h'.waiting_eq.trans h.waiting_eq,?_⟩
  intro n
  rcases h'.shape_or n with hn | hn
  · rw [hn]
    exact h.shape_or n
  · exact Or.inr hn

/-- The atom of a scalar that has been read stays. -/
lemma Reads.atom (h : Reads g m m') (ha : g.Denotes n a) (hn : m.shape? n = some (.atom a)) :
    m'.shape? n = some (.atom a) := by
  rcases h.shape_or n with hn' | ⟨b,hb,hn'⟩
  · exact hn'.trans hn
  · rwa [ha.unique hb]

lemma Reads.mapping (h : Reads g m m') {nodes : List (ℕ × ℕ)} (hv : g.IsMapping n nodes) :
    m'.shape? n = m.shape? n := by
  rcases h.shape_or n with hn | ⟨a,ha,-⟩
  · exact hn
  · exact absurd rfl (ha.ne_mapping hv)

lemma Fits.setShape (hm : m.Fits g) (ha : g.Denotes n a) : (m.setShape n (.atom a)).Fits g := by
  have hlt : n < m.shapes.size := by
    rw [hm.size_eq]
    exact ha.scalar.1
  constructor
  case size_eq => exact (Array.size_setIfInBounds ..).trans hm.size_eq
  case eq_atom =>
    intro k b shape hb hk
    rw [shape?_setShape hlt] at hk
    split_ifs at hk with heq
    · subst heq
      rw [← Option.some.inj hk, ha.unique hb]
    · exact hm.eq_atom k b shape hb hk

/-- Only scalars have tags under which they are atoms; each of these tags leads to the same reading. -/
lemma meet_of_scalarAtom {text : List Text.Symbol} (hshape : m.shape? n = none)
    (hcontent : g.content n = .scalar text) (hatom : scalarAtom (g.place n) (g.tag n) text = .ok a) :
    m.meet g n = .ok (.atom a, m.setShape n (.atom a)) := by
  have htext : g.scalarText (g.vertices.size + 1) n = .ok text := by
    simp only [Graph.scalarText, hcontent]
  cases htag : g.tag n with
  | sequence | orderedMap | pairs | set | mapping | merge | value | unknown =>
    rw [htag] at hatom
    cases hatom
  | null | bool | int | float | binary | timestamp | text =>
    rw [htag] at hatom
    simp only [meet, hshape, htag, htext, hcontent, bind, Except.bind, hatom]
    rfl

lemma meet_of_denotes (hm : m.Fits g) (ha : g.Denotes n a) : ∃ m', m.meet g n = .ok (.atom a, m') ∧
    m'.Fits g ∧ Reads g m m' ∧ m'.shape? n = some (.atom a) := by
  obtain ⟨hlt,text,hcontent,hatom⟩ := ha.scalar
  have hlt' : n < m.shapes.size := by rwa [hm.size_eq]
  cases hshape : m.shape? n with
  | some shape =>
    obtain rfl := hm.eq_atom n a shape ha hshape
    refine ⟨m,?_,hm,.refl g m,hshape⟩
    simp only [meet, hshape]
  | none =>
    refine ⟨m.setShape n (.atom a),?_,hm.setShape ha,⟨rfl,?_⟩,?_⟩
    · exact meet_of_scalarAtom hshape hcontent hatom
    · intro k
      rw [shape?_setShape hlt']
      split_ifs with hk
      · exact Or.inr ⟨a,hk ▸ ha,rfl⟩
      · exact Or.inl rfl
    · rw [shape?_setShape hlt', if_pos rfl]

lemma meetKey_of_denotes (owner : Mark) (hm : m.Fits g) (ha : g.Denotes n a) :
    ∃ m', m.meetKey g owner n = .ok (a, m') ∧ m'.Fits g ∧ Reads g m m' ∧ m'.shape? n = some (.atom a) := by
  obtain ⟨m',hmeet,hrest⟩ := meet_of_denotes hm ha
  obtain ⟨-,text,-,hatom⟩ := ha.scalar
  refine ⟨m',?_,hrest⟩
  unfold meetKey
  split
  · rename_i htag _
    rw [htag] at hatom
    cases hatom
  · rw [hmeet]
    rfl

/-- A value under a new key is put behind all others. -/
lemma putEntry_of_new {α : Type} {found : List (Atom × α)} {key : Atom} (value : α)
    (h : ∀ e ∈ found, e.1.sameKey key = false) : putEntry found key value = found ++ [(key, value)] := by
  induction found with
  | nil => rfl
  | cons e found ih =>
    obtain ⟨he,hrest⟩ := List.forall_mem_cons.mp h
    rw [putEntry, he, ih hrest]
    rfl

/-- The parts of a map are scalars that have been read. -/
def Holds (m : Meaning) (g : Graph) (parts : List (Atom × ℕ)) (atoms : List (Atom × Atom)) : Prop :=
  List.Forall₂ (fun part a => part.1 = a.1 ∧ g.Denotes part.2 a.2 ∧ m.shape? part.2 = some (.atom a.2))
    parts atoms

/-- Scalars under keys that differ are read as the entries of a map, in their order. -/
lemma meetEntries_of_denote {nodes : List (ℕ × ℕ)} {atoms : List (Atom × Atom)}
    {found : List (Atom × ℕ)} (owner : Mark) (hm : m.Fits g) (h : g.DenoteEntries nodes atoms)
    (hfound : ∀ a ∈ atoms, ∀ e ∈ found, e.1.sameKey a.1 = false)
    (hdistinct : atoms.Pairwise fun a b => a.1.sameKey b.1 = false) :
    ∃ parts m', m.meetEntries g owner nodes found = .ok (found ++ parts, m') ∧ m'.Fits g ∧ Reads g m m' ∧
      m'.Holds g parts atoms := by
  induction h generalizing m found with
  | nil => exact ⟨[],m,by rw [List.append_nil]; rfl,hm,.refl g m,.nil⟩
  | @cons n a nodes atoms hna _ ih =>
    obtain ⟨mk,hkey,hfits,hreads,-⟩ := meetKey_of_denotes owner hm hna.1
    obtain ⟨mv,hvalue,hfits',hreads',hshape⟩ := meet_of_denotes hfits hna.2
    obtain ⟨hhead,htail⟩ := List.pairwise_cons.mp hdistinct
    have hfound' : ∀ b ∈ atoms, ∀ e ∈ found ++ [(a.1, n.2)], e.1.sameKey b.1 = false := by
      intro b hb e he
      rcases List.mem_append.mp he with he | he
      · exact hfound b (List.mem_cons_of_mem a hb) e he
      · rw [List.mem_singleton.mp he]
        exact hhead b hb
    obtain ⟨parts,m',hrest,hfits'',hreads'',hholds⟩ := ih hfits' hfound' htail
    refine ⟨(a.1, n.2) :: parts,m',?_,hfits'',(hreads.trans hreads').trans hreads'',
      .cons ⟨rfl,hna.2,hreads''.atom hna.2 hshape⟩ hholds⟩
    simp only [meetEntries, hkey, bind, Except.bind, hvalue,
      putEntry_of_new n.2 (hfound a List.mem_cons_self), hrest, List.append_assoc, List.singleton_append]

/-- The entries of a mapping without merge keys are its own. -/
lemma entries_of_mapping {n fuel : ℕ} {nodes : List (ℕ × ℕ)} (hv : g.IsMapping n nodes)
    (hkeys : ∀ e ∈ nodes, g.tag e.1 ≠ .merge) : g.entries (fuel + 1) [] n = .ok nodes := by
  have hown : nodes.filter (fun entry => g.tag entry.1 != .merge) = nodes :=
    List.filter_eq_self.mpr fun e he => bne_iff_ne.mpr (hkeys e he)
  have hmerge : nodes.filter (fun entry => g.tag entry.1 == .merge) = [] :=
    List.filter_eq_nil_iff.mpr fun e he => by simpa using hkeys e he
  simp only [Graph.entries, hv.content_eq, hown, hmerge]
  rfl

lemma readParts_mapping {nodes : List (ℕ × ℕ)} {parts : List (Atom × ℕ)}
    (hv : g.IsMapping n nodes) (hkeys : ∀ e ∈ nodes, g.tag e.1 ≠ .merge)
    (hmeet : m.meetEntries g (g.place n) nodes [] = .ok (parts, m')) :
    m.readParts g n = .ok (m'.setShape n (.map parts)) := by
  simp only [readParts, hv.tag_eq, entries_of_mapping hv hkeys, bind, Except.bind, hmeet]
  rfl

lemma run_of_waiting_nil (fuel : ℕ) (h : m.waiting = []) : run g fuel m = .ok m := by
  cases fuel with
  | zero => rfl
  | succ fuel => simp only [run, h]

lemma run_of_waiting_cons {waiting : List ℕ} (fuel : ℕ) (h : m.waiting = n :: waiting)
    (hread : ({ m with waiting } : Meaning).readParts g n = .ok m') :
    run g (fuel + 1) m = run g fuel m' := by
  simp only [run, h, hread, bind, Except.bind]

lemma shape?_setShape_map {nodes : List (ℕ × ℕ)} (hm : m.Fits g) (shape : Shape) (hv : g.IsMapping n nodes)
    (k : ℕ) : (m.setShape n shape).shape? k = if k = n then some shape else m.shape? k := by
  refine shape?_setShape ?_ k
  rw [hm.size_eq]
  exact hv.lt_size

lemma Fits.setMap (hm : m.Fits g) {nodes : List (ℕ × ℕ)} (shape : Shape) (hv : g.IsMapping n nodes) :
    (m.setShape n shape).Fits g := by
  constructor
  case size_eq => exact (Array.size_setIfInBounds ..).trans hm.size_eq
  case eq_atom =>
    intro k b found hb hk
    rw [shape?_setShape_map hm shape hv, if_neg (hb.ne_mapping hv)] at hk
    exact hm.eq_atom k b found hb hk

lemma Holds.setMap {parts : List (Atom × ℕ)} {atoms : List (Atom × Atom)} (h : m.Holds g parts atoms)
    (hm : m.Fits g) {nodes : List (ℕ × ℕ)} (shape : Shape) (hv : g.IsMapping n nodes) :
    (m.setShape n shape).Holds g parts atoms := by
  refine h.imp fun part a ⟨hkey,ha,hshape⟩ => ⟨hkey,ha,?_⟩
  rw [shape?_setShape_map hm shape hv, if_neg (ha.ne_mapping hv), hshape]

lemma value_atom (h : m.shape? n = some (.atom a)) (depth : ℕ) : m.value depth n = .atom a := by
  have hvalue : m.value 0 n = .atom a := by
    have hnone : ((Array.replicate m.shapes.size (none : Option Value))[n]?).join = none := by
      rw [Array.getElem?_replicate]
      split_ifs <;> rfl
    simp only [value, unfold, hnone, h]
    rfl
  cases depth with
  | zero => exact hvalue
  | succ depth =>
    have hsucc : m.value (depth + 1) n = m.value 0 n := by simp only [value, h]
    rw [hsucc, hvalue]

lemma value_map {parts : List (Atom × ℕ)} {atoms : List (Atom × Atom)} (hn : m.shape? n = some (.map parts))
    (h : m.Holds g parts atoms) (depth : ℕ) :
    m.value (depth + 1) n = .map (atoms.map fun a => (a.1, .atom a.2)) := by
  simp only [value, hn, Value.map.injEq]
  clear hn
  induction h with
  | nil => rfl
  | cons hpart _ ih =>
    obtain ⟨hkey,-,hshape⟩ := hpart
    simp only [List.map_cons, ih, hkey, value_atom hshape]

/-- At first nothing has a shape but the root, which waits to be read. -/
lemma exists_start {root : ℕ} {nodes : List (ℕ × ℕ)}
    (hroot : g.IsMapping root nodes) :
    ∃ m : Meaning, m.Fits g ∧ (∀ n, n ≠ root → m.shape? n = none) ∧ m.waiting = [root] ∧
      ofGraph g root = run g (g.vertices.size + 1) m := by
  let m₀ : Meaning := { shapes := Array.replicate g.vertices.size none }
  have hnone : ∀ n, m₀.shape? n = none := by
    intro n
    simp only [m₀, shape?, Array.getElem?_replicate]
    split_ifs <;> rfl
  have hm₀ : m₀.Fits g := ⟨Array.size_replicate,fun n a shape _ hn => nomatch (hnone n).symm.trans hn⟩
  have hm := hm₀.setMap (.map []) hroot
  have hmeet : m₀.meet g root = .ok (m₀.postpone root (.map [])) := by
    simp only [meet, hnone, hroot.tag_eq]
  refine ⟨(m₀.postpone root (.map [])).2,⟨hm.size_eq,hm.eq_atom⟩,?_,rfl,?_⟩
  · intro n hn
    exact (shape?_setShape_map hm₀ _ hroot n).trans ((if_neg hn).trans (hnone n))
  · change (m₀.meet g root >>= fun r => run g (g.vertices.size + 1) r.2) = _
    rw [hmeet]
    rfl

/-- A mapping of scalars gets its shape in one turn, and no other mapping does. -/
lemma readParts_of_denote {nodes : List (ℕ × ℕ)} {atoms : List (Atom × Atom)} (hm : m.Fits g)
    (hv : g.IsMapping n nodes) (h : g.DenoteEntries nodes atoms)
    (hdistinct : atoms.Pairwise fun a b => a.1.sameKey b.1 = false) :
    ∃ parts m', m.readParts g n = .ok m' ∧ m'.waiting = m.waiting ∧ m'.shape? n = some (.map parts) ∧
      m'.Holds g parts atoms ∧
      ∀ k nodes', k ≠ n → g.IsMapping k nodes' → m'.shape? k = m.shape? k := by
  obtain ⟨parts,m₁,hmeet,hfits,hreads,hholds⟩ := meetEntries_of_denote (g.place n) hm h
    (fun _ _ _ he => absurd he List.not_mem_nil) hdistinct
  refine ⟨parts,m₁.setShape n (.map parts),readParts_mapping hv h.tag_ne_merge hmeet,hreads.waiting_eq,?_,
    hholds.setMap hfits _ hv,?_⟩
  · rw [shape?_setShape_map hfits _ hv, if_pos rfl]
  · intro k nodes' hk hkv
    rw [shape?_setShape_map hfits _ hv, if_neg hk, hreads.mapping hkv]

/-- A section without entries is read in one turn. -/
lemma ofGraph_of_null {root k v : ℕ} {name : Atom}
    (hroot : g.IsMapping root [(k, v)]) (hk : g.Denotes k name)
    (hv : g.Denotes v .null) :
    ∃ m, ofGraph g root = .ok m ∧ m.value 2 root = .map [(name, .null)] := by
  obtain ⟨m,hm,-,hwaiting,hstart⟩ := exists_start hroot
  have hentries : g.DenoteEntries [(k, v)] [(name, .null)] := .cons ⟨hk,hv⟩ .nil
  have hm' : ({ m with waiting := [] } : Meaning).Fits g := ⟨hm.size_eq,hm.eq_atom⟩
  obtain ⟨parts,m₁,hread,hwaiting',hshape,hholds,-⟩ :=
    readParts_of_denote hm' hroot hentries (List.pairwise_singleton _ _)
  refine ⟨m₁,?_,value_map hshape hholds 1⟩
  rw [hstart, run_of_waiting_cons _ hwaiting hread, run_of_waiting_nil _ hwaiting']

/-- Where the root holds another mapping, its turn reads the name, and the mapping has to wait. -/
lemma readParts_of_nested {root k v : ℕ} {name : Atom} {nodes : List (ℕ × ℕ)} (hm : m.Fits g)
    (hroot : g.IsMapping root [(k, v)]) (hk : g.Denotes k name)
    (hv : g.IsMapping v nodes) (hnone : m.shape? v = none) :
    ∃ m', m.readParts g root = .ok m' ∧ m'.Fits g ∧ m'.waiting = m.waiting ++ [v] ∧
      m'.shape? root = some (.map [(name, v)]) := by
  obtain ⟨m₁,hkey,hfits,hreads,-⟩ := meetKey_of_denotes (g.place root) hm hk
  have hmeet : m.meetEntries g (g.place root) [(k, v)] [] = .ok ([(name, v)], (m₁.postpone v (.map [])).2) := by
    have hvnone : m₁.shape? v = none := (hreads.mapping hv).trans hnone
    simp only [meetEntries, hkey, bind, Except.bind, meet, hvnone, hv.tag_eq]
    rfl
  have hkeys : ∀ e ∈ [(k, v)], g.tag e.1 ≠ .merge :=
    List.forall_mem_cons.mpr ⟨hk.tag_ne_merge,List.forall_mem_nil _⟩
  have hfits' := hfits.setMap (.map []) hv
  have hpostponed : (m₁.postpone v (.map [])).2.Fits g := ⟨hfits'.size_eq,hfits'.eq_atom⟩
  refine ⟨_,readParts_mapping hroot hkeys hmeet,hpostponed.setMap _ hroot,?_,?_⟩
  · exact congrArg (· ++ [v]) hreads.waiting_eq
  · rw [shape?_setShape_map hpostponed _ hroot, if_pos rfl]

/-- A section with entries is read in two turns, its own mapping in the second one. -/
lemma ofGraph_of_mapping {root k v : ℕ} {name : Atom} {nodes : List (ℕ × ℕ)} {atoms : List (Atom × Atom)}
    (hroot : g.IsMapping root [(k, v)]) (hk : g.Denotes k name)
    (hne : root ≠ v) (hv : g.IsMapping v nodes)
    (hnodes : g.DenoteEntries nodes atoms)
    (hdistinct : atoms.Pairwise fun a b => a.1.sameKey b.1 = false) :
    ∃ m, ofGraph g root = .ok m ∧
      m.value 2 root = .map [(name, .map (atoms.map fun a => (a.1, .atom a.2)))] := by
  obtain ⟨m,hm,hnone,hwaiting,hstart⟩ := exists_start hroot
  have hm' : ({ m with waiting := [] } : Meaning).Fits g := ⟨hm.size_eq,hm.eq_atom⟩
  obtain ⟨m₁,hfirst,hm₁,hwaiting₁,hshape₁⟩ := readParts_of_nested hm' hroot hk hv (hnone v hne.symm)
  have hm₁' : ({ m₁ with waiting := [] } : Meaning).Fits g := ⟨hm₁.size_eq,hm₁.eq_atom⟩
  obtain ⟨parts,m₂,hsecond,hwaiting₂,hshape,hholds,hothers⟩ :=
    readParts_of_denote hm₁' hv hnodes hdistinct
  refine ⟨m₂,?_,?_⟩
  · obtain ⟨fuel,hfuel⟩ : ∃ fuel, g.vertices.size = fuel + 1 :=
      Nat.exists_eq_succ_of_ne_zero (Nat.ne_zero_of_lt hroot.lt_size)
    rw [hstart, hfuel, run_of_waiting_cons _ hwaiting hfirst, run_of_waiting_cons _ hwaiting₁ hsecond,
      run_of_waiting_nil _ hwaiting₂]
  · have hshape₂ : m₂.shape? root = some (.map [(name, v)]) := (hothers root _ hne hroot).trans hshape₁
    have hvalue := value_map hshape hholds 0
    simp only [value, hshape₂, List.map_cons, List.map_nil] at hvalue ⊢
    rw [hvalue]

/-- What a document denotes that holds a section. -/
lemma ofGraph_of_holdsSection {root : ℕ} {name : Atom} {atoms : List (Atom × Atom)}
    (h : g.HoldsSection root name atoms)
    (hdistinct : atoms.Pairwise fun a b => a.1.sameKey b.1 = false) :
    ∃ m, ofGraph g root = .ok m ∧ m.value 2 root = sectionValue name atoms := by
  obtain ⟨k,v,hroot,hk,hne,⟨rfl,hv⟩ | ⟨hatoms,nodes,hv,hnodes⟩⟩ := h
  · exact ofGraph_of_null hroot hk hv
  · have hfull : atoms.isEmpty = false := List.isEmpty_eq_false_iff.mpr hatoms
    simp only [sectionValue, hfull, Bool.false_eq_true, if_false]
    exact ofGraph_of_mapping hroot hk hne hv hnodes hdistinct

end Meaning

/-- A section of plain lines denotes what its words denote; a section without lines is null. -/
theorem load_sectionText {name : List Char} {margin : ℕ} {entries : List (List Char × List Char)} {a : Atom}
    {atoms : List (Atom × Atom)} (hword : IsWord name) (hlength : name.length ≤ 1024)
    (hname : Means name a) (hwords : ∀ e ∈ entries, IsWord e.1 ∧ e.1.length ≤ 1024 ∧ IsWord e.2)
    (hmeans : MeanEntries entries atoms) (hdistinct : atoms.Pairwise fun a b => a.1.sameKey b.1 = false)
    (hmargin : 0 < margin) (lastBreak : Bool) :
    load ⟨sectionText name margin lastBreak entries, none⟩ = .ok (sectionValue a atoms) := by
  obtain ⟨ts,place,hkinds,htokens⟩ := tokens_sectionText hword hlength hwords hmargin lastBreak
  obtain ⟨root,g,hdocument,hsection⟩ := document_sectionTokens hname hmeans place hkinds
  obtain ⟨m,hmeaning,hvalue⟩ := Meaning.ofGraph_of_holdsSection hsection hdistinct
  simp only [load, htokens, hdocument, hmeaning, hvalue, bind, Except.bind]
  rfl

end SourceOutline.Yaml
