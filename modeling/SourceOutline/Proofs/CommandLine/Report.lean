import SourceOutline.Markup.Literal
import SourceOutline.Proofs.CommandLine.Run
import SourceOutline.Proofs.Markup.Plain

/-! The report on the diagnostics of a file. The path and the kinds of missing nodes stand in its lines as
they are, and the lines are printed as markup; so the report says what it should if these texts are plain
and have no long lines that end in blanks. A name such as `notes[draft].py` is not plain. -/
namespace SourceOutline

/-- The line about a diagnostic as it should be printed. -/
def Diagnostic.shownLine (d : Diagnostic) : String := "  " ++ d.severity.name ++ " " ++ d.message

namespace Markup

section Severity

variable (s : Severity) (opened : List OpenTag) (following : List Part) (after : List Char)
  (isLiteral : List Char → Bool)

lemma tagBody?_opening : tagBody? (s.color.toList ++ ']' :: after) = some (s.color.toList,after) := by
  cases s <;> rfl

lemma tagBody?_closing :
    tagBody? ('/' :: s.color.toList ++ ']' :: after) = some ('/' :: s.color.toList,after) := by
  cases s <;> rfl

lemma renderParts_opening : renderParts isLiteral (.tag s.color.toList :: following) opened =
    renderParts isLiteral following (⟨styleName s.color.toList, none⟩ :: opened) := by
  cases s <;> rfl

/-- A closing tag closes the tag of its own colour. -/
lemma renderParts_closing : renderParts isLiteral (.tag ('/' :: s.color.toList) :: following)
    (⟨styleName s.color.toList, none⟩ :: opened) = renderParts isLiteral following opened := by
  have hsplit : splitTag ('/' :: s.color.toList) = ('/' :: s.color.toList,none) := by cases s <;> rfl
  have htrim : Text.trim Text.isSpace s.color.toList = s.color.toList := by cases s <;> decide
  have hnonempty : s.color.toList.isEmpty = false := by cases s <;> rfl
  have hclose : closeTag isLiteral s.color.toList (⟨styleName s.color.toList, none⟩ :: opened) =
      some opened := by
    simp [closeTag, htrim, hnonempty, closeNamed]
  simp only [renderParts, hsplit, hclose]

lemma bare_name : Bare s.name.toList := by cases s <;> decide

end Severity

/-- The line about a diagnostic shows the name of its severity and, if that is plain, its sentence. -/
lemma render?_line {d : Diagnostic} (h : Plain d.message.toList) (isLiteral : List Char → Bool) :
    render? isLiteral d.line.toList = some d.shownLine.toList := by
  let indent := [' ',' ']
  let color := d.severity.color.toList
  let name := d.severity.name.toList
  let rest := ' ' :: d.message.toList
  let closing := '/' :: color ++ ']' :: rest
  let opening := color ++ ']' :: (name ++ '[' :: closing)
  have hline : d.line.toList = indent ++ '[' :: opening := by
    simp [Diagnostic.line, indent, opening, closing, rest, color, name]
  have hshown : d.shownLine.toList = indent ++ (name ++ rest) := by
    simp [Diagnostic.shownLine, indent, rest, name]
  have hindent : Bare indent := by decide
  have hname : Bare name := bare_name d.severity
  have hrest : Plain rest := (Bare.plain (by decide : Bare [])).blank h (by simp)
  have hfuel : d.line.toList.length+1 =
      rest.length+2*color.length+4+1+name.length+1+indent.length := by
    simp only [hline, opening, closing, List.length_append, List.length_cons]
    omega
  -- the opening tag, the name, the closing tag, and what follows it as one part
  rw [render?, hfuel, hline, hshown,
    renderParts_of_tag (hindent.not_mem rfl) (hindent.not_mem rfl) (tagBody?_opening d.severity _),
    renderParts_opening,
    renderParts_of_tag (hname.not_mem rfl) (hname.not_mem rfl) (tagBody?_closing d.severity rest),
    renderParts_closing, renderParts_of_tagless hrest.tagless (by omega)]
  simp only [List.reverse_nil, List.nil_append, hindent.plain.shownText_eq, hname.plain.shownText_eq,
    hrest.shownText_eq, Option.map_some]

/-- The line about a diagnostic has no tabs if its sentence has none. -/
lemma tabless_shownLine {d : Diagnostic} (h : Plain d.message.toList) :
    ∀ c ∈ d.shownLine.toList, c ≠ '\t' := by
  have hindent : Bare [' ',' '] := by decide
  have hrest : Plain (' ' :: d.message.toList) := (Bare.plain (by decide : Bare [])).blank h (by simp)
  have hshown : d.shownLine.toList = [' ',' '] ++ (d.severity.name.toList ++ ' ' :: d.message.toList) := by
    simp [Diagnostic.shownLine]
  rw [hshown]
  simp only [List.forall_mem_append]
  exact ⟨fun c hc => (hindent.visible hc).2,fun c hc => ((bare_name d.severity).visible hc).2,
    fun c hc => (hrest.visible c hc).2⟩

/-- The line about a diagnostic is printed with the name of its severity and its sentence, if the sentence
is plain and the line fits. -/
lemma print?_line {console : Console} {d : Diagnostic} (h : Plain d.message.toList)
    (hfits : console.Fits d.shownLine.toList) :
    console.print? d.line.toList = some (d.shownLine.toList ++ ['\n']) := by
  rw [Console.print?, render?_line h, Option.map_some, hfits.lay_eq (tabless_shownLine h)]

lemma lines_cons (text : String) (texts : List String) :
    CommandLine.lines (text :: texts) = text ++ "\n" ++ CommandLine.lines texts := by
  simp [CommandLine.lines]

lemma printLines_of_print? {console : Console} {texts shown : List String}
    (h : List.Forall₂ (fun text line => console.print? text.toList = some (line.toList ++ ['\n']))
      texts shown) :
    console.printLines texts = ((CommandLine.lines shown).toList,true) := by
  induction h with
  | nil => rfl
  | cons hline _ ih => simp [Console.printLines, hline, ih, lines_cons]

/-- The sentence about a diagnostic is plain if the kind of a missing node is. -/
lemma plain_message {d : Diagnostic} (h : ∀ kind, d.fault = .missing kind → Plain kind.toList) :
    Plain d.message.toList := by
  let row := (Nat.repr d.position.row).toList
  let column := (Nat.repr d.position.column).toList
  let place := row ++ ':' :: column
  have hrow : Bare row := .repr d.position.row
  have hcolumn : Bare column := .repr d.position.column
  have hplace : Plain place := hrow.plain_colon hcolumn
  cases hfault : d.fault with
  | misplaced =>
    have hmessage : d.message.toList = "Syntax error at".toList ++ ' ' :: place := by
      simp [Diagnostic.message, hfault, place, row, column]
    rw [hmessage]
    exact (Bare.plain (by decide)).blank hplace (by simp)
  | missing kind =>
    have hmessage : d.message.toList =
        "Missing".toList ++ ' ' :: (kind.toList ++ ' ' :: ("at".toList ++ ' ' :: place)) := by
      simp [Diagnostic.message, hfault, place, row, column]
    have hat : Plain ("at".toList ++ ' ' :: place) := (Bare.plain (by decide)).blank hplace (by simp)
    have hopen : ']' ∉ "at".toList ++ ' ' :: place := by
      simp [place, hrow.not_mem, hcolumn.not_mem, mayMark]
    rw [hmessage]
    exact (Bare.plain (by decide)).blank ((h kind hfault).blank hat fun _ => hopen) (by simp)

/-- The line about a file is plain if the path with its colon is. -/
lemma plain_headline {path : String} (h : Plain (path.toList ++ [':'])) (o : Outline) :
    Plain (o.headline path).toList := by
  let nodes := (Nat.repr (o.parsed.store.countFrom o.parsed.root)).toList
  let diagnostics := (Nat.repr o.parsed.diagnostics.length).toList
  have hnodes : Bare nodes := .repr _
  have hdiagnostics : Bare diagnostics := .repr _
  have hcounts : Bare (nodes ++ (" nodes, ".toList ++ (diagnostics ++ " diagnostics".toList))) :=
    hnodes.append (.append (by decide) (hdiagnostics.append (by decide)))
  have hheadline : (o.headline path).toList = (path.toList ++ [':']) ++ ' ' ::
      (nodes ++ (" nodes, ".toList ++ (diagnostics ++ " diagnostics".toList))) := by
    simp [Outline.headline, nodes, diagnostics]
  rw [hheadline]
  exact h.blank hcounts.plain fun _ => hcounts.not_mem rfl

section Lines

lemma endsDark_repr (n : ℕ) : EndsDark (Nat.repr n).toList := fun c hc =>
  Decimal.forall_mem_repr (p := fun c => Text.isSpace c = false) (by decide) n c (List.mem_of_getLast? hc)

lemma break_not_mem_toDigits (n : ℕ) : '\n' ∉ Nat.toDigits 10 n := fun h =>
  Decimal.of_isDigit (p := (· ≠ '\n')) (by decide) (Decimal.forall_isDigit_toDigits n _ h) rfl

/-- A sentence about a diagnostic ends with a number. -/
lemma exists_message (d : Diagnostic) :
    ∃ front, d.message.toList = front ++ (Nat.repr d.position.column).toList := by
  cases h : d.fault with
  | misplaced =>
    exact ⟨("Syntax error at " ++ Nat.repr d.position.row ++ ":").toList,by simp [Diagnostic.message, h]⟩
  | missing kind =>
    exact ⟨("Missing " ++ kind ++ " at " ++ Nat.repr d.position.row ++ ":").toList,
      by simp [Diagnostic.message, h]⟩

variable {console : Console} (hroom : 0 < console.width)

include hroom in
lemma fits_headline {path : String} (h : '\n' ∉ path.toList) (o : Outline) :
    console.Fits (o.headline path).toList := by
  have hbreak : '\n' ∉ (o.headline path).toList := by
    simp [Outline.headline, h, break_not_mem_toDigits]
  have hlast : EndsDark (o.headline path).toList := by
    have hword : EndsDark " diagnostics".toList := by
      intro c hc
      obtain rfl : 's' = c := Option.some.inj hc
      decide
    rw [Outline.headline, String.toList_append]
    exact hword.append (by decide) _
  exact .of_oneLine hroom hbreak hlast

include hroom in
lemma fits_shownLine {d : Diagnostic} (h : ∀ kind, d.fault = .missing kind → '\n' ∉ kind.toList) :
    console.Fits d.shownLine.toList := by
  have hmessage : '\n' ∉ d.message.toList := by
    cases hfault : d.fault with
    | misplaced => simp [Diagnostic.message, hfault, break_not_mem_toDigits]
    | missing kind => simp [Diagnostic.message, hfault, break_not_mem_toDigits, h kind hfault]
  have hname : '\n' ∉ d.severity.name.toList := by cases d.severity <;> decide
  have hlast : EndsDark d.shownLine.toList := by
    obtain ⟨front,hfront⟩ := exists_message d
    rw [Diagnostic.shownLine, String.toList_append, hfront, ← List.append_assoc]
    exact (endsDark_repr _).append (by simp [Nat.toList_repr, Nat.toDigits_ne_nil]) _
  exact .of_oneLine hroom (by simp [Diagnostic.shownLine, hname, hmessage]) hlast

end Lines

end Markup

namespace Outline

/-- The lines of the report on a file as they should be printed. -/
def shownLines (path : String) (o : Outline) : List String :=
  o.headline path :: o.parsed.diagnostics.map Diagnostic.shownLine

/-- The texts from outside in the report on a file are plain: the path, with the colon that stands behind
it, and the kinds of the nodes that are reported as missing. The lines that they stand in fit. -/
structure PlainReport (console : Markup.Console) (path : String) (o : Outline) : Prop where
  fits : ∀ line ∈ o.shownLines path, console.Fits line.toList
  path : Markup.Plain (path.toList ++ [':'])
  kinds : ∀ d ∈ o.parsed.diagnostics, ∀ kind, d.fault = .missing kind → Markup.Plain kind.toList

/-- Plain texts without line breaks give a plain report wherever there is room to print on. -/
theorem PlainReport.of_oneLine {console : Markup.Console} {path : String} {o : Outline}
    (hroom : 0 < console.width) (hpath : Markup.Plain (path.toList ++ [':'])) (hbreak : '\n' ∉ path.toList)
    (hkinds : ∀ d ∈ o.parsed.diagnostics, ∀ kind, d.fault = .missing kind →
      Markup.Plain kind.toList ∧ '\n' ∉ kind.toList) : o.PlainReport console path where
  fits := by
    rw [shownLines, List.forall_mem_cons, List.forall_mem_map]
    exact ⟨Markup.fits_headline hroom hbreak o,
      fun d hd => Markup.fits_shownLine hroom fun kind hkind => (hkinds d hd kind hkind).2⟩
  path := hpath
  kinds d hd kind hkind := (hkinds d hd kind hkind).1

/-- A plain report is printed line by line as it stands. -/
theorem PlainReport.diagnosticsReport_eq {console : Markup.Console} {path : String} {o : Outline}
    (h : o.PlainReport console path) :
    o.diagnosticsReport console path = (CommandLine.lines (o.shownLines path),true) := by
  obtain ⟨hfitsHead,hfitsRest⟩ := List.forall_mem_cons.mp h.fits
  have hheadline := (Markup.plain_headline h.path o).print?_eq hfitsHead
  have hlines : List.Forall₂
      (fun text line => console.print? text.toList = some (line.toList ++ ['\n']))
      (o.parsed.diagnostics.map Diagnostic.line) (o.parsed.diagnostics.map Diagnostic.shownLine) := by
    rw [List.forall₂_map_left_iff, List.forall₂_map_right_iff, List.forall₂_same]
    exact fun d hd =>
      Markup.print?_line (Markup.plain_message (h.kinds d hd)) (hfitsRest _ (List.mem_map_of_mem hd))
  simp only [diagnosticsReport, shownLines, Markup.printLines_of_print? (.cons hheadline hlines),
    String.ofList_toList]

end Outline

namespace CommandLine

section Report

variable (console : Markup.Console) {d : Directory} {arguments : List String} {file : String}
  {source : List Char} {loaded : Settings.Loaded}

/-- With nothing to stop it, the command reports on the outline of the file. -/
theorem run_of_holds (parse : Octets → RawTree)
    (hrequest : Request.ofArguments arguments = .run .parse file "python")
    (hsource : d.Holds (Path.ofText file) source) (hsettings : d.settings = .ok loaded) :
    run (.ready parse) console d arguments = .done (Command.parse.result console
      (loaded.warnings.map .settings ++
        (Outline.read (.ready parse) (String.ofList source) "python" loaded.settings).log)
      (Path.ofText file) (Outline.ofParsed loaded.settings
        ((⟨⟨.python, parse⟩, loaded.settings⟩ : Parser).parsed (String.ofList source)))) := by
  simp only [run, hrequest, Command.run, prepare_of_holds hsource hsettings, Outline.result_read,
    Except.mapError]

/-- The report on a file of text in the language of the grammar, with an engine that works, is the line
about the file and then a line for each diagnostic, and the exit code tells whether there is an error. This
takes a path and kinds of missing nodes that are plain, and lines that fit. -/
theorem run_parse_of_plain (parse : Octets → RawTree)
    (hrequest : Request.ofArguments arguments = .run .parse file "python")
    (hsource : d.Holds (Path.ofText file) source) (hsettings : d.settings = .ok loaded) :
    ∃ o, (Outline.read (.ready parse) (String.ofList source) "python" loaded.settings).result = .ok o ∧
      (o.PlainReport console (Path.ofText file).toText → run (.ready parse) console d arguments = .done
        { exitCode := if o.parsed.hasErrors then 1 else 0
          output := lines (o.headline (Path.ofText file).toText ::
            o.parsed.diagnostics.map Diagnostic.shownLine)
          errors := lines (Log.shown (loaded.warnings.map .settings ++
            (Outline.read (.ready parse) (String.ofList source) "python" loaded.settings).log))
          crash := none }) := by
  refine ⟨_,Outline.result_read parse (String.ofList source) loaded.settings,fun hplain => ?_⟩
  have hreport := hplain.diagnosticsReport_eq
  rw [run_of_holds console parse hrequest hsource hsettings, result_parse_of_complete (by rw [hreport]), hreport]
  rfl

end Report

/-- A directory that holds just some files. -/
def workDirectory (files : Listing) : Directory := ⟨Path.ofText "/work", files.entry⟩

/-- A console of eighty columns. -/
def narrowConsole : Markup.Console := ⟨80, Markup.isLiteral⟩

/-- A text with two errors and a missing bracket, under settings that ask for missing nodes. -/
def brokenNotes : Listing := [
  (["notes.py".toList], Text.Utf8.octets "f(="),
  ([settingsName], Text.Utf8.octets "parser:\n  report_missing_nodes: true\n")]

/-- A bracket that closes parameters is no markup. -/
lemma plain_nestedErrors :
    ∀ d ∈ Parser.nestedErrors.diagnostics true, ∀ kind, d.fault = .missing kind →
      Markup.Plain kind.toList ∧ '\n' ∉ kind.toList := by
  have hdiagnostics : Parser.nestedErrors.diagnostics true =
      [⟨.misplaced,⟨0, 0⟩⟩,⟨.misplaced,⟨0, 2⟩⟩,⟨.missing ")",⟨0, 3⟩⟩] := by
    rw [RawTree.diagnostics_eq]
    decide
  intro d hd kind hkind
  simp only [hdiagnostics, List.mem_cons, List.not_mem_nil, or_false] at hd
  rcases hd with rfl | rfl | rfl <;> cases hkind
  exact ⟨Markup.Bare.plain (by decide),by decide⟩

theorem run_parse_of_plain_brokenNotes :
    Request.ofArguments ["parse","notes.py"] = .run .parse "notes.py" "python" ∧
    (workDirectory brokenNotes).Holds (Path.ofText "notes.py") "f(=".toList ∧
    (workDirectory brokenNotes).settings = .ok ⟨{ reportMissingNodes := true },[]⟩ ∧
    run (.ready fun _ => Parser.nestedErrors) narrowConsole (workDirectory brokenNotes)
      ["parse","notes.py"] = .done
      { exitCode := 1
        output := "notes.py: 7 nodes, 3 diagnostics\n  error Syntax error at 0:0\n" ++
          "  error Syntax error at 0:2\n  warning Missing ) at 0:3\n"
        errors := "Parsed tree contains syntax errors\n" } := by
  have hrequest : Request.ofArguments ["parse","notes.py"] = .run .parse "notes.py" "python" := by decide
  have hsource : (workDirectory brokenNotes).Holds (Path.ofText "notes.py") "f(=".toList :=
    ⟨Text.Utf8.octets "f(=",by decide +kernel,by decide +kernel⟩
  have hsettings : (workDirectory brokenNotes).settings = .ok ⟨{ reportMissingNodes := true },[]⟩ := by
    decide +kernel
  obtain ⟨o,hread,hrun⟩ :=
    run_parse_of_plain narrowConsole (fun _ => Parser.nestedErrors) hrequest hsource hsettings
  rw [Outline.result_read] at hread
  cases hread
  have hpath : Markup.Bare "notes.py".toList := by decide
  refine ⟨hrequest,hsource,hsettings,?_⟩
  rw [hrun (.of_oneLine (by decide) (hpath.plain_colon (by decide)) (by decide) plain_nestedErrors)]
  simp only [Outline.ofParsed, Outline.headline, Parsed.hasErrors, Parser.parsed, RawTree.diagnostics_eq,
    RawTree.normalize_eq_grow]
  decide +kernel

/-- The tree of a text of one letter. -/
def letter : RawTree := .node ⟨"module", 0, 1, ⟨⟨0, 0⟩, ⟨0, 1⟩⟩, false, false⟩ []

/-- A name in brackets is taken for a tag: what looks like an opening tag is left out of the report, and
what looks like a closing tag ends the command without one. -/
theorem run_parse_bracketedNames :
    run (.ready fun _ => letter) narrowConsole (workDirectory [(["notes[draft].py".toList], #[0x78])])
      ["parse","notes[draft].py"] = .done
        { exitCode := 0, output := "notes.py: 1 nodes, 0 diagnostics\n", errors := "" } ∧
    run (.ready fun _ => letter) narrowConsole (workDirectory [(["[".toList,"x].py".toList], #[0x78])])
      ["parse","[/x].py"] = .done
        { exitCode := 1, output := "", errors := "", crash := some .markup } := by
  have hdraft : (workDirectory [(["notes[draft].py".toList], #[0x78])]).Holds
      (Path.ofText "notes[draft].py") ['x'] := ⟨#[0x78],by decide +kernel,by decide +kernel⟩
  have hclosing : (workDirectory [(["[".toList,"x].py".toList], #[0x78])]).Holds
      (Path.ofText "[/x].py") ['x'] := ⟨#[0x78],by decide +kernel,by decide +kernel⟩
  constructor
  · rw [run_of_holds narrowConsole (fun _ => letter) (by decide) hdraft rfl]
    simp only [Outline.ofParsed, Parser.parsed, Parser.tree, RawTree.normalize_eq_grow]
    decide +kernel
  · rw [run_of_holds narrowConsole (fun _ => letter) (by decide) hclosing rfl]
    simp only [Outline.ofParsed, Parser.parsed, Parser.tree, RawTree.normalize_eq_grow]
    decide +kernel

end CommandLine

end SourceOutline
