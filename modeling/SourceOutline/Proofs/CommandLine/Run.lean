import SourceOutline.CommandLine.Run
import SourceOutline.Proofs.Entity.Influence

/-! What the two commands have in common. Both end at the first check that fails, and then leave the same
behind; if none fails, both report on the same outline. The file is looked at first, then its text, the
settings, the tag of the language and the engine. -/
namespace SourceOutline

namespace Outline

variable {tag : String}

/-- A tag without a parser is found before the engine is set up. -/
lemma result_read_of_ne (engine : Engine) (source : String) (settings : Settings) (h : tag ≠ "python") :
    (read engine source tag settings).result = .error (.unsupportedTag tag) := by
  have hparser : (Parser.ofTag? engine tag settings).result = .ok none := by
    rw [Parser.ofTag?]
    cases hlanguage : Language.ofTag? tag with
    | none => rfl
    | some language =>
      have htag := Language.tag_of_ofTag? hlanguage
      cases language with
      | python => exact absurd htag.symm h
      | _ => rfl
  rw [read]
  change (Logged.bind _ _).result = _
  rw [Logged.result_bind hparser]
  rfl

lemma result_read_of_broken (reason source : String) (settings : Settings) :
    (read (.broken reason) source "python" settings).result = .error (.engine .python reason) := rfl

end Outline

namespace CommandLine

/-- A path leads to a file with a text. -/
def Directory.Holds (d : Directory) (path : Path) (source : List Char) : Prop :=
  ∃ content, d.entry path = .file content ∧ Text.ofFile content = .ok source

section Checks

variable (engine : Engine) (d : Directory) (path : Path) (language : String)

/-- The first check that fails. What a check needs from those before it says that they do not fail. -/
inductive StopsAt : Stop → Prop
  | noFile (h : ∀ content, d.entry path ≠ .file content) : StopsAt (.noFile path.toText)
  | notText {content : Octets} {place : Text.Utf8.Malformed} (hentry : d.entry path = .file content)
      (h : Text.ofFile content = .error place) : StopsAt (.notText place)
  | settings {source : List Char} {fault : Settings.Fault} (hsource : d.Holds path source)
      (h : d.settings = .error fault) : StopsAt (.settings fault)
  | language {source : List Char} {loaded : Settings.Loaded} (hsource : d.Holds path source)
      (hsettings : d.settings = .ok loaded) (h : language ≠ "python") :
      StopsAt (.failure (.unsupportedTag language))
  | engine {source : List Char} {loaded : Settings.Loaded} {reason : String}
      (hsource : d.Holds path source) (hsettings : d.settings = .ok loaded)
      (hlanguage : language = "python") (h : engine = .broken reason) :
      StopsAt (.failure (.engine .python reason))

/-- No check fails. -/
structure Ready (parse : Octets → RawTree) (source : List Char) (loaded : Settings.Loaded) : Prop where
  source : d.Holds path source
  settings : d.settings = .ok loaded
  language : language = "python"
  engine : engine = .ready parse

end Checks

section Prepare

variable {engine : Engine} {d : Directory} {path : Path} {language : String}

lemma readSource_of_holds {source : List Char} (h : d.Holds path source) :
    readSource (d.entry path) path.toText = .ok (String.ofList source) := by
  obtain ⟨content,hentry,htext⟩ := h
  simp only [readSource, hentry, htext]

lemma prepare_of_holds {source : List Char} {loaded : Settings.Loaded} (hsource : d.Holds path source)
    (hsettings : d.settings = .ok loaded) : prepare engine d path language =
      (loaded.warnings.map .settings ++
        (Outline.read engine (String.ofList source) language loaded.settings).log,
        (Outline.read engine (String.ofList source) language loaded.settings).result.mapError .failure) := by
  simp only [prepare, readSource_of_holds hsource, hsettings]

/-- A check that fails ends the preparation. -/
theorem prepare_of_stopsAt {stop : Stop} (h : StopsAt engine d path language stop) :
    (prepare engine d path language).2 = .error stop := by
  cases h with
  | noFile h =>
    cases hentry : d.entry path with
    | file content => exact absurd hentry (h content)
    | _ => simp only [prepare, readSource, hentry]
  | notText hentry h => simp only [prepare, readSource, hentry, h]
  | settings hsource h =>
    simp only [prepare, readSource_of_holds hsource, h]
  | language hsource hsettings h =>
    rw [prepare_of_holds hsource hsettings, Outline.result_read_of_ne _ _ _ h, Except.mapError]
  | engine hsource hsettings hlanguage h =>
    rw [prepare_of_holds hsource hsettings, hlanguage, h, Outline.result_read_of_broken, Except.mapError]

theorem prepare_of_ready {parse : Octets → RawTree} {source : List Char} {loaded : Settings.Loaded}
    (h : Ready engine d path language parse source loaded) :
    ∃ o, (Outline.read engine (String.ofList source) language loaded.settings).result = .ok o ∧
      (prepare engine d path language).2 = .ok o := by
  obtain ⟨hsource,hsettings,rfl,rfl⟩ := h
  refine ⟨_,Outline.result_read parse (String.ofList source) loaded.settings,?_⟩
  rw [prepare_of_holds hsource hsettings, Outline.result_read, Except.mapError]

/-- Some check fails, or none does. -/
theorem stopsAt_or_ready (engine : Engine) (d : Directory) (path : Path) (language : String) :
    (∃ stop, StopsAt engine d path language stop) ∨
      ∃ parse source loaded, Ready engine d path language parse source loaded := by
  cases hentry : d.entry path with
  | absent => exact Or.inl ⟨_,.noFile (by simp [hentry])⟩
  | directory => exact Or.inl ⟨_,.noFile (by simp [hentry])⟩
  | file content =>
    cases htext : Text.ofFile content with
    | error place => exact Or.inl ⟨_,.notText hentry htext⟩
    | ok source =>
      have hsource : d.Holds path source := ⟨content,hentry,htext⟩
      cases hsettings : d.settings with
      | error fault => exact Or.inl ⟨_,.settings hsource hsettings⟩
      | ok loaded =>
        by_cases hlanguage : language = "python"
        · cases engine with
          | broken reason => exact Or.inl ⟨_,.engine hsource hsettings hlanguage rfl⟩
          | ready parse => exact Or.inr ⟨parse,source,loaded,hsource,hsettings,hlanguage,rfl⟩
        · exact Or.inl ⟨_,.language hsource hsettings hlanguage⟩

/-- A file that nothing stops the commands at is not stopped at. -/
lemma Ready.not_stopsAt {parse : Octets → RawTree} {source : List Char} {loaded : Settings.Loaded}
    (h : Ready engine d path language parse source loaded) (stop : Stop) :
    ¬ StopsAt engine d path language stop := by
  intro hstop
  obtain ⟨o,-,hready⟩ := prepare_of_ready h
  rw [prepare_of_stopsAt hstop] at hready
  cases hready

end Prepare

section Results

variable {engine : Engine} {console : Markup.Console} {d : Directory} {path : Path} {language : String}
  {rest : List String}

/-- What a check that failed leaves behind. The exit code tells what the user can mend, the file or its
tag, from what is wrong with the text or the engine; a fault of the settings escapes instead. -/
structure Stopped (engine : Engine) (d : Directory) (path : Path) (language : String) (result : Result) :
    Prop where
  cause : ∃ stop log, StopsAt engine d path language stop ∧ result = stop.result log
  output_eq : result.output = ""
  crash_iff : result.crash ≠ none ↔ (∃ source, d.Holds path source) ∧ ∃ fault, d.settings = .error fault
  exitCode_one : result.crash = none → (result.exitCode = 1 ↔
    (∀ content, d.entry path ≠ .file content) ∨ (∃ source, d.Holds path source) ∧ language ≠ "python")
  exitCode_two : result.crash = none → (result.exitCode = 2 ↔
    (∃ content place, d.entry path = .file content ∧ Text.ofFile content = .error place) ∨
      (∃ source, d.Holds path source) ∧ language = "python" ∧ ∃ reason, engine = .broken reason)

/-- What the two commands leave behind when no check fails. -/
structure Reported (engine : Engine) (d : Directory) (path : Path) (language : String)
    (parse entities : Result) : Prop where
  unstopped : ∀ stop, ¬ StopsAt engine d path language stop
  errors_eq : parse.errors = entities.errors
  entities_crash : entities.crash = none
  entities_exitCode : entities.exitCode = 0
  parse_crash : parse.crash = none ∨ parse.crash = some .markup
  parse_exitCode : ∃ source loaded o, d.Holds path source ∧ d.settings = .ok loaded ∧
    (Outline.read engine (String.ofList source) language loaded.settings).result = .ok o ∧
    (parse.crash = none → parse.exitCode = if o.parsed.hasErrors then 1 else 0)

/-- What the two commands lead to with the same arguments. -/
inductive Alike (engine : Engine) (d : Directory) (rest : List String) : Outcome → Outcome → Prop
  | help (hrequest : ∀ command : Command, Request.ofArguments (command.name :: rest) = .help) :
      Alike engine d rest (.usage 0) (.usage 0)
  | misuse (hrequest : ∀ command : Command, Request.ofArguments (command.name :: rest) = .misuse) :
      Alike engine d rest (.usage 2) (.usage 2)
  | stopped {file language : String} {result : Result}
      (hrequest : ∀ command : Command,
        Request.ofArguments (command.name :: rest) = .run command file language)
      (h : Stopped engine d (Path.ofText file) language result) :
      Alike engine d rest (.done result) (.done result)
  | reported {file language : String} {parse entities : Result}
      (hrequest : ∀ command : Command,
        Request.ofArguments (command.name :: rest) = .run command file language)
      (h : Reported engine d (Path.ofText file) language parse entities) :
      Alike engine d rest (.done parse) (.done entities)

theorem stopped_of_stopsAt {stop : Stop} (h : StopsAt engine d path language stop) (log : List Log.Entry) :
    Stopped engine d path language (stop.result log) := by
  have hcause : ∃ s l, StopsAt engine d path language s ∧ stop.result log = s.result l := ⟨stop,log,h,rfl⟩
  cases h with
  | noFile h =>
    have hsource : ∀ source, ¬ d.Holds path source := fun _ ⟨content,hentry,_⟩ => h content hentry
    constructor
    case cause => exact hcause
    all_goals simp [Stop.result, Stop.report, h, hsource]
  | @notText content place hentry h =>
    have hsource : ∀ source, ¬ d.Holds path source := by
      rintro source ⟨content',hentry',htext⟩
      cases hentry.symm.trans hentry'
      simp [h] at htext
    constructor
    case cause => exact hcause
    all_goals simp [Stop.result, Stop.report, hentry, h, hsource]
  | @settings source fault hsource h =>
    have hfault : (∃ source, d.Holds path source) ∧ ∃ fault, d.settings = .error fault :=
      ⟨⟨source,hsource⟩,fault,h⟩
    constructor
    case cause => exact hcause
    all_goals simp [Stop.result, Stop.report, hfault]
  | @language source loaded hsource hsettings h =>
    have hexists : ∃ source, d.Holds path source := ⟨source,hsource⟩
    obtain ⟨content,hentry,htext⟩ := hsource
    constructor
    case cause => exact hcause
    all_goals simp [Stop.result, Stop.report, hentry, htext, hexists, hsettings, h]
  | @engine source loaded reason hsource hsettings hlanguage h =>
    have hexists : ∃ source, d.Holds path source := ⟨source,hsource⟩
    obtain ⟨content,hentry,htext⟩ := hsource
    constructor
    case cause => exact hcause
    all_goals simp [Stop.result, Stop.report, hentry, htext, hexists, hsettings, hlanguage, h]

/-- A report with right markup ends the command by itself. -/
lemma result_parse_of_complete {o : Outline} (h : (o.diagnosticsReport console path.toText).2 = true)
    (log : List Log.Entry) : Command.parse.result console log path o =
      { exitCode := if o.parsed.hasErrors then 1 else 0
        output := (o.diagnosticsReport console path.toText).1
        errors := lines (Log.shown log) } := by
  simp only [Command.result, h, if_true]

lemma result_parse_of_incomplete {o : Outline} (h : (o.diagnosticsReport console path.toText).2 = false)
    (log : List Log.Entry) : Command.parse.result console log path o =
      { exitCode := 1, output := (o.diagnosticsReport console path.toText).1, errors := lines (Log.shown log),
        crash := some .markup } := by
  simp only [Command.result, h, Bool.false_eq_true, if_false]

theorem reported_of_ready {parse : Octets → RawTree} {source : List Char} {loaded : Settings.Loaded}
    (h : Ready engine d path language parse source loaded) {o : Outline}
    (hread : (Outline.read engine (String.ofList source) language loaded.settings).result = .ok o)
    (console : Markup.Console) (log : List Log.Entry) :
    Reported engine d path language (Command.parse.result console log path o)
      (Command.entities.result console log path o) := by
  cases hcomplete : (o.diagnosticsReport console path.toText).2 with
  | true =>
    rw [result_parse_of_complete hcomplete]
    exact ⟨h.not_stopsAt,rfl,rfl,rfl,Or.inl rfl,source,loaded,o,h.source,h.settings,hread,fun _ => rfl⟩
  | false =>
    rw [result_parse_of_incomplete hcomplete]
    exact ⟨h.not_stopsAt,rfl,rfl,rfl,Or.inr rfl,source,loaded,o,h.source,h.settings,hread,
      fun hcrash => absurd hcrash (Option.some_ne_none _)⟩

lemma ofArguments_name (command : Command) (rest : List String) :
    Request.ofArguments (command.name :: rest) = Request.ofCommand command (rest.map String.toList) := by
  cases command <;> rfl

/-- The arguments behind the name of a command ask for the same of either command. -/
lemma ofArguments_cases (rest : List String) :
    (∀ command : Command, Request.ofArguments (command.name :: rest) = .misuse) ∨
    (∀ command : Command, Request.ofArguments (command.name :: rest) = .help) ∨
    ∃ file language, ∀ command : Command,
      Request.ofArguments (command.name :: rest) = .run command file language := by
  simp only [ofArguments_name, Request.ofCommand]
  split
  · exact Or.inl fun _ => rfl
  · split_ifs
    · exact Or.inr (Or.inl fun _ => rfl)
    · split
      · exact Or.inr (Or.inr ⟨_,_,fun _ => rfl⟩)
      · exact Or.inl fun _ => rfl

/-- Any file and any tag can be asked for. -/
theorem ofArguments_file (command : Command) (file language : String) :
    Request.ofArguments [command.name,"--language",language,"--",file] = .run command file language := by
  rw [ofArguments_name]
  change Request.run command (String.ofList file.toList) (String.ofList language.toList) = _
  rw [String.ofList_toList, String.ofList_toList]

/-- With the same arguments both commands fail alike before they report, or neither fails; then the listing
of entities succeeds, and the report of diagnostics fails just for an error, unless its markup is wrong. -/
theorem run_alike (engine : Engine) (console : Markup.Console) (d : Directory) (rest : List String) :
    Alike engine d rest (run engine console d (Command.parse.name :: rest))
      (run engine console d (Command.entities.name :: rest)) := by
  rcases ofArguments_cases rest with hrequest | hrequest | ⟨file,language,hrequest⟩
  · simp only [run, hrequest]
    exact .misuse hrequest
  · simp only [run, hrequest]
    exact .help hrequest
  · simp only [run, hrequest, Command.run]
    generalize hprepared : prepare engine d (Path.ofText file) language = prepared
    obtain ⟨log,outcome⟩ := prepared
    rcases stopsAt_or_ready engine d (Path.ofText file) language with ⟨stop,hstop⟩ |
      ⟨parse,source,loaded,hready⟩
    · have houtcome := prepare_of_stopsAt hstop
      rw [hprepared] at houtcome
      cases houtcome
      exact .stopped hrequest (stopped_of_stopsAt hstop log)
    · obtain ⟨o,hread,houtcome⟩ := prepare_of_ready hready
      rw [hprepared] at houtcome
      cases houtcome
      exact .reported hrequest (reported_of_ready hready hread console log)

end Results

end CommandLine

end SourceOutline
