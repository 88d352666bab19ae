import DialogueTree.Player.CommandLine
import DialogueTree.Proofs.Decimal.Numeral
import DialogueTree.Proofs.Player.Catalogue
import DialogueTree.Proofs.Scenario.Replay
import Mathlib.Data.List.Forall2
import Mathlib.Data.List.Infix

/-!
# Cases played at the prompt

A player and a case lead a conversation each in its own way: the one line by line, the other all at
once. If the player is fed what the case answers, an empty line for each line of the conversation
and each choice in decimal, it comes to the stops whose events the case records, and shows one after
another. What it writes is told character by character.

Results:
* `Play.toList_text`: the characters of lines.
* `Play.shows_stopLines`: the lines in which a stop is shown.
* `Play.obey_eq_proceed`: a line that does not start with a colon is no command.
* `Play.tells_of_comesTo`: a conversation that comes to its end is shown stop by stop.
* `CommandLine.play_shows_run`: the player shows what the case records.
-/

namespace DialogueTree

open FileTree

namespace Play

/-! ## Lines that are shown -/

/-- The characters of lines, with a line feed after each of them. -/
def lineChars (lines : List String) : List Char := lines.flatMap fun line => line.toList ++ ['\n']

@[simp] theorem toList_text (lines : List String) : (text lines).toList = lineChars lines := by
  induction lines with
  | nil => rfl
  | cons line lines ih =>
    have hcons : text (line :: lines) = line ++ "\n" ++ text lines := by
      unfold text
      rw [List.map_cons, String.join_cons]
    rw [hcons, String.toList_append, String.toList_append, ih]
    rfl

theorem text_append (lines lines' : List String) :
    text (lines ++ lines') = text lines ++ text lines' := by
  unfold text
  rw [List.map_append, String.join_append]

/-- The line that names a speaker, if there is one. -/
def speakerLines : Option String → List String
  | some name => ["[" ++ name ++ "]"]
  | none => []

/-- The lines in which a stop is shown: an empty one, the speaker if one is announced, the line or
the question, and each answer with its number. The end is shown in a line of its own. -/
inductive Shows : Stop → List String → Prop
  | dialogue (speaker : Option String) (text : String) :
      Shows ⟨speaker, .dialogue text⟩ ("" :: speakerLines speaker ++ [text])
  | branch (speaker : Option String) (question : String) (answers : List Answer) :
      Shows ⟨speaker, .branch question answers⟩ ("" :: speakerLines speaker ++ question ::
        answers.map fun a => "  [" ++ toString a.index ++ "] " ++ a.text)
  | finish (speaker : Option String) : Shows ⟨speaker, .finish⟩ ["[END]"]

theorem shows_stopLines (stop : Stop) : Shows stop (stopLines stop) := by
  obtain ⟨speaker, output⟩ := stop
  cases output with
  | dialogue text =>
    cases speaker with
    | none => exact .dialogue none text
    | some name => exact .dialogue (some name) text
  | branch question answers =>
    cases speaker with
    | none => exact .branch none question answers
    | some name => exact .branch (some name) question answers
  | finish => exact .finish speaker

/-! ## Lines that are typed -/

/-- Whether the lines of an input lead through events: an empty one for each line of the
conversation, and the next choice in decimal for each question, white space aside. What comes after
the end is not read. -/
inductive Feeds : List Event → List Nat → List (Option String) → Prop
  | finish (rest : List (Option String)) : Feeds [.finish] [] rest
  | dialogue {speaker : Option String} {text line : String} {events : List Event}
      {choices : List Nat} {rest : List (Option String)} :
      Text.trim (bare line) = "" → Feeds events choices rest →
      Feeds (.dialogue speaker text :: events) choices (some line :: rest)
  | branch {speaker : Option String} {question line : String} {answers : List String}
      {events : List Event} {choice : Nat} {choices : List Nat} {rest : List (Option String)} :
      Text.trim (bare line) = toString choice → Feeds events choices rest →
      Feeds (.branch speaker question answers :: events) (choice :: choices) (some line :: rest)

variable {setting : Setting} {p : Prompt} {line : String}

/-- A line that does not start with a colon is no command. -/
theorem obey_eq_proceed (h : (Text.trim line).toList.head? ≠ some ':') :
    (obey setting p line : ExceptT PlayerError (StateM FileTree) _) =
      ExceptT.mk (pure (proceed p line)) := by
  unfold obey
  split
  case h_7 => rfl
  all_goals
    rename_i heq
    rw [heq] at h
    exact absurd rfl h

/-- An empty line goes on. -/
theorem proceed_blank {shown : String} {type : NodeType} {next : Session}
    (hshown : p.shown = .dialogue shown) (hline : Text.trim line = "")
    (hgo : p.session.advance = (.ok type, next)) :
    proceed p line = .ok ([], .moved next false) := by
  unfold proceed
  rw [hshown]
  dsimp only
  rw [if_pos hline, hgo]

/-- A choice in decimal is taken. -/
theorem proceed_choice {question : String} {answers : List Answer} {choice : Nat} {type : NodeType}
    {next : Session} (hshown : p.shown = .branch question answers)
    (hline : Text.trim line = toString choice) (hlt : choice < indexLimit)
    (hgo : p.session.choose choice = (.ok type, next)) :
    proceed p line = .ok ([], .moved next false) := by
  unfold proceed
  rw [hshown]
  dsimp only
  rw [hline, Whole.index?_toString hlt]
  dsimp only
  rw [hgo]

/-! ## Steps of a play -/

/-- What is written after something else when a stop has been shown and the input goes on. -/
def goOn (setting : Setting) (written : String) (shown : List String × Next)
    (input : List (Option String)) : StateM FileTree (String × Except PlayerError Unit) :=
  match shown.2 with
  | .prompt p => do
    let (more, result) ← converse setting p input
    return (written ++ text shown.1 ++ more, result)
  | .finished => return (written ++ text shown.1, .ok ())
  | .failed e => return (written ++ text shown.1, .error e)

variable {t : FileTree} {next : Session}

theorem eval_answer (hcolon : (Text.trim (bare line)).toList.head? ≠ some ':')
    (h : proceed p (bare line) = .ok ([], .moved next false)) :
    t.eval (answer setting p (some line)) = (present next false, t) := by
  have hobey : t.eval (obey setting p (bare line)).run = (.ok ([], .moved next false), t) := by
    rw [eval_run, obey_eq_proceed hcolon, exec_outcome, h]
  unfold answer
  rw [eval_bind t hobey]
  rfl

theorem eval_converse {t' : FileTree} {shown : List String × Next} {first : Option String}
    {rest : List (Option String)} (h : t.eval (answer setting p first) = (shown, t')) :
    t.eval (converse setting p (first :: rest)) = t'.eval (goOn setting promptText shown rest) := by
  unfold converse
  rw [eval_bind t h]
  rfl

theorem present_eq {s noted : Session} {announce : Bool} {stop : Stop}
    (h : s.stop announce = (.ok stop, noted)) : present s announce = (stopLines stop,
      if stop.output.isFinish then .finished else .prompt ⟨noted, stop.output⟩) := by
  unfold present
  rw [h]

/-- Where a line has been answered, what is shown next follows a prompt. -/
theorem eval_goOn_prompt {written more : String} {lines : List String} {first : Option String}
    {rest : List (Option String)} {shown : List String × Next} {result : Except PlayerError Unit}
    (hanswer : t.eval (answer setting p first) = (shown, t))
    (h : t.eval (goOn setting promptText shown rest) = ((promptText ++ more, result), t)) :
    t.eval (goOn setting written (lines, .prompt p) (first :: rest)) =
      ((written ++ text lines ++ (promptText ++ more), result), t) := by
  unfold goOn
  dsimp only
  rw [eval_bind t ((eval_converse hanswer).trans h)]
  rfl

/-- Whether what is written from a stop on shows stops to the last one, with a prompt before each
of them but the first, and the files stay as they are. -/
def Tells (t : FileTree) (setting : Setting) (written : String) (shown : List String × Next)
    (input : List (Option String)) (stops : List Stop) : Prop :=
  ∃ blocks, List.Forall₂ Shows stops blocks ∧ t.eval (goOn setting written shown input) =
    ((written ++ promptText.intercalate (blocks.map text), .ok ()), t)

/-- One line at the prompt, between two stops. -/
theorem Tells.cons {s noted : Session} {announce : Bool} {stop : Stop} {stops : List Stop}
    {rest : List (Option String)} (hstop : s.stop announce = (.ok stop, noted))
    (hopen : stop.output.isFinish = false)
    (hcolon : (Text.trim (bare line)).toList.head? ≠ some ':')
    (hproceed : proceed ⟨noted, stop.output⟩ (bare line) = .ok ([], .moved next false))
    (hmore : stops ≠ []) (h : Tells t setting promptText (present next false) rest stops)
    (written : String) :
    Tells t setting written (present s announce) (some line :: rest) (stop :: stops) := by
  obtain ⟨blocks, hblocks, heval⟩ := h
  refine ⟨stopLines stop :: blocks, .cons (shows_stopLines stop) hblocks, ?_⟩
  rw [present_eq hstop, hopen, if_neg Bool.false_ne_true,
    eval_goOn_prompt (eval_answer hcolon hproceed) heval]
  cases hblocks with
  | nil => exact absurd rfl hmore
  | cons _ _ =>
    rw [List.map_cons, List.map_cons, List.map_cons, String.intercalate_cons_cons,
      String.append_assoc, String.append_assoc]

/-- A conversation that comes to its end is shown stop by stop, if it is fed what leads through the
events. -/
theorem tells_of_comesTo {announce : Bool} {s : Session} {choices rest : List Nat}
    {passed : List Stop} {last : Stop} {input : List (Option String)}
    (h : s.ComesTo announce choices passed last rest) (hlast : last.output = .finish)
    (hinput : Feeds ((passed ++ [last]).map .ofStop) choices input)
    (hlt : ∀ choice ∈ choices, choice < indexLimit) (setting : Setting) (written : String)
    (t : FileTree) : Tells t setting written (present s announce) input (passed ++ [last]) := by
  have hmore (passed : List Stop) (last : Stop) : passed ++ [last] ≠ [] :=
    List.append_ne_nil_of_right_ne_nil passed (List.cons_ne_nil last [])
  induction h generalizing input written with
  | @here _ _ _ stop _ hstop =>
    refine ⟨[stopLines stop], .cons (shows_stopLines stop) .nil, ?_⟩
    rw [present_eq hstop, hlast]
    rfl
  | @dialogue _ _ _ _ stop _ shown _ _ _ _ hstop hout hgo _ ih =>
    have hevent : Event.ofStop stop = .dialogue stop.speaker shown := by rw [Event.ofStop, hout]
    rw [List.cons_append, List.map_cons, hevent] at hinput
    cases hinput with
    | dialogue hline hrest =>
      exact .cons hstop (by rw [hout]; rfl) (by rw [hline]; decide)
        (proceed_blank hout hline hgo) (hmore _ _) (ih hlast hrest hlt promptText) written
  | @branch _ _ _ _ stop _ question answers _ choice _ _ _ hstop hout hgo _ ih =>
    have hevent : Event.ofStop stop = .branch stop.speaker question (answers.map (·.text)) := by
      rw [Event.ofStop, hout]
    rw [List.cons_append, List.map_cons, hevent] at hinput
    cases hinput with
    | branch hline hrest =>
      exact .cons hstop (by rw [hout]; rfl) (by rw [hline]; exact Whole.head?_toString choice)
        (proceed_choice hout hline (hlt _ List.mem_cons_self) hgo) (hmore _ _)
        (ih hlast hrest (fun c hc => hlt c (List.mem_cons_of_mem _ hc)) promptText) written

/-! ## Whole plays -/

/-- A play on a directory that a case records in. -/
theorem exec_begin {t : FileTree} {b : Beginning} {trees : Sources} {store : Option String}
    {l : Library} {report : LoadReport} {s : Session} (saveFile : Path)
    (hglobals : b.globals = none) (hdir : t.kind? (t.absolute b.directory) = some .directory)
    (htrees : t.trees (t.absolute b.directory) = .ok trees)
    (hstore : t.globals (t.absolute b.directory) = .ok store)
    (hl : Library.ofSources trees store = .ok l)
    (hstart : l.start b.tree b.start = (.ok report, s)) :
    ∃ setting, setting.catalogue.title = Catalogue.directoryTitle (t.absolute b.directory) ∧
      t.exec (begin b saveFile) = (.ok (setting, s), t) := by
  refine ⟨⟨⟨Catalogue.directoryId (t.absolute b.directory),
    Catalogue.directoryTitle (t.absolute b.directory), trees, store⟩, b, saveFile⟩, rfl, ?_⟩
  have hresult : Catalogue.start ⟨Catalogue.directoryId (t.absolute b.directory),
      Catalogue.directoryTitle (t.absolute b.directory), trees, store⟩ b.tree b.start = .ok s := by
    rw [Catalogue.start, Catalogue.library, hl, Outcome.mapError_ok, Outcome.bind_ok, hstart]
    rfl
  unfold begin
  rw [exec_bind, hglobals, Catalogue.exec_ofDirectory hdir htrees hstore]
  dsimp only
  rw [exec_bind, exec_outcome, hresult]
  rfl

theorem eval_run_play {t : FileTree} {b : Beginning} {saveFile : Path} {setting : Setting}
    {s : Session} {input : List (Option String)}
    (h : t.exec (begin b saveFile) = (.ok (setting, s), t)) :
    t.eval (run b saveFile input) = t.eval (goOn setting
      (text [setting.catalogue.title, helpLine]) (present s true) input) := by
  have hwritten (lines : List String) : text (setting.catalogue.title :: helpLine :: lines) =
      text [setting.catalogue.title, helpLine] ++ text lines :=
    text_append [setting.catalogue.title, helpLine] lines
  unfold run
  rw [eval_bind t ((t.eval_run _).trans h)]
  dsimp only
  unfold opening
  dsimp only
  rw [hwritten]
  rfl

end Play

/-- The inn is read the same by its path and by its absolute path. -/
theorem Scenario.sameTexts_inn : innFiles.SameTexts (innFiles.absolute "t") "t" := by
  refine sameTexts_absolute ⟨?_, ?_, ?_⟩ (by decide) ⟨by decide +kernel, by decide +kernel, ?_⟩
  · intro name hname
    cases hname
  · intro name hname
    cases hname
  · intro l hl
    rw [List.prefix_nil.mp hl]
    rfl
  · have hall : ∀ entry ∈ innFiles.entries, ∀ l ∈ entry.1.tails.flatMap List.inits,
        (innFiles.absolute (Path.below "t" ("/".intercalate l))).utf8ByteSize ≤ Path.maxBytes := by
      decide +kernel
    intro entry hentry l hl
    obtain ⟨l', hprefix, hsuffix⟩ := List.infix_iff_prefix_suffix.mp hl
    refine hall entry hentry l (List.mem_flatMap.mpr ⟨l', ?_, ?_⟩)
    · exact (List.mem_tails ..).mpr hsuffix
    · exact (List.mem_inits ..).mpr hprefix

/-- The stops that the conversation of a case shows in a directory, from its start to its end. -/
def Scenario.Stops (t : FileTree) (dir : Path) (c : TestCase) (stops : List Stop) : Prop :=
  ∃ l report s passed last, (t.exec (library dir)).1 = .ok l ∧
    l.start c.tree c.start = (.ok report, s) ∧ s.ComesTo true c.choices passed last [] ∧
      last.output = .finish ∧ passed ++ [last] = stops

namespace CommandLine

/-- If a case records events in a directory, a play there that is fed what leads through them shows
the stops that they are the events of: a title and the commands, then stop by stop, with a prompt
before each but the first. It succeeds, and leaves all files as they are. The case and the play may
name the directory in two ways, as long as they read the same there. -/
theorem play_shows_run {t : FileTree} {dir dir' : Path} {c : TestCase} {r : RunReport}
    {input : List (Option String)} (hdir : t.kind? (t.absolute dir) = some .directory)
    (hsame : t.SameTexts (t.absolute dir) dir')
    (hrun : (t.exec (Scenario.run dir' c)).1 = .ok r)
    (hinput : Play.Feeds r.events c.choices input) (saveFile : Path) :
    ∃ stops blocks written, Scenario.Stops t dir' c stops ∧ r.events = stops.map .ofStop ∧
      List.Forall₂ Play.Shows stops blocks ∧
      t.eval (runCommand input
        (.play { directory := dir, tree := c.tree, start := c.start } saveFile)) =
          (⟨0, written⟩, t) ∧
      written.toList =
        Play.lineChars [Catalogue.directoryTitle (t.absolute dir),
          "commands: :help :save :load :restart :vars :quit"] ++
        ['>', ' '].intercalate (blocks.map Play.lineChars) := by
  have hlt := Scenario.choices_lt_of_run hrun
  rw [Scenario.run_fst] at hrun
  obtain ⟨l, hlibrary, hrun⟩ := Outcome.bind_eq_ok.mp hrun
  obtain ⟨trees, store, htrees, hstore, hl⟩ := Scenario.library_eq_ok hlibrary
  obtain ⟨report, s, passed, last, hstart, hcomes, hlast, -, rfl⟩ := TestCase.run_eq_ok.mp hrun
  obtain ⟨setting, htitle, hbegin⟩ := Play.exec_begin
    (b := { directory := dir, tree := c.tree, start := c.start }) saveFile rfl hdir
    (hsame.trees_eq_ok htrees) (hsame.globals_eq_ok hstore) hl hstart
  obtain ⟨blocks, hblocks, heval⟩ := Play.tells_of_comesTo hcomes hlast hinput hlt setting
    (Play.text [setting.catalogue.title, Play.helpLine]) t
  have hplay : t.eval (runCommand input
      (.play { directory := dir, tree := c.tree, start := c.start } saveFile)) =
        (⟨0, Play.text [Catalogue.directoryTitle (t.absolute dir), Play.helpLine] ++
          Play.promptText.intercalate (blocks.map Play.text)⟩, t) := by
    unfold runCommand
    rw [eval_bind t ((Play.eval_run_play hbegin).trans heval), htitle]
    rfl
  refine ⟨passed ++ [last], blocks, _,
    ⟨l, report, s, passed, last, hlibrary, hstart, hcomes, hlast, rfl⟩, rfl, hblocks, hplay, ?_⟩
  have hblock : String.toList ∘ Play.text = Play.lineChars := funext Play.toList_text
  rw [String.toList_append, Play.toList_text, String.toList_intercalate, List.map_map, hblock]
  rfl

open Scenario in
/-- A guest types an empty line, the first choice, and an empty line. -/
theorem play_shows_meal : ∃ stops blocks written, Scenario.Stops innFiles "t" hungry stops ∧
    meal = stops.map .ofStop ∧ List.Forall₂ Play.Shows stops blocks ∧
    innFiles.eval (runCommand [some "\n", some "0\n", some "\r\n"]
      (.play { directory := "t" } Command.defaultSaveFile)) = (⟨0, written⟩, innFiles) ∧
    written.toList =
      Play.lineChars ["Trees t", "commands: :help :save :load :restart :vars :quit"] ++
      ['>', ' '].intercalate (blocks.map Play.lineChars) := by
  have hinput : Play.Feeds meal hungry.choices [some "\n", some "0\n", some "\r\n"] :=
    .dialogue (by decide +kernel) (.branch (by decide +kernel)
      (.dialogue (by decide +kernel) (.finish _)))
  have htitle : Catalogue.directoryTitle (innFiles.absolute "t") = "Trees t" := by decide +kernel
  have hplay := play_shows_run (by decide +kernel) sameTexts_inn run_inn hinput
    Command.defaultSaveFile
  rwa [htitle] at hplay

end CommandLine

end DialogueTree
