import DialogueTree.Proofs.Player.Play
import DialogueTree.Proofs.Reader.Answers

/-!
# Input that is turned down

What a line at the prompt does is told here together with the reader as it is left, also by a walk
or an answer that fails. Input that means nothing leaves the reader alone: put in front of any line
of a play, or at its end, it changes none of the stops that are shown, nor the reader after any of
the other lines, nor how the play ends.

Results:
* `Play.left_of_obey`, `Play.eval_answer_eq`: the player does with a line what its `Turn` says.
* `Play.turn_of_rejects`: a line that is turned down.
* `Play.exists_plays`, `Play.Plays.eval_goOn`: every play ends, and the player plays it.
* `Play.Plays.exists_woven`, `Play.plays_padded`: a play with more lines that are turned down.
-/

namespace DialogueTree

open FileTree

/-! ## Choices that are not found -/

theorem Document.isBranch_of_output {d : Document} {n : Node} {cursor : Nat}
    {expand : String → String} {question : String} {answers : List Answer}
    (hn : d.node? cursor = some n) (h : d.output expand cursor = .ok (.branch question answers)) :
    n.isBranch = true := by
  unfold output at h
  rw [nodeAt_eq_ok.mpr hn, Outcome.bind_ok] at h
  cases hc : n.content with
  | branch => simp [Node.isBranch, Node.type, hc, Content.type]
  | _ =>
    rw [hc] at h
    cases h

namespace Session

variable {s after : Session} {choice : Nat}

/-- Nothing is wired to an exit of the node that the reader rests on. -/
def Lacks (s : Session) (choice : Nat) : Prop :=
  ∃ place t n, s.loaded? = some (place, t) ∧ t.document.node? place.cursor = some n ∧
    n.outputAt? choice = none

/-- A choice that is not found leaves the reader as it was. -/
theorem choose_of_isUntaken {e : ReaderError} (h : s.choose choice = (.error e, after))
    (he : e.IsUntaken) : after = s := by
  unfold choose at h
  split at h
  · cases h
    rfl
  next place t hl =>
    split at h
    next first hfirst =>
      have hresult : (s.settle place t first).1 = .error e := congrArg Prod.fst h
      rw [← result_of_settle (w := ⟨_, first⟩) hl rfl] at hresult
      exact absurd he (Pass.not_isUntaken hresult)
    · cases h
      rfl

theorem choose_of_lacks {question : String} {answers : List Answer}
    (hout : s.output = .ok (.branch question answers)) (h : s.Lacks choice) :
    ∃ cursor, s.choose choice = (.error (.choiceNotFound cursor choice), s) := by
  obtain ⟨place, t, n, hl, hn, hexit⟩ := h
  simp only [output, hl] at hout
  have hb := Document.isBranch_of_output hn hout
  exact ⟨place.cursor, by simp only [choose, hl, Document.answered_of_no_exit hn hb hexit]⟩

/-- A stop is what is shown, and taking note of the speaker does not change that. -/
theorem output_of_stop {announce : Bool} {stop : Stop} (h : s.stop announce = (.ok stop, after)) :
    after.output = .ok stop.output := by
  have hafter : after = s.takeSpeakerChanged.2 := (congrArg Prod.snd h).symm
  have hstop := congrArg Prod.fst h
  unfold Session.stop at hstop
  dsimp only at hstop
  rw [← hafter] at hstop
  cases hout : after.output with
  | error e =>
    rw [hout] at hstop
    cases hstop
  | ok output =>
    rw [hout] at hstop
    cases hstop
    rfl

end Session

namespace Play

variable {setting : Setting} {t t' : FileTree} {p : Prompt} {line : String} {told : List String}

/-! ## Lines that are turned down -/

/-- The lines that are commands. -/
def commands : List String := [":help", ":save", ":load", ":restart", ":vars", ":quit"]

/-- Whether a line is turned down at a prompt: it asks for what can be typed or for the variables,
it is neither blank nor a command where a line of the conversation is shown, or where a question is
shown it is neither a number nor a command, or names a choice to which nothing is wired. -/
inductive Rejects (p : Prompt) (line : String) : Prop
  | help : Text.trim line = ":help" → Rejects p line
  | vars : Text.trim line = ":vars" → Rejects p line
  | dialogue {text : String} : p.shown = .dialogue text → Text.trim line ≠ "" →
      Text.trim line ∉ commands → Rejects p line
  | branch {question : String} {answers : List Answer} : p.shown = .branch question answers →
      Whole.index? (Text.trim line) = none → Text.trim line ∉ commands → Rejects p line
  | unwired {question : String} {answers : List Answer} {choice : Nat} :
      p.shown = .branch question answers → Whole.index? (Text.trim line) = some choice →
      p.session.Lacks choice → Rejects p line

/-! ## What a line leaves -/

/-- The reader after a line that is no command, also where it fails. -/
def walked (p : Prompt) (line : String) : Session :=
  match p.shown with
  | .branch .. =>
    match Whole.index? (Text.trim line) with
    | none => p.session
    | some choice => (p.session.choose choice).2
  | _ => if Text.trim line = "" then p.session.advance.2 else p.session

/-- The reader after a line. A save file or a start that cannot be used leaves it alone. -/
def left (setting : Setting) (t : FileTree) (p : Prompt) (line : String) : Session :=
  match Text.trim line with
  | ":load" => (t.exec (loadSave setting)).1.toOption.getD p.session
  | ":restart" =>
    (setting.catalogue.start setting.beginning.tree setting.beginning.start).toOption.getD p.session
  | ":help" | ":save" | ":vars" | ":quit" => p.session
  | _ => walked p line

/-- The reader that an effect goes on with. -/
def Effect.reader (p : Prompt) : Effect → Session
  | .moved s _ => s
  | _ => p.session

theorem walked_of_proceed {effect : Effect} (h : proceed p line = .ok (told, effect)) :
    walked p line = effect.reader p := by
  unfold proceed at h
  unfold walked
  cases hshown : p.shown with
  | branch question answers =>
    rw [hshown] at h
    cases hindex : Whole.index? (Text.trim line) with
    | none =>
      rw [hindex] at h
      cases h
      rfl
    | some choice =>
      rw [hindex] at h
      dsimp only at h
      change (p.session.choose choice).2 = _
      rcases hgo : p.session.choose choice with ⟨⟨e⟩ | ⟨type⟩, after⟩
      · rw [hgo] at h
        cases e with
        | choiceNotFound =>
          cases h
          exact Session.choose_of_isUntaken hgo trivial
        | _ => cases h
      · rw [hgo] at h
        cases h
        rfl
  | _ =>
    rw [hshown] at h
    dsimp only at h
    change (if Text.trim line = "" then p.session.advance.2 else p.session) = _
    by_cases hblank : Text.trim line = ""
    · rw [if_pos hblank] at h ⊢
      rcases hgo : p.session.advance with ⟨⟨e⟩ | ⟨type⟩, after⟩
      · rw [hgo] at h
        cases h
      · rw [hgo] at h
        cases h
        rfl
    · rw [if_neg hblank] at h ⊢
      cases h
      rfl

theorem left_eq_walked (h : Text.trim line ∉ commands) : left setting t p line = walked p line := by
  unfold left
  split
  case h_7 => rfl
  all_goals
    rename_i heq
    rw [heq] at h
    exact absurd (by decide) h

theorem obey_of_notMem (h : Text.trim line ∉ commands) :
    t.exec (obey setting p line) = (proceed p line, t) := by
  unfold obey
  split
  case h_7 => rfl
  all_goals
    rename_i heq
    rw [heq] at h
    exact absurd (by decide) h

section Commands

-- Where a command takes up another reader, it does so only if it succeeds.
variable {effect : Effect}

/-- Commands that tell something or end the play have nothing to do with the reader. -/
theorem left_of_idle
    (hline : Text.trim line = ":help" ∨ Text.trim line = ":vars" ∨ Text.trim line = ":quit")
    (h : t.exec (obey setting p line) = (.ok (told, effect), t')) :
    left setting t p line = effect.reader p := by
  unfold obey at h
  unfold left
  rcases hline with hline | hline | hline
  all_goals
    rw [hline] at h ⊢
    cases h
    rfl

theorem left_of_save (hline : Text.trim line = ":save")
    (h : t.exec (obey setting p line) = (.ok (told, effect), t')) :
    left setting t p line = effect.reader p := by
  have hobey : (obey setting p line : ExceptT PlayerError (StateM FileTree) _) = (do
      let save ← ExceptT.mk (pure (Save.ofSession setting.catalogue.id p.session))
      save.write setting.saveFile
      return (["saved: " ++ setting.saveFile], Effect.again)) := by
    unfold obey
    rw [hline]
    rfl
  have hleft : left setting t p line = p.session := by
    unfold left
    rw [hline]
    rfl
  rw [hobey, exec_bind, exec_outcome] at h
  rw [hleft]
  split at h
  · rw [exec_bind] at h
    split at h
    · cases h
      rfl
    · cases h
  · cases h

theorem left_of_load (hline : Text.trim line = ":load")
    (h : t.exec (obey setting p line) = (.ok (told, effect), t')) :
    left setting t p line = effect.reader p := by
  have hobey : (obey setting p line : ExceptT PlayerError (StateM FileTree) _) = (do
      return (["loaded: " ++ setting.saveFile], Effect.moved (← loadSave setting) true)) := by
    unfold obey
    rw [hline]
    rfl
  have hleft : left setting t p line =
      (t.exec (loadSave setting)).1.toOption.getD p.session := by
    unfold left
    rw [hline]
    rfl
  rw [hobey, exec_bind] at h
  rw [hleft]
  split at h
  next hload =>
    cases h
    rw [hload]
    rfl
  · cases h

theorem left_of_restart (hline : Text.trim line = ":restart")
    (h : t.exec (obey setting p line) = (.ok (told, effect), t')) :
    left setting t p line = effect.reader p := by
  have hobey : (obey setting p line : ExceptT PlayerError (StateM FileTree) _) = (do
      let s ← ExceptT.mk
        (pure (setting.catalogue.start setting.beginning.tree setting.beginning.start))
      return (["restarted"], Effect.moved s true)) := by
    unfold obey
    rw [hline]
    rfl
  have hleft : left setting t p line = (setting.catalogue.start setting.beginning.tree
      setting.beginning.start).toOption.getD p.session := by
    unfold left
    rw [hline]
    rfl
  rw [hobey, exec_bind, exec_outcome] at h
  rw [hleft]
  cases hstart : setting.catalogue.start setting.beginning.tree setting.beginning.start with
  | ok s =>
    rw [hstart] at h
    cases h
    rfl
  | error e =>
    rw [hstart] at h
    cases h

/-- A line goes on with the reader as it is left. -/
theorem left_of_obey (h : t.exec (obey setting p line) = (.ok (told, effect), t')) :
    left setting t p line = effect.reader p := by
  by_cases hcommand : Text.trim line ∈ commands
  · have hcases := hcommand
    simp only [commands, List.mem_cons, List.not_mem_nil, or_false] at hcases
    rcases hcases with hline | hline | hline | hline | hline | hline
    · exact left_of_idle (.inl hline) h
    · exact left_of_save hline h
    · exact left_of_load hline h
    · exact left_of_restart hline h
    · exact left_of_idle (.inr (.inl hline)) h
    · exact left_of_idle (.inr (.inr hline)) h
  · rw [obey_of_notMem hcommand] at h
    rw [left_eq_walked hcommand]
    exact walked_of_proceed (congrArg Prod.fst h)

end Commands

/-! ## Turns -/

/-- What a line at the prompt leads to: what is told about it, the stop that is shown then if there
is one, the reader as it is left, how the play goes on, and the files. -/
structure Turn where
  line : Option String
  told : List String
  stop : Option Stop
  session : Session
  next : Next
  files : FileTree

/-- The lines of a turn. -/
def Turn.lines (now : Turn) : List String := now.told ++ (now.stop.map stopLines).getD []

/-- The turn of a line, which may be no text. -/
def turn (setting : Setting) (t : FileTree) (p : Prompt) : Option String → Turn
  | none => ⟨none, [], none, p.session, .failed .inputUnreadable, t⟩
  | some line =>
    let s := left setting t p line
    match t.exec (obey setting p line) with
    | (.error e, t') => ⟨line, [], none, s, .failed e, t'⟩
    | (.ok (told, .again), t') => ⟨line, told, none, s, .prompt ⟨s, p.shown⟩, t'⟩
    | (.ok (told, .quit), t') => ⟨line, told, none, s, .finished, t'⟩
    | (.ok (told, .moved _ announce), t') =>
      let (stop, noted) := s.stop announce
      ⟨line, told, stop.toOption, noted, (present s announce).2, t'⟩

/-- The player does with a line what its turn says. -/
theorem eval_answer_eq (setting : Setting) (t : FileTree) (p : Prompt) (first : Option String) :
    t.eval (answer setting p first) =
      (((turn setting t p (first.map bare)).lines, (turn setting t p (first.map bare)).next),
        (turn setting t p (first.map bare)).files) := by
  cases first with
  | none => rfl
  | some line =>
    unfold answer turn
    dsimp only [Option.map_some]
    rcases hobey : t.exec (obey setting p (bare line)) with ⟨⟨e⟩ | ⟨told, effect⟩, t'⟩
    · rw [eval_bind t hobey]
      rfl
    · rw [eval_bind t hobey, left_of_obey hobey]
      cases effect with
      | again => rw [Turn.lines, Option.map_none, Option.getD_none, List.append_nil]; rfl
      | quit => rw [Turn.lines, Option.map_none, Option.getD_none, List.append_nil]; rfl
      | moved s announce =>
        dsimp only [Effect.reader]
        unfold present
        rcases hstop : s.stop announce with ⟨⟨e⟩ | ⟨stop⟩, noted⟩
        · rfl
        · rfl

/-- Whether a play that goes on waits with a reader that shows what was shown last. -/
def Next.Awaits (next : Next) (s : Session) : Prop :=
  ∀ p, next = .prompt p → p.session = s ∧ s.output = .ok p.shown

theorem awaits_present (s : Session) (announce : Bool) :
    (present s announce).2.Awaits (s.stop announce).2 := by
  intro p hp
  unfold present at hp
  split at hp
  · cases hp
  next stop noted hstop =>
    dsimp only at hp
    split at hp
    · cases hp
    · cases hp
      rw [hstop]
      exact ⟨rfl, Session.output_of_stop hstop⟩

theorem awaits_turn {heard : Option String} (h : (Next.prompt p).Awaits p.session) :
    (turn setting t p heard).next.Awaits (turn setting t p heard).session := by
  cases heard with
  | none =>
    intro q hq
    cases hq
  | some line =>
    unfold turn
    dsimp only
    rcases hobey : t.exec (obey setting p line) with ⟨⟨e⟩ | ⟨told, effect⟩, t'⟩
    · intro q hq
      cases hq
    · rw [left_of_obey hobey]
      cases effect with
      | again =>
        intro q hq
        cases hq
        exact ⟨rfl, (h p rfl).2⟩
      | quit =>
        intro q hq
        cases hq
      | moved s announce => exact awaits_present s announce

/-- Input that is turned down shows no stop and leaves the reader and the files as they are. -/
theorem turn_of_rejects (hp : p.session.output = .ok p.shown) (h : Rejects p line) :
    ∃ told, turn setting t p (some line) = ⟨line, told, none, p.session, .prompt p, t⟩ := by
  have hagain (told : List String) (h : t.exec (obey setting p line) = (.ok (told, .again), t)) :
      turn setting t p (some line) = ⟨line, told, none, p.session, .prompt p, t⟩ := by
    unfold turn
    dsimp only
    rw [h, left_of_obey h]
    rfl
  cases h with
  | help hline =>
    refine ⟨_, hagain [helpLine] ?_⟩
    unfold obey
    rw [hline]
    rfl
  | vars hline =>
    refine ⟨_, hagain (variableLines p.session) ?_⟩
    unfold obey
    rw [hline]
    rfl
  | dialogue hshown hblank hcommand =>
    refine ⟨_, hagain ["press enter to continue, or :help"] ?_⟩
    rw [obey_of_notMem hcommand, proceed, hshown]
    dsimp only
    rw [if_neg hblank]
  | branch hshown hindex hcommand =>
    refine ⟨_, hagain ["invalid choice: " ++ line] ?_⟩
    rw [obey_of_notMem hcommand, proceed, hshown]
    dsimp only
    rw [hindex]
  | @unwired _ _ choice hshown hindex hlacks =>
    rw [hshown] at hp
    obtain ⟨cursor, hgo⟩ := Session.choose_of_lacks hp hlacks
    have hcommand : Text.trim line ∉ commands := by
      intro hmem
      have hnone : ∀ word ∈ commands, Whole.index? word = none := by decide
      rw [hnone _ hmem] at hindex
      cases hindex
    refine ⟨_, hagain [s!"no such choice: {choice}"] ?_⟩
    rw [obey_of_notMem hcommand, proceed, hshown]
    dsimp only
    rw [hindex]
    dsimp only
    rw [hgo]

/-! ## Plays -/

/-- What a play comes to: its turns, how it ends, the files, and whether the input has ended while
a line was awaited. -/
structure Account where
  turns : List Turn
  result : Except PlayerError Unit
  files : FileTree
  waiting : Bool

/-- What is written after the first stop. -/
def Account.text (account : Account) : String :=
  String.join (account.turns.map fun now => promptText ++ Play.text now.lines) ++
    if account.waiting then promptText else ""

/-- A play on an input, turn by turn. -/
inductive Plays (setting : Setting) : FileTree → Next → List (Option String) → Account → Prop
  | finished (t : FileTree) (input : List (Option String)) :
      Plays setting t .finished input ⟨[], .ok (), t, false⟩
  | failed (t : FileTree) (e : PlayerError) (input : List (Option String)) :
      Plays setting t (.failed e) input ⟨[], .error e, t, false⟩
  | ended (t : FileTree) (p : Prompt) : Plays setting t (.prompt p) [] ⟨[], .ok (), t, true⟩
  | line {t : FileTree} {p : Prompt} {first : Option String} {rest : List (Option String)}
      {now : Turn} {account : Account} : turn setting t p (first.map bare) = now →
      Plays setting now.files now.next rest account →
      Plays setting t (.prompt p) (first :: rest) { account with turns := now :: account.turns }

variable {next : Next} {input input' : List (Option String)} {account : Account}

/-- Every play ends. -/
theorem exists_plays (setting : Setting) (t : FileTree) (next : Next)
    (input : List (Option String)) : ∃ account, Plays setting t next input account := by
  induction input generalizing t next with
  | nil =>
    cases next with
    | prompt p => exact ⟨_, .ended t p⟩
    | finished => exact ⟨_, .finished t []⟩
    | failed e => exact ⟨_, .failed t e []⟩
  | cons first rest ih =>
    cases next with
    | prompt p =>
      obtain ⟨account, h⟩ := ih (turn setting t p (first.map bare)).files
        (turn setting t p (first.map bare)).next
      exact ⟨_, .line rfl h⟩
    | finished => exact ⟨_, .finished t _⟩
    | failed e => exact ⟨_, .failed t e _⟩

/-- Each turn takes a line. -/
theorem Plays.length_turns (h : Plays setting t next input account) :
    account.turns.length ≤ input.length := by
  induction h with
  | finished | failed => exact Nat.zero_le _
  | ended => exact Nat.le_refl _
  | line _ _ ih => exact Nat.succ_le_succ ih

/-- The player writes what a play comes to, ends as it does, and leaves the files as it does. -/
theorem Plays.eval_goOn (h : Plays setting t next input account) (written : String)
    (lines : List String) : t.eval (goOn setting written (lines, next) input) =
      ((written ++ text lines ++ account.text, account.result), account.files) := by
  induction h generalizing written lines with
  | finished t input =>
    rw [show Account.text ⟨[], .ok (), t, false⟩ = "" from rfl, String.append_empty]
    rfl
  | failed t e input =>
    rw [show Account.text ⟨[], .error e, t, false⟩ = "" from rfl, String.append_empty]
    rfl
  | ended t p => rfl
  | @line t p first rest now account hnow hrest ih =>
    have hanswer := eval_answer_eq setting t p first
    rw [hnow] at hanswer
    have hconverse := (eval_converse hanswer).trans (ih promptText now.lines)
    have htext : Account.text { account with turns := now :: account.turns } =
        promptText ++ text now.lines ++ account.text := by
      unfold Account.text
      rw [List.map_cons, String.join_cons, String.append_assoc]
    unfold goOn
    dsimp only
    rw [eval_bind t hconverse, htext]
    rfl

/-! ## More input -/

/-- Whether an input is another one with lines that are turned down put in, each at a prompt of the
play of the first one. The marks at the ends of lines may differ, and what comes after the end of
the play is not read. -/
inductive Padded (setting : Setting) :
    FileTree → Next → List (Option String) → List (Option String) → Prop
  | past {t : FileTree} {next : Next} (input input' : List (Option String)) :
      (∀ p, next ≠ .prompt p) → Padded setting t next input input'
  | ended (t : FileTree) (p : Prompt) : Padded setting t (.prompt p) [] []
  | kept {t : FileTree} {p : Prompt} {first first' : Option String}
      {rest rest' : List (Option String)} {now : Turn} :
      turn setting t p (first.map bare) = now → first'.map bare = first.map bare →
      Padded setting now.files now.next rest rest' →
      Padded setting t (.prompt p) (first :: rest) (first' :: rest')
  | added {t : FileTree} {p : Prompt} {line : String} {input rest' : List (Option String)} :
      Rejects p (bare line) → Padded setting t (.prompt p) input rest' →
      Padded setting t (.prompt p) input (some line :: rest')

/-- Whether turns, which start with a reader, are others with turns put in that show no stop and
leave the reader as it was before them. -/
inductive Woven : Session → List Turn → List Turn → Prop
  | nil (s : Session) : Woven s [] []
  | kept {s : Session} {now : Turn} {turns turns' : List Turn} :
      Woven now.session turns turns' → Woven s (now :: turns) (now :: turns')
  | added {s : Session} {now : Turn} {turns turns' : List Turn} :
      now.stop = none → now.session = s → Woven s turns turns' → Woven s turns (now :: turns')

theorem Woven.stops_eq {s : Session} {turns turns' : List Turn} (h : Woven s turns turns') :
    turns'.filterMap (·.stop) = turns.filterMap (·.stop) := by
  induction h with
  | nil => rfl
  | kept _ ih => rw [List.filterMap_cons, List.filterMap_cons, ih]
  | added hstop _ _ ih => rw [List.filterMap_cons_none hstop, ih]

/-- A play with more input that is turned down. -/
theorem Plays.exists_woven {s : Session} (h : Plays setting t next input account)
    (hpadded : Padded setting t next input input') (hs : next.Awaits s) :
    ∃ turns', Plays setting t next input' { account with turns := turns' } ∧
      Woven s account.turns turns' := by
  induction hpadded generalizing s account with
  | past input input' hpast =>
    cases h with
    | finished => exact ⟨[], .finished _ _, .nil s⟩
    | failed => exact ⟨[], .failed _ _ _, .nil s⟩
    | ended t p => exact absurd rfl (hpast p)
    | line => exact absurd rfl (hpast _)
  | ended t p =>
    cases h with
    | ended => exact ⟨[], .ended t p, .nil s⟩
  | @kept t p first first' rest rest' now hnow hsame _ ih =>
    cases h with
    | @line _ _ _ _ _ account hturn hrest =>
      obtain rfl := hnow.symm.trans hturn
      obtain ⟨rfl, -⟩ := hs p rfl
      have hawaits : now.next.Awaits now.session := by
        rw [← hnow]
        exact awaits_turn hs
      obtain ⟨turns', hplays, hwoven⟩ := ih hrest hawaits
      rw [← hsame] at hnow
      exact ⟨now :: turns', .line hnow hplays, .kept hwoven⟩
  | @added t p line input rest' hrejects _ ih =>
    obtain ⟨rfl, hshown⟩ := hs p rfl
    obtain ⟨told, hturn⟩ := @turn_of_rejects setting t _ _ hshown hrejects
    obtain ⟨turns', hplays, hwoven⟩ := ih h hs
    have hsilent : turn setting t p ((some line).map bare) =
        ⟨bare line, told, none, p.session, .prompt p, t⟩ := hturn
    exact ⟨_ :: turns', .line hsilent hplays, .added rfl rfl hwoven⟩

/-- Every play of a reader ends, with no more turns than lines. If lines that are turned down are
put in at its prompts, the play shows the same stops, leaves the reader after each of the other
lines as before, and ends the same way. -/
theorem plays_padded (setting : Setting) (s : Session) (t : FileTree)
    (input : List (Option String)) :
    ∃ account, Plays setting t (present s true).2 input account ∧
      account.turns.length ≤ input.length ∧
      (∀ written, t.eval (goOn setting written (present s true) input) =
        ((written ++ text (present s true).1 ++ account.text, account.result), account.files)) ∧
      ∀ input', Padded setting t (present s true).2 input input' →
        ∃ turns', Plays setting t (present s true).2 input' { account with turns := turns' } ∧
          Woven (s.stop true).2 account.turns turns' ∧
          turns'.filterMap (·.stop) = account.turns.filterMap (·.stop) ∧
          ∀ written, t.eval (goOn setting written (present s true) input') =
            ((written ++ text (present s true).1 ++ Account.text { account with turns := turns' },
              account.result), account.files) := by
  obtain ⟨account, hplays⟩ := exists_plays setting t (present s true).2 input
  refine ⟨account, hplays, hplays.length_turns, fun written => hplays.eval_goOn written _,
    fun input' hpadded => ?_⟩
  obtain ⟨turns', hplays', hwoven⟩ := hplays.exists_woven hpadded (awaits_present s true)
  exact ⟨turns', hplays', hwoven, hwoven.stops_eq, fun written => hplays'.eval_goOn written _⟩

/-! ## A guest who does not know how to answer -/

open Scenario

/-- An input is itself with nothing put in. -/
theorem Padded.refl (setting : Setting) (t : FileTree) (next : Next)
    (input : List (Option String)) : Padded setting t next input input := by
  induction input generalizing t next with
  | nil =>
    cases next with
    | prompt p => exact .ended t p
    | finished => exact .past _ _ fun _ h => by cases h
    | failed e => exact .past _ _ fun _ h => by cases h
  | cons first rest ih =>
    cases next with
    | prompt p => exact .kept rfl rfl (ih _ _)
    | finished => exact .past _ _ fun _ h => by cases h
    | failed e => exact .past _ _ fun _ h => by cases h

/-- A line that leads to another stop. -/
theorem turn_of_proceed {s noted : Session} {stop : Stop} (hcommand : Text.trim line ∉ commands)
    (hproceed : proceed p line = .ok ([], .moved s false))
    (hstop : s.stop false = (.ok stop, noted)) (hopen : stop.output.isFinish = false) :
    turn setting t p (some line) =
      ⟨line, [], stop, noted, .prompt ⟨noted, stop.output⟩, t⟩ := by
  have hobey : t.exec (obey setting p line) = (.ok ([], .moved s false), t) := by
    rw [obey_of_notMem hcommand, hproceed]
  unfold turn
  dsimp only
  rw [hobey, left_of_obey hobey]
  dsimp only [Effect.reader]
  rw [present_eq hstop, hstop, hopen]
  rfl

/-- The inn as it is played. -/
def innSetting : Setting := ⟨⟨"inn", "Inn", innSources, none⟩, { directory := "t" }, "inn.json"⟩

/-- A guest who has come in. -/
def arrived : Session := (Library.start ⟨[.ofDocument inn], {}⟩ none none).2

/-- The guest when the host has spoken. -/
def welcomed : Session := (arrived.stop true).2

/-- The guest when the host has asked. -/
def asked : Session := (welcomed.advance.2.stop false).2

theorem stops_inn :
    (arrived.stop true).1.toOption = some ⟨some "Host", .dialogue "Welcome."⟩ ∧
    welcomed.advance.1.toOption = some .branch ∧
    (welcomed.advance.2.stop false).1.toOption =
      some ⟨none, .branch "Hungry?" [⟨0, "Yes"⟩]⟩ ∧
    asked.loaded? = some (⟨0, 4, none⟩, .ofDocument inn) := by
  decide +kernel

/-- A guest who takes what is there. -/
def guestLines : List (Option String) := [some "\n", some "0\n", some "\n"]

/-- The same with words and a cry for help before the first line, and before the second one with
words, a choice that is not there, and a look at the variables. -/
def hesitantLines : List (Option String) :=
  [some "Hello\n", some ":help\n", some "\n", some "stew\n", some "7\n", some ":vars\n",
    some "0\r\n", some "\n"]

theorem padded_inn :
    Padded innSetting innFiles (present arrived true).2 guestLines hesitantLines := by
  obtain ⟨hwelcome, hgo, hask, hloaded⟩ := stops_inn
  have hwelcome : arrived.stop true = (.ok ⟨some "Host", .dialogue "Welcome."⟩, welcomed) :=
    Prod.ext (Outcome.toOption_eq_some.mp hwelcome) rfl
  have hgo : welcomed.advance = (.ok .branch, welcomed.advance.2) :=
    Prod.ext (Outcome.toOption_eq_some.mp hgo) rfl
  have hask : welcomed.advance.2.stop false =
      (.ok ⟨none, .branch "Hungry?" [⟨0, "Yes"⟩]⟩, asked) :=
    Prod.ext (Outcome.toOption_eq_some.mp hask) rfl
  have hblank : Text.trim "" = "" := by decide
  have hlacks : asked.Lacks 7 :=
    ⟨_, _, ⟨4, .branch 2 1, [⟨3, 0⟩, ⟨5, 1⟩], [⟨6, 0⟩]⟩, hloaded, rfl, rfl⟩
  have hturn : turn innSetting innFiles ⟨welcomed, .dialogue "Welcome."⟩ (some "") =
      ⟨"", [], some ⟨none, .branch "Hungry?" [⟨0, "Yes"⟩]⟩, asked,
        .prompt ⟨asked, .branch "Hungry?" [⟨0, "Yes"⟩]⟩, innFiles⟩ :=
    turn_of_proceed (by decide +kernel) (proceed_blank rfl hblank hgo) hask rfl
  rw [present_eq hwelcome]
  refine .added (.dialogue rfl (by decide +kernel) (by decide +kernel)) ?_
  refine .added (.help (by decide +kernel)) ?_
  refine .kept hturn (by decide +kernel) ?_
  refine .added (.branch rfl (by decide +kernel) (by decide +kernel)) ?_
  refine .added (.unwired rfl (by decide +kernel) hlacks) ?_
  refine .added (.vars (by decide +kernel)) ?_
  exact .kept rfl (by decide +kernel) (.refl ..)

theorem plays_padded_inn : ∃ account turns',
    Padded innSetting innFiles (present arrived true).2 guestLines hesitantLines ∧
    Plays innSetting innFiles (present arrived true).2 guestLines account ∧
    Plays innSetting innFiles (present arrived true).2 hesitantLines
      { account with turns := turns' } ∧
    Woven (arrived.stop true).2 account.turns turns' := by
  obtain ⟨account, hplays, -, -, hpadded⟩ :=
    plays_padded innSetting arrived innFiles guestLines
  obtain ⟨turns', hplays', hwoven, -⟩ := hpadded _ padded_inn
  exact ⟨account, turns', padded_inn, hplays, hplays', hwoven⟩

end Play

end DialogueTree
