import DialogueTree.Player.Agent
import DialogueTree.Proofs.Player.Catalogue
import DialogueTree.Proofs.Player.Save
import DialogueTree.Proofs.Player.Tour

/-!
# Commands one after another

Every command that leads a conversation is a process of its own: it builds its library anew and
knows of the commands before it only what the last one has left in the state file. As long as the
trees stay the same, the commands show what one reader shows that leads the whole conversation, up
to the first state with a float in it that is lost on the way through its file. Where the float is
not finite, the command that follows refuses the file.

Results:
* `Tracks.step`: a command that takes up a state does what the one reader does.
* `Tracks.refused_iff`: a command refuses the file of a state that is not finite, and no other.
* `runs_spec`: both, over commands of any number.
-/

namespace DialogueTree.Agent

open FileTree

/-- The lines in which a command tells of a halt. The state is saved unless the conversation is
over. -/
def told (file : Path) (h : Halt) : List String :=
  h.stop.lines (if h.isOver then none else some file)

/-! ## Runs of commands -/

/-- A command that has been run: the file tree before and after it, the file for the state, and
what it has told. -/
structure Run where
  before : FileTree
  file : Path
  result : Except PlayerError (List String)
  after : FileTree

/-- The run of a command on a file tree. -/
def Run.of (t : FileTree) (file : Path)
    (command : ExceptT PlayerError (StateM FileTree) (List String)) : Run :=
  ⟨t, file, (t.exec command).1, (t.exec command).2⟩

/-- The command that makes a move. -/
def command (m : Move) (stateIn stateOut : Path) :
    ExceptT PlayerError (StateM FileTree) (List String) :=
  match m with
  | .next => next stateIn stateOut
  | .choose choice => choose choice stateIn stateOut

/-- Commands one after another, each of which takes up the state of the one before it. -/
def relay (last : Run) : List (Move × Path) → List Run
  | [] => [last]
  | (m, file) :: moves =>
    last :: relay (.of last.after file (command m last.file file)) moves

/-- A conversation from its start, one command for each stop. -/
def runs (t : FileTree) (b : Beginning) (file : Path) (moves : List (Move × Path)) : List Run :=
  relay (.of t file (start b file)) moves

/-- The conversation that is started on a file tree, with the id of its library. -/
def opened (t : FileTree) (b : Beginning) : Except PlayerError (String × Session) := do
  let c ← (t.exec (Catalogue.ofDirectory b.directory b.globals)).1
  let s ← c.start b.tree b.start
  return (c.id, s)

/-- The same conversation with one reader from its start to its end. -/
def solo (t : FileTree) (b : Beginning) (moves : List Move) : List (Except PlayerError Halt) :=
  match opened t b with
  | .error e => [.error e]
  | .ok (_, s) => (Session.tour (s.halt true) moves).map (·.mapError .ofReader)

/-! ## One command -/

section Command

variable {t : FileTree} {s : Session} {c : Conversation} {l : Library} {id : String}

/-- The state of a conversation as it is saved. -/
def saveOf (id : String) (snap : Snapshot) : Save := { libraryId := id, snapshot := snap }

/-- Whether a library is found by its id. -/
def Finds (id : String) (l : Library) (t : FileTree) : Prop :=
  ∃ c, t.exec (Catalogue.ofId id) = (.ok c, t) ∧ c.library = .ok l

theorem exec_announce_of_error {first : Bool} {e : ReaderError} (hc : s.conversation? = some c)
    (he : c.halt first = .error e) (file : Path) :
    t.exec (announce s first id file) = (.error (.ofReader e), t) := by
  have hstop : (s.stop first).1 = .error e := by
    rw [(Session.stop_conversation hc first).1]
    exact Conversation.halt_eq_error he
  unfold announce
  rcases hs : s.stop first with ⟨result, after⟩
  rw [hs] at hstop
  cases hstop
  rfl

theorem exec_announce_of_over {first : Bool} {h : Halt} (hc : s.conversation? = some c)
    (hh : c.halt first = .ok h) (hover : h.isOver = true) (file : Path) :
    t.exec (announce s first id file) = (.ok (told file h), t) := by
  have hstop : (s.stop first).1 = .ok h.stop := by
    rw [(Session.stop_conversation hc first).1]
    exact (Conversation.halt_eq_ok hh).1
  unfold announce told
  rcases hs : s.stop first with ⟨result, after⟩
  rw [hs] at hstop
  cases hstop
  have hfinish : h.stop.output.isFinish = true := hover
  dsimp only
  rw [if_pos hfinish, if_pos hover]
  rfl

/-- A stop that is not the last one is told once its state is in the file. -/
theorem exec_announce_of_open (t : FileTree) (id : String) {first : Bool} {h : Halt}
    (hc : s.conversation? = some c) (hh : c.halt first = .ok h) (hopen : h.isOver = false)
    (file : Path) :
    t.exec (announce s first id file) = match t.exec ((saveOf id h.state).write file) with
      | (.ok (), t') => (.ok (told file h), t')
      | (.error e, t') => (.error e, t') := by
  obtain ⟨hstop, hnoted⟩ := Session.stop_conversation hc first
  obtain ⟨hok, hstate⟩ := Conversation.halt_eq_ok hh
  rw [hok] at hstop
  unfold announce told
  rcases hs : s.stop first with ⟨result, after⟩
  rw [hs] at hstop hnoted
  cases hstop
  have hfinish : ¬h.stop.output.isFinish = true := by
    rw [← Halt.isOver, hopen]
    exact Bool.false_ne_true
  have hsave : Save.ofSession id after = .ok (saveOf id h.state) := by
    rw [Save.ofSession, Session.snapshot_conversation hnoted, hstate]
    rfl
  dsimp only
  rw [if_neg hfinish, hsave, hopen, exec_bind, exec_outcome]
  dsimp only
  rw [exec_bind]
  rcases t.exec ((saveOf id h.state).write file) with ⟨⟨e⟩ | ⟨u⟩, t'⟩ <;> rfl

/-- No announcement blames the file that was read before it. -/
theorem exec_announce_ne_saveInvalid (s : Session) (first : Bool) (id : String) (file p : Path)
    (t : FileTree) : (t.exec (announce s first id file)).1 ≠ .error (.saveInvalid p) := by
  unfold announce
  rcases s.stop first with ⟨⟨e⟩ | ⟨stop⟩, after⟩
  · intro h
    cases h
  · dsimp only
    split
    · intro h
      cases h
    · rw [exec_bind, exec_outcome]
      cases hsave : Save.ofSession id after with
      | error e =>
        intro h
        cases h
        unfold Save.ofSession at hsave
        cases hsnap : after.snapshot with
        | error e =>
          rw [hsnap] at hsave
          cases hsave
        | ok snap =>
          rw [hsnap] at hsave
          cases hsave
      | ok save =>
        dsimp only
        rw [exec_bind]
        rcases save.exec_write_cases file t with ⟨t', hwrite, -⟩ | ⟨t', hwrite⟩
        · rw [hwrite]
          intro h
          cases h
        · rw [hwrite]
          intro h
          cases h

theorem command_eq (m : Move) (stateIn stateOut : Path) :
    command m stateIn stateOut = move (fun s => m.go s) stateIn stateOut := by
  cases m <;> rfl

/-- What a command does with the state that it has read. -/
theorem exec_command {save : Save} {stateIn : Path}
    (hread : t.exec (Save.read stateIn) = (.ok save, t)) (hfinds : Finds save.libraryId l t)
    (m : Move) (stateOut : Path) :
    t.exec (command m stateIn stateOut) = match l.resume save.snapshot with
      | (.error e, _) => (.error (.opening e), t)
      | (.ok _, s) => match m.go s with
        | (.error e, _) => (.error (.ofReader e), t)
        | (.ok _, after) => t.exec (announce after false save.libraryId stateOut) := by
  obtain ⟨c, hc, hl⟩ := hfinds
  rw [command_eq, move, exec_bind, hread]
  dsimp only
  rw [exec_bind, hc]
  dsimp only
  have hresume : c.resume save.snapshot = match l.resume save.snapshot with
      | (.error e, _) => .error (.opening e)
      | (.ok _, s) => .ok s := by
    rw [Catalogue.resume, hl, Outcome.bind_ok]
    rcases l.resume save.snapshot with ⟨⟨e⟩ | ⟨u⟩, s⟩ <;> rfl
  rw [exec_bind, exec_outcome, hresume]
  rcases l.resume save.snapshot with ⟨⟨e⟩ | ⟨u⟩, s⟩
  · rfl
  · dsimp only
    rcases m.go s with ⟨⟨e⟩ | ⟨type⟩, after⟩ <;> rfl

end Command

/-! ## Commands and the one reader -/

section Tracks

variable {l : Library} {id : String} {run : Run} {last : Except ReaderError Halt × Session}

/-- Whether a command has told what the one reader shows, and has left the state of the reader in
its file if the conversation goes on. -/
structure Tracks (id : String) (l : Library) (run : Run)
    (last : Except ReaderError Halt × Session) : Prop where
  result : run.result = (last.1.mapError .ofReader).map (told run.file)
  state : ∀ h, last.1 = .ok h → h.isOver = false → ∃ c, last.2.conversation? = some c ∧
    c.IsAnchored l ∧ h.state = c.snapshot ∧ (saveOf id c.snapshot).IsAt run.file run.after

theorem Tracks.of_error {e : ReaderError} (hlast : last.1 = .error e)
    (hresult : run.result = .error (.ofReader e)) : Tracks id l run last := by
  constructor
  · rw [hlast, hresult]
    rfl
  · intro h hok
    rw [hlast] at hok
    cases hok

theorem Tracks.of_over {h : Halt} (hlast : last.1 = .ok h) (hover : h.isOver = true)
    (hresult : run.result = .ok (told run.file h)) : Tracks id l run last := by
  constructor
  · rw [hlast, hresult]
    rfl
  · intro h' hok hopen
    rw [hlast] at hok
    cases hok
    rw [hover] at hopen
    cases hopen

/-- A command that announces the stop of a conversation tracks every reader that has the same
one. -/
theorem Tracks.of_announce {s s' : Session} {c : Conversation} (hc : s.conversation? = some c)
    (hc' : s'.conversation? = some c) (hanchored : c.IsAnchored l) {first : Bool}
    (hexec : (run.result, run.after) = run.before.exec (announce s first id run.file))
    (hsaved : run.result ≠ .error (.saveUnwritable run.file)) :
    Tracks id l run (s'.halt first) := by
  obtain ⟨hhalt, hnoted⟩ := Session.halt_conversation hc' first
  cases hh : c.halt first with
  | error e =>
    rw [exec_announce_of_error hc hh] at hexec
    exact .of_error (hhalt.trans hh) (Prod.mk.inj hexec).1
  | ok h =>
    cases hover : h.isOver with
    | true =>
      rw [exec_announce_of_over hc hh hover] at hexec
      exact .of_over (hhalt.trans hh) hover (Prod.mk.inj hexec).1
    | false =>
      rw [exec_announce_of_open run.before id hc hh hover run.file] at hexec
      have hstate := (Conversation.halt_eq_ok hh).2
      rcases (saveOf id h.state).exec_write_cases run.file run.before with
        ⟨t', hwrite, hat⟩ | ⟨t', hwrite⟩
      · rw [hwrite] at hexec
        obtain ⟨hresult, hafter⟩ := Prod.mk.inj hexec
        constructor
        · rw [hhalt, hh, hresult]
          rfl
        · intro h' hok _
          rw [hhalt, hh] at hok
          cases hok
          refine ⟨_, hnoted, hanchored.noteSpeaker, hstate, ?_⟩
          rw [← hstate, hafter]
          exact hat
      · rw [hwrite] at hexec
        exact absurd (Prod.mk.inj hexec).1 hsaved

/-- A command that takes up a state that reads back does what the one reader does. -/
theorem Tracks.step (h : Tracks id l run last) (hl : l.IsSound) {halt : Halt}
    (hlast : last.1 = .ok halt) (hopen : halt.isOver = false) (hback : halt.state.ReadsBack)
    (hfinds : Finds id l run.after) (m : Move) (file : Path)
    (hsaved : (Run.of run.after file (command m run.file file)).result ≠
      .error (.saveUnwritable file)) :
    Tracks id l (.of run.after file (command m run.file file)) (last.2.proceed m) := by
  obtain ⟨c, hc, hanchored, hstate, hat⟩ := h.state halt hlast hopen
  rw [hstate] at hback
  have hread : run.after.exec (Save.read run.file) = (.ok (saveOf id c.snapshot), run.after) := by
    rw [Save.exec_read hat, Save.parse?_text hanchored.cursor_lt hback]
    rfl
  obtain ⟨hok, hresumed⟩ := Library.resume_snapshot hl rfl hanchored
  have hexec := exec_command hread hfinds m file
  have hsnap : (saveOf id c.snapshot).snapshot = c.snapshot := rfl
  rw [hsnap] at hexec
  rcases hr : l.resume c.snapshot with ⟨result, s⟩
  rw [hr] at hok hresumed hexec
  cases hok
  dsimp only at hresumed hexec
  obtain ⟨hgo, hgone⟩ := m.go_conversation hresumed
  obtain ⟨-, hgone'⟩ := m.go_conversation hc
  rcases Session.proceed_conversation hc m with ⟨e, hfollow, -, hproceed⟩ |
    ⟨type, hfollow, -, hproceed⟩
  · rw [hfollow] at hgo
    rcases hm : m.go s with ⟨result, after⟩
    rw [hm] at hgo hexec
    cases hgo
    dsimp only at hexec
    have hresult := congrArg (·.1) hexec
    exact .of_error hproceed hresult
  · rw [hfollow] at hgo
    rcases hm : m.go s with ⟨result, after⟩
    rw [hm] at hgo hgone hexec
    cases hgo
    rw [hproceed]
    exact .of_announce hgone hgone' (hanchored.follow hl hfollow) hexec hsaved

/-- A command refuses the file of a state if and only if a float in it is not finite. -/
theorem Tracks.refused_iff (h : Tracks id l run last) {halt : Halt} (hlast : last.1 = .ok halt)
    (hopen : halt.isOver = false) (hfinds : Finds id l run.after) (m : Move) (file : Path) :
    (Run.of run.after file (command m run.file file)).result = .error (.saveInvalid run.file) ↔
      ¬halt.state.IsFinite := by
  obtain ⟨c, -, hanchored, hsnap, hat⟩ := h.state halt hlast hopen
  rw [hsnap]
  constructor
  · intro hresult hfinite
    obtain ⟨locals, globals, hparse⟩ :=
      Save.exists_parse?_text (s := saveOf id c.snapshot) hanchored.cursor_lt hfinite
    have hread : run.after.exec (Save.read run.file) = (.ok (saveOf id
        { c.snapshot with locals := locals, globals := globals }), run.after) := by
      rw [Save.exec_read hat, hparse]
      rfl
    rw [Run.of, exec_command hread hfinds] at hresult
    dsimp only at hresult
    split at hresult
    · cases hresult
    · split at hresult
      · cases hresult
      · exact exec_announce_ne_saveInvalid _ _ _ _ _ _ hresult
  · intro hinfinite
    have hread : run.after.exec (Save.read run.file) =
        (.error (.saveInvalid run.file), run.after) := by
      rw [Save.exec_read hat, Save.parse?_text_eq_none hanchored.cursor_lt hinfinite]
    rw [Run.of, command_eq, move, exec_bind, hread]

/-! ## Commands of any number -/

/-- The run that follows another one takes up its file. -/
theorem exists_command_of_relay {last next : Run} {moves : List (Move × Path)} {k : Nat}
    (hrun : (relay last moves)[k]? = some run) (hnext : (relay last moves)[k + 1]? = some next) :
    ∃ m file, next = .of run.after file (command m run.file file) := by
  induction moves generalizing last k with
  | nil => cases hnext
  | cons step moves ih =>
    obtain ⟨m, file⟩ := step
    cases k with
    | zero =>
      cases hrun
      refine ⟨m, file, ?_⟩
      have hfirst : (relay (.of run.after file (command m run.file file)) moves)[0]? =
          some (.of run.after file (command m run.file file)) := by
        cases moves <;> rfl
      exact Option.some.inj (hnext.symm.trans hfirst)
    | succ k => exact ih hrun hnext

/-- What commands show that take a conversation on, up to the first state that does not read
back. -/
theorem Tracks.relay {moves : List (Move × Path)} (h : Tracks id l run last) (hl : l.IsSound)
    (hfinds : ∀ r ∈ relay run moves, Finds id l r.before)
    (hsaved : ∀ r ∈ relay run moves, r.result ≠ .error (.saveUnwritable r.file)) {k : Nat}
    {x : Except ReaderError Halt} (hk : (Session.tour last (moves.map (·.1)))[k]? = some x)
    (hback : ∀ halt, .ok halt ∈ (Session.tour last (moves.map (·.1))).take k →
      halt.state.ReadsBack) :
    ∃ r last', (Agent.relay run moves)[k]? = some r ∧ last'.1 = x ∧ Tracks id l r last' := by
  induction moves generalizing run last k with
  | nil =>
    cases k with
    | zero =>
      cases hk
      exact ⟨run, last, rfl, rfl, h⟩
    | succ k => cases hk
  | cons step moves ih =>
    obtain ⟨m, file⟩ := step
    cases k with
    | zero =>
      cases hk
      exact ⟨run, last, rfl, rfl, h⟩
    | succ k =>
      rw [List.map_cons] at hk hback
      obtain ⟨halt, hlast, hopen, hk⟩ := Session.tour_cons_getElem? hk
      rw [Session.tour_of_open hlast hopen, hlast, List.take_succ_cons] at hback
      have hnext : Run.of run.after file (command m run.file file) ∈
          Agent.relay (.of run.after file (command m run.file file)) moves := by
        cases moves <;> exact List.mem_cons_self ..
      have hstep := h.step hl hlast hopen (hback halt (List.mem_cons_self ..))
        (hfinds _ (List.mem_cons_of_mem _ hnext)) m file
        (hsaved _ (List.mem_cons_of_mem _ hnext))
      exact ih hstep (fun r hr => hfinds r (List.mem_cons_of_mem _ hr))
        (fun r hr => hsaved r (List.mem_cons_of_mem _ hr)) hk
        (fun h hh => hback h (List.mem_cons_of_mem _ hh))

end Tracks

/-! ## The first command -/

section Opened

variable {t : FileTree} {b : Beginning} {id : String} {s : Session}

theorem solo_of_opened (h : opened t b = .ok (id, s)) (moves : List Move) :
    solo t b moves = (Session.tour (s.halt true) moves).map (·.mapError .ofReader) := by
  unfold solo
  rw [h]

/-- What the first command does with what it has read. -/
theorem exec_start (t : FileTree) (b : Beginning) (file : Path) :
    t.exec (start b file) = match opened t b with
      | .error e => (.error e, t)
      | .ok (id, s) => t.exec (announce s true id file) := by
  rw [start, exec_bind, (Catalogue.reads_ofDirectory b.directory b.globals).exec_eq t, opened]
  cases (t.exec (Catalogue.ofDirectory b.directory b.globals)).1 with
  | error e => rfl
  | ok c =>
    rw [Outcome.bind_ok]
    dsimp only
    rw [exec_bind, exec_outcome]
    cases c.start b.tree b.start <;> rfl

/-- A conversation that has been started is anchored in a library, which is found by id for as long
as the trees stay the same. -/
theorem exists_library_of_opened (h : opened t b = .ok (id, s)) :
    ∃ l c, l.IsSound ∧ s.conversation? = some c ∧ c.IsAnchored l ∧
      ∀ t', SameTrees (t.absolute b.directory) t t' → Finds id l t' := by
  obtain ⟨c, hc, h⟩ := Outcome.bind_eq_ok.mp h
  obtain ⟨s', hs, h⟩ := Outcome.bind_eq_ok.mp h
  cases h
  unfold Catalogue.start at hs
  obtain ⟨l, hl, hs⟩ := Outcome.bind_eq_ok.mp hs
  have hsound := Library.sound_of_ofSources (Catalogue.library_eq_ok hl)
  rcases hstart : l.start b.tree b.start with ⟨⟨e⟩ | ⟨report⟩, s'⟩
  · rw [hstart] at hs
    cases hs
  · rw [hstart] at hs
    cases hs
    have hok : (l.start b.tree b.start).1 = .ok report := by rw [hstart]
    obtain ⟨conv, hconv, hanchored⟩ := Library.anchored_of_start hsound hok
    rw [hstart] at hconv
    refine ⟨l.withGlobals {}, conv, ⟨hsound.distinct, hsound.bounded⟩, hconv,
      ⟨hanchored.rest, hanchored.cursor_lt, hanchored.document_mem⟩, ?_⟩
    intro t' hsame
    obtain ⟨hkind, htrees, hid⟩ := Catalogue.exec_ofDirectory_eq_ok hc
    rw [hid]
    exact ⟨_, Catalogue.exec_ofId (t.isAbsolute_absolute _) (hsame.1.trans hkind)
      (hsame.2.trans htrees), Catalogue.library_of_trees hl _ _⟩

end Opened

theorem runs_getElem?_zero (t : FileTree) (b : Beginning) (file : Path)
    (moves : List (Move × Path)) :
    (runs t b file moves)[0]? = some (.of t file (start b file)) := by
  cases moves <;> rfl

/-- As long as the trees stay the same and the state files can be written, the commands of a
conversation show what one reader shows from its start to its end, up to the first state that does
not read back; and a state file is refused by the next command if and only if a float in it is not
finite. -/
theorem runs_spec {t : FileTree} {b : Beginning} {file : Path} {moves : List (Move × Path)}
    (htrees : ∀ run ∈ runs t b file moves, SameTrees (t.absolute b.directory) t run.before)
    (hsaved : ∀ run ∈ runs t b file moves, run.result ≠ .error (.saveUnwritable run.file))
    {k : Nat} {shown : Except PlayerError Halt}
    (hk : (solo t b (moves.map (·.1)))[k]? = some shown)
    (hback : ∀ halt, .ok halt ∈ (solo t b (moves.map (·.1))).take k → halt.state.ReadsBack) :
    ∃ run, (runs t b file moves)[k]? = some run ∧ run.result = shown.map (told run.file) ∧
      ∀ halt, shown = .ok halt → halt.isOver = false →
        ∀ next, (runs t b file moves)[k + 1]? = some next →
          (next.result = .error (.saveInvalid run.file) ↔ ¬halt.state.IsFinite) := by
  have hhead := runs_getElem?_zero t b file moves
  have hstart := exec_start t b file
  cases hopened : opened t b with
  | error e =>
    -- There is no conversation, and the first command fails like the one reader.
    unfold solo at hk
    rw [hopened] at hk hstart
    cases k with
    | succ k => cases hk
    | zero =>
      cases hk
      refine ⟨_, hhead, ?_, ?_⟩
      · rw [Run.of, hstart]
        rfl
      · intro halt hok
        cases hok
  | ok way =>
    obtain ⟨id, s⟩ := way
    rw [solo_of_opened hopened] at hk hback
    rw [hopened] at hstart
    dsimp only at hstart
    obtain ⟨l, c, hl, hc, hanchored, hfinds⟩ := exists_library_of_opened hopened
    have hfinds' : ∀ run ∈ runs t b file moves, Finds id l run.before :=
      fun run hrun => hfinds run.before (htrees run hrun)
    have htracks : Tracks id l (.of t file (start b file)) (s.halt true) :=
      .of_announce hc hc hanchored hstart (hsaved _ (List.mem_of_getElem? hhead))
    rw [List.getElem?_map, Option.map_eq_some_iff] at hk
    obtain ⟨x, hx, rfl⟩ := hk
    have hback' : ∀ halt, .ok halt ∈ (Session.tour (s.halt true) (moves.map (·.1))).take k →
        halt.state.ReadsBack := by
      intro halt hmem
      refine hback halt ?_
      rw [← List.map_take]
      exact List.mem_map.mpr ⟨_, hmem, rfl⟩
    obtain ⟨run, last, hrun, rfl, h⟩ := htracks.relay hl hfinds' hsaved hx hback'
    refine ⟨run, hrun, h.result, ?_⟩
    intro halt hshown hopen next hnext
    obtain ⟨m, file', rfl⟩ := exists_command_of_relay hrun hnext
    have hlast : last.1 = .ok halt := Outcome.mapError_eq_ok.mp hshown
    have hafter : Finds id l run.after := hfinds' _ (List.mem_of_getElem? hnext)
    exact h.refused_iff hlast hopen hafter m file'

/-! ## A tree with a price -/

/-- A tree of one line that declares a variable. -/
def priced : Document := { Document.greeting with declared := [⟨"price", { float := 1.5 }⟩] }

/-- A directory with this tree. -/
def pricedFiles : FileTree :=
  { entries := [(["t"], .directory), (["t", "p.tree.json"], .file (some priced.toJson.pretty))] }

/-- The texts of this directory. -/
def pricedSources : Sources := .insert {} (Path.withSlashes "p.tree.json") priced.toJson.pretty

/-- The conversation, once it has been started. -/
def pricedSession : Session := (Library.start ⟨[.ofDocument priced], {}⟩ none none).2

/-- The stop at the line. -/
def pricedLine : Halt :=
  ⟨⟨some "Ann", .dialogue "Hello"⟩,
    { schema := snapshotSchema, tree := "greeting", cursor := 2, defaultStart := 0,
      speaker := { name := "Ann" }, pending := none, speakerChanged := false,
      locals := ⟨priced.declared⟩, globals := {} }⟩

/-- The stop at the end. -/
def pricedEnd : Halt := ⟨⟨none, .finish⟩, { pricedLine.state with cursor := 3 }⟩

/-- The files with the state in which the line has been shown. -/
def pricedSaved : FileTree :=
  pricedFiles.put ["s1"] (.file (some (saveOf "trees-dir:/t" pricedLine.state).text))

/-- The paths that lead to this directory and to its tree, before and after the state is saved. -/
theorem paths_priced : pricedFiles.absolute "t" = "/t" ∧
    Catalogue.directoryId "/t" = "trees-dir:/t" ∧ Path.isAbsolute "/t" = true ∧
    (Path.below "/t" "p.tree.json").endsWith treeFileEnding = true ∧
    pricedFiles.kind? (Path.join "/t" globalsFileName) = none ∧
    ∀ t ∈ [pricedFiles, pricedSaved], t.kind? "/t" = some .directory ∧
      t.filesBelow "/t" = ["p.tree.json"] ∧
      t.find? (Path.below "/t" "p.tree.json") = some ["t", "p.tree.json"] := by
  decide +kernel

theorem trees_priced : ∀ t ∈ [pricedFiles, pricedSaved],
    t.trees "/t" = .ok pricedSources := by
  intro t ht
  obtain ⟨-, -, -, hending, -, hall⟩ := paths_priced
  obtain ⟨-, hfiles, hfind⟩ := hall t ht
  have hat : t.at? ["t", "p.tree.json"] = some (.file (some priced.toJson.pretty)) := by
    cases ht with
    | head => rfl
    | tail _ ht =>
      cases List.mem_singleton.mp ht
      rw [pricedSaved, at?_put (by decide), if_neg (by decide)]
      rfl
  exact trees_of_filesBelow hfiles hending (readText?_of_find? hfind hat)

theorem sameTrees_priced : SameTrees "/t" pricedFiles pricedSaved := by
  obtain ⟨-, -, -, -, -, hall⟩ := paths_priced
  obtain ⟨hkind, -⟩ := hall pricedFiles (by simp)
  obtain ⟨hkind', -⟩ := hall pricedSaved (by simp)
  refine ⟨hkind'.trans hkind.symm, ?_⟩
  rw [trees_priced pricedFiles (by simp), trees_priced pricedSaved (by simp)]

/-- The document and its price read back. -/
theorem formats_priced : Document.ofJson? priced.toJson = some priced ∧
    (Json.float32 1.5).float32? = some 1.5 := by
  decide +kernel

theorem library_priced (id title : String) :
    Catalogue.library ⟨id, title, pricedSources, none⟩ = .ok ⟨[.ofDocument priced], {}⟩ := by
  have hsources : Library.ofSources pricedSources none = .ok ⟨[.ofDocument priced], {}⟩ :=
    Library.ofSources_insert (Document.parse_pretty formats_priced.1 _)
  unfold Catalogue.library
  rw [hsources]
  rfl

theorem readsBack_priced : pricedLine.state.ReadsBack := by
  refine ⟨?_, ?_⟩
  · intro v hv
    cases List.mem_singleton.mp hv
    exact formats_priced.2
  · intro v hv
    cases hv

/-- What a reader shows that is started, and one that takes up the state. -/
theorem sessions_priced : (Library.start ⟨[.ofDocument priced], {}⟩ none none).1.isOk = true ∧
    (pricedSession.conversation?.bind fun c => (c.halt true).toOption) = some pricedLine ∧
    (pricedSession.halt true).1.toOption = some pricedLine ∧
    ((pricedSession.halt true).2.proceed .next).1.toOption = some pricedEnd ∧
    (Library.resume ⟨[.ofDocument priced], {}⟩ pricedLine.state).1.isOk = true ∧
    (Move.next.go (Library.resume ⟨[.ofDocument priced], {}⟩ pricedLine.state).2).1.isOk = true ∧
    ((Move.next.go (Library.resume ⟨[.ofDocument priced], {}⟩
      pricedLine.state).2).2.conversation?.bind fun c => (c.halt false).toOption) =
        some pricedEnd := by
  decide +kernel

theorem opened_priced :
    opened pricedFiles { directory := "t" } = .ok ("trees-dir:/t", pricedSession) := by
  obtain ⟨habsolute, hid, -, -, hglobals, hall⟩ := paths_priced
  obtain ⟨hkind, -⟩ := hall pricedFiles (by simp)
  have htrees := trees_priced pricedFiles (by simp)
  rw [← habsolute] at hkind htrees hglobals
  have hok := sessions_priced.1
  unfold opened
  dsimp only
  rw [Catalogue.exec_ofDirectory hkind htrees (globals_of_kind? hglobals), Outcome.bind_ok,
    Catalogue.start, library_priced, Outcome.bind_ok, habsolute, hid, pricedSession]
  rcases hstart : Library.start ⟨[.ofDocument priced], {}⟩ none none with ⟨⟨e⟩ | ⟨report⟩, s⟩
  · rw [hstart] at hok
    cases hok
  · rfl

/-- Where the state is saved. -/
theorem place_priced : Path.isValid "s1" = true ∧ Path.pieces "s1" = ["s1"] ∧
    Path.isName "s1" = true ∧ pricedFiles.base "s1" = [] ∧ Path.parent "s1" = "." ∧
    Path.isValid "." = true ∧ Path.steps "." = [] := by
  decide +kernel

theorem write?_priced (text : String) :
    pricedFiles.write? "s1" text = some (pricedFiles.put ["s1"] (.file (some text))) := by
  obtain ⟨hvalid, hpieces, hname, hbase, -⟩ := place_priced
  refine write?_eq_some.mpr ⟨hvalid, "s1", [], ?_, hname, ?_, by decide, by decide, rfl⟩
  · rw [hpieces]
    rfl
  · rw [hpieces, hbase]
    rfl

theorem makeParent_priced : pricedFiles.makeParent "s1" = (true, pricedFiles) := by
  obtain ⟨-, -, -, -, hparent, hvalid, hsteps⟩ := place_priced
  unfold makeParent
  dsimp only
  rw [hparent, hvalid, if_pos rfl, hsteps]
  rfl

/-- The first command shows the line. -/
theorem exec_start_priced : pricedFiles.exec (start { directory := "t" } "s1") =
    (.ok (told "s1" pricedLine), pricedSaved) := by
  obtain ⟨-, hhalt, -⟩ := sessions_priced
  obtain ⟨c, hc, hhalt⟩ := Option.bind_eq_some_iff.mp hhalt
  rw [exec_start, opened_priced]
  dsimp only
  rw [exec_announce_of_open _ _ hc (Outcome.toOption_eq_some.mp hhalt) rfl, Save.exec_write,
    makeParent_priced]
  dsimp only
  rw [write?_priced]
  rfl

theorem exec_read_priced : pricedSaved.exec (Save.read "s1") =
    (.ok (saveOf "trees-dir:/t" pricedLine.state), pricedSaved) := by
  have hat : (saveOf "trees-dir:/t" pricedLine.state).IsAt "s1" pricedSaved :=
    readText?_of_write? (write?_priced _)
  rw [Save.exec_read hat, Save.parse?_text (by decide) readsBack_priced]
  rfl

theorem finds_priced : Finds "trees-dir:/t" ⟨[.ofDocument priced], {}⟩ pricedSaved := by
  obtain ⟨-, hid, habsolute, -, -, hall⟩ := paths_priced
  obtain ⟨hkind, -⟩ := hall pricedSaved (by simp)
  rw [← hid]
  exact ⟨_, Catalogue.exec_ofId habsolute hkind (trees_priced pricedSaved (by simp)),
    library_priced _ _⟩

/-- The second command shows the end. -/
theorem exec_next_priced : pricedSaved.exec (command .next "s1" "s2") =
    (.ok (told "s2" pricedEnd), pricedSaved) := by
  obtain ⟨-, -, -, -, hresume, hgo, hhalt⟩ := sessions_priced
  have hsnap : (saveOf "trees-dir:/t" pricedLine.state).snapshot = pricedLine.state := rfl
  rw [exec_command exec_read_priced finds_priced, hsnap]
  rcases hr : Library.resume ⟨[.ofDocument priced], {}⟩ pricedLine.state with ⟨⟨e⟩ | ⟨u⟩, s⟩
  · rw [hr] at hresume
    cases hresume
  · rw [hr] at hgo hhalt
    dsimp only at hgo hhalt ⊢
    rcases hm : Move.next.go s with ⟨⟨e⟩ | ⟨type⟩, after⟩
    · rw [hm] at hgo
      cases hgo
    · rw [hm] at hhalt
      obtain ⟨c, hc, hhalt⟩ := Option.bind_eq_some_iff.mp hhalt
      exact exec_announce_of_over hc (Outcome.toOption_eq_some.mp hhalt) rfl "s2"

theorem runs_priced : runs pricedFiles { directory := "t" } "s1" [(.next, "s2")] =
    [⟨pricedFiles, "s1", .ok (told "s1" pricedLine), pricedSaved⟩,
      ⟨pricedSaved, "s2", .ok (told "s2" pricedEnd), pricedSaved⟩] := by
  rw [runs, Run.of, exec_start_priced, relay, relay, Run.of, exec_next_priced]

theorem solo_priced : solo pricedFiles { directory := "t" } [.next] =
    [.ok pricedLine, .ok pricedEnd] := by
  obtain ⟨-, -, hfirst, hnext, -⟩ := sessions_priced
  rw [solo_of_opened opened_priced, Session.tour_of_open (Outcome.toOption_eq_some.mp hfirst) rfl,
    Session.tour, Outcome.toOption_eq_some.mp hfirst, Outcome.toOption_eq_some.mp hnext]
  rfl

/-- The two commands show the line and the end, like one reader. -/
theorem priced_runs_spec : ∃ run,
    (runs pricedFiles { directory := "t" } "s1" [(.next, "s2")])[1]? = some run ∧
      run.result = .ok (told run.file pricedEnd) := by
  have htrees : ∀ run ∈ runs pricedFiles { directory := "t" } "s1" [(.next, "s2")],
      SameTrees (pricedFiles.absolute "t") pricedFiles run.before := by
    rw [runs_priced, paths_priced.1]
    intro run hrun
    cases hrun with
    | head => exact ⟨rfl, rfl⟩
    | tail _ hrun =>
      cases List.mem_singleton.mp hrun
      exact sameTrees_priced
  have hsaved : ∀ run ∈ runs pricedFiles { directory := "t" } "s1" [(.next, "s2")],
      run.result ≠ .error (.saveUnwritable run.file) := by
    rw [runs_priced]
    intro run hrun h
    cases hrun with
    | head => cases h
    | tail _ hrun =>
      cases List.mem_singleton.mp hrun
      cases h
  have hk : (solo pricedFiles { directory := "t" } [.next])[1]? = some (.ok pricedEnd) := by
    rw [solo_priced]
    rfl
  have hback : ∀ halt, .ok halt ∈ (solo pricedFiles { directory := "t" } [.next]).take 1 →
      halt.state.ReadsBack := by
    rw [solo_priced]
    intro halt hmem
    cases List.mem_singleton.mp hmem
    exact readsBack_priced
  obtain ⟨run, hrun, hresult, -⟩ := runs_spec htrees hsaved hk hback
  exact ⟨run, hrun, hresult⟩

end DialogueTree.Agent
