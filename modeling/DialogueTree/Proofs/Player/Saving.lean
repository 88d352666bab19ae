import DialogueTree.Player.CommandLine
import DialogueTree.Proofs.Disk.Writing
import DialogueTree.Proofs.Player.Agent

/-!
# When a state is saved

A command of another program reads all that it needs, takes the conversation to its next place of
rest and describes the stop there before it writes anything. So a command that fails on the way has
touched no file, not even the one that it has read, and neither has one that comes to the end of
the conversation. A command that comes to a line or a question always has something to describe,
and then writes one file.

Results:
* `Conversation.AtRest.exists_halt`: at a place of rest there is something to describe.
* `Agent.Order.exec_program`: what comes before and after the place of rest.
* `CommandLine.runCommand_saves`: what a command leaves in the files, and how it exits.
-/

namespace DialogueTree

open FileTree

/-- A state is saved wherever texts can be written. -/
theorem Save.exists_saves {t : FileTree} {p : Path} (h : t.Accepts p) (s : Save) :
    ∃ after, t.exec (s.write p) = (.ok (), after) ∧ t.Saves p s.text after := by
  obtain ⟨made, after, hmade, hwrite⟩ := h s.text
  refine ⟨after, ?_, saves_of_write? hmade hwrite⟩
  rw [Save.exec_write, hmade]
  dsimp only
  rw [hwrite]

/-! ## Places of rest -/

theorem Output.isFinish_iff {o : Output} : o.isFinish = true ↔ o.type = .finish := by
  cases o <;> simp [Output.isFinish, Output.type]

namespace Conversation

variable {c : Conversation}

/-- At a place of rest there is a stop to describe, of the kind of the node there. -/
theorem AtRest.exists_halt (h : c.AtRest) (first : Bool) :
    ∃ halt, c.halt first = .ok halt ∧
      c.document.nodeType? c.cursor = some halt.stop.output.type := by
  obtain ⟨type, htype, hstop⟩ := h
  obtain ⟨n, hn, rfl⟩ := Document.nodeType?_eq_some.mp htype
  obtain ⟨o, ho, hkind⟩ := Document.exists_output hn hstop c.expand
  have hout : c.output = .ok o := ho
  unfold halt stop
  rw [hout]
  refine ⟨_, rfl, ?_⟩
  rw [htype]
  exact congrArg some hkind.symm

end Conversation

/-- A move that succeeds leads a conversation to a place of rest. -/
theorem Move.exists_atRest {m : Move} {s : Session} {type : NodeType}
    (h : (m.go s).1 = .ok type) : ∃ c, (m.go s).2.conversation? = some c ∧ c.AtRest := by
  cases hc : s.conversation? with
  | none =>
    have hl : s.loaded? = none := by simpa [Session.conversation?] using hc
    cases m <;> simp [go, Session.advance, Session.choose, hl] at h
  | some c =>
    obtain ⟨hgo, hafter⟩ := m.go_conversation hc
    refine ⟨_, hafter, ?_⟩
    unfold Conversation.AtRest
    rw [Conversation.document_follow]
    rcases c.follow_spec (m.exit c) with ⟨type', -, htype, hstop, -⟩ | ⟨e, he, -⟩
    · exact ⟨type', htype, hstop⟩
    · rw [hgo, he] at h
      cases h

/-! ## Commands up to their places of rest -/

namespace Agent

/-- What a command is told to do, but for the file that it saves in. -/
inductive Order where
  | start (b : Beginning)
  | move (m : Move) (stateIn : Path)
  deriving DecidableEq

/-- Where a move leads a conversation that has been saved, with the id of its library. -/
def takenOn (t : FileTree) (m : Move) (stateIn : Path) :
    Except PlayerError (String × Session) := do
  let save ← (t.exec (Save.read stateIn)).1
  let c ← (t.exec (Catalogue.ofId save.libraryId)).1
  let s ← c.resume save.snapshot
  ((m.go s).1.map fun _ => (save.libraryId, (m.go s).2)).mapError .ofReader

namespace Order

/-- Whether a conversation is started. -/
def isFirst : Order → Bool
  | start _ => true
  | move .. => false

/-- The command that saves in a file. -/
def command (stateOut : Path) : Order → Command
  | start b => .start b stateOut
  | move .next stateIn => .next stateIn stateOut
  | move (.choose choice) stateIn => .choose stateIn choice stateOut

/-- What the command does. -/
def program (stateOut : Path) : Order → ExceptT PlayerError (StateM FileTree) (List String)
  | start b => Agent.start b stateOut
  | move m stateIn => Agent.command m stateIn stateOut

/-- The conversation as it comes to rest, with the id of its library. -/
def arrival (t : FileTree) : Order → Except PlayerError (String × Session)
  | start b => opened t b
  | move m stateIn => takenOn t m stateIn

/-- Whether the conversation comes to rest on a line or a question. -/
def GoesOn (order : Order) (t : FileTree) (id : String) (s : Session) : Prop :=
  order.arrival t = .ok (id, s) ∧ (s.nodeType? = some .dialogue ∨ s.nodeType? = some .branch)

variable {t : FileTree} {order : Order} {id : String} {s : Session}

/-- What a command does once the conversation has come to rest. Up to there it only reads. -/
theorem exec_program (t : FileTree) (order : Order) (stateOut : Path) :
    t.exec (order.program stateOut) = match order.arrival t with
      | .error e => (.error e, t)
      | .ok (id, s) => t.exec (announce s order.isFirst id stateOut) := by
  cases order with
  | start b => exact exec_start t b stateOut
  | move m stateIn =>
    rw [program, command_eq, Agent.move, exec_bind, (Save.reads_read stateIn).exec_eq t, arrival,
      takenOn]
    cases (t.exec (Save.read stateIn)).1 with
    | error e => rfl
    | ok save =>
      rw [Outcome.bind_ok]
      dsimp only
      rw [exec_bind, (Catalogue.reads_ofId save.libraryId).exec_eq t]
      cases (t.exec (Catalogue.ofId save.libraryId)).1 with
      | error e => rfl
      | ok c =>
        rw [Outcome.bind_ok]
        dsimp only
        rw [exec_bind, exec_outcome]
        cases c.resume save.snapshot with
        | error e => rfl
        | ok s =>
          rw [Outcome.bind_ok]
          dsimp only
          rcases m.go s with ⟨⟨e⟩ | ⟨type⟩, after⟩ <;> rfl

/-- The conversation rests where it has arrived. -/
theorem exists_atRest (h : order.arrival t = .ok (id, s)) :
    ∃ c, s.conversation? = some c ∧ c.AtRest := by
  cases order with
  | start b =>
    obtain ⟨l, c, -, hc, hanchored, -⟩ := exists_library_of_opened h
    exact ⟨c, hc, hanchored.rest⟩
  | move m stateIn =>
    obtain ⟨save, -, h⟩ := Outcome.bind_eq_ok.mp h
    obtain ⟨c, -, h⟩ := Outcome.bind_eq_ok.mp h
    obtain ⟨s', -, h⟩ := Outcome.bind_eq_ok.mp h
    cases hgo : (m.go s').1 with
    | error e =>
      rw [hgo] at h
      cases h
    | ok type =>
      rw [hgo] at h
      cases h
      exact Move.exists_atRest hgo

/-- There is always something to describe there, and a state to save. -/
theorem exists_halt (h : order.arrival t = .ok (id, s)) :
    ∃ c halt, s.conversation? = some c ∧ c.halt order.isFirst = .ok halt ∧
      s.nodeType? = some halt.stop.output.type ∧
      (s.stop order.isFirst).2.snapshot = .ok halt.state := by
  obtain ⟨c, hc, hrest⟩ := exists_atRest h
  obtain ⟨halt, hhalt, htype⟩ := hrest.exists_halt order.isFirst
  obtain ⟨-, hnoted⟩ := Session.stop_conversation hc order.isFirst
  refine ⟨c, halt, hc, hhalt, (Session.nodeType?_conversation hc).trans htype, ?_⟩
  rw [Session.snapshot_conversation hnoted, (Conversation.halt_eq_ok hhalt).2]
  rfl

variable {stateOut : Path}

/-- A command that comes to a line or a question saves the state in which the stop has been
described. -/
theorem exec_of_goesOn (h : order.GoesOn t id s) (haccepts : t.Accepts stateOut) :
    ∃ snap lines after, (s.stop order.isFirst).2.snapshot = .ok snap ∧
      t.exec (order.program stateOut) = (.ok lines, after) ∧
      t.Saves stateOut (saveOf id snap).text after := by
  obtain ⟨harrival, hopen⟩ := h
  obtain ⟨c, halt, hc, hhalt, htype, hsnap⟩ := exists_halt harrival
  obtain ⟨after, hwrite, hsaves⟩ := (saveOf id halt.state).exists_saves haccepts
  have hopen : halt.isOver = false := by
    rw [Halt.isOver, ← Bool.not_eq_true, Output.isFinish_iff]
    intro hfinish
    rw [hfinish] at htype
    rw [htype] at hopen
    rcases hopen with hopen | hopen <;> cases hopen
  refine ⟨halt.state, told stateOut halt, after, hsnap, ?_, hsaves⟩
  rw [exec_program, harrival]
  dsimp only
  rw [exec_announce_of_open t id hc hhalt hopen, hwrite]

/-- A command that comes to the end saves nothing. -/
theorem exec_of_finish (h : order.arrival t = .ok (id, s))
    (hfinish : s.nodeType? = some .finish) :
    ∃ lines, t.exec (order.program stateOut) = (.ok lines, t) := by
  obtain ⟨c, halt, hc, hhalt, htype, -⟩ := exists_halt h
  have hover : halt.isOver = true :=
    Output.isFinish_iff.mpr (Option.some.inj (htype.symm.trans hfinish))
  refine ⟨told stateOut halt, ?_⟩
  rw [exec_program, h]
  exact exec_announce_of_over hc hhalt hover stateOut

/-- A conversation that comes to rest goes on or is over. -/
theorem goesOn_or_finish (h : order.arrival t = .ok (id, s)) :
    order.GoesOn t id s ∨ s.nodeType? = some .finish := by
  obtain ⟨c, halt, -, -, htype, -⟩ := exists_halt h
  rw [htype]
  cases hout : halt.stop.output with
  | dialogue text => exact .inl ⟨h, .inl (by rw [htype, hout]; rfl)⟩
  | branch question answers => exact .inl ⟨h, .inr (by rw [htype, hout]; rfl)⟩
  | finish => exact .inr rfl

end Order

end Agent

/-! ## Commands -/

namespace CommandLine

open Agent

variable {t t' : FileTree} {x : ExceptT PlayerError (StateM FileTree) (List String)}

theorem eval_ofLines_of_ok {lines : List String} (h : t.exec x = (.ok lines, t')) :
    t.eval (ofLines x) = (⟨0, Play.text lines⟩, t') := by
  unfold ofLines
  rw [eval_bind t ((t.eval_run x).trans h)]
  rfl

theorem eval_ofLines_of_error {e : PlayerError} (h : t.exec x = (.error e, t')) :
    t.eval (ofLines x) = (⟨1, "" ++ Play.text e.lines⟩, t') := by
  unfold ofLines
  rw [eval_bind t ((t.eval_run x).trans h)]
  rfl

theorem runCommand_command (order : Order) (stateOut : Path) (input : List (Option String)) :
    (runCommand input (order.command stateOut) : StateM FileTree Outcome) =
      ofLines (order.program stateOut) := by
  cases order with
  | start b => rfl
  | move m stateIn => cases m <;> rfl

/-- A command that comes to rest on a line or a question succeeds if its file can be written; then
the file holds, as JSON, the id of the library and the state of the reader once the stop has been
described, and nothing else has changed but for directories that the file needs. Any other command
leaves all files as they are, so that a change always tells of a conversation that goes on; it
succeeds at the end of the conversation and fails otherwise. The file may be the one that the
conversation has been taken from. -/
theorem runCommand_saves (t : FileTree) (order : Order) (stateOut : Path)
    (input : List (Option String)) :
    (t.Accepts stateOut → ∀ id s, order.GoesOn t id s →
      ∃ snap written after, (s.stop order.isFirst).2.snapshot = .ok snap ∧
        t.eval (runCommand input (order.command stateOut)) = (⟨0, written⟩, after) ∧
        t.Saves stateOut (saveOf id snap).text after ∧
        (saveOf id snap).IsIn (saveOf id snap).text) ∧
    ((¬∃ id s, order.GoesOn t id s) →
      ∃ result, t.eval (runCommand input (order.command stateOut)) = (result, t) ∧
        (result.exit = 0 ↔
          ∃ id s, order.arrival t = .ok (id, s) ∧ s.nodeType? = some .finish)) := by
  rw [runCommand_command]
  constructor
  · intro haccepts id s hgoes
    obtain ⟨snap, lines, after, hsnap, hexec, hsaves⟩ := Order.exec_of_goesOn hgoes haccepts
    exact ⟨snap, _, after, hsnap, eval_ofLines_of_ok hexec, hsaves, (saveOf id snap).isIn_text⟩
  · intro hgoes
    cases harrival : order.arrival t with
    | error e =>
      have hexec : t.exec (order.program stateOut) = (.error e, t) := by
        rw [Order.exec_program, harrival]
      refine ⟨_, eval_ofLines_of_error hexec, ?_⟩
      constructor
      · intro hexit
        cases hexit
      · rintro ⟨id, s, hok, -⟩
        cases hok
    | ok found =>
      obtain ⟨id, s⟩ := found
      have hfinish : s.nodeType? = some .finish :=
        (Order.goesOn_or_finish harrival).resolve_left fun h => hgoes ⟨id, s, h⟩
      obtain ⟨lines, hexec⟩ := Order.exec_of_finish harrival hfinish
      exact ⟨_, eval_ofLines_of_ok hexec, fun _ => ⟨id, s, rfl, hfinish⟩, fun _ => rfl⟩

/-! ## The line with a price -/

theorem accepts_priced : pricedFiles.Accepts "s1" := fun text =>
  ⟨pricedFiles, _, makeParent_priced, write?_priced text⟩

theorem goesOn_priced :
    (Order.start { directory := "t" }).GoesOn pricedFiles "trees-dir:/t" pricedSession :=
  ⟨opened_priced, .inl (by decide +kernel)⟩

theorem stop_priced : (pricedSession.stop true).2.snapshot = .ok pricedLine.state := by
  decide +kernel

/-- The reader that takes up the line cannot make a choice there. -/
theorem arrival_choose_priced :
    ∃ e, (Order.move (.choose 0) "s1").arrival pricedSaved = .error e := by
  obtain ⟨c, hc, hlibrary⟩ := finds_priced
  have hrefused : (Move.go (Library.resume ⟨[.ofDocument priced], {}⟩ pricedLine.state).2
      (.choose 0)).1.isOk = false := by
    decide +kernel
  obtain ⟨-, -, -, -, hresume, -⟩ := sessions_priced
  have hsnap : (saveOf "trees-dir:/t" pricedLine.state).snapshot = pricedLine.state := rfl
  have hid : (saveOf "trees-dir:/t" pricedLine.state).libraryId = "trees-dir:/t" := rfl
  rw [Order.arrival, takenOn, exec_read_priced, Outcome.bind_ok, hid, hc, Outcome.bind_ok, hsnap,
    Catalogue.resume, hlibrary, Outcome.bind_ok]
  rcases hr : Library.resume ⟨[.ofDocument priced], {}⟩ pricedLine.state with ⟨⟨e⟩ | ⟨u⟩, s⟩
  · rw [hr] at hresume
    cases hresume
  · rw [hr] at hrefused
    dsimp only at hrefused ⊢
    change ∃ e, ((Move.go s (.choose 0)).1.map _).mapError _ = _
    cases hgo : (Move.go s (.choose 0)).1 with
    | ok type =>
      rw [hgo] at hrefused
      cases hrefused
    | error e => exact ⟨_, rfl⟩

/-- The first command saves the line. To choose something there fails, and leaves the state in its
file although it is to be saved there again. -/
theorem priced_runCommand_saves : (∃ written after,
      pricedFiles.eval (runCommand [] (.start { directory := "t" } "s1")) =
        (⟨0, written⟩, after) ∧
      pricedFiles.Saves "s1" (saveOf "trees-dir:/t" pricedLine.state).text after ∧
      (saveOf "trees-dir:/t" pricedLine.state).IsIn
        (saveOf "trees-dir:/t" pricedLine.state).text) ∧
    ∃ result, pricedSaved.eval (runCommand [] (.choose "s1" 0 "s1")) = (result, pricedSaved) ∧
      result.exit ≠ 0 := by
  obtain ⟨hstart, -⟩ := runCommand_saves pricedFiles (.start { directory := "t" }) "s1" []
  obtain ⟨-, hchoose⟩ := runCommand_saves pricedSaved (.move (.choose 0) "s1") "s1" []
  obtain ⟨snap, written, after, hsnap, heval, hsaves, hin⟩ :=
    hstart accepts_priced _ _ goesOn_priced
  obtain ⟨e, herror⟩ := arrival_choose_priced
  constructor
  · obtain rfl : pricedLine.state = snap := Except.ok.inj (stop_priced.symm.trans hsnap)
    exact ⟨written, after, heval, hsaves, hin⟩
  · obtain ⟨result, heval, hexit⟩ := hchoose (by
      rintro ⟨id, s, hok, -⟩
      cases herror.symm.trans hok)
    refine ⟨result, heval, fun h => ?_⟩
    obtain ⟨id, s, hok, -⟩ := hexit.mp h
    cases herror.symm.trans hok

end CommandLine

end DialogueTree
