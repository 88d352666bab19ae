import DialogueTree.Proofs.Reader.Standing

/-!
# The scope of a line's own speaker

While a speaker waits to return, somebody else speaks who belongs to a single line. A walk that ends
there rests on that line, or on the question that the line leads into, and whatever takes the reader
off its place lets the waiting speaker return. A jump does not: the reader is put on another node,
and the speaker of the line that it has left goes on speaking there until the next walk.

Results:
* `Document.shows_of_walk`: where a walk rests while a speaker waits to return.
* `Session.inScope_run`: what one action does to the scope of a line.
* `Session.override_scope`: where a reader rests while a speaker waits to return.
-/

namespace DialogueTree

namespace Document

variable {d : Document} {s after : Scene} {i : Nat}

/-- Whether the line at a position has a speaker of its own, and whoever reaches the line rests at
`place`: on the line, or on the question that its first exit leads to. -/
def Shows (d : Document) (line : Nat) (speaker : Speaker) (place : Nat) : Prop :=
  ∃ n text, d.node? line = some n ∧ n.content = .dialogue text (some speaker) ∧
    (place = line ∨
      ∃ link, n.outputs.head? = some link ∧ link.node = place ∧ d.isBranch place = true)

/-- Where a walk has ended while a speaker waits to return, a line is shown that has a speaker of
its own, and this one speaks. -/
theorem shows_of_walk {cursor hops : Nat} {r : Rest} {waiting : Speaker}
    (h : d.walk cursor hops s i = (.ok r, after)) (hpending : after.pending = some waiting) :
    ∃ line, d.Shows line after.speaker r.cursor := by
  obtain ⟨v, -, hv⟩ := walk_eq_ok h
  obtain ⟨n, hn, rfl, hrest⟩ := visit_eq_rest hv
  have hnone : v.scene.revert.pending = none := congrArg Voice.pending v.scene.voice_revert
  cases hrest with
  | plain =>
    rw [hnone] at hpending
    cases hpending
  | @dialogue text override hc =>
    cases override with
    | none =>
      rw [Scene.override, hnone] at hpending
      cases hpending
    | some speaker =>
      refine ⟨v.position, n, text, hn, hc, ?_⟩
      rcases restAt_cases hn with ⟨-, hat⟩ | ⟨link, -, hout, hto, hat⟩
      · rw [hat]
        exact .inl rfl
      · rw [hat]
        exact .inr ⟨link, hout, rfl, hto⟩

end Document

namespace Conversation

variable {c : Conversation} {put : Option Nat}

/-- Whether a speaker who waits to return waits for the reader to leave a line that it rests on or
is asked about. `put` is the node that the reader has been put on since it came to rest there. -/
def InScope (c : Conversation) (put : Option Nat) : Prop :=
  ∀ waiting, c.scene.pending = some waiting →
    ∃ line place, c.document.Shows line c.scene.speaker place ∧ c.cursor = put.getD place

/-- The scope of a line is seen in the voice, the document and the cursor. -/
theorem InScope.congr {c' : Conversation} (h : c.InScope put)
    (hdocument : c'.document = c.document) (hvoice : c'.scene.voice = c.scene.voice)
    (hcursor : c'.cursor = c.cursor) : c'.InScope put := by
  have hspeaker : c'.scene.speaker = c.scene.speaker := congrArg Voice.speaker hvoice
  have hpending : c'.scene.pending = c.scene.pending := congrArg Voice.pending hvoice
  intro waiting hwaiting
  rw [hdocument, hspeaker, hcursor]
  exact h waiting (hpending ▸ hwaiting)

/-- A walk that comes to rest opens a scope, or there is none. -/
theorem inScope_follow_of_ok {first : Nat} {type : NodeType}
    (h : (c.follow (.ok first)).1 = .ok type) : (c.follow (.ok first)).2.InScope none := by
  unfold follow at *
  dsimp only at *
  split at h
  next r after hsettle =>
    intro waiting hwaiting
    obtain ⟨line, hshows⟩ := Document.shows_of_walk (Document.settle_eq_ok.mp hsettle) hwaiting
    exact ⟨line, r.cursor, hshows, rfl⟩
  next => cases h

theorem inScope_follow_of_error {first : Except ReaderError Nat} {e : ReaderError}
    (hc : c.InScope put) (h : (c.follow first).1 = .error e) : (c.follow first).2.InScope put := by
  unfold follow at *
  split at h
  next => exact hc
  next =>
    split at h
    next => cases h
    next e' after hsettle => exact hc.congr rfl (Document.settle_voice_of_error hsettle) rfl

end Conversation

/-! ## Actions -/

/-- The node that an action puts the reader on without walking there. -/
def Action.target? (s : Session) : Action → Option Nat
  | call (.jump i) => if (s.jump i).1.isOk then some i else none
  | _ => none

namespace Session

variable {s : Session} {a : Action} {put : Option Nat}

/-- Whether a speaker who waits to return in the reader's tree has a reason to wait. -/
def InScope (s : Session) (put : Option Nat) : Prop :=
  ∀ c, s.conversation? = some c → c.InScope put

/-- The node that the reader has been put on since it last came to rest, after one more action. -/
def putAfter (s : Session) (put : Option Nat) (a : Action) : Option Nat :=
  if a.leaves s then none else (a.target? s).or put

/-- The node that the reader has been put on since it last came to rest, after some more actions. -/
def lastPut (s : Session) (put : Option Nat) : List Action → Option Nat
  | [] => put
  | a :: rest => (a.run s).2.lastPut (s.putAfter put a) rest

theorem inScope_of_idle (h : s.reader.place = none) : s.InScope put := by
  intro c hc
  rw [conversation?_of_idle h] at hc
  cases hc

theorem inScope_of_pass {w : Pass} {type : NodeType} (hpass : s.pass? a = some w)
    (hok : w.result = .ok type) : (a.run s).2.InScope none := by
  intro c hc
  rw [conversation?_run hpass hok] at hc
  cases hc
  exact Conversation.inScope_follow_of_ok hok

/-- Going on opens another scope where it comes to rest, and leaves the scope as it is where it
fails. -/
theorem inScope_of_follows {r : Except ReaderError NodeType × Session} (h : s.InScope put)
    (hfollows : s.Follows a r) : r.2.InScope (if r.1.isOk then none else put) := by
  cases hfollows with
  | stays => exact h
  | walks hl hpass hw =>
    rename_i p t w
    obtain ⟨hresult, hafter⟩ := settle_conversation hl w.first
    intro c hc
    rw [hafter] at hc
    cases hc
    rw [hresult]
    cases hr : (Conversation.follow ⟨t.document, p.cursor, s.scene p t⟩ (.ok w.first)).1 with
    | ok type => exact Conversation.inScope_follow_of_ok hr
    | error e => exact Conversation.inScope_follow_of_error (h _ (conversation?_of_loaded? hl)) hr

/-- A call that keeps the conversation in scope, keeps the session in scope. -/
theorem inScope_call (hs : s.Settled) (call : Call)
    (h : ∀ c, s.conversation? = some c → (call.converse c).2.InScope put) :
    (call.run s).2.InScope put := by
  rcases hs with hidle | ⟨c, hc, -⟩
  · exact inScope_of_idle (place_run_of_idle hidle call)
  · intro c' hc'
    rw [(call.run_conversation hc).2] at hc'
    cases hc'
    exact h c hc

/-- A jump takes the reader off the line, but the line stays in force. -/
theorem inScope_jump (hs : s.Settled) (h : s.InScope put) (i : Nat) :
    (s.jump i).2.InScope (((Action.call (.jump i)).target? s).or put) := by
  refine inScope_call hs (.jump i) fun c hc => ?_
  have hresult := (jump_conversation hc i).1
  rw [Action.target?, hresult]
  show (c.jump i).2.InScope _
  cases hr : (c.jump i).1 with
  | ok type =>
    intro waiting hwaiting
    rw [(Conversation.jump_eq_ok hr).1] at hwaiting ⊢
    obtain ⟨line, place, hshows, -⟩ := h c hc waiting hwaiting
    exact ⟨line, place, hshows, rfl⟩
  | error e =>
    rw [Conversation.jump_eq_error hr]
    exact h c hc

theorem inScope_tryLocals (hs : s.Settled) (h : s.InScope put) {call : Call}
    {f : Store → Option Store}
    (hcall : ∀ c, (call.converse c).2 = (c.tryLocals f).2) : (call.run s).2.InScope put := by
  refine inScope_call hs call fun c hc => ?_
  rw [hcall c]
  unfold Conversation.tryLocals
  split
  · exact (h c hc).congr rfl rfl rfl
  · exact h c hc

/-- What one action does to the scope of a line. -/
theorem inScope_run (hs : s.Settled) (h : s.InScope put) (ha : ¬a.SetsSpeaker) :
    (a.run s).2.InScope (s.putAfter put a) := by
  cases a with
  | load tree start =>
    cases hr : (s.load tree start).1 with
    | ok report =>
      obtain ⟨w, hpass, hok⟩ := (s.enters_load tree start).exists_pass hr
      exact inScope_of_pass hpass hok
    | error e => exact inScope_of_idle (load_eq_error hr)
  | unload => exact inScope_of_idle rfl
  | resume => exact absurd trivial ha
  | call c =>
    cases c with
    | advance => exact inScope_of_follows h s.follows_advance
    | choose choice => exact inScope_of_follows h (s.follows_choose choice)
    | jump i => exact inScope_jump hs h i
    | changeSpeaker => exact absurd trivial ha
    | setVariable | addVariable | removeVariable => exact inScope_tryLocals hs h fun _ => rfl
    | takeSpeakerChanged => exact inScope_call hs _ fun c hc => (h c hc).congr rfl rfl rfl
    | output | expand | speakerName | getVariable | snapshot => exact h

/-- What any number of actions do to the scope of a line. -/
theorem inScope_after (hs : s.Settled) (h : s.InScope put) {actions : List Action}
    (hown : ∀ a ∈ actions, ¬a.SetsSpeaker) : (s.after actions).InScope (s.lastPut put actions) := by
  induction actions generalizing s put with
  | nil => exact h
  | cons a rest ih =>
    obtain ⟨ha, hrest⟩ := List.forall_mem_cons.mp hown
    exact ih (settled_run hs a) (inScope_run hs h ha) hrest

/-- Whenever a speaker waits to return, somebody speaks who has a line of its own. The reader rests
on that line, or on the question that the line leads into, unless it has been put on another node
since then: there the line's speaker still speaks. -/
theorem override_scope (l : Library) {actions : List Action}
    (hown : ∀ a ∈ actions, ¬a.SetsSpeaker) :
    let s : Session := after ⟨l, {}⟩ actions
    ∀ p t waiting, s.loaded? = some (p, t) → p.pending = some waiting →
      ∃ line place, t.document.Shows line t.speaker place ∧
        p.cursor = ((⟨l, {}⟩ : Session).lastPut none actions).getD place := by
  intro s p t waiting hl hwaiting
  have hscope : s.InScope ((⟨l, {}⟩ : Session).lastPut none actions) :=
    inScope_after (.inl rfl) (inScope_of_idle rfl) hown
  exact hscope _ (conversation?_of_loaded? hl) waiting hwaiting

/-- On the guest's line. -/
theorem visited_override_scope :
    let actions : List Action := [.load 0 (some 1)]
    let s : Session := after ⟨.visited, {}⟩ actions
    let guest : Tree := { Tree.ofDocument .visited with speaker := { name := "Guest" } }
    (∀ a ∈ actions, ¬a.SetsSpeaker) ∧
    s.loaded? = some (⟨0, 3, some { name := "Ann" }⟩, guest) ∧
    ∃ line place, guest.document.Shows line { name := "Guest" } place ∧ 3 = place := by
  intro actions s guest
  have hown : ∀ a ∈ actions, ¬a.SetsSpeaker := by
    simp [actions, Action.SetsSpeaker]
  have hl : s.loaded? = some (⟨0, 3, some { name := "Ann" }⟩, guest) := by decide
  refine ⟨hown, hl, ?_⟩
  have hput : (⟨.visited, {}⟩ : Session).lastPut none actions = none := by decide
  obtain ⟨line, place, hshows, hplace⟩ := override_scope .visited hown _ _ _ hl rfl
  rw [hput] at hplace
  exact ⟨line, place, hshows, hplace⟩

/-- A reader that is put on the next line hears the guest there, whose line it is not. -/
theorem override_outlives_line :
    let s : Session := after ⟨.visited, {}⟩ [.load 0 (some 1), .call (.jump 4)]
    ∃ p t waiting, s.loaded? = some (p, t) ∧ p.pending = some waiting ∧
      t.speaker = { name := "Guest" } ∧ t.document.issues = [] ∧
      ¬∃ line, t.document.Shows line t.speaker p.cursor := by
  refine ⟨⟨0, 4, some { name := "Ann" }⟩,
    { Tree.ofDocument .visited with speaker := { name := "Guest" } }, _, by decide, rfl, rfl,
    by decide, ?_⟩
  rintro ⟨line, n, text, hn, hc, hplace⟩
  -- Nobody but the guest has an own speaker, and the guest's line leads to no question.
  have hline : line = 3 := by
    match line, hn with
    | 0, hn | 1, hn | 2, hn | 4, hn | 5, hn | 6, hn =>
      cases hn
      cases hc
    | 3, _ => rfl
    | k + 7, hn => cases hn
  subst hline
  cases hn
  rcases hplace with hplace | ⟨_, _, _, hbranch⟩
  · cases hplace
  · cases hbranch

end Session

end DialogueTree
