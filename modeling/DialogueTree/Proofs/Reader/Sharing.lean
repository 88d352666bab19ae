import DialogueTree.Proofs.Reader.TreeVoice
import DialogueTree.Reader.Opening

/-!
# Trees with several readers

A tree has one speaker, but each reader that rests in it may keep a speaker of its own to let
return. Nothing orders the returns of several readers: a reader that leaves its line silences
whoever speaks by then. Where nobody is announced, the authored speaker is thus heard again, unless
some reader gives another one the word while the authored speaker has it.

Results:
* `Audience.cast?_move`: what one move does to the voices of a tree.
* `Cast.Keeps`, `Cast.Sole`: a speaker that is there once stays there once, or is gone for good.
* `Audience.speaker_after`: who speaks when all readers are idle again.
-/

namespace DialogueTree

/-! ## Trees in which nobody is announced -/

namespace Document

variable {d : Document}

/-- Whether no node of a document announces anybody. -/
def Quiet (d : Document) : Prop := ∀ n ∈ d.nodes, n.content.announced? = none

instance : Decidable d.Quiet := inferInstanceAs (Decidable (∀ n ∈ d.nodes, _))

/-- Whether a speaker is that of a single line. -/
def Overrides (d : Document) (speaker : Speaker) : Prop :=
  ∃ n ∈ d.nodes, ∃ text, n.content = .dialogue text (some speaker)

theorem Quiet.announced?_eq_none (h : d.Quiet) (vs : List Visit) : d.announced? vs = none := by
  have hnone : ∀ v ∈ vs, ((d.node? v.position).bind (·.content.announced?)) = none := by
    intro v _
    cases hn : d.node? v.position with
    | none => rfl
    | some n => exact h n (List.mem_of_getElem? hn)
  rw [announced?, List.filterMap_eq_nil_iff.mpr hnone]
  rfl

end Document

namespace Session

variable {s : Session} {w : Pass} {t : Tree} {i : Nat}

/-- A walk goes through the tree that it starts in. -/
theorem document_of_pass? {a : Action} (h : s.pass? a = some w) (hground : s.ground? a = some i)
    (ht : s.library.tree? i = some t) : w.document = t.document := by
  have hstay {exit : Conversation → Except ReaderError Nat} (h : s.passFrom? exit = some w)
      (hground : s.reader.place.map (·.tree) = some i) : w.document = t.document := by
    obtain ⟨p, u, hl, hw⟩ := conversation?_eq_some.mp (passFrom?_eq_some.mp h).1
    obtain ⟨hplace, hu⟩ := loaded?_eq_some.mp hl
    obtain rfl : p.tree = i := by simpa [hplace] using hground
    obtain rfl : u = t := Option.some.inj (hu.symm.trans ht)
    exact congrArg Conversation.document hw
  cases a with
  | load tree start =>
    obtain rfl : tree = i := Option.some.inj hground
    obtain ⟨u, startNode, hu, -, hw⟩ := opening?_eq_some.mp h
    obtain ⟨u', hu', hdoc⟩ := s.tree?_unload tree ht
    obtain rfl : u = u' := Option.some.inj (hu.symm.trans hu')
    exact (congrArg Conversation.document hw).trans hdoc
  | unload | resume => cases h
  | call c =>
    cases c with
    | advance | choose => exact hstay h hground
    | _ => cases h

theorem announced?_of_quiet (ht : s.library.tree? i = some t) (hquiet : t.document.Quiet)
    (a : Action) : s.announced? a i = none := by
  unfold announced?
  cases hpass : s.pass? a with
  | none => rfl
  | some w =>
    rw [Option.bind_some]
    split
    next h =>
      rw [document_of_pass? hpass h.1 ht]
      exact hquiet.announced?_eq_none w.visits
    next => rfl

end Session

/-! ## Casts -/

/-- Who speaks in a tree, and for each reader the speaker whom it lets return there. -/
structure Cast where
  speaker : Speaker
  waiting : Nat → Option Speaker

namespace Cast

variable {c : Cast} {d : Document} {v : Voice} {speaker : Speaker} {r : Nat}

/-- The voice of a tree for one of its readers. -/
def voice (c : Cast) (r : Nat) : Voice := ⟨c.speaker, c.waiting r⟩

/-- The cast after a reader has changed the voice of the tree. -/
def withVoice (c : Cast) (r : Nat) (v : Voice) : Cast :=
  ⟨v.speaker, fun q => if q = r then v.pending else c.waiting q⟩

theorem withVoice_voice (c : Cast) (r : Nat) : c.withVoice r (c.voice r) = c := by
  have hwaiting : (fun q => if q = r then c.waiting r else c.waiting q) = c.waiting := by
    funext q
    split
    next h => rw [h]
    next => rfl
  exact congrArg (Cast.mk c.speaker) hwaiting

/-- Who is in a seat: the first one is for the one who speaks, and each reader has one for the
speaker whom it lets return. -/
def seat? (c : Cast) : Option Nat → Option Speaker
  | none => some c.speaker
  | some r => c.waiting r

/-- Whether a speaker has a seat. -/
def Keeps (c : Cast) (speaker : Speaker) : Prop := ∃ x, c.seat? x = some speaker

/-- Whether a speaker has at most one seat. -/
def Sole (c : Cast) (speaker : Speaker) : Prop :=
  ∀ x y, c.seat? x = some speaker → c.seat? y = some speaker → x = y

theorem seat?_withVoice_of_ne (c : Cast) (v : Voice) {x : Option Nat} (hx : x ≠ none)
    (hxr : x ≠ some r) : (c.withVoice r v).seat? x = c.seat? x := by
  cases x with
  | none => exact absurd rfl hx
  | some q => exact if_neg fun h => hxr (congrArg some h)

theorem seat?_withVoice_self (c : Cast) (r : Nat) (v : Voice) :
    (c.withVoice r v).seat? (some r) = v.pending := if_pos rfl

/-- Two seats are those of the voice, and all others are as they were. -/
theorem seat_cases {x : Option Nat} (hx : (c.withVoice r v).seat? x = some speaker) :
    x = none ∧ v.speaker = speaker ∨ x = some r ∧ v.pending = some speaker ∨
    x ≠ none ∧ x ≠ some r ∧ c.seat? x = some speaker := by
  by_cases hnone : x = none
  · subst hnone
    exact .inl ⟨rfl, Option.some.inj hx⟩
  · by_cases hxr : x = some r
    · subst hxr
      rw [seat?_withVoice_self] at hx
      exact .inr (.inl ⟨rfl, hx⟩)
    · rw [seat?_withVoice_of_ne c v hnone hxr] at hx
      exact .inr (.inr ⟨hnone, hxr, hx⟩)

/-- The one whom a reader brings back has the seat of that reader, or speaks. -/
theorem exists_seat?_standing (c : Cast) (r : Nat) :
    ∃ x, (x = none ∨ x = some r) ∧ c.seat? x = some (c.voice r).standing := by
  cases hr : c.waiting r with
  | none => exact ⟨none, .inl rfl, by simp [seat?, voice, Voice.standing, hr]⟩
  | some waiting => exact ⟨some r, .inr rfl, by simp [seat?, voice, Voice.standing, hr]⟩

/-- Where everybody sits when a reader has left its line: the one whom it brings back has one of
two seats, the other one is empty or taken by the speaker of a line, and nobody else has moved. -/
theorem seats_withVoice (hv : d.Sounds (c.voice r).standing v) :
    ∃ home, (c.withVoice r v).seat? home = some (c.voice r).standing ∧
      ∀ x speaker, (c.withVoice r v).seat? x = some speaker →
        x = home ∧ speaker = (c.voice r).standing ∨ d.Overrides speaker ∨
        x ≠ none ∧ x ≠ some r ∧ c.seat? x = some speaker := by
  cases hv with
  | plain =>
    refine ⟨none, rfl, fun x speaker hx => ?_⟩
    rcases seat_cases hx with ⟨hnone, heq⟩ | ⟨-, hwaits⟩ | hother
    · exact .inl ⟨hnone, heq.symm⟩
    · cases hwaits
    · exact .inr (.inr hother)
  | line hn hc =>
    refine ⟨some r, seat?_withVoice_self c r _, fun x speaker hx => ?_⟩
    rcases seat_cases hx with ⟨-, rfl⟩ | ⟨hxr, hwaits⟩ | hother
    · exact .inr (.inl ⟨_, List.mem_of_getElem? hn, _, hc⟩)
    · exact .inl ⟨hxr, (Option.some.inj hwaits).symm⟩
    · exact .inr (.inr hother)

/-- A speaker keeps a seat, unless a reader gives the word to somebody else while it has it. -/
theorem Keeps.withVoice (h : c.Keeps speaker) (hv : d.Sounds (c.voice r).standing v)
    (hkept : c.speaker = speaker → c.waiting r = none) : (c.withVoice r v).Keeps speaker := by
  obtain ⟨home, hhome, -⟩ := seats_withVoice hv
  obtain ⟨x, hx⟩ := h
  by_cases hnone : x = none
  · subst hnone
    have hspeaks : c.speaker = speaker := Option.some.inj hx
    exact ⟨home, by simpa [voice, Voice.standing, hkept hspeaks, hspeaks] using hhome⟩
  · by_cases hxr : x = some r
    · subst hxr
      have hwaiting : c.waiting r = some speaker := hx
      exact ⟨home, by simpa [voice, Voice.standing, hwaiting] using hhome⟩
    · exact ⟨x, (seat?_withVoice_of_ne c v hnone hxr).trans hx⟩

/-- Nobody joins but speakers of lines. -/
theorem keeps_of_withVoice (hv : d.Sounds (c.voice r).standing v)
    (h : (c.withVoice r v).Keeps speaker) : c.Keeps speaker ∨ d.Overrides speaker := by
  obtain ⟨home, -, hseats⟩ := seats_withVoice hv
  obtain ⟨x, hx⟩ := h
  rcases hseats x speaker hx with ⟨-, rfl⟩ | hline | ⟨-, -, hx⟩
  · obtain ⟨y, -, hy⟩ := c.exists_seat?_standing r
    exact .inl ⟨y, hy⟩
  · exact .inr hline
  · exact .inl ⟨x, hx⟩

/-- A speaker with at most one seat gets no second one, if no line has it for its own. -/
theorem Sole.withVoice (h : c.Sole speaker) (hv : d.Sounds (c.voice r).standing v)
    (hline : ¬d.Overrides speaker) : (c.withVoice r v).Sole speaker := by
  obtain ⟨home, -, hseats⟩ := seats_withVoice hv
  obtain ⟨z, hz, hstanding⟩ := c.exists_seat?_standing r
  -- Whom the reader brings back, had one of its two seats before.
  have hother {x : Option Nat} (heq : speaker = (c.voice r).standing) (hx : x ≠ none)
      (hxr : x ≠ some r) : c.seat? x ≠ some speaker := by
    intro hseat
    obtain rfl : x = z := h x z hseat (heq ▸ hstanding)
    exact hz.elim hx hxr
  intro x y hx hy
  rcases hseats x speaker hx with ⟨rfl, heq⟩ | hover | ⟨hx0, hxr, hx⟩
  · rcases hseats y speaker hy with ⟨rfl, -⟩ | hover | ⟨hy0, hyr, hy⟩
    · rfl
    · exact absurd hover hline
    · exact absurd hy (hother heq hy0 hyr)
  · exact absurd hover hline
  · rcases hseats y speaker hy with ⟨rfl, heq⟩ | hover | ⟨-, -, hy⟩
    · exact absurd hx (hother heq hx0 hxr)
    · exact absurd hover hline
    · exact h x y hx hy

/-- Who has the word and no other seat is gone, once a reader gives the word to somebody else. -/
theorem not_keeps_withVoice (h : c.Sole speaker) (hv : d.Sounds (c.voice r).standing v)
    (hline : ¬d.Overrides speaker) (hspeaks : c.speaker = speaker) (hr : c.waiting r ≠ none) :
    ¬(c.withVoice r v).Keeps speaker := by
  obtain ⟨home, -, hseats⟩ := seats_withVoice hv
  have hword : c.seat? none = some speaker := congrArg some hspeaks
  have hsilent {x : Option Nat} (hx : x ≠ none) : c.seat? x ≠ some speaker :=
    fun hseat => hx (h x none hseat hword)
  rintro ⟨x, hx⟩
  rcases hseats x speaker hx with ⟨-, heq⟩ | hover | ⟨hx0, -, hx⟩
  · obtain ⟨waiting, hwaiting⟩ := Option.ne_none_iff_exists'.mp hr
    have hstanding : (c.voice r).standing = waiting := by simp [voice, Voice.standing, hwaiting]
    have hseat : c.seat? (some r) = some speaker := by rw [heq, hstanding]; exact hwaiting
    exact hsilent (Option.some_ne_none r) hseat
  · exact hline hover
  · exact hsilent hx0 hx

end Cast

/-! ## Moves -/

namespace Audience

/-- What one of several readers does. -/
structure Move where
  reader : Nat
  action : Action

variable {a : Audience} {m : Move} {i : Nat} {d : Document} {c b : Cast} {speaker : Speaker}

/-- Whether no reader is in a tree. -/
def Idle (a : Audience) : Prop := ∀ r, (a.readers r).place = none

/-- The readers after one of them has made a move. -/
def move (a : Audience) (m : Move) : Audience := (a.act m.reader fun s => m.action.run s).2

/-- The readers after some moves. -/
def after (a : Audience) : List Move → Audience
  | [] => a
  | m :: rest => (a.move m).after rest

/-- The cast of the tree at a position of the library. -/
def cast? (a : Audience) (i : Nat) : Option Cast :=
  (a.library.tree? i).map fun t => ⟨t.speaker, fun r => (a.readers r).pendingIn i⟩

/-- Whether a move gives the word to somebody else while a speaker has it: its reader leaves its
place and lets another speaker return. -/
def displaces (a : Audience) (i : Nat) (speaker : Speaker) (m : Move) : Bool :=
  (a.cast? i).any fun c =>
    c.speaker == speaker && (c.waiting m.reader).isSome && m.action.leaves (a.session m.reader)

/-- Whether one of some moves gives the word to somebody else while a speaker has it. -/
def displaced (a : Audience) (i : Nat) (speaker : Speaker) : List Move → Bool
  | [] => false
  | m :: rest => a.displaces i speaker m || (a.move m).displaced i speaker rest

theorem documents_move (a : Audience) (m : Move) :
    (a.move m).library.documents = a.library.documents :=
  m.action.documents_run (a.session m.reader)

theorem voice?_session (hc : a.cast? i = some c) (r : Nat) :
    (a.session r).voice? i = some (c.voice r) := by
  obtain ⟨t, ht, rfl⟩ := Option.map_eq_some_iff.mp hc
  have hlibrary : (a.session r).library.tree? i = some t := ht
  rw [Session.voice?, hlibrary]
  rfl

theorem cast?_withSession (hc : a.cast? i = some c) (r : Nat) (s : Session) :
    (a.withSession r s).cast? i = (s.voice? i).map (c.withVoice r) := by
  obtain ⟨t, -, rfl⟩ := Option.map_eq_some_iff.mp hc
  have hlibrary : (a.withSession r s).library.tree? i = s.library.tree? i := rfl
  rw [cast?, hlibrary, Session.voice?, Option.map_map]
  congr 1
  funext u
  have hwaiting : (fun q => ((a.withSession r s).readers q).pendingIn i) =
      fun q => if q = r then s.reader.pendingIn i else (a.readers q).pendingIn i := by
    funext q
    exact apply_ite (fun reader : Reader => reader.pendingIn i) (q = r) s.reader (a.readers q)
  exact congrArg (Cast.mk u.speaker) hwaiting

/-- One move in a tree where nobody is announced: the cast stays, or the reader that moves lets the
speaker return for whom it waits, and may come to a line with a speaker of its own. -/
theorem cast?_move (hd : a.library.documents[i]? = some d) (hquiet : d.Quiet)
    (hown : ¬m.action.SetsSpeaker) (hc : a.cast? i = some c) :
    (m.action.leaves (a.session m.reader) = false ∧ (a.move m).cast? i = some c) ∨
    (m.action.leaves (a.session m.reader) = true ∧
      ∃ v, d.Sounds (c.voice m.reader).standing v ∧
        (a.move m).cast? i = some (c.withVoice m.reader v)) := by
  have hvoice := voice?_session hc m.reader
  have hmove : (a.move m).cast? i =
      ((m.action.run (a.session m.reader)).2.voice? i).map (c.withVoice m.reader) :=
    cast?_withSession hc m.reader _
  rw [Library.documents_getElem?] at hd
  obtain ⟨t, ht, rfl⟩ := Option.map_eq_some_iff.mp hd
  cases hleaves : m.action.leaves (a.session m.reader) with
  | false =>
    refine .inl ⟨rfl, ?_⟩
    rw [hmove, Session.voice?_run_of_stays hown hleaves, hvoice]
    exact congrArg some (c.withVoice_voice m.reader)
  | true =>
    obtain ⟨v, hv, hsounds⟩ := Session.voice?_run_of_leaves hown hleaves ht hvoice
    rw [Session.announced?_of_quiet ht hquiet] at hsounds
    exact .inr ⟨rfl, v, hsounds, by rw [hmove, hv]; rfl⟩

theorem displaces_eq_true (hc : a.cast? i = some c) :
    a.displaces i speaker m = true ↔ c.speaker = speaker ∧ c.waiting m.reader ≠ none ∧
      m.action.leaves (a.session m.reader) = true := by
  simp [displaces, hc, Option.isSome_iff_ne_none, and_assoc]

/-! ## Many moves -/

section Moves

variable {moves : List Move} (hquiet : d.Quiet) (hd : a.library.documents[i]? = some d)
  (hown : ∀ m ∈ moves, ¬m.action.SetsSpeaker) (hc : a.cast? i = some c)
  (hb : (a.after moves).cast? i = some b)

include hquiet hd hown hc hb

/-- A speaker keeps a seat as long as the word is taken from nobody who is that speaker. -/
theorem keeps_after (hkeeps : c.Keeps speaker) (hkept : a.displaced i speaker moves = false) :
    b.Keeps speaker := by
  induction moves generalizing a c with
  | nil =>
    obtain rfl : c = b := Option.some.inj (hc.symm.trans hb)
    exact hkeeps
  | cons m rest ih =>
    obtain ⟨hm, hrest⟩ := List.forall_mem_cons.mp hown
    obtain ⟨hkept, hlater⟩ := Bool.or_eq_false_iff.mp hkept
    have hd' : (a.move m).library.documents[i]? = some d := by rw [documents_move, hd]
    rcases cast?_move hd hquiet hm hc with ⟨-, hnext⟩ | ⟨hleaves, v, hv, hnext⟩
    · exact ih hd' hrest hnext hb hkeeps hlater
    · refine ih hd' hrest hnext hb (hkeeps.withVoice hv fun hspeaks => ?_) hlater
      cases hwaits : c.waiting m.reader with
      | none => rfl
      | some waiting =>
        have htaken := (displaces_eq_true hc).mpr ⟨hspeaks, by simp [hwaits], hleaves⟩
        rw [hkept] at htaken
        cases htaken

/-- Nobody joins but speakers of lines. -/
theorem keeps_of_after (h : b.Keeps speaker) : c.Keeps speaker ∨ d.Overrides speaker := by
  induction moves generalizing a c with
  | nil =>
    obtain rfl : c = b := Option.some.inj (hc.symm.trans hb)
    exact .inl h
  | cons m rest ih =>
    obtain ⟨hm, hrest⟩ := List.forall_mem_cons.mp hown
    have hd' : (a.move m).library.documents[i]? = some d := by rw [documents_move, hd]
    rcases cast?_move hd hquiet hm hc with ⟨-, hnext⟩ | ⟨-, v, hv, hnext⟩
    · exact ih hd' hrest hnext hb
    · rcases ih hd' hrest hnext hb with hbefore | hline
      · exact Cast.keeps_of_withVoice hv hbefore
      · exact .inr hline

/-- Once the word is taken from a speaker with no other seat, that speaker is gone for good, if no
line has it for its own. -/
theorem not_keeps_after (hsole : c.Sole speaker) (hline : ¬d.Overrides speaker)
    (htaken : a.displaced i speaker moves = true) : ¬b.Keeps speaker := by
  induction moves generalizing a c with
  | nil => cases htaken
  | cons m rest ih =>
    obtain ⟨hm, hrest⟩ := List.forall_mem_cons.mp hown
    have hd' : (a.move m).library.documents[i]? = some d := by rw [documents_move, hd]
    rcases Bool.or_eq_true_iff.mp htaken with hnow | hlater
    · obtain ⟨hspeaks, hwaits, hleaves⟩ := (displaces_eq_true hc).mp hnow
      rcases cast?_move hd hquiet hm hc with ⟨hstays, -⟩ | ⟨-, v, hv, hnext⟩
      · rw [hleaves] at hstays
        cases hstays
      · intro hb'
        rcases keeps_of_after hquiet hd' hrest hnext hb hb' with hafter | hover
        · exact Cast.not_keeps_withVoice hsole hv hline hspeaks hwaits hafter
        · exact hline hover
    · rcases cast?_move hd hquiet hm hc with ⟨-, hnext⟩ | ⟨-, v, hv, hnext⟩
      · exact ih hd' hrest hnext hb hsole hlater
      · exact ih hd' hrest hnext hb (hsole.withVoice hv hline) hlater

end Moves

theorem documents_after (a : Audience) (moves : List Move) :
    (a.after moves).library.documents = a.library.documents := by
  induction moves generalizing a with
  | nil => rfl
  | cons m rest ih => exact (ih (a.move m)).trans (a.documents_move m)

theorem readers_after_of_ne {moves : List Move} {r : Nat} (h : ∀ m ∈ moves, m.reader ≠ r) :
    (a.after moves).readers r = a.readers r := by
  induction moves generalizing a with
  | nil => rfl
  | cons m rest ih =>
    obtain ⟨hm, hrest⟩ := List.forall_mem_cons.mp h
    exact (ih hrest).trans (if_neg (Ne.symm hm))

/-- Only readers that move have to leave. -/
theorem Idle.after {moves : List Move} (h : a.Idle)
    (hmoving : ∀ m ∈ moves, ((a.after moves).readers m.reader).place = none) :
    (a.after moves).Idle := by
  intro r
  by_cases hr : ∃ m ∈ moves, m.reader = r
  · obtain ⟨m, hm, rfl⟩ := hr
    exact hmoving m hm
  · rw [readers_after_of_ne fun m hm heq => hr ⟨m, hm, heq⟩]
    exact h r

/-- Nobody waits in the trees of idle readers. -/
theorem Idle.cast?_eq (h : a.Idle) (i : Nat) :
    a.cast? i = (a.library.tree? i).map fun t => ⟨t.speaker, fun _ => none⟩ := by
  have hwaiting : (fun r => (a.readers r).pendingIn i) = fun _ => none := by
    funext r
    rw [Reader.pendingIn, h r]
    rfl
  rw [cast?, hwaiting]

/-- Readers that share a tree where nobody is announced, from when all of them are idle until all
of them are idle again: its speaker is the one from before or that of a line. It is the one from
before if no reader that waits for somebody else leaves its place while that one speaks. If one
does, it is not, unless some line has that speaker for its own. -/
theorem speaker_after {t : Tree} {moves : List Move} (hstart : a.Idle)
    (ht : a.library.tree? i = some t) (hquiet : t.document.Quiet)
    (hown : ∀ m ∈ moves, ¬m.action.SetsSpeaker) (hend : (a.after moves).Idle) :
    ∃ u, (a.after moves).library.tree? i = some u ∧
      (u.speaker = t.speaker ∨ t.document.Overrides u.speaker) ∧
      (a.displaced i t.speaker moves = false → u.speaker = t.speaker) ∧
      (¬t.document.Overrides t.speaker → a.displaced i t.speaker moves = true →
        u.speaker ≠ t.speaker) := by
  have hd : a.library.documents[i]? = some t.document := by
    rw [Library.documents_getElem?, ht]
    rfl
  have hd' : (a.after moves).library.documents[i]? = some t.document := by
    rw [documents_after, hd]
  rw [Library.documents_getElem?] at hd'
  obtain ⟨u, hu, -⟩ := Option.map_eq_some_iff.mp hd'
  have hc : a.cast? i = some ⟨t.speaker, fun _ => none⟩ := by rw [hstart.cast?_eq, ht]; rfl
  have hb : (a.after moves).cast? i = some ⟨u.speaker, fun _ => none⟩ := by
    rw [hend.cast?_eq, hu]
    rfl
  -- Where nobody waits, only the one who speaks has a seat.
  have hkeeps {first other : Speaker} :
      Cast.Keeps ⟨first, fun _ => none⟩ other ↔ first = other := by
    simp [Cast.Keeps, Option.exists, Cast.seat?]
  have hsole : Cast.Sole ⟨t.speaker, fun _ => none⟩ t.speaker := by
    intro x y hx hy
    cases x <;> cases y <;> simp_all [Cast.seat?]
  refine ⟨u, hu, ?_, fun hkept => ?_, fun hline htaken => ?_⟩
  · rcases keeps_of_after hquiet hd hown hc hb (hkeeps.mpr rfl) with hbefore | hline
    · exact .inl (hkeeps.mp hbefore).symm
    · exact .inr hline
  · exact hkeeps.mp (keeps_after hquiet hd hown hc hb (hkeeps.mpr rfl) hkept)
  · exact fun hsame => not_keeps_after hquiet hd hown hc hb hsole hline htaken (hkeeps.mpr hsame)

/-! ## Two readers of one tree -/

/-- A tree of one line, which a guest speaks. -/
def cameo : Document :=
  { name := "cameo"
    nodes :=
      [⟨0, .info { name := "Host" }, [], []⟩,
        ⟨1, .start 0, [], [⟨2, 0⟩]⟩,
        ⟨2, .dialogue "Hello" (some { name := "Guest" }), [⟨1, 0⟩], [⟨3, 0⟩]⟩,
        ⟨3, .finish, [⟨2, 0⟩], []⟩] }

/-- Idle readers of that tree. -/
def cameoReaders : Audience := { library := ⟨[.ofDocument cameo], {}⟩ }

/-- Two readers come to the guest's line. The one that came last leaves first. -/
def nestedVisits : List Move := [⟨0, .load 0 none⟩, ⟨1, .load 0 none⟩, ⟨1, .unload⟩, ⟨0, .unload⟩]

/-- Two readers come to the guest's line. The one that came first leaves first. -/
def crossedVisits : List Move := [⟨0, .load 0 none⟩, ⟨1, .load 0 none⟩, ⟨0, .unload⟩, ⟨1, .unload⟩]

theorem idle_cameoReaders : cameoReaders.Idle := fun _ => rfl

/-- Where one visit lies within the other, the host is the one who speaks in the end. -/
theorem speaker_after_nested :
    cameoReaders.Idle ∧ cameo.Quiet ∧ (∀ m ∈ nestedVisits, ¬m.action.SetsSpeaker) ∧
    (cameoReaders.after nestedVisits).Idle ∧
    ((cameoReaders.after nestedVisits).library.tree? 0).map (·.speaker) =
      some { name := "Host" } := by
  have hquiet : cameo.Quiet := by decide
  have hown : ∀ m ∈ nestedVisits, ¬m.action.SetsSpeaker := by
    simp [nestedVisits, Action.SetsSpeaker]
  have hend : (cameoReaders.after nestedVisits).Idle := idle_cameoReaders.after (by decide)
  obtain ⟨u, hu, -, hkept, -⟩ := speaker_after (i := 0) idle_cameoReaders rfl hquiet hown hend
  have hspeaker := hkept (by decide)
  refine ⟨idle_cameoReaders, hquiet, hown, hend, ?_⟩
  rw [hu, Option.map_some, hspeaker]
  rfl

/-- Where the visits cross each other, the guest stays. -/
theorem guest_stays_after_crossed :
    cameoReaders.Idle ∧ cameo.issues = [] ∧ cameo.Quiet ∧
    (cameoReaders.after crossedVisits).Idle ∧
    (cameoReaders.library.tree? 0).map (·.speaker) = some { name := "Host" } ∧
    ((cameoReaders.after crossedVisits).library.tree? 0).map (·.speaker) =
      some { name := "Guest" } :=
  ⟨idle_cameoReaders, by decide, by decide, idle_cameoReaders.after (by decide), rfl, by decide⟩

end Audience

end DialogueTree
