import Mathlib.Tactic.SplitIfs
import DialogueTree.Player.Announcement
import DialogueTree.Player.Play
import DialogueTree.Proofs.Decimal.Numeral
import DialogueTree.Proofs.Json.RoundTrip

/-!
# Announcements read back

Another program takes an announcement apart without knowing what the texts in it are: it cuts what
has been written at the line feeds, and each line at its first colon. What stands before the colon
says what the line tells, and texts come as JSON strings, which have no line feeds of their own.

Results:
* `Play.linesOf_text`: lines that have been written are cut out again.
* `AnnouncedLine.read?_written`: a line is read as what it tells.
* `Announcement.read?_text`: an announcement is read as what it was.
* `Announcement.readable`: the lines one by one, the announcement, and that no other one is written
  in the same way.
-/

namespace DialogueTree

/-! ## Lines of a text -/

namespace Play

/-- What stands between the line feeds of a text. -/
def linesOf (s : String) : List String := (s.toList.splitOn '\n').map String.ofList

/-- Lines that have been written are cut out again. Every line ends with a line feed, so nothing
stands behind the last one. -/
theorem linesOf_text {lines : List String} (h : ∀ line ∈ lines, '\n' ∉ line.toList) :
    linesOf (text lines) = lines ++ [""] := by
  induction lines with
  | nil => rfl
  | cons line rest ih =>
    have hrest := ih fun other hother => h other (List.mem_cons_of_mem _ hother)
    have htext : (text (line :: rest)).toList = line.toList ++ '\n' :: (text rest).toList := by
      simp [text]
    rw [linesOf, htext, List.splitOn_append_cons_self_of_not_mem (h line List.mem_cons_self),
      List.map_cons, String.ofList_toList, List.cons_append, ← hrest]
    rfl

end Play

/-! ## Texts as JSON strings -/

/-- The text that a JSON string stands for. -/
def unquoted? (s : String) : Option String := (Json.parse? s).bind Json.text?

theorem unquoted?_quoted (s : String) : unquoted? (quoted s) = some s := by
  rw [unquoted?, quoted, Json.parse?_compact]
  rfl

theorem Literal.newline_notMem_escape (c : Char) : '\n' ∉ escape c := by
  have hdigit (n : Nat) (h : n < 16) : '\n' ≠ Nat.digitChar n := by
    have hall : ∀ k : Fin 16, '\n' ≠ Nat.digitChar k.val := by decide
    exact hall ⟨n, h⟩
  unfold escape
  split_ifs with _ _ _ _ hnewline _ _ hcontrol
  · decide
  · decide
  · decide
  · decide
  · decide
  · decide
  · decide
  · have hhigh := hdigit (c.toNat / 16) (by omega)
    have hlow := hdigit (c.toNat % 16) (by omega)
    simp [controlEscape, hhigh, hlow]
  · simpa using Ne.symm hnewline

/-- A JSON string keeps to its line. -/
theorem newline_notMem_quoted (s : String) : '\n' ∉ (quoted s).toList := by
  have hchars : (quoted s).toList = '"' :: (s.toList.flatMap Literal.escape ++ ['"']) :=
    String.toList_ofList
  have hescaped : '\n' ∉ s.toList.flatMap Literal.escape := by
    rw [List.mem_flatMap]
    rintro ⟨c, -, hc⟩
    exact Literal.newline_notMem_escape c hc
  rw [hchars]
  simp [hescaped]

/-! ## What a line tells -/

/-- What one line of an announcement tells. -/
inductive AnnouncedLine where
  | success
  | kind (kind : StopKind)
  | speaker (name : String)
  | text (text : String)
  | choice (answer : Answer)
  | state (path : String)

/-- The kind of stop with a name. -/
def StopKind.ofName? (name : String) : Option StopKind :=
  [dialogue, branch, finish].find? (·.name == name)

/-- What stands before and behind the first place of a character. -/
def cutAt? (c : Char) : List Char → Option (String × String)
  | [] => none
  | d :: rest =>
    if d = c then some ("", String.ofList rest)
    else (cutAt? c rest).map fun (before, behind) => (String.ofList (d :: before.toList), behind)

theorem cutAt?_append {c : Char} {before : List Char} (h : c ∉ before) (behind : List Char) :
    cutAt? c (before ++ c :: behind) = some (String.ofList before, String.ofList behind) := by
  induction before with
  | nil => simp [cutAt?]
  | cons d before ih =>
    rw [List.mem_cons, not_or] at h
    simp [cutAt?, Ne.symm h.1, ih h.2]

/-- The choice that a number, a bar and a JSON string stand for. -/
def Answer.read? (s : String) : Option Answer := do
  let (number, text) ← cutAt? '|' s.toList
  return ⟨← Whole.nat? number.toList, ← unquoted? text⟩

theorem notMem_toString {c : Char} (hc : c.isDigit = false) (n : Nat) :
    c ∉ (toString n).toList := by
  rw [Nat.toString_eq_repr, Nat.toList_repr]
  intro h
  have hdigit := Nat.isDigit_of_mem_toDigits (by omega) (by omega) h
  exact Bool.false_ne_true (hc.symm.trans hdigit)

theorem Answer.line_eq (a : Answer) :
    a.line = "CHOICE:" ++ (toString a.index ++ "|" ++ quoted a.text) := by
  rw [← String.append_assoc, ← String.append_assoc]
  rfl

/-- A choice is read as what it was. -/
theorem Answer.read?_number (a : Answer) :
    Answer.read? (toString a.index ++ "|" ++ quoted a.text) = some a := by
  have hchars : (toString a.index ++ "|" ++ quoted a.text).toList =
      (toString a.index).toList ++ '|' :: (quoted a.text).toList := by simp
  rw [read?, hchars, cutAt?_append (notMem_toString rfl a.index), String.ofList_toList,
    String.ofList_toList, Option.bind_eq_bind, Option.bind_some]
  dsimp only
  rw [Whole.nat?_toString, unquoted?_quoted]
  rfl

namespace AnnouncedLine

/-- What a line tells that has a label. -/
def ofLabel? (label rest : String) : Option AnnouncedLine :=
  match label with
  | "RESULT" => if rest = "OK" then some success else none
  | "EVENT" => (StopKind.ofName? rest).map kind
  | "SPEAKER_JSON" => (unquoted? rest).map speaker
  | "TEXT_JSON" => (unquoted? rest).map text
  | "CHOICE" => (Answer.read? rest).map choice
  | "STATE_OUT" => some (state rest)
  | _ => none

/-- What a line tells. -/
def read? (line : String) : Option AnnouncedLine := do
  let (label, rest) ← cutAt? ':' line.toList
  ofLabel? label rest

/-- The line that tells something. -/
def written : AnnouncedLine → String
  | success => "RESULT:OK"
  | kind k => "EVENT:" ++ k.name
  | speaker name => "SPEAKER_JSON:" ++ quoted name
  | text s => "TEXT_JSON:" ++ quoted s
  | choice a => a.line
  | state path => "STATE_OUT:" ++ path

/-- The kind of stop that a line tells. -/
def kind? : AnnouncedLine → Option StopKind
  | kind k => some k
  | _ => none

/-- The speaker that a line tells. -/
def speaker? : AnnouncedLine → Option String
  | speaker name => some name
  | _ => none

/-- The text that a line tells. -/
def text? : AnnouncedLine → Option String
  | text s => some s
  | _ => none

/-- The choice that a line tells. -/
def choice? : AnnouncedLine → Option Answer
  | choice a => some a
  | _ => none

/-- A line is cut behind its label. -/
theorem read?_append (label mark : String) (hmark : mark.toList = label.toList ++ [':'])
    (h : ':' ∉ label.toList) (rest : String) : read? (mark ++ rest) = ofLabel? label rest := by
  have hchars : (mark ++ rest).toList = label.toList ++ ':' :: rest.toList := by
    rw [String.toList_append, hmark, List.append_assoc, List.singleton_append]
  rw [read?, hchars, cutAt?_append h, String.ofList_toList, String.ofList_toList]
  rfl

/-- A line is read as what it tells. -/
theorem read?_written (line : AnnouncedLine) : read? line.written = some line := by
  cases line with
  | success => exact read?_append "RESULT" "RESULT:" rfl (by decide) "OK"
  | kind k =>
    have hread := read?_append "EVENT" "EVENT:" rfl (by decide) k.name
    rw [written, hread]
    cases k <;> rfl
  | speaker name =>
    have hread := read?_append "SPEAKER_JSON" "SPEAKER_JSON:" rfl (by decide) (quoted name)
    rw [written, hread, ofLabel?, unquoted?_quoted]
    rfl
  | text s =>
    have hread := read?_append "TEXT_JSON" "TEXT_JSON:" rfl (by decide) (quoted s)
    rw [written, hread, ofLabel?, unquoted?_quoted]
    rfl
  | choice a =>
    have hread := read?_append "CHOICE" "CHOICE:" rfl (by decide)
      (toString a.index ++ "|" ++ quoted a.text)
    rw [written, a.line_eq, hread, ofLabel?, a.read?_number]
    rfl
  | state path =>
    exact read?_append "STATE_OUT" "STATE_OUT:" rfl (by decide) path

/-- A line stays a line if the path in it, if it has one, has no line feed. -/
theorem newline_notMem_written {line : AnnouncedLine}
    (h : ∀ path, line = state path → '\n' ∉ path.toList) : '\n' ∉ line.written.toList := by
  have hmark {mark rest : String} (hm : '\n' ∉ mark.toList) (hr : '\n' ∉ rest.toList) :
      '\n' ∉ (mark ++ rest).toList := by
    rw [String.toList_append, List.mem_append]
    exact not_or.mpr ⟨hm, hr⟩
  cases line with
  | success => decide
  | kind k => cases k <;> decide
  | speaker name => exact hmark (by decide) (newline_notMem_quoted name)
  | text s => exact hmark (by decide) (newline_notMem_quoted s)
  | choice a =>
    rw [written, a.line_eq]
    exact hmark (by decide) (hmark (hmark (notMem_toString rfl _) (by decide))
      (newline_notMem_quoted _))
  | state path => exact hmark (by decide) (h path rfl)

end AnnouncedLine

/-! ## Whole announcements -/

namespace Announcement

open Play

/-- What the lines before the choices tell. -/
def heading (a : Announcement) : List AnnouncedLine :=
  [.success, .kind a.kind] ++ (a.speaker.map .speaker).toList ++ (a.text.map .text).toList

/-- What the lines tell. -/
def told (a : Announcement) (path : String) : List AnnouncedLine :=
  a.heading ++ a.choices.map .choice ++ [.state path]

/-- The lines are those that tell it. -/
theorem lines_eq (a : Announcement) (state : Option String) :
    a.lines state = (a.told (state.getD "NONE")).map (·.written) := by
  simp only [lines, told, heading, List.map_append, List.map_cons, List.map_nil, List.map_map,
    Option.toList_map]
  rfl

section

variable (a : Announcement) (path : String)

/-- The choices and the file of the state come last, and tell of nothing else. -/
theorem findSome?_told {β : Type} {f : AnnouncedLine → Option β}
    (hchoice : ∀ c, f (.choice c) = none) (hstate : f (.state path) = none) :
    (a.told path).findSome? f = a.heading.findSome? f := by
  have hchoices : (a.choices.map .choice).findSome? f = none := by
    rw [List.findSome?_map]
    exact List.findSome?_eq_none_iff.mpr fun c _ => hchoice c
  rw [told, List.findSome?_append, List.findSome?_append, hchoices, Option.or_none,
    List.findSome?_singleton, hstate, Option.or_none]

theorem findSome?_speaker?_told :
    (a.told path).findSome? AnnouncedLine.speaker? = a.speaker := by
  rw [findSome?_told a path (fun _ => rfl) rfl, heading]
  cases a.speaker <;> cases a.text <;> rfl

theorem findSome?_text?_told : (a.told path).findSome? AnnouncedLine.text? = a.text := by
  rw [findSome?_told a path (fun _ => rfl) rfl, heading]
  cases a.speaker <;> cases a.text <;> rfl

theorem filterMap_choice?_told : (a.told path).filterMap AnnouncedLine.choice? = a.choices := by
  have hchoices : (a.choices.map AnnouncedLine.choice).filterMap AnnouncedLine.choice? =
      a.choices := by
    rw [List.filterMap_map]
    exact List.filterMap_some
  rw [told, List.filterMap_append, List.filterMap_append, hchoices, heading]
  cases a.speaker <;> cases a.text <;> exact List.append_nil _

end

/-- The announcement that lines tell of. -/
def ofLines? (lines : List AnnouncedLine) : Option Announcement :=
  (lines.findSome? AnnouncedLine.kind?).map fun kind =>
    ⟨kind, lines.findSome? AnnouncedLine.speaker?, lines.findSome? AnnouncedLine.text?,
      lines.filterMap AnnouncedLine.choice?⟩

theorem ofLines?_told (a : Announcement) (path : String) : ofLines? (a.told path) = some a := by
  have hkind : (a.told path).findSome? AnnouncedLine.kind? = some a.kind := rfl
  rw [ofLines?, hkind, findSome?_speaker?_told, findSome?_text?_told, filterMap_choice?_told]
  rfl

/-- The announcement that has been written. -/
def read? (output : String) : Option Announcement := do
  ofLines? (← (linesOf output).dropLast.mapM AnnouncedLine.read?)

theorem mapM_read?_lines (a : Announcement) (state : Option String) :
    (a.lines state).mapM AnnouncedLine.read? = some (a.told (state.getD "NONE")) := by
  rw [lines_eq]
  induction a.told (state.getD "NONE") with
  | nil => rfl
  | cons line rest ih =>
    rw [List.map_cons, List.mapM_cons, AnnouncedLine.read?_written, ih]
    rfl

variable {a : Announcement} {state : Option String}

/-- The lines are cut out again, if the file of the state has no line feed in its path. -/
theorem linesOf_lines (h : ∀ path ∈ state, '\n' ∉ path.toList) :
    linesOf (Play.text (a.lines state)) = a.lines state ++ [""] := by
  refine linesOf_text fun line hline => ?_
  rw [lines_eq] at hline
  obtain ⟨told, htold, rfl⟩ := List.mem_map.mp hline
  refine AnnouncedLine.newline_notMem_written ?_
  rintro path rfl
  have hpath : path = state.getD "NONE" := by
    simpa [Announcement.told, heading] using htold
  rw [hpath]
  cases state with
  | none => decide
  | some path => exact h path rfl

/-- An announcement is read as what it was. -/
theorem read?_text (h : ∀ path ∈ state, '\n' ∉ path.toList) :
    read? (Play.text (a.lines state)) = some a := by
  rw [read?, linesOf_lines h, List.dropLast_concat, mapM_read?_lines]
  exact ofLines?_told a _

/-- What is written about a stop can be taken apart, whatever texts are in it: cut at its line feeds
it has one line each for the result, for the event, for a speaker and a text that there are, for
every choice and for the file of the state, in this order, and every line is read as what it tells.
So the announcement is read as what it was, and no other one is written in the same way. -/
theorem readable (h : ∀ path ∈ state, '\n' ∉ path.toList) :
    linesOf (Play.text (a.lines state)) = a.lines state ++ [""] ∧
    (a.lines state).mapM AnnouncedLine.read? =
      some ([.success, .kind a.kind] ++ (a.speaker.map .speaker).toList ++
        (a.text.map .text).toList ++ a.choices.map .choice ++ [.state (state.getD "NONE")]) ∧
    read? (Play.text (a.lines state)) = some a ∧
    ∀ b other, (∀ path ∈ other, '\n' ∉ path.toList) →
      Play.text (lines b other) = Play.text (a.lines state) → b = a := by
  refine ⟨linesOf_lines h, mapM_read?_lines a state, read?_text h, fun b other hother htext => ?_⟩
  have hb : read? (Play.text (b.lines other)) = some b := read?_text hother
  rw [htext, read?_text h] at hb
  exact (Option.some.inj hb).symm

/-- A question whose texts look like lines of their own. -/
def riddle : Announcement :=
  ⟨.branch, some "Ann \"the\nBell\"", some "", [⟨0, "a|b"⟩, ⟨12, "No.\nSTATE_OUT:x\x01"⟩]⟩

theorem riddle_readable :
    (∀ path ∈ some "s.json", '\n' ∉ path.toList) ∧
    Play.linesOf (Play.text (riddle.lines (some "s.json"))) =
      ["RESULT:OK", "EVENT:BRANCH", "SPEAKER_JSON:\"Ann \\\"the\\nBell\\\"\"", "TEXT_JSON:\"\"",
        "CHOICE:0|\"a|b\"", "CHOICE:12|\"No.\\nSTATE_OUT:x\\u0001\"", "STATE_OUT:s.json", ""] ∧
    read? (Play.text (riddle.lines (some "s.json"))) = some riddle := by
  have hstate : ∀ path ∈ some "s.json", '\n' ∉ path.toList := by
    rintro path ⟨⟩
    decide
  obtain ⟨hlines, -, hread, -⟩ := readable (a := riddle) hstate
  rw [hlines]
  exact ⟨hstate, by decide, hread⟩

end Announcement

end DialogueTree
