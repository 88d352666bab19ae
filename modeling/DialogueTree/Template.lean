import DialogueTree.Store

/-!
# Text templates

Texts of a dialogue may hold tokens in braces that stand for the speaker's name or for the value
of a variable. A text is split into its tokens and the characters between them, and each token is
replaced by itself; what has been put in is not looked at again.

* `Template.split`: a text as tokens and characters.
* `Template.written_split`: splitting loses nothing.
* `Template.expand`: the text with each token replaced.
-/

namespace DialogueTree

namespace Template

/-- A token between braces: `var` or `varGlobal` in any letter case, a name, and perhaps a type. -/
structure Token where
  keyword : List Char
  name : List Char
  type : Option (List Char)
  deriving DecidableEq

/-- A part of a text. -/
inductive Piece where
  | plain (c : Char)
  | token (t : Token)
  deriving DecidableEq

/-- Whether two texts agree but for the case of ASCII letters. -/
def agree (a b : List Char) : Bool := a.map Char.toLower == b.map Char.toLower

/-- The keyword for variables of the tree. -/
def localKeyword : List Char := ['v', 'a', 'r']

/-- The keyword for variables that all trees share. -/
def globalKeyword : List Char := ['v', 'a', 'r', 'G', 'l', 'o', 'b', 'a', 'l']

namespace Token

/-- What stands between the braces of a token. -/
def body (t : Token) : List Char :=
  t.keyword ++ ':' :: t.name ++ match t.type with
    | none => []
    | some type => ':' :: type

/-- A token as written. -/
def written (t : Token) : List Char := '\x7b' :: t.body ++ ['\x7d']

/-- The name and the type after a keyword. -/
def afterKeyword (keyword cs : List Char) : Token :=
  { keyword := keyword
    name := cs.takeWhile (· != ':')
    type := match cs.dropWhile (· != ':') with
      | [] => none
      | _ :: type => some type }

/-- The token that a text without braces is the inside of. -/
def ofBody? (cs : List Char) : Option Token :=
  let keyword := cs.takeWhile (· != ':')
  match cs.dropWhile (· != ':') with
  | [] => none
  | _ :: rest =>
    if agree keyword localKeyword || agree keyword globalKeyword then
      some (afterKeyword keyword rest)
    else none

theorem body_afterKeyword (keyword cs : List Char) :
    (afterKeyword keyword cs).body = keyword ++ ':' :: cs := by
  have h := List.takeWhile_append_dropWhile (p := (· != ':')) (l := cs)
  unfold afterKeyword body
  cases hd : cs.dropWhile (· != ':') with
  | nil => simpa [hd] using h
  | cons c type =>
    have hc : c = ':' := by
      have := List.head?_dropWhile_not (p := (· != ':')) (l := cs)
      simpa [hd] using this
    subst hc
    simpa [hd] using h

theorem body_of_ofBody? {cs : List Char} {t : Token} (h : ofBody? cs = some t) : t.body = cs := by
  have hs := List.takeWhile_append_dropWhile (p := (· != ':')) (l := cs)
  unfold ofBody? at h
  cases hd : cs.dropWhile (· != ':') with
  | nil => simp [hd] at h
  | cons c rest =>
    have hc : c = ':' := by
      have := List.head?_dropWhile_not (p := (· != ':')) (l := cs)
      simpa [hd] using this
    subst hc
    simp only [hd] at h hs
    split at h
    · obtain rfl := Option.some.inj h
      rw [body_afterKeyword, hs]
    · cases h

end Token

/-- A piece as written. -/
def Piece.written : Piece → List Char
  | .plain c => [c]
  | .token t => t.written

/-! ## Splitting -/

/-- The pieces of what stands between a pair of braces that holds no others. -/
def bracePieces (body : List Char) : List Piece :=
  match Token.ofBody? body with
  | some t => [.token t]
  | none => ('\x7b' :: body ++ ['\x7d']).map .plain

/-- The pieces of a text. `pending` is what has been read since the last brace, backwards, if that
was an opening one: it becomes part of a token or stays as it is when the next brace comes. -/
def splitAfter : Option (List Char) → List Char → List Piece
  | none, [] => []
  | some body, [] => .plain '\x7b' :: body.reverse.map .plain
  | none, c :: cs =>
    if c = '\x7b' then splitAfter (some []) cs else .plain c :: splitAfter none cs
  | some body, c :: cs =>
    if c = '\x7b' then
      .plain '\x7b' :: body.reverse.map .plain ++ splitAfter (some []) cs
    else if c = '\x7d' then bracePieces body.reverse ++ splitAfter none cs
    else splitAfter (some (c :: body)) cs

/-- The pieces of a text (the matches of `token_regex`). -/
def split (cs : List Char) : List Piece := splitAfter none cs

theorem written_plain (cs : List Char) : (cs.map Piece.plain).flatMap Piece.written = cs := by
  induction cs with
  | nil => rfl
  | cons c cs ih => simp [Piece.written, ih]

theorem written_bracePieces (body : List Char) :
    (bracePieces body).flatMap Piece.written = '\x7b' :: body ++ ['\x7d'] := by
  unfold bracePieces
  split
  next t h => simp [Piece.written, Token.written, Token.body_of_ofBody? h]
  next => exact written_plain _

theorem written_splitAfter (pending : Option (List Char)) (cs : List Char) :
    (splitAfter pending cs).flatMap Piece.written =
      (match pending with
        | none => []
        | some body => '\x7b' :: body.reverse) ++ cs := by
  induction cs generalizing pending with
  | nil =>
    cases pending with
    | none => rfl
    | some body => simpa [splitAfter] using written_plain ('\x7b' :: body.reverse)
  | cons c cs ih =>
    cases pending with
    | none =>
      by_cases h : c = '\x7b' <;> simp [splitAfter, h, ih, Piece.written]
    | some body =>
      by_cases h : c = '\x7b'
      · have hb := written_plain body.reverse
        simp [splitAfter, h, ih, Piece.written, List.map_reverse] at hb ⊢
        exact hb
      · by_cases h' : c = '\x7d' <;>
          simp [splitAfter, h, h', ih, written_bracePieces]

theorem written_split (cs : List Char) : (split cs).flatMap Piece.written = cs := by
  simpa [split] using written_splitAfter none cs

/-! ## Expanding -/

/-- What tokens stand for. -/
structure Setting where
  locals : Store
  globals : Store
  speaker : String

/-- Whether a name stands for the speaker (`is_speaker_token`). -/
def isSpeakerName (name : String) : Bool :=
  let wanted := Text.lower (Text.trim name)
  wanted == "speakername" || wanted == "speakersname"

/-- The value that a token shows, if its type is one and its store has the name. -/
def Setting.value? (s : Setting) (t : Token) : Option Value := do
  let type ← ValueType.ofName? (String.ofList (← t.type))
  let store := if agree t.keyword globalKeyword then s.globals else s.locals
  store.get? (String.ofList t.name) type

/-- What a piece becomes. A token that stands for nothing stays as it is written. -/
def Setting.show (s : Setting) : Piece → List Char
  | .plain c => [c]
  | .token t =>
    if isSpeakerName (String.ofList t.name) then s.speaker.toList
    else match s.value? t with
      | some v => v.shown.toList
      | none => t.written

/-- A text with its tokens replaced (`expand_template`). -/
def expand (s : Setting) (text : String) : String :=
  String.ofList ((split text.toList).flatMap s.show)

end Template

end DialogueTree
