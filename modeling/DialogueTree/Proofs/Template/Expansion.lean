import DialogueTree.Proofs.Decimal.Layout
import DialogueTree.Proofs.Template.Grammar

/-!
# What expanding makes of a text

A text is cut up into its tokens and the characters between them. A token with the name of the
speaker is replaced by who speaks. Any other one is replaced by the value of the first variable that
has its name in lower case, in the store that its keyword means, read as the type that it names; and
if there is no such type or variable, it stays as it is written. What comes of the pieces is written
one after another and not looked at again.

A truth value is written as `true` or `false`, an integer in decimal digits, a number as the
shortest decimal that rounds to it, and a text as it is.

Results:
* `Store.find?_eq_some_iff`: what is found in a store.
* `ValueType.ofName?_eq_some_iff`: what names a type.
* `Value.reads_iff`: how a value is written.
* `Template.Setting.expands_iff`: what the pieces of a text become.
* `Template.expand_grammar`: what a text becomes.
-/

namespace DialogueTree

/-- Whether a variable is the first one in a store that has a name in lower case. -/
def Store.IsFirst (s : Store) (name : String) (v : Variable) : Prop :=
  ∃ before after, s.toList = before ++ v :: after ∧ Text.lower v.name = Text.lower name ∧
    ∀ w ∈ before, Text.lower w.name ≠ Text.lower name

theorem Store.find?_eq_some_iff {s : Store} {name : String} {v : Variable} :
    s.find? name = some v ↔ s.IsFirst name v := by
  have hfind : s.find? name = s.toList.find? fun w => sameName w.name name :=
    List.find?_eq_bind_findIdx?_getElem?.symm
  rw [hfind, List.find?_eq_some_iff_append]
  constructor
  · rintro ⟨hname, before, after, hs, hbefore⟩
    exact ⟨before, after, hs, by simpa [sameName] using hname, by simpa [sameName] using hbefore⟩
  · rintro ⟨before, after, hs, hname, hbefore⟩
    exact ⟨by simpa [sameName] using hname, before, after, hs, by simpa [sameName] using hbefore⟩

theorem ValueType.ofName?_eq_some_iff {s : String} {type : ValueType} :
    ofName? s = some type ↔ Text.lower (Text.trim s) = type.name := by
  unfold ofName?
  constructor
  · intro h
    have hname := List.find?_some h
    exact (beq_iff_eq.mp hname).symm
  · intro h
    simp only [h]
    cases type <;> rfl

/-! ## Values as they are written -/

/-- Whether some characters are how a value is written for a player. -/
inductive Value.Reads : Value → List Char → Prop
  | yes : Reads (.bool true) ['t', 'r', 'u', 'e']
  | no : Reads (.bool false) ['f', 'a', 'l', 's', 'e']
  | natural {i : Int32} {n : ℕ} (h : i.toInt = n) : Reads (.int i) (Nat.toDigits 10 n)
  | negative {i : Int32} {n : ℕ} (hpos : 0 < n) (h : i.toInt = -n) :
      Reads (.int i) ('-' :: Nat.toDigits 10 n)
  | number {x : Float32} {cs : List Char} (h : WritesOut x cs) : Reads (.float x) cs
  | text (s : String) : Reads (.text s) s.toList

theorem Value.reads_shown (v : Value) : v.Reads v.shown.toList := by
  cases v with
  | bool b =>
    cases b with
    | true => exact .yes
    | false => exact .no
  | int i =>
    have hshown : (Value.int i).shown = i.toInt.repr := rfl
    cases hi : i.toInt with
    | ofNat n =>
      have hchars : (Value.int i).shown.toList = Nat.toDigits 10 n := by
        rw [hshown, hi, Int.repr, Nat.toList_repr]
      rw [hchars]
      exact .natural hi
    | negSucc n =>
      have hchars : (Value.int i).shown.toList = '-' :: Nat.toDigits 10 n.succ := by
        rw [hshown, hi, Int.repr, String.toList_append, Nat.toList_repr]
        rfl
      rw [hchars]
      exact .negative n.succ_pos hi
  | float x => exact .number (writesOut_iff.mpr rfl)
  | text s => exact .text s

theorem Value.Reads.unique {v : Value} {cs cs' : List Char} (h : v.Reads cs) (h' : v.Reads cs') :
    cs = cs' := by
  cases h with
  | yes | no | text =>
    cases h'
    rfl
  | natural h =>
    cases h' with
    | natural h' => rw [Int.ofNat.inj (h.symm.trans h')]
    | negative hpos h' => omega
  | negative hpos h =>
    cases h' with
    | natural h' => omega
    | negative hpos' h' => rw [Int.ofNat.inj (Int.neg_inj.mp (h.symm.trans h'))]
  | number h =>
    cases h' with
    | number h' => exact h.unique h'

/-- There is one way to write a value, the one that is shown. -/
theorem Value.reads_iff {v : Value} {cs : List Char} : v.Reads cs ↔ v.shown.toList = cs := by
  constructor
  · exact fun h => v.reads_shown.unique h
  · rintro rfl
    exact v.reads_shown

namespace Template

/-! ## What a token stands for -/

/-- Whether a token has the name of the speaker. -/
def Token.NamesSpeaker (t : Token) : Prop :=
  Text.lower (Text.trim (String.ofList t.name)) = "speakername" ∨
    Text.lower (Text.trim (String.ofList t.name)) = "speakersname"

theorem isSpeakerName_iff {t : Token} :
    isSpeakerName (String.ofList t.name) = true ↔ t.NamesSpeaker := by
  simp [isSpeakerName, Token.NamesSpeaker]

namespace Setting

variable {s : Setting} {t : Token} {ps : List Piece} {out cs : List Char} {v : Value}

/-- The store that the keyword of a token means. -/
def addressed (s : Setting) (t : Token) : Store :=
  if agree t.keyword globalKeyword then s.globals else s.locals

/-- Whether a token stands for a value: its type names one of the four, and its name is that of a
variable, which has this value when it is read as that type. -/
def Shows (s : Setting) (t : Token) (v : Value) : Prop :=
  ∃ name type x, t.type = some name ∧
    Text.lower (Text.trim (String.ofList name)) = ValueType.name type ∧
    (s.addressed t).IsFirst (String.ofList t.name) x ∧ x.value type = v

theorem value?_eq_some_iff : s.value? t = some v ↔ s.Shows t v := by
  unfold value? Shows Store.get? addressed
  simp only [Option.bind_eq_bind, Option.bind_eq_some_iff, Option.map_eq_some_iff,
    ValueType.ofName?_eq_some_iff, Store.find?_eq_some_iff]
  constructor
  · rintro ⟨name, hname, type, htype, x, hx, hv⟩
    exact ⟨name, type, x, hname, htype, hx, hv⟩
  · rintro ⟨name, type, x, hname, htype, hx, hv⟩
    exact ⟨name, hname, type, htype, x, hx, hv⟩

/-- What a token is replaced by. -/
inductive Replaces (s : Setting) (t : Token) : List Char → Prop
  | speaker : t.NamesSpeaker → Replaces s t s.speaker.toList
  | value {v : Value} {out : List Char} : ¬t.NamesSpeaker → s.Shows t v → v.Reads out →
      Replaces s t out
  | kept : ¬t.NamesSpeaker → (∀ v, ¬s.Shows t v) → Replaces s t t.written

theorem show_of_namesSpeaker (h : t.NamesSpeaker) : s.show (.token t) = s.speaker.toList := by
  rw [Setting.show, if_pos (isSpeakerName_iff.mpr h)]

theorem show_of_shows (h : ¬t.NamesSpeaker) (hv : s.Shows t v) :
    s.show (.token t) = v.shown.toList := by
  rw [Setting.show, if_neg fun hname => h (isSpeakerName_iff.mp hname),
    value?_eq_some_iff.mpr hv]

theorem show_of_unknown (h : ¬t.NamesSpeaker) (hnone : ∀ v, ¬s.Shows t v) :
    s.show (.token t) = t.written := by
  have hvalue : s.value? t = none :=
    Option.eq_none_iff_forall_ne_some.mpr fun v hv => hnone v (value?_eq_some_iff.mp hv)
  rw [Setting.show, if_neg fun hname => h (isSpeakerName_iff.mp hname), hvalue]

theorem replaces_iff : s.Replaces t out ↔ s.show (.token t) = out := by
  constructor
  · intro h
    cases h with
    | speaker hname => exact show_of_namesSpeaker hname
    | value hname hv hout => rw [show_of_shows hname hv, Value.reads_iff.mp hout]
    | kept hname hnone => exact show_of_unknown hname hnone
  · rintro rfl
    by_cases hname : t.NamesSpeaker
    · rw [show_of_namesSpeaker hname]
      exact .speaker hname
    by_cases hvalue : ∃ v, s.Shows t v
    · obtain ⟨v, hv⟩ := hvalue
      rw [show_of_shows hname hv]
      exact .value hname hv v.reads_shown
    · have hnone : ∀ v, ¬s.Shows t v := fun v hv => hvalue ⟨v, hv⟩
      rw [show_of_unknown hname hnone]
      exact .kept hname hnone

/-- What the pieces of a text become, one after another. -/
inductive Expands (s : Setting) : List Piece → List Char → Prop
  | nil : Expands s [] []
  | plain {ps : List Piece} {cs : List Char} (c : Char) : Expands s ps cs →
      Expands s (.plain c :: ps) (c :: cs)
  | token {t : Token} {out : List Char} {ps : List Piece} {cs : List Char} : s.Replaces t out →
      Expands s ps cs → Expands s (.token t :: ps) (out ++ cs)

theorem expands_iff : s.Expands ps cs ↔ ps.flatMap s.show = cs := by
  constructor
  · intro h
    induction h with
    | nil => rfl
    | plain c _ ih => rw [List.flatMap_cons, ih]; rfl
    | token ht _ ih => rw [List.flatMap_cons, ih, replaces_iff.mp ht]
  · rintro rfl
    induction ps with
    | nil => exact .nil
    | cons p ps ih =>
      cases p with
      | plain c => exact .plain c ih
      | token t => exact .token (replaces_iff.mpr rfl) ih

end Setting

/-- No two tokens of a text overlap, and there is exactly one way to cut up the text into all its
tokens and the characters between them. Expanding the text copies the characters, and replaces each
token by what it stands for; nothing else comes of it. -/
theorem expand_grammar (text : String) :
    (∀ i t j u, Occurs text.toList i t → Occurs text.toList j u →
      (i = j ∧ t = u) ∨ i + t.written.length ≤ j ∨ j + u.written.length ≤ i) ∧
    ∃ ps, Divides ps text.toList ∧ (∀ qs, Divides qs text.toList → qs = ps) ∧
      ∀ (s : Setting) (result : String), expand s text = result ↔ s.Expands ps result.toList := by
  have hsplit := divides_split text.toList
  refine ⟨fun i t j u ht hu => hsplit.apart ht hu, split text.toList, hsplit,
    fun qs hqs => hqs.unique hsplit, fun s result => ?_⟩
  rw [Setting.expands_iff, expand]
  constructor
  · rintro rfl
    exact String.toList_ofList.symm
  · intro h
    rw [h, String.ofList_toList]

/-- A price with a point, a debt, and a speaker with a token for a name. -/
def Setting.priced : Setting :=
  { locals := ⟨[{ name := "price", slots := { float := 1.5 } }]⟩
    globals := ⟨[{ name := "coins", slots := { int := -7 } }]⟩
    speaker := "\x7bvar:price:float\x7d" }

/-- A text with a brace too many, the name of the speaker, a token without a type, and the values of
variables of both stores. -/
def pricedText : String :=
  "\x7b\x7bvar:Price:float\x7d\x7bvar:SpeakerName\x7d" ++
    "\x7bvar:price\x7d\x7bVARGLOBAL:coins: Int \x7d"

/-- The name of the speaker is a token and stays one. -/
theorem expand_pricedText :
    expand .priced pricedText = "\x7b1.5\x7bvar:price:float\x7d\x7bvar:price\x7d-7" ∧
      ∃ ps, ps.length = 5 ∧ Divides ps pricedText.toList ∧
        Setting.priced.Expands ps "\x7b1.5\x7bvar:price:float\x7d\x7bvar:price\x7d-7".toList := by
  have hresult : expand .priced pricedText =
      "\x7b1.5\x7bvar:price:float\x7d\x7bvar:price\x7d-7" := by decide +kernel
  have hpieces : (split pricedText.toList).length = 5 := by decide +kernel
  obtain ⟨-, ps, hps, hunique, hexpands⟩ := expand_grammar pricedText
  refine ⟨hresult, ps, ?_, hps, (hexpands .priced _).mp hresult⟩
  rw [← hunique _ (divides_split _), hpieces]

end Template

end DialogueTree
