import DialogueTree.Template

/-!
# Splitting texts that are joined

A text is split in one pass that remembers what it has read since an opening brace. Only the end of
a text and another brace make it forget that; so a text is split behind a closing brace as if it
began there, and so it is at an opening one, whatever stands before.

Results:
* `splitAfter_append`: two texts are split together as they are split apart, unless the first one
  ends behind an opening brace.
* `split_append_braces`: braces with none between them are split off wherever they stand.
* `expand_append`: expanding two texts together and apart.
-/

namespace DialogueTree.Template

/-- Whether a character is a brace. -/
def isBrace (c : Char) : Bool := c == '\x7b' || c == '\x7d'

/-- The last brace of a text. -/
def lastBrace? (cs : List Char) : Option Char := (cs.filter isBrace).getLast?

theorem lastBrace?_cons_of_isBrace {c : Char} (h : isBrace c = true) (cs : List Char) :
    lastBrace? (c :: cs) = some ((lastBrace? cs).getD c) := by
  rw [lastBrace?, List.filter_cons_of_pos h, List.getLast?_cons, lastBrace?]

theorem lastBrace?_cons_of_plain {c : Char} (h : isBrace c = false) (cs : List Char) :
    lastBrace? (c :: cs) = lastBrace? cs := by
  rw [lastBrace?, List.filter_cons_of_neg (by simp [h]), lastBrace?]

variable {a b body cs : List Char}

/-! ## Splitting apart -/

/-- Two texts are split together as they are split apart, unless what has been read since an opening
brace waits for the second one. That is so if the last brace before it is an opening one, and the
second text does not begin with another. -/
theorem splitAfter_append (pending : Option (List Char))
    (h : (lastBrace? a).or (pending.map fun _ => '\x7b') ≠ some '\x7b' ∨ b.head? = some '\x7b') :
    splitAfter pending (a ++ b) = splitAfter pending a ++ splitAfter none b := by
  induction a generalizing pending with
  | nil =>
    cases pending with
    | none => rfl
    | some body =>
      rcases h with h | h
      · simp [lastBrace?] at h
      · obtain ⟨rest, rfl⟩ := List.head?_eq_some_iff.mp h
        simp [splitAfter]
  | cons c a ih =>
    by_cases hopen : c = '\x7b'
    · subst hopen
      have hrest := ih (some []) <| h.imp_left fun hlast => by
        rw [lastBrace?_cons_of_isBrace rfl] at hlast
        cases hl : lastBrace? a <;> simp_all
      cases pending <;> simp [splitAfter, hrest]
    by_cases hclose : c = '\x7d'
    · subst hclose
      have hrest := ih none <| h.imp_left fun hlast => by
        rw [lastBrace?_cons_of_isBrace rfl] at hlast
        cases hl : lastBrace? a <;> simp_all
      cases pending <;> simp [splitAfter, hrest]
    · have hplain : isBrace c = false := by simp [isBrace, hopen, hclose]
      rw [lastBrace?_cons_of_plain hplain] at h
      cases pending with
      | none => simp [splitAfter, hopen, ih none h]
      | some body => simp [splitAfter, hopen, hclose, ih (some (c :: body)) (by simpa using h)]

/-- An opening brace starts anew. -/
theorem split_append_open (a cs : List Char) :
    split (a ++ '\x7b' :: cs) = split a ++ splitAfter (some []) cs := by
  have h := splitAfter_append (a := a) (b := '\x7b' :: cs) none (.inr rfl)
  simpa [split, splitAfter] using h

/-- What stands between two braces is read up to the closing one. -/
theorem splitAfter_body (h : ∀ c ∈ body, isBrace c = false) (read cs : List Char) :
    splitAfter (some read) (body ++ '\x7d' :: cs) =
      bracePieces (read.reverse ++ body) ++ split cs := by
  induction body generalizing read with
  | nil => simp [splitAfter, split]
  | cons c body ih =>
    have hc : c ≠ '\x7b' ∧ c ≠ '\x7d' := by simpa [isBrace] using h c List.mem_cons_self
    have hrest := ih (fun d hd => h d (List.mem_cons_of_mem _ hd)) (c :: read)
    simpa [splitAfter, hc] using hrest

/-- Braces with none between them are split off wherever they stand. -/
theorem split_append_braces (h : ∀ c ∈ body, isBrace c = false) (a cs : List Char) :
    split (a ++ '\x7b' :: (body ++ '\x7d' :: cs)) = split a ++ (bracePieces body ++ split cs) := by
  rw [split_append_open, splitAfter_body h]
  rfl

/-! ## Expanding apart -/

/-- Two texts are expanded together as they are expanded apart, if the last brace of the first one,
where it has any, is a closing one. -/
theorem expand_append {a b : String} (h : ∀ c ∈ lastBrace? a.toList, c = '\x7d') (s : Setting) :
    expand s (a ++ b) = expand s a ++ expand s b := by
  have hlast : lastBrace? a.toList ≠ some '\x7b' := fun hopen => absurd (h _ hopen) (by decide)
  have hsplit : split (a.toList ++ b.toList) = split a.toList ++ split b.toList :=
    splitAfter_append none (.inl (by simpa using hlast))
  rw [expand, String.toList_append, hsplit, List.flatMap_append, String.ofList_append]
  rfl

/-- A speaker with a brace for a name. -/
def Setting.braced : Setting :=
  { locals := ⟨[{ name := "coins", slots := { int := 5 } }]⟩
    globals := {}
    speaker := "\x7bvar" }

/-- The name of the speaker and what follows it look like a token, and stay as they are; the token
that begins where the texts are joined is replaced. -/
theorem expand_braced :
    expand .braced ("\x7bvar:SpeakerName\x7d:coins:int\x7d" ++ "\x7bvar:Coins:int\x7d\x7bvar:") =
      "\x7bvar:coins:int\x7d" ++ "5\x7bvar:" := by
  have hfirst : expand .braced "\x7bvar:SpeakerName\x7d:coins:int\x7d" =
      "\x7bvar:coins:int\x7d" := by decide +kernel
  have hsecond : expand .braced "\x7bvar:Coins:int\x7d\x7bvar:" = "5\x7bvar:" := by decide +kernel
  have hlast : lastBrace? "\x7bvar:SpeakerName\x7d:coins:int\x7d".toList = some '\x7d' := by
    decide +kernel
  rw [expand_append fun c hc => Option.some.inj (hc.symm.trans hlast), hfirst, hsecond]

end DialogueTree.Template
