import DialogueTree.Proofs.Json.Tokens

/-!
# String literals read back

A character inside a string is written as itself, as an escape of one letter or as an escape of
four hexadecimal digits. The scanner makes a piece of it, and the pieces of a whole literal make up
the string again.

Results:
* `exists_run_escape`: the piece of a character.
* `run_literal`: a string that has been written is read as what it was.
-/

namespace DialogueTree.Json

/-! ## Pieces -/

/-- Whether a piece stands for a character: it is the character, or the unit of a control
character. -/
def Stands (c : Char) : Literal.Piece → Prop
  | .plain d => d = c
  | .unit n => n = c.toNat ∧ n < 32

theorem charsOfPieces_cons {c : Char} {p : Literal.Piece} (h : Stands c p)
    (ps : List Literal.Piece) :
    Literal.charsOfPieces (p :: ps) = (c :: ·) <$> Literal.charsOfPieces ps := by
  cases p with
  | plain d =>
    obtain rfl : d = c := h
    rw [Literal.charsOfPieces]
  | unit n =>
    obtain ⟨rfl, hlt⟩ := h
    have hhigh : Literal.isHigh c.toNat = false := by simp [Literal.isHigh]; omega
    have hlow : Literal.isLow c.toNat = false := by simp [Literal.isLow]; omega
    cases ps with
    | nil => simp [Literal.charsOfPieces, hhigh, hlow]
    | cons p' ps => cases p' <;> simp [Literal.charsOfPieces, hhigh, hlow]

/-! ## Control characters -/

theorem ofHex?_digitChar {n : Nat} (h : n < 16) : ofHex? (Nat.digitChar n) = some n := by
  have hall : ∀ k : Fin 16, ofHex? (Nat.digitChar k.val) = some k.val := by decide
  exact hall ⟨n, h⟩

/-- The four digits of a control character. -/
theorem run_controlEscape (r : Reading) (read : List Literal.Piece) {c : Char}
    (h : c.toNat < 32) :
    Progress.run ⟨.string read, r⟩ (Literal.controlEscape c) =
      some ⟨.string (.unit c.toNat :: read), r⟩ := by
  have hhigh : ofHex? (Nat.digitChar (c.toNat / 16)) = some (c.toNat / 16) :=
    ofHex?_digitChar (by omega)
  have hlow : ofHex? (Nat.digitChar (c.toNat % 16)) = some (c.toNat % 16) :=
    ofHex?_digitChar (by omega)
  have hzero : ofHex? '0' = some 0 := rfl
  have hescape : Mode.step (.string read) '\\' = some ([], .escape read) := rfl
  have hunit : Mode.step (.escape read) 'u' = some ([], .unit read 4 0) := rfl
  have hfirst : Mode.step (.unit read 4 0) '0' = some ([], .unit read 3 0) := by
    simp [Mode.step, hzero]
  have hsecond : Mode.step (.unit read 3 0) '0' = some ([], .unit read 2 0) := by
    simp [Mode.step, hzero]
  have hthird : Mode.step (.unit read 2 0) (Nat.digitChar (c.toNat / 16)) =
      some ([], .unit read 1 (c.toNat / 16)) := by
    simp [Mode.step, hhigh]
  have hfourth : Mode.step (.unit read 1 (c.toNat / 16)) (Nat.digitChar (c.toNat % 16)) =
      some ([], .string (.unit c.toNat :: read)) := by
    have hvalue : 16 * (c.toNat / 16) + c.toNat % 16 = c.toNat := by omega
    simp [Mode.step, hlow, hvalue]
  unfold Literal.controlEscape
  rw [Progress.run_of_step (Progress.step_of_mode hescape r),
    Progress.run_of_step (Progress.step_of_mode hunit r),
    Progress.run_of_step (Progress.step_of_mode hfirst r),
    Progress.run_of_step (Progress.step_of_mode hsecond r),
    Progress.run_of_step (Progress.step_of_mode hthird r),
    Progress.run_of_step (Progress.step_of_mode hfourth r), Progress.run_nil]

/-! ## Other characters -/

/-- An escape of one letter. -/
theorem run_letterEscape (r : Reading) (read : List Literal.Piece) {letter c : Char}
    (hu : letter ≠ 'u') (h : ofEscape? letter = some c) :
    Progress.run ⟨.string read, r⟩ ['\\', letter] = some ⟨.string (.plain c :: read), r⟩ := by
  have hescape : Mode.step (.string read) '\\' = some ([], .escape read) := rfl
  have hletter : Mode.step (.escape read) letter = some ([], .string (.plain c :: read)) := by
    simp [Mode.step, hu, h]
  rw [Progress.run_of_step (Progress.step_of_mode hescape r),
    Progress.run_of_step (Progress.step_of_mode hletter r), Progress.run_nil]

/-- A character that needs no escape. -/
theorem run_plain (r : Reading) (read : List Literal.Piece) {c : Char} (hquote : c ≠ '"')
    (hslash : c ≠ '\\') (h : ¬c.toNat < 32) :
    Progress.run ⟨.string read, r⟩ [c] = some ⟨.string (.plain c :: read), r⟩ := by
  have hstep : Mode.step (.string read) c = some ([], .string (.plain c :: read)) := by
    simp [Mode.step, hquote, hslash, h]
  rw [Progress.run_of_step (Progress.step_of_mode hstep r), Progress.run_nil]

/-- A character inside a string is scanned as a piece that stands for it. -/
theorem exists_run_escape (r : Reading) (read : List Literal.Piece) (c : Char) :
    ∃ p, Stands c p ∧ Progress.run ⟨.string read, r⟩ (Literal.escape c) =
      some ⟨.string (p :: read), r⟩ := by
  have hletter {letter d : Char} (hd : d = c) (hu : letter ≠ 'u')
      (h : ofEscape? letter = some d) : ∃ p, Stands c p ∧
        Progress.run ⟨.string read, r⟩ ['\\', letter] = some ⟨.string (p :: read), r⟩ :=
    ⟨.plain d, hd, run_letterEscape r read hu h⟩
  have hcode {n : Nat} (h : c.toNat = n) : Char.ofNat n = c := by
    rw [← h]
    exact Char.ofNat_toNat c
  unfold Literal.escape
  split
  next h => exact hletter h.symm (by decide) rfl
  next hquote =>
  split
  next h => exact hletter h.symm (by decide) rfl
  next hslash =>
  split
  next h => exact hletter (hcode h) (by decide) rfl
  split
  next h => exact hletter (hcode h) (by decide) rfl
  split
  next h => exact hletter h.symm (by decide) rfl
  split
  next h => exact hletter h.symm (by decide) rfl
  split
  next h => exact hletter h.symm (by decide) rfl
  split
  next h => exact ⟨.unit c.toNat, ⟨rfl, h⟩, run_controlEscape r read h⟩
  next h => exact ⟨.plain c, rfl, run_plain r read hquote hslash h⟩

/-! ## Literals -/

/-- The characters inside a string are scanned as pieces that make up the string. -/
theorem exists_run_escapes (r : Reading) (read : List Literal.Piece) (cs : List Char) :
    ∃ ps, Literal.charsOfPieces ps = some cs ∧
      Progress.run ⟨.string read, r⟩ (cs.flatMap Literal.escape) =
        some ⟨.string (ps.reverse ++ read), r⟩ := by
  induction cs generalizing read with
  | nil => exact ⟨[], rfl, rfl⟩
  | cons c cs ih =>
    obtain ⟨p, hp, hfirst⟩ := exists_run_escape r read c
    obtain ⟨ps, hps, hrest⟩ := ih (p :: read)
    refine ⟨p :: ps, ?_, ?_⟩
    · rw [charsOfPieces_cons hp, hps]
      rfl
    · rw [List.flatMap_cons, Progress.run_of_run hfirst, hrest]
      simp

/-- A string that has been written is read as what it was. -/
theorem run_literal {k : Literal} {r r' : Reading} (hr : r.step (.string k) = some r') :
    Progress.run ⟨.between, r⟩ k.chars = some ⟨.between, r'⟩ := by
  have hopen : Mode.step .between '"' = some ([], .string []) := rfl
  have hclose (read : List Literal.Piece) : Mode.step (.string read) '"' =
      some ([.string (.ofPieces read.reverse)], .between) := rfl
  cases k with
  | some s =>
    obtain ⟨ps, hps, hrun⟩ := exists_run_escapes r [] s.toList
    have htext : Literal.ofPieces ps = some s := by
      rw [Literal.ofPieces, hps]
      exact congrArg some s.ofList_toList
    have hend := hclose ps.reverse
    rw [List.reverse_reverse, htext] at hend
    rw [List.append_nil] at hrun
    have hchars : Literal.chars (some s) =
        '"' :: (s.toList.flatMap Literal.escape ++ ['"']) := rfl
    rw [hchars, Progress.run_of_step (Progress.step_of_mode hopen r),
      Progress.run_of_run hrun, Progress.run_of_step (Progress.step_of_token hend hr),
      Progress.run_nil]
  | none =>
    have hscan : Progress.run ⟨.between, r⟩ ['"', '\\', 'u', 'd', '8', '0', '0'] =
        some ⟨.string [.unit 0xD800], r⟩ := rfl
    have hend : Mode.step (.string [.unit 0xD800]) '"' =
        some ([.string none], .between) := rfl
    have hchars : Literal.chars none = ['"', '\\', 'u', 'd', '8', '0', '0'] ++ ['"'] := rfl
    rw [hchars, Progress.run_of_run hscan,
      Progress.run_of_step (Progress.step_of_token hend hr), Progress.run_nil]

end DialogueTree.Json
