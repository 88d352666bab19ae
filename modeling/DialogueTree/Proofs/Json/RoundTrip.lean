import DialogueTree.Proofs.Json.Strings

/-!
# JSON read back

A JSON value that has been written, with whatever blanks between its tokens, is read as what it
was. The proof follows the value: from a place where a value is wanted, its characters lead to the
place where the value has been put onto the stack, up to settling.

Results:
* `exists_run_chars`: a value in the middle of a text.
* `parseChars?_chars`, `parse?_pretty`, `parse?_compact`: a whole text.
-/

namespace DialogueTree.Json

/-- Whether a spacing has nothing but blanks. -/
structure Spacing.IsBlank (sp : Spacing) : Prop where
  line : ∀ d, ∀ c ∈ sp.line d, isSpace c = true
  colon : ∀ c ∈ sp.colon, isSpace c = true

theorem Spacing.isBlank_none : Spacing.none.IsBlank := by
  constructor
  · intro d c hc
    cases hc
  · intro c hc
    cases hc

theorem Spacing.isBlank_indented : Spacing.indented.IsBlank := by
  constructor
  · intro d c hc
    rcases List.mem_cons.mp hc with rfl | hc
    · rfl
    · rw [(List.mem_replicate.mp hc).2]
      rfl
  · intro c hc
    rw [List.mem_singleton.mp hc]
    rfl

/-- Whether a text wants a value that goes into the frames of a stack. -/
def Reading.Wants (r : Reading) (stack : List Frame) : Prop :=
  r = .value stack ∨ ∃ outer, r = .firstItem outer ∧ stack = .array [] :: outer

theorem Reading.Wants.step {r r' : Reading} {stack : List Frame} (h : r.Wants stack) {t : Token}
    (ht : startValue stack t = some r') : r.step t = some r' := by
  rcases h with rfl | ⟨outer, rfl, rfl⟩
  · exact ht
  · cases t <;> first | exact ht | cases ht

/-! ## Going on after a value -/

theorem isBreak_of_token {c : Char} (h : c = ',' ∨ c = ']' ∨ c = '\x7d') : IsBreak c := by
  rcases h with rfl | rfl | rfl <;> exact ⟨by decide, by decide⟩

/-- Blanks and a closing character after something that has settled. -/
theorem Settles.run_close {p : Progress} {r r' : Reading} (h : Settles p ⟨.between, r⟩)
    {blanks : List Char} (hblanks : ∀ c ∈ blanks, isSpace c = true) {c : Char} {t : Token}
    (hc : IsBreak c) (hmode : Mode.step .between c = some ([t], .between))
    (hr : r.step t = some r') : p.run (blanks ++ [c]) = some ⟨.between, r'⟩ := by
  have hclose : Progress.run ⟨.between, r⟩ (blanks ++ [c]) = some ⟨.between, r'⟩ := by
    rw [Progress.run_of_run (run_blanks r hblanks),
      Progress.run_of_step (Progress.step_of_token hmode hr), Progress.run_nil]
  cases blanks with
  | nil => exact (h.run_eq hc []).trans hclose
  | cons b bs =>
    have hb := isBreak_of_isSpace (hblanks b (List.mem_cons_self ..))
    exact (h.run_eq hb _).trans hclose

/-- A comma and blanks after something that has settled. -/
theorem Settles.run_comma {p : Progress} {r r' : Reading} (h : Settles p ⟨.between, r⟩)
    {blanks : List Char} (hblanks : ∀ c ∈ blanks, isSpace c = true)
    (hr : r.step .comma = some r') (cs : List Char) :
    p.run (',' :: (blanks ++ cs)) = Progress.run ⟨.between, r'⟩ cs := by
  have hmode : Mode.step .between ',' = some ([.comma], .between) := rfl
  rw [h.run_eq (isBreak_of_token (.inl rfl)),
    Progress.run_of_step (Progress.step_of_token hmode hr),
    Progress.run_of_run (run_blanks r' hblanks)]

/-- A name, a colon and blanks. -/
theorem run_key {sp : Spacing} (hsp : sp.IsBlank) (members : List (Literal × Json)) (k : Literal)
    (stack : List Frame) (cs : List Char) :
    Progress.run ⟨.between, .name members stack⟩ (k.chars ++ ':' :: (sp.colon ++ cs)) =
      Progress.run ⟨.between, .value (.object members k :: stack)⟩ cs := by
  have hname : Reading.step (.name members stack) (.string k) = some (.colon members k stack) :=
    rfl
  have hcolon : Reading.step (.colon members k stack) .colon =
      some (.value (.object members k :: stack)) := rfl
  have hmode : Mode.step .between ':' = some ([.colon], .between) := rfl
  rw [Progress.run_of_run (run_literal hname),
    Progress.run_of_step (Progress.step_of_token hmode hcolon),
    Progress.run_of_run (run_blanks _ hsp.colon)]

/-! ## Values -/

mutual

/-- The characters of a value put it onto the stack. -/
theorem exists_run_chars {sp : Spacing} (hsp : sp.IsBlank) (d : Nat) :
    ∀ (j : Json) {r : Reading} {stack : List Frame}, r.Wants stack →
      ∃ p, Progress.run ⟨.between, r⟩ (chars sp d j) = some p ∧
        Settles p ⟨.between, .put j stack⟩
  | .null, r, stack, hr => exists_run_null (hr.step rfl)
  | .bool true, r, stack, hr => exists_run_true (hr.step rfl)
  | .bool false, r, stack, hr => exists_run_false (hr.step rfl)
  | .number n, r, stack, hr => exists_run_number (hr.step rfl)
  | .string s, r, stack, hr => ⟨_, run_literal (hr.step rfl), .refl _⟩
  | .array [], r, stack, hr => by
    have hopen : Mode.step .between '[' = some ([.openArray], .between) := rfl
    have hclose : Mode.step .between ']' = some ([.closeArray], .between) := rfl
    have hfirst : r.step .openArray = some (.firstItem stack) := hr.step rfl
    have hlast : Reading.step (.firstItem stack) .closeArray =
        some (.put (.array []) stack) := rfl
    refine ⟨_, ?_, .refl _⟩
    rw [chars, Progress.run_of_step (Progress.step_of_token hopen hfirst),
      Progress.run_of_step (Progress.step_of_token hclose hlast), Progress.run_nil]
  | .array (j :: js), r, stack, hr => by
    have hopen : Mode.step .between '[' = some ([.openArray], .between) := rfl
    have hclose : Mode.step .between ']' = some ([.closeArray], .between) := rfl
    have hfirst : r.step .openArray = some (.firstItem stack) := hr.step rfl
    have hwants : Reading.Wants (.firstItem stack) (.array [] :: stack) :=
      .inr ⟨stack, rfl, rfl⟩
    obtain ⟨p, hp, hsettles⟩ := exists_run_chars hsp (d + 1) j hwants
    obtain ⟨q, hq, hsettles'⟩ := exists_run_itemChars hsp d js hsettles
    have hlast : Reading.step (.moreItems (js.reverse ++ [j]) stack) .closeArray =
        some (.put (.array (j :: js)) stack) := by
      simp [Reading.step]
    have hend := hsettles'.run_close (hsp.line d) (isBreak_of_token (.inr (.inl rfl))) hclose
      hlast
    refine ⟨_, ?_, .refl _⟩
    simp only [chars, List.cons_append, List.append_assoc]
    rw [Progress.run_of_step (Progress.step_of_token hopen hfirst),
      Progress.run_of_run (run_blanks _ (hsp.line (d + 1))), Progress.run_of_run hp,
      Progress.run_of_run hq, hend]
  | .object [], r, stack, hr => by
    have hopen : Mode.step .between '\x7b' = some ([.openObject], .between) := rfl
    have hclose : Mode.step .between '\x7d' = some ([.closeObject], .between) := rfl
    have hfirst : r.step .openObject = some (.name [] stack) := hr.step rfl
    have hlast : Reading.step (.name [] stack) .closeObject =
        some (.put (.object []) stack) := rfl
    refine ⟨_, ?_, .refl _⟩
    rw [chars, Progress.run_of_step (Progress.step_of_token hopen hfirst),
      Progress.run_of_step (Progress.step_of_token hclose hlast), Progress.run_nil]
  | .object ((k, j) :: ms), r, stack, hr => by
    have hopen : Mode.step .between '\x7b' = some ([.openObject], .between) := rfl
    have hclose : Mode.step .between '\x7d' = some ([.closeObject], .between) := rfl
    have hfirst : r.step .openObject = some (.name [] stack) := hr.step rfl
    obtain ⟨p, hp, hsettles⟩ :=
      exists_run_chars hsp (d + 1) j (.inl rfl : Reading.Wants (.value (.object [] k :: stack)) _)
    obtain ⟨q, hq, hsettles'⟩ := exists_run_memberChars hsp d ms hsettles
    have hlast : Reading.step (.moreMembers (ms.reverse ++ [(k, j)]) stack) .closeObject =
        some (.put (.object ((k, j) :: ms)) stack) := by
      simp [Reading.step]
    have hend := hsettles'.run_close (hsp.line d) (isBreak_of_token (.inr (.inr rfl))) hclose
      hlast
    refine ⟨_, ?_, .refl _⟩
    simp only [chars, List.cons_append, List.append_assoc]
    rw [Progress.run_of_step (Progress.step_of_token hopen hfirst),
      Progress.run_of_run (run_blanks _ (hsp.line (d + 1))), run_key hsp,
      Progress.run_of_run hp, Progress.run_of_run hq, hend]

/-- The characters of further items put them onto the stack. -/
theorem exists_run_itemChars {sp : Spacing} (hsp : sp.IsBlank) (d : Nat) :
    ∀ (js : List Json) {p : Progress} {items : List Json} {stack : List Frame},
      Settles p ⟨.between, .moreItems items stack⟩ →
      ∃ q, p.run (itemChars sp d js) = some q ∧
        Settles q ⟨.between, .moreItems (js.reverse ++ items) stack⟩
  | [], p, items, stack, hp => ⟨p, by rw [itemChars, Progress.run_nil], hp⟩
  | j :: js, p, items, stack, hp => by
    have hcomma : Reading.step (.moreItems items stack) .comma =
        some (.value (.array items :: stack)) := rfl
    obtain ⟨q, hq, hsettles⟩ :=
      exists_run_chars hsp (d + 1) j (.inl rfl : Reading.Wants (.value (.array items :: stack)) _)
    obtain ⟨q', hq', hsettles'⟩ := exists_run_itemChars hsp d js hsettles
    refine ⟨q', ?_, ?_⟩
    · simp only [itemChars, List.cons_append, List.append_assoc]
      rw [hp.run_comma (hsp.line (d + 1)) hcomma, Progress.run_of_run hq, hq']
    · rw [List.reverse_cons, List.append_assoc]
      exact hsettles'

/-- The characters of further members put them onto the stack. -/
theorem exists_run_memberChars {sp : Spacing} (hsp : sp.IsBlank) (d : Nat) :
    ∀ (ms : List (Literal × Json)) {p : Progress} {members : List (Literal × Json)}
      {stack : List Frame}, Settles p ⟨.between, .moreMembers members stack⟩ →
      ∃ q, p.run (memberChars sp d ms) = some q ∧
        Settles q ⟨.between, .moreMembers (ms.reverse ++ members) stack⟩
  | [], p, members, stack, hp => ⟨p, by rw [memberChars, Progress.run_nil], hp⟩
  | (k, j) :: ms, p, members, stack, hp => by
    have hcomma : Reading.step (.moreMembers members stack) .comma =
        some (.name members stack) := rfl
    obtain ⟨q, hq, hsettles⟩ := exists_run_chars hsp (d + 1) j
      (.inl rfl : Reading.Wants (.value (.object members k :: stack)) _)
    obtain ⟨q', hq', hsettles'⟩ := exists_run_memberChars hsp d ms hsettles
    refine ⟨q', ?_, ?_⟩
    · simp only [memberChars, List.cons_append, List.append_assoc]
      rw [hp.run_comma (hsp.line (d + 1)) hcomma, run_key hsp, Progress.run_of_run hq, hq']
    · rw [List.reverse_cons, List.append_assoc]
      exact hsettles'

end

/-! ## Texts -/

/-- Reading undoes writing, with whatever blanks. -/
theorem parseChars?_chars {sp : Spacing} (hsp : sp.IsBlank) (j : Json) :
    parseChars? (j.chars sp 0) = some j := by
  obtain ⟨p, hp, hsettles⟩ := exists_run_chars hsp 0 j (.inl rfl : Reading.Wants (.value []) _)
  have hfinish : p.finish = some j := hsettles.2
  unfold parseChars?
  unfold Progress.run at hp
  rw [hp]
  exact hfinish

theorem parse?_pretty (j : Json) : parse? j.pretty = some j := by
  unfold parse? pretty
  rw [String.toList_ofList]
  exact parseChars?_chars Spacing.isBlank_indented j

theorem parse?_compact (j : Json) : parse? j.compact = some j := by
  unfold parse? compact
  rw [String.toList_ofList]
  exact parseChars?_chars Spacing.isBlank_none j

end DialogueTree.Json
