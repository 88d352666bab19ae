import DialogueTree.Proofs.Template.Split
import Mathlib.Data.List.TakeWhile

/-!
# The tokens of a text

A token is an opening brace, `var` or `varGlobal` in any letter case, a colon, a name without colon
or braces, perhaps a colon and a type without braces, and a closing brace. What stands between its
braces has none itself. So tokens do not overlap, there is one way only to cut up a text into all
its tokens and the characters between them, and splitting the text finds it.

Results:
* `Divides.unique`: a text can be cut up in one way only.
* `Divides.apart`: tokens do not overlap.
* `split_append_token`: a token is found wherever it stands.
* `divides_split`: splitting cuts up a text into all its tokens and what is between them.
-/

namespace DialogueTree.Template

/-! ## Tokens -/

/-- Whether a token may be written in a text. -/
structure Token.IsValid (t : Token) : Prop where
  keyword : agree t.keyword localKeyword = true ∨ agree t.keyword globalKeyword = true
  name : ∀ c ∈ t.name, c ≠ ':' ∧ isBrace c = false
  type : ∀ type ∈ t.type, ∀ c ∈ type, isBrace c = false

theorem isBrace_eq_false {c : Char} : isBrace c = false ↔ c ≠ '\x7b' ∧ c ≠ '\x7d' := by
  simp [isBrace]

/-- Texts that agree but for the case of letters have their other characters in common. -/
theorem ne_of_agree {a b : List Char} {c d : Char} (h : agree a b = true) (hc : c ∈ a)
    (hd : ∀ x ∈ b, x.toLower ≠ d.toLower) : c ≠ d := by
  rintro rfl
  have hmaps : a.map Char.toLower = b.map Char.toLower := by simpa [agree] using h
  have hmem : c.toLower ∈ b.map Char.toLower := hmaps ▸ List.mem_map_of_mem hc
  obtain ⟨x, hx, hlower⟩ := List.mem_map.mp hmem
  exact hd x hx hlower

/-- A keyword is made of letters. -/
theorem ne_of_keyword {keyword : List Char} {c d : Char}
    (h : agree keyword localKeyword = true ∨ agree keyword globalKeyword = true)
    (hc : c ∈ keyword) (hd : d ∈ [':', '\x7b', '\x7d']) : c ≠ d := by
  have hlocal : [':', '\x7b', '\x7d'].all
      (fun d => localKeyword.all fun x => x.toLower != d.toLower) = true := by decide
  have hglobal : [':', '\x7b', '\x7d'].all
      (fun d => globalKeyword.all fun x => x.toLower != d.toLower) = true := by decide
  simp only [List.all_eq_true, bne_iff_ne] at hlocal hglobal
  rcases h with h | h
  · exact ne_of_agree h hc (hlocal d hd)
  · exact ne_of_agree h hc (hglobal d hd)

/-- What is before the first colon of a text, and the rest. -/
theorem cut_colon {cs : List Char} (h : ∀ c ∈ cs, c ≠ ':') (rest : List Char) :
    (cs ++ ':' :: rest).takeWhile (· != ':') = cs ∧
      (cs ++ ':' :: rest).dropWhile (· != ':') = ':' :: rest := by
  have hcs : ∀ c ∈ cs, (c != ':') = true := by simpa using h
  rw [List.takeWhile_append_of_pos hcs, List.dropWhile_append_of_pos hcs]
  simp

/-- A text without a colon is not cut. -/
theorem cut_none {cs : List Char} (h : ∀ c ∈ cs, c ≠ ':') :
    cs.takeWhile (· != ':') = cs ∧ cs.dropWhile (· != ':') = [] := by
  have hcs : ∀ c ∈ cs, (c != ':') = true := by simpa using h
  exact ⟨List.takeWhile_eq_self_iff.mpr hcs, List.dropWhile_eq_nil_iff.mpr hcs⟩

namespace Token

variable {t : Token} {keyword name type cs : List Char}

theorem afterKeyword_name (h : ∀ c ∈ name, c ≠ ':') :
    afterKeyword keyword name = ⟨keyword, name, none⟩ := by
  obtain ⟨htake, hdrop⟩ := cut_none h
  rw [afterKeyword, htake, hdrop]

theorem afterKeyword_type (h : ∀ c ∈ name, c ≠ ':') :
    afterKeyword keyword (name ++ ':' :: type) = ⟨keyword, name, some type⟩ := by
  obtain ⟨htake, hdrop⟩ := cut_colon h type
  rw [afterKeyword, htake, hdrop]

theorem ofBody?_of_keyword
    (h : agree keyword localKeyword = true ∨ agree keyword globalKeyword = true) (cs : List Char) :
    ofBody? (keyword ++ ':' :: cs) = some (afterKeyword keyword cs) := by
  have hcolon : ∀ c ∈ keyword, c ≠ ':' := fun c hc => ne_of_keyword h hc (by decide)
  obtain ⟨htake, hdrop⟩ := cut_colon hcolon cs
  rw [ofBody?, htake, hdrop]
  exact if_pos (by simpa using h)

/-- A token is read again from what stands between its braces. -/
theorem IsValid.ofBody?_body (h : t.IsValid) : ofBody? t.body = some t := by
  obtain ⟨keyword, name, type⟩ := t
  have hname : ∀ c ∈ name, c ≠ ':' := fun c hc => (h.name c hc).1
  unfold body
  cases type with
  | none =>
    rw [List.append_nil, ofBody?_of_keyword h.keyword, afterKeyword_name hname]
  | some type =>
    rw [List.append_assoc, List.cons_append, ofBody?_of_keyword h.keyword, afterKeyword_type hname]

theorem mem_body {c : Char} :
    c ∈ t.body ↔ c ∈ t.keyword ∨ c = ':' ∨ c ∈ t.name ∨ ∃ type ∈ t.type, c = ':' ∨ c ∈ type := by
  unfold body
  cases t.type <;> simp

/-- Between its braces a token has no others. -/
theorem IsValid.isBrace_body (h : t.IsValid) : ∀ c ∈ t.body, isBrace c = false := by
  intro c hc
  rcases mem_body.mp hc with hkeyword | rfl | hname | ⟨type, htype, rfl | hc⟩
  · exact isBrace_eq_false.mpr
      ⟨ne_of_keyword h.keyword hkeyword (by decide), ne_of_keyword h.keyword hkeyword (by decide)⟩
  · rfl
  · exact (h.name c hname).2
  · rfl
  · exact h.type type htype c hc

theorem ofBody?_eq_some (h : ofBody? cs = some t) :
    (agree t.keyword localKeyword = true ∨ agree t.keyword globalKeyword = true) ∧
      ∀ c ∈ t.name, c ≠ ':' := by
  unfold ofBody? at h
  dsimp only at h
  split at h
  next => cases h
  next =>
    split at h
    next hkeyword =>
      cases h
      refine ⟨(Bool.or_eq_true ..).mp hkeyword, fun c hc => ?_⟩
      simpa using List.all_eq_true.mp List.all_takeWhile c hc
    next => cases h

/-- What is read between two braces is a token, if there are no others in between. -/
theorem isValid_of_ofBody? (hcs : ∀ c ∈ cs, isBrace c = false) (h : ofBody? cs = some t) :
    t.IsValid := by
  obtain ⟨hkeyword, hname⟩ := ofBody?_eq_some h
  rw [← body_of_ofBody? h] at hcs
  refine ⟨hkeyword, fun c hc => ⟨hname c hc, hcs c ?_⟩, fun type htype c hc => hcs c ?_⟩
  · exact mem_body.mpr (.inr (.inr (.inl hc)))
  · exact mem_body.mpr (.inr (.inr (.inr ⟨type, htype, .inr hc⟩)))

end Token

/-! ## Texts cut up -/

/-- Whether a token stands in a text behind `i` characters. -/
def Occurs (cs : List Char) (i : Nat) (t : Token) : Prop :=
  t.IsValid ∧ ∃ before after, cs = before ++ (t.written ++ after) ∧ before.length = i

/-- What some pieces are when they are written one after another. -/
def writtenOf (ps : List Piece) : List Char := ps.flatMap Piece.written

/-- Whether some pieces are a text cut up into all its tokens and the characters between them. -/
structure Divides (ps : List Piece) (cs : List Char) : Prop where
  written : writtenOf ps = cs
  valid : ∀ t, .token t ∈ ps → t.IsValid
  complete : ∀ i t, Occurs cs i t →
    ∃ before after, ps = before ++ .token t :: after ∧ (writtenOf before).length = i

variable {p q : Piece} {ps qs : List Piece} {cs : List Char} {i j : Nat} {t u : Token}

@[simp] theorem writtenOf_nil : writtenOf [] = [] := rfl

@[simp] theorem writtenOf_cons (p : Piece) (ps : List Piece) :
    writtenOf (p :: ps) = p.written ++ writtenOf ps := rfl

@[simp] theorem writtenOf_append (ps qs : List Piece) :
    writtenOf (ps ++ qs) = writtenOf ps ++ writtenOf qs := List.flatMap_append

theorem Piece.written_ne_nil (p : Piece) : p.written ≠ [] := by
  cases p <;> simp [Piece.written, Token.written]

theorem writtenOf_eq_nil : writtenOf ps = [] ↔ ps = [] := by
  cases ps with
  | nil => simp
  | cons p ps => simp [p.written_ne_nil]

namespace Divides

/-- A token at the beginning of a text is the first piece. -/
theorem eq_token (h : Divides (p :: ps) cs) (ht : Occurs cs 0 t) : p = .token t := by
  obtain ⟨before, after, hps, hlength⟩ := h.complete 0 t ht
  obtain rfl : before = [] := writtenOf_eq_nil.mp (List.length_eq_zero_iff.mp hlength)
  exact (List.cons.inj hps).1

theorem occurs (h : Divides (.token t :: ps) cs) : Occurs cs 0 t :=
  ⟨h.valid t List.mem_cons_self, [], writtenOf ps, h.written.symm, rfl⟩

theorem tail (h : Divides (p :: ps) cs) : Divides ps (writtenOf ps) where
  written := rfl
  valid t ht := h.valid t (List.mem_cons_of_mem p ht)
  complete i t ht := by
    obtain ⟨hvalid, before, after, hrest, rfl⟩ := ht
    have hhere : Occurs cs (p.written ++ before).length t :=
      ⟨hvalid, p.written ++ before, after, by rw [← h.written, writtenOf_cons, hrest]; simp, rfl⟩
    obtain ⟨passed, later, hps, hlength⟩ := h.complete _ t hhere
    cases passed with
    | nil =>
      have hp := List.length_pos_iff.mpr p.written_ne_nil
      rw [List.length_append, writtenOf_nil, List.length_nil] at hlength
      omega
    | cons q passed =>
      rw [List.cons_append, List.cons.injEq] at hps
      obtain ⟨rfl, hps⟩ := hps
      exact ⟨passed, later, hps, by simpa using hlength⟩

/-- A text can be cut up in one way only. -/
theorem unique (hps : Divides ps cs) (hqs : Divides qs cs) : ps = qs := by
  induction ps generalizing qs cs with
  | nil => exact (writtenOf_eq_nil.mp (hqs.written.trans hps.written.symm)).symm
  | cons p ps ih =>
    cases qs with
    | nil => exact writtenOf_eq_nil.mp (hps.written.trans hqs.written.symm)
    | cons q qs =>
      have hwritten : p.written ++ writtenOf ps = q.written ++ writtenOf qs :=
        hps.written.trans hqs.written.symm
      have hfirst : p = q := by
        cases p with
        | token t => exact (hqs.eq_token hps.occurs).symm
        | plain c =>
          cases q with
          | token u => exact hps.eq_token hqs.occurs
          | plain d => rw [(List.cons.inj hwritten).1]
      subst hfirst
      have hrest : writtenOf ps = writtenOf qs := List.append_cancel_left hwritten
      rw [ih hps.tail (hrest ▸ hqs.tail)]

/-- Two tokens of a text do not overlap. -/
theorem apart (h : Divides ps cs) (ht : Occurs cs i t) (hu : Occurs cs j u) :
    (i = j ∧ t = u) ∨ i + t.written.length ≤ j ∨ j + u.written.length ≤ i := by
  obtain ⟨before, after, hps, rfl⟩ := h.complete i t ht
  obtain ⟨before', after', hps', rfl⟩ := h.complete j u hu
  rcases List.append_eq_append_iff.mp (hps.symm.trans hps') with ⟨mid, rfl, hmid⟩ | ⟨mid, rfl, hmid⟩
  · cases mid with
    | nil => simp_all
    | cons p mid =>
      obtain ⟨rfl, -⟩ := List.cons.inj hmid
      exact .inr (.inl (by simp [Piece.written]))
  · cases mid with
    | nil => simp_all
    | cons p mid =>
      obtain ⟨rfl, -⟩ := List.cons.inj hmid
      exact .inr (.inr (by simp [Piece.written]))

end Divides

/-! ## Splitting -/

theorem bracePieces_body (h : t.IsValid) : bracePieces t.body = [.token t] := by
  rw [bracePieces, h.ofBody?_body]

/-- A token is found wherever it stands. -/
theorem split_append_token (h : t.IsValid) (a b : List Char) :
    split (a ++ (t.written ++ b)) = split a ++ .token t :: split b := by
  have hbraces := split_append_braces h.isBrace_body a b
  rw [bracePieces_body h] at hbraces
  simpa [Token.written] using hbraces

theorem isValid_of_mem_bracePieces {body : List Char} (hbody : ∀ c ∈ body, isBrace c = false)
    (ht : .token t ∈ bracePieces body) : t.IsValid := by
  unfold bracePieces at ht
  split at ht
  next u hu =>
    obtain rfl : t = u := by simpa using ht
    exact Token.isValid_of_ofBody? hbody hu
  next => simp at ht

/-- What is split off as a token is one. What has been read since an opening brace has none. -/
theorem isValid_of_mem_splitAfter {pending : Option (List Char)}
    (hpending : ∀ read ∈ pending, ∀ c ∈ read, isBrace c = false)
    (ht : .token t ∈ splitAfter pending cs) : t.IsValid := by
  induction cs generalizing pending with
  | nil => cases pending <;> simp [splitAfter] at ht
  | cons c cs ih =>
    cases pending with
    | none =>
      unfold splitAfter at ht
      split at ht
      next => exact ih (by simp) ht
      next =>
        have hrest : .token t ∈ splitAfter none cs := by simpa using ht
        exact ih (by simp) hrest
    | some read =>
      unfold splitAfter at ht
      split at ht
      next =>
        have hrest : .token t ∈ splitAfter (some []) cs := by simpa using ht
        exact ih (by simp) hrest
      next hopen =>
        split at ht
        next =>
          rcases List.mem_append.mp ht with hbraces | hrest
          · exact isValid_of_mem_bracePieces (by simpa using hpending read rfl) hbraces
          · exact ih (by simp) hrest
        next hclose =>
          refine ih ?_ ht
          have hc : isBrace c = false := isBrace_eq_false.mpr ⟨hopen, hclose⟩
          simpa [hc] using hpending

/-- Splitting cuts up a text into all its tokens and the characters between them. -/
theorem divides_split (cs : List Char) : Divides (split cs) cs where
  written := written_split cs
  valid _ ht := isValid_of_mem_splitAfter (by simp) ht
  complete i t ht := by
    obtain ⟨hvalid, before, after, rfl, rfl⟩ := ht
    exact ⟨split before, split after, split_append_token hvalid before after,
      congrArg List.length (written_split before)⟩

end DialogueTree.Template
