import DialogueTree.Proofs.InPlace
import DialogueTree.Proofs.Library.Sources
import DialogueTree.Proofs.Store.Register
import DialogueTree.Proofs.Text.ByteOrder
import Mathlib.Data.List.Forall2
import Mathlib.Data.List.Induction

/-!
# Which texts make up a library

Texts come by path, and are taken in the order of the bytes of their paths. They make up a library
if the shared variables can be read and have names that differ in more than case, and the trees can
be read and have names that differ at all. Both are checked name by name as the library grows; what
is told of texts that do not is what is wrong with the first one of them, and with the shared
variables before any tree.

Results:
* `Sources.pairwise_ofList`, `Sources.lookup_ofList`: texts by path.
* `Store.shared_eq_ok`, `Store.shared_eq_error`: the shared variables.
* `Library.addSources_eq_ok`, `Library.addSources_eq_error`: the trees.
* `Library.exec_adding`: one more tree in place.
* `Library.ofSources_exact`: all of a library.
-/

namespace DialogueTree

open Outcome

/-! ## Texts by path -/

namespace Sources

variable {path text : String} {entries : List (String × String)} {e : String × String}

theorem mem_insertInto (h : e ∈ insertInto path text entries) : e = (path, text) ∨ e ∈ entries := by
  induction entries with
  | nil => exact .inl (List.mem_singleton.mp h)
  | cons entry rest ih =>
    obtain ⟨p, t⟩ := entry
    unfold insertInto at h
    split_ifs at h with hsame hlt
    · rcases List.mem_cons.mp h with h | h
      · exact .inl h
      · exact .inr (List.mem_cons_of_mem _ h)
    · exact List.mem_cons.mp h
    · rcases List.mem_cons.mp h with h | h
      · exact .inr (h ▸ List.mem_cons_self)
      · exact (ih h).imp_right (List.mem_cons_of_mem _)

theorem pairwise_insertInto (h : entries.Pairwise fun a b => a.1 < b.1) :
    (insertInto path text entries).Pairwise fun a b => a.1 < b.1 := by
  induction entries with
  | nil => exact List.pairwise_singleton ..
  | cons entry rest ih =>
    obtain ⟨p, t⟩ := entry
    obtain ⟨hp, hrest⟩ := List.pairwise_cons.mp h
    unfold insertInto
    split_ifs with hsame hlt
    · subst hsame
      exact List.pairwise_cons.mpr ⟨hp, hrest⟩
    · refine List.pairwise_cons.mpr ⟨fun e he => ?_, h⟩
      rcases List.mem_cons.mp he with rfl | he
      · exact hlt
      · exact String.lt_trans hlt (hp e he)
    · refine List.pairwise_cons.mpr ⟨fun e he => ?_, ih hrest⟩
      rcases mem_insertInto he with rfl | he
      · by_contra hnot
        exact hsame (String.le_antisymm (String.not_lt.mp hnot) (String.not_lt.mp hlt))
      · exact hp e he

theorem lookup_cons_eq_ite (p : String) :
    (e :: entries).lookup p = if p = e.1 then some e.2 else entries.lookup p := by
  obtain ⟨q, t⟩ := e
  by_cases h : p = q
  · simp [h]
  · rw [List.lookup_cons, beq_false_of_ne h, if_neg h]

theorem lookup_insertInto (p : String) :
    (insertInto path text entries).lookup p =
      if p = path then some text else entries.lookup p := by
  induction entries with
  | nil => exact lookup_cons_eq_ite p
  | cons entry rest ih =>
    obtain ⟨q, t⟩ := entry
    unfold insertInto
    by_cases hsame : path = q
    · rw [if_pos hsame, lookup_cons_eq_ite, lookup_cons_eq_ite, ← hsame]
      split_ifs <;> rfl
    · rw [if_neg hsame]
      by_cases hlt : path < q
      · rw [if_pos hlt, lookup_cons_eq_ite]
      · rw [if_neg hlt, lookup_cons_eq_ite, lookup_cons_eq_ite, ih]
        by_cases hp : p = q
        · rw [if_pos hp, if_pos hp, if_neg (hp ▸ Ne.symm hsame)]
        · rw [if_neg hp, if_neg hp]

theorem ofList_snoc (given : List (String × String)) (e : String × String) :
    ofList (given ++ [e]) = (ofList given).insert e.1 e.2 :=
  List.foldl_concat ..

/-- Each path comes once, in the order of the bytes. -/
theorem pairwise_ofList (given : List (String × String)) :
    (ofList given).entries.Pairwise fun a b => Text.bytes a.1 < Text.bytes b.1 := by
  have hpaths : (ofList given).entries.Pairwise fun a b => a.1 < b.1 := by
    induction given using List.reverseRecOn with
    | nil => exact .nil
    | append_singleton given e ih =>
      rw [ofList_snoc]
      exact pairwise_insertInto ih
  exact hpaths.imp Text.bytes_lt_bytes.mpr

/-- Under each path comes the text that was given last under it. -/
theorem lookup_ofList (given : List (String × String)) (path : String) :
    (ofList given).entries.lookup path = given.reverse.lookup path := by
  induction given using List.reverseRecOn with
  | nil => rfl
  | append_singleton given e ih =>
    rw [ofList_snoc, insert, lookup_insertInto, List.reverse_concat, lookup_cons_eq_ite, ih]

end Sources

/-! ## Shared variables -/

namespace Store

variable {s s' : Store} {v : Variable} {vs : List Variable} {e : LibraryError}
  {globals : Option String}

/-- The variables that a text lists. Without a text there are none. -/
def listed? : Option String → Option (List Variable)
  | none => some []
  | some text => ((Json.parse? text).bind ofJson?).map (·.toList)

/-- The shared variables that a text gives. Without a text there are none. -/
def shared : Option String → Except LibraryError Store
  | none => .ok {}
  | some text => parseGlobals text

/-- Adds a variable whose name must be free. -/
def declare (s : Store) (v : Variable) : Except LibraryError Store :=
  match s.insert? v with
  | some next => .ok next
  | none => .error (.globalDuplicate v.name)

/-- What is wrong with the text of shared variables: it does not list variables, or it lists a
variable whose name is that of an earlier one but for case. -/
inductive SharedFault (globals : Option String) : LibraryError → Prop
  | unreadable (h : listed? globals = none) : SharedFault globals .globalsUnreadable
  | repeated (before : List Variable) (v : Variable) (rest : List Variable)
      (hlisted : listed? globals = some (before ++ v :: rest)) (hbefore : Distinct ⟨before⟩)
      (hv : v.key ∈ before.map (·.key)) : SharedFault globals (.globalDuplicate v.name)

theorem insert?_cases (s : Store) (v : Variable) :
    v.key ∈ s.keys ∧ s.insert? v = none ∨
      v.key ∉ s.keys ∧ s.insert? v = some ⟨s.toList ++ [v]⟩ := by
  unfold insert?
  cases hi : s.indexOf? v.name with
  | none => exact .inr ⟨indexOf?_eq_none.mp hi, rfl⟩
  | some i =>
    refine .inl ⟨?_, rfl⟩
    by_contra hkey
    rw [indexOf?_eq_none.mpr hkey] at hi
    cases hi

theorem declare_eq_error :
    s.declare v = .error e ↔ v.key ∈ s.keys ∧ .globalDuplicate v.name = e := by
  unfold declare
  rcases s.insert?_cases v with ⟨hkey, hinsert⟩ | ⟨hkey, hinsert⟩
  · simp [hkey, hinsert]
  · simp [hkey, hinsert]

theorem insertAll_eq_foldlM (s : Store) (vs : List Variable) :
    s.insertAll vs = vs.foldlM declare s := by
  induction vs generalizing s with
  | nil => rfl
  | cons v vs ih =>
    rw [insertAll, List.foldlM_cons, declare]
    cases s.insert? v with
    | none => rfl
    | some next => exact ih next

theorem Distinct.of_append (h : Distinct ⟨s.toList ++ vs⟩) : s.Distinct := by
  unfold Distinct keys at *
  rw [List.map_append] at h
  exact (List.nodup_append.mp h).1

theorem distinct_concat :
    Distinct ⟨s.toList ++ [v]⟩ ↔ s.Distinct ∧ v.key ∉ s.keys := by
  unfold Distinct
  rw [keys, List.map_append, List.map_singleton, ← List.concat_eq_append, List.nodup_concat,
    and_comm]
  rfl

/-- Variables can be added just if no key comes twice. -/
theorem insertAll_eq_ok (h : s.Distinct) :
    s.insertAll vs = .ok s' ↔ Distinct ⟨s.toList ++ vs⟩ ∧ ⟨s.toList ++ vs⟩ = s' := by
  induction vs generalizing s with
  | nil => simp [insertAll, h]
  | cons v vs ih =>
    have hassoc : s.toList ++ v :: vs = s.toList ++ [v] ++ vs := List.append_cons ..
    rw [insertAll, hassoc]
    rcases s.insert?_cases v with ⟨hkey, hinsert⟩ | ⟨hkey, hinsert⟩
    · rw [hinsert]
      refine ⟨nofun, fun hall => ?_⟩
      exact absurd hkey (distinct_concat.mp (Distinct.of_append (s := ⟨s.toList ++ [v]⟩) hall.1)).2
    · rw [hinsert]
      exact ih (distinct_concat.mpr ⟨h, hkey⟩)

theorem distinct_empty : Distinct {} := List.nodup_nil

theorem shared_eq (globals : Option String) :
    shared globals = match listed? globals with
      | some vs => insertAll {} vs
      | none => .error .globalsUnreadable := by
  cases globals with
  | none => rfl
  | some text =>
    rw [shared, parseGlobals, listed?]
    cases (Json.parse? text).bind ofJson? <;> rfl

/-- The shared variables are those that are listed, just if no key comes twice. -/
theorem shared_eq_ok :
    shared globals = .ok s ↔ listed? globals = some s.toList ∧ s.Distinct := by
  rw [shared_eq]
  cases listed? globals with
  | none => simp
  | some vs =>
    refine (insertAll_eq_ok distinct_empty).trans ⟨?_, ?_⟩
    · rintro ⟨hdistinct, rfl⟩
      exact ⟨rfl, hdistinct⟩
    · rintro ⟨hvs, hdistinct⟩
      cases hvs
      exact ⟨hdistinct, rfl⟩

/-- The first variable whose key is that of an earlier one is told. -/
theorem insertAll_eq_error :
    insertAll {} vs = .error e ↔ ∃ before v rest, vs = before ++ v :: rest ∧
      Distinct ⟨before⟩ ∧ v.key ∈ before.map (·.key) ∧ .globalDuplicate v.name = e := by
  rw [insertAll_eq_foldlM, foldlM_eq_error]
  constructor
  · rintro ⟨before, v, rest, s, rfl, hbefore, hv⟩
    rw [← insertAll_eq_foldlM, insertAll_eq_ok distinct_empty] at hbefore
    obtain ⟨hdistinct, rfl⟩ := hbefore
    obtain ⟨hkey, rfl⟩ := declare_eq_error.mp hv
    exact ⟨before, v, rest, rfl, hdistinct, hkey, rfl⟩
  · rintro ⟨before, v, rest, rfl, hdistinct, hkey, rfl⟩
    refine ⟨before, v, rest, ⟨before⟩, rfl, ?_, declare_eq_error.mpr ⟨hkey, rfl⟩⟩
    rw [← insertAll_eq_foldlM, insertAll_eq_ok distinct_empty]
    exact ⟨hdistinct, rfl⟩

theorem shared_eq_error : shared globals = .error e ↔ SharedFault globals e := by
  rw [shared_eq]
  constructor
  · intro h
    cases hlisted : listed? globals with
    | none =>
      rw [hlisted] at h
      cases h
      exact .unreadable hlisted
    | some vs =>
      rw [hlisted] at h
      obtain ⟨before, v, rest, rfl, hbefore, hv, rfl⟩ := insertAll_eq_error.mp h
      exact .repeated before v rest hlisted hbefore hv
  · rintro (hlisted | ⟨before, v, rest, hlisted, hbefore, hv⟩)
    · rw [hlisted]
    · rw [hlisted]
      exact insertAll_eq_error.mpr ⟨before, v, rest, rfl, hbefore, hv, rfl⟩

end Store

/-! ## Trees -/

namespace Document

variable {path text : String} {d : Document} {e : LibraryError}

theorem parse_eq_ok : parse path text = .ok d ↔ parse? text = some d := by
  unfold parse
  cases parse? text <;> simp

theorem parse_eq_error :
    parse path text = .error e ↔ parse? text = none ∧ .treeUnreadable path = e := by
  unfold parse
  cases parse? text <;> simp

end Document

namespace Library

variable {l l' : Library} {d : Document} {documents : List Document}
  {entries : List (String × String)} {e : LibraryError} {globals : Option String}

/-- Whether texts are read as documents, one by one. -/
def Reads (entries : List (String × String)) (documents : List Document) : Prop :=
  List.Forall₂ (fun entry d => Document.parse? entry.2 = some d) entries documents

/-- Adds the tree of a text. -/
def addSource (l : Library) (entry : String × String) : Except LibraryError Library := do
  l.add (← Document.parse entry.1 entry.2)

/-- What is wrong with a text after some others: it is not that of a tree, or the tree has the name
of an earlier one. -/
inductive SourceFault (documents : List Document) (path text : String) : LibraryError → Prop
  | unreadable (h : Document.parse? text = none) :
      SourceFault documents path text (.treeUnreadable path)
  | repeated (d : Document) (h : Document.parse? text = some d)
      (hname : d.name ∈ documents.map (·.name)) :
      SourceFault documents path text (.treeDuplicate d.name)

/-- Whether an error tells what is wrong with the first text that cannot be added. -/
def FirstFault (entries : List (String × String)) (e : LibraryError) : Prop :=
  ∃ before path text rest documents, entries = before ++ (path, text) :: rest ∧
    Reads before documents ∧ (documents.map (·.name)).Nodup ∧ SourceFault documents path text e

theorem extended_extended (l : Library) (documents more : List Document) :
    (l.extended documents).extended more = l.extended (documents ++ more) := by
  simp [extended]

theorem addSources_eq_foldlM (l : Library) (entries : List (String × String)) :
    l.addSources entries = entries.foldlM addSource l := by
  induction entries generalizing l with
  | nil => rfl
  | cons entry rest ih =>
    obtain ⟨path, text⟩ := entry
    rw [addSources, List.foldlM_cons, addSource, bind_assoc]
    simp only [ih]

theorem not_nodup_append_cons {names rest : List String} {name : String} (h : name ∈ names) :
    ¬(names ++ name :: rest).Nodup := by
  rw [List.nodup_middle, List.nodup_cons]
  exact fun hall => hall.1 (List.mem_append_left _ h)

/-- Texts can be added just if all of them are read and no name comes twice. -/
theorem addSources_eq_ok (h : l.names.Nodup) :
    l.addSources entries = .ok l' ↔ ∃ documents, Reads entries documents ∧
      (l.names ++ documents.map (·.name)).Nodup ∧ l.extended documents = l' := by
  -- The library is free in the induction: each tree that is added takes one more name.
  induction entries generalizing l with
  | nil =>
    constructor
    · intro hl
      cases hl
      exact ⟨[], .nil, by simpa using h, by simp [extended]⟩
    · rintro ⟨documents, hreads, -, rfl⟩
      cases hreads
      simp [addSources, extended]
  | cons entry rest ih =>
    obtain ⟨path, text⟩ := entry
    have hcons (d : Document) (documents : List Document) :
        l.names ++ (d :: documents).map (·.name) =
          (l.extended [d]).names ++ documents.map (·.name) := by
      rw [names_extended, List.append_assoc]
      rfl
    rw [addSources, bind_eq_ok]
    constructor
    · rintro ⟨d, hd, hl⟩
      obtain ⟨l₁, hadd, hl⟩ := bind_eq_ok.mp hl
      obtain ⟨hname, rfl⟩ := add_eq_ok.mp hadd
      obtain ⟨documents, hreads, hnames, rfl⟩ := (ih (nodup_names_extended h hname)).mp hl
      refine ⟨d :: documents, .cons (Document.parse_eq_ok.mp hd) hreads, ?_, ?_⟩
      · rwa [hcons]
      · rw [extended_extended]
        rfl
    · rintro ⟨documents, hreads, hnames, rfl⟩
      obtain ⟨d, documents, hd, hrest, rfl⟩ := List.forall₂_cons_left_iff.mp hreads
      have hname : d.name ∉ l.names := fun hmem => not_nodup_append_cons hmem hnames
      refine ⟨d, Document.parse_eq_ok.mpr hd,
        bind_eq_ok.mpr ⟨_, add_eq_ok.mpr ⟨hname, rfl⟩, ?_⟩⟩
      rw [ih (nodup_names_extended h hname)]
      exact ⟨documents, hrest, hcons d documents ▸ hnames, extended_extended ..⟩

theorem addSource_eq_error {path text : String} (h : l.names = documents.map (·.name)) :
    l.addSource (path, text) = .error e ↔ SourceFault documents path text e := by
  rw [addSource, bind_eq_error, Document.parse_eq_error]
  constructor
  · rintro (⟨hnone, rfl⟩ | ⟨d, hd, hadd⟩)
    · exact .unreadable hnone
    · obtain ⟨hname, rfl⟩ := add_eq_error.mp hadd
      exact .repeated d (Document.parse_eq_ok.mp hd) (h ▸ hname)
  · rintro (hnone | ⟨d, hd, hname⟩)
    · exact .inl ⟨hnone, rfl⟩
    · exact .inr ⟨d, Document.parse_eq_ok.mpr hd, add_eq_error.mpr ⟨h ▸ hname, rfl⟩⟩

/-- The first text that cannot be added to a library without trees is told. -/
theorem addSources_eq_error (h : l.names = []) :
    l.addSources entries = .error e ↔ FirstFault entries e := by
  have hnames (documents : List Document) :
      (l.extended documents).names = documents.map (·.name) := by
    rw [names_extended, h, List.nil_append]
  have hok (before : List (String × String)) (l' : Library) :
      before.foldlM addSource l = .ok l' ↔ ∃ documents, Reads before documents ∧
        (documents.map (·.name)).Nodup ∧ l.extended documents = l' := by
    rw [← addSources_eq_foldlM, addSources_eq_ok (h ▸ List.nodup_nil), h]
    rfl
  rw [addSources_eq_foldlM, foldlM_eq_error]
  constructor
  · rintro ⟨before, ⟨path, text⟩, rest, l', rfl, hbefore, he⟩
    obtain ⟨documents, hreads, hnodup, rfl⟩ := (hok before l').mp hbefore
    exact ⟨before, path, text, rest, documents, rfl, hreads, hnodup,
      (addSource_eq_error (hnames documents)).mp he⟩
  · rintro ⟨before, path, text, rest, documents, rfl, hreads, hnodup, he⟩
    exact ⟨before, (path, text), rest, l.extended documents, rfl,
      (hok before _).mpr ⟨documents, hreads, hnodup, rfl⟩,
      (addSource_eq_error (hnames documents)).mpr he⟩

/-! ## Libraries -/

theorem ofSources_eq (s : Sources) (globals : Option String) :
    ofSources s globals = Store.shared globals >>= fun store =>
      addSources { globals := store } s.entries := by
  cases globals <;> rfl

/-- When texts make up a library, and which one. -/
theorem ofSources_eq_ok_iff {s : Sources} :
    ofSources s globals = .ok l ↔ ∃ listed documents,
      Store.listed? globals = some listed ∧ (listed.map (·.key)).Nodup ∧
      Reads s.entries documents ∧ (documents.map (·.name)).Nodup ∧
      l = { trees := documents.map .ofDocument, globals := ⟨listed⟩ } := by
  rw [ofSources_eq, bind_eq_ok]
  constructor
  · rintro ⟨store, hstore, hl⟩
    obtain ⟨hlisted, hdistinct⟩ := Store.shared_eq_ok.mp hstore
    obtain ⟨documents, hreads, hnames, rfl⟩ :=
      (addSources_eq_ok (l := { globals := store }) List.nodup_nil).mp hl
    exact ⟨store.toList, documents, hlisted, hdistinct, hreads, hnames, rfl⟩
  · rintro ⟨listed, documents, hlisted, hdistinct, hreads, hnames, rfl⟩
    exact ⟨⟨listed⟩, Store.shared_eq_ok.mpr ⟨hlisted, hdistinct⟩,
      (addSources_eq_ok (l := { globals := ⟨listed⟩ }) List.nodup_nil).mpr
        ⟨documents, hreads, hnames, rfl⟩⟩

/-- What is told of texts that do not make up a library. -/
theorem ofSources_eq_error_iff {s : Sources} :
    ofSources s globals = .error e ↔ Store.SharedFault globals e ∨
      (∃ listed, Store.listed? globals = some listed ∧ (listed.map (·.key)).Nodup) ∧
        FirstFault s.entries e := by
  rw [ofSources_eq, bind_eq_error, Store.shared_eq_error]
  refine or_congr_right ⟨?_, ?_⟩
  · rintro ⟨store, hstore, he⟩
    obtain ⟨hlisted, hdistinct⟩ := Store.shared_eq_ok.mp hstore
    exact ⟨⟨store.toList, hlisted, hdistinct⟩, (addSources_eq_error rfl).mp he⟩
  · rintro ⟨⟨listed, hlisted, hdistinct⟩, he⟩
    exact ⟨⟨listed⟩, Store.shared_eq_ok.mpr ⟨hlisted, hdistinct⟩, (addSources_eq_error rfl).mpr he⟩

/-! ## Later trees -/

/-- Adds a tree in place. -/
def adding (d : Document) : InPlace Library LibraryError Unit := do
  let l ← get
  InPlace.refuseIf (l.indexOf? d.name).isSome (.treeDuplicate d.name)
  modify (·.extended [d])

/-- A library after more trees have been added in place, where they could. -/
def afterAdding (l : Library) (documents : List Document) : Library :=
  documents.foldl (fun l d => ((adding d).exec l).2) l

theorem exec_adding (l : Library) (d : Document) :
    (adding d).exec l = InPlace.whole l (l.add d) := by
  unfold adding
  simp only [InPlace.exec_bind, InPlace.exec_get, InPlace.exec_refuseIf, InPlace.exec_modify]
  unfold add
  cases l.indexOf? d.name <;> rfl

/-- What more trees leave as it was, and what they keep. -/
theorem afterAdding_keeps (h : l.names.Nodup) (more : List Document) :
    l.trees <+: (l.afterAdding more).trees ∧ (l.afterAdding more).globals = l.globals ∧
      (l.afterAdding more).names.Nodup := by
  induction more generalizing l with
  | nil => exact ⟨List.prefix_refl _, rfl, h⟩
  | cons d more ih =>
    have hnext : (l.afterAdding (d :: more)) = ((adding d).exec l).2.afterAdding more := rfl
    rw [hnext, exec_adding]
    rcases l.add_cases d with ⟨-, hadd⟩ | ⟨hname, hadd⟩
    · rw [hadd]
      exact ih h
    · rw [hadd]
      obtain ⟨htrees, hglobals, hnames⟩ := ih (nodup_names_extended h hname)
      exact ⟨(List.prefix_append ..).trans htrees, hglobals, hnames⟩

/-- Texts make up a library just if the shared variables are listed by names that differ in more
than case, all trees are read, and their names differ. The library has the trees in the order of
the bytes of their paths, and the shared variables as they are listed. Otherwise the error tells
what is wrong with the shared variables, or else with the first text that cannot be added. As more
trees are added in place the names stay distinct, each tree is found at its position by its name,
and what cannot be added leaves the library as it was. -/
theorem ofSources_exact (given : List (String × String)) (globals : Option String) :
    let s := Sources.ofList given
    (s.entries.Pairwise fun a b => Text.bytes a.1 < Text.bytes b.1) ∧
    (∀ path, s.entries.lookup path = given.reverse.lookup path) ∧
    (∀ l, ofSources s globals = .ok l ↔ ∃ listed documents,
      Store.listed? globals = some listed ∧ (listed.map (·.key)).Nodup ∧
      Reads s.entries documents ∧ (documents.map (·.name)).Nodup ∧
      l = { trees := documents.map .ofDocument, globals := ⟨listed⟩ }) ∧
    (∀ e, ofSources s globals = .error e ↔ Store.SharedFault globals e ∨
      (∃ listed, Store.listed? globals = some listed ∧ (listed.map (·.key)).Nodup) ∧
        FirstFault s.entries e) ∧
    ∀ l, ofSources s globals = .ok l → ∀ more,
      let l' := l.afterAdding more
      l.trees <+: l'.trees ∧ l'.globals = l.globals ∧ l'.names.Nodup ∧
      (∀ i t, l'.tree? i = some t →
        l'.indexOf? t.name = some i ∧ l'.resolve (some t.name) = .ok i) ∧
      ∀ d, (d.name ∉ l'.names ∧ (adding d).exec l' = (.ok (), l'.extended [d])) ∨
        (d.name ∈ l'.names ∧ (adding d).exec l' = (.error (.treeDuplicate d.name), l')) := by
  refine ⟨Sources.pairwise_ofList given, Sources.lookup_ofList given, fun l => ofSources_eq_ok_iff,
    fun e => ofSources_eq_error_iff, fun l hl more => ?_⟩
  have hnames : l.names.Nodup := by
    rw [names_eq]
    exact (sound_of_ofSources hl).distinct
  obtain ⟨htrees, hglobals, hnames⟩ := afterAdding_keeps hnames more
  refine ⟨htrees, hglobals, hnames, fun i t ht => ?_, fun d => ?_⟩
  · have hindex : (l.afterAdding more).indexOf? t.name = some i := by
      refine indexOf?_of_nodup hnames ?_
      rw [names, List.getElem?_map]
      exact congrArg (Option.map Tree.name) ht
    exact ⟨hindex, by rw [resolve, hindex]⟩
  · rw [exec_adding]
    rcases (l.afterAdding more).add_cases d with ⟨hname, hadd⟩ | ⟨hname, hadd⟩
    · exact .inr ⟨hname, by rw [hadd]; rfl⟩
    · exact .inl ⟨hname, by rw [hadd]; rfl⟩

end Library

end DialogueTree
