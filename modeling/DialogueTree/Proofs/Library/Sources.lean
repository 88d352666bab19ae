import DialogueTree.Library.Sources
import DialogueTree.Proofs.Document.Edges
import DialogueTree.Proofs.Format.Node
import DialogueTree.Proofs.Json.RoundTrip
import DialogueTree.Proofs.Outcome
import DialogueTree.Proofs.Reader.Conversation
import Mathlib.Data.List.Nodup

/-!
# Libraries from texts

What a library has that has been put together from texts: no two of its trees have one name, and
all edges leave by slots and lead to positions of 64 bits, since they have been read as such. The
shared variables have no part in it.

Results:
* `Library.add_cases`: when a tree is added, and what is told if it is not.
* `Library.forall_documents`: what all documents have that have been read, those of a library from
  texts have.
* `Library.sound_of_ofSources`: distinct names and bounded edges, for every library from texts.
* `Library.ofSources_none`: the same texts without shared variables.
* `Library.IsSound.resolve_name`: a tree is found by its name.
-/

namespace DialogueTree

/-! ## Edges that have been read -/

theorem Json.index?_lt {j : Json} {n : Nat} (h : j.index? = some n) : n < indexLimit := by
  unfold index? at h
  split at h
  next m =>
    unfold Numeral.toIndex? at h
    split at h
    next i hi =>
      split at h
      next hlt =>
        cases h
        have hbound : (i.toNat : Int) < indexLimit := by omega
        exact_mod_cast hbound
      · cases h
    · cases h
  · cases h

theorem Json.exists_of_mapM {α β : Type} {f : α → Option β} {as : List α} {bs : List β}
    (h : as.mapM f = some bs) {b : β} (hb : b ∈ bs) : ∃ a, f a = some b := by
  induction as generalizing bs with
  | nil =>
    cases h
    cases hb
  | cons a as ih =>
    rw [List.mapM_cons] at h
    obtain ⟨b', hb', h⟩ := Option.bind_eq_some_iff.mp h
    obtain ⟨bs', hbs', h⟩ := Option.bind_eq_some_iff.mp h
    cases h
    rcases List.mem_cons.mp hb with rfl | hb
    · exact ⟨a, hb'⟩
    · exact ih hbs' hb

theorem Json.exists_of_list? {α : Type} {read : Json → Option α} {j : Json} {as : List α}
    (h : j.list? read = some as) {a : α} (ha : a ∈ as) : ∃ i, read i = some a := by
  unfold list? at h
  split at h
  · exact exists_of_mapM h ha
  · cases h

theorem Json.exists_of_defaulted {α : Type} {read : Json → Option (List α)} {field : Option Json}
    {as : List α} (h : defaulted [] read field = some as) {a : α} (ha : a ∈ as) :
    ∃ j, read j = some as := by
  unfold defaulted at h
  split at h
  · cases h
    cases ha
  next j => exact ⟨j, h⟩

theorem Link.isIndexed_of_ofJson? {j : Json} {link : Link} (h : ofJson? j = some link) :
    link.IsIndexed := by
  unfold ofJson? at h
  obtain ⟨fields, -, h⟩ := Option.bind_eq_some_iff.mp h
  split at h
  next node slot =>
    obtain ⟨n, hn, h⟩ := Option.bind_eq_some_iff.mp h
    obtain ⟨s, hs, h⟩ := Option.bind_eq_some_iff.mp h
    cases h
    obtain ⟨i, -, hi⟩ := Option.bind_eq_some_iff.mp hn
    obtain ⟨k, -, hk⟩ := Option.bind_eq_some_iff.mp hs
    exact ⟨Json.index?_lt hi, Json.index?_lt hk⟩
  · cases h

theorem Node.isIndexed_of_output {enclosing : Nat} {j : Json} {n : Node}
    (h : ofJson? enclosing j = some n) {link : Link} (hlink : link ∈ n.outputs) :
    link.IsIndexed := by
  unfold ofJson? at h
  split at h
  next members =>
    obtain ⟨_, -, h⟩ := Option.bind_eq_some_iff.mp h
    obtain ⟨_, -, h⟩ := Option.bind_eq_some_iff.mp h
    obtain ⟨_, -, h⟩ := Option.bind_eq_some_iff.mp h
    obtain ⟨_, -, h⟩ := Option.bind_eq_some_iff.mp h
    obtain ⟨_, -, h⟩ := Option.bind_eq_some_iff.mp h
    obtain ⟨_, -, h⟩ := Option.bind_eq_some_iff.mp h
    obtain ⟨_, -, h⟩ := Option.bind_eq_some_iff.mp h
    obtain ⟨_, -, h⟩ := Option.bind_eq_some_iff.mp h
    obtain ⟨_, -, h⟩ := Option.bind_eq_some_iff.mp h
    obtain ⟨outputs, houtputs, h⟩ := Option.bind_eq_some_iff.mp h
    cases h
    obtain ⟨js, hjs⟩ := Json.exists_of_defaulted houtputs hlink
    obtain ⟨i, hi⟩ := Json.exists_of_list? hjs hlink
    exact Link.isIndexed_of_ofJson? hi
  · cases h

namespace Document

/-- Whether all edges lead to positions of 64 bits. -/
def Bounded (d : Document) : Prop := ∀ source target, d.Leads source target → target < indexLimit

/-- Whether all edges leave by slots and lead to positions of 64 bits. -/
def HasIndexedExits (d : Document) : Prop := ∀ n ∈ d.nodes, ∀ link ∈ n.outputs, link.IsIndexed

theorem HasIndexedExits.bounded {d : Document} (h : d.HasIndexedExits) : d.Bounded := by
  rintro source target ⟨n, hn, link, hlink, rfl⟩
  exact (h n (List.mem_of_getElem? hn) link hlink).1

theorem hasIndexedExits_of_ofJson? {j : Json} {d : Document} (h : ofJson? j = some d) :
    d.HasIndexedExits := by
  intro n hn link hlink
  unfold ofJson? at h
  obtain ⟨fields, -, h⟩ := Option.bind_eq_some_iff.mp h
  split at h
  next name start declared nodes =>
    obtain ⟨_, -, h⟩ := Option.bind_eq_some_iff.mp h
    obtain ⟨_, -, h⟩ := Option.bind_eq_some_iff.mp h
    obtain ⟨_, -, h⟩ := Option.bind_eq_some_iff.mp h
    obtain ⟨ns, hns, h⟩ := Option.bind_eq_some_iff.mp h
    cases h
    obtain ⟨js, -, hlist⟩ := Option.bind_eq_some_iff.mp hns
    obtain ⟨i, hi⟩ := Json.exists_of_list? hlist hn
    exact Node.isIndexed_of_output hi hlink
  · cases h

theorem hasIndexedExits_of_parse {path text : String} {d : Document}
    (h : parse path text = .ok d) : d.HasIndexedExits := by
  unfold parse at h
  split at h
  next found hfound =>
    cases h
    obtain ⟨j, -, hj⟩ := Option.bind_eq_some_iff.mp hfound
    exact hasIndexedExits_of_ofJson? hj
  · cases h

/-- The text of a document is read as the document, if the JSON is. -/
theorem parse_pretty {d : Document} (h : ofJson? d.toJson = some d) (path : String) :
    parse path d.toJson.pretty = .ok d := by
  have hread : parse? d.toJson.pretty = some d := by
    unfold parse?
    rw [Json.parse?_pretty, Option.bind_eq_bind, Option.bind_some, h]
  unfold parse
  rw [hread]

end Document

/-! ## Libraries -/

namespace Library

variable {l l' : Library} {d : Document} {e : LibraryError}

/-- What a library from texts has. -/
structure IsSound (l : Library) : Prop where
  distinct : (l.documents.map (·.name)).Nodup
  bounded : ∀ d ∈ l.documents, d.Bounded

/-- A library with more trees as authored. -/
def extended (l : Library) (documents : List Document) : Library :=
  { l with trees := l.trees ++ documents.map .ofDocument }

theorem names_eq (l : Library) : l.names = l.documents.map (·.name) := by
  rw [names, documents, List.map_map]
  rfl

theorem documents_extended (l : Library) (more : List Document) :
    (l.extended more).documents = l.documents ++ more := by
  simp [documents, extended, Function.comp_def, Tree.ofDocument]

theorem names_extended (l : Library) (documents : List Document) :
    (l.extended documents).names = l.names ++ documents.map (·.name) := by
  rw [names_eq, names_eq, documents_extended, List.map_append]

theorem indexOf?_eq (l : Library) (name : String) : l.indexOf? name = l.names.idxOf? name := by
  rw [names, List.idxOf?, List.findIdx?_map]
  rfl

/-- A tree is added just if its name is new. -/
theorem add_cases (l : Library) (d : Document) :
    d.name ∈ l.names ∧ l.add d = .error (.treeDuplicate d.name) ∨
      d.name ∉ l.names ∧ l.add d = .ok (l.extended [d]) := by
  unfold add
  rw [indexOf?_eq]
  cases hi : l.names.idxOf? d.name with
  | none => exact .inr ⟨List.idxOf?_eq_none_iff.mp hi, rfl⟩
  | some i =>
    refine .inl ⟨?_, rfl⟩
    by_contra hname
    rw [List.idxOf?_eq_none_iff.mpr hname] at hi
    cases hi

theorem add_eq_ok : l.add d = .ok l' ↔ d.name ∉ l.names ∧ l.extended [d] = l' := by
  rcases l.add_cases d with ⟨hname, hadd⟩ | ⟨hname, hadd⟩
  · simp [hname, hadd]
  · simp [hname, hadd]

theorem add_eq_error : l.add d = .error e ↔ d.name ∈ l.names ∧ .treeDuplicate d.name = e := by
  rcases l.add_cases d with ⟨hname, hadd⟩ | ⟨hname, hadd⟩
  · simp [hname, hadd]
  · simp [hname, hadd]

theorem nodup_names_extended (h : l.names.Nodup) (hname : d.name ∉ l.names) :
    (l.extended [d]).names.Nodup := by
  rw [names_extended, List.map_singleton, ← List.concat_eq_append]
  exact h.concat hname

/-- Adding texts keeps what adding each of them keeps. -/
theorem addSources_induction {P : Library → Prop} {entries : List (String × String)} (h : P l)
    (hadd : l.addSources entries = .ok l')
    (hstep : ∀ (l l' : Library) (path text : String) (d : Document),
      P l → Document.parse path text = .ok d → l.add d = .ok l' → P l') : P l' := by
  induction entries generalizing l with
  | nil =>
    cases hadd
    exact h
  | cons entry rest ih =>
    obtain ⟨path, text⟩ := entry
    rw [Library.addSources] at hadd
    obtain ⟨d, hd, hadd⟩ := Outcome.bind_eq_ok.mp hadd
    obtain ⟨l₁, hl₁, hadd⟩ := Outcome.bind_eq_ok.mp hadd
    exact ih (hstep l l₁ path text d h hd hl₁) hadd

theorem ofSources_eq_ok {s : Sources} {globals : Option String}
    (h : ofSources s globals = .ok l) :
    ∃ store, Library.addSources { globals := store } s.entries = .ok l := by
  unfold ofSources at h
  cases globals with
  | none => exact ⟨{}, h⟩
  | some text =>
    obtain ⟨store, -, h⟩ := Outcome.bind_eq_ok.mp h
    exact ⟨store, h⟩

/-- What all documents have that have been read, those of a library from texts have. -/
theorem forall_documents {P : Document → Prop} {s : Sources} {globals : Option String}
    (h : ofSources s globals = .ok l)
    (hparse : ∀ path text d, Document.parse path text = .ok d → P d) : ∀ d ∈ l.documents, P d := by
  obtain ⟨store, h⟩ := ofSources_eq_ok h
  refine addSources_induction (P := fun l => ∀ d ∈ l.documents, P d) (fun d hd => by cases hd) h ?_
  intro l l' path text d hl hd hadd d' hd'
  obtain ⟨-, rfl⟩ := add_eq_ok.mp hadd
  rw [documents_extended] at hd'
  rcases List.mem_append.mp hd' with hd' | hd'
  · exact hl d' hd'
  · rw [List.mem_singleton.mp hd']
    exact hparse path text d hd

theorem sound_of_ofSources {s : Sources} {globals : Option String}
    (h : ofSources s globals = .ok l) : l.IsSound where
  distinct := by
    obtain ⟨store, h⟩ := ofSources_eq_ok h
    rw [← names_eq]
    refine addSources_induction (P := fun l => l.names.Nodup) (l := { globals := store })
      List.nodup_nil h ?_
    intro l l' path text d hl _ hadd
    obtain ⟨hname, rfl⟩ := add_eq_ok.mp hadd
    exact nodup_names_extended hl hname
  bounded := forall_documents h fun _ _ _ hd => (Document.hasIndexedExits_of_parse hd).bounded

/-- The library of one text. -/
theorem ofSources_insert {path text : String} (h : Document.parse path text = .ok d) :
    ofSources (.insert {} path text) none = .ok ⟨[.ofDocument d], {}⟩ := by
  change addSources {} [(path, text)] = _
  rw [addSources, h, Outcome.bind_ok]
  rfl

/-! ## Shared variables -/

/-- The library with other shared variables. -/
def withGlobals (l : Library) (store : Store) : Library := { l with globals := store }

theorem add_withGlobals (l : Library) (store : Store) (d : Document) :
    (l.withGlobals store).add d = (l.add d).map (·.withGlobals store) := by
  have hindex : (l.withGlobals store).indexOf? d.name = l.indexOf? d.name := rfl
  unfold add
  rw [hindex]
  cases l.indexOf? d.name <;> rfl

theorem addSources_withGlobals (l : Library) (store : Store) (entries : List (String × String)) :
    (l.withGlobals store).addSources entries =
      (l.addSources entries).map (·.withGlobals store) := by
  induction entries generalizing l with
  | nil => rfl
  | cons entry rest ih =>
    obtain ⟨path, text⟩ := entry
    rw [addSources, addSources]
    cases Document.parse path text with
    | error e => rfl
    | ok d =>
      rw [Outcome.bind_ok, Outcome.bind_ok, add_withGlobals]
      cases l.add d with
      | error e => rfl
      | ok l₁ => exact ih l₁

/-- The same texts without shared variables make up a library of the same trees. -/
theorem ofSources_none {s : Sources} {globals : Option String} (h : ofSources s globals = .ok l) :
    ofSources s none = .ok (l.withGlobals {}) := by
  obtain ⟨store, h⟩ := ofSources_eq_ok h
  have hsame := addSources_withGlobals { globals := store } {} s.entries
  rw [h] at hsame
  exact hsame

/-! ## Trees by name -/

/-- Where names are distinct, each is the name of one position. -/
theorem indexOf?_of_nodup (h : l.names.Nodup) {i : Nat} {name : String}
    (hi : l.names[i]? = some name) : l.indexOf? name = some i := by
  obtain ⟨hlt, hname⟩ := List.getElem?_eq_some_iff.mp hi
  rw [indexOf?_eq, List.idxOf?_eq_some_iff]
  refine ⟨hlt, hname, fun j hj hsame => ?_⟩
  have heq := (List.getElem_inj h).mp (hsame.trans hname.symm)
  omega

/-- A tree is found by its name. -/
theorem IsSound.resolve_name (h : l.IsSound) {i : Nat} (hi : l.documents[i]? = some d) :
    l.resolve (some d.name) = .ok i := by
  have hnames : l.names.Nodup := by
    rw [names_eq]
    exact h.distinct
  have hname : l.names[i]? = some d.name := by
    rw [names_eq, List.getElem?_map, hi]
    rfl
  rw [resolve, indexOf?_of_nodup hnames hname]

end Library

end DialogueTree
